import BasWar.Cooperative.Locks
import BasWar.Cooperative.Pool
import Mathlib.Data.List.Pairwise

/-!
# Locks of grids and locks of unions

The star map serves one request of a grid at a time, and the union service one request of a union.
Placing and storing NFTs asks the union while the grid is locked; giving NFTs back to a member asks
the star map while the union is locked, and so does the end of a union, for which the star map asks
the same union again.
-/

namespace BasWar.Unions.GridLocks

open Cooperative Locking

/-- `"Grid:" .. cfgId` and `"union_" .. unionId`. -/
inductive Lock
  | grid (cfgId : ℕ)
  | union (unionId : ℕ)
  deriving DecidableEq

/-- The operations of the union service with the lock of the union. -/
inductive UnionOp
  | modifyUnionInfo | updateMemberInfo | joinUnion | joinUnionAnswer | unionClearAllApply
  | inviteJoinUnion | answerUnionInvite | editUnionJob | tickOutUnion | quitUnion | donate
  | donateNft | updateNft | takeBackNft | trainSolider | gmGenSolider | gmClearNFTRef | levelUpTech
  | genDefenseBuild | startEditUnionArmys | starMapTakeNft | starMapBackNfts
  | starMapTakeDefenseBuild | reduceDefenseBuildCount | transferBeginGrid | donateDaoItem
  | starMapUseNftListToGrid | starMapNotUseNftListToGrid
  deriving DecidableEq

/-- The operations of the star map with the lock of the grid. -/
inductive GridOp
  | scoutGrid | putBuildOnGrid | addDefenseBuildOnGrid | putBuildListOnGrid | moveBuildOnGrid
  | delBuildOnGrid | storeBuildOnGrid | startBattle | endBattle | giveUpMyGrid | giftWithMyGrid

/-- The calls to the union that take its lock; all others take none. -/
def GridOp.unionCalls : GridOp → List UnionOp
  | .putBuildOnGrid => [.starMapTakeNft]
  | .putBuildListOnGrid => [.starMapUseNftListToGrid, .starMapNotUseNftListToGrid]
  | .storeBuildOnGrid | .giveUpMyGrid => [.starMapBackNfts]
  | .scoutGrid | .addDefenseBuildOnGrid | .moveBuildOnGrid | .delBuildOnGrid | .startBattle
  | .endBattle | .giftWithMyGrid => []

/-- `doReturnNfts` is part of the operation. -/
def UnionOp.returnsNfts : UnionOp → Bool
  | .tickOutUnion | .quitUnion | .takeBackNft => true
  | _ => false

inductive Request
  /-- The handler gets as far as a call to each of these unions, which own the grid by then. -/
  | grid (op : GridOp) (cfgId : ℕ) (unions : List ℕ)
  /-- The NFTs lie on the grids of `storeList`; `ownerGrids` belong to a union that ends. -/
  | union (op : UnionOp) (unionId : ℕ) (storeList ownerGrids : List ℕ)
  /-- Handlers of the star map without the lock of a grid, such as `matchSeasonEndHandle` and
  `onCampaignEnd`, that ask these unions in turn. -/
  | starmap (unions : List ℕ)

namespace Request

def outer : Request → Option Lock
  | .grid _ cfgId _ => some (.grid cfgId)
  | .union _ unionId _ _ => some (.union unionId)
  | .starmap _ => none

/-- The grids whose lock `storeUnionNftsOnGrid` takes, one after the other. -/
def stores : Request → List ℕ
  | .union op _ storeList _ => if op.returnsNfts then storeList else []
  | .grid _ _ _ | .starmap _ => []

/-- The grids for which `dissolveUnionHandle` calls `starMapBackNfts`. -/
def dissolves : Request → List ℕ
  | .union op _ _ ownerGrids => if op = .quitUnion then ownerGrids else []
  | .grid _ _ _ | .starmap _ => []

/-- The locks that are taken by calls to the other service, one after the other. -/
def inner (request : Request) : List Lock :=
  match request with
  | .grid op _ unions => (unions.take op.unionCalls.length).map .union
  | .union _ unionId _ _ =>
      request.stores.map .grid ++ request.dissolves.map fun _ => .union unionId
  | .starmap unions => unions.map .union

def script (request : Request) : List (Action Lock) :=
  let calls := request.inner.flatMap (within · [])
  match request.outer with
  | some lock => within lock calls
  | none => calls

/-- A grid whose lock is held while its union is asked. -/
def callsFrom : Request → Option ℕ
  | .grid op cfgId unions => if unions.take op.unionCalls.length = [] then none else some cfgId
  | .union _ _ _ _ | .starmap _ => none

theorem closed_calls (locks : List Lock) : Closed (locks.flatMap (within · [])) :=
  .flatMap (fun lock => Closed.within .nil lock) locks

theorem balanced_script (request : Request) : Balanced 0 request.script := by
  unfold script
  dsimp only
  split
  · exact ((closed_calls request.inner).within _).balanced
  · exact (closed_calls request.inner).balanced

theorem mem_demands {request : Request} {held : List Lock} {lock : Lock}
    (mem : (held, lock) ∈ demands [] request.script) :
    held = [] ∨ ∃ first, request.outer = some first ∧ held = [first] ∧ lock ∈ request.inner := by
  unfold script at mem
  dsimp only at mem
  split at mem
  · rename_i first outer_eq
    have demands_eq : demands [] (within first (request.inner.flatMap (within · []))) =
        ([], first) :: request.inner.map ([first], ·) := by
      simpa [within, demands] using demands_flatMap [first] request.inner [.leave]
    rw [demands_eq] at mem
    rcases List.mem_cons.mp mem with here | later
    · exact .inl (Prod.mk.inj here).1
    · obtain ⟨inner, inner_mem, pair_eq⟩ := List.mem_map.mp later
      obtain ⟨rfl, rfl⟩ := Prod.mk.inj pair_eq
      exact .inr ⟨first, outer_eq, rfl, inner_mem⟩
  · have demands_eq := demands_flatMap [] request.inner []
    rw [List.append_nil] at demands_eq
    rw [demands_eq] at mem
    obtain ⟨inner, _, pair_eq⟩ : ∃ inner ∈ request.inner, ([], inner) = (held, lock) := by
      simpa [demands] using mem
    exact .inl (Prod.mk.inj pair_eq).1.symm

/-- The one does not take under the lock of a union a grid from which the other asks a union. -/
def Apart (first second : Request) : Prop :=
  (∀ cfgId ∈ first.callsFrom, cfgId ∉ second.stores) ∧
    ∀ cfgId ∈ second.callsFrom, cfgId ∉ first.stores
  deriving Decidable

end Request

def scripts : Scripts Lock Request where
  script := Request.script
  balanced := Request.balanced_script

abbrev Thread := Locking.Thread Lock Request

/-- No union with grids ends, and no NFTs are given back from a grid while an operation on that grid
asks its union. -/
def oneOrder : Guard (Locks Lock) Request Thread Unit where
  onRequest request _ others :=
    request.dissolves = [] ∧ ∀ other ∈ others, request.Apart other.request
  onReply _ _ _ _ := True

instance (request locks others) : Decidable (oneOrder.onRequest request locks others) :=
  inferInstanceAs (Decidable (_ ∧ _))

instance (thread reply locks others) : Decidable (oneOrder.onReply thread reply locks others) :=
  inferInstanceAs (Decidable True)

/-- The requests under way do not meet in opposite orders. -/
def orderPool : Pool (Locks Lock) Thread where
  shared _ := True
  own _ thread := thread.request.dissolves = []
  apart first second := first.request.Apart second.request
  apart_symm apart := ⟨apart.2, apart.1⟩

theorem go_request (thread : Thread) (locks : Locks Lock) :
    ∀ next ∈ (thread.go locks).2, next.request = thread.request := by
  unfold Thread.go
  split
  · simp
  · split
    · exact List.forall_mem_singleton.mpr rfl
    · split <;> exact List.forall_mem_singleton.mpr rfl
  · split <;> exact List.forall_mem_singleton.mpr rfl

theorem go_length (thread : Thread) (locks : Locks Lock) : (thread.go locks).2.length ≤ 1 := by
  unfold Thread.go
  split
  · simp
  · split
    · simp
    · split <;> simp
  · split <;> simp

theorem orderPool_kept : orderPool.KeptBy (lockService scripts) oneOrder where
  accept request locks others holds allows := by
    refine ⟨trivial, holds.own, List.forall_mem_singleton.mpr allows.1, fun other mem => ?_,
      List.pairwise_singleton _ _⟩
    have apart := allows.2 other mem
    exact List.forall_mem_singleton.mpr ⟨apart.2, apart.1⟩
  resume thread reply locks others holds own apart _ := by
    refine ⟨trivial, holds.own, fun next mem => ?_, fun other other_mem next mem => ?_, ?_⟩
    · have same := go_request thread locks next mem
      have own_eq : thread.request.dissolves = [] := own
      change next.request.dissolves = []
      rw [same, own_eq]
    · have same := go_request thread locks next mem
      have thread_apart : thread.request.Apart other.request := apart other other_mem
      change other.request.Apart next.request
      rw [same]
      exact ⟨thread_apart.2, thread_apart.1⟩
    · have short := go_length thread locks
      match (thread.go locks).2, short with
      | [], _ => exact .nil
      | [next], _ => exact List.pairwise_singleton _ _

section Cycles

variable {config : Config (Locks Lock) Thread} {thread : Thread}

theorem blocked_held (queued : Queued scripts config) (mem : thread ∈ config.waiting)
    (blocked : Blocked config thread.id) {first : Lock} (held : first ∈ thread.held) :
    thread.request.outer = some first ∧ ∃ lock ∈ thread.request.inner,
      ∃ next ∈ config.waiting, Blocked config next.id ∧ lock ∈ next.held := by
  obtain ⟨lock, next, next_mem, next_blocked, demanded, lock_held⟩ :=
    queued.blocked_next mem blocked
  rcases Request.mem_demands demanded with empty | ⟨outer, outer_eq, held_eq, inner_mem⟩
  · rw [empty] at held
    exact nomatch held
  · rw [held_eq] at held
    obtain rfl := List.mem_singleton.mp held
    exact ⟨outer_eq, lock, inner_mem, next, next_mem, next_blocked, lock_held⟩

/-- An operation of a union that holds its lock is in no cycle. -/
theorem union_not_blocked (queued : Queued scripts config) (holds : orderPool.Holds config)
    (mem : thread ∈ config.waiting) {unionId : ℕ} (held : .union unionId ∈ thread.held) :
    ¬ Blocked config thread.id := by
  intro blocked
  obtain ⟨outer_eq, lock, inner_mem, next, next_mem, next_blocked, lock_held⟩ :=
    blocked_held queued mem blocked held
  obtain ⟨op, storeList, ownerGrids, request_eq⟩ : ∃ op storeList ownerGrids,
      thread.request = .union op unionId storeList ownerGrids := by
    cases request_eq : thread.request with
    | union op id storeList ownerGrids =>
        rw [request_eq] at outer_eq
        obtain rfl := Lock.union.inj (Option.some.inj outer_eq)
        exact ⟨op, storeList, ownerGrids, rfl⟩
    | grid op cfgId unions =>
        rw [request_eq] at outer_eq
        exact nomatch Option.some.inj outer_eq
    | starmap unions =>
        rw [request_eq] at outer_eq
        exact nomatch outer_eq
  have dissolves : thread.request.dissolves = [] := holds.own thread mem
  -- The lock it asks for is the one of a grid from which it takes NFTs.
  obtain ⟨cfgId, stored, rfl⟩ : ∃ cfgId ∈ thread.request.stores, .grid cfgId = lock := by
    rw [request_eq] at inner_mem dissolves ⊢
    simpa [Request.inner, dissolves] using inner_mem
  obtain ⟨next_outer, wanted, wanted_mem, _⟩ := blocked_held queued next_mem next_blocked lock_held
  -- The request that has the lock of the grid asks a union.
  have calls : next.request.callsFrom = some cfgId := by
    cases next_eq : next.request with
    | grid op id unions =>
        rw [next_eq] at next_outer wanted_mem
        obtain rfl := Lock.grid.inj (Option.some.inj next_outer)
        have some_calls : unions.take op.unionCalls.length ≠ [] := by
          intro none
          simp [Request.inner, none] at wanted_mem
        simp [Request.callsFrom, some_calls]
    | union op id stores grids =>
        rw [next_eq] at next_outer
        exact nomatch Option.some.inj next_outer
    | starmap unions =>
        rw [next_eq] at next_outer
        exact nomatch next_outer
  have differs : next ≠ thread := by
    rintro rfl
    rw [request_eq] at calls
    exact nomatch calls
  have symm : Std.Symm orderPool.apart := ⟨fun _ _ => orderPool.apart_symm⟩
  have apart : next.request.Apart thread.request := holds.apart.forall next_mem mem differs
  exact apart.1 cfgId calls stored

theorem not_blocked (queued : Queued scripts config) (holds : orderPool.Holds config)
    (mem : thread ∈ config.waiting) {lock : Lock} (held : lock ∈ thread.held) :
    ¬ Blocked config thread.id := by
  cases lock with
  | union unionId => exact union_not_blocked queued holds mem held
  | grid cfgId =>
      intro blocked
      obtain ⟨outer_eq, wanted, wanted_mem, next, next_mem, next_blocked, wanted_held⟩ :=
        blocked_held queued mem blocked held
      -- An operation on a grid asks for the lock of a union.
      obtain ⟨unionId, rfl⟩ : ∃ unionId, wanted = .union unionId := by
        cases request_eq : thread.request with
        | grid op id unions =>
            rw [request_eq] at wanted_mem
            obtain ⟨unionId, _, union_eq⟩ := List.mem_map.mp wanted_mem
            exact ⟨unionId, union_eq.symm⟩
        | union op id storeList ownerGrids =>
            rw [request_eq] at outer_eq
            exact nomatch Option.some.inj outer_eq
        | starmap unions =>
            rw [request_eq] at outer_eq
            exact nomatch outer_eq
      exact union_not_blocked queued holds next_mem wanted_held next_blocked

end Cycles

/-- A member of union 5 takes an NFT back from grid 2 while a building of grid 1 is stored, which
waits for the union. -/
def storedRun : List (Event Request Unit) :=
  [.request (.union .takeBackNft 5 [2] []), .request (.grid .storeBuildOnGrid 1 [5]),
    .reply 0 (), .reply 0 (), .reply 0 (), .reply 0 (), .reply 0 (), .reply 0 ()]

/-- The same with an NFT that lies on the grid whose building is stored. -/
def crossedRun : List (Event Request Unit) :=
  [.request (.union .takeBackNft 5 [1] []), .request (.grid .storeBuildOnGrid 1 [5]),
    .reply 0 (), .reply 0 (), .reply 0 (), .reply 0 (), .reply 0 (), .reply 0 ()]

/-- The last member leaves a union that owns a grid, with a building of the union on it. -/
def dissolvedRun : List (Event Request Unit) :=
  [.request (.union .quitUnion 5 [] [1]), .reply 0 (), .reply 0 (), .reply 0 ()]

end BasWar.Unions.GridLocks
