import BasWar.ChainBridge.WithdrawNFT
import BasWar.Unions.NftDonation
import BasWar.Unions.NftHeld

/-!
# One keeper for every NFT

What a union lists, the player keeps for it: the NFT stands in its bag with the mark of the union
and is in no army and no withdraw order.  An NFT must still be free when the union calls the player
back, since it is marked then without another check.
-/

namespace BasWar.Unions.Donations

open Cooperative

/-- A request to donate or to take back, at whatever stage. -/
def Task.ofUnion : Task → Bool
  | .syncNFTInfo _ _ | .genWithdrawId _ | .insert _ => false
  | _ => true

/-- The player has freed the NFT, and the union does not know it yet. -/
def Task.Frees (unionId id : ℕ) : Task → Prop
  | .takenBack back => back.unionId = unionId ∧ id ∈ back.idList
  | _ => False

/-- As the claim puts it: at all times, and with no upgrade at all. -/
structure OneKeeper (config : Config State Task) : Prop where
  kept : ∀ unionId id, id ∈ config.state.items unionId →
    ∃ nft, config.state.entities id = some nft ∧ nft.ref = .union ∧
      id ∉ config.state.armyHeros ∧ id ∉ config.state.orders.flatten ∧
        nft.isUpgrade config.state.clock = false
  gone : (∀ task ∈ config.waiting, task.ofUnion = false) → ∀ id,
    (∀ nft, config.state.entities id = some nft → nft.ref ≠ .union) →
      ∀ unionId, id ∉ config.state.items unionId

/-- What a union lists is kept for it, until its take-back has reached the player. -/
structure Keeping (config : Config State Task) : Prop where
  kept : ∀ unionId id, id ∈ config.state.items unionId →
    config.state.Held id ∨ ∃ task ∈ config.waiting, task.Frees unionId id
  gone : (∀ task ∈ config.waiting, task.ofUnion = false) → ∀ id,
    (∀ nft, config.state.entities id = some nft → nft.ref ≠ .union) →
      ∀ unionId, id ∉ config.state.items unionId

/-! ## When the unions keep one list with the player -/

def Task.checked : Task → List ℕ
  | .syncNFTInfo checked _ | .genWithdrawId checked | .insert checked => checked
  | _ => []

/-- No army gets a donated hero without a check, a player joins one union at a time, an NFT is still
free when the union calls the player back, and take-backs are answered. -/
def keeperGuard : Guard State Request Task Reply where
  onRequest request state _ :=
    match request with
    | .joined unionId => ∀ other ∈ state.members, other = unionId
    | .addArmys _ teams _ => ∀ team ∈ teams.drop 5, state.isDonated team.heroId = false
    | .editedArmy _ _ team _ => state.isDonated team.heroId = false
    | _ => True
  onReply task reply state others :=
    match task, reply with
    | .onUnionDonateNft _ nftList, .arrive =>
        ∀ nft ∈ nftList, state.Free nft.id ∧ ∀ other ∈ others, nft.id ∉ other.checked
    | .onUnionTakeBackNft _ _, .none | .onUnionTakeBackNft _ _, .raise _
    | .takenBack _, .none | .takenBack _, .raise _ => False
    | _, _ => True

instance (request state others) : Decidable (keeperGuard.onRequest request state others) := by
  unfold keeperGuard
  dsimp only
  split <;> infer_instance

instance (task reply state others) : Decidable (keeperGuard.onReply task reply state others) := by
  unfold keeperGuard
  dsimp only
  split <;> infer_instance

def Task.lock : Task → Option ℕ
  | .onUnionDonateNft unionId _ | .donated unionId _ _ | .updatePersonalGrids unionId =>
      some unionId
  | .storeUnionNftsOnGrid back | .onUnionTakeBackNft back _ | .takenBack back =>
      some back.unionId
  | _ => none

/-- What the union is about to list. -/
def Task.gives : Task → List ℕ
  | .donated _ nftList _ => nftList.map (·.id)
  | _ => []

/-- The items that the union lists are among these, since the player leaves it. -/
def Task.Empties (items : ℕ → AList fun _ : ℕ => Nft) : Task → Prop
  | .storeUnionNftsOnGrid back | .onUnionTakeBackNft back _ | .takenBack back =>
      back.quits → ∀ id ∈ items back.unionId, id ∈ back.idList
  | .updatePersonalGrids unionId => ∀ id, id ∉ items unionId
  | _ => True

/-- What a suspended handler knows about the player and the unions. -/
structure Task.Knows (state : State) (task : Task) : Prop where
  locked : ∀ unionId ∈ task.lock, state.locked unionId = true ∧ unionId ∈ state.members
  gives : ∀ id ∈ task.gives, state.Held id
  checked : ∀ id ∈ task.checked, state.isDonated id = false
  empties : task.Empties state.items

/-- Only the union of the player lists its NFTs. -/
structure State.Sound (state : State) : Prop where
  single : ∀ first ∈ state.members, ∀ second ∈ state.members, first = second
  home : ∀ unionId id, id ∈ state.items unionId → unionId ∈ state.members

def keeperPool : Pool State Task where
  shared := State.Sound
  own := fun state task => task.Knows state
  apart first second := ∀ unionId ∈ first.lock, unionId ∉ second.lock
  apart_symm apart unionId second first := apart unionId first second

/-- What is listed is held, or on its way off the list. -/
def heldStanding : Standing State Task where
  holds state tasks := ∀ unionId id, id ∈ state.items unionId →
    state.Held id ∨ ∃ task ∈ tasks, task.Frees unionId id
  perm same holds unionId id listed :=
    (holds unionId id listed).imp_right fun ⟨task, mem, frees⟩ => ⟨task, same.mem_iff.mp mem, frees⟩

/-! ## What the handlers of the unions do -/

def Turns : List Task → State × List Task → Prop :=
  heldStanding.Keeps keeperPool

theorem knows_of_checked {task : Task} {state : State} (lock : task.lock = none)
    (checked : ∀ id ∈ task.checked, state.isDonated id = false) : task.Knows state := by
  refine ⟨by simp [lock], ?_, checked, ?_⟩
  · cases task <;> first | exact fun _ => List.not_mem_nil.elim | exact nomatch lock
  · cases task <;> trivial

theorem lock_of_frees {task : Task} {unionId id : ℕ} (frees : task.Frees unionId id) :
    task.lock = some unionId ∧ task.ofUnion = true := by
  cases task with
  | takenBack back => exact ⟨congrArg some frees.1, rfl⟩
  | _ => exact frees.elim

section Handlers

variable {state after : State} {others tasks : List Task} {unionId : ℕ}

variable {task : Task} {back : Return} {id : ℕ} {nftList : List Nft}

theorem Task.Knows.mild (knows : task.Knows state) (mild : Mild state after) :
    task.Knows after where
  locked := by
    rw [mild.locked, mild.members]
    exact knows.locked
  gives id mem := mild.held id (knows.gives id mem)
  checked id mem := mild.not_marked (knows.checked id mem)
  empties := by
    rw [mild.items]
    exact knows.empties

theorem State.Sound.congr (sound : state.Sound) (items : after.items = state.items)
    (members : after.members = state.members) : after.Sound where
  single := by
    rw [members]
    exact sound.single
  home := by
    rw [members, items]
    exact sound.home

theorem turns_mild (holds : keeperPool.Holds ⟨state, others⟩)
    (stands : heldStanding.holds state others) (mild : Mild state after)
    (fresh : ∀ task ∈ tasks, task.lock = none ∧ ∀ id ∈ task.checked, after.isDonated id = false)
    (single : tasks.length ≤ 1) : Turns others (after, tasks) where
  left :=
    { shared := holds.shared.congr mild.items mild.members
      stable := fun other mem => (holds.own other mem).mild mild
      fresh := fun task mem => knows_of_checked (fresh task mem).1 (fresh task mem).2
      apart := fun other _ task mem unionId _ => by simp [(fresh task mem).1]
      fresh_apart := pairwise_of_single single }
  right unionId id listed := by
    have listed_before : id ∈ state.items unionId := by
      rw [← mild.items]
      exact listed
    exact (stands unionId id listed_before).imp (mild.held id)
      fun ⟨task, mem, frees⟩ => ⟨task, List.mem_append_left _ mem, frees⟩

/-- One handler of a union has its lock, and no other handler has any. -/
structure Lone (state : State) (others : List Task) (unionId : ℕ) : Prop where
  sound : state.Sound
  member : unionId ∈ state.members
  locked : state.locked unionId = true
  lockless : ∀ other ∈ others, other.lock = none
  checked : ∀ other ∈ others, ∀ id ∈ other.checked, state.isDonated id = false

theorem Lone.turns (lone : Lone state others unionId) (sound : after.Sound)
    (checked : ∀ other ∈ others, ∀ id ∈ other.checked, after.isDonated id = false)
    (fresh : ∀ task ∈ tasks, task.Knows after) (single : tasks.length ≤ 1)
    (held : ∀ unionId id, id ∈ after.items unionId →
      after.Held id ∨ ∃ task ∈ tasks, task.Frees unionId id) : Turns others (after, tasks) where
  left :=
    { shared := sound
      stable := fun other mem => knows_of_checked (lone.lockless other mem) (checked other mem)
      fresh := fresh
      apart := fun other mem task _ unionId locked => by simp [lone.lockless other mem] at locked
      fresh_apart := pairwise_of_single single }
  right unionId id listed := (held unionId id listed).imp_right
    fun ⟨task, mem, frees⟩ => ⟨task, List.mem_append_right _ mem, frees⟩

section

variable (lone : Lone state others unionId)
  (listed : ∀ unionId id, id ∈ state.items unionId → state.Held id)
include lone listed

theorem Lone.turns_unlock (target : ℕ) : Turns others (state.unlock target, []) :=
  lone.turns (lone.sound.congr rfl rfl) lone.checked nofun (by simp) fun unionId id mem =>
    .inl ((listed unionId id mem).congr rfl rfl rfl rfl rfl)

theorem Lone.turns_finishReturn (home : back.unionId = unionId)
    (empties : back.quits → ∀ id, id ∉ state.items unionId) :
    Turns others (state.finishReturn back) := by
  unfold State.finishReturn
  split
  · rename_i quits
    refine lone.turns lone.sound lone.checked (List.forall_mem_singleton.mpr ?_) (by simp)
      fun unionId id mem => .inl (listed unionId id mem)
    refine ⟨?_, nofun, nofun, ?_⟩
    · rintro _ ⟨⟩
      rw [home]
      exact ⟨lone.locked, lone.member⟩
    · rw [Task.Empties, home]
      exact empties quits
  · exact lone.turns_unlock listed back.unionId

end

theorem mem_stored {items : AList fun _ : ℕ => Nft} {idList : List ℕ} {result : List (ℕ × ℤ)} :
    id ∈ idList.foldl (fun items id => match items.lookup id with
      | none => items
      | some item => items.insert id (State.storeItem (result.lookup id) item)) items ↔
        id ∈ items := by
  induction idList generalizing items with
  | nil => rfl
  | cons head rest ih =>
      rw [List.foldl_cons, ih]
      cases found : items.lookup head with
      | none => rfl
      | some item =>
          have present : head ∈ items := AList.lookup_isSome.mp (by simp [found])
          rw [AList.mem_insert]
          exact ⟨fun either => either.elim (fun same => same ▸ present) fun mem => mem, .inr⟩

theorem mem_setItems {items : AList fun _ : ℕ => Nft} {unionId other : ℕ} :
    id ∈ (state.setItems unionId items).items other ↔
      if other = unionId then id ∈ items else id ∈ state.items other := by
  by_cases same : other = unionId
  · subst same
    simp [State.setItems]
  · simp [State.setItems, same]

section

variable (lone : Lone state others unionId)
  (listed : ∀ unionId id, id ∈ state.items unionId → state.Held id) (home : back.unionId = unionId)
include lone listed home

theorem Lone.turns_askPlayer (empties : back.quits → ∀ id ∈ state.items unionId, id ∈ back.idList)
    (result : List (ℕ × ℤ)) : Turns others (state.askPlayer back result) := by
  unfold State.askPlayer
  dsimp only
  have same : ∀ unionId id, id ∈ (state.setItems back.unionId (back.idList.foldl
      (fun items id => match items.lookup id with
        | none => items
        | some item => items.insert id (State.storeItem (result.lookup id) item))
      (state.items back.unionId))).items unionId ↔ id ∈ state.items unionId := by
    intro other id
    rw [mem_setItems]
    split
    · rename_i here
      rw [mem_stored, here]
    · rfl
  refine lone.turns ⟨lone.sound.single, fun other id mem => lone.sound.home other id
      ((same other id).mp mem)⟩ lone.checked (List.forall_mem_singleton.mpr ⟨?_, nofun, nofun, ?_⟩)
    (by simp) fun other id mem =>
      .inl ((listed other id ((same other id).mp mem)).congr rfl rfl rfl rfl rfl)
  · rintro _ ⟨⟩
    rw [home]
    exact ⟨lone.locked, lone.member⟩
  · intro quits id mem
    exact empties quits id (home ▸ (same back.unionId id).mp mem)

theorem Lone.turns_doReturnNfts
    (empties : back.quits → ∀ id ∈ state.items unionId, id ∈ back.idList) :
    Turns others (state.doReturnNfts back) := by
  unfold State.doReturnNfts
  split
  · rename_i nothing
    exact lone.turns_finishReturn listed home fun quits id mem => by
      simpa [nothing] using empties quits id mem
  · split
    · refine lone.turns lone.sound lone.checked
        (List.forall_mem_singleton.mpr ⟨?_, nofun, nofun, ?_⟩) (by simp)
        fun unionId id mem => .inl (listed unionId id mem)
      · rintro _ ⟨⟩
        rw [home]
        exact ⟨lone.locked, lone.member⟩
      · intro quits
        rw [home]
        exact empties quits
    · exact lone.turns_askPlayer listed home empties []

end

theorem turns_locking {handler : State → State × List Task}
    (holds : keeperPool.Holds ⟨state, others⟩) (stands : heldStanding.holds state others)
    (plain : task.lock = none ∧ task.checked = [])
    (turns : ∀ {next}, Lone next others unionId → next.items = state.items →
      (∀ unionId id, id ∈ next.items unionId → next.Held id) → Turns others (handler next)) :
    Turns others (state.locking unionId task handler) := by
  have mild : ∀ {tasks : List Task}, tasks.length ≤ 1 →
      (∀ other ∈ tasks, other.lock = none ∧ ∀ id ∈ other.checked, state.isDonated id = false) →
        Turns others (state, tasks) :=
    fun single fresh => turns_mild holds stands (.refl state) fresh single
  unfold State.locking
  split
  · exact mild (by simp) (List.forall_mem_singleton.mpr ⟨plain.1, by simp [plain.2]⟩)
  · rename_i free
    split
    · exact mild (by simp) nofun
    · rename_i member
      have member : unionId ∈ state.members := not_not.mp member
      have lockless : ∀ other ∈ others, other.lock = none := fun other mem => by
        cases lock : other.lock with
        | none => rfl
        | some held =>
            obtain ⟨locked, known⟩ := (holds.own other mem).locked held lock
            rw [holds.shared.single held known unionId member] at locked
            exact absurd locked free
      refine turns ⟨holds.shared.congr rfl rfl, member, by simp [State.lock], lockless,
        fun other mem => (holds.own other mem).checked⟩ rfl fun listing id listed => ?_
      rcases stands listing id listed with held | ⟨other, mem, frees⟩
      · exact held.congr rfl rfl rfl rfl rfl
      · exact absurd ((lock_of_frees frees).1.symm.trans (lockless other mem)) (by simp)

theorem lone_of_knows (holds : keeperPool.Holds ⟨state, others⟩) (knows : task.Knows state)
    (apart : ∀ other ∈ others, keeperPool.apart task other) (lock : task.lock = some unionId) :
    Lone state others unionId where
  sound := holds.shared
  member := (knows.locked unionId lock).2
  locked := (knows.locked unionId lock).1
  lockless other mem := by
    cases held : other.lock with
    | none => rfl
    | some second =>
        have same := holds.shared.single unionId (knows.locked unionId lock).2 second
          ((holds.own other mem).locked second held).2
        exact absurd (same ▸ held) (apart other mem unionId lock)
  checked other mem := (holds.own other mem).checked

theorem Lone.held (lone : Lone state others unionId)
    (stands : heldStanding.holds state (task :: others)) {listing : ℕ}
    (listed : id ∈ state.items listing) : state.Held id ∨ task.Frees listing id := by
  rcases stands listing id listed with held | ⟨other, mem, frees⟩
  · exact .inl held
  · rcases List.mem_cons.mp mem with rfl | mem
    · exact .inr frees
    · exact absurd ((lock_of_frees frees).1.symm.trans (lone.lockless other mem)) (by simp)

theorem entities_foldl {change : ℕ → Nft → Nft} {ids : List ℕ}
    (again : ∀ nft, change id (change id nft) = change id nft) :
    (ids.foldl (fun state id => state.modify id (change id)) state).entities id =
      if id ∈ ids then (state.entities id).map (change id) else state.entities id := by
  induction ids generalizing state with
  | nil => simp
  | cons head rest ih =>
      rw [List.foldl_cons, ih]
      by_cases here : id = head
      · subst here
        simp only [State.modify, Function.update_self, List.mem_cons_self, if_true, Option.map_map]
        split
        · congr 1
          funext nft
          exact again nft
        · rfl
      · simp [State.modify, here]

theorem foldl_modify_frame (change : ℕ → Nft → Nft) (ids : List ℕ) (state : State) :
    ∃ entities, ids.foldl (fun state id => state.modify id (change id)) state =
      { state with entities := entities } := by
  induction ids generalizing state with
  | nil => exact ⟨state.entities, rfl⟩
  | cons head rest ih =>
      obtain ⟨entities, same⟩ := ih (state.modify head (change head))
      exact ⟨entities, same⟩

/-- A free NFT that gets the mark is held. -/
theorem turns_onUnionDonateNft (settings : Settings) (lone : Lone state others unionId)
    (listed : ∀ unionId id, id ∈ state.items unionId → state.Held id)
    (free : ∀ nft ∈ nftList, state.Free nft.id ∧ ∀ other ∈ others, nft.id ∉ other.checked) :
    Turns others (state.onUnionDonateNft settings nftList,
      [.donated unionId nftList state.now]) := by
  have folded : state.onUnionDonateNft settings nftList = (nftList.map (·.id)).foldl
      (fun player id => player.modify id (State.markDonated settings state.now)) state := by
    rw [List.foldl_map]
    rfl
  obtain ⟨entities, frame⟩ := foldl_modify_frame
    (fun _ => State.markDonated settings state.now) (nftList.map (·.id)) state
  have marked : ∀ id, entities id = if id ∈ nftList.map (·.id) then
      (state.entities id).map (State.markDonated settings state.now)
      else state.entities id := fun id => by
    have changed := @entities_foldl state id (fun _ => State.markDonated settings state.now)
      (nftList.map (·.id)) fun _ => rfl
    rwa [frame] at changed
  rw [folded, frame]
  have held_of_free : ∀ {id}, id ∈ nftList.map (·.id) →
      ({ state with entities := entities } : State).Held id := by
    rintro id mem
    obtain ⟨nft, nft_mem, rfl⟩ := List.mem_map.mp mem
    obtain ⟨found_nft, found, spare⟩ := (free nft nft_mem).1
    refine ⟨State.markDonated settings state.now found_nft, ?_, rfl,
      ⟨spare.army, spare.ship, spare.order, spare.upgrade⟩⟩
    change entities nft.id = _
    rw [marked, if_pos mem, found, Option.map_some]
  have unmarked : ∀ {id}, id ∉ nftList.map (·.id) → entities id = state.entities id :=
    fun away => (marked _).trans (if_neg away)
  refine lone.turns (lone.sound.congr rfl rfl) (fun other mem id checked => ?_)
    (List.forall_mem_singleton.mpr ⟨?_, fun id mem => held_of_free mem, nofun, trivial⟩) (by simp)
    fun listing id mem => .inl ?_
  · have away : id ∉ nftList.map (·.id) := fun given => by
      obtain ⟨nft, nft_mem, rfl⟩ := List.mem_map.mp given
      exact (free nft nft_mem).2 other mem checked
    have plain := lone.checked other mem id checked
    rwa [State.isDonated, ← unmarked away] at plain
  · rintro _ ⟨⟩
    exact ⟨lone.locked, lone.member⟩
  · by_cases given : id ∈ nftList.map (·.id)
    · exact held_of_free given
    · obtain ⟨nft, found, mark, spare⟩ := listed listing id mem
      exact ⟨nft, (unmarked given).trans found, mark,
        ⟨spare.army, spare.ship, spare.order, spare.upgrade⟩⟩

theorem mem_foldl_insert {item : Nft → Nft} {items : AList fun _ : ℕ => Nft} :
    id ∈ nftList.foldl (fun items nft => items.insert nft.id (item nft)) items ↔
      id ∈ nftList.map (·.id) ∨ id ∈ items := by
  induction nftList generalizing items with
  | nil => simp
  | cons nft rest ih =>
      rw [List.foldl_cons, ih, AList.mem_insert, List.map_cons, List.mem_cons, or_left_comm,
        or_assoc]

theorem turns_donated (settings : Settings) (donateTime : ℤ) (lone : Lone state others unionId)
    (listed : ∀ unionId id, id ∈ state.items unionId → state.Held id)
    (given : ∀ id ∈ nftList.map (·.id), state.Held id) :
    Turns others ((state.listItems settings unionId nftList donateTime).unlock unionId, []) := by
  have cases_of : ∀ listing id,
      id ∈ (state.listItems settings unionId nftList donateTime).items listing →
        listing = unionId ∧ id ∈ nftList.map (·.id) ∨ id ∈ state.items listing := by
    intro listing id mem
    rw [State.listItems, mem_setItems] at mem
    split at mem
    · rename_i here
      exact (mem_foldl_insert.mp mem).imp (fun new => ⟨here, new⟩) fun old => here ▸ old
    · exact .inr mem
  refine lone.turns ⟨lone.sound.single, fun listing id mem => ?_⟩ lone.checked nofun (by simp)
    fun listing id mem => .inl ?_
  · rcases cases_of listing id mem with ⟨rfl, -⟩ | old
    · exact lone.member
    · exact lone.sound.home listing id old
  · rcases cases_of listing id mem with ⟨-, new⟩ | old
    · exact (given id new).congr rfl rfl rfl rfl rfl
    · exact (listed listing id old).congr rfl rfl rfl rfl rfl

theorem turns_onUnionTakeBackNft (nftLifeDict : List (ℕ × ℤ))
    (lone : Lone state others back.unionId)
    (listed : ∀ unionId id, id ∈ state.items unionId → state.Held id)
    (empties : back.quits → ∀ id ∈ state.items back.unionId, id ∈ back.idList) :
    Turns others (state.onUnionTakeBackNft back.idList nftLifeDict, [.takenBack back]) := by
  obtain ⟨entities, frame⟩ := foldl_modify_frame
    (fun id => State.returned (nftLifeDict.lookup id)) back.idList state
  have freed : ∀ id, entities id = if id ∈ back.idList then
      (state.entities id).map (State.returned (nftLifeDict.lookup id))
      else state.entities id := fun id => by
    have changed := @entities_foldl state id (fun id => State.returned (nftLifeDict.lookup id))
      back.idList fun nft => by cases nftLifeDict.lookup id <;> rfl
    rwa [frame] at changed
  rw [State.onUnionTakeBackNft, frame]
  refine lone.turns (lone.sound.congr rfl rfl) (fun other mem id checked => ?_)
    (List.forall_mem_singleton.mpr ⟨?_, nofun, nofun, empties⟩) (by simp) fun listing id mem => ?_
  · have plain := lone.checked other mem id checked
    simp only [State.isDonated, freed] at plain ⊢
    split
    · cases state.entities id <;> rfl
    · exact plain
  · rintro _ ⟨⟩
    exact ⟨lone.locked, lone.member⟩
  · by_cases given : id ∈ back.idList
    · have home := lone.sound.single _ lone.member _ (lone.sound.home listing id mem)
      exact .inr ⟨_, List.mem_singleton.mpr rfl, home, given⟩
    · obtain ⟨nft, found, mark, spare⟩ := listed listing id mem
      exact .inl ⟨nft, ((freed id).trans (if_neg given)).trans found, mark,
        ⟨spare.army, spare.ship, spare.order, spare.upgrade⟩⟩

theorem mem_foldl_erase {idList : List ℕ} {items : AList fun _ : ℕ => Nft} :
    id ∈ idList.foldl (fun items id => items.erase id) items ↔ id ∈ items ∧ id ∉ idList := by
  induction idList generalizing items with
  | nil => simp
  | cons head rest ih =>
      rw [List.foldl_cons, ih, AList.mem_erase, List.mem_cons, not_or]
      tauto

theorem turns_takenBack (lone : Lone state others back.unionId)
    (stands : heldStanding.holds state (.takenBack back :: others))
    (empties : back.quits → ∀ id ∈ state.items back.unionId, id ∈ back.idList) :
    Turns others ((state.dropItems back).finishReturn back) := by
  have left_over : ∀ {listing id}, id ∈ (state.dropItems back).items listing →
      id ∈ state.items listing ∧ (listing = back.unionId → id ∉ back.idList) := by
    intro listing id mem
    rw [State.dropItems, mem_setItems] at mem
    split at mem
    · rename_i here
      obtain ⟨old, away⟩ := mem_foldl_erase.mp mem
      exact ⟨here ▸ old, fun _ => away⟩
    · rename_i elsewhere
      exact ⟨mem, fun here => absurd here elsewhere⟩
  have after : Lone (state.dropItems back) others back.unionId :=
    ⟨⟨lone.sound.single, fun listing id mem => lone.sound.home listing id (left_over mem).1⟩,
      lone.member, lone.locked, lone.lockless, lone.checked⟩
  refine after.turns_finishReturn (fun listing id mem => ?_) rfl fun quits id mem => ?_
  · obtain ⟨old, away⟩ := left_over mem
    rcases lone.held stands old with held | ⟨here, given⟩
    · exact held.congr rfl rfl rfl rfl rfl
    · exact absurd given (away here.symm)
  · obtain ⟨old, away⟩ := left_over mem
    exact away rfl (empties quits id old)

theorem turns_updatePersonalGrids (lone : Lone state others unionId)
    (listed : ∀ unionId id, id ∈ state.items unionId → state.Held id)
    (empty : ∀ id, id ∉ state.items unionId) :
    Turns others (({ state with members := state.members.filter (· ≠ unionId) } : State).unlock
      unionId, []) := by
  refine lone.turns ⟨fun first first_mem second second_mem => ?_, fun listing id mem => ?_⟩
    lone.checked nofun (by simp) fun listing id mem =>
      .inl ((listed listing id mem).congr rfl rfl rfl rfl rfl)
  · exact lone.sound.single first (List.mem_of_mem_filter first_mem) second
      (List.mem_of_mem_filter second_mem)
  · have differs : listing ≠ unionId := by
      rintro rfl
      exact empty id mem
    exact List.mem_filter.mpr ⟨lone.sound.home listing id mem, by simpa using differs⟩

end Handlers

/-! ## The withdrawal -/

section Withdrawal

variable {state : State} {others : List Task}

theorem plain_of_checkNFT {nft : ℕ × NFTKind} (passes : state.checkNFT nft = true) :
    state.isDonated nft.1 = false := by
  unfold State.checkNFT at passes
  cases bag_eq : nft.2.bag? with
  | none => simp [bag_eq] at passes
  | some bag =>
      cases found : state.getEntity bag nft.1 with
      | none => simp [bag_eq, found] at passes
      | some there =>
          have checked : ChainBridge.Withdraw.withdrawError (there.entity state.clock) = none := by
            simp only [bag_eq, found, Option.bind_some, Option.any_some,
              decide_eq_true_eq] at passes
            exact passes.2
          have free : there.ref = .none := ChainBridge.Withdraw.ref_of_withdrawError checked
          exact plain_of_getEntity found (by simp [free])

theorem turns_checkNFTs (holds : keeperPool.Holds ⟨state, others⟩)
    (stands : heldStanding.holds state others) {checked : List ℕ} (rest : List (ℕ × NFTKind))
    (plain : ∀ id ∈ checked, state.isDonated id = false) :
    Turns others (state.checkNFTs checked rest) := by
  unfold State.checkNFTs
  split
  · refine turns_mild holds stands (.refl state) (fun task mem => ?_) (by split <;> simp)
    split at mem
    · cases mem
    · obtain rfl := List.mem_singleton.mp mem
      exact ⟨rfl, plain⟩
  · rename_i nft rest
    split
    · rename_i passes
      refine turns_mild holds stands (.refl state)
        (List.forall_mem_singleton.mpr ⟨rfl, fun id mem => ?_⟩) (by simp)
      rcases List.mem_append.mp mem with old | new
      · exact plain id old
      · rw [List.mem_singleton.mp new]
        exact plain_of_checkNFT passes
    · exact turns_mild holds stands (.refl state) nofun (by simp)

end Withdrawal

section Runs

variable {settings : Settings} {state : State} {others : List Task}

theorem turns_accept (request : Request) (holds : keeperPool.Holds ⟨state, others⟩)
    (stands : heldStanding.holds state others)
    (allows : keeperGuard.onRequest request state others) :
    Turns others (accept settings request state) := by
  have alone : ∀ {after}, Mild state after → Turns others (after, []) := fun mild =>
    turns_mild holds stands mild nofun (by simp)
  have sends : ∀ task : Task, task.lock = none → task.checked = [] →
      Turns others (state, [task]) := fun task lock nothing =>
    turns_mild holds stands (.refl state)
      (List.forall_mem_singleton.mpr ⟨lock, by simp [nothing]⟩) (by simp)
  cases request with
  | donateNft unionId idList =>
      simp only [accept, State.donateNft]
      split
      · exact sends _ rfl rfl
      · exact alone (.refl state)
  | takeBackNft unionId idList =>
      simp only [accept, State.takeBackNft]
      split
      · exact sends _ rfl rfl
      · exact alone (.refl state)
  | quitUnion unionId => exact sends _ rfl rfl
  | joined unionId =>
      have only : ∀ other ∈ unionId :: state.members, other = unionId := fun other mem =>
        (List.mem_cons.mp mem).elim (fun same => same) (allows other)
      refine ⟨⟨⟨fun first first_mem second second_mem => ?_, fun listing id mem => ?_⟩,
        fun other mem => ?_, nofun, fun _ _ => nofun, .nil⟩, fun listing id mem => ?_⟩
      · rw [only first first_mem, only second second_mem]
      · exact List.mem_cons_of_mem _ (holds.shared.home listing id mem)
      · have knows := holds.own other mem
        exact ⟨fun target lock => ⟨(knows.locked target lock).1,
            List.mem_cons_of_mem _ (knows.locked target lock).2⟩,
          fun id given => (knows.gives id given).congr rfl rfl rfl rfl rfl, knows.checked,
          knows.empties⟩
      · exact (stands listing id mem).imp (fun held => held.congr rfl rfl rfl rfl rfl)
          fun ⟨task, task_mem, frees⟩ => ⟨task, List.mem_append_left _ task_mem, frees⟩
  | doWithdrawNFT entityNfts => exact turns_checkNFTs holds stands entityNfts (by simp)
  | levelUpHero id bill => exact alone (mild_startLevelUp id bill rfl)
  | heroSkillUp id skillUp bill => exact alone (mild_startSkillUp id skillUp bill rfl)
  | levelUpWarShip id bill => exact alone (mild_startLevelUp id bill rfl)
  | warShipSkillUp id skillUp bill => exact alone (mild_startSkillUp id skillUp bill rfl)
  | levelUpBuild id bill minObj => exact alone (mild_levelUpBuild id bill minObj)
  | sellHero ids => exact alone (mild_sell _ _ ids)
  | sellWarShip ids => exact alone (mild_sell _ _ ids)
  | sellBuild ids => exact alone (mild_sell _ _ ids)
  | setUseWarShip id => exact alone (mild_setUseWarShip id)
  | addArmys armyId teams fits => exact alone (mild_addArmys fits allows)
  | updateArmy armyId index team fits => exact alone (mild_updateArmy armyId index team fits)
  | deleteArmys armyId fits => exact alone (mild_deleteArmys armyId fits)
  | cleanAllArmy => exact alone mild_cleanAllArmy
  | editedArmy armyId index team fits =>
      exact alone (mild_editedArmy settings armyId index fits allows)
  | onSecond => exact alone mild_onSecond
  | elapse milliseconds => exact alone (mild_elapse milliseconds)

theorem turns_still {task : Task} {tasks : List Task} (holds : keeperPool.Holds ⟨state, others⟩)
    (knows : task.Knows state) (apart : ∀ other ∈ others, keeperPool.apart task other)
    (stands : heldStanding.holds state (task :: others))
    (kept : tasks = [task] ∨ task.lock = none ∧ tasks = []) : Turns others (state, tasks) := by
  rcases kept with rfl | ⟨lock, rfl⟩
  · refine ⟨.unchanged holds knows apart, heldStanding.perm ?_ stands⟩
    exact (List.perm_append_singleton task others).symm
  · refine ⟨.ended holds, fun listing id mem => ?_⟩
    rcases stands listing id mem with held | ⟨other, other_mem, frees⟩
    · exact .inl held
    · rcases List.mem_cons.mp other_mem with rfl | old
      · exact absurd ((lock_of_frees frees).1.symm.trans lock) (by simp)
      · exact .inr ⟨other, List.mem_append_left _ old, frees⟩

theorem turns_resume (task : Task) (reply : Reply) (holds : keeperPool.Holds ⟨state, others⟩)
    (knows : task.Knows state) (apart : ∀ other ∈ others, keeperPool.apart task other)
    (stands : heldStanding.holds state (task :: others))
    (allows : keeperGuard.onReply task reply state others) :
    Turns others (resume settings task reply state) := by
  have still : ∀ {tasks}, tasks = [task] ∨ task.lock = none ∧ tasks = [] →
      Turns others (state, tasks) := turns_still holds knows apart stands
  have lone : ∀ {unionId}, task.lock = some unionId → Lone state others unionId :=
    lone_of_knows holds knows apart
  have listed : ∀ {unionId}, task.lock = some unionId →
      (∀ listing id, ¬ task.Frees listing id) →
        ∀ listing id, id ∈ state.items listing → state.Held id :=
    fun lock frees listing id mem => ((lone lock).held stands mem).resolve_right (frees listing id)
  have rest : (∀ listing id, ¬ task.Frees listing id) → heldStanding.holds state others :=
    fun frees listing id mem => (stands listing id mem).imp_right fun ⟨other, other_mem, freed⟩ =>
      (List.mem_cons.mp other_mem).elim (fun same => absurd (same ▸ freed) (frees listing id))
        fun old => ⟨other, old, freed⟩
  unfold resume
  split
  case h_1 unionId nftList =>
    refine turns_locking holds (rest fun _ _ => id) ⟨rfl, rfl⟩ fun lone _ listed => ?_
    refine lone.turns lone.sound lone.checked (List.forall_mem_singleton.mpr
      ⟨?_, nofun, nofun, trivial⟩) (by simp) fun listing id mem => .inl (listed listing id mem)
    rintro _ ⟨⟩
    exact ⟨lone.locked, lone.member⟩
  case h_2 unionId nftList =>
    exact turns_onUnionDonateNft settings (lone rfl) (listed rfl fun _ _ => id) allows
  case h_3 unionId nftList donateTime =>
    exact turns_donated settings donateTime (lone rfl) (listed rfl fun _ _ => id) knows.gives
  case h_4 unionId nftList | h_5 unionId nftList _ =>
    exact (lone rfl).turns_unlock (listed rfl fun _ _ => id) unionId
  case h_6 unionId nftList _ | h_7 unionId nftList _ _ =>
    exact (lone rfl).turns_unlock (listed rfl fun _ _ => id) unionId
  case h_8 unionId idList =>
    exact turns_locking holds (rest fun _ _ => id) ⟨rfl, rfl⟩ fun lone _ listed =>
      lone.turns_doReturnNfts listed rfl nofun
  case h_9 unionId =>
    refine turns_locking holds (rest fun _ _ => id) ⟨rfl, rfl⟩ fun lone _ listed =>
      lone.turns_doReturnNfts listed rfl fun _ id mem => ?_
    exact AList.mem_keys.mp mem
  case h_10 back result =>
    exact (lone rfl).turns_askPlayer (listed rfl fun _ _ => id) rfl knows.empties result
  case h_11 back | h_12 back _ =>
    exact (lone rfl).turns_unlock (listed rfl fun _ _ => id) back.unionId
  case h_13 back nftLifeDict =>
    exact turns_onUnionTakeBackNft nftLifeDict (lone rfl) (listed rfl fun _ _ => id) knows.empties
  case h_14 | h_15 | h_16 | h_17 => exact allows.elim
  case h_18 back => exact turns_takenBack (lone rfl) stands knows.empties
  case h_19 unionId =>
    exact turns_updatePersonalGrids (lone rfl) (listed rfl fun _ _ => id) knows.empties
  case h_20 unionId _ => exact (lone rfl).turns_unlock (listed rfl fun _ _ => id) unionId
  case h_21 checked nfts => exact turns_checkNFTs holds (rest fun _ _ => id) nfts knows.checked
  case h_22 checked =>
    exact turns_mild holds (rest fun _ _ => id) (.refl state)
      (List.forall_mem_singleton.mpr ⟨rfl, knows.checked⟩) (by simp)
  case h_23 checked =>
    exact turns_mild holds (rest fun _ _ => id)
      ((mild_order knows.checked).trans (mild_delete knows.checked)) nofun (by simp)
  case h_24 checked =>
    exact turns_mild holds (rest fun _ _ => id) (mild_order knows.checked) nofun (by simp)
  case h_25 | h_26 | h_27 | h_28 | h_29 | h_30 => exact still (.inr ⟨rfl, rfl⟩)
  case h_31 => exact still (.inl rfl)

theorem keeper_kept (settings : Settings) :
    heldStanding.KeptWith keeperPool (unionService settings) keeperGuard where
  accept request _ _ holds stands allows := turns_accept request holds stands allows
  resume task reply _ _ holds knows apart stands allows :=
    turns_resume task reply holds knows apart stands allows

end Runs

/-- In every run in which the player and the unions keep one list, what a union lists is kept for
it until its take-back has reached the player. -/
theorem keeping_run (settings : Settings) (entities : ℕ → Option Nft) (useId : Option ℕ)
    (armys : AList fun _ : ℕ => List Team) (orders : List (List ℕ)) (clock : ℤ)
    (union : Option ℕ) (events : List (Event Request Reply))
    (admits : keeperGuard.Admits (unionService settings)
      (start entities useId armys orders clock union) events) :
    Keeping
      ((unionService settings).run (start entities useId armys orders clock union) events) := by
  have begins : keeperPool.Holds (start entities useId armys orders clock union) := by
    refine ⟨⟨fun first first_mem second second_mem => ?_, fun _ _ mem => absurd mem ?_⟩, nofun,
      .nil⟩
    · cases union with
      | none => cases first_mem
      | some unionId =>
          rw [List.mem_singleton.mp first_mem, List.mem_singleton.mp second_mem]
    · exact AList.notMem_empty _
  obtain ⟨_, stands⟩ := (keeper_kept settings).holds_run admits begins
    fun _ _ mem => absurd mem (AList.notMem_empty _)
  refine ⟨stands, fun quiet id differs unionId listed => ?_⟩
  rcases stands unionId id listed with ⟨nft, found, mark, -⟩ | ⟨task, mem, frees⟩
  · exact differs nft found mark
  · exact absurd ((lock_of_frees frees).2.symm.trans (quiet task mem)) (by simp)

def sampleSettings : Settings :=
  ⟨1, true, 0⟩

def sampleNft (id : ℕ) (bag : EntityBag) : Nft where
  id := id
  bag := bag
  cfgId := 1
  chain := 56
  life := 10
  curLife := 10
  level := 1
  skillLevel _ := 0
  ref := .none
  refBy := 0
  donateTime := 0
  ownerPid := 0
  fightTick := 0
  nextTick := 0
  skillUp := 0
  skillUpNextTick := 0

/-- A member of union 5 with a building, a hero and a warship in use. -/
def sampleStart : Config State Task :=
  start (fun id =>
      if id = 7 then some (sampleNft 7 .buildBag)
      else if id = 8 then some (sampleNft 8 .heroBag)
      else if id = 9 then some (sampleNft 9 .warShipBag)
      else none)
    (some 9) ∅ [] 1000000 (some 5)

/-- A donation from the player's check to the list of the union. -/
def donation (id : ℕ) : List (Event Request Reply) :=
  [.request (.donateNft 5 [id]), .reply 0 .arrive, .reply 0 .arrive, .reply 0 .arrive]

/-- The building is donated, leveled up and taken back. -/
def returnedRun : List (Event Request Reply) :=
  donation 7 ++ [.request (.levelUpBuild 7 ⟨true, 0, 60⟩ none), .request (.takeBackNft 5 [7]),
    .reply 0 .arrive, .reply 0 .arrive, .reply 0 .arrive]

theorem keeping_returnedRun :
    Keeping ((unionService sampleSettings).run sampleStart returnedRun) := by
  exact keeping_run sampleSettings _ _ _ _ _ _ returnedRun (by decide +kernel)

/-- A donated building is leveled up. -/
def leveledRun : List (Event Request Reply) :=
  donation 7 ++ [.request (.levelUpBuild 7 ⟨true, 0, 60⟩ none)]

/-- A take-back has reached the player and not yet the union. -/
def takenRun : List (Event Request Reply) :=
  donation 7 ++ [.request (.takeBackNft 5 [7]), .reply 0 .arrive, .reply 0 .arrive]

/-- The hero joins an army while its donation is on its way to the union. -/
def enlistedRun : List (Event Request Reply) :=
  [.request (.donateNft 5 [8]), .request (.addArmys 1 [⟨8, 0, 0⟩] true), .reply 0 .arrive,
    .reply 0 .arrive, .reply 0 .arrive]

theorem OneKeeper.idle {config : Config State Task} (keeper : OneKeeper config) {unionId id : ℕ}
    (listed : id ∈ config.state.items unionId) :
    (config.state.entities id).any (fun nft => nft.ref = .union &&
      !nft.isUpgrade config.state.clock && id ∉ config.state.armyHeros) = true := by
  obtain ⟨nft, found, mark, outside, _, done⟩ := keeper.kept unionId id listed
  simp [found, mark, outside, done]

theorem not_oneKeeper_sampleRuns :
    ¬ OneKeeper ((unionService sampleSettings).run sampleStart leveledRun) ∧
      ¬ OneKeeper ((unionService sampleSettings).run sampleStart takenRun) ∧
        ¬ OneKeeper ((unionService sampleSettings).run sampleStart enlistedRun) := by
  refine ⟨fun keeper => ?_, fun keeper => ?_, fun keeper => ?_⟩
  · exact absurd (keeper.idle (show 7 ∈ _ from (by decide +kernel : 7 ∈
      ((unionService sampleSettings).run sampleStart leveledRun).state.items 5)))
      (by decide +kernel)
  · exact absurd (keeper.idle (show 7 ∈ _ from (by decide +kernel : 7 ∈
      ((unionService sampleSettings).run sampleStart takenRun).state.items 5)))
      (by decide +kernel)
  · exact absurd (keeper.idle (show 8 ∈ _ from (by decide +kernel : 8 ∈
      ((unionService sampleSettings).run sampleStart enlistedRun).state.items 5)))
      (by decide +kernel)

end BasWar.Unions.Donations
