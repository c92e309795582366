import BasWar.Starmap.GridLending
import BasWar.Starmap.GridTable
import Mathlib

/-!
# Custody of the NFTs on a grid

Every NFT that was placed on a grid stands there, or was handed back once to its keeper.  While a
hand-back is on its way, its handler has sent what it has not yet dropped.  The invariant says that
what a handler sends is exactly what its last segment drops.
-/

namespace BasWar.Starmap

open Cooperative

/-- The keeper of a building, by the owner of the grid that it stands on. -/
def Party.Keeps (party : Party) (build : Build) (keeper : Keeper) : Prop :=
  match party with
  | .player _ => keeper = .bag build.ownerPid
  | .union unionId => keeper = .union unionId
  | .nobody => False

/-- The building went to its keeper, or back to the caller of `storeUnionNft`. -/
def Handed.Right (handed : Handed) : Prop :=
  handed.keeper = .caller ∨ handed.owner.party.Keeps handed.build handed.keeper

/-- Buildings that a handler has handed back and not yet dropped. -/
def Task.sent : Task → List Build
  | .handBack _ sent _ => sent
  | _ => []

/-- Every NFT placed on the grid stands there, is on its way back or is back with its keeper. -/
structure Custody (config : Config Grid Task) : Prop where
  once : ∀ id, nftCount id (config.state.handed.map (·.build)) +
    nftCount id config.state.builds =
      nftCount id config.state.placed + nftCount id (config.waiting.flatMap (·.sent))
  keeper : ∀ handed ∈ config.state.handed, handed.Right

/-! ## When the handlers keep custody -/

/-- The handler is placing buildings, or it has handed back and not yet dropped. -/
def Task.moving (task : Task) : Bool :=
  task.supplier.isSome || match task with
    | .handBack _ _ _ => true
    | _ => false

def Request.moves : Request → Bool
  | .putBuild _ | .putBuildList _ | .storeBuild _ _ | .storeUnionNft _ | .giveUpMyGrid _
  | .onCampaignEnd _ | .doMatchSeasonEndClear | .dissolveUnionHandle _ => true
  | _ => false

/-- No suspended handler is moving buildings. -/
def Still (others : List Task) : Prop :=
  ∀ other ∈ others, other.moving = false
  deriving Decidable

/-- No NFT with this id stands on the grid. -/
def Grid.Lacks (grid : Grid) (id : ℕ) : Prop :=
  nftCount id grid.builds = 0
  deriving Decidable

/-- Handlers that move buildings do not overlap, `storeBuild` hands back only what still stands,
`giftWithMyGrid` changes the owner only of a grid without NFTs, and hand-backs do not raise.  An
NFT that is lent to the grid does not stand there already and names no other player. -/
def custodyGuard : Guard Grid Request Task Reply where
  onRequest request _ others := request.moves → Still others
  onReply task reply grid others :=
    match task, reply with
    | .handBack _ _ _, .raise _ => False
    | .checkPermitted _ (.storeBuild build), .allowed _ => ¬ grid.Lacks build.id ∧ Still others
    | .checkPermitted _ .giveUpMyGrid, .allowed _ => Still others
    | .getUnionMember _ _ _, .member found => found → nfts grid.builds = [] ∧ Still others
    | .useNftItemOnGrid put, .build (some data) =>
        (data.ownerPid = 0 ∨ data.ownerPid = put.pid) ∧ grid.Lacks (data.id.getD grid.uuid)
    | .starMapTakeNft _ _, .build (some data) => grid.Lacks (data.id.getD grid.uuid)
    | .useBuildListToGrid list objs, .ids used =>
        (∀ obj ∈ objs, obj.ownerPid = 0 ∨ obj.ownerPid = list.pid) ∧ used.Nodup ∧
          ∀ id ∈ used, grid.Lacks id
    | .starMapUseNftListToGrid _ _ _, .ids used => used.Nodup ∧ ∀ id ∈ used, grid.Lacks id
    | .costResDict _ build, .allowed _ | .costUnionResDict _ build, .allowed _ =>
        grid.Lacks build.id ∧ build.isNFT = false
    | _, _ => True

instance (request grid others) : Decidable (custodyGuard.onRequest request grid others) :=
  inferInstanceAs (Decidable (request.moves → Still others))

instance (task reply grid others) : Decidable (custodyGuard.onReply task reply grid others) := by
  unfold custodyGuard
  induction task using Task.casesOn
  all_goals try (rename_i next; induction next using Permitted.casesOn)
  all_goals
    induction reply using Reply.casesOn <;> first
      | (dsimp only; infer_instance)
      | (rename_i data; induction data using Option.casesOn <;> dsimp only <;> infer_instance)

/-- The NFTs that the last segment of a handler drops. -/
def Drop.takes : Drop → ℕ → Bool
  | .storeBuild buildId, id => decide (id = buildId)
  | .campaignUnknow delBuilds, id => decide (id ∈ delBuilds)
  | _, _ => true

def Task.deletes : Task → Option ℕ
  | .getUnionIdByPid _ (.delBuild buildId) | .checkPermitted _ (.delBuild buildId) => some buildId
  | _ => none

/-- The building that a handler of a union grid is about to store. -/
def Task.stores : Task → Option ℕ
  | .getUnionIdByPid _ (.storeBuild build) | .checkPermitted _ (.storeBuild build) => some build.id
  | _ => none

structure Grid.Sound (grid : Grid) : Prop where
  nodup : (grid.builds.map (·.id)).Nodup
  homeless : grid.owner.isNatural ∨ grid.owner.party = .nobody → nfts grid.builds = []
  owned : ∀ pid, grid.owner.party = .player pid → ∀ nft ∈ nfts grid.builds, nft.2 = pid
  right : ∀ handed ∈ grid.handed, handed.Right

/-- What is sent and still to be sent is what will be dropped. -/
structure HandingBack (grid : Grid) (drop : Drop) (sent : List Build) (rest : List HandBack) :
    Prop where
  covers : ∀ id, nftCount id sent + nftCount id (rest.flatMap (·.builds)) =
    if drop.takes id then nftCount id grid.builds else 0
  right : ∀ back ∈ rest, ∀ build ∈ back.builds, (⟨build, back.keeper, grid.owner⟩ : Handed).Right

/-- What a suspended handler knows about the grid. -/
structure Task.Knows (grid : Grid) (task : Task) : Prop where
  sited : ∀ party ∈ task.supplier, grid.Sited party
  lacks : ∀ id ∈ task.deletes, grid.Lacks id
  stored : ∀ id ∈ task.stores, grid.Lacks id ∨ ∃ unionId, grid.owner.party = .union unionId
  handing : ∀ {drop sent rest}, task = .handBack drop sent rest → HandingBack grid drop sent rest

/-- The invariant of the grid: one handler has the lock, and one handler moves buildings. -/
def custodyPool : Pool Grid Task where
  shared := Grid.Sound
  own grid task := task.Knows grid ∧ (task.holdsLock → grid.locked)
  apart first second :=
    ¬ (first.holdsLock ∧ second.holdsLock) ∧ ¬ (first.moving ∧ second.moving)
  apart_symm := by
    rintro first second ⟨locks, moves⟩
    exact ⟨fun both => locks both.symm, fun both => moves both.symm⟩

/-- NFTs of one id that were handed back or stand, less those that were placed; a handler carries
what it has sent. -/
def custodyLedger (id : ℕ) : Ledger Grid Task ℤ where
  book grid := nftCount id (grid.handed.map (·.build)) + nftCount id grid.builds -
    nftCount id grid.placed
  carry task := -nftCount id task.sent

/-- What a segment keeps, before the lock is looked at. -/
structure Conserves (grid : Grid) (others : List Task) (sent : List Build)
    (result : Grid × List Task) : Prop where
  sound : result.1.Sound
  stable : ∀ other ∈ others, other.Knows result.1
  fresh : ∀ task ∈ result.2, task.Knows result.1
  single : result.2.length ≤ 1
  alone : ∀ task ∈ result.2, task.moving → Still others
  balances : ∀ id, (custodyLedger id).Balances grid (-nftCount id sent) result

/-- A change that leaves the NFTs, their owner and the books alone. -/
structure Calm (before after : Grid) : Prop where
  party : after.owner.party = before.owner.party
  natural : after.owner.isNatural = before.owner.isNatural
  nfts : nfts after.builds = nfts before.builds
  nodup : (after.builds.map (·.id)).Nodup
  placed : after.placed = before.placed
  handed : after.handed = before.handed

section Segments

variable {grid after : Grid} {others : List Task}

theorem Calm.of_same (sound : grid.Sound) (owner_eq : after.owner = grid.owner)
    (builds_eq : after.builds = grid.builds) (placed_eq : after.placed = grid.placed)
    (handed_eq : after.handed = grid.handed) : Calm grid after where
  party := by rw [owner_eq]
  natural := by rw [owner_eq]
  nfts := by rw [builds_eq]
  nodup := by rw [builds_eq]; exact sound.nodup
  placed := placed_eq
  handed := handed_eq

theorem Calm.refl (sound : grid.Sound) : Calm grid grid :=
  .of_same sound rfl rfl rfl rfl

theorem Calm.nftCount (calm : Calm grid after) (id : ℕ) :
    nftCount id after.builds = nftCount id grid.builds := by
  rw [Starmap.nftCount, Starmap.nftCount, calm.nfts]

theorem Calm.sound (calm : Calm grid after) (sound : grid.Sound) : after.Sound where
  nodup := calm.nodup
  homeless := by
    rw [calm.natural, calm.party, calm.nfts]
    exact sound.homeless
  owned := by
    rw [calm.party, calm.nfts]
    exact sound.owned
  right := by
    rw [calm.handed]
    exact sound.right

theorem Calm.sited (calm : Calm grid after) {party : Party} (sited : grid.Sited party) :
    after.Sited party :=
  ⟨calm.party.trans sited.1, calm.natural.trans sited.2⟩

theorem Handed.right_congr {build : Build} {keeper : Keeper} {first second : Owner}
    (party_eq : second.party = first.party) (right : (⟨build, keeper, first⟩ : Handed).Right) :
    (⟨build, keeper, second⟩ : Handed).Right := by
  rw [Handed.Right, party_eq]
  exact right

theorem Calm.handingBack (calm : Calm grid after) {drop : Drop} {sent : List Build}
    {rest : List HandBack} (handing : HandingBack grid drop sent rest) :
    HandingBack after drop sent rest where
  covers id := by
    rw [calm.nftCount]
    exact handing.covers id
  right back back_mem build build_mem :=
    Handed.right_congr calm.party (handing.right back back_mem build build_mem)

theorem Calm.knows (calm : Calm grid after) {task : Task} (knows : task.Knows grid) :
    task.Knows after where
  sited party supplies := calm.sited (knows.sited party supplies)
  lacks id deletes := by
    rw [Grid.Lacks, calm.nftCount]
    exact knows.lacks id deletes
  stored id stores := by
    rw [Grid.Lacks, calm.nftCount, calm.party]
    exact knows.stored id stores
  handing task_eq := calm.handingBack (knows.handing task_eq)

theorem Calm.book (calm : Calm grid after) (id : ℕ) :
    (custodyLedger id).book after = (custodyLedger id).book grid := by
  simp only [custodyLedger]
  rw [calm.nftCount, calm.placed, calm.handed]

theorem Calm.conserves (calm : Calm grid after) (sound : grid.Sound)
    (others_know : ∀ other ∈ others, other.Knows grid) {tasks : List Task}
    (fresh : ∀ task ∈ tasks, task.Knows grid) (single : tasks.length ≤ 1)
    (unsent : ∀ task ∈ tasks, task.sent = []) (alone : ∀ task ∈ tasks, task.moving → Still others) :
    Conserves grid others [] (after, tasks) where
  sound := calm.sound sound
  stable other other_mem := calm.knows (others_know other other_mem)
  fresh task task_mem := calm.knows (fresh task task_mem)
  single := single
  alone := alone
  balances id := by
    have carried : (tasks.map (custodyLedger id).carry).sum = 0 := by
      refine List.sum_eq_zero fun amount amount_mem => ?_
      obtain ⟨task, task_mem, rfl⟩ := List.mem_map.mp amount_mem
      simp [custodyLedger, unsent task task_mem]
    rw [Ledger.Balances, carried, calm.book]
    simp

end Segments

/-! ## Handing back and dropping -/

section Dropping

variable {settings : Settings} {grid : Grid} {others : List Task}

variable {layout : List LayoutBuild} {uuid : ℕ} {drop : Drop}

theorem mem_createLayout {build : Build} (build_mem : build ∈ Grid.createLayout layout uuid) :
    build.isNFT = false := by
  obtain ⟨index, in_range, rfl⟩ := List.mem_mapIdx.mp build_mem
  rfl

@[simp]
theorem nfts_createLayout (layout : List LayoutBuild) (uuid : ℕ) :
    nfts (Grid.createLayout layout uuid) = [] := by
  rw [nfts, List.filter_eq_nil_iff.mpr fun build build_mem => by
    simp [mem_createLayout build_mem], List.map_nil]

theorem nodup_createLayout (layout : List LayoutBuild) (uuid : ℕ) :
    ((Grid.createLayout layout uuid).map (·.id)).Nodup := by
  rw [List.Nodup, List.pairwise_iff_getElem]
  intro first second first_lt second_lt before
  simp only [Grid.createLayout, List.getElem_map, List.getElem_mapIdx, Grid.layoutBuild]
  omega

theorem sound_of_layout (sound : grid.Sound) {after : Grid}
    (builds_eq : after.builds = Grid.createLayout layout uuid)
    (handed_eq : after.handed = grid.handed) : after.Sound where
  nodup := by
    rw [builds_eq]
    exact nodup_createLayout layout uuid
  homeless _ := by rw [builds_eq, nfts_createLayout]
  owned pid _ := by simp [builds_eq]
  right := by
    rw [handed_eq]
    exact sound.right

theorem sound_of_filter (sound : grid.Sound) {after : Grid} (keep : ℕ → Bool)
    (owner_eq : after.owner = grid.owner)
    (builds_eq : after.builds = grid.builds.filter fun build => keep build.id)
    (handed_eq : after.handed = grid.handed) : after.Sound where
  nodup := by
    rw [builds_eq]
    exact sound.nodup.sublist (List.filter_sublist.map _)
  homeless homeless := by
    rw [owner_eq] at homeless
    rw [builds_eq, nfts_filter, sound.homeless homeless, List.filter_nil]
  owned pid party_eq nft nft_mem := by
    rw [owner_eq] at party_eq
    rw [builds_eq, nfts_filter] at nft_mem
    exact sound.owned pid party_eq nft (List.mem_of_mem_filter nft_mem)
  right := by
    rw [handed_eq]
    exact sound.right

/-- What the last segment of a handler does to the grid. -/
structure Finishes (grid : Grid) (drop : Drop) (after : Grid) : Prop where
  sound : after.Sound
  owner : after.owner = grid.owner ∨ nfts after.builds = []
  nfts : nfts after.builds = (nfts grid.builds).filter fun nft => !drop.takes nft.1
  placed : after.placed = grid.placed
  handed : after.handed = grid.handed

theorem finishes_of_layout (sound : grid.Sound) {after : Grid}
    (takes : ∀ nft ∈ nfts grid.builds, drop.takes nft.1)
    (builds_eq : after.builds = Grid.createLayout layout uuid)
    (placed_eq : after.placed = grid.placed) (handed_eq : after.handed = grid.handed) :
    Finishes grid drop after where
  sound := sound_of_layout sound builds_eq handed_eq
  nfts := by
    rw [builds_eq, nfts_createLayout, List.filter_eq_nil_iff.mpr]
    intro nft nft_mem
    simp [takes nft nft_mem]
  owner := .inr (by rw [builds_eq, nfts_createLayout])
  placed := placed_eq
  handed := handed_eq

theorem finishes_of_filter (sound : grid.Sound) {after : Grid} (owner_eq : after.owner = grid.owner)
    (builds_eq : after.builds = grid.builds.filter fun build => !drop.takes build.id)
    (placed_eq : after.placed = grid.placed) (handed_eq : after.handed = grid.handed) :
    Finishes grid drop after where
  sound := sound_of_filter sound (fun id => !drop.takes id) owner_eq builds_eq handed_eq
  nfts := by rw [builds_eq, nfts_filter fun id => !drop.takes id]
  owner := .inl owner_eq
  placed := placed_eq
  handed := handed_eq

theorem finishes_finish (settings : Settings) (sound : grid.Sound) (drop : Drop) :
    Finishes grid drop (grid.finish settings drop) := by
  cases drop with
  | storeBuild buildId =>
      refine finishes_of_filter sound rfl ?_ rfl rfl
      simp [Grid.finish, Grid.dropBuild, Drop.takes]
  | giveUpMyGrid =>
      exact finishes_of_layout sound (fun _ _ => rfl) rfl rfl rfl
  | clear =>
      exact finishes_of_layout sound (fun _ _ => rfl) rfl rfl rfl
  | campaignWin attacker hasRoom =>
      simp only [Grid.finish]
      split
      · exact finishes_of_layout sound (fun _ _ => rfl) rfl rfl rfl
      · split
        · exact finishes_of_layout sound (fun _ _ => rfl) rfl rfl rfl
        · exact finishes_of_layout sound (fun _ _ => rfl) rfl rfl rfl
  | campaignUnknow delBuilds =>
      simp only [Grid.finish]
      split
      next natural =>
        refine finishes_of_layout sound ?_ rfl rfl rfl
        simp [sound.homeless (.inl natural)]
      next =>
        refine finishes_of_filter sound rfl ?_ rfl rfl
        simp [Drop.takes]

theorem Finishes.nftCount {after : Grid} (finishes : Finishes grid drop after) (id : ℕ) :
    nftCount id after.builds = if drop.takes id then 0 else nftCount id grid.builds := by
  rw [Starmap.nftCount, finishes.nfts, List.countP_filter]
  split
  next takes =>
    refine List.countP_eq_zero.mpr fun nft _ => ?_
    simp only [Bool.and_eq_true, decide_eq_true_eq, not_and]
    rintro rfl
    simp [takes]
  next keeps =>
    refine List.countP_congr fun nft _ => ?_
    simp only [Bool.and_eq_true, decide_eq_true_eq, and_iff_left_iff_imp]
    rintro rfl
    simpa using keeps

theorem Finishes.knows {after : Grid} (finishes : Finishes grid drop after) {task : Task}
    (knows : task.Knows grid) (still : task.moving = false) : task.Knows after where
  sited party supplies := by
    rw [Option.mem_def] at supplies
    simp [Task.moving, supplies] at still
  lacks id deletes := by
    have lacks : Starmap.nftCount id grid.builds = 0 := knows.lacks id deletes
    rw [Grid.Lacks, finishes.nftCount, lacks, ite_self]
  stored id stores := by
    rcases finishes.owner with owner_eq | cleared
    · rcases knows.stored id stores with lacks | owned
      · left
        have lacks : Starmap.nftCount id grid.builds = 0 := lacks
        rw [Grid.Lacks, finishes.nftCount, lacks, ite_self]
      · right
        rwa [owner_eq]
    · left
      rw [Grid.Lacks, Starmap.nftCount, cleared, List.countP_nil]
  handing task_eq := by simp [task_eq, Task.moving] at still

theorem knows_of_still {after : Grid} {task : Task} (knows : task.Knows grid)
    (still : task.moving = false) (owner_eq : after.owner = grid.owner)
    (builds_eq : after.builds = grid.builds) : task.Knows after where
  sited party supplies := by
    rw [Grid.Sited, owner_eq]
    exact knows.sited party supplies
  lacks id deletes := by
    rw [Grid.Lacks, builds_eq]
    exact knows.lacks id deletes
  stored id stores := by
    rw [Grid.Lacks, builds_eq, owner_eq]
    exact knows.stored id stores
  handing task_eq := by simp [task_eq, Task.moving] at still

theorem handingBack_next {sent : List Build} {back : HandBack} {rest : List HandBack}
    (handing : HandingBack grid drop sent (back :: rest)) :
    HandingBack (grid.handOver back) drop (back.builds ++ sent) rest where
  covers id := by
    rw [nftCount_append]
    have covers := handing.covers id
    rw [List.flatMap_cons, nftCount_append] at covers
    have same : (grid.handOver back).builds = grid.builds := rfl
    rw [same]
    omega
  right next next_mem := handing.right next (by simp [next_mem])

theorem sound_handOver (sound : grid.Sound) {back : HandBack}
    (right : ∀ build ∈ back.builds, (⟨build, back.keeper, grid.owner⟩ : Handed).Right) :
    (grid.handOver back).Sound where
  nodup := sound.nodup
  homeless := sound.homeless
  owned := sound.owned
  right handed handed_mem := by
    rcases List.mem_append.mp handed_mem with new | old
    · obtain ⟨build, build_mem, rfl⟩ := List.mem_map.mp new
      exact right build build_mem
    · exact sound.right handed old

theorem book_handOver (back : HandBack) (id : ℕ) :
    (custodyLedger id).book (grid.handOver back) =
      (custodyLedger id).book grid + nftCount id back.builds := by
  have handed_eq : (grid.handOver back).handed.map (·.build) =
      back.builds ++ grid.handed.map (·.build) := by
    simp [Grid.handOver, Function.comp_def]
  simp only [custodyLedger]
  rw [handed_eq, nftCount_append]
  have same : (grid.handOver back).builds = grid.builds ∧
    (grid.handOver back).placed = grid.placed := ⟨rfl, rfl⟩
  rw [same.1, same.2]
  push_cast
  ring

theorem conserves_finished {after : Grid} (finishes : Finishes grid drop after)
    (others_know : ∀ other ∈ others, other.Knows grid) (still : Still others) {sent : List Build}
    (handing : HandingBack grid drop sent []) : Conserves grid others sent (after, []) where
  sound := finishes.sound
  stable other other_mem := finishes.knows (others_know other other_mem) (still other other_mem)
  fresh := by simp
  single := by simp
  alone := by simp
  balances id := by
    have covers := handing.covers id
    have dropped := finishes.nftCount id
    simp only [Ledger.Balances, custodyLedger, List.map_nil, List.sum_nil, List.flatMap_nil,
      nftCount_nil] at covers ⊢
    rw [finishes.placed, finishes.handed, dropped]
    split at covers
    next takes =>
      rw [if_pos takes]
      omega
    next keeps =>
      rw [if_neg keeps]
      omega

theorem conserves_handBackAll (settings : Settings) (sound : grid.Sound)
    (others_know : ∀ other ∈ others, other.Knows grid) (still : Still others) {sent : List Build}
    {rest : List HandBack} (handing : HandingBack grid drop sent rest) :
    Conserves grid others sent (grid.handBackAll settings drop sent rest) := by
  cases rest with
  | nil => exact conserves_finished (finishes_finish settings sound drop) others_know still handing
  | cons back rest =>
      exact
        { sound := sound_handOver sound (handing.right back (by simp))
          stable := fun other other_mem =>
            knows_of_still (others_know other other_mem) (still other other_mem) rfl rfl
          fresh := by
            simp only [Grid.handBackAll, List.mem_singleton]
            rintro task rfl
            exact ⟨by simp [Task.supplier], by simp [Task.deletes], by simp [Task.stores], by
              rintro drop sent rest ⟨⟩
              exact handingBack_next handing⟩
          single := by simp [Grid.handBackAll]
          alone := fun _ _ _ => still
          balances := fun id => by
            rw [Ledger.Balances, Grid.handBackAll, book_handOver]
            simp only [custodyLedger, Task.sent, List.map_cons, List.map_nil, List.sum_cons,
              List.sum_nil, nftCount_append]
            push_cast
            ring }

theorem Conserves.of_calm {mid : Grid} (calm : Calm grid mid) {sent : List Build}
    {result : Grid × List Task} (conserves : Conserves mid others sent result) :
    Conserves grid others sent result where
  sound := conserves.sound
  stable := conserves.stable
  fresh := conserves.fresh
  single := conserves.single
  alone := conserves.alone
  balances id := by
    rw [Ledger.Balances, ← calm.book]
    exact conserves.balances id

end Dropping

/-! ## Plans of hand-backs -/

section Plans

variable {settings : Settings} {grid : Grid} {others : List Task}

theorem nftCount_filter_of_all {builds : List Build} {part : Build → Bool}
    (all : ∀ build ∈ builds, build.isNFT → part build) (id : ℕ) :
    nftCount id (builds.filter part) = nftCount id builds := by
  have nfts_eq : nfts (builds.filter part) = nfts builds := by
    rw [nfts, nfts, List.filter_filter]
    congr 1
    refine List.filter_congr fun build build_mem => ?_
    have in_part := all build build_mem
    cases is_nft : build.isNFT <;> simp_all
  rw [nftCount, nftCount, nfts_eq]

theorem nftCount_groupByOwner (id : ℕ) (builds : List Build) :
    nftCount id ((groupByOwner builds).flatMap (·.builds)) =
      nftCount id (builds.filter (·.ownerPid ≠ 0)) :=
  nftCount_perm id (groupByOwner_perm builds)

theorem right_groupByOwner {owner : Owner} {pid : ℕ} (party_eq : owner.party = .player pid)
    (builds : List Build) : ∀ back ∈ groupByOwner builds, ∀ build ∈ back.builds,
      (⟨build, back.keeper, owner⟩ : Handed).Right := by
  intro back back_mem build build_mem
  right
  change owner.party.Keeps build back.keeper
  rw [party_eq]
  exact groupByOwner_keeper builds back back_mem build build_mem

theorem handing_storePlan (sound : grid.Sound) {drop : Drop} (takes : ∀ id, drop.takes id) :
    HandingBack grid drop [] grid.storePlan := by
  cases party_eq : grid.owner.party with
  | player pid =>
      have plan_eq : grid.storePlan = groupByOwner grid.builds := by
        simp [Grid.storePlan, party_eq]
      rw [plan_eq]
      refine ⟨fun id => ?_, right_groupByOwner party_eq grid.builds⟩
      have named : ∀ build ∈ grid.builds, build.isNFT → decide (build.ownerPid ≠ 0) := by
        intro build build_mem is_nft
        have owned := sound.owned pid party_eq (build.id, build.ownerPid)
          (mem_nfts.mpr ⟨build, build_mem, is_nft, rfl, rfl⟩)
        have pid_eq : build.ownerPid = pid := owned
        simpa [pid_eq] using (player_of_party party_eq).2
      rw [nftCount_groupByOwner, nftCount_filter_of_all named, if_pos (takes id), nftCount_nil,
        zero_add]
  | union unionId =>
      have plan_eq : grid.storePlan = [⟨.union unionId, grid.builds.filter (·.isNFT)⟩] := by
        simp [Grid.storePlan, party_eq]
      rw [plan_eq]
      refine ⟨fun id => ?_, ?_⟩
      · rw [if_pos (takes id), List.flatMap_singleton,
          nftCount_filter_of_all (fun _ _ is_nft => is_nft), nftCount_nil, zero_add]
      · simp [Handed.Right, Party.Keeps, party_eq]
  | nobody =>
      have plan_eq : grid.storePlan = [] := by simp [Grid.storePlan, party_eq]
      rw [plan_eq]
      refine ⟨fun id => ?_, by simp⟩
      simp [nftCount, sound.homeless (.inr party_eq)]

/-- The plan of `_handleNftsLife` has the NFTs that it takes away, each for its keeper. -/
theorem handing_lifePlan (sound : grid.Sound) (remainBuilds : List ℕ) :
    HandingBack grid (.campaignUnknow ((grid.delBuilds remainBuilds).map (·.id))) []
      (grid.lifePlan remainBuilds) := by
  have taken : ∀ (part : Build → Bool) (id : ℕ),
      nftCount id (grid.builds.filter part) =
        if (Drop.campaignUnknow ((grid.builds.filter part).map (·.id))).takes id then
          nftCount id grid.builds else 0 := by
    intro part id
    rw [nftCount_part sound.nodup part id]
    simp only [Drop.takes, decide_eq_true_eq]
  cases party_eq : grid.owner.party with
  | player pid =>
      have plan_eq : grid.lifePlan remainBuilds =
          groupByOwner (grid.lifeless remainBuilds) ++ [⟨.union grid.owner.unionId, []⟩] := by
        simp [Grid.lifePlan, party_eq]
      have del_eq : grid.delBuilds remainBuilds =
          (grid.lifeless remainBuilds).filter (·.ownerPid ≠ 0) := by
        simp [Grid.delBuilds, party_eq]
      rw [plan_eq, del_eq]
      refine ⟨fun id => ?_, ?_⟩
      · rw [List.flatMap_append, nftCount_append, nftCount_groupByOwner, Grid.lifeless,
          List.filter_filter, taken]
        simp
      · intro back back_mem build build_mem
        rcases List.mem_append.mp back_mem with grouped | last
        · exact right_groupByOwner party_eq _ back grouped build build_mem
        · rw [List.mem_singleton.mp last] at build_mem
          cases build_mem
  | union unionId =>
      have plan_eq : grid.lifePlan remainBuilds =
          [⟨.union unionId, grid.lifeless remainBuilds⟩] := by
        simp [Grid.lifePlan, party_eq]
      have del_eq : grid.delBuilds remainBuilds = grid.lifeless remainBuilds := by
        simp [Grid.delBuilds, party_eq]
      rw [plan_eq, del_eq]
      refine ⟨fun id => ?_, ?_⟩
      · rw [List.flatMap_singleton, Grid.lifeless, taken, nftCount_nil, zero_add]
      · simp [Handed.Right, Party.Keeps, party_eq]
  | nobody =>
      have plan_eq : grid.lifePlan remainBuilds = [⟨.union grid.owner.unionId, []⟩] := by
        simp [Grid.lifePlan, party_eq]
      have del_eq : grid.delBuilds remainBuilds = [] := by
        simp [Grid.delBuilds, party_eq]
      rw [plan_eq, del_eq]
      exact ⟨fun id => by simp [Drop.takes], by simp⟩

theorem calm_costLife (sound : grid.Sound) (remainBuilds : List ℕ) :
    Calm grid (grid.costLife settings remainBuilds) := by
  refine ⟨rfl, rfl, nfts_map _ fun build => ?_, ?_, rfl, rfl⟩
  · split <;> exact ⟨rfl, rfl, rfl⟩
  · have ids_eq : (grid.costLife settings remainBuilds).builds.map (·.id) =
        grid.builds.map (·.id) := by
      rw [Grid.costLife, List.map_map]
      refine List.map_congr_left fun build _ => ?_
      simp only [Function.comp_apply]
      split <;> rfl
    rw [ids_eq]
    exact sound.nodup

variable (sound : grid.Sound) (others_know : ∀ other ∈ others, other.Knows grid)
  (still : Still others)

include sound others_know still

theorem conserves_storeNftBuilds (settings : Settings) {drop : Drop}
    (takes : ∀ id, drop.takes id) :
    Conserves grid others [] (grid.storeNftBuilds settings drop) :=
  conserves_handBackAll settings sound others_know still (handing_storePlan sound takes)

theorem conserves_handleNftsLife (settings : Settings) (remainBuilds : List ℕ) :
    Conserves grid others [] (grid.handleNftsLife settings remainBuilds) := by
  rw [Grid.handleNftsLife]
  split
  · refine conserves_handBackAll settings sound others_know still ⟨fun id => ?_, by simp⟩
    simp [Drop.takes]
  · have calm : Calm grid (grid.costLife settings remainBuilds) := calm_costLife sound remainBuilds
    exact (conserves_handBackAll settings (calm.sound sound)
      (fun other other_mem => calm.knows (others_know other other_mem)) still
      (handing_lifePlan (calm.sound sound) remainBuilds)).of_calm calm

theorem conserves_onCampaignEnd (settings : Settings) (campaign : CampaignEnd) :
    Conserves grid others [] (grid.onCampaignEnd settings campaign) := by
  rw [Grid.onCampaignEnd]
  split
  · have calm : Calm grid (grid.costDefenceBuildLife settings campaign.remainBuilds) := by
      rw [Grid.costDefenceBuildLife]
      split
      · exact .refl sound
      · exact calm_costLife sound campaign.remainBuilds
    exact (conserves_storeNftBuilds (calm.sound sound)
      (fun other other_mem => calm.knows (others_know other other_mem)) still settings
      (fun _ => rfl)).of_calm calm
  · exact conserves_handleNftsLife sound others_know still settings campaign.remainBuilds
  · exact (Calm.refl sound).conserves sound others_know (by simp) (by simp) (by simp) (by simp)

end Plans

/-! ## Placing, deleting and moving -/

section Placing

variable {settings : Settings} {grid : Grid} {others : List Task}

variable {id : ℕ} {build : Build}

theorem nfts_filter_of_lacks {builds : List Build} (lacks : nftCount id builds = 0) :
    nfts (builds.filter (·.id ≠ id)) = nfts builds := by
  rw [nfts_filter fun other => decide (other ≠ id), List.filter_eq_self]
  intro nft nft_mem
  obtain ⟨build, build_mem, is_nft, id_eq, -⟩ := mem_nfts.mp nft_mem
  simpa [← id_eq] using nftCount_eq_zero.mp lacks build build_mem is_nft

theorem calm_dropBuild (sound : grid.Sound) (lacks : grid.Lacks id) :
    Calm grid (grid.dropBuild id) where
  party := rfl
  natural := rfl
  nfts := nfts_filter_of_lacks lacks
  nodup := sound.nodup.sublist (List.filter_sublist.map _)
  placed := rfl
  handed := rfl

theorem calm_setBuild (sound : grid.Sound) (lacks : grid.Lacks build.id)
    (not_nft : build.isNFT = false) : Calm grid (grid.setBuild build) where
  party := rfl
  natural := rfl
  nfts := by
    rw [Grid.setBuild, nfts_cons, nfts_filter_of_lacks lacks]
    simp [not_nft]
  nodup := nodup_setBuild sound.nodup build
  placed := rfl
  handed := rfl

theorem calm_move (settings : Settings) (sound : grid.Sound) (build : Build) (pos : Pos) :
    Calm grid (grid.move settings build pos) := by
  rw [Grid.move]
  split
  · exact .of_same sound rfl rfl rfl rfl
  · refine ⟨rfl, rfl, nfts_map _ fun other => ?_, ?_, rfl, rfl⟩
    · split
      · exact ⟨rfl, rfl, rfl⟩
      · split <;> exact ⟨rfl, rfl, rfl⟩
    · simp only [List.map_map]
      convert sound.nodup using 2
      funext other
      simp only [Function.comp_apply]
      split
      · rfl
      · split <;> rfl

theorem calm_updateOwnerInfo (sound : grid.Sound) (unionId : ℕ) :
    Calm grid (grid.updateOwnerInfo unionId) := by
  obtain ⟨party_eq, natural_eq, builds_eq⟩ := updateOwnerInfo_frame grid unionId
  refine ⟨party_eq, natural_eq, by rw [builds_eq], by rw [builds_eq]; exact sound.nodup, ?_, ?_⟩ <;>
    · rw [Grid.updateOwnerInfo]
      split <;> rfl

/-- Lending buildings to the grid keeps its books. -/
structure Lent (before after : Grid) : Prop where
  owner : after.owner = before.owner
  sound : after.Sound
  book : ∀ id, (custodyLedger id).book after = (custodyLedger id).book before

theorem Lent.trans {first second third : Grid} (earlier : Lent first second)
    (later : Lent second third) : Lent first third where
  owner := later.owner.trans earlier.owner
  sound := later.sound
  book id := (later.book id).trans (earlier.book id)

theorem Calm.lent {after : Grid} (calm : Calm grid after) (sound : grid.Sound)
    (owner_eq : after.owner = grid.owner) : Lent grid after where
  owner := owner_eq
  sound := calm.sound sound
  book := calm.book

theorem Lent.conserves {after : Grid} (lent : Lent grid after) {tasks : List Task}
    (fresh : ∀ task ∈ tasks, task.Knows after) (single : tasks.length ≤ 1)
    (unsent : ∀ task ∈ tasks, task.sent = []) : Conserves grid [] [] (after, tasks) where
  sound := lent.sound
  stable := by simp
  fresh := fresh
  single := single
  alone := by simp [Still]
  balances id := by
    have carried : (tasks.map (custodyLedger id).carry).sum = 0 := by
      refine List.sum_eq_zero fun amount amount_mem => ?_
      obtain ⟨task, task_mem, rfl⟩ := List.mem_map.mp amount_mem
      simp [custodyLedger, unsent task task_mem]
    rw [Ledger.Balances, carried, lent.book]
    simp

theorem nfts_place (lacks : grid.Lacks build.id) :
    nfts (grid.place build).builds =
      (if build.isNFT then [(build.id, build.ownerPid)] else []) ++ nfts grid.builds := by
  rw [Grid.place, Grid.setBuild, nfts_cons, nfts_filter_of_lacks lacks]

theorem lent_place (sound : grid.Sound) {party : Party} (sited : grid.Sited party)
    (lends : party ≠ .nobody) (lacks : grid.Lacks build.id)
    (named : ∀ pid, party = .player pid → build.isNFT → build.ownerPid = pid) :
    Lent grid (grid.place build) := by
  obtain ⟨party_eq, natural_eq⟩ := sited
  refine ⟨rfl, ⟨nodup_setBuild sound.nodup build, ?_, ?_, sound.right⟩, fun id => ?_⟩
  · rintro (natural | nobody)
    · exact absurd natural (by simp [Grid.place, Grid.setBuild, natural_eq])
    · exact absurd (party_eq.symm.trans nobody) lends
  · intro pid player_eq nft nft_mem
    rw [nfts_place lacks] at nft_mem
    rcases List.mem_append.mp nft_mem with new | old
    · cases is_nft : build.isNFT with
      | false => simp [is_nft] at new
      | true =>
          simp only [is_nft, if_true, List.mem_singleton] at new
          rw [new]
          exact named pid (party_eq.symm.trans player_eq) is_nft
    · exact sound.owned pid player_eq nft old
  · have stands : nftCount id (grid.place build).builds =
        nftCount id [build] + nftCount id grid.builds := by
      rw [nftCount, nfts_place lacks, List.countP_append, nftCount, nftCount, nfts_cons,
        nfts_nil, List.append_nil]
    have placed_eq : (grid.place build).placed = build :: grid.placed := rfl
    have handed_eq : (grid.place build).handed = grid.handed := rfl
    simp only [custodyLedger]
    rw [stands, placed_eq, handed_eq, nftCount_cons id build grid.placed]
    push_cast
    ring

theorem lacks_place (lacks : grid.Lacks build.id) (other : id ≠ build.id)
    (lacks_other : grid.Lacks id) : (grid.place build).Lacks id := by
  have none : nftCount id grid.builds = 0 := lacks_other
  rw [Grid.Lacks, nftCount, nfts_place lacks, List.countP_append]
  change _ + nftCount id grid.builds = 0
  rw [none]
  cases build.isNFT <;> simp [other.symm]

end Placing

end BasWar.Starmap
