import BasWar.Starmap.GridCustody

/-!
# Every schedule of a grid keeps custody

Each segment of a handler is calm, lends a building to the grid, or hands back.  From this every
guarded schedule keeps the invariant and the books.
-/

namespace BasWar.Starmap

open Cooperative

section Waiting

variable {grid after : Grid} {others : List Task}

variable {task : Task}

theorem knows_idle (still : task.moving = false) (deletes : task.deletes = none)
    (stores : task.stores = none) : task.Knows grid where
  sited party supplies := by
    rw [Option.mem_def] at supplies
    simp [Task.moving, supplies] at still
  lacks id mem := by simp [deletes] at mem
  stored id mem := by simp [stores] at mem
  handing task_eq := by simp [task_eq, Task.moving] at still

theorem knows_placing {party : Party} (supplies : task.supplier = some party)
    (sited : grid.Sited party) : task.Knows grid where
  sited other mem := by
    rw [supplies] at mem
    cases mem
    exact sited
  lacks id mem := by cases task <;> simp_all [Task.supplier, Task.deletes]
  stored id mem := by cases task <;> simp_all [Task.supplier, Task.stores]
  handing task_eq := by simp [task_eq, Task.supplier] at supplies

variable (sound : grid.Sound) (others_know : ∀ other ∈ others, other.Knows grid)
  (calm : Calm grid after)

include sound others_know calm

theorem conserves_end : Conserves grid others [] (after, []) :=
  calm.conserves sound others_know (by simp) (by simp) (by simp) (by simp)

theorem conserves_wait (knows : task.Knows grid) (unsent : task.sent = [])
    (alone : task.moving → Still others) : Conserves grid others [] (after, [task]) :=
  calm.conserves sound others_know (by simpa using knows) (by simp) (by simpa using unsent)
    (by simpa using alone)

end Waiting

theorem mem_of_getBuild {grid : Grid} {id : ℕ} {build : Build}
    (found : grid.getBuild id = some build) :
    build ∈ grid.builds ∧ build.id = id := by
  obtain ⟨build_mem, id_eq⟩ := And.intro (List.mem_of_find?_eq_some found)
    (List.find?_some found)
  exact ⟨build_mem, by simpa using id_eq⟩

theorem lacks_of_getBuild {grid : Grid} (sound : grid.Sound) {id : ℕ} {build : Build}
    (found : grid.getBuild id = some build)
    (not_nft : build.isNFT = false) : grid.Lacks id := by
  obtain ⟨build_mem, id_eq⟩ := mem_of_getBuild found
  refine nftCount_eq_zero.mpr fun other other_mem is_nft other_id => ?_
  have same : other = build :=
    List.inj_on_of_nodup_map sound.nodup other_mem build_mem (other_id.trans id_eq.symm)
  rw [same, not_nft] at is_nft
  cases is_nft

section Requests

variable {grid : Grid} {others : List Task} (settings : Settings) (sound : grid.Sound)
  (others_know : ∀ other ∈ others, other.Knows grid)

include sound others_know

theorem conserves_say (error : GridError) : Conserves grid others [] (grid.say error, []) :=
  conserves_end sound others_know (.of_same sound rfl rfl rfl rfl)

theorem conserves_same : Conserves grid others [] (grid, []) :=
  conserves_end sound others_know (.refl sound)

theorem conserves_asks {result : Grid × List Task} (asks : Asks grid result)
    (still : Still others) : Conserves grid others [] result := by
  obtain ⟨after, tasks⟩ := result
  obtain ⟨⟨said, after_eq⟩, next⟩ := asks
  have after_eq : after = { grid with said := said } := after_eq
  have calm : Calm grid after := by
    rw [after_eq]
    exact .of_same sound rfl rfl rfl rfl
  rcases next with ended | ⟨task, party, tasks_eq, supplies, sited, -⟩
  · cases ended
    exact conserves_end sound others_know calm
  · cases tasks_eq
    have unsent : task.sent = [] := by cases task <;> simp_all [Task.supplier, Task.sent]
    exact conserves_wait sound others_know calm (knows_placing supplies sited) unsent fun _ => still

theorem conserves_idle {task : Task} (still : task.moving = false) (deletes : task.deletes = none)
    (stores : task.stores = none) : Conserves grid others [] (grid, [task]) :=
  conserves_wait sound others_know (.refl sound) (knows_idle still deletes stores)
    (by cases task <;> simp_all [Task.moving, Task.sent]) (by simp [still])

theorem conserves_addDefenselBuild (put : Put) :
    Conserves grid others [] (grid.addDefenselBuild settings put) := by
  rw [Grid.addDefenselBuild]
  split
  · exact conserves_say sound others_know _
  · split
    · exact conserves_say sound others_know _
    · exact conserves_idle sound others_know rfl rfl rfl

theorem conserves_store {build : Build} (build_mem : build ∈ grid.builds) (keeper : Keeper)
    (right : (⟨build, keeper, grid.owner⟩ : Handed).Right) (still : Still others) :
    Conserves grid others []
      (grid.handBackAll settings (.storeBuild build.id) [] [⟨keeper, [build]⟩]) := by
  refine conserves_handBackAll settings sound others_know still ⟨fun id => ?_, ?_⟩
  · simp only [List.flatMap_singleton, nftCount_nil, zero_add, Drop.takes, decide_eq_true_eq]
    exact nftCount_singleton sound.nodup build_mem id
  · simpa using right

theorem conserves_permitted (next : Permitted) (keeper : Keeper)
    (storing : ∀ build, next = .storeBuild build → Still others ∧ ∃ current ∈ grid.builds,
      grid.getBuild build.id = some current ∧ current.id = build.id ∧
        (⟨current, keeper, grid.owner⟩ : Handed).Right)
    (giving : next = .giveUpMyGrid → Still others)
    (deleting : ∀ id, next = .delBuild id → grid.Lacks id) :
    Conserves grid others [] (grid.permitted settings next keeper) := by
  cases next with
  | storeBuild build =>
      obtain ⟨still, current, current_mem, found, id_eq, right⟩ := storing build rfl
      simp only [Grid.permitted, found, Option.getD_some]
      rw [← id_eq]
      exact conserves_store settings sound others_know current_mem keeper right still
  | giveUpMyGrid =>
      exact conserves_storeNftBuilds sound others_know (giving rfl) settings fun _ => rfl
  | delBuild id =>
      exact conserves_end sound others_know (calm_dropBuild sound (deleting id rfl))
  | moveBuild build pos =>
      exact conserves_end sound others_know (calm_move settings sound build pos)

theorem conserves_askOwner (pid : ℕ) (next : Permitted)
    (storing : ∀ build, next = .storeBuild build → Still others ∧ build ∈ grid.builds ∧
      grid.getBuild build.id = some build ∧ build.isNFT)
    (giving : next = .giveUpMyGrid → Still others)
    (deleting : ∀ id, next = .delBuild id → grid.Lacks id) :
    Conserves grid others [] (grid.askOwner settings pid next) := by
  rw [Grid.askOwner]
  split
  next owner party_eq =>
    split
    · exact conserves_say sound others_know _
    next mine =>
      have pid_eq : owner = pid := (player_of_party party_eq).1.symm.trans (by simpa using mine)
      refine conserves_permitted settings sound others_know next _ ?_ giving deleting
      intro build next_eq
      obtain ⟨still, build_mem, found, is_nft⟩ := storing build next_eq
      refine ⟨still, build, build_mem, found, rfl, .inr ?_⟩
      have owned : build.ownerPid = owner := sound.owned owner party_eq (build.id, build.ownerPid)
        (mem_nfts.mpr ⟨build, build_mem, is_nft, rfl, rfl⟩)
      change grid.owner.party.Keeps build (.bag pid)
      rw [party_eq, ← pid_eq, ← owned]
      rfl
  next unionId party_eq =>
    refine conserves_wait sound others_know (.refl sound) ⟨by simp [Task.supplier], ?_, ?_,
      by simp⟩ rfl (by simp [Task.moving, Task.supplier])
    · intro id deletes
      cases next <;> simp_all [Task.deletes]
    · intro id stores
      exact .inr ⟨unionId, party_eq⟩
  · exact conserves_same sound others_know

theorem conserves_moveBuild (pid buildId : ℕ) (pos : Pos) :
    Conserves grid others [] (grid.moveBuild settings pid buildId pos) := by
  rw [Grid.moveBuild]
  split
  · exact conserves_say sound others_know _
  · split
    · exact conserves_say sound others_know _
    · exact conserves_askOwner settings sound others_know pid _ (by simp) (by simp) (by simp)

theorem conserves_delBuild (pid buildId : ℕ) :
    Conserves grid others [] (grid.delBuild settings pid buildId) := by
  rw [Grid.delBuild]
  split
  · exact conserves_say sound others_know _
  · split
    · exact conserves_say sound others_know _
    next build found =>
      split
      · exact conserves_say sound others_know _
      · split
        · exact conserves_say sound others_know _
        next not_nft =>
          refine conserves_askOwner settings sound others_know pid _ (by simp) (by simp) ?_
          rintro id ⟨⟩
          exact lacks_of_getBuild sound found (by simpa using not_nft)

theorem conserves_storeBuild (pid buildId : ℕ) (still : Still others) :
    Conserves grid others [] (grid.storeBuild settings pid buildId) := by
  rw [Grid.storeBuild]
  split
  · exact conserves_say sound others_know _
  · split
    · exact conserves_say sound others_know _
    next build found =>
      split
      · exact conserves_say sound others_know _
      next is_nft =>
        refine conserves_askOwner settings sound others_know pid _ ?_ (by simp) (by simp)
        rintro other ⟨⟩
        obtain ⟨build_mem, id_eq⟩ := mem_of_getBuild found
        exact ⟨still, build_mem, by rw [id_eq]; exact found, by simpa using is_nft⟩

theorem conserves_giveUpMyGrid (pid : ℕ) (still : Still others) :
    Conserves grid others [] (grid.giveUpMyGrid settings pid) := by
  fun_cases Grid.giveUpMyGrid settings pid grid
  case case5 =>
    exact conserves_askOwner settings sound others_know pid _ (by simp) (fun _ => still) (by simp)
  all_goals exact conserves_say sound others_know _

theorem conserves_storeUnionNft (buildId : ℕ) (still : Still others) :
    Conserves grid others [] (grid.storeUnionNft buildId) := by
  rw [Grid.storeUnionNft]
  split
  · exact conserves_same sound others_know
  next build found =>
    split
    · exact conserves_same sound others_know
    · obtain ⟨build_mem, id_eq⟩ := mem_of_getBuild found
      have handing : HandingBack grid (.storeBuild buildId) [] [⟨.caller, [build]⟩] := by
        refine ⟨fun id => ?_, by simp [Handed.Right]⟩
        simp only [List.flatMap_singleton, nftCount_nil, zero_add, Drop.takes, decide_eq_true_eq]
        rw [← id_eq]
        exact nftCount_singleton sound.nodup build_mem id
      have sound_after : (grid.handOver ⟨.caller, [build]⟩).Sound :=
        sound_handOver sound (by simp [Handed.Right])
      have finishes : Finishes (grid.handOver ⟨.caller, [build]⟩) (.storeBuild buildId)
          ((grid.handOver ⟨.caller, [build]⟩).dropBuild buildId) :=
        finishes_of_filter sound_after rfl (by simp [Grid.dropBuild, Drop.takes]) rfl rfl
      have dropped : Conserves _ others _ _ := conserves_finished finishes
        (fun other other_mem =>
          knows_of_still (others_know other other_mem) (still other other_mem) rfl rfl)
        still (handingBack_next handing)
      refine ⟨dropped.sound, dropped.stable, dropped.fresh, dropped.single, dropped.alone,
        fun id => ?_⟩
      have balance := dropped.balances id
      rw [Ledger.Balances, book_handOver] at balance
      rw [Ledger.Balances, balance]
      simp

end Requests

/-! ## Placing -/

section Placing

variable {settings : Settings} {grid : Grid} {party : Party}

theorem of_createBuild {data : BuildData} {pos : Pos} {ownerPid : ℕ} {build : Build}
    (created : grid.createBuild settings data pos ownerPid = some build) :
    build.id = data.id.getD grid.uuid ∧ build.ownerPid = ownerPid := by
  obtain ⟨cfg, -, rfl⟩ := Option.map_eq_some_iff.mp created
  exact ⟨rfl, rfl⟩

theorem useUuid_frame (data : BuildData) (grid : Grid) :
    (grid.useUuid data).owner = grid.owner ∧ (grid.useUuid data).builds = grid.builds ∧
      (grid.useUuid data).placed = grid.placed ∧ (grid.useUuid data).handed = grid.handed ∧
      (grid.useUuid data).locked = grid.locked := by
  rw [Grid.useUuid]
  split <;> exact ⟨rfl, rfl, rfl, rfl, rfl⟩

theorem calm_useUuid (sound : grid.Sound) (data : BuildData) : Calm grid (grid.useUuid data) :=
  have ⟨owner_eq, builds_eq, placed_eq, handed_eq, _⟩ := useUuid_frame data grid
  .of_same sound owner_eq builds_eq placed_eq handed_eq

theorem Lent.endPlacing {mid : Grid} (lent : Lent grid mid) (used released : List ℕ) :
    Conserves grid [] [] (mid.endPlacing party used released) := by
  have calm : Calm mid (mid.endPlacing party used released).1 :=
    .of_same lent.sound rfl rfl rfl rfl
  exact (lent.trans (calm.lent lent.sound rfl)).conserves (by simp) (by simp) (by simp)

theorem conserves_putTaken (sound : grid.Sound) (sited : grid.Sited party)
    (lends : party ≠ .nobody) {put : Put} {data : BuildData} {ownerPid : ℕ}
    (lacks : grid.Lacks (data.id.getD grid.uuid))
    (named : ∀ pid, party = .player pid → ownerPid = pid) :
    Conserves grid [] [] (grid.putTaken settings party put data ownerPid) := by
  rw [Grid.putTaken]
  split
  · have calm : Calm grid (grid.say .buildCreateErr) := .of_same sound rfl rfl rfl rfl
    exact (calm.lent sound rfl).endPlacing [put.buildId] []
  next build created =>
    obtain ⟨id_eq, owner_eq⟩ := of_createBuild created
    have calm := calm_useUuid sound data
    have lacks : (grid.useUuid data).Lacks build.id := by
      rw [Grid.Lacks, calm.nftCount, id_eq]
      exact lacks
    have placed : Lent (grid.useUuid data) ((grid.useUuid data).place build) :=
      lent_place (calm.sound sound) (calm.sited sited) lends lacks fun pid player_eq _ => by
        rw [owner_eq, named pid player_eq]
    have lent : Lent grid ((grid.useUuid data).place build) :=
      (calm.lent sound (useUuid_frame data grid).1).trans placed
    exact lent.endPlacing [put.buildId] []

theorem of_placeListed {list : PutList} {objs : List BuildData} {ownerPid : BuildData → ℕ}
    {id : ℕ} {after : Grid}
    (listed : grid.placeListed settings list objs ownerPid id = some after) :
    ∃ obj ∈ objs, ∃ build, build.id = id ∧ build.ownerPid = ownerPid obj ∧
      after = grid.place build := by
  simp only [Grid.placeListed, Option.bind_eq_bind, Option.bind_eq_some_iff,
    Option.some.injEq] at listed
  obtain ⟨obj, obj_found, cfg, -, pos, -, _, -, build, created, rfl⟩ := listed
  obtain ⟨id_eq, owner_eq⟩ := of_createBuild created
  have obj_id : obj.id = some id := by simpa using List.find?_some obj_found
  refine ⟨obj, List.mem_reverse.mp (List.mem_of_find?_eq_some obj_found), build, ?_, owner_eq, rfl⟩
  rw [id_eq, obj_id, Option.getD_some]

theorem lent_placeList {list : PutList} {objs : List BuildData} {ownerPid : BuildData → ℕ}
    (lends : party ≠ .nobody)
    (named : ∀ obj ∈ objs, ∀ pid, party = .player pid → ownerPid obj = pid) (used : List ℕ) :
    ∀ {grid : Grid}, grid.Sound → grid.Sited party → used.Nodup →
      (∀ id ∈ used, grid.Lacks id) →
        Lent grid (Grid.placeList settings list objs ownerPid used grid).1 := by
  induction used with
  | nil => exact fun sound _ _ _ => (Calm.refl sound).lent sound rfl
  | cons id used ih =>
      intro grid sound sited nodup lacks
      obtain ⟨not_again, nodup⟩ := List.nodup_cons.mp nodup
      rw [Grid.placeList]
      split
      next after listed =>
        obtain ⟨obj, obj_mem, build, id_eq, owner_eq, rfl⟩ := of_placeListed listed
        have lacks_build : grid.Lacks build.id := id_eq ▸ lacks id (by simp)
        have placed : Lent grid (grid.place build) :=
          lent_place sound sited lends lacks_build fun pid player_eq _ => by
            rw [owner_eq, named obj obj_mem pid player_eq]
        refine placed.trans (ih placed.sound sited nodup fun other other_mem => ?_)
        refine lacks_place lacks_build ?_ (lacks other (by simp [other_mem]))
        rintro rfl
        exact not_again (id_eq ▸ other_mem)
      next =>
        exact ih sound sited nodup fun other other_mem => lacks other (by simp [other_mem])

theorem conserves_releaseFailed (sited : grid.Sited party) {asked : Party} {used : List ℕ}
    {result : Grid × List ℕ} (lent : Lent grid result.1) :
    Conserves grid [] [] (Grid.releaseFailed party asked used result) := by
  rw [Grid.releaseFailed]
  split
  · exact lent.endPlacing used []
  · refine lent.conserves ?_ (by simp) (by simp [Task.sent])
    simp only [List.mem_singleton]
    rintro task rfl
    have sited_after : result.1.Sited party := by
      rw [Grid.Sited, lent.owner]
      exact sited
    exact knows_placing rfl sited_after

end Placing

/-! ## All segments -/

section Service

variable {settings : Settings} {grid : Grid} {others : List Task}

theorem conserves_dissolve (sound : grid.Sound) (others_know : ∀ other ∈ others, other.Knows grid)
    (unionId : ℕ) (still : Still others) :
    Conserves grid others [] (grid.dissolveUnionHandle settings unionId) := by
  rw [Grid.dissolveUnionHandle]
  split
  · exact conserves_same sound others_know
  · exact conserves_storeNftBuilds sound others_know still settings fun _ => rfl

theorem conserves_elapse (sound : grid.Sound) (others_know : ∀ other ∈ others, other.Knows grid)
    (seconds : ℕ) : Conserves grid others [] (grid.elapse seconds, []) := by
  refine conserves_end sound others_know ?_
  rw [Grid.elapse]
  split <;> exact .of_same sound rfl rfl rfl rfl

theorem conserves_start (request : Request) (sound : grid.Sound)
    (others_know : ∀ other ∈ others, other.Knows grid)
    (allowed : custodyGuard.onRequest request grid others) :
    Conserves grid others [] (grid.start settings request) := by
  cases request with
  | putBuild put => exact conserves_asks sound others_know (asks_putBuild put) (allowed rfl)
  | putBuildList list =>
      exact conserves_asks sound others_know (asks_putBuildList list) (allowed rfl)
  | addDefenselBuild put => exact conserves_addDefenselBuild settings sound others_know put
  | moveBuild pid buildId pos =>
      exact conserves_moveBuild settings sound others_know pid buildId pos
  | delBuild pid buildId => exact conserves_delBuild settings sound others_know pid buildId
  | storeBuild pid buildId =>
      exact conserves_storeBuild settings sound others_know pid buildId (allowed rfl)
  | storeUnionNft buildId => exact conserves_storeUnionNft sound others_know buildId (allowed rfl)
  | giveUpMyGrid pid => exact conserves_giveUpMyGrid settings sound others_know pid (allowed rfl)
  | giftWithMyGrid pid toPid =>
      simp only [Grid.start]
      fun_cases Grid.giftWithMyGrid pid toPid grid
      case case4 => exact conserves_idle sound others_know rfl rfl rfl
      all_goals exact conserves_say sound others_know _
  | onCampaignBegin => exact conserves_end sound others_know (.of_same sound rfl rfl rfl rfl)
  | onCampaignEnd campaign =>
      exact conserves_onCampaignEnd sound others_know (allowed rfl) settings campaign
  | doMatchSeasonEndClear =>
      exact conserves_storeNftBuilds sound others_know (allowed rfl) settings fun _ => rfl
  | dissolveUnionHandle unionId => exact conserves_dissolve sound others_know unionId (allowed rfl)
  | updateOwnerInfo unionId =>
      exact conserves_end sound others_know (calm_updateOwnerInfo sound unionId)
  | elapse seconds => exact conserves_elapse sound others_know seconds

theorem conserves_raised (task : Task) (stored : Bool) (sound : grid.Sound)
    (others_know : ∀ other ∈ others, other.Knows grid) :
    Conserves grid others [] (grid.raised task stored) := by
  cases task <;> exact conserves_end sound others_know (.of_same sound rfl rfl rfl rfl)

theorem conserves_again (task : Task) (sound : grid.Sound)
    (others_know : ∀ other ∈ others, other.Knows grid) (knows : task.Knows grid)
    (still : task.moving → Still others) : Conserves grid others task.sent (grid, [task]) where
  sound := sound
  stable := others_know
  fresh := by simpa using knows
  single := by simp
  alone := by simpa using still
  balances id := by simp [Ledger.Balances, custodyLedger]

theorem conserves_defenseBuild (put : Put) (data : Option BuildData) (sound : grid.Sound)
    (others_know : ∀ other ∈ others, other.Knows grid) :
    Conserves grid others [] (grid.defenseBuild settings put data) := by
  fun_cases Grid.defenseBuild settings put data grid <;>
    first
    | exact conserves_say sound others_know _
    | exact conserves_same sound others_know
    | exact conserves_idle sound others_know rfl rfl rfl

theorem conserves_defenseEnough {cost : Put → Build → Task}
    (cost_idle : ∀ put build, (cost put build).moving = false ∧
      (cost put build).deletes = none ∧ (cost put build).stores = none ∧
      (cost put build).sent = []) (put : Put) (data : BuildData) (sound : grid.Sound)
    (others_know : ∀ other ∈ others, other.Knows grid) :
    Conserves grid others [] (grid.defenseEnough settings cost put data) := by
  rw [Grid.defenseEnough]
  split
  · exact conserves_say sound others_know _
  next build _ =>
    obtain ⟨still, deletes, stores, unsent⟩ := cost_idle put { build with isNormal := true }
    exact conserves_wait sound others_know (calm_useUuid sound data)
      (knows_idle still deletes stores) unsent (by simp [still])

theorem conserves_defensePaid (build : Build) (charged : Bool) (sound : grid.Sound)
    (others_know : ∀ other ∈ others, other.Knows grid) (lacks : grid.Lacks build.id)
    (not_nft : build.isNFT = false) :
    Conserves grid others [] (grid.defensePaid build charged) := by
  rw [Grid.defensePaid]
  split
  · have calm := calm_setBuild sound lacks not_nft
    exact conserves_end sound others_know
      ⟨calm.party, calm.natural, calm.nfts, calm.nodup, calm.placed, calm.handed⟩
  · exact conserves_end sound others_know (.of_same sound rfl rfl rfl rfl)

theorem conserves_gift (toPid unionId : ℕ) (found : Bool) (sound : grid.Sound)
    (others_know : ∀ other ∈ others, other.Knows grid)
    (cleared : found → nfts grid.builds = [] ∧ Still others) :
    Conserves grid others [] (grid.gift settings toPid unionId found) := by
  rw [Grid.gift]
  split
  · exact conserves_say sound others_know _
  next is_member =>
    obtain ⟨no_nfts, still⟩ := cleared (by simpa using is_member)
    have finishes : Finishes grid .clear
        (grid.changeOwner settings (some ⟨toPid, unionId, false⟩)) :=
      finishes_of_layout sound (fun _ _ => rfl) rfl rfl rfl
    exact conserves_finished finishes others_know still
      ⟨fun id => by simp [Drop.takes, nftCount, no_nfts], by simp⟩

/-- Every later segment of every handler. -/
theorem conserves_proceed (task : Task) (reply : Reply) (sound : grid.Sound)
    (others_know : ∀ other ∈ others, other.Knows grid) (knows : task.Knows grid)
    (still : task.moving → Still others) (alone : task.supplier.isSome → others = [])
    (allowed : custodyGuard.onReply task reply grid others) :
    Conserves grid others task.sent (grid.proceed settings task reply) := by
  have say : ∀ error, Conserves grid others [] (grid.say error, []) :=
    conserves_say sound others_know
  unfold Grid.proceed
  split
  case h_1 stored =>
    have unsent : task.sent = [] := by
      cases task <;> first | rfl | exact absurd allowed (by simp [custodyGuard])
    rw [unsent]
    exact conserves_raised task stored sound others_know
  case h_2 put data =>
    exact conserves_asks sound others_know (asks_putNftItem put data (knows.sited _ rfl))
      (still rfl)
  case h_3 put data =>
    have others_eq : others = [] := alone rfl
    subst others_eq
    have sited := knows.sited _ rfl
    cases data with
    | none => exact ((Calm.refl sound).lent sound rfl).endPlacing [] []
    | some data =>
        obtain ⟨named, lacks⟩ := allowed
        refine conserves_putTaken sound sited (by simp) lacks fun pid party_eq => ?_
        cases party_eq
        rcases named with unnamed | named
        · rw [if_pos unnamed]
        · rw [named, ite_self]
  case h_4 put yes =>
    exact conserves_asks sound others_know
      (asks_checked yes rfl (knows.sited _ rfl) (by simp)) (still rfl)
  case h_5 => exact say _
  case h_6 put data =>
    exact conserves_asks sound others_know (asks_next _ rfl (knows.sited _ rfl) (by simp))
      (still rfl)
  case h_7 put data chain =>
    exact conserves_asks sound others_know (asks_putNftInfo put data chain (knows.sited _ rfl))
      (still rfl)
  case h_8 put unionId data =>
    have others_eq : others = [] := alone rfl
    subst others_eq
    have sited := knows.sited _ rfl
    cases data with
    | none =>
        have calm : Calm grid (grid.say .unionNftNotAvaliable) := .of_same sound rfl rfl rfl rfl
        exact (calm.lent sound rfl).endPlacing [] []
    | some data => exact conserves_putTaken sound sited (by simp) allowed (by simp)
  case h_9 list objs =>
    exact conserves_asks sound others_know (asks_putListObjs list objs (knows.sited _ rfl))
      (still rfl)
  case h_10 list objs used =>
    have others_eq : others = [] := alone rfl
    subst others_eq
    have sited := knows.sited _ rfl
    obtain ⟨named, nodup, lacks⟩ := allowed
    refine conserves_releaseFailed sited
      (lent_placeList (by simp) ?_ used sound sited nodup lacks)
    intro obj obj_mem pid party_eq
    cases party_eq
    rcases named obj obj_mem with unnamed | named
    · rw [if_pos unnamed]
    · rw [named, ite_self]
  case h_11 list yes =>
    exact conserves_asks sound others_know
      (asks_checked yes rfl (knows.sited _ rfl) (by simp)) (still rfl)
  case h_12 list objs =>
    exact conserves_asks sound others_know (asks_putListNfts list objs (knows.sited _ rfl))
      (still rfl)
  case h_13 list objs chain =>
    exact conserves_asks sound others_know
      (asks_putListExclusive list objs chain (knows.sited _ rfl)) (still rfl)
  case h_14 list objs unionId used =>
    have others_eq : others = [] := alone rfl
    subst others_eq
    have sited := knows.sited _ rfl
    exact conserves_releaseFailed sited
      (lent_placeList (by simp) (by simp) used sound sited allowed.1 allowed.2)
  case h_15 supplier asked used failed =>
    have others_eq : others = [] := alone rfl
    subst others_eq
    exact ((Calm.refl sound).lent sound rfl).endPlacing _ _
  case h_16 put data => exact conserves_defenseBuild put data sound others_know
  case h_17 put data yes =>
    split
    · exact conserves_defenseEnough (fun _ _ => ⟨rfl, rfl, rfl, rfl⟩) put data sound others_know
    · exact conserves_same sound others_know
  case h_18 put data yes =>
    split
    · exact conserves_idle sound others_know rfl rfl rfl
    · exact say _
  case h_19 put data yes =>
    split
    · exact conserves_defenseEnough (fun _ _ => ⟨rfl, rfl, rfl, rfl⟩) put data sound others_know
    · exact conserves_same sound others_know
  case h_20 put build yes =>
    exact conserves_defensePaid build yes sound others_know allowed.1 allowed.2
  case h_21 put build yes =>
    exact conserves_defensePaid build yes sound others_know allowed.1 allowed.2
  case h_22 pid next unionId =>
    rw [Grid.askedUnion]
    split
    · exact say _
    · refine conserves_wait sound others_know (.refl sound)
        ⟨by simp [Task.supplier], fun id deletes => knows.lacks id ?_,
          fun id stores => knows.stored id ?_, by simp⟩ rfl (by simp [Task.moving, Task.supplier])
      · cases next <;> exact deletes
      · cases next <;> exact stores
  case h_23 pid next yes =>
    split
    · refine conserves_permitted settings sound others_know next _ ?_ ?_ ?_
      · rintro build rfl
        obtain ⟨stands, still⟩ := allowed
        refine ⟨still, ?_⟩
        have party_eq : ∃ unionId, grid.owner.party = .union unionId :=
          (knows.stored build.id rfl).resolve_left stands
        obtain ⟨unionId, party_eq⟩ := party_eq
        obtain ⟨current, current_mem, -, id_eq⟩ : ∃ current ∈ grid.builds, current.isNFT ∧
            current.id = build.id := by
          by_contra none
          refine stands (nftCount_eq_zero.mpr fun other other_mem is_nft id_eq => none ?_)
          exact ⟨other, other_mem, is_nft, id_eq⟩
        have found : ∃ found, grid.getBuild build.id = some found := by
          rw [← Option.isSome_iff_exists, Grid.getBuild, List.find?_isSome]
          exact ⟨current, current_mem, by simpa using id_eq⟩
        obtain ⟨found, found_eq⟩ := found
        obtain ⟨found_mem, found_id⟩ := mem_of_getBuild found_eq
        refine ⟨found, found_mem, found_eq, found_id, .inr ?_⟩
        change grid.owner.party.Keeps found (.union grid.owner.unionId)
        rw [party_eq, union_of_party party_eq]
        rfl
      · rintro rfl
        exact allowed
      · rintro id rfl
        exact knows.lacks id rfl
    · exact say _
  case h_24 pid toPid unionId found =>
    exact conserves_gift toPid unionId found sound others_know allowed
  case h_25 drop sent rest =>
    exact conserves_handBackAll settings sound others_know (still rfl) (knows.handing rfl)
  case h_26 => exact conserves_again task sound others_know knows still

end Service

/-! ## The lock -/

section Lock

variable {settings : Settings} {grid : Grid} {others : List Task}

theorem moving_of_unlocked {task : Task} (unlocked : task.holdsLock = false) :
    task.moving = true := by
  cases task with
  | handBack drop sent rest => rfl
  | _ => cases unlocked

theorem Conserves.keeps_unlocked {sent : List Build} {result : Grid × List Task}
    (conserves : Conserves grid others sent result) (unlocked : Unlocked grid result)
    (locks : ∀ other ∈ others, other.holdsLock → grid.locked) :
    custodyPool.Keeps others result where
  shared := conserves.sound
  stable other other_mem :=
    ⟨conserves.stable other other_mem, by
      rw [unlocked.locked]
      exact locks other other_mem⟩
  fresh task task_mem :=
    ⟨conserves.fresh task task_mem, by simp [unlocked.fresh task task_mem]⟩
  apart other other_mem task task_mem := by
    refine ⟨by simp [unlocked.fresh task task_mem], ?_⟩
    rintro ⟨other_moves, moves⟩
    simp [conserves.alone task task_mem moves other other_mem] at other_moves
  fresh_apart := pairwise_of_single conserves.single

theorem Conserves.keeps_locked {sent : List Build} {result : Grid × List Task}
    (conserves : Conserves grid others sent result)
    (free : ∀ other ∈ others, other.holdsLock = false) :
    custodyPool.Keeps others (Grid.lockFor result) where
  shared := ⟨conserves.sound.nodup, conserves.sound.homeless, conserves.sound.owned,
    conserves.sound.right⟩
  stable other other_mem :=
    have knows := conserves.stable other other_mem
    ⟨⟨knows.sited, knows.lacks, knows.stored, fun task_eq =>
      ⟨(knows.handing task_eq).covers, (knows.handing task_eq).right⟩⟩,
      by simp [free other other_mem]⟩
  fresh task task_mem :=
    have knows := conserves.fresh task task_mem
    ⟨⟨knows.sited, knows.lacks, knows.stored, fun task_eq =>
      ⟨(knows.handing task_eq).covers, (knows.handing task_eq).right⟩⟩, fun _ => by
      simpa [Grid.lockFor, List.isEmpty_iff] using List.ne_nil_of_mem task_mem⟩
  apart other other_mem task task_mem := by
    refine ⟨by simp [free other other_mem], ?_⟩
    rintro ⟨other_moves, moves⟩
    simp [conserves.alone task task_mem moves other other_mem] at other_moves
  fresh_apart := pairwise_of_single conserves.single

theorem unlocked_of_own {task : Task} (own : custodyPool.own grid task)
    (free : grid.locked = false) : task.holdsLock = false := by
  by_contra locks
  have locked := own.2 (by simpa using locks)
  rw [free] at locked
  cases locked

theorem conserves_resume (task : Task) (reply : Reply)
    (holds : custodyPool.Holds ⟨grid, others⟩) (own : custodyPool.own grid task)
    (apart : ∀ other ∈ others, custodyPool.apart task other)
    (allowed : custodyGuard.onReply task reply grid others) :
    Conserves grid others task.sent (grid.proceed settings task reply) := by
  have still : task.moving → Still others := by
    intro moves other other_mem
    by_contra other_moves
    exact (apart other other_mem).2 ⟨moves, by simpa using other_moves⟩
  refine conserves_proceed task reply holds.shared (fun other mem => (holds.own other mem).1) own.1
    still ?_ allowed
  intro supplies
  -- A placing handler has the lock and moves, so that no other handler can be suspended.
  have locks : task.holdsLock := by cases task <;> simp_all [Task.supplier, Task.holdsLock]
  refine List.eq_nil_iff_forall_not_mem.mpr fun other other_mem => ?_
  have other_unlocked : other.holdsLock = false := by
    by_contra other_locks
    exact (apart other other_mem).1 ⟨locks, by simpa using other_locks⟩
  have moves : task.moving := by simp [Task.moving, supplies]
  have other_still := still moves other other_mem
  rw [moving_of_unlocked other_unlocked] at other_still
  cases other_still

theorem custodyPool_kept (settings : Settings) :
    custodyPool.KeptBy (gridService settings) custodyGuard where
  accept request state others holds allowed := by
    have conserves : Conserves state others [] (state.start settings request) :=
      conserves_start request holds.shared (fun other mem => (holds.own other mem).1) allowed
    simp only [gridService, Grid.accept]
    split
    next unlocked =>
      exact conserves.keeps_unlocked (unlocked_start (by simpa using unlocked))
        fun other mem => (holds.own other mem).2
    · split
      · exact Pool.Keeps.ended holds
      next free =>
        exact conserves.keeps_locked fun other mem =>
          unlocked_of_own (holds.own other mem) (by simpa using free)
  resume task reply state others holds own apart allowed := by
    have conserves : Conserves state others task.sent (state.proceed settings task reply) :=
      conserves_resume task reply holds own apart allowed
    simp only [gridService, Grid.resume]
    split
    next locks =>
      refine conserves.keeps_locked fun other mem => ?_
      by_contra other_locks
      exact (apart other mem).1 ⟨locks, by simpa using other_locks⟩
    next unlocked =>
      exact conserves.keeps_unlocked (unlocked_proceed (by simpa using unlocked) reply)
        fun other mem => (holds.own other mem).2

theorem custodyLedger_balanced (settings : Settings) (id : ℕ) :
    (custodyLedger id).BalancedBy custodyPool (gridService settings) custodyGuard where
  accept request state others holds allowed := by
    have conserves : Conserves state others [] (state.start settings request) :=
      conserves_start request holds.shared (fun other mem => (holds.own other mem).1) allowed
    have balances := conserves.balances id
    simp only [gridService, Grid.accept]
    split
    · exact balances
    · split
      · simp [Ledger.Balances]
      · exact balances
  resume task reply state others holds own apart allowed := by
    have conserves : Conserves state others task.sent (state.proceed settings task reply) :=
      conserves_resume task reply holds own apart allowed
    have balances := conserves.balances id
    simp only [gridService, Grid.resume]
    split <;> exact balances

theorem custodyPool_start (settings : Settings) (clock : ℤ) :
    custodyPool.Holds (gridStart settings clock) where
  shared :=
    { nodup := nodup_createLayout settings.presetLayout 0
      homeless := fun _ => nfts_createLayout settings.presetLayout 0
      owned := by simp [gridStart, Grid.init]
      right := by simp [gridStart, Grid.init] }
  own := by simp [gridStart]
  apart := .nil

theorem carried_eq (id : ℕ) (waiting : List Task) :
    (waiting.map (custodyLedger id).carry).sum = -nftCount id (waiting.flatMap (·.sent)) := by
  induction waiting with
  | nil => rfl
  | cons task waiting ih =>
      rw [List.map_cons, List.sum_cons, ih, List.flatMap_cons, nftCount_append]
      simp only [custodyLedger]
      push_cast
      ring

end Lock

/-- The NFT is stored, and another one is handed back when player 2 wins the grid. -/
def handedBackRun : List (Event Request Reply) :=
  placedRun ++ [.request (.storeBuild 1 7), .reply 0 .done] ++ placedRun.tail ++
    [.request (.onCampaignEnd ⟨.win, some ⟨2, 9, false⟩, [], true⟩), .reply 0 .done]

/-- Player 1 gives the grid with its NFT to player 2. -/
def giftRun : List (Event Request Reply) :=
  placedRun ++ [.request (.giftWithMyGrid 1 2), .reply 0 (.member true)]

end BasWar.Starmap
