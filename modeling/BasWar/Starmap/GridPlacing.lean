import BasWar.Starmap.GridLending

/-!
# Placing on a grid is all or nothing

When a placing call ends, whatever its supplier marked for it stands on a grid that still belongs
to the supplier, or was released again.  A defence building is charged exactly when it stands.
-/

namespace BasWar.Starmap

open Cooperative

/-- Everything that was marked stands on a grid of its supplier, or is released. -/
def PlaceEnd.Settled (placeEnd : PlaceEnd) : Prop :=
  ∀ id ∈ placeEnd.used,
    id ∈ placeEnd.standing ∧ placeEnd.owner = placeEnd.supplier ∨ id ∈ placeEnd.released

/-- Every placing call that ended left nothing half done. -/
structure PlacingSettled (grid : Grid) : Prop where
  placed : ∀ placeEnd ∈ grid.ended, placeEnd.Settled
  charged : ∀ chargeEnd ∈ grid.charges, chargeEnd.charged = chargeEnd.stands

/-- The request may change the owner without the lock. -/
def Request.changesOwner : Request → Bool
  | .onCampaignEnd _ | .doMatchSeasonEndClear | .dissolveUnionHandle _ => true
  | _ => false

/-- No placing call is under way. -/
def NonePlacing (others : List Task) : Prop :=
  ∀ other ∈ others, other.supplier = none
  deriving Decidable

/-- Owners change without the lock only while no placing call is under way, a record that a
supplier hands out still has a row of `buildConfig`, and no call raises once it has marked, charged
or been asked to release something. -/
def placingGuard (settings : Settings) : Guard Grid Request Task Reply where
  onRequest request _ others := request.changesOwner → NonePlacing others
  onReply task reply _ others :=
    match task, reply with
    | .handBack _ _ [], .done => NonePlacing others
    | .useNftItemOnGrid put, .build (some data) | .starMapTakeNft put _, .build (some data) =>
        data.id = some put.buildId ∧
          (settings.buildCfg data.cfgId data.quality data.level).isSome
    | .useNftItemOnGrid _, .raise stored | .starMapTakeNft _ _, .raise stored
    | .useBuildListToGrid _ _, .raise stored | .starMapUseNftListToGrid _ _ _, .raise stored
    | .costResDict _ _, .raise stored | .costUnionResDict _ _, .raise stored => stored = false
    | .notUse _ _ _ _, .raise _ => False
    | _, _ => True

instance (settings : Settings) (request grid others) :
    Decidable ((placingGuard settings).onRequest request grid others) :=
  inferInstanceAs (Decidable (request.changesOwner → NonePlacing others))

instance (settings : Settings) (task reply grid others) :
    Decidable ((placingGuard settings).onReply task reply grid others) := by
  unfold placingGuard
  dsimp only
  split <;> infer_instance

/-- What a suspended placing call may rely on. -/
structure Task.Waits (grid : Grid) (task : Task) : Prop where
  sited : ∀ party ∈ task.supplier, grid.Sited party
  releases : ∀ {supplier asked used failed}, task = .notUse supplier asked used failed →
    asked = supplier ∧ ∀ id ∈ used, id ∉ failed → id ∈ grid.builds.map (·.id)

/-- The invariant of placing: one handler has the lock. -/
def placingPool : Pool Grid Task where
  shared := PlacingSettled
  own grid task := task.Waits grid ∧ (task.holdsLock → grid.locked)
  apart first second := ¬ (first.holdsLock ∧ second.holdsLock)
  apart_symm apart both := apart both.symm

structure Settles (result : Grid × List Task) : Prop where
  settled : PlacingSettled result.1
  waits : ∀ task ∈ result.2, task.Waits result.1
  single : result.2.length ≤ 1

/-- A segment that has nothing to do with placing. -/
structure Leaves (grid : Grid) (result : Grid × List Task) : Prop where
  ended : result.1.ended = grid.ended
  charges : result.1.charges = grid.charges
  none : ∀ task ∈ result.2, task.supplier = none
  single : result.2.length ≤ 1

section Segments

variable {settings : Settings} {grid : Grid}

variable {task : Task} {result : Grid × List Task} {supplier : Party}

theorem waits_of_none (none : task.supplier = none) : task.Waits grid where
  sited party supplies := by
    rw [none] at supplies
    cases supplies
  releases task_eq := by
    rw [task_eq] at none
    cases none

theorem waits_of_unlocked (unlocked : task.holdsLock = false) : task.Waits grid := by
  refine waits_of_none ?_
  cases task with
  | handBack drop sent rest => rfl
  | _ => cases unlocked

theorem Task.Waits.of_same {after : Grid} (waits : task.Waits grid)
    (party_eq : after.owner.party = grid.owner.party)
    (natural_eq : after.owner.isNatural = grid.owner.isNatural)
    (builds_eq : after.builds = grid.builds) : task.Waits after where
  sited party supplies := by
    rw [Grid.Sited, party_eq, natural_eq]
    exact waits.sited party supplies
  releases task_eq := by
    rw [builds_eq]
    exact waits.releases task_eq

theorem Leaves.settles (leaves : Leaves grid result) (settled : PlacingSettled grid) :
    Settles result where
  settled := ⟨by rw [leaves.ended]; exact settled.placed,
    by rw [leaves.charges]; exact settled.charged⟩
  waits task task_mem := waits_of_none (leaves.none task task_mem)
  single := leaves.single

theorem Asks.settles (asks : Asks grid result) (settled : PlacingSettled grid) :
    Settles result := by
  obtain ⟨after, tasks⟩ := result
  obtain ⟨⟨said, said_eq⟩, next⟩ := asks
  have after_eq : after = { grid with said := said } := said_eq
  have settled_after : PlacingSettled after := by
    rw [after_eq]
    exact ⟨settled.placed, settled.charged⟩
  rcases next with ended | ⟨task, party, tasks_eq, supplies, sited, asking⟩
  · cases ended
    exact ⟨settled_after, by simp, by simp⟩
  · cases tasks_eq
    refine ⟨settled_after, ?_, by simp⟩
    simp only [List.mem_singleton]
    rintro _ rfl
    refine ⟨fun other mem => ?_, fun task_eq => absurd task_eq (asking _ _ _ _)⟩
    rw [supplies] at mem
    cases mem
    have sited_after : after.Sited party := by
      rw [after_eq]
      exact sited
    exact sited_after

theorem leaves_say (error : GridError) : Leaves grid (grid.say error, []) :=
  ⟨rfl, rfl, by simp, by simp⟩

theorem leaves_same : Leaves grid (grid, []) :=
  ⟨rfl, rfl, by simp, by simp⟩

theorem leaves_next (none : task.supplier = none) : Leaves grid (grid, [task]) :=
  ⟨rfl, rfl, by simpa using none, by simp⟩

theorem Leaves.of_eq {mid : Grid} (leaves : Leaves mid result) (ended_eq : mid.ended = grid.ended)
    (charges_eq : mid.charges = grid.charges) : Leaves grid result :=
  ⟨leaves.ended.trans ended_eq, leaves.charges.trans charges_eq, leaves.none, leaves.single⟩

theorem leaves_handBackAll (drop : Drop) (sent : List Build) (rest : List HandBack) :
    Leaves grid (grid.handBackAll settings drop sent rest) := by
  cases rest with
  | cons back rest => exact ⟨rfl, rfl, by simp [Grid.handBackAll, Task.supplier],
      by simp [Grid.handBackAll]⟩
  | nil =>
      have books : (grid.finish settings drop).ended = grid.ended ∧
          (grid.finish settings drop).charges = grid.charges := by
        cases drop with
        | campaignWin attacker hasRoom =>
            simp only [Grid.finish]
            split
            · exact ⟨rfl, rfl⟩
            · split <;> exact ⟨rfl, rfl⟩
        | campaignUnknow delBuilds =>
            simp only [Grid.finish]
            split <;> exact ⟨rfl, rfl⟩
        | _ => exact ⟨rfl, rfl⟩
      exact ⟨books.1, books.2, by simp [Grid.handBackAll], by simp [Grid.handBackAll]⟩

theorem leaves_onCampaignEnd (campaign : CampaignEnd) :
    Leaves grid (grid.onCampaignEnd settings campaign) := by
  rw [Grid.onCampaignEnd]
  split
  · refine (leaves_handBackAll _ [] _).of_eq ?_ ?_ <;>
      · rw [Grid.costDefenceBuildLife]
        split <;> rfl
  · rw [Grid.handleNftsLife]
    split
    · exact leaves_handBackAll _ [] []
    · exact (leaves_handBackAll _ [] _).of_eq rfl rfl
  · exact leaves_same

theorem leaves_permitted (next : Permitted) (keeper : Keeper) :
    Leaves grid (grid.permitted settings next keeper) := by
  cases next with
  | storeBuild build =>
      rw [Grid.permitted]
      exact leaves_handBackAll _ [] _
  | giveUpMyGrid => exact leaves_handBackAll .giveUpMyGrid [] grid.storePlan
  | delBuild buildId => exact ⟨rfl, rfl, by simp [Grid.permitted], by simp [Grid.permitted]⟩
  | moveBuild build pos =>
      have books : (grid.move settings build pos).ended = grid.ended ∧
          (grid.move settings build pos).charges = grid.charges := by
        rw [Grid.move]
        split <;> exact ⟨rfl, rfl⟩
      exact ⟨books.1, books.2, by simp [Grid.permitted], by simp [Grid.permitted]⟩

theorem leaves_askOwner (pid : ℕ) (next : Permitted) :
    Leaves grid (grid.askOwner settings pid next) := by
  fun_cases Grid.askOwner settings pid next grid
  · exact leaves_say _
  · exact leaves_permitted next _
  · exact leaves_next rfl
  · exact leaves_same

theorem leaves_moveBuild (pid buildId : ℕ) (pos : Pos) :
    Leaves grid (grid.moveBuild settings pid buildId pos) := by
  fun_cases Grid.moveBuild settings pid buildId pos grid
  · exact leaves_say _
  · exact leaves_say _
  · exact leaves_askOwner pid _

theorem leaves_delBuild (pid buildId : ℕ) : Leaves grid (grid.delBuild settings pid buildId) := by
  fun_cases Grid.delBuild settings pid buildId grid
  case case5 => exact leaves_askOwner pid _
  all_goals exact leaves_say _

theorem leaves_storeBuild (pid buildId : ℕ) :
    Leaves grid (grid.storeBuild settings pid buildId) := by
  fun_cases Grid.storeBuild settings pid buildId grid
  case case4 => exact leaves_askOwner pid _
  all_goals exact leaves_say _

theorem leaves_giveUpMyGrid (pid : ℕ) : Leaves grid (grid.giveUpMyGrid settings pid) := by
  fun_cases Grid.giveUpMyGrid settings pid grid
  case case5 => exact leaves_askOwner pid _
  all_goals exact leaves_say _

theorem leaves_defenseEnough {cost : Put → Build → Task}
    (none : ∀ put build, (cost put build).supplier = none) (put : Put) (data : BuildData) :
    Leaves grid (grid.defenseEnough settings cost put data) := by
  rw [Grid.defenseEnough]
  split
  · exact leaves_say _
  next build _ =>
    have books : (grid.useUuid data).ended = grid.ended ∧
        (grid.useUuid data).charges = grid.charges := by
      rw [Grid.useUuid]
      split <;> exact ⟨rfl, rfl⟩
    exact ⟨books.1, books.2, by simp [none], by simp⟩

theorem settles_endPlacing (settled : PlacingSettled grid) {used released : List ℕ}
    (all : ∀ id ∈ used, id ∈ grid.builds.map (·.id) ∧ grid.owner.party = supplier ∨ id ∈ released) :
    Settles (grid.endPlacing supplier used released) where
  settled := by
    refine ⟨fun placeEnd placeEnd_mem => ?_, settled.charged⟩
    rcases List.mem_cons.mp placeEnd_mem with rfl | old
    · exact all
    · exact settled.placed placeEnd old
  waits := by simp [Grid.endPlacing]
  single := by simp [Grid.endPlacing]

theorem settled_place (settled : PlacingSettled grid) (build : Build) :
    PlacingSettled (grid.place build) :=
  ⟨settled.placed, settled.charged⟩

theorem mem_ids_place {build : Build} {id : ℕ} :
    id ∈ (grid.place build).builds.map (·.id) ↔ id = build.id ∨ id ∈ grid.builds.map (·.id) := by
  simp only [Grid.place, Grid.setBuild, List.map_cons, List.mem_cons, List.mem_map,
    List.mem_filter]
  constructor
  · rintro (rfl | ⟨other, ⟨other_mem, -⟩, rfl⟩)
    · exact .inl rfl
    · exact .inr ⟨other, other_mem, rfl⟩
  · rintro (rfl | ⟨other, other_mem, rfl⟩)
    · exact .inl rfl
    · by_cases same : other.id = build.id
      · exact .inl same
      · exact .inr ⟨other, ⟨other_mem, by simpa using same⟩, rfl⟩

theorem settles_putTaken (settled : PlacingSettled grid) (sited : grid.Sited supplier) {put : Put}
    {data : BuildData} (ownerPid : ℕ) (id_eq : data.id = some put.buildId)
    (row : (settings.buildCfg data.cfgId data.quality data.level).isSome) :
    Settles (grid.putTaken settings supplier put data ownerPid) := by
  obtain ⟨cfg, cfg_eq⟩ := Option.isSome_iff_exists.mp row
  have frame : (grid.useUuid data).owner = grid.owner ∧ PlacingSettled (grid.useUuid data) := by
    rw [Grid.useUuid]
    split <;> exact ⟨rfl, settled.placed, settled.charged⟩
  simp only [Grid.putTaken, Grid.createBuild, cfg_eq, Option.map_some]
  refine settles_endPlacing (settled_place frame.2 _) fun id id_mem => .inl ⟨?_, ?_⟩
  · rw [List.mem_singleton.mp id_mem, mem_ids_place]
    exact .inl (by simp [id_eq])
  · exact (congrArg Owner.party frame.1).trans sited.1

theorem placeList_spec (settings : Settings) (list : PutList) (objs : List BuildData)
    (ownerPid : BuildData → ℕ) (used : List ℕ) : ∀ {grid : Grid}, PlacingSettled grid →
      let result := Grid.placeList settings list objs ownerPid used grid
      PlacingSettled result.1 ∧ result.1.owner = grid.owner ∧
        (∀ id ∈ grid.builds.map (·.id), id ∈ result.1.builds.map (·.id)) ∧
        ∀ id ∈ used, id ∉ result.2 → id ∈ result.1.builds.map (·.id) := by
  induction used with
  | nil => exact fun settled => ⟨settled, rfl, fun _ mem => mem, by simp⟩
  | cons id used ih =>
      intro grid settled
      rw [Grid.placeList]
      split
      next after listed =>
        simp only [Grid.placeListed, Option.bind_eq_bind, Option.bind_eq_some_iff,
          Option.some.injEq] at listed
        obtain ⟨obj, obj_found, cfg, -, pos, -, _, -, build, created, rfl⟩ := listed
        obtain ⟨cfg, -, build_eq⟩ := Option.map_eq_some_iff.mp created
        have obj_id : obj.id = some id := by simpa using List.find?_some obj_found
        have build_id : build.id = id := by
          rw [← build_eq]
          simp [obj_id]
        obtain ⟨settled_after, owner_eq, stays, stands⟩ := ih (settled_place settled build)
        refine ⟨settled_after, owner_eq,
          fun other mem => stays other (mem_ids_place.mpr (.inr mem)), fun other mem placed => ?_⟩
        rcases List.mem_cons.mp mem with rfl | later
        · exact stays other (mem_ids_place.mpr (.inl build_id.symm))
        · exact stands other later placed
      next =>
        obtain ⟨settled_after, owner_eq, stays, stands⟩ := ih settled
        refine ⟨settled_after, owner_eq, stays, fun other mem placed => ?_⟩
        rcases List.mem_cons.mp mem with rfl | later
        · exact absurd (List.mem_cons_self ..) placed
        · exact stands other later fun failed => placed (List.mem_cons_of_mem _ failed)

theorem settles_releaseFailed {used : List ℕ} {result : Grid × List ℕ}
    (settled : PlacingSettled result.1) (sited : result.1.Sited supplier)
    (stands : ∀ id ∈ used, id ∉ result.2 → id ∈ result.1.builds.map (·.id)) :
    Settles (Grid.releaseFailed supplier supplier used result) := by
  rw [Grid.releaseFailed]
  split
  next all =>
    exact settles_endPlacing settled fun id mem => .inl ⟨stands id mem (by simp [all]), sited.1⟩
  next =>
    refine ⟨settled, ?_, by simp⟩
    simp only [List.mem_singleton]
    rintro task rfl
    refine ⟨fun party supplies => ?_, fun task_eq => ?_⟩
    · cases supplies
      exact sited
    · cases task_eq
      exact ⟨rfl, stands⟩

theorem settles_placeList (settled : PlacingSettled grid) (sited : grid.Sited supplier)
    (list : PutList) (objs : List BuildData) (ownerPid : BuildData → ℕ) (used : List ℕ) :
    Settles (Grid.releaseFailed supplier supplier used
      (grid.placeList settings list objs ownerPid used)) := by
  obtain ⟨settled_after, owner_eq, -, stands⟩ := 
    placeList_spec settings list objs ownerPid used settled
  refine settles_releaseFailed settled_after ?_ stands
  rw [Grid.Sited, owner_eq]
  exact sited

theorem settles_endCharge (settled : PlacingSettled grid) {charged stands : Bool}
    (same : charged = stands) : Settles (grid.endCharge charged stands) where
  settled := by
    refine ⟨settled.placed, fun chargeEnd chargeEnd_mem => ?_⟩
    rcases List.mem_cons.mp chargeEnd_mem with rfl | old
    · exact same
    · exact settled.charged chargeEnd old
  waits := by simp [Grid.endCharge]
  single := by simp [Grid.endCharge]

theorem settles_defensePaid (settled : PlacingSettled grid) (build : Build) (charged : Bool) :
    Settles (grid.defensePaid build charged) := by
  rw [Grid.defensePaid]
  split
  · have stands : (grid.setBuild build).getBuild build.id = some build := by
      simp [Grid.getBuild, Grid.setBuild]
    have settled_after : PlacingSettled (grid.setBuild build) :=
      ⟨settled.placed, settled.charged⟩
    exact settles_endCharge settled_after (by simp [stands])
  · exact settles_endCharge settled rfl

end Segments

section Service

variable {settings : Settings} {grid : Grid} {others : List Task}

theorem settles_start (request : Request) (settled : PlacingSettled grid) :
    Settles (grid.start settings request) := by
  cases request with
  | putBuild put => exact (asks_putBuild put).settles settled
  | putBuildList list => exact (asks_putBuildList list).settles settled
  | addDefenselBuild put =>
      simp only [Grid.start]
      fun_cases Grid.addDefenselBuild settings put grid
      · exact (leaves_say _).settles settled
      · exact (leaves_say _).settles settled
      · exact (leaves_next rfl).settles settled
  | moveBuild pid buildId pos => exact (leaves_moveBuild pid buildId pos).settles settled
  | delBuild pid buildId => exact (leaves_delBuild pid buildId).settles settled
  | storeBuild pid buildId => exact (leaves_storeBuild pid buildId).settles settled
  | storeUnionNft buildId =>
      simp only [Grid.start]
      fun_cases Grid.storeUnionNft buildId grid <;>
        exact ⟨⟨settled.placed, settled.charged⟩, by simp, by simp⟩
  | giveUpMyGrid pid => exact (leaves_giveUpMyGrid pid).settles settled
  | giftWithMyGrid pid toPid =>
      simp only [Grid.start]
      fun_cases Grid.giftWithMyGrid pid toPid grid
      case case4 => exact (leaves_next rfl).settles settled
      all_goals exact (leaves_say _).settles settled
  | onCampaignBegin => exact ⟨⟨settled.placed, settled.charged⟩, by simp [Grid.start],
      by simp [Grid.start]⟩
  | onCampaignEnd campaign => exact (leaves_onCampaignEnd campaign).settles settled
  | doMatchSeasonEndClear => exact (leaves_handBackAll .clear [] grid.storePlan).settles settled
  | dissolveUnionHandle unionId =>
      simp only [Grid.start, Grid.dissolveUnionHandle]
      split
      · exact leaves_same.settles settled
      · exact (leaves_handBackAll .clear [] grid.storePlan).settles settled
  | updateOwnerInfo unionId =>
      have books : PlacingSettled (grid.updateOwnerInfo unionId) := by
        rw [Grid.updateOwnerInfo]
        split <;> exact ⟨settled.placed, settled.charged⟩
      exact ⟨books, by simp [Grid.start], by simp [Grid.start]⟩
  | elapse seconds =>
      have books : PlacingSettled (grid.elapse seconds) := by
        rw [Grid.elapse]
        split <;> exact ⟨settled.placed, settled.charged⟩
      exact ⟨books, by simp [Grid.start], by simp [Grid.start]⟩

theorem settles_raised (task : Task) (stored : Bool) (settled : PlacingSettled grid)
    (allowed : (placingGuard settings).onReply task (.raise stored) grid others) :
    Settles (grid.raised task stored) := by
  cases task with
  | useNftItemOnGrid put | starMapTakeNft put unionId | useBuildListToGrid list objs
  | starMapUseNftListToGrid list objs unionId =>
      have unmarked : stored = false := allowed
      subst unmarked
      exact settles_endPlacing settled (by simp)
  | notUse supplier asked used failed => exact absurd allowed (by simp [placingGuard])
  | costResDict put build | costUnionResDict put build =>
      have free : stored = false := allowed
      subst free
      exact settles_endCharge settled rfl
  | _ => exact leaves_same.settles settled

theorem settles_proceed (task : Task) (reply : Reply) (settled : PlacingSettled grid)
    (waits : task.Waits grid) (allowed : (placingGuard settings).onReply task reply grid others) :
    Settles (grid.proceed settings task reply) := by
  unfold Grid.proceed
  split
  case h_1 stored => exact settles_raised task stored settled allowed
  case h_2 put data => exact (asks_putNftItem put data (waits.sited _ rfl)).settles settled
  case h_3 put data =>
    cases data with
    | none => exact settles_endPlacing settled (by simp)
    | some data => exact settles_putTaken settled (waits.sited _ rfl) _ allowed.1 allowed.2
  case h_4 put yes =>
    exact (asks_checked yes rfl (waits.sited _ rfl) (by simp)).settles settled
  case h_5 => exact (asks_say grid _).settles settled
  case h_6 put data => exact (asks_next _ rfl (waits.sited _ rfl) (by simp)).settles settled
  case h_7 put data chain =>
    exact (asks_putNftInfo put data chain (waits.sited _ rfl)).settles settled
  case h_8 put unionId data =>
    cases data with
    | none =>
        have settled_after : PlacingSettled (grid.say .unionNftNotAvaliable) :=
          ⟨settled.placed, settled.charged⟩
        exact settles_endPlacing settled_after (by simp)
    | some data => exact settles_putTaken settled (waits.sited _ rfl) _ allowed.1 allowed.2
  case h_9 list objs => exact (asks_putListObjs list objs (waits.sited _ rfl)).settles settled
  case h_10 list objs used =>
    exact settles_placeList settled (waits.sited _ rfl) list objs _ used
  case h_11 list yes =>
    exact (asks_checked yes rfl (waits.sited _ rfl) (by simp)).settles settled
  case h_12 list objs => exact (asks_putListNfts list objs (waits.sited _ rfl)).settles settled
  case h_13 list objs chain =>
    exact (asks_putListExclusive list objs chain (waits.sited _ rfl)).settles settled
  case h_14 list objs unionId used =>
    -- The union that is asked to release is the one that marked, as the owner did not change.
    have sited := waits.sited _ rfl
    rw [Grid.putListTaken, union_of_party sited.1]
    exact settles_placeList settled sited list objs _ used
  case h_15 supplier asked used failed =>
    obtain ⟨asked_eq, stands⟩ := waits.releases rfl
    have sited := waits.sited supplier rfl
    rw [if_pos asked_eq]
    refine settles_endPlacing settled fun id mem => ?_
    by_cases released : id ∈ failed
    · exact .inr released
    · exact .inl ⟨stands id mem released, sited.1⟩
  case h_16 put data =>
    fun_cases Grid.defenseBuild settings put data grid <;>
      first
      | exact (leaves_say _).settles settled
      | exact leaves_same.settles settled
      | exact (leaves_next rfl).settles settled
  case h_17 put data yes =>
    split
    · exact (leaves_defenseEnough (fun _ _ => rfl) put data).settles settled
    · exact leaves_same.settles settled
  case h_18 put data yes =>
    split
    · exact (leaves_next rfl).settles settled
    · exact (leaves_say _).settles settled
  case h_19 put data yes =>
    split
    · exact (leaves_defenseEnough (fun _ _ => rfl) put data).settles settled
    · exact leaves_same.settles settled
  case h_20 put build yes => exact settles_defensePaid settled build yes
  case h_21 put build yes => exact settles_defensePaid settled build yes
  case h_22 pid next unionId =>
    rw [Grid.askedUnion]
    split
    · exact (leaves_say _).settles settled
    · exact (leaves_next rfl).settles settled
  case h_23 pid next yes =>
    split
    · exact (leaves_permitted next _).settles settled
    · exact (leaves_say _).settles settled
  case h_24 pid toPid unionId found =>
    rw [Grid.gift]
    split
    · exact (leaves_say _).settles settled
    · exact ⟨⟨settled.placed, settled.charged⟩, by simp, by simp⟩
  case h_25 drop sent rest => exact (leaves_handBackAll drop sent rest).settles settled
  case h_26 =>
    refine ⟨settled, ?_, by simp⟩
    simp only [List.mem_singleton]
    rintro _ rfl
    exact waits

theorem waits_start {request : Request} (unlocked : request.takesLock = false)
    (allowed : (placingGuard settings).onRequest request grid others) {other : Task}
    (other_mem : other ∈ others) (waits : other.Waits grid) :
    other.Waits (grid.start settings request).1 := by
  cases request with
  | onCampaignBegin => exact waits.of_same rfl rfl rfl
  | onCampaignEnd campaign => exact waits_of_none (allowed rfl other other_mem)
  | doMatchSeasonEndClear => exact waits_of_none (allowed rfl other other_mem)
  | dissolveUnionHandle unionId => exact waits_of_none (allowed rfl other other_mem)
  | updateOwnerInfo unionId =>
      obtain ⟨party_eq, natural_eq, builds_eq⟩ := updateOwnerInfo_frame grid unionId
      exact waits.of_same party_eq natural_eq builds_eq
  | elapse seconds =>
      have frame : (grid.elapse seconds).owner = grid.owner ∧
          (grid.elapse seconds).builds = grid.builds := by
        rw [Grid.elapse]
        split <;> exact ⟨rfl, rfl⟩
      exact waits.of_same (congrArg Owner.party frame.1) (congrArg Owner.isNatural frame.1) frame.2
  | _ => cases unlocked

theorem waits_proceed {task : Task} (unlocked : task.holdsLock = false) (reply : Reply)
    (allowed : (placingGuard settings).onReply task reply grid others) {other : Task}
    (other_mem : other ∈ others) (waits : other.Waits grid) :
    other.Waits (grid.proceed settings task reply).1 := by
  cases task with
  | handBack drop sent rest =>
      cases reply with
      | done =>
          cases rest with
          | nil => exact waits_of_none (allowed other other_mem)
          | cons back rest => exact waits.of_same rfl rfl rfl
      | _ => exact waits.of_same rfl rfl rfl
  | _ => cases unlocked

theorem Settles.keeps_unlocked {result : Grid × List Task} (settles : Settles result)
    (unlocked : Unlocked grid result) (stable : ∀ other ∈ others, other.Waits result.1)
    (locks : ∀ other ∈ others, other.holdsLock → grid.locked) :
    placingPool.Keeps others result where
  shared := settles.settled
  stable other other_mem := ⟨stable other other_mem, by
    rw [unlocked.locked]
    exact locks other other_mem⟩
  fresh task task_mem := ⟨settles.waits task task_mem, by simp [unlocked.fresh task task_mem]⟩
  apart other other_mem task task_mem := by simp [placingPool, unlocked.fresh task task_mem]
  fresh_apart := pairwise_of_single settles.single

theorem Settles.keeps_locked {result : Grid × List Task} (settles : Settles result)
    (free : ∀ other ∈ others, other.holdsLock = false) :
    placingPool.Keeps others (Grid.lockFor result) where
  shared := ⟨settles.settled.placed, settles.settled.charged⟩
  stable other other_mem := ⟨waits_of_unlocked (free other other_mem), by
    simp [free other other_mem]⟩
  fresh task task_mem := ⟨(settles.waits task task_mem).of_same rfl rfl rfl, fun _ => by
    simpa [Grid.lockFor, List.isEmpty_iff] using List.ne_nil_of_mem task_mem⟩
  apart other other_mem task task_mem := by simp [placingPool, free other other_mem]
  fresh_apart := pairwise_of_single settles.single

theorem placing_unlocked {task : Task} (own : placingPool.own grid task)
    (free : grid.locked = false) : task.holdsLock = false := by
  by_contra locks
  have locked := own.2 (by simpa using locks)
  rw [free] at locked
  cases locked

theorem placingPool_kept (settings : Settings) :
    placingPool.KeptBy (gridService settings) (placingGuard settings) where
  accept request state others holds allowed := by
    have settles : Settles (state.start settings request) := settles_start request holds.shared
    simp only [gridService, Grid.accept]
    split
    next unlocked =>
      have unlocked : request.takesLock = false := by simpa using unlocked
      exact settles.keeps_unlocked (unlocked_start unlocked)
        (fun other mem => waits_start unlocked allowed mem (holds.own other mem).1)
        fun other mem => (holds.own other mem).2
    · split
      · exact Pool.Keeps.ended holds
      next free =>
        exact settles.keeps_locked fun other mem =>
          placing_unlocked (holds.own other mem) (by simpa using free)
  resume task reply state others holds own apart allowed := by
    have settles : Settles (state.proceed settings task reply) :=
      settles_proceed task reply holds.shared own.1 allowed
    simp only [gridService, Grid.resume]
    split
    next locks =>
      refine settles.keeps_locked fun other mem => ?_
      by_contra other_locks
      exact apart other mem ⟨locks, by simpa using other_locks⟩
    next unlocked =>
      have unlocked : task.holdsLock = false := by simpa using unlocked
      exact settles.keeps_unlocked (unlocked_proceed unlocked reply)
        (fun other mem => waits_proceed unlocked reply allowed mem (holds.own other mem).1)
        fun other mem => (holds.own other mem).2

theorem placingPool_start (settings : Settings) (clock : ℤ) :
    placingPool.Holds (gridStart settings clock) where
  shared := ⟨by simp [gridStart, Grid.init], by simp [gridStart, Grid.init]⟩
  own := by simp [gridStart]
  apart := .nil

end Service

/-- After one NFT was put on the grid, a list of two has room for one more. -/
def listedRun : List (Event Request Reply) :=
  placedRun ++
    [.request (.putBuildList ⟨1, [(8, ⟨20, 20⟩), (9, ⟨50, 50⟩)], 9, .person⟩),
      .reply 0 (.builds (some [{ sampleNft with id := some 8 }, { sampleNft with id := some 9 }])),
      .reply 0 (.ids [8, 9]), .reply 0 .done]

/-- Player 2 wins the grid while `useNftItemOnGrid` of player 1 is under way. -/
def capturedRun : List (Event Request Reply) :=
  placedRun.dropLast ++
    [.request (.onCampaignEnd ⟨.win, some ⟨2, 9, false⟩, [], true⟩),
      .reply 0 (.build (some sampleNft))]

end BasWar.Starmap
