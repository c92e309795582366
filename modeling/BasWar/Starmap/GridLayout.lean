import BasWar.Starmap.GridService
import BasWar.Starmap.GridTable
import Mathlib.Algebra.Order.BigOperators.Group.List
import Mathlib.Algebra.Order.Group.Nat
import Mathlib.Data.List.Perm.Subperm

/-!
# The layout of a grid

The lock lets one handler change the buildings of a grid at a time, so that what was counted and
tested still holds after a call.  `canPutdown` tests the corner of a building only, and the area of
the building that changes places with it not at all: the layout is kept as long as what is placed
and moved ends within the valid area.
-/

namespace BasWar.Starmap

open Cooperative

/-- All cells of a building are in the area whose corners `isPosValid` knows. -/
def Settings.Inside (settings : Settings) (rect : Rect) : Prop :=
  mapGridMin ≤ rect.pos.x ∧ rect.pos.x + rect.length - 1 ≤ settings.maxPos.x ∧
    mapGridMin ≤ rect.pos.z ∧ rect.pos.z + rect.width - 1 ≤ settings.maxPos.z
  deriving Decidable

def NoOverlaps (builds : List Build) : Prop :=
  ∀ first ∈ builds, ∀ second ∈ builds, first.id ≠ second.id →
    isRectOverlap first.rect second.rect = false
  deriving Decidable

/-- A layout without overlaps that has room for its towers; the table has every id once, and no id
of a building is 0. -/
structure Laid (settings : Settings) (grid : Grid) : Prop where
  nodup : (grid.builds.map (·.id)).Nodup
  named : ∀ build ∈ grid.builds, build.id ≠ 0
  uuid : grid.uuid ≠ 0
  apart : NoOverlaps grid.builds
  count : grid.getPlyBuildCount ≤ settings.towerCount

def Request.keepsOwner : Request → Bool
  | .giveUpMyGrid _ | .giftWithMyGrid _ _ | .onCampaignEnd _ | .doMatchSeasonEndClear
  | .dissolveUnionHandle _ => false
  | _ => true

def oneOwner : Guard Grid Request Task Reply where
  onRequest request _ _ := request.keepsOwner
  onReply _ _ _ _ := True

/-- Over a whole schedule nothing overlaps, nothing is put or moved beyond the valid area, and there
are not too many towers. -/
structure LayoutKept (settings : Settings) (grid : Grid) (events : List (Event Request Reply)) :
    Prop where
  apart : ∀ before after, events = before ++ after →
    NoOverlaps ((gridService settings).run ⟨grid, []⟩ before).state.builds
  inside : ∀ before event after, events = before ++ event :: after →
    ∀ build ∈ ((gridService settings).run ⟨grid, []⟩ (before ++ [event])).state.builds,
      build ∈ ((gridService settings).run ⟨grid, []⟩ before).state.builds ∨
        settings.Inside build.rect
  count : ∀ before after, events = before ++ after →
    ((gridService settings).run ⟨grid, []⟩ before).state.getPlyBuildCount ≤ settings.towerCount

/-! ## When the layout is kept -/

namespace Grid

/-- A building can be put down there and ends within the area. -/
def PutFits (settings : Settings) (rect : Rect) (grid : Grid) : Prop :=
  (grid.canPutdown settings 0 none rect).isSome ∧ settings.Inside rect
  deriving Decidable

/-- If the move is made, both buildings end within the area. -/
def MoveFits (settings : Settings) (build : Build) (pos : Pos) (grid : Grid) : Prop :=
  ∀ overlap ∈ grid.canPutdown settings build.id (some build.pos) ⟨pos, build.length, build.width⟩,
    settings.Inside ⟨pos, build.length, build.width⟩ ∧
      ∀ other ∈ overlap, settings.Inside { other.rect with pos := build.pos }

instance (settings : Settings) (build : Build) (pos : Pos) (grid : Grid) :
    Decidable (grid.MoveFits settings build pos) := by
  unfold MoveFits
  infer_instance

def RecordFits (settings : Settings) (data : BuildData) (pos : Pos) (grid : Grid) : Prop :=
  data.id ≠ some 0 ∧ ∀ cfg ∈ settings.buildCfg data.cfgId data.quality data.level,
    grid.PutFits settings ⟨pos, cfg.length, cfg.width⟩

instance (settings : Settings) (data : BuildData) (pos : Pos) (grid : Grid) :
    Decidable (grid.RecordFits settings data pos) := by
  unfold RecordFits
  infer_instance

end Grid

/-- The buildings of a list end within the area. -/
def PutList.Fits (settings : Settings) (objs : List BuildData) (used : List ℕ) (list : PutList) :
    Prop :=
  0 ∉ used ∧ ∀ id ∈ used, ∀ obj ∈ objs, obj.id = some id →
    ∀ cfg ∈ settings.buildCfg obj.cfgId obj.quality obj.level, ∀ pos ∈ list.pos? id,
      settings.isPosValid pos → settings.Inside ⟨pos, cfg.length, cfg.width⟩

instance (settings : Settings) (objs : List BuildData) (used : List ℕ) (list : PutList) :
    Decidable (list.Fits settings objs used) := by
  unfold PutList.Fits
  infer_instance

/-- The record that is handed out at last fits as the one that was tested, a defence building is no
NFT, and what is placed or moved ends within the area. -/
def layoutGuard (settings : Settings) : Guard Grid Request Task Reply where
  onRequest request grid _ :=
    request.keepsOwner = true ∧
      match request with
      | .moveBuild _ buildId pos =>
          ∀ build ∈ grid.getBuild buildId, grid.MoveFits settings build pos
      | _ => True
  onReply task reply grid _ :=
    match task, reply with
    | .useNftItemOnGrid put, .build (some data) | .starMapTakeNft put _, .build (some data) =>
        grid.RecordFits settings data put.pos
    | .useBuildListToGrid list objs, .ids used | .starMapUseNftListToGrid list objs _, .ids used =>
        list.Fits settings objs used
    | .costResDict _ build, .allowed true | .costUnionResDict _ build, .allowed true =>
        build.id ≠ 0 ∧ build.isNFT = false ∧ grid.PutFits settings build.rect
    | .checkPermitted _ (.moveBuild build pos), .allowed true => grid.MoveFits settings build pos
    | _, _ => True

instance (settings : Settings) (request grid others) :
    Decidable ((layoutGuard settings).onRequest request grid others) := by
  unfold layoutGuard
  induction request using Request.casesOn <;> dsimp only <;> infer_instance

instance (settings : Settings) (task reply grid others) :
    Decidable ((layoutGuard settings).onReply task reply grid others) := by
  unfold layoutGuard
  induction task using Task.casesOn
  all_goals try (rename_i next; induction next using Permitted.casesOn)
  all_goals
    induction reply using Reply.casesOn <;> first
      | (dsimp only; infer_instance)
      | (rename_i data; induction data using Option.casesOn <;> dsimp only <;> infer_instance)
      | (rename_i yes; induction yes using Bool.casesOn <;> dsimp only <;> infer_instance)

/-! ## Tables without overlaps -/

theorem isRectOverlap_comm (first second : Rect) :
    isRectOverlap first second = isRectOverlap second first := by
  rw [Bool.eq_iff_iff]
  simp only [isRectOverlap, decide_eq_true_eq]
  omega

section Tables

variable {settings : Settings} {grid : Grid} {builds : List Build} {build : Build}

theorem NoOverlaps.filter (apart : NoOverlaps builds) (keep : Build → Bool) :
    NoOverlaps (builds.filter keep) :=
  fun first first_mem second second_mem =>
    apart first (List.mem_of_mem_filter first_mem) second (List.mem_of_mem_filter second_mem)

theorem NoOverlaps.cons (apart : NoOverlaps builds)
    (free : ∀ other ∈ builds, isRectOverlap build.rect other.rect = false) :
    NoOverlaps (build :: builds) := by
  intro first first_mem second second_mem ne
  obtain first_eq | first_old := List.mem_cons.mp first_mem <;>
    obtain second_eq | second_old := List.mem_cons.mp second_mem
  · rw [first_eq, second_eq] at ne
    exact absurd rfl ne
  · rw [first_eq]
    exact free second second_old
  · rw [second_eq, isRectOverlap_comm]
    exact free first first_old
  · exact apart first first_old second second_old ne

theorem free_of_canPutdown {rect : Rect} (named : ∀ build ∈ grid.builds, build.id ≠ 0)
    (can : (grid.canPutdown settings 0 none rect).isSome) :
    ∀ other ∈ grid.builds, isRectOverlap rect other.rect = false := by
  intro other other_mem
  by_contra overlaps
  have listed : other ∈ grid.builds.filter fun build =>
      build.id ≠ 0 ∧ isRectOverlap rect build.rect :=
    List.mem_filter.mpr ⟨other_mem, by simpa [named other other_mem] using overlaps⟩
  unfold Grid.canPutdown at can
  split at can
  · cases can
  · split at can
    next empty => rw [empty] at listed; cases listed
    next none_eq => cases none_eq
    next => cases can

theorem isPosValid_of_canPutdown {buildId : ℕ} {oldPos : Option Pos} {rect : Rect}
    (can : (grid.canPutdown settings buildId oldPos rect).isSome) :
    settings.isPosValid rect.pos = true := by
  unfold Grid.canPutdown at can
  split at can
  · cases can
  next valid => simpa using valid

/-- How often a building counts in `getPlyBuildCount`. -/
def Build.towers (build : Build) : ℕ :=
  (if build.isNormal then 1 else 0) + if build.isNFT then 1 else 0

theorem getPlyBuildCount_eq (grid : Grid) :
    grid.getPlyBuildCount = (grid.builds.map Build.towers).sum := by
  unfold Grid.getPlyBuildCount
  induction grid.builds with
  | nil => rfl
  | cons build builds ih =>
      rw [List.map_cons, List.sum_cons, ← ih, List.countP_cons, List.countP_cons, Build.towers]
      omega

theorem sum_towers_filter_le (builds : List Build) (keep : Build → Bool) :
    ((builds.filter keep).map Build.towers).sum ≤ (builds.map Build.towers).sum :=
  (List.filter_sublist.map Build.towers).sum_le_sum fun _ _ => Nat.zero_le _

theorem sum_towers_le {old : List Build} {ids : List ℕ} (nodup : (builds.map (·.id)).Nodup)
    (new : ∀ build ∈ builds, build ∈ old ∨ build.id ∈ ids ∧ build.towers ≤ 1) :
    (builds.map Build.towers).sum ≤ (old.map Build.towers).sum + ids.length := by
  let keeps : List Build := builds.filter (· ∈ old)
  let adds : List Build := builds.filter (¬ · ∈ old)
  have split_eq : (keeps.map Build.towers).sum + (adds.map Build.towers).sum =
      (builds.map Build.towers).sum :=
    List.sum_map_filter_add_sum_map_filter_not (· ∈ old) Build.towers builds
  have kept : (keeps.map Build.towers).sum ≤ (old.map Build.towers).sum := by
    obtain ⟨same, perm, sub⟩ : keeps.Subperm old :=
      ((List.Nodup.of_map _ nodup).filter _).subperm fun build build_mem => by
        simpa using List.of_mem_filter build_mem
    rw [← (perm.map Build.towers).sum_eq]
    exact (sub.map Build.towers).sum_le_sum fun _ _ => Nat.zero_le _
  have added : ∀ build ∈ adds, build.id ∈ ids ∧ build.towers ≤ 1 := by
    intro build build_mem
    obtain ⟨listed, absent⟩ := List.mem_filter.mp build_mem
    exact (new build listed).resolve_left (by simpa using absent)
  have once : (adds.map Build.towers).sum ≤ adds.length := by
    have sum_le := List.sum_le_card_nsmul (adds.map Build.towers) 1 fun count count_mem => by
      obtain ⟨build, build_mem, rfl⟩ := List.mem_map.mp count_mem
      exact (added build build_mem).2
    simpa using sum_le
  have few : adds.length ≤ ids.length := by
    rw [← List.length_map (f := fun build : Build => build.id)]
    refine ((nodup.sublist (List.filter_sublist.map _)).subperm fun id id_mem => ?_).length_le
    obtain ⟨build, build_mem, rfl⟩ := List.mem_map.mp id_mem
    exact (added build build_mem).1
  omega

theorem getPlyBuildCount_setBuild_le (build : Build) (grid : Grid) :
    (grid.setBuild build).getPlyBuildCount ≤ grid.getPlyBuildCount + build.towers := by
  rw [getPlyBuildCount_eq, getPlyBuildCount_eq, Grid.setBuild, List.map_cons, List.sum_cons,
    Nat.add_comm]
  exact Nat.add_le_add_right (sum_towers_filter_le _ _) _

theorem Laid.map {change : Build → Build} (laid : Laid settings grid)
    (same : ∀ build, (change build).id = build.id ∧ (change build).towers = build.towers)
    (apart : ∀ first ∈ grid.builds, ∀ second ∈ grid.builds, first.id ≠ second.id →
      isRectOverlap (change first).rect (change second).rect = false) :
    Laid settings { grid with builds := grid.builds.map change } where
  nodup := by
    have ids_eq : (grid.builds.map change).map (·.id) = grid.builds.map (·.id) := by
      rw [List.map_map]
      exact List.map_congr_left fun build _ => (same build).1
    rw [ids_eq]
    exact laid.nodup
  named build build_mem := by
    obtain ⟨old, old_mem, rfl⟩ := List.mem_map.mp build_mem
    rw [(same old).1]
    exact laid.named old old_mem
  uuid := laid.uuid
  apart first first_mem second second_mem ne := by
    obtain ⟨one, one_mem, rfl⟩ := List.mem_map.mp first_mem
    obtain ⟨other, other_mem, rfl⟩ := List.mem_map.mp second_mem
    rw [(same one).1, (same other).1] at ne
    exact apart one one_mem other other_mem ne
  count := by
    have towers_eq : (grid.builds.map change).map Build.towers = grid.builds.map Build.towers := by
      rw [List.map_map]
      exact List.map_congr_left fun build _ => (same build).2
    have count := laid.count
    rw [getPlyBuildCount_eq] at count ⊢
    rwa [towers_eq]

theorem Laid.filter (laid : Laid settings grid) (keep : Build → Bool) :
    Laid settings { grid with builds := grid.builds.filter keep } where
  nodup := laid.nodup.sublist (List.filter_sublist.map _)
  named build build_mem := laid.named build (List.mem_of_mem_filter build_mem)
  uuid := laid.uuid
  apart := laid.apart.filter keep
  count := by
    have count := laid.count
    rw [getPlyBuildCount_eq] at count ⊢
    exact (sum_towers_filter_le _ keep).trans count

theorem Laid.setBuild (laid : Laid settings grid) (named : build.id ≠ 0)
    (can : (grid.canPutdown settings 0 none build.rect).isSome)
    (room : grid.getPlyBuildCount + build.towers ≤ settings.towerCount) :
    Laid settings (grid.setBuild build) where
  nodup := nodup_setBuild laid.nodup build
  named other other_mem := by
    obtain rfl | old := List.mem_cons.mp other_mem
    · exact named
    · exact laid.named other (List.mem_of_mem_filter old)
  uuid := laid.uuid
  apart := by
    refine (laid.apart.filter _).cons fun other other_mem => ?_
    exact free_of_canPutdown laid.named can other (List.mem_of_mem_filter other_mem)
  count := (getPlyBuildCount_setBuild_le build grid).trans room

theorem Laid.of_same {after : Grid} (laid : Laid settings grid)
    (builds : after.builds = grid.builds) (uuid : after.uuid ≠ 0) : Laid settings after := by
  obtain ⟨nodup, named, -, apart, count⟩ := laid
  rw [getPlyBuildCount_eq] at count
  rw [← builds] at nodup named apart count
  exact ⟨nodup, named, uuid, apart, by rwa [getPlyBuildCount_eq]⟩

end Tables

/-! ## Putting down and moving -/

section Placing

variable {settings : Settings} {grid after : Grid} {list : PutList} {objs : List BuildData}
  {used : List ℕ}

/-- What the loops of `putBuildList` leave. -/
structure PutsDown (settings : Settings) (list : PutList) (grid after : Grid) : Prop where
  nodup : (after.builds.map (·.id)).Nodup
  named : ∀ build ∈ after.builds, build.id ≠ 0
  uuid : after.uuid ≠ 0
  apart : NoOverlaps after.builds
  new : ∀ build ∈ after.builds, build ∈ grid.builds ∨
    build.id ∈ list.buildList.map Prod.fst ∧ build.towers ≤ 1 ∧ settings.Inside build.rect

theorem Laid.putsDown (laid : Laid settings grid) : PutsDown settings list grid grid :=
  ⟨laid.nodup, laid.named, laid.uuid, laid.apart, fun _ build_mem => .inl build_mem⟩

theorem PutsDown.laid (down : PutsDown settings list grid after)
    (room : grid.getPlyBuildCount + list.buildList.length ≤ settings.towerCount) :
    Laid settings after where
  nodup := down.nodup
  named := down.named
  uuid := down.uuid
  apart := down.apart
  count := by
    have few := sum_towers_le down.nodup fun build build_mem =>
      (down.new build build_mem).imp_right fun ⟨listed, once, _⟩ => ⟨listed, once⟩
    rw [List.length_map, ← getPlyBuildCount_eq, ← getPlyBuildCount_eq] at few
    exact few.trans room

theorem PutsDown.place (down : PutsDown settings list grid after)
    (fits : list.Fits settings objs used) {ownerPid : BuildData → ℕ} {id : ℕ} (id_mem : id ∈ used)
    {next : Grid} (listed : after.placeListed settings list objs ownerPid id = some next) :
    PutsDown settings list grid next := by
  simp only [Grid.placeListed, Option.bind_eq_bind, Option.bind_eq_some_iff,
    Option.some.injEq] at listed
  obtain ⟨obj, obj_found, cfg, cfg_eq, pos, pos_eq, overlap, can_eq, build, created, rfl⟩ := listed
  have obj_mem : obj ∈ objs := by simpa using List.mem_of_find?_eq_some obj_found
  have obj_id : obj.id = some id := by simpa using List.find?_some obj_found
  rw [Grid.createBuild, cfg_eq, Option.map_some, Option.some.injEq] at created
  have build_id : build.id = id := by rw [← created, obj_id]; rfl
  have can : (after.canPutdown settings 0 none build.rect).isSome := by
    rw [← created]
    exact Option.isSome_of_eq_some can_eq
  have inside : settings.Inside build.rect := by
    have in_area := fits.2 id id_mem obj obj_mem obj_id cfg cfg_eq pos pos_eq
    rw [← created]
    exact in_area (isPosValid_of_canPutdown (Option.isSome_of_eq_some can_eq))
  have once : build.towers ≤ 1 := by
    rw [← created]
    simp only [Build.towers, Bool.false_eq_true, if_false]
    split <;> omega
  refine ⟨nodup_setBuild down.nodup build, fun other other_mem => ?_, down.uuid, ?_,
    fun other other_mem => ?_⟩
  · obtain rfl | old := List.mem_cons.mp other_mem
    · rintro zero
      exact fits.1 (zero ▸ build_id ▸ id_mem)
    · exact down.named other (List.mem_of_mem_filter old)
  · refine (down.apart.filter _).cons fun other other_mem => ?_
    exact free_of_canPutdown down.named can other (List.mem_of_mem_filter other_mem)
  · obtain rfl | old := List.mem_cons.mp other_mem
    · refine .inr ⟨?_, once, inside⟩
      obtain ⟨entry, entry_found, -⟩ := Option.map_eq_some_iff.mp pos_eq
      refine List.mem_map.mpr ⟨entry, by simpa using List.mem_of_find?_eq_some entry_found, ?_⟩
      rw [build_id]
      simpa using List.find?_some entry_found
    · exact down.new other (List.mem_of_mem_filter old)

theorem placeList_putsDown (down : PutsDown settings list grid after)
    (fits : list.Fits settings objs used) (ownerPid : BuildData → ℕ) (rest : List ℕ)
    (rest_used : ∀ id ∈ rest, id ∈ used) :
    PutsDown settings list grid (Grid.placeList settings list objs ownerPid rest after).1 := by
  induction rest generalizing after with
  | nil => exact down
  | cons id rest ih =>
      have later : ∀ id ∈ rest, id ∈ used := fun id id_mem =>
        rest_used id (List.mem_cons_of_mem _ id_mem)
      rw [Grid.placeList]
      split
      next next_eq => exact ih (down.place fits (rest_used id List.mem_cons_self) next_eq) later
      next => exact ih down later

/-- A building after a move; `overlap` is the one that `build` changes places with. -/
def Build.moved (build : Build) (pos : Pos) (overlap : Option Build) (other : Build) : Build :=
  if other.id = build.id then { other with pos := pos }
  else if overlap.map (·.id) = some other.id then { other with pos := build.pos }
  else other

variable {pos : Pos}

theorem move_cases {build : Build} (standing : grid.getBuild build.id = some build) :
    (∃ said, grid.move settings build pos = { grid with said := said }) ∨
    ∃ overlap, grid.canPutdown settings build.id (some build.pos)
        ⟨pos, build.length, build.width⟩ = some overlap ∧
      grid.move settings build pos =
        { grid with builds := grid.builds.map (build.moved pos overlap) } := by
  unfold Grid.move
  rw [standing, Option.getD_some]
  dsimp only
  split
  next => exact .inl ⟨_, rfl⟩
  next overlap can_eq => exact .inr ⟨overlap, can_eq, rfl⟩

/-- What `canPutdown` has tested: the building at its new position overlaps at most the one that it
changes places with, and that one overlaps nothing at the old position. -/
theorem canPutdown_move {buildId : ℕ} {old : Pos} {rect : Rect} {overlap : Option Build}
    (can : grid.canPutdown settings buildId (some old) rect = some overlap) :
    (∀ other ∈ grid.builds, other.id ≠ buildId → overlap.map (·.id) ≠ some other.id →
      isRectOverlap rect other.rect = false) ∧
    ∀ partner ∈ overlap, partner ∈ grid.builds ∧ partner.id ≠ buildId ∧
      ∀ other ∈ grid.builds, other.id ≠ partner.id →
        isRectOverlap { partner.rect with pos := old }
          (if other.id = buildId then rect else other.rect) = false := by
  unfold Grid.canPutdown at can
  split at can
  · cases can
  · split at can
    next empty =>
      cases can
      refine ⟨fun other other_mem ne _ => ?_, fun partner partner_mem => by cases partner_mem⟩
      by_contra overlaps
      have listed : other ∈ grid.builds.filter fun build =>
          build.id ≠ buildId ∧ isRectOverlap rect build.rect :=
        List.mem_filter.mpr ⟨other_mem, by simpa [ne] using overlaps⟩
      rw [empty] at listed
      cases listed
    next partner oldPos single old_eq =>
      cases old_eq
      dsimp only at can
      split at can
      next free =>
        cases can
        have listed : partner ∈ grid.builds.filter fun build =>
            build.id ≠ buildId ∧ isRectOverlap rect build.rect := by
          rw [single]
          exact List.mem_singleton_self _
        obtain ⟨partner_mem, overlaps⟩ := List.mem_filter.mp listed
        rw [decide_eq_true_eq] at overlaps
        refine ⟨fun other other_mem ne different => ?_, ?_⟩
        · by_contra overlaps
          have other_listed : other ∈ grid.builds.filter fun build =>
              build.id ≠ buildId ∧ isRectOverlap rect build.rect :=
            List.mem_filter.mpr ⟨other_mem, by simpa [ne] using overlaps⟩
          rw [single, List.mem_singleton] at other_listed
          exact different (by rw [other_listed]; rfl)
        · rintro _ ⟨⟩
          refine ⟨partner_mem, overlaps.1, fun other other_mem different => ?_⟩
          have tested := List.all_eq_true.mp free.2.2 other other_mem
          simpa [different] using tested
      next => cases can
    next => cases can

theorem moved_cases {build : Build} (pos : Pos) {overlap : Option Build}
    (nodup : (grid.builds.map (·.id)).Nodup) (build_mem : build ∈ grid.builds)
    (partner_mem : ∀ partner ∈ overlap, partner ∈ grid.builds ∧ partner.id ≠ build.id)
    {other : Build} (other_mem : other ∈ grid.builds) :
    (other = build ∧ (build.moved pos overlap other).rect = ⟨pos, build.length, build.width⟩) ∨
    (other ∈ overlap ∧
      (build.moved pos overlap other).rect = { other.rect with pos := build.pos }) ∨
    other.id ≠ build.id ∧ overlap.map (·.id) ≠ some other.id ∧
      build.moved pos overlap other = other := by
  unfold Build.moved
  by_cases moves : other.id = build.id
  · obtain rfl := List.inj_on_of_nodup_map nodup other_mem build_mem moves
    exact .inl ⟨rfl, by rw [if_pos rfl]; rfl⟩
  · by_cases swaps : overlap.map (·.id) = some other.id
    · obtain ⟨partner, partner_eq, same⟩ := Option.map_eq_some_iff.mp swaps
      obtain rfl := List.inj_on_of_nodup_map nodup (partner_mem partner partner_eq).1 other_mem same
      exact .inr (.inl ⟨partner_eq, by rw [if_neg moves, if_pos swaps]; rfl⟩)
    · exact .inr (.inr ⟨moves, swaps, by rw [if_neg moves, if_neg swaps]⟩)

theorem Laid.move (laid : Laid settings grid) {build : Build}
    (standing : grid.getBuild build.id = some build) :
    Laid settings (grid.move settings build pos) := by
  obtain ⟨said, move_eq⟩ | ⟨overlap, can_eq, move_eq⟩ := move_cases standing
  · rw [move_eq]
    exact laid.of_same rfl laid.uuid
  · rw [move_eq]
    obtain ⟨free, partner_free⟩ := canPutdown_move can_eq
    have build_mem : build ∈ grid.builds := List.mem_of_find?_eq_some standing
    have partner_mem : ∀ partner ∈ overlap, partner ∈ grid.builds ∧ partner.id ≠ build.id :=
      fun partner listed => ⟨(partner_free partner listed).1, (partner_free partner listed).2.1⟩
    refine laid.map (fun other => ?_) fun first first_mem second second_mem ne => ?_
    · unfold Build.moved
      split
      · exact ⟨rfl, rfl⟩
      · split <;> exact ⟨rfl, rfl⟩
    · -- The one that moves, the one that changes places with it, and the others, in pairs.
      have swapped : ∀ partner ∈ overlap, isRectOverlap { partner.rect with pos := build.pos }
          ⟨pos, build.length, build.width⟩ = false := by
        intro partner listed
        have tested := (partner_free partner listed).2.2 build build_mem
          (partner_mem partner listed).2.symm
        rwa [if_pos rfl] at tested
      have stays : ∀ partner ∈ overlap, ∀ other ∈ grid.builds, other.id ≠ build.id →
          overlap.map (·.id) ≠ some other.id →
          isRectOverlap { partner.rect with pos := build.pos } other.rect = false := by
        intro partner listed other other_mem other_ne different
        have tested := (partner_free partner listed).2.2 other other_mem fun same =>
          different (by rw [listed, Option.map_some, same])
        rwa [if_neg other_ne] at tested
      obtain ⟨first_eq, first_rect⟩ | ⟨first_in, first_rect⟩ | ⟨first_ne, first_out, first_same⟩ :=
          moved_cases pos laid.nodup build_mem partner_mem first_mem <;>
        obtain ⟨second_eq, second_rect⟩ | ⟨second_in, second_rect⟩ |
          ⟨second_ne, second_out, second_same⟩ :=
          moved_cases pos laid.nodup build_mem partner_mem second_mem
      · exact absurd (first_eq.trans second_eq.symm) fun same => ne (congrArg Build.id same)
      · rw [first_rect, second_rect, isRectOverlap_comm]
        exact swapped second second_in
      · rw [first_rect, second_same]
        exact free second second_mem second_ne second_out
      · rw [first_rect, second_rect]
        exact swapped first first_in
      · exact absurd (congrArg Build.id (Option.mem_unique first_in second_in)) ne
      · rw [first_rect, second_same]
        exact stays first first_in second second_mem second_ne second_out
      · rw [first_same, second_rect, isRectOverlap_comm]
        exact free first first_mem first_ne first_out
      · rw [first_same, second_rect, isRectOverlap_comm]
        exact stays second second_in first first_mem first_ne first_out
      · rw [first_same, second_same]
        exact laid.apart first first_mem second second_mem ne

theorem inside_move (laid : Laid settings grid) {build : Build}
    (standing : grid.getBuild build.id = some build) (fits : grid.MoveFits settings build pos) :
    ∀ other ∈ (grid.move settings build pos).builds,
      other ∈ grid.builds ∨ settings.Inside other.rect := by
  obtain ⟨said, move_eq⟩ | ⟨overlap, can_eq, move_eq⟩ := move_cases standing
  · rw [move_eq]
    exact fun other other_mem => .inl other_mem
  · rw [move_eq]
    obtain ⟨-, partner_free⟩ := canPutdown_move can_eq
    obtain ⟨inside, partner_inside⟩ := fits overlap can_eq
    intro moved moved_mem
    obtain ⟨other, other_mem, rfl⟩ := List.mem_map.mp moved_mem
    obtain ⟨-, rect_eq⟩ | ⟨listed, rect_eq⟩ | ⟨-, -, same⟩ := moved_cases pos laid.nodup
      (List.mem_of_find?_eq_some standing)
      (fun partner listed => ⟨(partner_free partner listed).1, (partner_free partner listed).2.1⟩)
      other_mem
    · rw [rect_eq]
      exact .inr inside
    · rw [rect_eq]
      exact .inr (partner_inside other listed)
    · rw [same]
      exact .inl other_mem

end Placing

/-- What a handler of the union may rely on. -/
def Permitted.Ready (grid : Grid) : Permitted → Prop
  | .moveBuild build _ => grid.getBuild build.id = some build
  | .giveUpMyGrid => False
  | .storeBuild _ | .delBuild _ => True

/-- What a suspended handler may rely on: the room that it has found, and the building that it is
about to move.  No handler is about to change the owner. -/
def Task.Ready (settings : Settings) (grid : Grid) : Task → Prop
  | .getNftItemOnGrid _ | .useNftItemOnGrid _ | .checkPutBuild _ | .getNftInfo _
  | .chainExclusive _ _ | .starMapTakeNft _ _ | .getUnionDefenseBuild _ | .isResDictEnough _ _
  | .costResDict _ _ | .checkDefense _ _ | .isUnionResDictEnough _ _ | .costUnionResDict _ _ =>
      grid.getPlyBuildCount < settings.towerCount
  | .getBuildListToGrid list | .useBuildListToGrid list _ | .checkPutBuildList list
  | .getNftList list | .chainExclusiveList list _ | .starMapUseNftListToGrid list _ _ =>
      grid.getPlyBuildCount + list.buildList.length ≤ settings.towerCount
  | .notUse _ _ _ _ => True
  | .getUnionIdByPid _ next | .checkPermitted _ next => next.Ready grid
  | .getUnionMember _ _ _ => False
  | .handBack drop _ _ => ∃ buildId, drop = .storeBuild buildId

structure Lays (settings : Settings) (grid : Grid) (result : Grid × List Task) : Prop where
  laid : Laid settings result.1
  ready : ∀ task ∈ result.2, task.Ready settings result.1
  single : result.2.length ≤ 1
  inside : ∀ build ∈ result.1.builds, build ∈ grid.builds ∨ settings.Inside build.rect

section Handlers

variable {settings : Settings} {grid : Grid}

variable {task : Task} {request : Request} {others : List Task}

theorem Task.Ready.of_same {after : Grid} (ready : task.Ready settings grid)
    (builds : after.builds = grid.builds) : task.Ready settings after := by
  have count_eq : after.getPlyBuildCount = grid.getPlyBuildCount := by
    rw [getPlyBuildCount_eq, builds, getPlyBuildCount_eq]
  have build_eq : ∀ id, after.getBuild id = grid.getBuild id := fun id => by
    rw [Grid.getBuild, builds, Grid.getBuild]
  cases task with
  | getUnionIdByPid pid next | checkPermitted pid next =>
      cases next with
      | moveBuild => exact (build_eq _).trans ready
      | _ => exact ready
  | notUse | getUnionMember | handBack => exact ready
  | _ =>
      simp only [Task.Ready, count_eq]
      exact ready

theorem holdsLock_of_ready (ready : task.Ready settings grid) : task.holdsLock = true := by
  cases task with
  | handBack drop sent rest =>
      obtain ⟨buildId, rfl⟩ := ready
      rfl
  | _ => rfl

theorem Lays.quiet {after : Grid} {tasks : List Task} (laid : Laid settings grid)
    (builds : after.builds = grid.builds) (uuid : after.uuid ≠ 0)
    (ready : ∀ task ∈ tasks, task.Ready settings grid) (single : tasks.length ≤ 1) :
    Lays settings grid (after, tasks) where
  laid := laid.of_same builds uuid
  ready task task_mem := (ready task task_mem).of_same builds
  single := single
  inside _ build_mem := .inl (builds ▸ build_mem)

theorem Lays.stop (laid : Laid settings grid) {after : Grid} (builds : after.builds = grid.builds)
    (uuid : after.uuid = grid.uuid) : Lays settings grid (after, []) :=
  .quiet laid builds (uuid ▸ laid.uuid) (by simp) (by simp)

theorem Lays.ask (laid : Laid settings grid) (ready : task.Ready settings grid) :
    Lays settings grid (grid, [task]) :=
  .quiet laid rfl laid.uuid (by simpa using ready) (by simp)

theorem lays_place {after : Grid} {build : Build} (laid : Laid settings grid)
    (named : build.id ≠ 0) (fits : grid.PutFits settings build.rect)
    (room : grid.getPlyBuildCount + build.towers ≤ settings.towerCount)
    (builds : after.builds = (grid.setBuild build).builds) (uuid : after.uuid ≠ 0) :
    Lays settings grid (after, []) where
  laid := (laid.setBuild named fits.1 room).of_same builds uuid
  ready := by simp
  single := by simp
  inside other other_mem := by
    dsimp only at other_mem
    rw [builds] at other_mem
    obtain rfl | old := List.mem_cons.mp other_mem
    · exact .inr fits.2
    · exact .inl (List.mem_of_mem_filter old)

theorem createBuild_spec {data : BuildData} {pos : Pos} {ownerPid : ℕ} {build : Build}
    (created : grid.createBuild settings data pos ownerPid = some build) :
    ∃ cfg, settings.buildCfg data.cfgId data.quality data.level = some cfg ∧
      build.rect = ⟨pos, cfg.length, cfg.width⟩ ∧ build.id = data.id.getD grid.uuid ∧
        build.towers ≤ 1 := by
  obtain ⟨cfg, cfg_eq, rfl⟩ := Option.map_eq_some_iff.mp created
  refine ⟨cfg, cfg_eq, rfl, rfl, ?_⟩
  simp only [Build.towers, Bool.false_eq_true, if_false]
  split <;> omega

theorem uuid_useUuid (data : BuildData) (uuid : grid.uuid ≠ 0) : (grid.useUuid data).uuid ≠ 0 := by
  unfold Grid.useUuid
  split
  · exact Nat.succ_ne_zero _
  · exact uuid

theorem builds_useUuid (data : BuildData) : (grid.useUuid data).builds = grid.builds := by
  unfold Grid.useUuid
  split <;> rfl

theorem lays_putBuild (laid : Laid settings grid) (put : Put) :
    Lays settings grid (grid.putBuild settings put) := by
  unfold Grid.putBuild
  split
  next => exact .stop laid rfl rfl
  next =>
    split
    next => exact .stop laid rfl rfl
    next full =>
      have room : grid.getPlyBuildCount < settings.towerCount := Nat.not_le.mp full
      split
      next => split <;> first | exact .ask laid room | exact .stop laid rfl rfl
      next => split <;> first | exact .ask laid room | exact .stop laid rfl rfl
      next => exact .stop laid rfl rfl

section

variable (laid : Laid settings grid) (room : grid.getPlyBuildCount < settings.towerCount)
include laid room

theorem lays_putNftItem (put : Put) (data : Option BuildData) :
    Lays settings grid (grid.putNftItem settings put data) := by
  unfold Grid.putNftItem
  split
  next => exact .stop laid rfl rfl
  next => split <;> first | exact .ask laid room | exact .stop laid rfl rfl

theorem lays_putNftInfo (put : Put) (data : BuildData) (exclusive : Option ℤ) :
    Lays settings grid (grid.putNftInfo settings put data exclusive) := by
  unfold Grid.putNftInfo
  split
  next => exact .stop laid rfl rfl
  next => split <;> first | exact .ask laid room | exact .stop laid rfl rfl

theorem lays_putTaken (supplier : Party) {put : Put} {data : BuildData}
    (fits : grid.RecordFits settings data put.pos) (ownerPid : ℕ) :
    Lays settings grid (grid.putTaken settings supplier put data ownerPid) := by
  unfold Grid.putTaken
  split
  next => exact .stop laid rfl rfl
  next build created =>
    obtain ⟨cfg, cfg_eq, rect_eq, id_eq, once⟩ := createBuild_spec created
    refine lays_place laid ?_ ?_ ((Nat.add_le_add_left once _).trans room) ?_
      (uuid_useUuid data laid.uuid)
    · rw [id_eq]
      cases id_eq : data.id with
      | none => exact laid.uuid
      | some id => exact fun zero => fits.1 (id_eq.trans (congrArg some zero))
    · rw [rect_eq]
      exact fits.2 cfg cfg_eq
    · simp only [Grid.place, Grid.setBuild, builds_useUuid]

end

theorem lays_putBuildList (laid : Laid settings grid) (list : PutList) :
    Lays settings grid (grid.putBuildList settings list) := by
  unfold Grid.putBuildList
  split
  next => exact .stop laid rfl rfl
  next =>
    split
    next => exact .stop laid rfl rfl
    next full =>
      have room : grid.getPlyBuildCount +
          (list.buildList.take (settings.towerCount - grid.getPlyBuildCount)).length ≤
            settings.towerCount := by
        rw [List.length_take]
        omega
      dsimp only
      split
      next =>
        split
        · exact .stop laid rfl rfl
        · split <;> first | exact .ask laid room | exact .stop laid rfl rfl
      next =>
        split
        · exact .stop laid rfl rfl
        · split <;> first | exact .ask laid room | exact .stop laid rfl rfl
      next => exact .stop laid rfl rfl

theorem lays_placeList (laid : Laid settings grid) {list : PutList}
    (room : grid.getPlyBuildCount + list.buildList.length ≤ settings.towerCount)
    {objs : List BuildData} {used : List ℕ} (fits : list.Fits settings objs used)
    (ownerPid : BuildData → ℕ) (supplier asked : Party) :
    Lays settings grid (Grid.releaseFailed supplier asked used
      (Grid.placeList settings list objs ownerPid used grid)) := by
  have down := placeList_putsDown laid.putsDown fits ownerPid used fun _ id_mem => id_mem
  have inside := fun build build_mem =>
    (down.new build build_mem).imp_right fun ⟨_, _, inside⟩ => inside
  have laid_after := down.laid room
  unfold Grid.releaseFailed
  split
  · exact ⟨laid_after.of_same rfl laid_after.uuid, by simp [Grid.endPlacing],
      by simp [Grid.endPlacing], inside⟩
  · exact ⟨laid_after, by simp [Task.Ready], by simp, inside⟩

theorem lays_addDefenselBuild (laid : Laid settings grid) (put : Put) :
    Lays settings grid (grid.addDefenselBuild settings put) := by
  unfold Grid.addDefenselBuild
  split
  next => exact .stop laid rfl rfl
  next =>
    split
    next => exact .stop laid rfl rfl
    next full => exact .ask laid (Nat.not_le.mp full)

theorem lays_defenseBuild (laid : Laid settings grid)
    (room : grid.getPlyBuildCount < settings.towerCount) (put : Put) (data : Option BuildData) :
    Lays settings grid (grid.defenseBuild settings put data) := by
  fun_cases Grid.defenseBuild settings put data grid <;>
    first | exact .ask laid room | exact .stop laid rfl rfl

theorem lays_defenseEnough (laid : Laid settings grid) {cost : Put → Build → Task}
    (ready : ∀ put build, (cost put build).Ready settings grid) (put : Put) (data : BuildData) :
    Lays settings grid (grid.defenseEnough settings cost put data) := by
  unfold Grid.defenseEnough
  split
  next => exact .stop laid rfl rfl
  next build _ =>
    exact .quiet laid (builds_useUuid data) (uuid_useUuid data laid.uuid)
      (by simpa using ready put _) (by simp)

theorem lays_defensePaid (laid : Laid settings grid)
    (room : grid.getPlyBuildCount < settings.towerCount) {build : Build} {charged : Bool}
    (fits : charged = true →
      build.id ≠ 0 ∧ build.isNFT = false ∧ grid.PutFits settings build.rect) :
    Lays settings grid (grid.defensePaid build charged) := by
  unfold Grid.defensePaid
  split
  next paid =>
    obtain ⟨named, no_nft, put_fits⟩ := fits paid
    have once : build.towers ≤ 1 := by
      simp only [Build.towers, no_nft]
      split <;> simp
    exact lays_place laid named put_fits ((Nat.add_le_add_left once _).trans room) rfl laid.uuid
  next => exact .stop laid rfl rfl

section

variable (laid : Laid settings grid)
include laid

theorem lays_filter (keep : Build → Bool) :
    Lays settings grid ({ grid with builds := grid.builds.filter keep }, []) :=
  ⟨laid.filter keep, by simp, by simp, fun _ build_mem => .inl (List.mem_of_mem_filter build_mem)⟩

section

variable {next : Permitted} (ready : next.Ready grid)
  (fits : ∀ build pos, next = .moveBuild build pos → grid.MoveFits settings build pos)
include ready fits

theorem lays_permitted (keeper : Keeper) :
    Lays settings grid (grid.permitted settings next keeper) := by
  cases next with
  | storeBuild build =>
      exact .quiet laid rfl laid.uuid (by simp [Task.Ready]) (by simp)
  | giveUpMyGrid => exact ready.elim
  | delBuild buildId => exact lays_filter laid _
  | moveBuild build pos =>
      exact ⟨laid.move ready, by simp [Grid.permitted], by simp [Grid.permitted],
        inside_move laid ready (fits build pos rfl)⟩

theorem lays_askOwner (pid : ℕ) :
    Lays settings grid (grid.askOwner settings pid next) := by
  unfold Grid.askOwner
  split
  next =>
    split
    · exact .stop laid rfl rfl
    · exact lays_permitted laid ready fits _
  next => exact .ask laid ready
  next => exact .stop laid rfl rfl

end

theorem lays_moveBuild {pid buildId : ℕ} {pos : Pos}
    (fits : ∀ build ∈ grid.getBuild buildId, grid.MoveFits settings build pos) :
    Lays settings grid (grid.moveBuild settings pid buildId pos) := by
  unfold Grid.moveBuild
  split
  next => exact .stop laid rfl rfl
  next =>
    split
    next => exact .stop laid rfl rfl
    next build build_eq =>
      have id_eq : build.id = buildId := by simpa using List.find?_some build_eq
      refine lays_askOwner laid ?_ ?_ pid
      · exact (congrArg grid.getBuild id_eq).trans build_eq
      · intro moving target same
        cases same
        exact fits build build_eq

theorem lays_delBuild (pid buildId : ℕ) :
    Lays settings grid (grid.delBuild settings pid buildId) := by
  fun_cases Grid.delBuild settings pid buildId grid
  case case5 => exact lays_askOwner laid (by exact trivial) (by simp) pid
  all_goals exact .stop laid rfl rfl

theorem lays_storeBuild (pid buildId : ℕ) :
    Lays settings grid (grid.storeBuild settings pid buildId) := by
  fun_cases Grid.storeBuild settings pid buildId grid
  case case4 => exact lays_askOwner laid (by exact trivial) (by simp) pid
  all_goals exact .stop laid rfl rfl

theorem lays_storeUnionNft (buildId : ℕ) : Lays settings grid (grid.storeUnionNft buildId) := by
  unfold Grid.storeUnionNft
  split
  next => exact .stop laid rfl rfl
  next =>
    split
    · exact .stop laid rfl rfl
    · exact ⟨(laid.filter (·.id ≠ buildId)).of_same rfl laid.uuid, by simp, by simp,
        fun _ build_mem => .inl (List.mem_of_mem_filter build_mem)⟩

theorem lays_storeBuilds (buildId : ℕ) (sent : List Build) (rest : List HandBack) :
    Lays settings grid (grid.handBackAll settings (.storeBuild buildId) sent rest) := by
  cases rest with
  | nil => exact lays_filter laid _
  | cons back rest => exact .quiet laid rfl laid.uuid (by simp [Task.Ready]) (by simp)

end

theorem lays_start (laid : Laid settings grid)
    (allowed : (layoutGuard settings).onRequest request grid others) :
    Lays settings grid (grid.start settings request) := by
  obtain ⟨keeps, fits⟩ := allowed
  cases request with
  | putBuild put => exact lays_putBuild laid put
  | putBuildList list => exact lays_putBuildList laid list
  | addDefenselBuild put => exact lays_addDefenselBuild laid put
  | moveBuild pid buildId pos => exact lays_moveBuild laid fits
  | delBuild pid buildId => exact lays_delBuild laid pid buildId
  | storeBuild pid buildId => exact lays_storeBuild laid pid buildId
  | storeUnionNft buildId => exact lays_storeUnionNft laid buildId
  | onCampaignBegin => exact .stop laid rfl rfl
  | updateOwnerInfo unionId =>
      have frame : (grid.updateOwnerInfo unionId).builds = grid.builds ∧
          (grid.updateOwnerInfo unionId).uuid = grid.uuid := by
        unfold Grid.updateOwnerInfo
        split <;> exact ⟨rfl, rfl⟩
      exact .stop laid frame.1 frame.2
  | elapse seconds =>
      have frame : (grid.elapse seconds).builds = grid.builds ∧
          (grid.elapse seconds).uuid = grid.uuid := by
        unfold Grid.elapse
        dsimp only
        split <;> exact ⟨rfl, rfl⟩
      exact .stop laid frame.1 frame.2
  | _ => cases keeps

theorem lays_raised (laid : Laid settings grid) (task : Task) (stored : Bool) :
    Lays settings grid (grid.raised task stored) := by
  cases task <;> exact .stop laid rfl rfl

theorem lays_checked (laid : Laid settings grid) (ready : task.Ready settings grid) (yes : Bool)
    (error : GridError) :
    Lays settings grid (if yes then (grid, [task]) else (grid.say error, [])) := by
  split
  · exact .ask laid ready
  · exact .stop laid rfl rfl

theorem lays_proceed (laid : Laid settings grid) (task : Task) (reply : Reply)
    (ready : task.Ready settings grid)
    (allowed : (layoutGuard settings).onReply task reply grid others) :
    Lays settings grid (grid.proceed settings task reply) := by
  unfold Grid.proceed
  split
  case h_1 stored => exact lays_raised laid task stored
  case h_2 put data => exact lays_putNftItem laid ready put data
  case h_3 put data =>
    cases data with
    | none => exact .stop laid rfl rfl
    | some data => exact lays_putTaken laid ready _ allowed _
  case h_4 put yes => exact lays_checked laid (by exact ready) yes _
  case h_5 => exact .stop laid rfl rfl
  case h_6 put data => exact .ask laid ready
  case h_7 put data chain => exact lays_putNftInfo laid ready put data chain
  case h_8 put unionId data =>
    cases data with
    | none => exact .stop laid rfl rfl
    | some data => exact lays_putTaken laid ready _ allowed _
  case h_9 list objs =>
    unfold Grid.putListObjs
    split <;> first | exact .ask laid ready | exact .stop laid rfl rfl
  case h_10 list objs used => exact lays_placeList laid ready allowed _ _ _
  case h_11 list yes => exact lays_checked laid (by exact ready) yes _
  case h_12 list objs =>
    unfold Grid.putListNfts
    split <;> first | exact .ask laid ready | exact .stop laid rfl rfl
  case h_13 list objs chain => exact .ask laid ready
  case h_14 list objs unionId used => exact lays_placeList laid ready allowed _ _ _
  case h_15 supplier asked used failed => exact .stop laid rfl rfl
  case h_16 put data => exact lays_defenseBuild laid ready put data
  case h_17 put data yes =>
    split
    · exact lays_defenseEnough laid (fun _ _ => by exact ready) put data
    · exact .stop laid rfl rfl
  case h_18 put data yes => exact lays_checked laid (by exact ready) yes _
  case h_19 put data yes =>
    split
    · exact lays_defenseEnough laid (fun _ _ => by exact ready) put data
    · exact .stop laid rfl rfl
  case h_20 put build yes =>
    refine lays_defensePaid laid ready fun paid => ?_
    subst paid
    exact allowed
  case h_21 put build yes =>
    refine lays_defensePaid laid ready fun paid => ?_
    subst paid
    exact allowed
  case h_22 pid next unionId =>
    unfold Grid.askedUnion
    split
    · exact .stop laid rfl rfl
    · exact .ask laid ready
  case h_23 pid next yes =>
    cases yes with
    | false => exact .stop laid rfl rfl
    | true =>
        refine lays_permitted laid ready (fun build pos same => ?_) _
        subst same
        exact allowed
  case h_24 => exact ready.elim
  case h_25 drop sent rest =>
    obtain ⟨buildId, rfl⟩ := ready
    exact lays_storeBuilds laid buildId sent rest
  case h_26 => exact .ask laid ready

/-- At most one handler is under way, and it has the lock. -/
def layoutPool (settings : Settings) : Pool Grid Task where
  shared := Laid settings
  own grid task := task.Ready settings grid ∧ grid.locked = true
  apart _ _ := False
  apart_symm apart := apart

theorem Lays.keeps {result : Grid × List Task} (lays : Lays settings grid result) :
    (layoutPool settings).Keeps [] (Grid.lockFor result) where
  shared := lays.laid.of_same rfl lays.laid.uuid
  stable := by simp
  fresh task task_mem := ⟨(lays.ready task task_mem).of_same rfl, by
    simpa [Grid.lockFor, List.isEmpty_iff] using List.ne_nil_of_mem task_mem⟩
  apart := by simp
  fresh_apart := pairwise_of_single lays.single

theorem unlocked_builds (settings : Settings) (grid : Grid) (keeps : request.keepsOwner = true)
    (unlocked : request.takesLock = false) :
    (grid.start settings request).1.builds = grid.builds ∧
      (grid.start settings request).1.locked = grid.locked ∧
        (grid.start settings request).2 = [] := by
  cases request with
  | onCampaignBegin => exact ⟨rfl, rfl, rfl⟩
  | updateOwnerInfo unionId =>
      unfold Grid.start Grid.updateOwnerInfo
      dsimp only
      split <;> exact ⟨rfl, rfl, rfl⟩
  | elapse seconds =>
      unfold Grid.start Grid.elapse
      dsimp only
      split <;> exact ⟨rfl, rfl, rfl⟩
  | onCampaignEnd | doMatchSeasonEndClear | dissolveUnionHandle => cases keeps
  | _ => cases unlocked

/-- A segment with the buildings that it leaves. -/
structure Moves (settings : Settings) (others : List Task) (grid : Grid)
    (result : Grid × List Task) : Prop where
  keeps : (layoutPool settings).Keeps others result
  inside : ∀ build ∈ result.1.builds, build ∈ grid.builds ∨ settings.Inside build.rect

theorem accept_moves (holds : (layoutPool settings).Holds ⟨grid, others⟩)
    (allowed : (layoutGuard settings).onRequest request grid others) :
    Moves settings others grid ((gridService settings).accept request grid) := by
  have lays := lays_start holds.shared allowed
  unfold gridService Grid.accept
  dsimp only
  split
  next unlocked =>
    obtain ⟨builds, locked, ended⟩ :=
      unlocked_builds settings grid allowed.1 (by simpa using unlocked)
    refine ⟨⟨lays.laid, fun other other_mem => ?_, by simp [ended], by simp [ended],
      by simp [ended]⟩, lays.inside⟩
    obtain ⟨ready, has_lock⟩ := holds.own other other_mem
    exact ⟨ready.of_same builds, locked.trans has_lock⟩
  next =>
    split
    next => exact ⟨.ended holds, fun _ => .inl⟩
    next free =>
      have none_waiting : others = [] := List.eq_nil_iff_forall_not_mem.mpr
        fun other other_mem => free (holds.own other other_mem).2
      subst none_waiting
      exact ⟨lays.keeps, lays.inside⟩

theorem resume_moves {reply : Reply} (shared : Laid settings grid)
    (own : (layoutPool settings).own grid task)
    (apart : ∀ other ∈ others, (layoutPool settings).apart task other)
    (allowed : (layoutGuard settings).onReply task reply grid others) :
    Moves settings others grid ((gridService settings).resume task reply grid) := by
  have none_waiting : others = [] := List.eq_nil_iff_forall_not_mem.mpr apart
  subst none_waiting
  have lays := lays_proceed shared task reply own.1 allowed
  unfold gridService Grid.resume
  dsimp only
  rw [if_pos (holdsLock_of_ready own.1)]
  exact ⟨lays.keeps, lays.inside⟩

theorem layoutPool_kept (settings : Settings) :
    (layoutPool settings).KeptBy (gridService settings) (layoutGuard settings) where
  accept _ _ _ holds allowed := (accept_moves holds allowed).keeps
  resume _ _ _ _ holds own apart allowed := (resume_moves holds.shared own apart allowed).keeps

theorem inside_step {config : Config Grid Task} (event : Event Request Reply)
    (holds : (layoutPool settings).Holds config)
    (allows : (layoutGuard settings).Allows config event) :
    ∀ build ∈ ((gridService settings).step config event).state.builds,
      build ∈ config.state.builds ∨ settings.Inside build.rect := by
  obtain ⟨request, rfl, step_eq⟩ | ⟨before, task, after, reply, rfl, waiting_eq, step_eq⟩ |
      ⟨index, reply, rfl, absent, step_eq⟩ := (gridService settings).step_cases config event
  · rw [step_eq]
    exact (accept_moves holds allows).inside
  · obtain ⟨others_hold, own, apart⟩ := holds.split waiting_eq
    have allowed : (layoutGuard settings).onReply task reply config.state (before ++ after) :=
      Guard.allows_reply waiting_eq allows
    rw [step_eq]
    exact (resume_moves others_hold.shared own apart allowed).inside
  · rw [step_eq]
    exact fun _ => .inl

end Handlers

/-- Over every schedule with one owner the layout stays without overlaps, in the area and with room
for its towers. -/
theorem layoutKept_run (settings : Settings) (grid : Grid) (events : List (Event Request Reply))
    (laid : Laid settings grid)
    (admits : (layoutGuard settings).Admits (gridService settings) ⟨grid, []⟩ events) :
    LayoutKept settings grid events := by
  have start : (layoutPool settings).Holds ⟨grid, []⟩ := ⟨laid, by simp, .nil⟩
  have holds : ∀ before after, events = before ++ after →
      (layoutPool settings).Holds ((gridService settings).run ⟨grid, []⟩ before) := by
    rintro before after rfl
    rw [Guard.admits_append] at admits
    exact (layoutPool_kept settings).holds_run admits.1 start
  refine ⟨fun before after events_eq => (holds before after events_eq).shared.apart, ?_,
    fun before after events_eq => (holds before after events_eq).shared.count⟩
  intro before event after events_eq
  rw [Service.run_append]
  refine inside_step event (holds before _ events_eq) ?_
  rw [events_eq, Guard.admits_append] at admits
  exact admits.2.1

def ownedGrid : Grid := { Grid.init sampleSettings 0 with owner := ⟨1, 9, true⟩, uuid := 1 }

theorem laid_ownedGrid : Laid sampleSettings ownedGrid :=
  ⟨by decide, by decide, by decide, by decide, by decide⟩

/-- Player 1 puts an NFT on the grid and moves it. -/
def movedRun : List (Event Request Reply) :=
  placedRun.tail ++ [.request (.moveBuild 1 7 ⟨20, 20⟩)]

theorem layoutKept_movedRun : LayoutKept sampleSettings ownedGrid movedRun :=
  layoutKept_run sampleSettings ownedGrid movedRun laid_ownedGrid (by decide)

/-- Player 1 puts the NFT in the far corner of the grid. -/
def cornerRun : List (Event Request Reply) :=
  [.request (.putBuild ⟨1, 7, ⟨40, 40⟩, 9⟩), .reply 0 (.build (some sampleNft)),
    .reply 0 (.build (some sampleNft))]

theorem not_layoutKept_cornerRun :
    ¬ ∀ settings grid events, Laid settings grid →
      oneOwner.Admits (gridService settings) ⟨grid, []⟩ events →
        LayoutKept settings grid events := by
  intro kept
  have layout := kept sampleSettings ownedGrid cornerRun laid_ownedGrid
    ⟨rfl, trivial, trivial, trivial⟩
  have inside := layout.inside (cornerRun.take 2) (.reply 0 (.build (some sampleNft))) [] rfl
  exact absurd inside (by decide)

end BasWar.Starmap
