import BasWar.Player.BaseMap

/-!
# Occupancy of the base map

The grids show the buildings: each cell names the building that covers it.  Every operation keeps
this except for two: a swap whose two buildings would cover a common cell afterwards, and setting
the base back while a building that stays covers a cell of the preset layout.
-/

namespace BasWar.BaseMap

open MapGrids

/-- A building on the map lies inside of it. -/
def Build.Inside (build : Build) : Prop :=
  ¬ build.pos.Off → build.pos.InMap ∧ ∀ cell ∈ build.cells, cell.InMap

/-- No cell belongs to both buildings. -/
def Build.Apart (first second : Build) : Prop :=
  ∀ cell ∈ first.cells, cell ∉ second.cells
  deriving Decidable

instance : Std.Symm Build.Apart where
  symm _ _ apart cell in_second in_first := apart cell in_first in_second

/-- The rectangle of a building on the map begins and ends inside of it. -/
def Build.Fits (build : Build) : Prop :=
  ¬ build.pos.Off → build.pos.InMap ∧
    build.pos.x + build.length ≤ mapGridMax + 1 ∧ build.pos.z + build.width ≤ mapGridMax + 1

structure Layout (builds : List Build) : Prop where
  nodup : (builds.map Build.id).Nodup
  positive : ∀ build ∈ builds, build.id ≠ 0
  fits : ∀ build ∈ builds, build.Fits
  apart : builds.Pairwise Build.Apart

/-- The base map is occupied as its buildings say. -/
structure Occupied (bag : Bag) : Prop where
  apart : bag.builds.Pairwise Build.Apart
  inside : ∀ build ∈ bag.builds, build.Inside
  named : ∀ cell id, id ≠ 0 →
    (bag.grids cell = id ↔ ∃ build ∈ bag.builds, build.id = id ∧ cell ∈ build.cells)
  blank : ∀ cell, bag.grids cell = 0 ↔ ∀ build ∈ bag.builds, cell ∉ build.cells

/-- What the operations are given: stored layouts are well formed, new buildings have new ids, and
a building that is added has no position. -/
def Op.Given (config : Config) (bag : Bag) : Op → Prop
  | .deserialize data => Layout (data.foldl putBuild bag.builds)
  | .createBuild _ _ _ uuid _ => uuid ≠ 0 ∧ ∀ build ∈ bag.builds, build.id ≠ uuid
  | .addBuild build => build.pos.Off ∧ build.id ≠ 0 ∧ ∀ other ∈ bag.builds, other.id ≠ build.id
  | .resetData uuids => uuids.length = config.presetBuilds.length ∧ uuids.Nodup ∧
      ∀ uuid ∈ uuids, uuid ≠ 0 ∧ ∀ build ∈ bag.builds, build.id ≠ uuid
  | .moveBuild _ _ _ | .delBuild _ => True

/-- The operation does not run into a place that the source leaves unchecked: the two buildings of
a swap end apart from each other, and the preset layout fits beside the buildings that stay. -/
def Op.Clear (config : Config) (bag : Bag) : Op → Prop
  | .moveBuild id pos edit => ∀ src, getBuild bag.builds id = some src →
      (edit = true → config.isInnerServer = true) → (isBuildCanMove src || edit) = true →
        canMoveMapGrids bag src src.pos pos = .ok () → ∀ dst ∈ bag.builds,
          getIdFromMapGrids bag.grids pos src.length src.width [src.id] = some dst.id →
            ∀ cell ∈ areaCells pos src.length src.width,
              cell ∉ areaCells src.pos dst.length dst.width
  | .resetData uuids =>
      Layout ((bag.builds.filter fun build => 0 < build.chain) ++ presetBuilds config uuids)
  | _ => True

/-- States of a bag over all sequences of operations that are allowed where they happen. -/
inductive Reached (config : Config) (allowed : Bag → Op → Prop) : Bag → Prop
  | new : Reached config allowed .new
  | run {bag : Bag} {op : Op} : Reached config allowed bag → op.Given config bag →
      allowed bag op → Reached config allowed (op.run config bag)

def areaOf (builds : List Build) (id : ℕ) : Set Pos :=
  {cell | ∃ build ∈ builds, build.id = id ∧ cell ∈ build.cells}

/-- The invariant: the grids show the areas of the buildings. -/
structure Kept (bag : Bag) : Prop where
  nodup : (bag.builds.map Build.id).Nodup
  positive : ∀ build ∈ bag.builds, build.id ≠ 0
  inside : ∀ build ∈ bag.builds, build.Inside
  shown : Tables.Shows 0 bag.grids (areaOf bag.builds)

variable {builds : List Build} {id : ℕ} {pos : Pos}

theorem eq_of_id_eq (nodup : (builds.map Build.id).Nodup) {first second : Build}
    (first_mem : first ∈ builds) (second_mem : second ∈ builds) (same : first.id = second.id) :
    first = second :=
  List.inj_on_of_nodup_map nodup first_mem second_mem same

theorem mem_of_getBuild {build : Build} (found : getBuild builds id = some build) :
    build ∈ builds ∧ build.id = id :=
  ⟨List.mem_of_find?_eq_some found, by simpa using List.find?_some found⟩

theorem areaOf_eq (nodup : (builds.map Build.id).Nodup) {build : Build} (mem : build ∈ builds) :
    areaOf builds build.id = {cell | cell ∈ build.cells} := by
  ext cell
  constructor
  · rintro ⟨other, other_mem, same, covered⟩
    exact eq_of_id_eq nodup other_mem mem same ▸ covered
  · exact fun covered => ⟨build, mem, rfl, covered⟩

theorem areaOf_absent (absent : ∀ build ∈ builds, build.id ≠ id) : areaOf builds id = ∅ := by
  rw [Set.eq_empty_iff_forall_notMem]
  rintro cell ⟨build, mem, same, -⟩
  exact absent build mem same

theorem areaOf_dropBuild (builds : List Build) (id : ℕ) :
    areaOf (dropBuild builds id) = Function.update (areaOf builds) id ∅ := by
  funext other
  by_cases same : other = id
  · subst same
    rw [Function.update_self]
    exact areaOf_absent fun build mem => by simpa using (List.mem_filter.mp mem).2
  · rw [Function.update_of_ne same]
    ext cell
    simp only [areaOf, dropBuild, List.mem_filter, Set.mem_ofPred_eq]
    constructor
    · rintro ⟨build, ⟨mem, -⟩, id_eq, covered⟩
      exact ⟨build, mem, id_eq, covered⟩
    · rintro ⟨build, mem, id_eq, covered⟩
      exact ⟨build, ⟨mem, by simpa [id_eq] using same⟩, id_eq, covered⟩

theorem areaOf_append_singleton {build : Build} (absent : ∀ other ∈ builds, other.id ≠ build.id) :
    areaOf (builds ++ [build]) =
      Function.update (areaOf builds) build.id {cell | cell ∈ build.cells} := by
  funext other
  ext cell
  by_cases same : other = build.id
  · subst same
    have none := areaOf_absent absent
    rw [Function.update_self]
    simp only [areaOf, List.mem_append, List.mem_singleton, Set.mem_ofPred_eq]
    constructor
    · rintro ⟨found, old | rfl, id_eq, covered⟩
      · exact absurd id_eq (absent found old)
      · exact covered
    · exact fun covered => ⟨build, .inr rfl, rfl, covered⟩
  · rw [Function.update_of_ne same]
    simp only [areaOf, List.mem_append, List.mem_singleton, Set.mem_ofPred_eq]
    constructor
    · rintro ⟨found, old | rfl, id_eq, covered⟩
      · exact ⟨found, old, id_eq, covered⟩
      · exact absurd id_eq.symm same
    · rintro ⟨found, old, id_eq, covered⟩
      exact ⟨found, .inl old, id_eq, covered⟩

theorem putBuild_absent {build : Build} (absent : ∀ other ∈ builds, other.id ≠ build.id) :
    putBuild builds build = builds ++ [build] := by
  rw [putBuild, List.filter_eq_self.mpr fun other mem => by simpa using absent other mem]

theorem map_id_setNewPos (builds : List Build) (id : ℕ) (pos : Pos) :
    (setNewPos builds id pos).map Build.id = builds.map Build.id := by
  rw [setNewPos, List.map_map]
  refine List.map_congr_left fun build _ => ?_
  simp only [Function.comp_apply]
  split <;> rfl

theorem mem_setNewPos {build : Build} (mem : build ∈ setNewPos builds id pos) :
    (build ∈ builds ∧ build.id ≠ id) ∨
      ∃ old ∈ builds, old.id = id ∧ build = { old with pos } := by
  obtain ⟨old, old_mem, rfl⟩ := List.mem_map.mp mem
  split
  next same => exact .inr ⟨old, old_mem, same, rfl⟩
  next different => exact .inl ⟨old_mem, different⟩

theorem mem_setNewPos_of_ne {build : Build} (mem : build ∈ builds) (different : build.id ≠ id) :
    build ∈ setNewPos builds id pos :=
  List.mem_map.mpr ⟨build, mem, if_neg different⟩

theorem areaOf_setNewPos (nodup : (builds.map Build.id).Nodup) {src : Build} (mem : src ∈ builds)
    (pos : Pos) :
    areaOf (setNewPos builds src.id pos) = Function.update (areaOf builds) src.id
      {cell | cell ∈ coveredCells pos src.length src.width} := by
  funext other
  by_cases same : other = src.id
  · subst same
    have moved_mem : { src with pos } ∈ setNewPos builds src.id pos :=
      List.mem_map.mpr ⟨src, mem, if_pos rfl⟩
    rw [Function.update_self]
    exact areaOf_eq (by rwa [map_id_setNewPos]) moved_mem
  · rw [Function.update_of_ne same]
    ext cell
    constructor
    · rintro ⟨build, build_mem, rfl, covered⟩
      rcases mem_setNewPos build_mem with ⟨old_mem, -⟩ | ⟨old, -, old_id, rfl⟩
      · exact ⟨build, old_mem, rfl, covered⟩
      · exact absurd old_id same
    · rintro ⟨build, build_mem, rfl, covered⟩
      exact ⟨build, mem_setNewPos_of_ne build_mem same, rfl, covered⟩

namespace Kept

variable {bag : Bag} {build : Build}

theorem occupied (kept : Kept bag) : Occupied bag where
  apart := by
    have ids_ne : bag.builds.Pairwise fun first second => first.id ≠ second.id :=
      List.pairwise_map.mp kept.nodup
    refine (List.Pairwise.and_mem.mp ids_ne).imp ?_
    rintro first second ⟨first_mem, second_mem, different⟩ cell in_first in_second
    have disjoint := kept.shown.disjoint (kept.positive first first_mem)
      (kept.positive second second_mem) different
    rw [areaOf_eq kept.nodup first_mem, areaOf_eq kept.nodup second_mem] at disjoint
    exact Set.disjoint_left.mp disjoint in_first in_second
  inside := kept.inside
  named := kept.shown
  blank cell := by
    rw [kept.shown.eq_blank_iff cell]
    constructor
    · exact fun uncovered build mem covered =>
        uncovered build.id (kept.positive build mem) ⟨build, mem, rfl, covered⟩
    · rintro uncovered id - ⟨build, mem, -, covered⟩
      exact uncovered build mem covered

theorem new : Kept .new where
  nodup := List.nodup_nil
  positive := by simp [Bag.new]
  inside := by simp [Bag.new]
  shown := Tables.shows_blank 0 fun id _ => areaOf_absent (by simp [Bag.new])

theorem drop (kept : Kept bag) (mem : build ∈ bag.builds) :
    Kept { builds := dropBuild bag.builds build.id
           grids := resetMapGrids bag.grids build.pos build.length build.width } where
  nodup := kept.nodup.sublist (List.filter_sublist.map Build.id)
  positive other other_mem := kept.positive other (List.mem_of_mem_filter other_mem)
  inside other other_mem := kept.inside other (List.mem_of_mem_filter other_mem)
  shown := by
    rw [areaOf_dropBuild]
    refine kept.shown.lift (kept.positive build mem) ?_
    rw [areaOf_eq kept.nodup mem]
    exact fills_resetMapGrids bag.grids build.pos build.length build.width

theorem add (kept : Kept bag) (id_ne : build.id ≠ 0)
    (absent : ∀ other ∈ bag.builds, other.id ≠ build.id) (inside : build.Inside)
    (free : ∀ cell ∈ build.cells, bag.grids cell = 0) : Kept (addBuild bag build) := by
  have builds_eq : (addBuild bag build).builds = bag.builds ++ [build] := putBuild_absent absent
  refine ⟨?_, ?_, ?_, ?_⟩
  · rw [builds_eq, List.map_append, List.nodup_append]
    refine ⟨kept.nodup, List.nodup_singleton _, ?_⟩
    rintro id old_mem other new_mem
    obtain ⟨old, mem, rfl⟩ := List.mem_map.mp old_mem
    rw [List.mem_singleton.mp new_mem]
    exact absent old mem
  · rw [builds_eq]
    exact List.forall_mem_append.mpr ⟨kept.positive, List.forall_mem_singleton.mpr id_ne⟩
  · rw [builds_eq]
    exact List.forall_mem_append.mpr ⟨kept.inside, List.forall_mem_singleton.mpr inside⟩
  · rw [builds_eq, areaOf_append_singleton absent]
    exact kept.shown.put id_ne (areaOf_absent absent) free
      (fills_setMapGrids bag.grids build.id build.pos build.length build.width)

theorem addAll {news : List Build} (kept : Kept bag)
    (nodup : ((bag.builds ++ news).map Build.id).Nodup) (positive : ∀ build ∈ news, build.id ≠ 0)
    (inside : ∀ build ∈ news, build.Inside) (apart : (bag.builds ++ news).Pairwise Build.Apart) :
    Kept (news.foldl addBuild bag) := by
  induction news generalizing bag with
  | nil => exact kept
  | cons build news ih =>
      have absent : ∀ other ∈ bag.builds, other.id ≠ build.id := fun other mem =>
        (List.nodup_append.mp (List.map_append ▸ nodup)).2.2 other.id (List.mem_map_of_mem mem)
          build.id (by simp)
      have free : ∀ cell ∈ build.cells, bag.grids cell = 0 := fun cell covered => by
        rw [kept.occupied.blank cell]
        exact fun other mem other_covers =>
          (List.pairwise_append.mp apart).2.2 other mem build (by simp) cell other_covers covered
      have added := kept.add (positive build (by simp)) absent (inside build (by simp)) free
      have builds_eq : (addBuild bag build).builds ++ news = bag.builds ++ build :: news := by
        rw [show (addBuild bag build).builds = bag.builds ++ [build] from putBuild_absent absent]
        simp
      exact ih added (by rwa [builds_eq]) (fun other mem => positive other (by simp [mem]))
        (fun other mem => inside other (by simp [mem])) (by rwa [builds_eq])

end Kept

/-! ## Moves -/

theorem shows_takePlace {bag : Bag} {src : Build} {toPos : Pos}
    (nodup : (bag.builds.map Build.id).Nodup) (mem : src ∈ bag.builds) (id_ne : src.id ≠ 0)
    (lifted : Tables.Shows 0 bag.grids (Function.update (areaOf bag.builds) src.id ∅))
    (free : ∀ cell ∈ coveredCells toPos src.length src.width, bag.grids cell = 0) :
    Tables.Shows 0 (takePlace bag src toPos).grids (areaOf (takePlace bag src toPos).builds) := by
  have area_eq : Function.update (areaOf bag.builds) src.id
        {cell | cell ∈ coveredCells toPos src.length src.width} =
      Function.update (Function.update (areaOf bag.builds) src.id ∅) src.id
        {cell | cell ∈ coveredCells toPos src.length src.width} :=
    (Function.update_idem ..).symm
  rw [takePlace, areaOf_setNewPos nodup mem toPos, area_eq]
  exact lifted.put id_ne (Function.update_self ..) free
    (fills_setMapGrids bag.grids src.id toPos src.length src.width)

theorem coveredCells_of_inMap (in_map : pos.InMap) (length width : ℕ) :
    coveredCells pos length width = areaCells pos length width :=
  if_neg in_map.not_off

theorem inside_of_isEnoughSpace {grids : Grids} {build : Build} {exclude : List ℕ}
    (enough : isEnoughSpaceMapGrids grids pos build.length build.width exclude = true) :
    ({ build with pos } : Build).Inside := by
  obtain ⟨in_map, space⟩ := isEnoughSpaceMapGrids_spec enough
  refine fun _ => ⟨in_map, fun cell covered => (space cell ?_).1⟩
  exact coveredCells_of_inMap in_map build.length build.width ▸ covered

theorem inside_setNewPos (inside : ∀ build ∈ builds, build.Inside)
    (moved : ∀ build ∈ builds, build.id = id → ({ build with pos } : Build).Inside) :
    ∀ build ∈ setNewPos builds id pos, build.Inside := by
  intro build mem
  rcases mem_setNewPos mem with ⟨old_mem, -⟩ | ⟨old, old_mem, old_id, rfl⟩
  · exact inside build old_mem
  · exact moved old old_mem old_id

theorem positive_setNewPos (positive : ∀ build ∈ builds, build.id ≠ 0) :
    ∀ build ∈ setNewPos builds id pos, build.id ≠ 0 := by
  intro build mem
  rcases mem_setNewPos mem with ⟨old_mem, -⟩ | ⟨old, old_mem, -, rfl⟩
  · exact positive build old_mem
  · exact positive old old_mem

inductive Accepted (bag : Bag) (src : Build) (fromPos toPos : Pos) : Prop
  | free
      (found : getIdFromMapGrids bag.grids toPos src.length src.width [src.id] = some 0)
      (enough : isEnoughSpaceMapGrids bag.grids toPos src.length src.width [src.id, 0] = true)
  | swap (dst : Build) (dst_ne : dst.id ≠ 0) (mem : dst ∈ bag.builds)
      (get : getBuild bag.builds dst.id = some dst)
      (found : getIdFromMapGrids bag.grids toPos src.length src.width [src.id] = some dst.id)
      (enough : isEnoughSpaceMapGrids bag.grids toPos src.length src.width [src.id, dst.id] = true)
      (back : isEnoughSpaceMapGrids bag.grids fromPos dst.length dst.width [src.id, dst.id] = true)

theorem accepted_of_canMoveMapGrids {bag : Bag} {src : Build} {fromPos toPos : Pos}
    (can : canMoveMapGrids bag src fromPos toPos = .ok ()) : Accepted bag src fromPos toPos := by
  unfold canMoveMapGrids at can
  split at can
  · cases can
  · split at can
    · cases can
    next dstId found =>
      split at can
      · cases can
      next enough =>
        have space : isEnoughSpaceMapGrids bag.grids toPos src.length src.width
            [src.id, dstId] = true := by simpa using enough
        split at can
        next none_there =>
          subst none_there
          exact .free found space
        next dst_ne =>
          split at can
          · cases can
          next dst get =>
            obtain ⟨mem, rfl⟩ := mem_of_getBuild get
            split at can
            · cases can
            · split at can
              · cases can
              next back => exact .swap dst dst_ne mem get found space (by simpa using back)

section

variable {bag : Bag} {src : Build} {toPos : Pos}

theorem Kept.lifted (kept : Kept bag) (mem : src ∈ bag.builds) :
    Tables.Shows 0 (resetMapGrids bag.grids src.pos src.length src.width)
      (Function.update (areaOf bag.builds) src.id ∅) := by
  refine kept.shown.lift (kept.positive src mem) ?_
  rw [areaOf_eq kept.nodup mem]
  exact fills_resetMapGrids bag.grids src.pos src.length src.width

theorem Kept.getId_lifted (kept : Kept bag) (mem : src ∈ bag.builds) (length width : ℕ) :
    getIdFromMapGrids (resetMapGrids bag.grids src.pos src.length src.width) toPos length width
        [src.id] =
      getIdFromMapGrids bag.grids toPos length width [src.id] := by
  refine getIdFromMapGrids_congr toPos length width fun cell => ?_
  have fills := fills_resetMapGrids bag.grids src.pos src.length src.width
  by_cases covered : cell ∈ src.cells
  · refine .inr ⟨fills.1 cell covered, List.mem_singleton.mpr ?_⟩
    exact (kept.shown cell src.id (kept.positive src mem)).mpr ⟨src, mem, rfl, covered⟩
  · exact .inl (fills.2 cell covered)

theorem Kept.move_free (kept : Kept bag) (mem : src ∈ bag.builds)
    (enough : isEnoughSpaceMapGrids bag.grids toPos src.length src.width [src.id, 0] = true) :
    Kept (takePlace
      { bag with grids := resetMapGrids bag.grids src.pos src.length src.width } src toPos) where
  nodup := by
    simpa only [takePlace, map_id_setNewPos] using kept.nodup
  positive := positive_setNewPos kept.positive
  inside := by
    refine inside_setNewPos kept.inside fun build build_mem same => ?_
    rw [eq_of_id_eq kept.nodup build_mem mem same]
    exact inside_of_isEnoughSpace enough
  shown := by
    obtain ⟨in_map, space⟩ := isEnoughSpaceMapGrids_spec enough
    refine shows_takePlace kept.nodup mem (kept.positive src mem) (kept.lifted mem) ?_
    rw [coveredCells_of_inMap in_map]
    intro cell covered
    refine kept.shown.blank_of_lifted {src.id} (kept.lifted mem) ?_ ?_ ?_
    · rintro id rfl
      exact Function.update_self ..
    · exact fun id different => Function.update_of_ne different ..
    · simpa using (space cell covered).2

/-- The grids after both buildings of a swap are lifted. -/
def bothLifted (bag : Bag) (src dst : Build) : Grids :=
  resetMapGrids (resetMapGrids bag.grids src.pos src.length src.width)
    dst.pos dst.length dst.width

variable {dst : Build}

section

variable (kept : Kept bag) (mem : src ∈ bag.builds) (dst_mem : dst ∈ bag.builds)
include kept mem dst_mem

theorem Kept.bothLifted (different : src.id ≠ dst.id) :
    Tables.Shows 0 (bothLifted bag src dst)
      (Function.update (Function.update (areaOf bag.builds) src.id ∅) dst.id ∅) := by
  refine (kept.lifted mem).lift (kept.positive dst dst_mem) ?_
  rw [Function.update_of_ne different.symm, areaOf_eq kept.nodup dst_mem]
  exact fills_resetMapGrids _ dst.pos dst.length dst.width

theorem Kept.blank_bothLifted (different : src.id ≠ dst.id) {cell : Pos}
    (free : bag.grids cell ∈ [src.id, dst.id] ∨ bag.grids cell = 0) :
    BaseMap.bothLifted bag src dst cell = 0 := by
  refine kept.shown.blank_of_lifted {src.id, dst.id} (kept.bothLifted mem dst_mem different)
    ?_ ?_ (by simpa using free)
  · rintro id (rfl | rfl)
    · rw [Function.update_of_ne different, Function.update_self]
    · exact Function.update_self ..
  · intro id elsewhere
    have not_src : id ≠ src.id := fun same => elsewhere (.inl same)
    have not_dst : id ≠ dst.id := fun same => elsewhere (.inr same)
    rw [Function.update_of_ne not_dst, Function.update_of_ne not_src]

theorem Kept.shows_back (different : src.id ≠ dst.id)
    (back : isEnoughSpaceMapGrids bag.grids src.pos dst.length dst.width [src.id, dst.id] = true) :
    Tables.Shows 0
      (setMapGrids (BaseMap.bothLifted bag src dst) dst.id src.pos dst.length dst.width)
      (Function.update (areaOf (setNewPos bag.builds dst.id src.pos)) src.id ∅) := by
  obtain ⟨in_map, space⟩ := isEnoughSpaceMapGrids_spec back
  have free : ∀ cell ∈ coveredCells src.pos dst.length dst.width,
      BaseMap.bothLifted bag src dst cell = 0 := fun cell covered => by
    rw [coveredCells_of_inMap in_map] at covered
    exact kept.blank_bothLifted mem dst_mem different (space cell covered).2
  have area_eq : Function.update (areaOf (setNewPos bag.builds dst.id src.pos)) src.id ∅ =
      Function.update
        (Function.update (Function.update (areaOf bag.builds) src.id ∅) dst.id ∅) dst.id
        {cell | cell ∈ coveredCells src.pos dst.length dst.width} := by
    rw [areaOf_setNewPos kept.nodup dst_mem, Function.update_idem,
      Function.update_comm different.symm]
  rw [area_eq]
  exact (kept.bothLifted mem dst_mem different).put (kept.positive dst dst_mem)
    (Function.update_self ..) free
    (fills_setMapGrids (BaseMap.bothLifted bag src dst) dst.id src.pos dst.length dst.width)

theorem Kept.move_swap
    (found : getIdFromMapGrids bag.grids toPos src.length src.width [src.id] = some dst.id)
    (enough : isEnoughSpaceMapGrids bag.grids toPos src.length src.width [src.id, dst.id] = true)
    (back : isEnoughSpaceMapGrids bag.grids src.pos dst.length dst.width [src.id, dst.id] = true)
    (clear : ∀ cell ∈ areaCells toPos src.length src.width,
      cell ∉ areaCells src.pos dst.length dst.width) :
    Kept (takePlace
      { builds := setNewPos bag.builds dst.id src.pos
        grids := setMapGrids (BaseMap.bothLifted bag src dst) dst.id src.pos
          dst.length dst.width } src toPos) := by
  have different : src.id ≠ dst.id := fun same =>
    not_mem_of_getIdFromMapGrids found (kept.positive dst dst_mem) (by simp [same])
  have nodup : ((setNewPos bag.builds dst.id src.pos).map Build.id).Nodup := by
    rw [map_id_setNewPos]
    exact kept.nodup
  have src_mem : src ∈ setNewPos bag.builds dst.id src.pos := mem_setNewPos_of_ne mem different
  refine ⟨?_, positive_setNewPos (positive_setNewPos kept.positive), ?_, ?_⟩
  · simpa only [takePlace, map_id_setNewPos] using kept.nodup
  · refine inside_setNewPos (inside_setNewPos kept.inside fun build build_mem same => ?_)
      fun build build_mem same => ?_
    · rw [eq_of_id_eq kept.nodup build_mem dst_mem same]
      exact inside_of_isEnoughSpace back
    · rw [eq_of_id_eq nodup build_mem src_mem same]
      exact inside_of_isEnoughSpace enough
  · refine shows_takePlace nodup src_mem (kept.positive src mem)
      (kept.shows_back mem dst_mem different back) fun cell covered => ?_
    obtain ⟨to_inMap, to_space⟩ := isEnoughSpaceMapGrids_spec enough
    obtain ⟨from_inMap, -⟩ := isEnoughSpaceMapGrids_spec back
    rw [coveredCells_of_inMap to_inMap] at covered
    have not_dst : cell ∉ coveredCells src.pos dst.length dst.width := by
      rw [coveredCells_of_inMap from_inMap]
      exact clear cell covered
    have unchanged := (fills_setMapGrids (BaseMap.bothLifted bag src dst) dst.id src.pos
      dst.length dst.width).2 cell not_dst
    exact unchanged.trans (kept.blank_bothLifted mem dst_mem different (to_space cell covered).2)

end

end

theorem Kept.swapMapGrids_eq {bag : Bag} {src : Build} {toPos : Pos} (kept : Kept bag)
    (mem : src ∈ bag.builds) (can : canMoveMapGrids bag src src.pos toPos = .ok ()) :
    (getIdFromMapGrids bag.grids toPos src.length src.width [src.id] = some 0 ∧
      isEnoughSpaceMapGrids bag.grids toPos src.length src.width [src.id, 0] = true ∧
        swapMapGrids bag src src.pos toPos = takePlace
          { bag with grids := resetMapGrids bag.grids src.pos src.length src.width } src toPos) ∨
    ∃ dst ∈ bag.builds,
      getIdFromMapGrids bag.grids toPos src.length src.width [src.id] = some dst.id ∧
        isEnoughSpaceMapGrids bag.grids toPos src.length src.width [src.id, dst.id] = true ∧
          isEnoughSpaceMapGrids bag.grids src.pos dst.length dst.width [src.id, dst.id] = true ∧
            swapMapGrids bag src src.pos toPos = takePlace
              { builds := setNewPos bag.builds dst.id src.pos
                grids := setMapGrids (BaseMap.bothLifted bag src dst) dst.id src.pos
                  dst.length dst.width } src toPos := by
  unfold swapMapGrids
  dsimp only
  rw [kept.getId_lifted mem]
  cases accepted_of_canMoveMapGrids can with
  | free found enough =>
      refine .inl ⟨found, enough, ?_⟩
      rw [found]
      rfl
  | swap dst dst_ne dst_mem get found enough back =>
      refine .inr ⟨dst, dst_mem, found, enough, back, ?_⟩
      rw [found]
      split
      next none_found => cases none_found
      next zero_found => exact absurd (Option.some.inj zero_found) dst_ne
      next dstId _ found_eq =>
        cases found_eq
        rw [get]
        rfl

theorem Kept.swapMapGrids {bag : Bag} {src : Build} {toPos : Pos} (kept : Kept bag)
    (mem : src ∈ bag.builds) (can : canMoveMapGrids bag src src.pos toPos = .ok ())
    (clear : ∀ dst ∈ bag.builds,
      getIdFromMapGrids bag.grids toPos src.length src.width [src.id] = some dst.id →
        ∀ cell ∈ areaCells toPos src.length src.width,
          cell ∉ areaCells src.pos dst.length dst.width) :
    Kept (swapMapGrids bag src src.pos toPos) := by
  rcases kept.swapMapGrids_eq mem can with
    ⟨-, enough, moved⟩ | ⟨dst, dst_mem, found, enough, back, moved⟩
  · rw [moved]
    exact kept.move_free mem enough
  · rw [moved]
    exact kept.move_swap mem dst_mem found enough back (clear dst dst_mem found)

/-! ## Layouts -/

theorem Build.Fits.inside {build : Build} (fits : build.Fits) : build.Inside := by
  intro on_map
  obtain ⟨in_map, x_le, z_le⟩ := fits on_map
  refine ⟨in_map, fun cell covered => ?_⟩
  rw [Build.cells, coveredCells_of_inMap in_map] at covered
  have in_area := mem_areaCells.mp covered
  exact inMap_of_mem_areaCells in_map covered (by omega) (by omega)

theorem Build.Fits.endsInMap {build : Build} (fits : build.Fits) (on_map : ¬ build.pos.Off) :
    endsInMap build = true := by
  obtain ⟨-, x_le, z_le⟩ := fits on_map
  simp only [BaseMap.endsInMap, List.all_eq_true, Bool.and_eq_true, decide_eq_true_eq,
    List.mem_range]
  intro i i_lt
  refine ⟨by omega, fun j j_lt => by omega⟩

theorem not_off_of_pos (x_pos : 0 < pos.x) : ¬ pos.Off := fun off => by
  have := off.1
  omega

theorem off_of_not_pos {build : Build} (fits : build.Fits)
    (not_pos : ¬ (0 < build.pos.x ∧ 0 < build.pos.z)) : build.pos.Off := by
  by_contra on_map
  obtain ⟨⟨⟨x_ge, -⟩, z_ge, -⟩, -⟩ := fits on_map
  simp only [mapGridMin] at x_ge z_ge
  omega

theorem initMapGrids_layout (layout : Layout builds) {grids : Grids}
    (blank_outside : ∀ cell, ¬ cell.InMap → grids cell = 0) :
    initMapGrids grids builds = some (builds.foldl addBuild .new).grids := by
  have placed_ends : (builds.filter fun build => 0 < build.pos.x ∧ 0 < build.pos.z).all endsInMap =
      true := by
    rw [List.all_eq_true]
    intro build mem
    obtain ⟨build_mem, placed⟩ := List.mem_filter.mp mem
    exact (layout.fits build build_mem).endsInMap (not_off_of_pos (of_decide_eq_true placed).1)
  have blanked : (fun cell : Pos => if cell.InMap then 0 else grids cell) = fun _ => 0 := by
    funext cell
    split
    · rfl
    next outside => exact blank_outside cell outside
  have written (builds : List Build) (fits : ∀ build ∈ builds, build.Fits) (bag : Bag) :
      (builds.filter fun build => 0 < build.pos.x ∧ 0 < build.pos.z).foldl
          (fun grids build => fill build.id (areaCells build.pos build.length build.width) grids)
          bag.grids =
        (builds.foldl addBuild bag).grids := by
    induction builds generalizing bag with
    | nil => rfl
    | cons build builds ih =>
        have rest := fun bag => ih (fun other mem => fits other (by simp [mem])) bag
        rw [List.foldl_cons, ← rest, List.filter_cons]
        split
        next placed =>
          have on_map : ¬ build.pos.Off := not_off_of_pos (of_decide_eq_true placed).1
          rw [List.foldl_cons, addBuild, setBuildPos, setMapGrids, if_neg on_map]
        next unplaced =>
          have off :
              build.pos.Off := off_of_not_pos (fits build (by simp)) (by simpa using unplaced)
          rw [addBuild, setBuildPos, setMapGrids, if_pos off]
  unfold initMapGrids
  dsimp only
  rw [if_pos placed_ends, blanked]
  exact congrArg some (written builds layout.fits .new)

theorem builds_foldl_addBuild {bag : Bag} {news : List Build}
    (nodup : ((bag.builds ++ news).map Build.id).Nodup) :
    (news.foldl addBuild bag).builds = bag.builds ++ news := by
  induction news generalizing bag with
  | nil => simp
  | cons build news ih =>
      have absent : ∀ other ∈ bag.builds, other.id ≠ build.id := fun other mem =>
        (List.nodup_append.mp (List.map_append ▸ nodup)).2.2 other.id (List.mem_map_of_mem mem)
          build.id (by simp)
      have builds_eq : (addBuild bag build).builds = bag.builds ++ [build] := putBuild_absent absent
      rw [List.foldl_cons, ih (by rw [builds_eq]; simpa using nodup), builds_eq]
      simp

theorem Kept.of_layout (layout : Layout builds) : Kept (builds.foldl addBuild .new) :=
  Kept.new.addAll layout.nodup layout.positive (fun build mem => (layout.fits build mem).inside)
    layout.apart

/-! ## Operations -/

section

variable {config : Config} {bag : Bag}

theorem Kept.blank_outside (kept : Kept bag) (cell : Pos) (outside : ¬ cell.InMap) :
    bag.grids cell = 0 := by
  rw [kept.occupied.blank cell]
  intro build mem covered
  have on_map : ¬ build.pos.Off := fun off => by
    rw [Build.cells, coveredCells, if_pos off] at covered
    exact List.not_mem_nil covered
  exact outside ((kept.inside build mem on_map).2 cell covered)

theorem Kept.deserialize (kept : Kept bag) {data : List Build}
    (layout : Layout (data.foldl putBuild bag.builds)) :
    Kept ((BaseMap.deserialize bag data).getD bag) := by
  have builds_eq : ((data.foldl putBuild bag.builds).foldl BaseMap.addBuild .new).builds =
      data.foldl putBuild bag.builds := builds_foldl_addBuild layout.nodup
  simp only [BaseMap.deserialize, initMapGrids_layout layout kept.blank_outside, Option.map_some,
    Option.getD_some]
  have loaded := Kept.of_layout layout
  rwa [show (data.foldl putBuild bag.builds).foldl BaseMap.addBuild .new =
    ⟨data.foldl putBuild bag.builds,
      ((data.foldl putBuild bag.builds).foldl BaseMap.addBuild .new).grids⟩
    from congrArg (Bag.mk · _) builds_eq] at loaded

variable {pos : Pos}

theorem createBuild_ok {cfgId opType uuid : ℕ} {checks : Checks} {after : Bag}
    (created : createBuild config bag cfgId pos opType uuid checks = .ok after) :
    ∃ build : Build, build.id = uuid ∧ build.pos = pos ∧
      canPlaceMapGrids bag.grids pos build.length build.width = true ∧
        after = addBuild { bag with grids := setBuildPos bag.grids build } build := by
  unfold createBuild at created
  split at created
  · cases created
  next cfg cfg_eq =>
    have new_eq : newBuild config uuid cfgId 0 0 pos = some
        { id := uuid, cfgId, type := cfg.type, subType := cfg.subType, length := cfg.length,
          width := cfg.width, chain := 0, pos } := by
      rw [newBuild, cfg_eq, Option.map_some]
    repeat' split at created
    all_goals cases created
    next can _ _ _ _ build build_eq =>
      obtain rfl := Option.some.inj (new_eq.symm.trans build_eq)
      exact ⟨_, rfl, rfl, by simpa using can, rfl⟩

theorem Kept.createBuild (kept : Kept bag) {cfgId opType uuid : ℕ} {checks : Checks}
    (uuid_ne : uuid ≠ 0) (absent : ∀ build ∈ bag.builds, build.id ≠ uuid) :
    Kept (((createBuild config bag cfgId pos opType uuid checks).toOption).getD bag) := by
  cases created : BaseMap.createBuild config bag cfgId pos opType uuid checks with
  | error message => exact kept
  | ok after =>
      obtain ⟨build, rfl, rfl, can, rfl⟩ := createBuild_ok created
      obtain ⟨in_map, free⟩ := canPlaceMapGrids_spec can
      have cells_eq : build.cells = areaCells build.pos build.length build.width :=
        coveredCells_of_inMap in_map build.length build.width
      have inside : build.Inside := fun _ => ⟨in_map, fun cell covered =>
        (free cell (cells_eq ▸ covered)).1⟩
      have once : addBuild { bag with grids := setBuildPos bag.grids build } build =
          addBuild bag build := by
        simp only [addBuild, setBuildPos, setMapGrids_setMapGrids]
      simp only [Except.toOption, Option.getD_some, once]
      exact kept.add uuid_ne absent inside fun cell covered => (free cell (cells_eq ▸ covered)).2

theorem Kept.addBuild (kept : Kept bag) {build : Build} (off : build.pos.Off)
    (id_ne : build.id ≠ 0) (absent : ∀ other ∈ bag.builds, other.id ≠ build.id) :
    Kept (addBuild bag build) := by
  refine kept.add id_ne absent (fun on_map => absurd off on_map) fun cell covered => ?_
  rw [Build.cells, coveredCells, if_pos off] at covered
  exact absurd covered List.not_mem_nil

theorem moveBuild_cases (id : ℕ) (pos : Pos) (edit : Bool) :
    (Op.moveBuild id pos edit).run config bag = bag ∨
      ∃ src, getBuild bag.builds id = some src ∧ (edit = true → config.isInnerServer = true) ∧
        (isBuildCanMove src || edit) = true ∧ canMoveMapGrids bag src src.pos pos = .ok () ∧
          (Op.moveBuild id pos edit).run config bag = BaseMap.swapMapGrids bag src src.pos pos := by
  rw [show (Op.moveBuild id pos edit).run config bag =
    ((BaseMap.moveBuild config bag id pos edit).toOption).getD bag from rfl]
  unfold BaseMap.moveBuild
  split
  · exact .inl rfl
  next permitted =>
    have inner : edit = true → config.isInnerServer = true := by simpa using permitted
    split
    · exact .inl rfl
    · split
      · exact .inl rfl
      next src get =>
        split
        · exact .inl rfl
        next movable =>
          have may_move : (isBuildCanMove src || edit) = true := by
            cases move : isBuildCanMove src <;> cases ed : edit <;> simp_all
          split
          · exact .inl rfl
          next can => exact .inr ⟨src, get, inner, may_move, can, rfl⟩

theorem Kept.moveBuild (kept : Kept bag) {id : ℕ} {edit : Bool}
    (clear : (Op.moveBuild id pos edit).Clear config bag) :
    Kept ((Op.moveBuild id pos edit).run config bag) := by
  rcases moveBuild_cases id pos edit with refused | ⟨src, get, inner, may_move, can, moved⟩
  · rwa [refused]
  · rw [moved]
    exact kept.swapMapGrids (mem_of_getBuild get).1 can (clear src get inner may_move can)

theorem Kept.delBuild (kept : Kept bag) {id : ℕ} :
    Kept (((delBuild bag id).toOption).getD bag) := by
  unfold BaseMap.delBuild
  split
  · exact kept
  next build get =>
    obtain ⟨mem, rfl⟩ := mem_of_getBuild get
    exact kept.drop mem

theorem Kept.dropAll (kept : Kept bag) (gone : List Build)
    (present : ∀ build ∈ gone, build ∈ bag.builds) (nodup : (gone.map Build.id).Nodup) :
    Kept { builds := bag.builds.filter fun build => build.id ∉ gone.map Build.id
           grids := gone.foldl
            (fun grids build => resetMapGrids grids build.pos build.length build.width)
            bag.grids } := by
  induction gone generalizing bag with
  | nil => simpa using kept
  | cons build gone ih =>
      obtain ⟨build_absent, rest_nodup⟩ := List.nodup_cons.mp nodup
      have dropped := kept.drop (present build (by simp))
      have still_present : ∀ other ∈ gone, other ∈ dropBuild bag.builds build.id :=
        fun other mem => List.mem_filter.mpr ⟨present other (by simp [mem]), by
          have different : other.id ≠ build.id := fun same =>
            build_absent (same ▸ List.mem_map_of_mem mem)
          simpa using different⟩
      have rest := ih dropped still_present rest_nodup
      have builds_eq : (dropBuild bag.builds build.id).filter
            (fun other => other.id ∉ gone.map Build.id) =
          bag.builds.filter fun other => other.id ∉ (build :: gone).map Build.id := by
        rw [dropBuild, List.filter_filter]
        refine List.filter_congr fun other _ => ?_
        rw [← Bool.decide_and, decide_eq_decide, List.map_cons, List.mem_cons, not_or]
        exact and_comm
      rwa [builds_eq] at rest

theorem Kept.resetData (kept : Kept bag) {uuids : List ℕ}
    (layout : Layout ((bag.builds.filter fun build => 0 < build.chain) ++
      presetBuilds config uuids)) :
    Kept (BaseMap.resetData config bag uuids) := by
  have emptied := kept.dropAll (bag.builds.filter fun build => build.chain ≤ 0)
    (fun build mem => List.mem_of_mem_filter mem)
    (kept.nodup.sublist (List.filter_sublist.map Build.id))
  have stays : (bag.builds.filter fun build =>
        build.id ∉ (bag.builds.filter fun build => build.chain ≤ 0).map Build.id) =
      bag.builds.filter fun build => 0 < build.chain := by
    refine List.filter_congr fun build mem => ?_
    simp only [decide_eq_decide, List.mem_map, List.mem_filter, decide_eq_true_eq, not_exists,
      not_and]
    constructor
    · intro not_deleted
      by_contra old
      exact not_deleted build ⟨mem, by omega⟩ rfl
    · rintro chained other ⟨other_mem, other_old⟩ same
      rw [eq_of_id_eq kept.nodup other_mem mem same] at other_old
      omega
  rw [stays] at emptied
  have of_layout (build : Build) (mem : build ∈ presetBuilds config uuids) :=
    List.mem_append_right (bag.builds.filter fun build => 0 < build.chain) mem
  exact emptied.addAll layout.nodup (fun build mem => layout.positive build (of_layout build mem))
    (fun build mem => (layout.fits build (of_layout build mem)).inside) layout.apart

end

theorem Kept.run {config : Config} {bag : Bag} (kept : Kept bag) {op : Op}
    (given : op.Given config bag) (clear : op.Clear config bag) : Kept (op.run config bag) := by
  cases op with
  | deserialize data => exact kept.deserialize given
  | createBuild cfgId pos opType uuid checks => exact kept.createBuild given.1 given.2
  | addBuild build => exact kept.addBuild given.1 given.2.1 given.2.2
  | moveBuild id pos edit => exact kept.moveBuild clear
  | delBuild id => exact kept.delBuild
  | resetData uuids => exact kept.resetData clear

theorem kept_run {config : Config} {bag : Bag} (reached : Reached config (Op.Clear config) bag) :
    Kept bag := by
  induction reached with
  | new => exact .new
  | run _ given clear kept => exact kept.run given clear

/-- Over every sequence of clear operations the base map is occupied as its buildings say. -/
theorem occupied_run {config : Config} {bag : Bag}
    (reached : Reached config (Op.Clear config) bag) : Occupied bag :=
  (kept_run reached).occupied

/-! ## A swap -/

def sampleConfig : Config where
  getBuildCfg _ _ _ := none
  noShip _ _ := rfl
  presetBuilds := []
  isInnerServer := false

/-- Three cells by three. -/
def sampleWide : Build where
  id := 1
  cfgId := 6020002
  type := 1
  subType := 0
  length := 3
  width := 3
  chain := 0
  pos := ⟨10, 10⟩

def sampleSmall : Build where
  id := 2
  cfgId := 6020003
  type := 1
  subType := 0
  length := 2
  width := 2
  chain := 0
  pos := ⟨13, 10⟩

theorem layout_sample : Layout ([sampleWide, sampleSmall].foldl putBuild Bag.new.builds) where
  nodup := by decide
  positive := by decide
  fits := by
    refine List.forall_mem_cons.mpr ⟨fun _ => ?_, List.forall_mem_singleton.mpr fun _ => ?_⟩ <;>
      decide
  apart := by decide

def sampleBag : Bag :=
  (Op.deserialize [sampleWide, sampleSmall]).run sampleConfig .new

theorem reached_sampleBag (allowed : Bag → Op → Prop)
    (allows : allowed .new (.deserialize [sampleWide, sampleSmall])) :
    Reached sampleConfig allowed sampleBag :=
  .run .new layout_sample allows

/-- Two cells to the right the wide building changes places with the small one. -/
theorem occupied_run_sample :
    Occupied ((Op.moveBuild 1 ⟨12, 10⟩ false).run sampleConfig sampleBag) := by
  refine occupied_run (.run (reached_sampleBag _ trivial) trivial fun src get _ _ _ => ?_)
  have src_eq : getBuild sampleBag.builds 1 = some sampleWide := by decide +kernel
  obtain rfl := Option.some.inj (src_eq.symm.trans get)
  decide +kernel

/-- One cell to the right the small building is put where the wide one still stands. -/
theorem not_occupied_sample :
    ¬ ∀ bag, Reached sampleConfig (fun _ _ => True) bag → Occupied bag := by
  intro occupied
  have reached : Reached sampleConfig (fun _ _ => True)
      ((Op.moveBuild 1 ⟨11, 10⟩ false).run sampleConfig sampleBag) :=
    .run (reached_sampleBag _ trivial) trivial trivial
  exact absurd (occupied _ reached).apart (by decide +kernel)

end BasWar.BaseMap
