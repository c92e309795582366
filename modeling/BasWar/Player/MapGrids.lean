import BasWar.Tables.Board
import Mathlib.Data.List.Dedup
import Mathlib.Data.Set.Insert
import Mathlib.Order.Interval.Set.Defs

/-!
# Map grids

A base map is a square of cells that hold the id of the building on them, or 0.  Buildings are
rectangles; positions are whole numbers, and the position (0, 0) stands for a building that is not
on the map.  The source keeps no cell outside of the square and reads none; here such a cell holds
0.
-/

namespace BasWar

structure Pos where
  x : ℤ
  z : ℤ
  deriving DecidableEq

def mapGridMin : ℤ :=
  6

def mapGridMax : ℤ :=
  45

namespace Pos

/-- A building at this position is not on the map. -/
def Off (pos : Pos) : Prop :=
  pos.x = 0 ∧ pos.z = 0
  deriving Decidable

def InMap (pos : Pos) : Prop :=
  (mapGridMin ≤ pos.x ∧ pos.x ≤ mapGridMax) ∧ mapGridMin ≤ pos.z ∧ pos.z ≤ mapGridMax
  deriving Decidable

theorem InMap.not_off {pos : Pos} (in_map : pos.InMap) : ¬ pos.Off := by
  rintro ⟨x_eq, -⟩
  have := in_map.1.1
  simp only [mapGridMin] at this
  omega

end Pos

/-- Names the building on each cell. -/
abbrev Grids :=
  Pos → ℕ

/-- The cells of a rectangle, in the order of the loops. -/
def areaCells (pos : Pos) (length width : ℕ) : List Pos :=
  (List.range length).flatMap fun (i : ℕ) =>
    (List.range width).map fun (j : ℕ) => ⟨pos.x + i, pos.z + j⟩

theorem mem_areaCells {pos cell : Pos} {length width : ℕ} :
    cell ∈ areaCells pos length width ↔
      (pos.x ≤ cell.x ∧ cell.x < pos.x + length) ∧ pos.z ≤ cell.z ∧ cell.z < pos.z + width := by
  obtain ⟨x, z⟩ := cell
  simp only [areaCells, List.mem_flatMap, List.mem_map, List.mem_range, Pos.mk.injEq]
  constructor
  · rintro ⟨i, i_lt, j, j_lt, rfl, rfl⟩
    omega
  · rintro ⟨⟨x_le, x_lt⟩, z_le, z_lt⟩
    exact ⟨(x - pos.x).toNat, by omega, (z - pos.z).toNat, by omega, by omega, by omega⟩

namespace MapGrids

/-- Write one id on all cells of a rectangle. -/
def fill (id : ℕ) (cells : List Pos) (grids : Grids) : Grids :=
  cells.foldl (fun grids cell => Function.update grids cell id) grids

theorem fill_apply (id : ℕ) (cells : List Pos) (grids : Grids) (cell : Pos) :
    fill id cells grids cell = if cell ∈ cells then id else grids cell := by
  induction cells generalizing grids with
  | nil => simp [fill]
  | cons head tail ih =>
      have step : fill id (head :: tail) grids = fill id tail (Function.update grids head id) := rfl
      rw [step, ih]
      by_cases same : cell = head
      · simp [same]
      · simp [same]

theorem fills (id : ℕ) (cells : List Pos) (grids : Grids) :
    Tables.Fills {cell | cell ∈ cells} id grids (fill id cells grids) :=
  ⟨fun cell (inside : cell ∈ cells) => by rw [fill_apply, if_pos inside],
    fun cell (outside : cell ∉ cells) => by rw [fill_apply, if_neg outside]⟩

def canPlaceMapGrids (grids : Grids) (pos : Pos) (length width : ℕ) : Bool :=
  decide pos.InMap &&
    (areaCells pos length width).all fun cell =>
      decide (cell.x ≤ mapGridMax ∧ cell.z ≤ mapGridMax) && grids cell == 0

def setMapGrids (grids : Grids) (id : ℕ) (pos : Pos) (length width : ℕ) : Grids :=
  if pos.Off then grids else fill id (areaCells pos length width) grids

def resetMapGrids (grids : Grids) (pos : Pos) (length width : ℕ) : Grids :=
  if pos.Off then grids else fill 0 (areaCells pos length width) grids

/-- `getIdFromMapGrids`: the only building on a rectangle apart from the excluded ones, 0 if there
is none, and nothing if there are several. -/
def getIdFromMapGrids (grids : Grids) (pos : Pos) (length width : ℕ) (exclude : List ℕ) :
    Option ℕ :=
  let cells := (areaCells pos length width).filter fun cell =>
    decide (cell.x ≤ mapGridMax ∧ cell.z ≤ mapGridMax)
  match ((cells.map grids).filter fun id => id ≠ 0 ∧ id ∉ exclude).dedup with
  | [] => some 0
  | [mostId] => some mostId
  | _ => none

def isEnoughSpaceMapGrids (grids : Grids) (pos : Pos) (length width : ℕ) (exclude : List ℕ) :
    Bool :=
  decide pos.InMap &&
    (areaCells pos length width).all fun cell =>
      decide (cell.x ≤ mapGridMax ∧ cell.z ≤ mapGridMax) &&
        decide (grids cell ∈ exclude ∨ grids cell = 0)

/-- The cells that a rectangle takes at a position; none off the map. -/
def coveredCells (pos : Pos) (length width : ℕ) : List Pos :=
  if pos.Off then [] else areaCells pos length width

theorem fills_setMapGrids (grids : Grids) (id : ℕ) (pos : Pos) (length width : ℕ) :
    Tables.Fills {cell | cell ∈ coveredCells pos length width} id grids
      (setMapGrids grids id pos length width) := by
  unfold setMapGrids coveredCells
  split
  · simp [Tables.Fills]
  · exact fills id _ grids

theorem fills_resetMapGrids (grids : Grids) (pos : Pos) (length width : ℕ) :
    Tables.Fills {cell | cell ∈ coveredCells pos length width} 0 grids
      (resetMapGrids grids pos length width) :=
  fills_setMapGrids grids 0 pos length width

theorem setMapGrids_setMapGrids (grids : Grids) (id : ℕ) (pos : Pos) (length width : ℕ) :
    setMapGrids (setMapGrids grids id pos length width) id pos length width =
      setMapGrids grids id pos length width := by
  unfold setMapGrids
  split
  · rfl
  · funext cell
    simp only [fill_apply]
    split <;> rfl

variable {pos : Pos} {length width : ℕ} {grids : Grids} {exclude : List ℕ}

theorem inMap_of_mem_areaCells {cell : Pos} (in_map : pos.InMap)
    (mem : cell ∈ areaCells pos length width) (x_le : cell.x ≤ mapGridMax)
    (z_le : cell.z ≤ mapGridMax) : cell.InMap := by
  rw [mem_areaCells] at mem
  exact ⟨⟨in_map.1.1.trans mem.1.1, x_le⟩, in_map.2.1.trans mem.2.1, z_le⟩

theorem canPlaceMapGrids_spec (can : canPlaceMapGrids grids pos length width = true) :
    pos.InMap ∧ ∀ cell ∈ areaCells pos length width, cell.InMap ∧ grids cell = 0 := by
  simp only [canPlaceMapGrids, Bool.and_eq_true, decide_eq_true_eq, List.all_eq_true,
    beq_iff_eq] at can
  refine ⟨can.1, fun cell mem => ?_⟩
  obtain ⟨⟨x_le, z_le⟩, free⟩ := can.2 cell mem
  exact ⟨inMap_of_mem_areaCells can.1 mem x_le z_le, free⟩

theorem isEnoughSpaceMapGrids_spec
    (enough : isEnoughSpaceMapGrids grids pos length width exclude = true) :
    pos.InMap ∧ ∀ cell ∈ areaCells pos length width,
      cell.InMap ∧ (grids cell ∈ exclude ∨ grids cell = 0) := by
  simp only [isEnoughSpaceMapGrids, Bool.and_eq_true, decide_eq_true_eq, List.all_eq_true]
    at enough
  refine ⟨enough.1, fun cell mem => ?_⟩
  obtain ⟨⟨x_le, z_le⟩, free⟩ := enough.2 cell mem
  exact ⟨inMap_of_mem_areaCells enough.1 mem x_le z_le, free⟩

theorem not_mem_of_getIdFromMapGrids {id : ℕ}
    (found : getIdFromMapGrids grids pos length width exclude = some id) (id_ne : id ≠ 0) :
    id ∉ exclude := by
  unfold getIdFromMapGrids at found
  dsimp only at found
  split at found
  next => exact absurd (Option.some.inj found).symm id_ne
  next mostId ids_eq =>
    cases found
    have mem : id ∈ [id] := List.mem_singleton_self id
    rw [← ids_eq, List.mem_dedup] at mem
    have kept := (List.mem_filter.mp mem).2
    exact (decide_eq_true_eq.mp kept).2
  next => cases found

theorem getIdFromMapGrids_congr {lifted : Grids} (pos : Pos) (length width : ℕ)
    (same : ∀ cell, lifted cell = grids cell ∨ lifted cell = 0 ∧ grids cell ∈ exclude) :
    getIdFromMapGrids lifted pos length width exclude =
      getIdFromMapGrids grids pos length width exclude := by
  have named (cells : List Pos) :
      ((cells.map lifted).filter fun id => id ≠ 0 ∧ id ∉ exclude) =
        (cells.map grids).filter fun id => id ≠ 0 ∧ id ∉ exclude := by
    induction cells with
    | nil => rfl
    | cons cell cells ih =>
        rw [List.map_cons, List.map_cons, List.filter_cons, List.filter_cons, ih]
        rcases same cell with unchanged | ⟨blanked, excluded⟩
        · rw [unchanged]
        · simp [blanked, excluded]
  simp only [getIdFromMapGrids, named]

end MapGrids

end BasWar
