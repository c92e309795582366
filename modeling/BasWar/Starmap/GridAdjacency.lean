import BasWar.Starmap.Campaign
import BasWar.Tables.Documents
import Mathlib.Data.Finset.Insert

/-!
# The grids that can be attacked

A cell of the map has six neighbours.  A grid is a cell or a group of cells, one of which is the
main cell; the id of a cell is written from its coordinates.  A player attacks a grid that a grid of
the player or the union touches.
-/

namespace BasWar.Starmap.Adjacency

open Campaigns (ArmyType)
open Tables

structure Pos where
  x : ℤ
  y : ℤ

/-- The coordinates have at most three digits. -/
def Pos.OnMap (pos : Pos) : Prop :=
  pos.x.natAbs < 1000 ∧ pos.y.natAbs < 1000

/-- The two digits of `prefix`. -/
def signDigits (pos : Pos) : ℤ :=
  (if 0 ≤ pos.x then 10 else 20) + if 0 ≤ pos.y then 1 else 2

/-- The signs of the coordinates come before their absolute values. -/
def pos2GridId (pos : Pos) : ℤ :=
  signDigits pos * 1000000 + pos.x.natAbs * 1000 + pos.y.natAbs

def nearPosList (pos : Pos) : List Pos :=
  [⟨pos.x - 1, pos.y⟩, ⟨pos.x - 1, pos.y + 1⟩, ⟨pos.x, pos.y - 1⟩, ⟨pos.x + 1, pos.y - 1⟩,
    ⟨pos.x + 1, pos.y⟩, ⟨pos.x, pos.y + 1⟩]

def getNearGrids (pos : Pos) : Dict ℤ Pos :=
  Dict.ofEntries pos2GridId id (nearPosList pos)

/-- `type` of a row. -/
inductive GridType
  | normal
  | nft
  | begin
  deriving DecidableEq

/-- A row of `starmapConfig`; a row without a parent grid has 0. -/
structure GridCfg where
  type : GridType
  belongType : BelongType
  pos : Pos
  parentGrid : ℤ
  groupGrid : List ℤ

def GridCfg.members (gridCfg : GridCfg) (gridCfgId : ℤ) : List ℤ :=
  if gridCfg.groupGrid = [] then [gridCfgId] else gridCfg.groupGrid

/-- `starmapConfig`. -/
structure MapCfg where
  rows : ℤ → Option GridCfg
  coded : ∀ {cfgId : ℤ} {row : GridCfg}, rows cfgId = some row → cfgId = pos2GridId row.pos
  bounded : ∀ {cfgId : ℤ} {row : GridCfg}, rows cfgId = some row → row.pos.OnMap
  /-- A group lists its main cell and the cells whose parent that is. -/
  grouped : ∀ {gridCfgId : ℤ} {gridCfg : GridCfg}, rows gridCfgId = some gridCfg →
    gridCfg.parentGrid = 0 → ∀ cfgId, cfgId ∈ gridCfg.members gridCfgId ↔
      cfgId = gridCfgId ∨ ∃ row, rows cfgId = some row ∧ row.parentGrid = gridCfgId

inductive MapGrid
  | begin (unionIds : Finset ℕ)
  | grid (owner : Option Owner)

structure Attacker where
  playerId : ℕ
  unionId : ℕ

/-- It belongs to the attacker or to the union of the attacker. -/
def MapGrid.near (attacker : Attacker) : MapGrid → Bool
  | .begin unionIds => attacker.unionId ∈ unionIds
  | .grid owner =>
      owner.any fun owner =>
        owner.unionId = attacker.unionId || owner.isPrivate && owner.playerId = attacker.playerId

section Model

variable (map : MapCfg) (grids : ℤ → Option MapGrid)

def cellNear (attacker : Attacker) (cfgId : ℤ) (cfg : GridCfg) : Bool :=
  (grids (if cfg.parentGrid = 0 then cfgId else cfg.parentGrid)).any (MapGrid.near attacker)

def checkNearGridBelong (pos : Pos) (attacker : Attacker) (parentGridId : ℤ) : Bool :=
  (getNearGrids pos).keys.any fun nCfgId =>
    (map.rows nCfgId).any fun tmpCfg =>
      tmpCfg.parentGrid ≠ parentGridId && cellNear grids attacker nCfgId tmpCfg

/-- What `canBattle` tells the player. -/
inductive Refusal
  | gridNotExist
  | gridBattleBeginGrid
  | gridBelongTypeSelf
  | gridBattleSubGrid
  | gridMatchNotStart
  | gridNearNotBelong
  deriving DecidableEq

/-- The loops of `canBattle` over a grid. -/
def groupNear (gridCfgId : ℤ) (gridCfg : GridCfg) (attacker : Attacker) : Bool :=
  if gridCfg.groupGrid = [] then
    checkNearGridBelong map grids gridCfg.pos attacker gridCfgId
  else
    gridCfg.groupGrid.any fun cfgId =>
      if cfgId = gridCfgId then checkNearGridBelong map grids gridCfg.pos attacker gridCfgId
      else
        (map.rows cfgId).any fun tmpCfg =>
          checkNearGridBelong map grids tmpCfg.pos attacker gridCfgId

/-- `canBattle`; `inSeason` if a match has started or the test switch is set. -/
def canBattle (gridCfgId : ℤ) (attacker : Attacker) (isInner inSeason : Bool)
    (armyType : ArmyType) : Except Refusal Unit :=
  match map.rows gridCfgId with
  | none => .error .gridNotExist
  | some gridCfg =>
      if gridCfg.type = .begin then .error .gridBattleBeginGrid
      else if gridCfg.belongType = .self ∧ armyType ≠ .self then .error .gridBelongTypeSelf
      else if gridCfg.parentGrid ≠ 0 then .error .gridBattleSubGrid
      else if inSeason = false then .error .gridMatchNotStart
      else if isInner || groupNear map grids gridCfgId gridCfg attacker then .ok ()
      else .error .gridNearNotBelong

end Model

section Ids

variable {pos other near : Pos}

theorem mem_nearPosList_iff :
    near ∈ nearPosList pos ↔
      near = ⟨pos.x - 1, pos.y⟩ ∨ near = ⟨pos.x - 1, pos.y + 1⟩ ∨ near = ⟨pos.x, pos.y - 1⟩ ∨
        near = ⟨pos.x + 1, pos.y - 1⟩ ∨ near = ⟨pos.x + 1, pos.y⟩ ∨ near = ⟨pos.x, pos.y + 1⟩ := by
  simp [nearPosList]

theorem near_symm : near ∈ nearPosList pos ↔ pos ∈ nearPosList near := by
  obtain ⟨x, y⟩ := pos
  obtain ⟨nearX, nearY⟩ := near
  simp only [mem_nearPosList_iff, Pos.mk.injEq]
  omega

/-- A position off the map whose id is that of a cell. -/
def Wraps (near pos : Pos) : Prop :=
  (near.x = 1000 ∧ 0 < near.y ∧ near.y < 1000 ∧ pos = ⟨0, -near.y⟩) ∨
    (near.y = 1000 ∧ pos = ⟨if 0 ≤ near.x then near.x + 1 else near.x - 1, 0⟩)

theorem signDigits_cases (pos : Pos) :
    (0 ≤ pos.x ∧ 0 ≤ pos.y ∧ signDigits pos = 11) ∨
      (0 ≤ pos.x ∧ pos.y < 0 ∧ signDigits pos = 12) ∨
      (pos.x < 0 ∧ 0 ≤ pos.y ∧ signDigits pos = 21) ∨
      (pos.x < 0 ∧ pos.y < 0 ∧ signDigits pos = 22) := by
  unfold signDigits
  omega

theorem digits_eq {first second nearX nearY x y : ℤ} (nearX_nonneg : 0 ≤ nearX)
    (nearY_nonneg : 0 ≤ nearY) (x_nonneg : 0 ≤ x) (y_nonneg : 0 ≤ y) (nearX_le : nearX ≤ 1000)
    (nearY_le : nearY ≤ 1000) (x_lt : x < 1000) (y_lt : y < 1000)
    (same : first * 1000000 + nearX * 1000 + nearY = second * 1000000 + x * 1000 + y) :
    (first = second ∧ nearX = x ∧ nearY = y) ∨
      (first = second ∧ nearX + 1 = x ∧ nearY = 1000 ∧ y = 0) ∨
      (first + 1 = second ∧ nearX = 1000 ∧ x = 0 ∧ nearY = y) ∨
      (first + 1 = second ∧ nearY = 1000 ∧ y = 0) := by
  omega

theorem eq_or_wraps (near_x : near.x.natAbs ≤ 1000) (near_y : near.y.natAbs ≤ 1000)
    (pos_on : pos.OnMap) (same : pos2GridId near = pos2GridId pos) :
    near = pos ∨ Wraps near pos := by
  obtain ⟨pos_x, pos_y⟩ := pos_on
  have digits := digits_eq (by omega) (by omega) (by omega) (by omega) (by omega) (by omega)
    (by omega) (by omega) same
  have near_digits := signDigits_cases near
  have pos_digits := signDigits_cases pos
  obtain ⟨x, y⟩ := pos
  obtain ⟨nearX, nearY⟩ := near
  simp only [Wraps, Pos.mk.injEq] at *
  obtain ⟨first_eq, x_eq, y_eq⟩ | ⟨first_eq, x_eq, y_eq, zero⟩ | ⟨first_eq, x_eq, zero, y_eq⟩ |
    ⟨first_eq, y_eq, zero⟩ := digits
  · left
    omega
  · right
    right
    split <;> omega
  · right
    left
    omega
  · omega

theorem Wraps.same_id (wraps : Wraps near pos) : pos2GridId near = pos2GridId pos := by
  have near_digits := signDigits_cases near
  have pos_digits := signDigits_cases pos
  obtain ⟨x_eq, y_pos, -, rfl⟩ | ⟨y_eq, rfl⟩ := wraps
  · simp only [pos2GridId] at *
    omega
  · by_cases nonneg : 0 ≤ near.x
    · simp only [pos2GridId, if_pos nonneg] at *
      omega
    · simp only [pos2GridId, if_neg nonneg] at *
      omega

theorem pos2GridId_inj (near_on : near.OnMap) (pos_on : pos.OnMap)
    (same : pos2GridId near = pos2GridId pos) : near = pos := by
  obtain ⟨near_x, near_y⟩ := near_on
  refine (eq_or_wraps near_x.le near_y.le pos_on same).resolve_right fun wraps => ?_
  obtain ⟨x_eq, -⟩ | ⟨y_eq, -⟩ := wraps <;> omega

theorem pos2GridId_ne_zero (pos : Pos) : pos2GridId pos ≠ 0 := by
  have digits := signDigits_cases pos
  unfold pos2GridId
  omega

end Ids

section Spec

variable (map : MapCfg) (grids : ℤ → Option MapGrid)

def InGroup (gridCfgId cfgId : ℤ) (cfg : GridCfg) : Prop :=
  map.rows cfgId = some cfg ∧ (cfgId = gridCfgId ∨ cfg.parentGrid = gridCfgId)

/-- An attack in season, not by an inner call, on the main cell of a grid that can be attacked. -/
structure Attack where
  gridCfgId : ℤ
  gridCfg : GridCfg
  attacker : Attacker
  armyType : ArmyType
  rows_eq : map.rows gridCfgId = some gridCfg
  not_begin : gridCfg.type ≠ .begin
  belong : gridCfg.belongType = .self → armyType = .self
  main : gridCfg.parentGrid = 0

variable {map} (attack : Attack map)

/-- A neighbour of a cell of the grid is a cell of another grid, which is near to the attacker. -/
def Adjacent : Prop :=
  ∃ cellId cell otherId other, InGroup map attack.gridCfgId cellId cell ∧
    map.rows otherId = some other ∧ other.pos ∈ nearPosList cell.pos ∧
    ¬InGroup map attack.gridCfgId otherId other ∧
    cellNear grids attack.attacker otherId other = true

/-- The grid has another cell next to its main cell and is near to the attacker itself. -/
def OwnGroup : Prop :=
  (∃ cellId cell, InGroup map attack.gridCfgId cellId cell ∧
    attack.gridCfg.pos ∈ nearPosList cell.pos) ∧
    cellNear grids attack.attacker attack.gridCfgId attack.gridCfg = true

/-- A position off the map next to a cell of the grid has the id of a cell of a grid that is near to
the attacker. -/
def WrapsAround : Prop :=
  ∃ cellId cell near otherId other, InGroup map attack.gridCfgId cellId cell ∧
    near ∈ nearPosList cell.pos ∧ map.rows otherId = some other ∧ Wraps near other.pos ∧
    other.parentGrid ≠ attack.gridCfgId ∧
    cellNear grids attack.attacker otherId other = true

/-- The ids and the neighbours of cells are as they should be, and an attack is allowed exactly if a
grid near to the attacker touches the attacked one. -/
def Exact : Prop :=
  (canBattle map grids attack.gridCfgId attack.attacker false true attack.armyType = .ok () ↔
    Adjacent grids attack) ∧
  (∀ pos other : Pos, pos.OnMap → other.OnMap → pos ≠ other →
    pos2GridId pos ≠ pos2GridId other) ∧
  ∀ pos near, near ∈ nearPosList pos ↔ pos ∈ nearPosList near

end Spec

section Proofs

variable {map : MapCfg} {grids : ℤ → Option MapGrid} {pos : Pos} {attacker : Attacker}

/-- The cells that `_checkNearGridBelong` finds. -/
theorem checkNearGridBelong_iff {parentGridId : ℤ} :
    checkNearGridBelong map grids pos attacker parentGridId = true ↔
      ∃ near ∈ nearPosList pos, ∃ other, map.rows (pos2GridId near) = some other ∧
        other.parentGrid ≠ parentGridId ∧
        cellNear grids attacker (pos2GridId near) other = true := by
  simp only [checkNearGridBelong, getNearGrids, List.any_eq_true, Dict.mem_keys_ofEntries,
    Option.any_eq_true, Bool.and_eq_true, decide_eq_true_eq, exists_exists_and_eq_and]

theorem inGroup_iff (attack : Attack map) {cellId : ℤ} {cell : GridCfg} :
    InGroup map attack.gridCfgId cellId cell ↔
      map.rows cellId = some cell ∧ cellId ∈ attack.gridCfg.members attack.gridCfgId := by
  rw [map.grouped attack.rows_eq attack.main, InGroup]
  refine and_congr_right fun cell_eq => or_congr_right ⟨fun parent => ⟨cell, cell_eq, parent⟩, ?_⟩
  rintro ⟨row, row_eq, parent⟩
  cases cell_eq.symm.trans row_eq
  exact parent

/-- The cells of a group whose neighbours are checked. -/
theorem groupNear_iff (attack : Attack map) :
    groupNear map grids attack.gridCfgId attack.gridCfg attack.attacker = true ↔
      ∃ cellId cell, InGroup map attack.gridCfgId cellId cell ∧
        checkNearGridBelong map grids cell.pos attack.attacker attack.gridCfgId = true := by
  simp only [inGroup_iff]
  unfold groupNear GridCfg.members
  split
  next alone =>
    constructor
    · exact fun checked =>
        ⟨attack.gridCfgId, attack.gridCfg, ⟨attack.rows_eq, List.mem_singleton_self _⟩, checked⟩
    · rintro ⟨cellId, cell, ⟨cell_eq, cell_mem⟩, checked⟩
      rw [List.mem_singleton.mp cell_mem, attack.rows_eq] at cell_eq
      cases cell_eq
      exact checked
  next group =>
    rw [List.any_eq_true]
    constructor
    · rintro ⟨cellId, cell_mem, checked⟩
      split at checked
      next same =>
        exact ⟨cellId, attack.gridCfg, ⟨same ▸ attack.rows_eq, cell_mem⟩, checked⟩
      next other =>
        obtain ⟨cell, cell_eq, cell_checked⟩ := (Option.any_eq_true _ _).mp checked
        exact ⟨cellId, cell, ⟨cell_eq, cell_mem⟩, cell_checked⟩
    · rintro ⟨cellId, cell, ⟨cell_eq, cell_mem⟩, checked⟩
      refine ⟨cellId, cell_mem, ?_⟩
      split
      next same =>
        rw [same, attack.rows_eq] at cell_eq
        cases cell_eq
        exact checked
      next other =>
        rw [cell_eq, Option.any_some]
        exact checked

theorem near_bounded {near : Pos} (pos_on : pos.OnMap) (is_near : near ∈ nearPosList pos) :
    near.x.natAbs ≤ 1000 ∧ near.y.natAbs ≤ 1000 := by
  obtain ⟨pos_x, pos_y⟩ := pos_on
  rw [mem_nearPosList_iff] at is_near
  have step : ∀ coordinate : ℤ, coordinate.natAbs < 1000 →
      (coordinate - 1).natAbs ≤ 1000 ∧ (coordinate + 1).natAbs ≤ 1000 := by omega
  obtain ⟨x_pred, x_succ⟩ := step pos.x pos_x
  obtain ⟨y_pred, y_succ⟩ := step pos.y pos_y
  obtain rfl | rfl | rfl | rfl | rfl | rfl := is_near
  · exact ⟨x_pred, pos_y.le⟩
  · exact ⟨x_pred, y_succ⟩
  · exact ⟨pos_x.le, y_pred⟩
  · exact ⟨x_succ, y_pred⟩
  · exact ⟨x_succ, pos_y.le⟩
  · exact ⟨pos_x.le, y_succ⟩

/-- `canBattle` also finds the grid itself and what is written like a position off the map. -/
theorem canBattle_iff (attack : Attack map) :
    canBattle map grids attack.gridCfgId attack.attacker false true attack.armyType = .ok () ↔
      Adjacent grids attack ∨ OwnGroup grids attack ∨ WrapsAround grids attack := by
  have asked : canBattle map grids attack.gridCfgId attack.attacker false true attack.armyType =
      .ok () ↔
        groupNear map grids attack.gridCfgId attack.gridCfg attack.attacker = true := by
    have belongs : ¬(attack.gridCfg.belongType = .self ∧ attack.armyType ≠ .self) :=
      fun other => other.2 (attack.belong other.1)
    simp [canBattle, attack.rows_eq, attack.not_begin, attack.main, belongs]
  rw [asked, groupNear_iff]
  simp only [checkNearGridBelong_iff]
  constructor
  · rintro ⟨cellId, cell, cell_in, near, is_near, other, other_eq, parent, linked⟩
    obtain ⟨near_x, near_y⟩ := near_bounded (map.bounded cell_in.1) is_near
    obtain rfl | wraps :=
      eq_or_wraps near_x near_y (map.bounded other_eq) (map.coded other_eq)
    · by_cases own : pos2GridId other.pos = attack.gridCfgId
      · rw [own, attack.rows_eq] at other_eq
        cases other_eq
        exact .inr (.inl ⟨⟨cellId, cell, cell_in, is_near⟩, own ▸ linked⟩)
      · exact .inl ⟨cellId, cell, _, other, cell_in, other_eq, is_near,
          fun inside => inside.2.elim own parent, linked⟩
    · exact .inr (.inr
        ⟨cellId, cell, near, _, other, cell_in, is_near, other_eq, wraps, parent, linked⟩)
  · rintro (adjacent | ⟨⟨cellId, cell, cell_in, is_near⟩, linked⟩ | wrapped)
    · obtain ⟨cellId, cell, otherId, other, cell_in, other_eq, is_near, outside, linked⟩ := adjacent
      cases map.coded other_eq
      exact ⟨cellId, cell, cell_in, other.pos, is_near, other, other_eq,
        fun parent => outside ⟨other_eq, .inr parent⟩, linked⟩
    · have coded := map.coded attack.rows_eq
      refine ⟨cellId, cell, cell_in, attack.gridCfg.pos, is_near, attack.gridCfg, ?_, ?_, ?_⟩
      · exact coded ▸ attack.rows_eq
      · rw [attack.main, coded]
        exact (pos2GridId_ne_zero _).symm
      · exact coded ▸ linked
    · obtain ⟨cellId, cell, near, otherId, other, cell_in, is_near, other_eq, wraps, parent,
        linked⟩ := wrapped
      have id_eq : pos2GridId near = otherId := wraps.same_id.trans (map.coded other_eq).symm
      exact ⟨cellId, cell, cell_in, near, is_near, other, id_eq ▸ other_eq, parent, id_eq ▸ linked⟩

/-- Attacks are allowed as they should be exactly if a grid that would be found by mistake touches
another one that is near to the attacker. -/
theorem adjacency_iff (map : MapCfg) (grids : ℤ → Option MapGrid) (attack : Attack map) :
    Exact grids attack ↔
      (OwnGroup grids attack ∨ WrapsAround grids attack → Adjacent grids attack) := by
  have ids : ∀ pos other : Pos, pos.OnMap → other.OnMap → pos ≠ other →
      pos2GridId pos ≠ pos2GridId other :=
    fun _ _ pos_on other_on different same => different (pos2GridId_inj pos_on other_on same)
  rw [Exact, canBattle_iff, or_iff_left_iff_imp]
  exact and_iff_left ⟨ids, fun _ _ => near_symm⟩

end Proofs

def mainCfg : GridCfg :=
  ⟨.normal, .union, ⟨0, 0⟩, 0, [11000000, 11001000]⟩

def subCfg : GridCfg :=
  ⟨.normal, .union, ⟨1, 0⟩, 11000000, []⟩

def pairRows (cfgId : ℤ) : Option GridCfg :=
  if cfgId = 11000000 then some mainCfg else if cfgId = 11001000 then some subCfg else none

theorem pairRows_eq {cfgId : ℤ} {row : GridCfg} (found : pairRows cfgId = some row) :
    cfgId = 11000000 ∧ row = mainCfg ∨ cfgId = 11001000 ∧ row = subCfg := by
  unfold pairRows at found
  split at found
  next same => exact .inl ⟨same, (Option.some.inj found).symm⟩
  next different =>
    split at found
    next same => exact .inr ⟨same, (Option.some.inj found).symm⟩
    next => cases found

/-- The map has only the two cells. -/
def pairMap : MapCfg where
  rows := pairRows
  coded found := by
    obtain ⟨rfl, rfl⟩ | ⟨rfl, rfl⟩ := pairRows_eq found <;> rfl
  bounded found := by
    obtain ⟨rfl, rfl⟩ | ⟨rfl, rfl⟩ := pairRows_eq found <;> exact ⟨by decide, by decide⟩
  grouped := by
    intro gridCfgId gridCfg found main cfgId
    obtain ⟨rfl, rfl⟩ | ⟨rfl, rfl⟩ := pairRows_eq found
    · have members_eq : mainCfg.members 11000000 = [11000000, 11001000] := rfl
      rw [members_eq, List.mem_cons, List.mem_singleton]
      refine or_congr_right ⟨?_, ?_⟩
      · rintro rfl
        exact ⟨subCfg, rfl, rfl⟩
      · rintro ⟨row, row_eq, parent⟩
        obtain ⟨-, rfl⟩ | ⟨same, -⟩ := pairRows_eq row_eq
        · exact absurd parent (by decide)
        · exact same
    · exact absurd main (by decide)

/-- Union 5 attacks its own grid. -/
def ownAttack : Attack pairMap where
  gridCfgId := 11000000
  gridCfg := mainCfg
  attacker := ⟨8, 5⟩
  armyType := .union
  rows_eq := rfl
  not_begin := by decide
  belong := by decide
  main := rfl

def ownGrids (cfgId : ℤ) : Option MapGrid :=
  if cfgId = 11000000 then some (.grid (some ⟨9, 5, false⟩)) else none

/-- Union 5 may attack its own grid, which no other grid touches. -/
theorem not_exact_own :
    ¬∀ (map : MapCfg) (grids : ℤ → Option MapGrid) (attack : Attack map),
      attack.attacker.unionId ≠ 0 → Exact grids attack := by
  intro exact_all
  have allowed : canBattle pairMap ownGrids 11000000 ⟨8, 5⟩ false true .union = .ok () := by
    decide +kernel
  obtain ⟨cellId, cell, otherId, other, -, other_eq, -, outside, -⟩ :=
    (exact_all pairMap ownGrids ownAttack (by decide)).1.mp allowed
  refine outside ⟨other_eq, ?_⟩
  obtain ⟨rfl, -⟩ | ⟨-, rfl⟩ := pairRows_eq other_eq
  · exact .inl rfl
  · exact .inr rfl

end BasWar.Starmap.Adjacency
