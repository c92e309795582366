import BasWar.Starmap.OwnerChanges

/-!
# The indexes of the star map

The star map finds the grids of a player and of a union by two indexes.  Both are kept by hand, and
only `changeOwner` keeps them, in two parts: the old owner leaves the indexes before the new one
enters them.
-/

namespace BasWar.Starmap.Owners

open Cooperative

/-- The indexes say who owns each grid. -/
structure OwnerIndex (map : StarMap) : Prop where
  players : ∀ cfgId pid, pid ≠ 0 →
    (cfgId ∈ map.playerGridIds pid ↔
      ∃ grid, map.grids cfgId = some grid ∧ grid.owner.playerId = pid)
  unions : ∀ cfgId unionId, unionId ≠ 0 →
    (cfgId ∈ map.unionGridIds unionId ↔
      ∃ grid, map.grids cfgId = some grid ∧ grid.owner.unionId = unionId ∧
        grid.owner.isPrivate = false)

/-- A grid without a player belongs to no union. -/
def Owner.Whole (owner : Owner) : Prop :=
  owner.playerId = 0 → owner.unionId = 0 ∨ owner.isPrivate = true
  deriving Decidable

/-- The documents of grids without a player name no union. -/
def Docs.Whole (docs : Docs) : Prop :=
  ∀ doc ∈ docs.docs, Owner.Whole doc.owner
  deriving Decidable

/-- The handler waits in `changeOwner` while the grid still has its old owner. -/
def Task.losesOwner (task : Task) : Bool :=
  match task.call with
  | .getPlayerNodeByPid _ (.setOwner _ _) => true
  | _ => false

/-- `changeOwner` does not wait for the node of the old owner. -/
def atOnce (settings : MapSettings) : Guard StarMap Request Task Reply where
  onRequest request map _ := ∀ task ∈ (map.accept settings request).2, !task.losesOwner
  onReply task reply map _ := ∀ next ∈ (map.resume settings task reply).2, !next.losesOwner

instance (settings : MapSettings) (request map others) :
    Decidable ((atOnce settings).onRequest request map others) :=
  inferInstanceAs (Decidable (∀ task ∈ (map.accept settings request).2, !task.losesOwner))

instance (settings : MapSettings) (task reply map others) :
    Decidable ((atOnce settings).onReply task reply map others) :=
  inferInstanceAs
    (Decidable (∀ next ∈ (map.resume settings task reply).2, !next.losesOwner))

/-- The indexes agree with the owners, and every owner is whole. -/
structure Indexed (map : StarMap) : Prop where
  index : OwnerIndex map
  whole : ∀ cfgId grid, map.grids cfgId = some grid → Owner.Whole grid.owner

/-- The same grids have the same owners, and the indexes are the same. -/
structure SameOwners (map mid : StarMap) : Prop where
  owners : ∀ cfgId, (mid.grids cfgId).map (·.owner) = (map.grids cfgId).map (·.owner)
  players : mid.playerGridIds = map.playerGridIds
  unions : mid.unionGridIds = map.unionGridIds

namespace SameOwners

variable {map mid last : StarMap}

theorem grid_before (same : SameOwners map mid) {cfgId : ℕ} {grid : Grid}
    (found : mid.grids cfgId = some grid) :
    ∃ old, map.grids cfgId = some old ∧ old.owner = grid.owner := by
  have owner_eq := same.owners cfgId
  rw [found] at owner_eq
  exact Option.map_eq_some_iff.mp owner_eq.symm

theorem symm (same : SameOwners map mid) : SameOwners mid map :=
  ⟨fun cfgId => (same.owners cfgId).symm, same.players.symm, same.unions.symm⟩

theorem modifyGrid (map : StarMap) (cfgId : ℕ) {change : Grid → Grid}
    (owner : ∀ grid, (change grid).owner = grid.owner) :
    SameOwners map (map.modifyGrid cfgId change) where
  owners id := by
    simp only [StarMap.modifyGrid]
    split
    · cases map.grids id <;> simp [owner]
    · rfl
  players := rfl
  unions := rfl

theorem setGrid {cfgId : ℕ} {old new : Grid} (found : map.grids cfgId = some old)
    (owner : new.owner = old.owner) : SameOwners map (map.setGrid cfgId new) where
  owners id := by
    by_cases here : id = cfgId
    · simp [StarMap.setGrid, here, found, owner]
    · simp [StarMap.setGrid, here]
  players := rfl
  unions := rfl

theorem exists_iff (same : SameOwners map mid) (cfgId : ℕ) (holds : Owner → Prop) :
    (∃ grid, mid.grids cfgId = some grid ∧ holds grid.owner) ↔
      ∃ grid, map.grids cfgId = some grid ∧ holds grid.owner := by
  constructor
  · rintro ⟨grid, found, owned⟩
    obtain ⟨old, start, owner_eq⟩ := same.grid_before found
    exact ⟨old, start, owner_eq ▸ owned⟩
  · rintro ⟨grid, found, owned⟩
    obtain ⟨new, later, owner_eq⟩ := same.symm.grid_before found
    exact ⟨new, later, owner_eq ▸ owned⟩

theorem holdsPrivate (same : SameOwners map mid) (cfgId : ℕ) :
    mid.holdsPrivate cfgId = map.holdsPrivate cfgId := by
  have owner_eq := congrArg (Option.map Owner.ownsPrivately) (same.owners cfgId)
  unfold StarMap.holdsPrivate isPrivate
  cases found : mid.grids cfgId <;> cases start : map.grids cfgId <;> simp_all

end SameOwners

theorem Indexed.same {map mid : StarMap} (indexed : Indexed map) (same : SameOwners map mid) :
    Indexed mid where
  index :=
    { players := fun cfgId pid named => by
        rw [same.players, same.exists_iff cfgId fun owner => owner.playerId = pid]
        exact indexed.index.players cfgId pid named
      unions := fun cfgId unionId named => by
        rw [same.unions, same.exists_iff cfgId fun owner =>
          owner.unionId = unionId ∧ owner.isPrivate = false]
        exact indexed.index.unions cfgId unionId named }
  whole cfgId grid found := by
    obtain ⟨old, start, owner_eq⟩ := same.grid_before found
    exact owner_eq ▸ indexed.whole cfgId old start

section Caches

variable (owner : Owner) (cfgId : ℕ) (map : StarMap)

@[simp]
theorem addGridOwnerCache_players (pid : ℕ) :
    (map.addGridOwnerCache owner cfgId).playerGridIds pid =
      if pid = owner.playerId then insert cfgId (map.playerGridIds pid)
      else map.playerGridIds pid := by
  by_cases free : owner.unionId = 0 <;> cases shared : owner.isPrivate <;>
    simp [StarMap.addGridOwnerCache, free, shared, StarMap.addPlayerGridId,
      StarMap.addUnionGridId]

@[simp]
theorem addGridOwnerCache_unions (unionId : ℕ) :
    (map.addGridOwnerCache owner cfgId).unionGridIds unionId =
      if unionId = owner.unionId ∧ owner.unionId ≠ 0 ∧ !owner.isPrivate then
        insert cfgId (map.unionGridIds unionId)
      else map.unionGridIds unionId := by
  by_cases free : owner.unionId = 0 <;> cases shared : owner.isPrivate <;>
    simp [StarMap.addGridOwnerCache, free, shared, StarMap.addPlayerGridId,
      StarMap.addUnionGridId]

@[simp]
theorem addGridOwnerCache_grids : (map.addGridOwnerCache owner cfgId).grids = map.grids := by
  by_cases free : owner.unionId = 0 <;> cases shared : owner.isPrivate <;>
    simp [StarMap.addGridOwnerCache, free, shared, StarMap.addPlayerGridId,
      StarMap.addUnionGridId]

@[simp]
theorem delGridOwnerCache_players (pid : ℕ) :
    (map.delGridOwnerCache owner cfgId).playerGridIds pid =
      if pid = owner.playerId then (map.playerGridIds pid).erase cfgId
      else map.playerGridIds pid := by
  by_cases free : owner.unionId = 0 <;> cases shared : owner.isPrivate <;>
    simp [StarMap.delGridOwnerCache, free, shared, StarMap.delPlayerGridId,
      StarMap.delUnionGridId]

@[simp]
theorem delGridOwnerCache_unions (unionId : ℕ) :
    (map.delGridOwnerCache owner cfgId).unionGridIds unionId =
      if unionId = owner.unionId ∧ owner.unionId ≠ 0 ∧ !owner.isPrivate then
        (map.unionGridIds unionId).erase cfgId
      else map.unionGridIds unionId := by
  by_cases free : owner.unionId = 0 <;> cases shared : owner.isPrivate <;>
    simp [StarMap.delGridOwnerCache, free, shared, StarMap.delPlayerGridId,
      StarMap.delUnionGridId]

@[simp]
theorem delGridOwnerCache_grids : (map.delGridOwnerCache owner cfgId).grids = map.grids := by
  by_cases free : owner.unionId = 0 <;> cases shared : owner.isPrivate <;>
    simp [StarMap.delGridOwnerCache, free, shared, StarMap.delPlayerGridId,
      StarMap.delUnionGridId]

@[simp]
theorem dropOwner_grids : (map.dropOwner cfgId).grids = map.grids := by
  unfold StarMap.dropOwner
  split
  · rfl
  · split <;> simp

end Caches

section Change

variable {map : StarMap} {cfgId : ℕ} {grid : Grid}

section

variable (indexed : Indexed map) (found : map.grids cfgId = some grid)
include indexed found

theorem mem_dropOwner_players {pid : ℕ} (named : pid ≠ 0) (id : ℕ) :
    id ∈ (map.dropOwner cfgId).playerGridIds pid ↔
      id ≠ cfgId ∧ id ∈ map.playerGridIds pid := by
  have owns : cfgId ∈ map.playerGridIds pid ↔ grid.owner.playerId = pid := by
    rw [indexed.index.players cfgId pid named]
    simp [found]
  have dropped : (map.dropOwner cfgId).playerGridIds pid =
      if pid = grid.owner.playerId then (map.playerGridIds pid).erase cfgId
      else map.playerGridIds pid := by
    by_cases owned : grid.owner.playerId = 0 <;> simp [StarMap.dropOwner, found, owned, named]
  rw [dropped]
  split
  · exact Finset.mem_erase
  · rename_i other
    refine ⟨fun mem => ⟨?_, mem⟩, And.right⟩
    rintro rfl
    exact other (owns.mp mem).symm

theorem mem_dropOwner_unions {unionId : ℕ} (named : unionId ≠ 0) (id : ℕ) :
    id ∈ (map.dropOwner cfgId).unionGridIds unionId ↔
      id ≠ cfgId ∧ id ∈ map.unionGridIds unionId := by
  have owns : cfgId ∈ map.unionGridIds unionId ↔
      grid.owner.unionId = unionId ∧ grid.owner.isPrivate = false := by
    rw [indexed.index.unions cfgId unionId named]
    simp [found]
  have dropped : (map.dropOwner cfgId).unionGridIds unionId =
      if grid.owner.playerId ≠ 0 ∧ unionId = grid.owner.unionId ∧ grid.owner.unionId ≠ 0 ∧
          !grid.owner.isPrivate then (map.unionGridIds unionId).erase cfgId
      else map.unionGridIds unionId := by
    by_cases owned : grid.owner.playerId = 0 <;> simp [StarMap.dropOwner, found, owned]
  rw [dropped]
  split
  · exact Finset.mem_erase
  · rename_i other
    refine ⟨fun mem => ⟨?_, mem⟩, And.right⟩
    rintro rfl
    obtain ⟨union_eq, shared⟩ := owns.mp mem
    refine other ⟨fun nobody => ?_, union_eq.symm, union_eq ▸ named, by simp [shared]⟩
    rcases indexed.whole id grid found nobody with none | private_owner
    · exact named (union_eq ▸ none)
    · simp [shared] at private_owner

theorem mem_changed_players (newOwner : Option NewOwner) {pid : ℕ} (named : pid ≠ 0) (id : ℕ) :
    id ∈ ((map.dropOwner cfgId).takeOwner cfgId newOwner).playerGridIds pid ↔
      (id ≠ cfgId ∧ id ∈ map.playerGridIds pid) ∨
        (id = cfgId ∧ ∃ player, newOwner = some player ∧ player.player.playerId = pid) := by
  have dropped := mem_dropOwner_players indexed found named id
  cases newOwner with
  | none =>
      simp only [StarMap.takeOwner, reduceCtorEq, false_and, exists_false, and_false, or_false]
      exact dropped
  | some player =>
      have taken : ((map.dropOwner cfgId).takeOwner cfgId (some player)).playerGridIds pid =
          if pid = player.player.playerId then
            insert cfgId ((map.dropOwner cfgId).playerGridIds pid)
          else (map.dropOwner cfgId).playerGridIds pid :=
        addGridOwnerCache_players player.owner cfgId _ pid
      rw [taken]
      by_cases mine : pid = player.player.playerId
      · subst mine
        simp [dropped, or_comm]
      · simp [mine, dropped, Ne.symm mine]

theorem mem_changed_unions (newOwner : Option NewOwner) {unionId : ℕ} (named : unionId ≠ 0)
    (id : ℕ) :
    id ∈ ((map.dropOwner cfgId).takeOwner cfgId newOwner).unionGridIds unionId ↔
      (id ≠ cfgId ∧ id ∈ map.unionGridIds unionId) ∨
        (id = cfgId ∧ ∃ player, newOwner = some player ∧ player.player.unionId = unionId ∧
          player.isPrivate = false) := by
  have dropped := mem_dropOwner_unions indexed found named id
  cases newOwner with
  | none =>
      simp only [StarMap.takeOwner, reduceCtorEq, false_and, exists_false, and_false, or_false]
      exact dropped
  | some player =>
      have taken : ((map.dropOwner cfgId).takeOwner cfgId (some player)).unionGridIds unionId =
          if unionId = player.player.unionId ∧ player.player.unionId ≠ 0 ∧ !player.isPrivate then
            insert cfgId ((map.dropOwner cfgId).unionGridIds unionId)
          else (map.dropOwner cfgId).unionGridIds unionId :=
        addGridOwnerCache_unions player.owner cfgId _ unionId
      rw [taken]
      by_cases mine : unionId = player.player.unionId
      · subst mine
        cases shared : player.isPrivate <;> simp [dropped, named, shared, or_comm]
      · simp [mine, dropped, Ne.symm mine]

end

theorem changed_grids (newOwner : Option NewOwner) (id : ℕ) :
    ((map.dropOwner cfgId).takeOwner cfgId newOwner).grids id =
      if id = cfgId then
        (map.grids id).map ({ · with owner := (newOwner.map (·.owner)).getD initOwner })
      else map.grids id := by
  cases newOwner with
  | none => simp [StarMap.takeOwner, StarMap.modifyGrid]
  | some player => simp [StarMap.takeOwner, StarMap.modifyGrid]

theorem Indexed.change (indexed : Indexed map) (found : map.grids cfgId = some grid)
    (newOwner : Option NewOwner) :
    Indexed ((map.dropOwner cfgId).takeOwner cfgId newOwner) where
  index :=
    { players := fun id pid named => by
        rw [mem_changed_players indexed found newOwner named, changed_grids,
          indexed.index.players id pid named]
        by_cases here : id = cfgId
        · subst here
          cases newOwner <;> simp [found, initOwner, NewOwner.owner, Ne.symm named]
        · simp [here]
      unions := fun id unionId named => by
        rw [mem_changed_unions indexed found newOwner named, changed_grids,
          indexed.index.unions id unionId named]
        by_cases here : id = cfgId
        · subst here
          cases newOwner <;> simp [found, initOwner, NewOwner.owner, Ne.symm named]
        · simp [here] }
  whole id other later := by
    rw [changed_grids] at later
    by_cases here : id = cfgId
    · subst here
      simp only [↓reduceIte, found, Option.map_some, Option.some.injEq] at later
      subst later
      cases newOwner with
      | none => exact fun _ => .inl rfl
      | some player => exact fun nobody => absurd nobody player.player.playerId_ne
    · simp only [here, ↓reduceIte] at later
      exact indexed.whole id other later

end Change

end BasWar.Starmap.Owners
