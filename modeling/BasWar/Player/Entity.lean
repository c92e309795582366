import Mathlib.Data.Int.Notation
import Mathlib.Data.List.Basic
import Mathlib.Logic.Function.Basic

/-!
# Warships, heroes and buildings of a player

An entity made from an NFT has a positive `chain` and the token id of the NFT as its id.  Its
reference says what keeps it busy.
-/

namespace BasWar

/-- What an entity is referred to by: the constants `REF_NONE` to `REF_ARMY`. -/
inductive Ref
  | none
  | union
  | grid
  | levelUp
  | skillUp
  | launch
  | battle
  | mint
  | army
  deriving DecidableEq

/-- Kind of an NFT: `CHAIN_BRIDGE_NFT_KIND_SPACESHIP` to `CHAIN_BRIDGE_NFT_KIND_ITEM_ARTIFACT`. -/
inductive NFTKind
  | spaceship
  | hero
  | defensive
  | itemNft
  | itemArtifact
  /-- A number that names no kind. -/
  | other
  deriving DecidableEq

/-- Bags that hold warships, heroes and buildings. -/
inductive EntityBag
  | warShipBag
  | heroBag
  | buildBag
  deriving DecidableEq

/-- The bag that entities of a kind are kept in. -/
def NFTKind.bag? : NFTKind → Option EntityBag
  | .spaceship => some .warShipBag
  | .hero => some .heroBag
  | .defensive => some .buildBag
  | _ => none

/-- The table `CHAIN_BRIDGE_ITEM_NFT`. -/
def NFTKind.isItem : NFTKind → Bool
  | .itemNft => true
  | .itemArtifact => true
  | _ => false

structure Entity where
  id : ℕ
  cfgId : ℕ
  chain : ℤ
  life : ℤ
  curLife : ℤ
  ref : Ref
  /-- `isUpgrade`: a level or a skill is being raised. -/
  upgrading : Bool

/-- A table of entities keyed by their id: a new entity replaces the one with its id. -/
def putEntity (entity : Entity) (bag : List Entity) : List Entity :=
  entity :: bag.filter (·.id ≠ entity.id)

def getEntity (id : ℕ) (bag : List Entity) : Option Entity :=
  bag.find? (·.id = id)

def entityIds (bag : List Entity) : List ℕ :=
  bag.map Entity.id

@[simp]
theorem mem_entityIds_putEntity (entity : Entity) (bag : List Entity) (id : ℕ) :
    id ∈ entityIds (putEntity entity bag) ↔ id = entity.id ∨ id ∈ entityIds bag := by
  simp only [entityIds, putEntity, List.map_cons, List.mem_cons, List.mem_map, List.mem_filter]
  constructor
  · rintro (same | ⟨old, ⟨old_mem, -⟩, rfl⟩)
    · exact .inl same
    · exact .inr ⟨old, old_mem, rfl⟩
  · rintro (same | ⟨old, old_mem, rfl⟩)
    · exact .inl same
    · by_cases same : old.id = entity.id
      · exact .inl same
      · exact .inr ⟨old, ⟨old_mem, by simpa using same⟩, rfl⟩

theorem getEntity_eq_some {id : ℕ} {bag : List Entity} {entity : Entity}
    (found : getEntity id bag = some entity) : entity ∈ bag ∧ entity.id = id :=
  ⟨List.mem_of_find?_eq_some found, by simpa using List.find?_some found⟩

end BasWar
