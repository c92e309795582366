import BasWar.Tables.Documents

/-!
# Lists that are mirrored by a table

A list of names says in which order the entries of a table have come.  The two agree when the keys
of the table are the names of the list, and stay in step as long as names are added and taken out on
both sides.
-/

namespace Tables

universe u v w

variable {Name : Type u} {Object : Type v} {Key : Type w} {key : Object → Key}
  {keyOf : Name → Key} {names : List Name} {table : Keyed key} [DecidableEq Key]

/-- The keys of the table are those of the names in the list. -/
def Mirrored (keyOf : Name → Key) (names : List Name) (table : Keyed key) : Prop :=
  ∀ name, (table.get name).isSome ↔ name ∈ names.map keyOf

theorem Keyed.isSome_get_iff {name : Key} :
    (table.get name).isSome ↔ name ∈ table.objects.map key := by
  rw [Option.isSome_iff_ne_none, ne_eq, Keyed.get_none_iff, not_not]

theorem Keyed.isSome_get_erase {name other : Key} :
    ((table.erase name).get other).isSome ↔ (table.get other).isSome ∧ other ≠ name := by
  simp only [Keyed.isSome_get_iff, List.mem_map, Keyed.mem_erase]
  constructor
  · rintro ⟨object, ⟨object_mem, ne⟩, rfl⟩
    exact ⟨⟨object, object_mem, rfl⟩, ne⟩
  · rintro ⟨⟨object, object_mem, rfl⟩, ne⟩
    exact ⟨object, ⟨object_mem, ne⟩, rfl⟩

namespace Mirrored

theorem empty (keyOf : Name → Key) : Mirrored keyOf [] (.empty : Keyed key) :=
  fun name => by simp [Keyed.isSome_get_iff, Keyed.empty]

theorem set (mirrored : Mirrored keyOf names table) {name : Name} {object : Object}
    (named : key object = keyOf name) :
    Mirrored keyOf (names ++ [name]) (table.set object) := by
  intro other
  rw [Keyed.get_set, List.map_append, List.mem_append, ← mirrored other, named]
  by_cases same : other = keyOf name
  · simp [same]
  · simp [same]

theorem erase {name : Name} (mirrored : Mirrored keyOf (name :: names) table)
    (new : keyOf name ∉ names.map keyOf) : Mirrored keyOf names (table.erase (keyOf name)) := by
  intro other
  rw [Keyed.isSome_get_erase, mirrored other, List.map_cons, List.mem_cons]
  constructor
  · rintro ⟨same | listed, ne⟩
    · exact absurd same ne
    · exact listed
  · intro listed
    exact ⟨.inr listed, fun same => new (same ▸ listed)⟩

end Mirrored

end Tables
