import Mathlib.Data.Multiset.UnionInter
import Mathlib.Logic.Function.Basic

/-!
# Objects that are marked while something holds them

A table has objects, and holders hold some of them by their ids.  The two sides are linked if each
object is held at most once, what is held is in the table, and an object has its mark exactly while
it is held.
-/

namespace Tables

universe u v

variable {Id : Type u} {Object : Type v}

/-- Each object is held at most once, and marked exactly while it is. -/
structure Linked (marked : Object → Prop) (table : Id → Option Object) (held : Multiset Id) :
    Prop where
  once : held.Nodup
  present : ∀ id ∈ held, (table id).isSome
  marked_iff : ∀ id object, table id = some object → (marked object ↔ id ∈ held)

namespace Linked

variable {marked : Object → Prop} {table : Id → Option Object} {held rest : Multiset Id} {id : Id}

/-- Only objects that are not held change, and none of them gets the mark. -/
theorem elsewhere (linked : Linked marked table held) {after : Id → Option Object}
    (same : ∀ id ∈ held, after id = table id)
    (unmarked : ∀ id ∉ held, ∀ object, after id = some object → ¬ marked object) :
    Linked marked after held where
  once := linked.once
  present id id_mem := same id id_mem ▸ linked.present id id_mem
  marked_iff id object found := by
    by_cases id_mem : id ∈ held
    · exact linked.marked_iff id object (same id id_mem ▸ found)
    · exact iff_of_false (unmarked id id_mem object found) id_mem

variable {object : Object}

/-- An object that is not held has no mark. -/
theorem unmarked (linked : Linked marked table held) (absent : id ∉ held)
    (found : table id = some object) : ¬ marked object :=
  fun is_marked => absent ((linked.marked_iff id object found).mp is_marked)

variable [DecidableEq Id]

/-- An object that is not held is written without its mark, or taken out. -/
theorem outside (linked : Linked marked table held) (absent : id ∉ held) {value : Option Object}
    (unmarked : ∀ object, value = some object → ¬ marked object) :
    Linked marked (Function.update table id value) held := by
  refine linked.elsewhere (fun other other_mem => ?_) fun other other_absent object found => ?_
  · have different : other ≠ id := fun same => absent (same ▸ other_mem)
    rw [Function.update_of_ne different]
  · by_cases same : other = id
    · subst same
      rw [Function.update_self] at found
      exact unmarked object found
    · rw [Function.update_of_ne same] at found
      exact linked.unmarked other_absent found

/-- A held object is written with its mark. -/
theorem inside (linked : Linked marked table held) (held_mem : id ∈ held)
    (is_marked : marked object) :
    Linked marked (Function.update table id (some object)) held where
  once := linked.once
  present other other_mem := by
    by_cases same : other = id
    · simp [same]
    · rw [Function.update_of_ne same]
      exact linked.present other other_mem
  marked_iff other found_object found := by
    by_cases same : other = id
    · subst same
      rw [Function.update_self] at found
      exact iff_of_true (Option.some.inj found ▸ is_marked) held_mem
    · rw [Function.update_of_ne same] at found
      exact linked.marked_iff other found_object found

/-- A held object is let go and loses its mark. -/
theorem leave (linked : Linked marked table (rest + {id})) {value : Option Object}
    (unmarked : ∀ object, value = some object → ¬ marked object) :
    Linked marked (Function.update table id value) rest := by
  have absent : id ∉ rest := by
    have once := linked.once
    rw [Multiset.add_comm, Multiset.singleton_add, Multiset.nodup_cons] at once
    exact once.1
  refine ⟨Multiset.nodup_of_le (Multiset.le_add_right rest {id}) linked.once, ?_, ?_⟩
  · intro other other_mem
    have different : other ≠ id := fun same => absent (same ▸ other_mem)
    rw [Function.update_of_ne different]
    exact linked.present other (Multiset.mem_add.mpr (.inl other_mem))
  · intro other object found
    by_cases same : other = id
    · subst same
      rw [Function.update_self] at found
      exact iff_of_false (unmarked object found) absent
    · rw [Function.update_of_ne same] at found
      rw [linked.marked_iff other object found, Multiset.mem_add, Multiset.mem_singleton,
        or_iff_left same]

theorem enter (linked : Linked marked table rest) (absent : id ∉ rest) (is_marked : marked object) :
    Linked marked (Function.update table id (some object)) (rest + {id}) := by
  refine ⟨?_, ?_, ?_⟩
  · rw [Multiset.add_comm, Multiset.singleton_add, Multiset.nodup_cons]
    exact ⟨absent, linked.once⟩
  · intro other other_mem
    by_cases same : other = id
    · simp [same]
    · rw [Function.update_of_ne same]
      rw [Multiset.mem_add, Multiset.mem_singleton, or_iff_left same] at other_mem
      exact linked.present other other_mem
  · intro other found_object found
    by_cases same : other = id
    · subst same
      rw [Function.update_self] at found
      exact iff_of_true (Option.some.inj found ▸ is_marked) (by simp)
    · rw [Function.update_of_ne same] at found
      rw [linked.marked_iff other found_object found, Multiset.mem_add, Multiset.mem_singleton,
        or_iff_left same]

end Linked

end Tables
