import Mathlib.Algebra.BigOperators.Group.List.Basic
import Mathlib.Data.List.Nodup
import Mathlib.Tactic.Abel

/-!
# Tables of objects that carry their key

A keyed table lists objects with different keys.  Writing an object replaces the one that has its
key; a sum over the table changes by what the written object contributes.
-/

namespace Tables

universe u v w

/-- Objects with different keys, in the order of the table. -/
structure Keyed {Object : Type u} {Key : Type v} (key : Object → Key) where
  objects : List Object
  nodup : (objects.map key).Nodup

namespace Keyed

variable {Object : Type u} {Key : Type v} {key : Object → Key} {table : Keyed key}
  {first second object other : Object}

theorem eq_of_key_eq (first_mem : first ∈ table.objects) (second_mem : second ∈ table.objects)
    (same : key first = key second) : first = second :=
  List.inj_on_of_nodup_map table.nodup first_mem second_mem same

theorem ext {first second : Keyed key} (objects : first.objects = second.objects) :
    first = second := by
  obtain ⟨objects, nodup⟩ := first
  cases objects
  rfl

variable [DecidableEq Key]

/-- The object that has a key. -/
def get (table : Keyed key) (name : Key) : Option Object :=
  table.objects.find? fun object => key object = name

/-- Replace the object that has the key of this one. -/
def put (table : Keyed key) (object : Object) : Keyed key where
  objects := table.objects.map fun other => if key other = key object then object else other
  nodup := by
    have keys_eq : (table.objects.map fun other =>
        if key other = key object then object else other).map key = table.objects.map key := by
      rw [List.map_map]
      refine List.map_congr_left fun other _ => ?_
      simp only [Function.comp_apply]
      split
      next same => exact same.symm
      · rfl
    rw [keys_eq]
    exact table.nodup

variable {name : Key}

theorem get_mem (found : table.get name = some object) :
    object ∈ table.objects ∧ key object = name :=
  ⟨List.mem_of_find?_eq_some found, by simpa using List.find?_some found⟩

theorem get_of_mem (mem : object ∈ table.objects) : table.get (key object) = some object := by
  cases found : table.get (key object) with
  | none => exact absurd (List.find?_eq_none.mp found object mem) (by simp)
  | some other =>
      obtain ⟨other_mem, same⟩ := get_mem found
      rw [eq_of_key_eq other_mem mem same]

theorem objects_eq (table : Keyed key) :
    table.objects = (table.objects.map key).filterMap table.get := by
  rw [List.filterMap_map]
  conv_lhs => rw [← List.filterMap_some (l := table.objects)]
  exact List.filterMap_congr fun _ mem => (get_of_mem mem).symm

theorem ext_get {first second : Keyed key}
    (keys : first.objects.map key = second.objects.map key)
    (same : ∀ name, first.get name = second.get name) : first = second := by
  refine ext ?_
  rw [objects_eq first, objects_eq second, keys, funext same]

theorem mem_put (mem : other ∈ (table.put object).objects) :
    other = object ∨ other ∈ table.objects ∧ key other ≠ key object := by
  obtain ⟨old, old_mem, rfl⟩ := List.mem_map.mp mem
  split
  · exact .inl rfl
  next different => exact .inr ⟨old_mem, different⟩

theorem put_mem (mem : other ∈ table.objects) (same : key other = key object) :
    object ∈ (table.put object).objects :=
  List.mem_map.mpr ⟨other, mem, if_pos same⟩

theorem mem_put_of_ne (mem : other ∈ table.objects) (different : key other ≠ key object) :
    other ∈ (table.put object).objects :=
  List.mem_map.mpr ⟨other, mem, if_neg different⟩

theorem put_put (same : key first = key second) :
    (table.put first).put second = table.put second := by
  simp only [put, mk.injEq, List.map_map]
  refine List.map_congr_left fun other _ => ?_
  by_cases is_first : key other = key first
  · simp [is_first, same]
  · simp [is_first]

theorem put_comm (different : key first ≠ key second) :
    (table.put first).put second = (table.put second).put first := by
  simp only [put, mk.injEq, List.map_map]
  refine List.map_congr_left fun other _ => ?_
  by_cases is_first : key other = key first
  · simp [is_first, different]
  · by_cases is_second : key other = key second
    · simp [is_second, different.symm]
    · simp [is_first, is_second]

theorem put_self (found : table.get (key object) = some object) : table.put object = table := by
  obtain ⟨object_mem, -⟩ := get_mem found
  refine ext ((List.map_congr_left fun other other_mem => ?_).trans (List.map_id _))
  by_cases same : key other = key object
  · rw [if_pos same, eq_of_key_eq other_mem object_mem same]
    rfl
  · rw [if_neg same]
    rfl

theorem get_put_self (found : table.get (key object) = some other) :
    (table.put object).get (key object) = some object := by
  obtain ⟨other_mem, same⟩ := get_mem found
  exact get_of_mem (put_mem other_mem same)

theorem get_put_of_ne (different : name ≠ key object) :
    (table.put object).get name = table.get name := by
  cases found : table.get name with
  | none =>
      have absent := List.find?_eq_none.mp found
      refine List.find?_eq_none.mpr fun other other_mem => ?_
      rcases mem_put other_mem with rfl | ⟨old, _⟩
      · simpa using different.symm
      · exact absent other old
  | some other =>
      obtain ⟨other_mem, rfl⟩ := get_mem found
      exact get_of_mem (mem_put_of_ne other_mem different)

theorem isSome_get_put (name : Key) :
    ((table.put object).get name).isSome = (table.get name).isSome := by
  by_cases same : name = key object
  · subst same
    cases found : table.get (key object) with
    | none =>
        have absent := List.find?_eq_none.mp found
        rw [Option.isSome_none, Option.isSome_eq_false_iff, Option.isNone_iff_eq_none]
        refine List.find?_eq_none.mpr fun other other_mem => ?_
        obtain ⟨old, old_mem, rfl⟩ := List.mem_map.mp other_mem
        have different := absent old old_mem
        rw [decide_eq_true_eq] at different ⊢
        rwa [if_neg different]
    | some other => rw [get_put_self found]; rfl
  · rw [get_put_of_ne same]

/-- Change every object, without its key. -/
def map (table : Keyed key) (change : Object → Object)
    (same : ∀ object, key (change object) = key object) : Keyed key where
  objects := table.objects.map change
  nodup := by
    rw [List.map_map, show key ∘ change = key from funext same]
    exact table.nodup

theorem get_map (change : Object → Object) (same : ∀ object, key (change object) = key object)
    (name : Key) : (table.map change same).get name = (table.get name).map change := by
  simp only [get, map, List.find?_map]
  congr 2
  funext object
  simp [same object]

/-- Append an object unless the table has its key. -/
def add (table : Keyed key) (object : Object) : Keyed key :=
  if absent : table.get (key object) = none then
    { objects := table.objects ++ [object]
      nodup := by
        rw [List.map_append, List.nodup_append]
        refine ⟨table.nodup, List.nodup_singleton _, ?_⟩
        simp only [List.map_singleton, List.mem_singleton]
        rintro name name_mem _ rfl same
        obtain ⟨other, other_mem, rfl⟩ := List.mem_map.mp name_mem
        simpa [same] using List.find?_eq_none.mp absent other other_mem }
  else
    table

theorem mem_add (mem : other ∈ (table.add object).objects) :
    other = object ∨ other ∈ table.objects := by
  unfold add at mem
  split at mem
  · rcases List.mem_append.mp mem with old | added
    · exact .inr old
    · exact .inl (List.mem_singleton.mp added)
  · exact .inr mem

theorem get_add (name : Key) :
    (table.add object).get name =
      (table.get name).or (if name = key object then some object else none) := by
  unfold add
  split
  next absent =>
    simp only [get, List.find?_append]
    congr 1
    by_cases same : name = key object
    · simp [same]
    · simp [same, Ne.symm same]
  next present =>
    by_cases same : name = key object
    · subst same
      cases found : table.get (key object) with
      | none => exact absurd found present
      | some other => rfl
    · simp [same]

/-- Writing one object changes a sum over the table by what this object contributes. -/
theorem sum_put {Amount : Type w} [AddCommMonoid Amount] (amount : Object → Amount)
    (mem : other ∈ table.objects) (same : key other = key object) :
    ((table.put object).objects.map amount).sum + amount other =
      (table.objects.map amount).sum + amount object := by
  obtain ⟨left, right, objects_eq⟩ := List.append_of_mem mem
  have nodup : (left.map key ++ key other :: right.map key).Nodup := by
    simpa [objects_eq] using table.nodup
  rw [List.nodup_middle, List.nodup_cons] at nodup
  have unchanged {objects : List Object} (subset : ∀ old ∈ objects, old ∈ left ++ right) :
      (objects.map fun old => if key old = key object then object else old) = objects := by
    refine (List.map_congr_left fun old old_mem => if_neg fun is_object => ?_).trans
      (List.map_id objects)
    have old_key : key old ∈ left.map key ++ right.map key := by
      rw [← List.map_append]
      exact List.mem_map_of_mem (subset old old_mem)
    exact nodup.1 (same.trans is_object.symm ▸ old_key)
  have put_eq : (table.put object).objects = left ++ object :: right := by
    simp only [put, objects_eq, List.map_append, List.map_cons, if_pos same]
    rw [unchanged fun old old_mem => List.mem_append_left right old_mem,
      unchanged fun old old_mem => List.mem_append_right left old_mem]
  simp only [put_eq, objects_eq, List.map_append, List.map_cons, List.sum_append, List.sum_cons]
  abel

/-- Take out the object that has a key. -/
def erase (table : Keyed key) (name : Key) : Keyed key where
  objects := table.objects.filter fun object => key object ≠ name
  nodup := table.nodup.sublist (List.filter_sublist.map key)

theorem mem_erase :
    object ∈ (table.erase name).objects ↔ object ∈ table.objects ∧ key object ≠ name := by
  simp [erase]

/-- Replace the object that has the key of this one, or append this one. -/
def set (table : Keyed key) (object : Object) : Keyed key :=
  (table.add object).put object

theorem set_absent (absent : table.get (key object) = none) :
    (table.set object).objects = table.objects ++ [object] := by
  have added : (table.add object).objects = table.objects ++ [object] := by simp [add, absent]
  have object_mem : object ∈ (table.add object).objects := by simp [added]
  refine Eq.trans ?_ added
  refine (List.map_congr_left fun other other_mem => ?_).trans (List.map_id _)
  split
  next same => exact (eq_of_key_eq other_mem object_mem same).symm
  · rfl

theorem mem_set (mem : other ∈ (table.set object).objects) :
    other = object ∨ other ∈ table.objects := by
  rcases mem_put mem with same | ⟨old_mem, _⟩
  · exact .inl same
  · exact mem_add old_mem

/-- Rewrite all objects in the order of the table, without their keys. -/
def rewrite (table : Keyed key) (change : List Object → List Object)
    (same : ∀ objects, (change objects).map key = objects.map key) : Keyed key where
  objects := change table.objects
  nodup := same table.objects ▸ table.nodup

section Sums

variable {Amount : Type w} [AddCommMonoid Amount] (amount : Object → Amount)

theorem sum_add (absent : table.get (key object) = none) :
    ((table.add object).objects.map amount).sum =
      (table.objects.map amount).sum + amount object := by
  simp [add, absent]

/-- Taking an object out takes away what it contributes. -/
theorem sum_erase {name : Key} (found : table.get name = some object) :
    ((table.erase name).objects.map amount).sum + amount object =
      (table.objects.map amount).sum := by
  obtain ⟨object_mem, rfl⟩ := get_mem found
  have object_perm : table.objects.Perm (object :: (table.erase (key object)).objects) := by
    refine (List.perm_ext_iff_of_nodup table.nodup.of_map ?_).mpr fun other => ?_
    · exact List.nodup_cons.mpr ⟨by simp [erase], (table.erase (key object)).nodup.of_map⟩
    · rw [List.mem_cons, mem_erase]
      constructor
      · intro other_mem
        by_cases same : key other = key object
        · exact .inl (eq_of_key_eq other_mem object_mem same)
        · exact .inr ⟨other_mem, same⟩
      · rintro (rfl | ⟨other_mem, _⟩)
        · exact object_mem
        · exact other_mem
  rw [(object_perm.map amount).sum_eq, List.map_cons, List.sum_cons, add_comm]

/-- Writing an object adds what it contributes and takes away what the old one did. -/
theorem sum_set :
    ((table.set object).objects.map amount).sum +
        ((table.get (key object)).map amount).getD 0 =
      (table.objects.map amount).sum + amount object := by
  cases found : table.get (key object) with
  | none =>
      rw [set_absent found]
      simp
  | some other =>
      obtain ⟨other_mem, same⟩ := get_mem found
      have unchanged : table.add object = table := by simp [add, found]
      rw [set, unchanged]
      exact sum_put amount other_mem same

end Sums

end Keyed

end Tables
