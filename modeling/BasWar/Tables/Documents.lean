import BasWar.Tables.Keyed
import Mathlib.Data.List.Induction
import Std.Data.String.ToNat

/-!
# Tables in documents

A document keeps a keyed table as the list of its objects, or with its keys spelled out as strings.
Writing the objects back one after the other gives the table again.
-/

namespace Tables

universe u v

namespace Keyed

variable {Object : Type u} {Key : Type v} {key : Object → Key} {table : Keyed key}
  {object : Object} [DecidableEq Key]

def empty : Keyed key :=
  ⟨[], List.nodup_nil⟩

/-- Write objects into an empty table, one after the other. -/
def ofList (objects : List Object) : Keyed key :=
  objects.foldl set empty

theorem get_set (name : Key) :
    (table.set object).get name = if name = key object then some object else table.get name := by
  split
  next same =>
    subst same
    have added : (table.add object).get (key object) =
        (table.get (key object)).or (some object) := by
      rw [get_add, if_pos rfl]
    cases found : table.get (key object) with
    | none => exact get_put_self (found ▸ added)
    | some other => exact get_put_self (found ▸ added)
  next different =>
    rw [set, get_put_of_ne different, get_add, if_neg different, Option.or_none]

theorem get_none_iff {name : Key} :
    table.get name = none ↔ name ∉ table.objects.map key := by
  simp [get, List.find?_eq_none]

theorem foldl_set (objects : List Object)
    (nodup : ((table.objects ++ objects).map key).Nodup) :
    (objects.foldl set table).objects = table.objects ++ objects := by
  induction objects generalizing table with
  | nil => simp
  | cons object objects ih =>
      have absent : table.get (key object) = none := by
        rw [get_none_iff]
        rw [List.map_append, List.map_cons, List.nodup_append] at nodup
        exact fun key_mem => nodup.2.2 _ key_mem _ List.mem_cons_self rfl
      have appended := set_absent absent
      rw [List.foldl_cons, ih (by rw [appended]; simpa using nodup), appended]
      simp

theorem ofList_objects (table : Keyed key) : ofList table.objects = table :=
  ext (foldl_set table.objects (by simpa [empty] using table.nodup))

end Keyed

/-- A table of values. -/
abbrev Dict (Key : Type u) (Value : Type v) :=
  Keyed (Prod.fst : Key × Value → Key)

namespace Dict

variable {Key : Type u} {Value : Type v} [DecidableEq Key]

def lookup (table : Dict Key Value) (name : Key) : Option Value :=
  (table.get name).map Prod.snd

def assign (name : Key) (value : Value) (table : Dict Key Value) : Dict Key Value :=
  table.set (name, value)

def keys (table : Dict Key Value) : List Key :=
  table.objects.map Prod.fst

theorem lookup_assign (table : Dict Key Value) (name other : Key) (value : Value) :
    (table.assign name value).lookup other =
      if other = name then some value else table.lookup other := by
  rw [lookup, lookup, assign, Keyed.get_set]
  split <;> rfl

theorem mem_of_lookup {table : Dict Key Value} {name : Key} {value : Value}
    (found : table.lookup name = some value) : (name, value) ∈ table.objects := by
  obtain ⟨⟨_, _⟩, entry_get, rfl⟩ := Option.map_eq_some_iff.mp found
  obtain ⟨entry_mem, rfl⟩ := Keyed.get_mem entry_get
  exact entry_mem

theorem lookup_of_mem {table : Dict Key Value} {entry : Key × Value}
    (mem : entry ∈ table.objects) : table.lookup entry.1 = some entry.2 := by
  rw [lookup, Keyed.get_of_mem mem, Option.map_some]

/-- Assign the values of entries to their keys, one after the other. -/
def ofEntries {Entry : Type*} (key : Entry → Key) (value : Entry → Value) (entries : List Entry) :
    Dict Key Value :=
  entries.foldl (fun table entry => table.assign (key entry) (value entry)) Keyed.empty

theorem lookup_ofEntries {Entry : Type*} (key : Entry → Key) (value : Entry → Value)
    (entries : List Entry) (name : Key) :
    (ofEntries key value entries).lookup name =
      ((entries.filter fun entry => key entry = name).getLast?).map value := by
  induction entries using List.reverseRecOn with
  | nil => rfl
  | append_singleton entries entry ih =>
      rw [ofEntries, List.foldl_append, List.foldl_cons, List.foldl_nil, ← ofEntries,
        lookup_assign, ih, List.filter_append]
      by_cases same : name = key entry
      · simp [same]
      · simp [same, Ne.symm same]

theorem mem_keys_iff {table : Dict Key Value} {name : Key} :
    name ∈ table.keys ↔ (table.lookup name).isSome = true := by
  constructor
  · intro name_mem
    obtain ⟨entry, entry_mem, rfl⟩ := List.mem_map.mp name_mem
    rw [lookup_of_mem entry_mem]
    rfl
  · intro found
    obtain ⟨value, value_eq⟩ := Option.isSome_iff_exists.mp found
    exact List.mem_map.mpr ⟨_, mem_of_lookup value_eq, rfl⟩

theorem mem_keys_ofEntries {Entry : Type*} {key : Entry → Key} {value : Entry → Value}
    {entries : List Entry} {name : Key} :
    name ∈ (ofEntries key value entries).keys ↔ ∃ entry ∈ entries, key entry = name := by
  rw [mem_keys_iff, lookup_ofEntries, Option.isSome_map, List.getLast?_isSome]
  simp [List.filter_eq_nil_iff]

/-- A loop over a table whose rounds each change one key's part of the state. -/
theorem foldl_view {State View : Type*} (table : Dict Key Value)
    (step : State → Key × Value → State) (view : State → Key → View)
    (change : Key → Value → View → View)
    (elsewhere : ∀ state entry name, name ≠ entry.1 →
      view (step state entry) name = view state name)
    (here : ∀ state entry,
      view (step state entry) entry.1 = change entry.1 entry.2 (view state entry.1))
    (state : State) (name : Key) :
    view (table.objects.foldl step state) name =
      match table.lookup name with
      | none => view state name
      | some value => change name value (view state name) := by
  obtain ⟨entries, nodup⟩ := table
  simp only [lookup, Keyed.get]
  induction entries generalizing state with
  | nil => rfl
  | cons entry entries ih =>
      rw [List.map_cons, List.nodup_cons] at nodup
      rw [List.foldl_cons, ih _ nodup.2]
      by_cases same : entry.1 = name
      · subst same
        have absent : entries.find? (fun other => other.1 = entry.1) = none := by
          refine List.find?_eq_none.mpr fun other other_mem is_same => nodup.1 ?_
          rw [decide_eq_true_eq] at is_same
          exact is_same ▸ List.mem_map_of_mem other_mem
        rw [absent, List.find?_cons_of_pos (by simp)]
        exact here state entry
      · rw [List.find?_cons_of_neg (by simpa using same), elsewhere state entry name (Ne.symm same)]

end Dict

/-- A list that was written entry by entry is read back. -/
theorem mapM_map {Object : Type u} {Data : Type v} {write : Object → Data}
    {read : Data → Option Object} (read_write : ∀ object, read (write object) = some object)
    (objects : List Object) : (objects.map write).mapM read = some objects := by
  induction objects with
  | nil => rfl
  | cons object objects ih =>
      rw [List.map_cons, List.mapM_cons, read_write, ih]
      rfl

/-- How keys are spelled in documents. -/
structure Spelling (Key : Type u) where
  write : Key → String
  read : String → Option Key
  read_write : ∀ name, read (write name) = some name

namespace Spelling

/-- Decimal numbers. -/
def nat : Spelling ℕ where
  write := Nat.repr
  read := String.toNat?
  read_write := Nat.toNat?_repr

variable {Key : Type u} {Value : Type v}

theorem write_injective (spelling : Spelling Key) : Function.Injective spelling.write := by
  intro first second same
  have read := spelling.read_write first
  rw [same, spelling.read_write] at read
  exact (Option.some.inj read).symm

def toDoc (spelling : Spelling Key) (table : Dict Key Value) : Dict String Value :=
  Keyed.ofList (table.objects.map fun entry => (spelling.write entry.1, entry.2))

theorem toDoc_objects (spelling : Spelling Key) (table : Dict Key Value) :
    (spelling.toDoc table).objects =
      table.objects.map fun entry => (spelling.write entry.1, entry.2) := by
  refine Keyed.foldl_set _ ?_
  have nodup := table.nodup.map spelling.write_injective
  rw [List.map_map] at nodup
  simpa [Keyed.empty, List.map_map, Function.comp_def] using nodup

variable [DecidableEq Key]

/-- It fails for a string that is no key. -/
def ofDoc (spelling : Spelling Key) (doc : Dict String Value) : Option (Dict Key Value) :=
  (doc.objects.mapM fun entry => (spelling.read entry.1).map fun name => (name, entry.2)).map
    Keyed.ofList

/-- A table comes back from its document. -/
theorem ofDoc_toDoc (spelling : Spelling Key) (table : Dict Key Value) :
    spelling.ofDoc (spelling.toDoc table) = some table := by
  have read : ∀ entry : Key × Value,
      (spelling.read (spelling.write entry.1)).map (fun name => (name, entry.2)) = some entry :=
    fun entry => by rw [spelling.read_write, Option.map_some]
  rw [ofDoc, toDoc_objects, mapM_map read, Option.map_some, Keyed.ofList_objects]

end Spelling

end Tables
