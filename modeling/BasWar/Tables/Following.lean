import Mathlib.Data.List.Basic
import Mathlib.Order.Basic

/-!
# Following references

Items refer to each other by their keys.  A search lists the items that it has met, and follows the
references of an item as soon as it has listed it; a key that is listed or that has no item is
passed over.  With more rounds than there are keys left the search ends.
-/

namespace Tables

universe u v w

section Remaining

variable {Key : Type u} {listed later : Key → Bool}

/-- How many keys are not listed. -/
def remaining (listed : Key → Bool) (keys : List Key) : ℕ :=
  (keys.filter fun key => !listed key).length

theorem filter_later (keys : List Key) (grown : ∀ key, listed key = true → later key = true) :
    (keys.filter fun key => !later key) =
      (keys.filter fun key => !listed key).filter fun key => !later key := by
  rw [List.filter_filter]
  refine List.filter_congr fun key _ => ?_
  cases was : listed key with
  | false => simp
  | true => simp [grown key was]

theorem remaining_le (keys : List Key) (grown : ∀ key, listed key = true → later key = true) :
    remaining later keys ≤ remaining listed keys := by
  rw [remaining, filter_later keys grown]
  exact List.length_filter_le _ _

/-- Fewer keys are left when one of them is listed. -/
theorem remaining_lt {keys : List Key} {key : Key}
    (grown : ∀ key, listed key = true → later key = true) (key_mem : key ∈ keys)
    (absent : listed key = false) (added : later key = true) :
    remaining later keys < remaining listed keys := by
  rw [remaining, filter_later keys grown, remaining, List.length_filter_lt_length_iff_exists]
  exact ⟨key, List.mem_filter.mpr ⟨key_mem, by simp [absent]⟩, by simp [added]⟩

end Remaining

/-- Items with keys and references, and a state that lists some of them. -/
structure Following (Key : Type u) (Item : Type v) (State : Type w) where
  /-- The item of a key. -/
  get : Key → Option Item
  key : Item → Key
  refs : Item → List Key
  listed : State → Key → Bool
  insert : Item → State → State
  key_get : ∀ {ref : Key} {item : Item}, get ref = some item → key item = ref
  listed_insert : ∀ {item : Item} {state : State} {ref : Key},
    listed (insert item state) ref = true ↔ ref = key item ∨ listed state ref = true

namespace Following

variable {Key : Type u} {Item : Type v} {State : Type w} (system : Following Key Item State)

/-- Look at one reference, where `recur` follows those of a new item. -/
def visit (recur : Item → State → Option State) (state : State) (ref : Key) : Option State :=
  if system.listed state ref then some state
  else
    match system.get ref with
    | none => some state
    | some item => recur item (system.insert item state)

/-- Follow the references of an item; `none` stands for too few rounds. -/
def follow : ℕ → Item → State → Option State
  | 0, _, _ => none
  | fuel + 1, item, state => (system.refs item).foldlM (system.visit (follow fuel)) state

/-- The references of an item are listed, as far as they have items. -/
def Complete (state : State) (item : Item) : Prop :=
  ∀ ref ∈ system.refs item, (system.get ref).isSome = true → system.listed state ref = true

/-- Nothing that is listed is taken off the lists. -/
def Extends (state after : State) : Prop :=
  ∀ ref, system.listed state ref = true → system.listed after ref = true

/-- The references of what is newly listed are listed, too. -/
structure Closes (state after : State) : Prop where
  grown : system.Extends state after
  closed : ∀ ref, system.listed after ref = true → system.listed state ref = false →
    ∃ item, system.get ref = some item ∧ system.Complete after item

variable {system} {state after later : State} {item : Item}

theorem Complete.mono (complete : system.Complete state item)
    (grown : system.Extends state after) : system.Complete after item :=
  fun ref ref_mem found => grown ref (complete ref ref_mem found)

theorem Closes.refl (state : State) : system.Closes state state :=
  ⟨fun _ listed => listed, fun _ listed absent => by rw [listed] at absent; cases absent⟩

theorem Closes.trans (first : system.Closes state after) (second : system.Closes after later) :
    system.Closes state later := by
  refine ⟨fun ref listed => second.grown ref (first.grown ref listed), fun ref listed absent => ?_⟩
  cases between : system.listed after ref with
  | false => exact second.closed ref listed between
  | true =>
      obtain ⟨item, item_eq, complete⟩ := first.closed ref between absent
      exact ⟨item, item_eq, complete.mono second.grown⟩

/-- What holds of an item holds of the items it refers to that are not listed, and listing such
items keeps an invariant. -/
structure Kept (system : Following Key Item State) (Met : Item → Prop)
    (Invariant : State → Prop) : Prop where
  met : ∀ {state : State} {item : Item} {ref : Key} {other : Item}, Invariant state →
    system.listed state ref = false → Met item → ref ∈ system.refs item →
    system.get ref = some other → Met other
  insert : ∀ {state : State} {ref : Key} {item : Item}, Invariant state →
    system.listed state ref = false → system.get ref = some item → Met item →
    Invariant (system.insert item state)

variable {Met : Item → Prop} {Invariant : State → Prop}

/-- One reference of an item. -/
theorem visit_spec (kept : system.Kept Met Invariant) {recur : Item → State → Option State}
    (recur_spec : ∀ {item : Item} {state after : State}, Met item → Invariant state →
      recur item state = some after →
        Invariant after ∧ system.Closes state after ∧ system.Complete after item)
    {ref : Key} (met : Met item) (ref_mem : ref ∈ system.refs item) (invariant : Invariant state)
    (visited : system.visit recur state ref = some after) :
    Invariant after ∧ system.Closes state after ∧
      ((system.get ref).isSome = true → system.listed after ref = true) := by
  unfold visit at visited
  split at visited
  next listed =>
    cases visited
    exact ⟨invariant, .refl state, fun _ => listed⟩
  next absent =>
    split at visited
    next none_eq =>
      cases visited
      exact ⟨invariant, .refl state, fun found => by rw [none_eq] at found; cases found⟩
    next other other_eq =>
      have not_listed : system.listed state ref = false := Bool.not_eq_true _ ▸ absent
      have other_met := kept.met invariant not_listed met ref_mem other_eq
      obtain ⟨kept_after, closes, complete⟩ := recur_spec other_met
        (kept.insert invariant not_listed other_eq other_met) visited
      have listed_other : system.listed (system.insert other state) ref = true :=
        system.listed_insert.mpr (.inl (system.key_get other_eq).symm)
      refine ⟨kept_after, ⟨fun key listed => ?_, fun key listed fresh => ?_⟩,
        fun _ => closes.grown ref listed_other⟩
      · exact closes.grown key (system.listed_insert.mpr (.inr listed))
      · cases between : system.listed (system.insert other state) key with
        | false => exact closes.closed key listed between
        | true =>
            obtain same | old := system.listed_insert.mp between
            · rw [system.key_get other_eq] at same
              exact ⟨other, same ▸ other_eq, complete⟩
            · rw [old] at fresh
              cases fresh

variable {fuel : ℕ} {keys : List Key}

/-- What a search leaves: the invariant, and complete items. -/
theorem follow_spec (kept : system.Kept Met Invariant) (met : Met item)
    (invariant : Invariant state) (followed : system.follow fuel item state = some after) :
    Invariant after ∧ system.Closes state after ∧ system.Complete after item := by
  induction fuel generalizing item state after with
  | zero => cases followed
  | succ fuel ih =>
      unfold follow at followed
      have step : ∀ (refs : List Key) (state : State), refs ⊆ system.refs item →
          Invariant state → refs.foldlM (system.visit (system.follow fuel)) state = some after →
          Invariant after ∧ system.Closes state after ∧
            ∀ ref ∈ refs, (system.get ref).isSome = true → system.listed after ref = true := by
        intro refs
        induction refs with
        | nil =>
            intro state _ invariant done
            cases done
            exact ⟨invariant, .refl after, by simp⟩
        | cons ref refs rest =>
            intro state inside invariant done
            rw [List.foldlM_cons, Option.bind_eq_bind, Option.bind_eq_some_iff] at done
            obtain ⟨next, visited, done⟩ := done
            obtain ⟨next_invariant, closes, listed⟩ := visit_spec kept ih met
              (inside List.mem_cons_self) invariant visited
            obtain ⟨last_invariant, last_closes, last_listed⟩ := rest next
              (fun _ other_mem => inside (List.mem_cons_of_mem _ other_mem)) next_invariant done
            refine ⟨last_invariant, closes.trans last_closes, fun other other_mem found => ?_⟩
            obtain rfl | other_mem := List.mem_cons.mp other_mem
            · exact last_closes.grown _ (listed found)
            · exact last_listed other other_mem found
      exact step _ state (fun _ ref_mem => ref_mem) invariant followed

/-- How many of the keys a state does not list. -/
def unlisted (system : Following Key Item State) (keys : List Key) (state : State) : ℕ :=
  remaining (system.listed state) keys

theorem unlisted_mono (grown : system.Extends state after) :
    system.unlisted keys after ≤ system.unlisted keys state :=
  remaining_le keys grown

theorem unlisted_insert {ref : Key} (ref_mem : ref ∈ keys)
    (absent : system.listed state ref = false) (found : system.get ref = some item) :
    system.unlisted keys (system.insert item state) < system.unlisted keys state :=
  remaining_lt (fun _ listed => system.listed_insert.mpr (.inr listed)) ref_mem absent
    (system.listed_insert.mpr (.inl (system.key_get found).symm))

theorem kept_true : system.Kept (fun _ => True) fun _ => True :=
  ⟨fun _ _ _ _ _ => trivial, fun _ _ _ _ => trivial⟩

theorem follow_closes (followed : system.follow fuel item state = some after) :
    system.Closes state after :=
  (follow_spec kept_true trivial trivial followed).2.1

/-- A search ends when it has more rounds than there are keys left. -/
theorem follow_returns (all : ∀ ref item, system.get ref = some item → ref ∈ keys)
    (enough : system.unlisted keys state < fuel) (item : Item) :
    ∃ after, system.follow fuel item state = some after := by
  induction fuel generalizing item state with
  | zero => omega
  | succ fuel ih =>
      unfold follow
      generalize system.refs item = refs
      induction refs generalizing state with
      | nil => exact ⟨state, rfl⟩
      | cons ref refs rest =>
          have visited : ∃ next, system.visit (system.follow fuel) state ref = some next ∧
              system.Extends state next := by
            unfold visit
            split
            next listed => exact ⟨state, rfl, fun _ listed => listed⟩
            next absent =>
              have not_listed : system.listed state ref = false := Bool.not_eq_true _ ▸ absent
              split
              next => exact ⟨state, rfl, fun _ listed => listed⟩
              next other found =>
                have fewer : system.unlisted keys (system.insert other state) < fuel :=
                  Nat.lt_of_lt_of_le (unlisted_insert (all ref other found) not_listed found)
                    (Nat.le_of_lt_succ enough)
                obtain ⟨next, next_eq⟩ := ih fewer other
                exact ⟨next, next_eq, fun key listed =>
                  (follow_closes next_eq).grown key (system.listed_insert.mpr (.inr listed))⟩
          obtain ⟨next, next_eq, grown⟩ := visited
          rw [List.foldlM_cons, next_eq, Option.bind_eq_bind, Option.bind_some]
          exact rest (Nat.lt_of_le_of_lt (unlisted_mono grown) enough)

/-- More rounds do not change what a search leaves. -/
theorem follow_succ (followed : system.follow fuel item state = some after) :
    system.follow (fuel + 1) item state = some after := by
  induction fuel generalizing item state after with
  | zero => cases followed
  | succ fuel ih =>
      unfold follow at followed ⊢
      generalize system.refs item = refs at *
      induction refs generalizing state with
      | nil => exact followed
      | cons ref refs rest =>
          rw [List.foldlM_cons, Option.bind_eq_bind, Option.bind_eq_some_iff] at followed ⊢
          obtain ⟨next, visited, followed⟩ := followed
          refine ⟨next, ?_, rest followed⟩
          unfold visit at visited ⊢
          split
          next listed => rwa [if_pos listed] at visited
          next absent =>
            rw [if_neg absent] at visited
            split
            next none_eq => rwa [none_eq] at visited
            next other found =>
              rw [found] at visited
              exact ih visited

end Following

end Tables
