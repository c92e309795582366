import BasWar.Cooperative.Pool
import BasWar.Player.ItemUses
import Mathlib

/-!
# Effects and removals

Effects run before the items are removed, and the used mark of a unique item is stored last.  If
every use that the checks let through also leaves what others under way will still take, and a
unique item is used one at a time, then effects and removals agree.
-/

namespace BasWar.ItemUses

open Tables Cooperative
open Selling (Item Loose ItemData)

/-! ## What is left to do -/

namespace Act

/-- How many items of a stack an act will take. -/
def takes (id : ℤ) : Act → ℤ
  | .costItemNum other count _ => if other = id then count else 0
  | _ => 0

/-- How many of them because they are used. -/
def removes (id : ℤ) : Act → ℤ
  | .costItemNum other count true => if other = id then count else 0
  | _ => 0

/-- How often an act will apply the effects of a stack. -/
def rounds (id : ℤ) : Act → ℤ
  | .round other _ => if other = id then 1 else 0
  | _ => 0

/-- How often it will apply the effects of a kind. -/
def roundsOf (cfgId : ℤ) : Act → ℤ
  | .round _ other => if other = cfgId then 1 else 0
  | _ => 0

/-- How often it will send the used mark of a kind. -/
def marks (cfgId : ℤ) : Act → ℤ
  | .setUsedItem other => if other = cfgId then 1 else 0
  | _ => 0

/-- Numbers that loops and removals work with. -/
def Positive : Act → Prop
  | .costItemNum _ count _ => 0 ≤ count
  | .overlay _ _ left => 0 < left
  | _ => True

/-- The act does none of this. -/
def Plain : Act → Prop
  | .round _ _ | .costItemNum _ _ _ | .setUsedItem _ => False
  | _ => True

end Act

def tally (weight : Act → ℤ) (acts : List Act) : ℤ :=
  (acts.map weight).sum

namespace Task

def acts : Task → List Act
  | .handler acts => acts
  | .marking _ => []

def mark : Task → Option ℤ
  | .handler _ => none
  | .marking cfgId => some cfgId

end Task

/-- How many used marks of a kind are still to be stored. -/
def marksDue (cfgId : ℤ) (acts : List Act) (marking : List ℤ) : ℤ :=
  tally (Act.marks cfgId) acts + marking.count cfgId

/-- The use leaves what other acts will take from the stack. -/
def leavesDue (id count num : ℤ) (acts : List Act) : Bool :=
  decide (count + tally (Act.takes id) acts ≤ num)

/-- The condition for an act, given all other acts and marks on their way. -/
def Act.clear (tables : ItemTables) (baseLevel : ℕ) (state : State) (acts : List Act)
    (marking : List ℤ) : Act → Bool
  | .useItem id count =>
      (state.getItem id).all fun item => (tables.cfgs item.cfgId).all fun cfg =>
        !(cfg.canUse && !cfg.unique && mayUse cfg baseLevel count item.num) ||
          leavesDue id count item.num acts
  | .autoUseItem id count =>
      (state.getItem id).all fun item => (tables.cfgs item.cfgId).all fun cfg =>
        !(decide (0 < count ∧ count ≤ item.num) && !cfg.unique) ||
          leavesDue id count item.num acts
  | .answered auto id count cfgId used =>
      (tables.cfgs cfgId).all fun cfg =>
        used || !(auto || mayUse cfg baseLevel count (state.numOf id)) ||
          leavesDue id count (state.numOf id) acts &&
            decide (count = 1 ∧ state.used cfgId = false ∧ marksDue cfgId acts marking = 0)
  | .resolveItem id count =>
      (state.getItem id).all fun item => (tables.cfgs item.cfgId).all fun cfg =>
        !decide (cfg.canResolve = true ∧ 0 < count ∧ count ≤ item.num) ||
          leavesDue id count item.num acts
  | .sellSkillCard itemData =>
      (itemData.mapM (offer tables state)).isNone ||
        state.items.objects.all fun loose =>
          decide (tally (Act.takes loose.item.id) acts = 0) ||
            itemData.inits.all fun first =>
              leavesDue loose.item.id (Selling.asked first loose.item.id) loose.item.num acts
  | _ => true

/-- A use that the checks let through leaves what the handlers under way will take, and a unique
item is used one at a time and with no mark still to be stored. -/
def apartUses (tables : ItemTables) : Guard State Request Task ℕ where
  onRequest _ _ _ := True
  onReply task baseLevel state others :=
    match task with
    | .handler (act :: acts) =>
        act.clear tables baseLevel state (acts ++ others.flatMap Task.acts)
          (others.filterMap Task.mark) = true
    | _ => True

/-! ## What holds all the time -/

/-- Effects and removals in a state whose handlers still have some acts to do. -/
structure Settled (tables : ItemTables) (state : State) (acts : List Act) (marking : List ℤ) :
    Prop where
  nonneg : ∀ loose ∈ state.items.objects, 0 ≤ loose.item.num
  positive : ∀ act ∈ acts, act.Positive
  due_le : ∀ id, tally (Act.takes id) acts ≤ state.numOf id
  balanced : ∀ id, state.removed id + tally (Act.removes id) acts =
    state.applied id + tally (Act.rounds id) acts
  once : ∀ cfgId cfg, tables.cfgs cfgId = some cfg → cfg.unique = true →
    state.appliedOf cfgId + tally (Act.roundsOf cfgId) acts ≤ 1
  unmarked : ∀ cfgId cfg, tables.cfgs cfgId = some cfg → cfg.unique = true →
    state.used cfgId = false → marksDue cfgId acts marking = 0 →
      state.appliedOf cfgId + tally (Act.roundsOf cfgId) acts ≤ 0

section Tally

variable {weight : Act → ℤ} {act : Act} {acts more : List Act}

@[simp]
theorem tally_nil (weight : Act → ℤ) : tally weight [] = 0 := rfl

@[simp]
theorem tally_cons : tally weight (act :: acts) = weight act + tally weight acts := by
  simp [tally]

@[simp]
theorem tally_append : tally weight (acts ++ more) = tally weight acts + tally weight more := by
  simp [tally]

theorem tally_perm (perm : acts.Perm more) : tally weight acts = tally weight more :=
  (perm.map weight).sum_eq

theorem tally_nonneg (nonneg : ∀ act ∈ acts, 0 ≤ weight act) : 0 ≤ tally weight acts := by
  refine List.sum_nonneg fun value value_mem => ?_
  obtain ⟨act, act_mem, rfl⟩ := List.mem_map.mp value_mem
  exact nonneg act act_mem

theorem tally_eq_zero (zero : ∀ act ∈ acts, weight act = 0) : tally weight acts = 0 := by
  refine List.sum_eq_zero fun value value_mem => ?_
  obtain ⟨act, act_mem, rfl⟩ := List.mem_map.mp value_mem
  exact zero act act_mem

theorem tally_rounds (weight : Act → ℤ) (rounds : ℕ) (acts : List Act) :
    tally weight (List.replicate rounds acts).flatten = rounds * tally weight acts := by
  induction rounds with
  | zero => simp
  | succ rounds ih =>
      rw [List.replicate_succ, List.flatten_cons, tally_append, ih]
      push_cast
      ring

/-- An act that leaves everything else alone has no weight. -/
structure Weightless (weight : Act → ℤ) : Prop where
  zero : ∀ act : Act, act.Plain → weight act = 0

theorem weightless_takes (id : ℤ) : Weightless (Act.takes id) :=
  ⟨fun act plain => by cases act <;> first | rfl | exact plain.elim⟩

theorem weightless_removes (id : ℤ) : Weightless (Act.removes id) :=
  ⟨fun act plain => by cases act <;> first | rfl | exact plain.elim⟩

theorem weightless_rounds (id : ℤ) : Weightless (Act.rounds id) :=
  ⟨fun act plain => by cases act <;> first | rfl | exact plain.elim⟩

theorem weightless_roundsOf (cfgId : ℤ) : Weightless (Act.roundsOf cfgId) :=
  ⟨fun act plain => by cases act <;> first | rfl | exact plain.elim⟩

theorem weightless_marks (cfgId : ℤ) : Weightless (Act.marks cfgId) :=
  ⟨fun act plain => by cases act <;> first | rfl | exact plain.elim⟩

theorem Weightless.tally (weightless : Weightless weight) (plain : ∀ act ∈ acts, act.Plain) :
    tally weight acts = 0 :=
  tally_eq_zero fun act act_mem => weightless.zero act (plain act act_mem)

theorem Act.Positive.takes_nonneg (positive : act.Positive) (id : ℤ) : 0 ≤ act.takes id := by
  cases act with
  | costItemNum other count byUse =>
      have takes_eq : (Act.costItemNum other count byUse).takes id =
          if other = id then count else 0 := rfl
      rw [takes_eq]
      split
      · exact positive
      · exact le_rfl
  | _ => exact le_rfl

theorem marks_nonneg (act : Act) (cfgId : ℤ) : 0 ≤ act.marks cfgId := by
  cases act with
  | setUsedItem other =>
      have marks_eq : (Act.setUsedItem other).marks cfgId = if other = cfgId then 1 else 0 := rfl
      rw [marks_eq]
      split
      · exact zero_le_one
      · exact le_rfl
  | _ => exact le_rfl

theorem roundsOf_nonneg (act : Act) (cfgId : ℤ) : 0 ≤ act.roundsOf cfgId := by
  cases act with
  | round id other =>
      have rounds_eq : (Act.round id other).roundsOf cfgId = if other = cfgId then 1 else 0 := rfl
      rw [rounds_eq]
      split
      · exact zero_le_one
      · exact le_rfl
  | _ => exact le_rfl

theorem takes_nonneg (positive : ∀ act ∈ acts, act.Positive) (id : ℤ) :
    0 ≤ tally (Act.takes id) acts :=
  tally_nonneg fun act act_mem => (positive act act_mem).takes_nonneg id

theorem tally_useActs (weight : Act → ℤ) (cfg : UseCfg) (id cfgId : ℤ) {count : ℤ}
    (effects : ∀ effect, weight (.effect effect) = 0) (nonneg : 0 ≤ count) :
    tally weight (useActs cfg id count cfgId) =
      count * weight (.round id cfgId) + weight (.costItemNum id count true) +
        if cfg.unique then weight (.setUsedItem cfgId) else 0 := by
  have no_effects : tally weight (cfg.effect.map .effect) = 0 := by
    refine tally_eq_zero fun act act_mem => ?_
    obtain ⟨effect, -, rfl⟩ := List.mem_map.mp act_mem
    exact effects effect
  have count_eq : (count.toNat : ℤ) = count := Int.toNat_of_nonneg nonneg
  unfold useActs
  rw [tally_append, tally_rounds, tally_cons, tally_cons, no_effects, add_zero, count_eq, add_assoc]
  split <;> simp

theorem positive_useActs (cfg : UseCfg) (id cfgId : ℤ) {count : ℤ} (nonneg : 0 ≤ count) :
    ∀ act ∈ useActs cfg id count cfgId, act.Positive := by
  intro act act_mem
  rcases List.mem_append.mp act_mem with in_rounds | after
  · obtain ⟨acts, acts_mem, act_mem⟩ := List.mem_flatten.mp in_rounds
    rw [List.eq_of_mem_replicate acts_mem] at act_mem
    rcases List.mem_cons.mp act_mem with rfl | act_mem
    · trivial
    · obtain ⟨effect, -, rfl⟩ := List.mem_map.mp act_mem
      trivial
  · rcases List.mem_cons.mp after with rfl | act_mem
    · exact nonneg
    · split at act_mem
      · rw [List.mem_singleton.mp act_mem]
        trivial
      · cases act_mem

end Tally

/-! ## Numbers of items -/

section Numbers

variable {state : State} {id num : ℤ} {loose : Loose} {item : Item}

theorem numOf_of_get (found : state.items.get id = some loose) :
    state.numOf id = loose.item.num := by
  simp [State.numOf, State.object, found]

theorem numOf_of_getItem (found : state.getItem id = some item) : state.numOf id = item.num := by
  obtain ⟨loose, kept, rfl⟩ := Option.map_eq_some_iff.mp found
  exact numOf_of_get (Option.filter_eq_some_iff.mp kept).1

theorem numOf_nonneg (nonneg : ∀ loose ∈ state.items.objects, 0 ≤ loose.item.num) (id : ℤ) :
    0 ≤ state.numOf id := by
  cases found : state.items.get id with
  | none => simp [State.numOf, State.object, found]
  | some loose =>
      rw [numOf_of_get found]
      exact nonneg loose (Keyed.get_mem found).1

theorem numOf_setNum_self (absent : state.items.get id = none → num = 0) :
    (state.setNum id num).numOf id = num := by
  unfold State.setNum
  cases found : state.items.get id with
  | none => simp [State.numOf, State.object, found, absent found]
  | some loose =>
      obtain ⟨-, id_eq⟩ := Keyed.get_mem found
      have written :
          (state.items.put ⟨{ loose.item with num }, loose.inBag && decide (0 < num)⟩).get
          id = some ⟨{ loose.item with num }, loose.inBag && decide (0 < num)⟩ := by
        rw [← id_eq]
        exact Keyed.get_put_self (id_eq ▸ found)
      simp [State.numOf, State.object, written]

theorem numOf_setNum_of_ne {other : ℤ} (different : other ≠ id) :
    (state.setNum id num).numOf other = state.numOf other := by
  unfold State.setNum
  cases found : state.items.get id with
  | none => rfl
  | some loose =>
      obtain ⟨-, id_eq⟩ := Keyed.get_mem found
      have unchanged : (state.items.put
          ⟨{ loose.item with num }, loose.inBag && decide (0 < num)⟩).get other =
            state.items.get other := Keyed.get_put_of_ne (id_eq ▸ different)
      simp [State.numOf, State.object, unchanged]

theorem nonneg_setNum (nonneg : ∀ loose ∈ state.items.objects, 0 ≤ loose.item.num)
    (num_nonneg : 0 ≤ num) : ∀ loose ∈ (state.setNum id num).items.objects, 0 ≤ loose.item.num := by
  unfold State.setNum
  split
  · exact nonneg
  · intro other other_mem
    rcases Keyed.mem_put other_mem with rfl | ⟨old_mem, -⟩
    · exact num_nonneg
    · exact nonneg other old_mem

@[simp]
theorem removed_setNum : (state.setNum id num).removed = state.removed := by
  unfold State.setNum
  split <;> rfl

@[simp]
theorem applied_setNum : (state.setNum id num).applied = state.applied := by
  unfold State.setNum
  split <;> rfl

@[simp]
theorem appliedOf_setNum : (state.setNum id num).appliedOf = state.appliedOf := by
  unfold State.setNum
  split <;> rfl

@[simp]
theorem used_setNum : (state.setNum id num).used = state.used := by
  unfold State.setNum
  split <;> rfl

end Numbers

/-! ## What one act keeps -/

/-- No number has fallen and no count of uses has changed. -/
structure Quiet (state next : State) : Prop where
  nonneg : ∀ loose ∈ next.items.objects, 0 ≤ loose.item.num
  raised : ∀ id, state.numOf id ≤ next.numOf id
  removed : next.removed = state.removed
  applied : next.applied = state.applied
  appliedOf : next.appliedOf = state.appliedOf
  used : next.used = state.used

section Steps

variable {tables : ItemTables} {state next : State} {act : Act} {more rest : List Act}
  {marking : List ℤ}

theorem Settled.rest_positive (settled : Settled tables state (act :: rest) marking) :
    ∀ other ∈ rest, other.Positive :=
  fun other other_mem => settled.positive other (List.mem_cons_of_mem act other_mem)

theorem Settled.due_rest (settled : Settled tables state (act :: rest) marking) (id : ℤ) :
    tally (Act.takes id) rest ≤ state.numOf id := by
  have due := settled.due_le id
  rw [tally_cons] at due
  have act_nonneg := (settled.positive act List.mem_cons_self).takes_nonneg id
  linarith

/-- Acts that take and apply nothing may come first or not. -/
theorem settled_plain_iff (plain : ∀ other ∈ more, other.Plain)
    (positive : ∀ other ∈ more, other.Positive) :
    Settled tables state (more ++ rest) marking ↔ Settled tables state rest marking := by
  have same {weight : Act → ℤ} (weightless : Weightless weight) :
      tally weight (more ++ rest) = tally weight rest := by
    rw [tally_append, weightless.tally plain, zero_add]
  constructor
  · intro settled
    refine ⟨settled.nonneg, fun other other_mem =>
      settled.positive other (List.mem_append_right more other_mem), fun id => ?_, fun id => ?_,
      fun kind cfg found unique => ?_, fun kind cfg found unique unused none_due => ?_⟩
    · exact same (weightless_takes id) ▸ settled.due_le id
    · have balanced := settled.balanced id
      rwa [same (weightless_removes id), same (weightless_rounds id)] at balanced
    · exact same (weightless_roundsOf kind) ▸ settled.once kind cfg found unique
    · refine same (weightless_roundsOf kind) ▸ settled.unmarked kind cfg found unique unused ?_
      rwa [marksDue, same (weightless_marks kind)]
  · intro settled
    refine ⟨settled.nonneg, fun other other_mem => ?_, fun id => ?_, fun id => ?_,
      fun kind cfg found unique => ?_, fun kind cfg found unique unused none_due => ?_⟩
    · exact (List.mem_append.mp other_mem).elim (positive other) (settled.positive other)
    · exact (same (weightless_takes id)).le.trans (settled.due_le id)
    · rw [same (weightless_removes id), same (weightless_rounds id)]
      exact settled.balanced id
    · rw [same (weightless_roundsOf kind)]
      exact settled.once kind cfg found unique
    · rw [same (weightless_roundsOf kind)]
      rw [marksDue, same (weightless_marks kind)] at none_due
      exact settled.unmarked kind cfg found unique unused none_due

theorem Settled.perm (settled : Settled tables state rest marking) {acts : List Act}
    {marks : List ℤ} (same_acts : rest.Perm acts) (same_marks : marking.Perm marks) :
    Settled tables state acts marks := by
  refine ⟨settled.nonneg, fun act act_mem => settled.positive act (same_acts.mem_iff.mpr act_mem),
    fun id => ?_, fun id => ?_, fun kind cfg found unique => ?_,
    fun kind cfg found unique unused none_due => ?_⟩
  · rw [← tally_perm same_acts]
    exact settled.due_le id
  · rw [← tally_perm same_acts, ← tally_perm same_acts]
    exact settled.balanced id
  · rw [← tally_perm same_acts]
    exact settled.once kind cfg found unique
  · rw [← tally_perm same_acts]
    rw [marksDue, ← tally_perm same_acts, ← same_marks.count_eq] at none_due
    exact settled.unmarked kind cfg found unique unused none_due

theorem Settled.quiet (settled : Settled tables state rest marking) (quiet : Quiet state next) :
    Settled tables next rest marking := by
  refine ⟨quiet.nonneg, settled.positive, fun id => (settled.due_le id).trans (quiet.raised id),
    fun id => ?_, fun kind cfg found unique => ?_, fun kind cfg found unique unused => ?_⟩
  · rw [quiet.removed, quiet.applied]
    exact settled.balanced id
  · rw [quiet.appliedOf]
    exact settled.once kind cfg found unique
  · rw [quiet.appliedOf]
    exact settled.unmarked kind cfg found unique (quiet.used ▸ unused)

theorem Settled.drop (settled : Settled tables state (act :: rest) marking) (plain : act.Plain) :
    Settled tables state rest marking :=
  (@settled_plain_iff tables state [act] rest marking (by simpa using plain)
    (by simpa using settled.positive act List.mem_cons_self)).mp settled

variable {count cfgId : ℤ} {cfg : UseCfg} {baseLevel : ℕ}

/-- An act that goes on to the effects of a use. -/
theorem Settled.start (settled : Settled tables state rest marking) {id : ℤ}
    (found : tables.cfgs cfgId = some cfg) (count_pos : 0 < count)
    (fits : count + tally (Act.takes id) rest ≤ state.numOf id)
    (alone : cfg.unique = true →
      count = 1 ∧ state.used cfgId = false ∧ marksDue cfgId rest marking = 0) :
    Settled tables state (useActs cfg id count cfgId ++ rest) marking := by
  have acts_eq {weight : Act → ℤ} (weightless : Weightless weight) :
      tally weight (useActs cfg id count cfgId ++ rest) =
        (count * weight (.round id cfgId) + weight (.costItemNum id count true) +
          if cfg.unique then weight (.setUsedItem cfgId) else 0) + tally weight rest := by
    rw [tally_append, tally_useActs weight cfg id cfgId (fun _ => weightless.zero _ trivial)
      count_pos.le]
  refine ⟨settled.nonneg, ?_, fun other => ?_, fun other => ?_, fun kind row row_found unique => ?_,
    fun kind row row_found unique unused none_due => ?_⟩
  · intro other other_mem
    exact (List.mem_append.mp other_mem).elim (positive_useActs cfg id cfgId count_pos.le other)
      (settled.positive other)
  · rw [acts_eq (weightless_takes other)]
    by_cases same : id = other
    · subst same
      simpa [Act.takes] using fits
    · simpa [Act.takes, same] using settled.due_le other
  · have balanced := settled.balanced other
    rw [acts_eq (weightless_removes other), acts_eq (weightless_rounds other)]
    by_cases same : id = other
    · simp only [Act.removes, Act.rounds, same, if_true, ite_self]
      linarith
    · simpa [Act.removes, Act.rounds, same] using balanced
  · rw [acts_eq (weightless_roundsOf kind)]
    by_cases same : cfgId = kind
    · subst same
      obtain rfl : cfg = row := Option.some.inj (found.symm.trans row_found)
      obtain ⟨rfl, unused, none_due⟩ := alone unique
      have none_yet := settled.unmarked cfgId cfg found unique unused none_due
      simp only [Act.roundsOf, if_true, ite_self]
      linarith
    · simpa [Act.roundsOf, same] using settled.once kind row row_found unique
  · rw [marksDue, acts_eq (weightless_marks kind)] at none_due
    rw [acts_eq (weightless_roundsOf kind)]
    have rest_marks : 0 ≤ tally (Act.marks kind) rest :=
      tally_nonneg fun other _ => marks_nonneg other kind
    by_cases same : cfgId = kind
    · subst same
      obtain rfl : cfg = row := Option.some.inj (found.symm.trans row_found)
      simp only [Act.marks, unique, if_true, mul_zero, zero_add] at none_due
      have count_nonneg := Int.natCast_nonneg (marking.count cfgId)
      linarith
    · have none_left : marksDue kind rest marking = 0 := by
        rw [marksDue]
        simpa [Act.marks, same] using none_due
      simpa [Act.roundsOf, same] using
        settled.unmarked kind row row_found unique unused none_left

theorem Settled.round {id : ℤ} (settled : Settled tables state (.round id cfgId :: rest) marking) :
    Settled tables
      { state with
        applied := Function.update state.applied id (state.applied id + 1)
        appliedOf := Function.update state.appliedOf cfgId (state.appliedOf cfgId + 1) }
      rest marking where
  nonneg := settled.nonneg
  positive := settled.rest_positive
  due_le := settled.due_rest
  balanced other := by
    dsimp only
    have balanced := settled.balanced other
    rw [tally_cons, tally_cons] at balanced
    by_cases same : other = id
    · subst same
      simp only [Act.removes, Act.rounds, if_true, zero_add] at balanced
      rw [Function.update_self]
      linarith
    · rw [Function.update_of_ne same]
      simpa [Act.removes, Act.rounds, Ne.symm same] using balanced
  once kind cfg found unique := by
    dsimp only
    have once := settled.once kind cfg found unique
    rw [tally_cons] at once
    by_cases same : kind = cfgId
    · subst same
      simp only [Act.roundsOf, if_true] at once
      rw [Function.update_self]
      linarith
    · rw [Function.update_of_ne same]
      simpa [Act.roundsOf, Ne.symm same] using once
  unmarked kind cfg found unique unused none_due := by
    dsimp only
    have unmarked := settled.unmarked kind cfg found unique unused (by
      simpa [marksDue, Act.marks] using none_due)
    rw [tally_cons] at unmarked
    by_cases same : kind = cfgId
    · subst same
      simp only [Act.roundsOf, if_true] at unmarked
      rw [Function.update_self]
      linarith
    · rw [Function.update_of_ne same]
      simpa [Act.roundsOf, Ne.symm same] using unmarked

/-- A removal has what it takes. -/
theorem Settled.costItemNum {id : ℤ} {byUse : Bool}
    (settled : Settled tables state (.costItemNum id count byUse :: rest) marking) :
    ∃ next, costItemNum id count byUse state = .go next [] ∧ Settled tables next rest marking := by
  have rest_nonneg := takes_nonneg settled.rest_positive id
  have count_nonneg : 0 ≤ count := settled.positive _ List.mem_cons_self
  have due := settled.due_le id
  rw [tally_cons] at due
  simp only [Act.takes, if_true] at due
  have left_nonneg : 0 ≤ state.numOf id - count := by linarith
  unfold ItemUses.costItemNum
  rw [if_neg left_nonneg.not_gt]
  refine ⟨_, rfl, ?_⟩
  have numOf_eq (other : ℤ) : (state.setNum id (state.numOf id - count)).numOf other =
      state.numOf other - if other = id then count else 0 := by
    by_cases same : other = id
    · subst same
      rw [if_pos rfl, numOf_setNum_self]
      intro absent
      have none_there : state.numOf other = 0 := by
        simp [State.numOf, State.object, absent]
      linarith
    · rw [if_neg same, numOf_setNum_of_ne same, sub_zero]
  have taken (other : ℤ) : tally (Act.takes other) rest ≤
      (state.setNum id (state.numOf id - count)).numOf other := by
    have due := settled.due_le other
    rw [tally_cons] at due
    rw [numOf_eq]
    by_cases same : other = id
    · subst same
      simp only [Act.takes, if_true] at due
      rw [if_pos rfl]
      linarith
    · simpa [Act.takes, same, Ne.symm same] using due
  have once (kind : ℤ) (cfg : UseCfg) (found : tables.cfgs kind = some cfg)
      (unique : cfg.unique = true) := settled.once kind cfg found unique
  have unmarked (kind : ℤ) (cfg : UseCfg) (found : tables.cfgs kind = some cfg)
      (unique : cfg.unique = true) := settled.unmarked kind cfg found unique
  simp only [tally_cons, marksDue, Act.roundsOf, Act.marks, zero_add] at once unmarked
  cases byUse with
  | false =>
      refine ⟨nonneg_setNum settled.nonneg left_nonneg, settled.rest_positive, taken,
        fun other => ?_, fun kind cfg found unique => ?_, fun kind cfg found unique => ?_⟩
      · simpa [Act.removes, Act.rounds] using settled.balanced other
      · simpa using once kind cfg found unique
      · simpa [marksDue] using unmarked kind cfg found unique
  | true =>
      refine ⟨nonneg_setNum settled.nonneg left_nonneg, settled.rest_positive, taken,
        fun other => ?_, fun kind cfg found unique => ?_, fun kind cfg found unique => ?_⟩
      · have balanced := settled.balanced other
        rw [tally_cons, tally_cons] at balanced
        simp only [if_true, removed_setNum, applied_setNum]
        by_cases same : other = id
        · subst same
          simp only [Act.removes, Act.rounds, if_true, zero_add] at balanced
          rw [Function.update_self]
          linarith
        · rw [Function.update_of_ne same]
          simpa [Act.removes, Act.rounds, Ne.symm same] using balanced
      · simpa using once kind cfg found unique
      · simpa [marksDue] using unmarked kind cfg found unique

theorem Settled.setUsedItem (settled : Settled tables state (.setUsedItem cfgId :: rest) marking) :
    Settled tables state rest (cfgId :: marking) where
  nonneg := settled.nonneg
  positive := settled.rest_positive
  due_le := settled.due_rest
  balanced other := by simpa [Act.removes, Act.rounds] using settled.balanced other
  once kind cfg found unique := by
    simpa [Act.roundsOf] using settled.once kind cfg found unique
  unmarked kind cfg found unique unused none_due := by
    have marks_eq : marksDue kind (.setUsedItem cfgId :: rest) marking =
        marksDue kind rest (cfgId :: marking) := by
      rw [marksDue, marksDue, tally_cons, List.count_cons, Act.marks]
      by_cases same : cfgId = kind
      · simp [same]
        ring
      · simp [same]
    simpa [Act.roundsOf] using settled.unmarked kind cfg found unique unused
      (marks_eq.trans none_due)

theorem Settled.mark (settled : Settled tables state rest (cfgId :: marking)) :
    Settled tables { state with used := Function.update state.used cfgId true } rest marking where
  nonneg := settled.nonneg
  positive := settled.positive
  due_le := settled.due_le
  balanced := settled.balanced
  once := settled.once
  unmarked kind cfg found unique unused none_due := by
    dsimp only at unused ⊢
    by_cases same : kind = cfgId
    · subst same
      rw [Function.update_self] at unused
      cases unused
    · rw [Function.update_of_ne same] at unused
      refine settled.unmarked kind cfg found unique unused ?_
      rw [marksDue, List.count_cons_of_ne (Ne.symm same)]
      exact none_due

theorem Settled.reserve (settled : Settled tables state rest marking) {id : ℤ}
    (count_nonneg : 0 ≤ count) (fits : count + tally (Act.takes id) rest ≤ state.numOf id) :
    Settled tables state (.costItemNum id count false :: rest) marking := by
  refine ⟨settled.nonneg, ?_, fun other => ?_, fun other => ?_, fun kind cfg found unique => ?_,
    fun kind cfg found unique unused none_due => ?_⟩
  · rintro other (_ | ⟨_, other_mem⟩)
    · exact count_nonneg
    · exact settled.positive other other_mem
  · rw [tally_cons]
    by_cases same : id = other
    · subst same
      simpa [Act.takes] using fits
    · simpa [Act.takes, same] using settled.due_le other
  · simpa [Act.removes, Act.rounds] using settled.balanced other
  · simpa [Act.roundsOf] using settled.once kind cfg found unique
  · have none_left : marksDue kind rest marking = 0 := by
      simpa [marksDue, Act.marks] using none_due
    simpa [Act.roundsOf] using settled.unmarked kind cfg found unique unused none_left

theorem quiet_setNum {id num : ℤ} (nonneg : ∀ loose ∈ state.items.objects, 0 ≤ loose.item.num)
    (raises : state.numOf id ≤ num) : Quiet state (state.setNum id num) := by
  refine ⟨nonneg_setNum nonneg ((numOf_nonneg nonneg id).trans raises), fun other => ?_,
    removed_setNum, applied_setNum, appliedOf_setNum, used_setNum⟩
  by_cases same : other = id
  · subst same
    cases found : state.items.get other with
    | none =>
        have unchanged : state.setNum other num = state := by simp [State.setNum, found]
        rw [unchanged]
    | some loose =>
        rw [numOf_setNum_self fun absent => absurd absent (by simp [found])]
        exact raises
  · rw [numOf_setNum_of_ne same]

theorem quiet_add {item : Item} {nextId : ℤ}
    (nonneg : ∀ loose ∈ state.items.objects, 0 ≤ loose.item.num)
    (item_nonneg : 0 ≤ item.num) :
    Quiet state { state with items := state.items.add ⟨item, true⟩, nextId } := by
  refine ⟨fun loose loose_mem => ?_, fun id => ?_, rfl, rfl, rfl, rfl⟩
  · rcases Keyed.mem_add loose_mem with rfl | old
    · exact item_nonneg
    · exact nonneg loose old
  · unfold State.numOf State.object
    dsimp only
    rw [Keyed.get_add]
    cases found : state.items.get id with
    | none =>
        by_cases same : id = looseId ⟨item, true⟩
        · simpa [same] using item_nonneg
        · simp [same]
    | some loose => simp

theorem costItems_after (itemData : List ItemData) {items : List Loose}
    (nonneg : ∀ loose ∈ items, 0 ≤ loose.item.num) :
    ∃ first, first <+: itemData ∧
      (Selling.costItems itemData items).1 = items.map (Loose.after first) ∧
      ∀ loose ∈ (Selling.costItems itemData items).1, 0 ≤ loose.item.num := by
  induction itemData generalizing items with
  | nil => exact ⟨[], List.prefix_rfl, (List.map_id items).symm, nonneg⟩
  | cons data itemData ih =>
      rw [Selling.costItems]
      split
      · exact ⟨[], List.nil_prefix, (List.map_id items).symm, nonneg⟩
      next drawn =>
        have cost_nonneg : ∀ loose ∈ items.map (Loose.cost data), 0 ≤ loose.item.num := by
          intro other other_mem
          obtain ⟨loose, loose_mem, rfl⟩ := List.mem_map.mp other_mem
          rw [Selling.num_cost]
          by_cases named : data.id = loose.item.id
          · rw [if_pos named]
            exact not_lt.mp fun short => drawn ⟨loose, loose_mem, named.symm, short⟩
          · rw [if_neg named, sub_zero]
            exact nonneg loose loose_mem
        obtain ⟨first, first_initial, items_eq, still⟩ := ih cost_nonneg
        refine ⟨data :: first, List.cons_prefix_cons.mpr ⟨rfl, first_initial⟩, ?_, still⟩
        rw [items_eq, List.map_map]
        rfl

theorem id_after (itemData : List ItemData) (loose : Loose) :
    looseId (loose.after itemData) = looseId loose := by
  rw [looseId, Selling.item_after, looseId]

theorem Settled.sell (settled : Settled tables state rest marking) {itemData : List ItemData}
    (clear : Act.clear tables 0 state rest marking (.sellSkillCard itemData) = true) :
    Settled tables (sellSkillCard tables itemData state) rest marking := by
  unfold sellSkillCard
  cases offered : itemData.mapM (offer tables state) with
  | none => exact settled
  | some prices =>
      dsimp only
      obtain ⟨first, first_initial, items_eq, still⟩ := costItems_after itemData settled.nonneg
      have table_eq : state.items.rewrite (fun objects => (Selling.costItems itemData objects).1)
          (Selling.ids_costItems itemData) = state.items.map (Loose.after first) (id_after first) :=
        Keyed.ext items_eq
      have due (id : ℤ) : tally (Act.takes id) rest ≤ State.numOf id
          { state with items := state.items.map (Loose.after first) (id_after first) } := by
        unfold State.numOf State.object
        dsimp only
        rw [Keyed.get_map]
        have due_le := settled.due_le id
        cases found : state.items.get id with
        | none => simpa [State.numOf, State.object, found] using due_le
        | some loose =>
            obtain ⟨loose_mem, rfl⟩ := Keyed.get_mem found
            have after_mem : loose.after first ∈ (Selling.costItems itemData
                state.items.objects).1 := items_eq ▸ List.mem_map_of_mem loose_mem
            have covered := still _ after_mem
            simp only [Act.clear, offered, Option.isNone_some, Bool.false_or,
              List.all_eq_true] at clear
            have own := clear loose loose_mem
            simp only [Bool.or_eq_true, decide_eq_true_eq, List.all_eq_true, List.mem_inits,
              leavesDue] at own
            simp only [Option.map_some, Option.getD_some]
            rcases own with none_due | leaves
            · exact none_due.le.trans covered
            · have leaves_first := leaves first first_initial
              rw [Selling.item_after]
              dsimp only [looseId]
              linarith
      have sold_nonneg : ∀ loose ∈ (state.items.map (Loose.after first) (id_after first)).objects,
          0 ≤ loose.item.num := fun loose loose_mem => still loose (items_eq ▸ loose_mem)
      have sold : Settled tables
          { state with items := state.items.map (Loose.after first) (id_after first) }
          rest marking :=
        ⟨sold_nonneg, settled.positive, due, settled.balanced, settled.once, settled.unmarked⟩
      split
      · rw [← table_eq] at sold
        exact sold.quiet ⟨sold.nonneg, fun _ => le_rfl, rfl, rfl, rfl, rfl⟩
      · rw [← table_eq] at sold
        exact sold

/-! ## Every act -/

/-- Acts that take and apply nothing, with the numbers they need. -/
def Harmless (acts : List Act) : Prop :=
  ∀ act ∈ acts, act.Plain ∧ act.Positive

theorem Settled.goOn (settled : Settled tables state rest marking) (harmless : Harmless more) :
    Settled tables state (more ++ rest) marking :=
  (settled_plain_iff (fun act act_mem => (harmless act act_mem).1)
    fun act act_mem => (harmless act act_mem).2).mpr settled

theorem harmless_nil : Harmless [] :=
  fun _ act_mem => absurd act_mem List.not_mem_nil

theorem harmless_singleton (plain : act.Plain) (positive : act.Positive) : Harmless [act] :=
  fun _ act_mem => List.mem_singleton.mp act_mem ▸ ⟨plain, positive⟩

theorem harmless_placed {id num : ℤ} (harmless : Harmless more) :
    Harmless (placed cfg id num more) := by
  intro act act_mem
  rcases List.mem_append.mp act_mem with auto | later
  · split at auto
    · rw [List.mem_singleton.mp auto]
      exact ⟨trivial, trivial⟩
    · cases auto
  · exact harmless act later

section

variable (settled : Settled tables state rest marking)
include settled

theorem Settled.useItem {id : ℤ}
    (clear : Act.clear tables baseLevel state rest marking (.useItem id count) = true) :
    Settled tables state (useItem tables baseLevel id count state ++ rest) marking := by
  unfold ItemUses.useItem
  cases found : state.getItem id with
  | none => exact settled.goOn harmless_nil
  | some item =>
      dsimp only
      cases row : tables.cfgs item.cfgId with
      | none => exact settled.goOn harmless_nil
      | some cfg =>
          simp only [Act.clear, found, row, Option.all_some] at clear
          dsimp only
          split
          next canUse =>
            split
            · exact settled.goOn (harmless_singleton trivial trivial)
            next shared =>
              split
              next may =>
                rw [canUse, may, Bool.eq_false_iff.mpr shared] at clear
                have leaves : count + tally (Act.takes id) rest ≤ item.num := by
                  simpa [leavesDue] using clear
                have count_pos : 0 < count := by
                  have bounds := (Bool.and_eq_true_iff.mp may).2
                  exact (of_decide_eq_true bounds).1
                exact settled.start row count_pos (numOf_of_getItem found ▸ leaves)
                  fun unique => absurd unique shared
              · exact settled.goOn harmless_nil
          · exact settled.goOn harmless_nil

theorem Settled.autoUseItem {id : ℤ}
    (clear : Act.clear tables baseLevel state rest marking (.autoUseItem id count) = true) :
    Settled tables state (autoUseItem tables id count state ++ rest) marking := by
  unfold ItemUses.autoUseItem
  cases found : state.getItem id with
  | none => exact settled.goOn harmless_nil
  | some item =>
      dsimp only
      cases row : tables.cfgs item.cfgId with
      | none => exact settled.goOn harmless_nil
      | some cfg =>
          simp only [Act.clear, found, row, Option.all_some] at clear
          dsimp only
          split
          next bounds =>
            split
            · exact settled.goOn (harmless_singleton trivial trivial)
            next shared =>
              rw [decide_eq_true bounds, Bool.eq_false_iff.mpr shared] at clear
              have leaves : count + tally (Act.takes id) rest ≤ item.num := by
                simpa [leavesDue] using clear
              exact settled.start row bounds.1 (numOf_of_getItem found ▸ leaves)
                fun unique => absurd unique shared
          · exact settled.goOn harmless_nil

theorem Settled.afterUsed {auto used : Bool} {id : ℤ}
    (clear : Act.clear tables baseLevel state rest marking
      (.answered auto id count cfgId used) = true) :
    Settled tables state (afterUsed tables baseLevel auto id count cfgId used state ++ rest)
      marking := by
  unfold ItemUses.afterUsed
  cases row : tables.cfgs cfgId with
  | none => exact settled.goOn harmless_nil
  | some cfg =>
      simp only [Act.clear, row, Option.all_some] at clear
      dsimp only
      split
      · exact settled.goOn harmless_nil
      next unused =>
        split
        next may =>
          rw [may, Bool.eq_false_iff.mpr unused] at clear
          simp only [Bool.not_true, Bool.or_self, Bool.false_or, Bool.and_eq_true, leavesDue,
            decide_eq_true_eq] at clear
          exact settled.start row (by linarith [clear.2.1]) clear.1 fun _ => clear.2
        · exact settled.goOn harmless_nil

theorem Settled.resolveItem {id : ℤ}
    (clear : Act.clear tables baseLevel state rest marking (.resolveItem id count) = true) :
    Settled tables state (resolveItem tables id count state ++ rest) marking := by
  unfold ItemUses.resolveItem
  cases found : state.getItem id with
  | none => exact settled.goOn harmless_nil
  | some item =>
      dsimp only
      cases row : tables.cfgs item.cfgId with
      | none => exact settled.goOn harmless_nil
      | some cfg =>
          simp only [Act.clear, found, row, Option.all_some] at clear
          dsimp only
          split
          next bounds =>
            rw [decide_eq_true bounds] at clear
            have leaves : count + tally (Act.takes id) rest ≤ item.num := by
              simpa [leavesDue] using clear
            have reserved := settled.reserve bounds.2.1.le (numOf_of_getItem found ▸ leaves)
            rw [List.append_assoc]
            refine reserved.goOn fun act act_mem => ?_
            rcases List.mem_append.mp act_mem with adds | gives
            · obtain ⟨entry, -, rfl⟩ := List.mem_map.mp adds
              exact ⟨trivial, trivial⟩
            · obtain ⟨entry, -, rfl⟩ := List.mem_map.mp gives
              exact ⟨trivial, trivial⟩
          · exact settled.goOn harmless_nil

end

theorem Settled.overlay {left : ℤ} {ids : List ℤ} (left_pos : 0 < left)
    (settled : Settled tables state rest marking) :
    ∃ next more, overlay cfg cfgId ids left state = .go next more ∧
      Settled tables next (more ++ rest) marking := by
  cases ids with
  | nil => exact ⟨_, _, rfl, settled.goOn (harmless_singleton trivial trivial)⟩
  | cons id ids =>
      unfold ItemUses.overlay
      dsimp only
      split
      next room =>
        refine ⟨_, _, rfl, (settled.quiet (quiet_setNum settled.nonneg ?_)).goOn
          (harmless_placed ?_)⟩
        · omega
        · split
          · exact harmless_nil
          next more_left => exact harmless_singleton trivial (not_le.mp more_left)
      · exact ⟨_, _, rfl, settled.goOn (harmless_singleton trivial left_pos)⟩

theorem Settled.newItems {left : ℤ} (settled : Settled tables state rest marking) :
    ∃ next more, newItems cfg cfgId left state = .go next more ∧
      Settled tables next (more ++ rest) marking := by
  unfold ItemUses.newItems
  split
  · exact ⟨_, _, rfl, settled.goOn harmless_nil⟩
  next some_left =>
    split
    · exact ⟨_, _, rfl, settled.goOn harmless_nil⟩
    · refine ⟨_, _, rfl, (settled.quiet (quiet_add settled.nonneg ?_)).goOn
        (harmless_placed (harmless_singleton trivial trivial))⟩
      have maxNum_pos : (0 : ℤ) < cfg.maxNum := by exact_mod_cast cfg.maxNum.pos
      dsimp only
      omega

/-- An act whose condition is met ends in no assertion. -/
theorem settled_perform (settled : Settled tables state (act :: rest) marking)
    (clear : act.clear tables baseLevel state rest marking = true) :
    ∃ next more sent, perform tables baseLevel act state = ⟨next, some more, sent⟩ ∧
      Settled tables next (more ++ rest) (sent ++ marking) := by
  cases act with
  | useItem id count => exact ⟨_, _, _, rfl, (settled.drop trivial).useItem clear⟩
  | autoUseItem id count => exact ⟨_, _, _, rfl, (settled.drop trivial).autoUseItem clear⟩
  | getUsedItem auto id count cfgId =>
      exact ⟨_, _, _, rfl, (settled.drop trivial).goOn (harmless_singleton trivial trivial)⟩
  | answered auto id count cfgId used =>
      exact ⟨_, _, _, rfl, (settled.drop trivial).afterUsed clear⟩
  | round id cfgId => exact ⟨_, _, _, rfl, settled.round⟩
  | effect effect =>
      have credited : Settled tables (state.credit effect) rest marking :=
        (settled.drop trivial).quiet ⟨settled.nonneg, fun _ => le_rfl, rfl, rfl, rfl, rfl⟩
      cases effect with
      | card cfgId num =>
          exact ⟨_, _, _, rfl, credited.goOn (harmless_singleton trivial trivial)⟩
      | _ => exact ⟨_, _, _, rfl, credited⟩
  | costItemNum id count byUse =>
      obtain ⟨next, cost_eq, settled_next⟩ := settled.costItemNum
      exact ⟨next, [], [], cost_eq, settled_next⟩
  | setUsedItem cfgId => exact ⟨_, _, _, rfl, settled.setUsedItem⟩
  | addItem cfgId num =>
      have num_pos : (0 : ℤ) < ((num : ℕ) : ℤ) := by exact_mod_cast num.pos
      refine ⟨_, _, _, rfl, (settled.drop trivial).goOn ?_⟩
      split
      · exact harmless_singleton trivial num_pos
      · exact harmless_nil
  | overlay cfgId ids left =>
      have left_pos : 0 < left := settled.positive _ List.mem_cons_self
      have dropped := settled.drop trivial
      unfold perform
      dsimp only
      split
      · exact ⟨_, _, _, rfl, dropped⟩
      next cfg _ =>
        obtain ⟨next, more, overlay_eq, settled_next⟩ := dropped.overlay left_pos
        exact ⟨next, more, [], overlay_eq, settled_next⟩
  | newItems cfgId left =>
      have dropped := settled.drop trivial
      unfold perform
      dsimp only
      split
      · exact ⟨_, _, _, rfl, dropped⟩
      next cfg _ =>
        obtain ⟨next, more, newItems_eq, settled_next⟩ := dropped.newItems
        exact ⟨next, more, [], newItems_eq, settled_next⟩
  | resolveItem id count => exact ⟨_, _, _, rfl, (settled.drop trivial).resolveItem clear⟩
  | sellSkillCard itemData => exact ⟨_, _, _, rfl, (settled.drop trivial).sell clear⟩

end Steps

/-- What holds of the suspended handlers and messages together. -/
def settledStanding (tables : ItemTables) : Standing State Task where
  holds state tasks :=
    Settled tables state (tasks.flatMap Task.acts) (tasks.filterMap Task.mark)
  perm same settled := settled.perm (same.flatMap_right _) (same.filterMap _)

theorem settled_kept (tables : ItemTables) :
    (settledStanding tables).KeptBy .any (service tables) (apartUses tables) where
  accept request state others _ settled _ := by
    have harmless : Harmless [request.act] := by
      cases request <;> exact harmless_singleton trivial trivial
    have added := settled.goOn harmless
    refine added.perm ?_ ?_
    · simpa [service, Task.acts] using (List.perm_append_comm :
        ([request.act] ++ others.flatMap Task.acts).Perm _)
    · simp [service, List.filterMap_cons, Task.mark]
  resume task baseLevel state others _ _ _ settled clear := by
    match task with
    | .handler [] =>
        exact settled.perm (by simp [service, Task.acts])
          (by simp [service, List.filterMap_cons, Task.mark])
    | .handler (act :: acts) =>
        have settled_cons : Settled tables state (act :: (acts ++ others.flatMap Task.acts))
            (others.filterMap Task.mark) := settled
        obtain ⟨next, more, sent, perform_eq, settled_next⟩ := settled_perform settled_cons clear
        have sent_acts : (sent.map Task.marking).flatMap Task.acts = [] := by
          simp [List.flatMap_map, Task.acts]
        have sent_marks : (sent.map Task.marking).filterMap Task.mark = sent := by
          simp [List.filterMap_map, Function.comp_def, Task.mark]
        have result_eq : (service tables).resume (.handler (act :: acts)) baseLevel state =
            (next, .handler (more ++ acts) :: sent.map .marking) := by
          simp [service, perform_eq]
        rw [result_eq]
        refine settled_next.perm ?_ ?_
        · rw [List.flatMap_append, List.flatMap_cons, sent_acts, List.append_nil, Task.acts,
            ← List.append_assoc]
          exact List.perm_append_comm
        · rw [List.filterMap_append, List.filterMap_cons_none rfl, sent_marks]
          exact List.perm_append_comm
    | .marking cfgId =>
        have marked := Settled.mark settled
        exact marked.perm (by simp [service, Task.acts]) (by simp [service])

/-- Every effect has been paid for, and the mark of a unique item tells about its effects. -/
structure Fresh (tables : ItemTables) (state : State) : Prop where
  nonneg : ∀ loose ∈ state.items.objects, 0 ≤ loose.item.num
  balanced : state.removed = state.applied
  once : ∀ cfgId cfg, tables.cfgs cfgId = some cfg → cfg.unique = true →
    state.appliedOf cfgId ≤ if state.used cfgId then 1 else 0

/-- No stack is below zero, effects and removals agree once no handler is under way, and the
effects of a unique item are applied at most once. -/
structure UsedExactly (tables : ItemTables) (config : Config State Task) : Prop where
  nonneg : ∀ loose ∈ config.state.items.objects, 0 ≤ loose.item.num
  balanced : config.waiting.flatMap Task.acts = [] → config.state.applied = config.state.removed
  once : ∀ cfgId cfg, tables.cfgs cfgId = some cfg → cfg.unique = true →
    config.state.appliedOf cfgId ≤ 1

theorem Fresh.settled {tables : ItemTables} {state : State} (fresh : Fresh tables state) :
    Settled tables state [] [] where
  nonneg := fresh.nonneg
  positive _ act_mem := absurd act_mem List.not_mem_nil
  due_le := numOf_nonneg fresh.nonneg
  balanced id := by rw [fresh.balanced]; rfl
  once kind cfg found unique := by
    have marked := fresh.once kind cfg found unique
    rw [tally_nil, add_zero]
    split at marked <;> omega
  unmarked kind cfg found unique unused _ := by
    simpa [unused] using fresh.once kind cfg found unique

theorem Settled.usedExactly {tables : ItemTables} {config : Config State Task}
    (settled : Settled tables config.state (config.waiting.flatMap Task.acts)
      (config.waiting.filterMap Task.mark)) : UsedExactly tables config where
  nonneg := settled.nonneg
  balanced none_left := by
    funext id
    have balanced := settled.balanced id
    rw [none_left, tally_nil, tally_nil, add_zero, add_zero] at balanced
    exact balanced.symm
  once kind cfg found unique := by
    have once := settled.once kind cfg found unique
    have rounds_nonneg : 0 ≤ tally (Act.roundsOf kind) (config.waiting.flatMap Task.acts) :=
      tally_nonneg fun act _ => roundsOf_nonneg act kind
    linarith

/-- Handlers that keep apart use items exactly, over every schedule. -/
theorem used_exactly {tables : ItemTables} {state : State} {events : List (Event Request ℕ)}
    (fresh : Fresh tables state)
    (admits : (apartUses tables).Admits (service tables) ⟨state, []⟩ events) :
    UsedExactly tables ((service tables).run ⟨state, []⟩ events) :=
  Settled.usedExactly ((settled_kept tables).holds_run (Pool.any_kept _ _) admits
    (Pool.any_holds _) fresh.settled).2

/-! ## A box and two keys -/

instance (tables : ItemTables) (request state others) :
    Decidable ((apartUses tables).onRequest request state others) :=
  instDecidableTrue

instance (tables : ItemTables) (task baseLevel state others) :
    Decidable ((apartUses tables).onReply task baseLevel state others) :=
  match task with
  | .handler [] => instDecidableTrue
  | .handler (act :: acts) =>
      instDecidableEqBool (act.clear tables baseLevel state (acts ++ others.flatMap Task.acts)
        (others.filterMap Task.mark)) true
  | .marking _ => instDecidableTrue

def sampleCfg : ℤ → Option UseCfg
  | 1 => some ⟨⟨99, false⟩, true, false, false, none, [.hero 7 1 1], []⟩
  | 2 => some ⟨⟨99, false⟩, true, false, true, none, [.res 101 50], []⟩
  | _ => none

theorem sampleCfg_resolve (cfgId : ℤ) (cfg : UseCfg) (found : sampleCfg cfgId = some cfg) :
    cfg.resolveItem = [] := by
  unfold sampleCfg at found
  split at found <;> cases found <;> rfl

theorem sampleCfg_rows (cfgId : ℤ) (cfg : UseCfg) (found : sampleCfg cfgId = some cfg)
    (entry : ℤ × ℕ+) (entry_mem : entry ∈ cfg.resolveItem) :
    (fun res : ℤ => res == 101) entry.1 = true ∨ (sampleCfg entry.1).isSome = true := by
  rw [sampleCfg_resolve cfgId cfg found] at entry_mem
  cases entry_mem

def sampleTables : ItemTables :=
  ⟨sampleCfg, (· == 101), ⟨fun _ => none, fun _ => none⟩, sampleCfg_rows⟩

theorem sample_distinct :
    (([⟨⟨1, 1, 1⟩, true⟩, ⟨⟨2, 2, 2⟩, true⟩] : List Loose).map looseId).Nodup := by
  decide

def sampleState : State :=
  ⟨⟨[⟨⟨1, 1, 1⟩, true⟩, ⟨⟨2, 2, 2⟩, true⟩], sample_distinct⟩, 3, fun _ => false, [], fun _ => 0,
    fun _ => 0, fun _ => 0⟩

theorem fresh_sampleState : Fresh sampleTables sampleState :=
  ⟨by decide, rfl, fun _ _ _ _ => le_refl (0 : ℤ)⟩

/-- A second request for the box comes in while its hero is being made. -/
def boxTwice : List (Event Request ℕ) :=
  [.request (.useItem 1 1), .reply 0 1, .reply 0 1, .reply 0 1, .request (.useItem 1 1),
    .reply 1 1] ++ List.replicate 10 (.reply 0 1)

def bothKeys : List (Event Request ℕ) :=
  .request (.useItem 2 2) :: List.replicate 12 (.reply 0 1)

/-- The hero of one box is given twice, and a unique effect is applied twice. -/
theorem not_used_exactly :
    ¬ UsedExactly sampleTables ((service sampleTables).run ⟨sampleState, []⟩ boxTwice) ∧
      ¬ UsedExactly sampleTables ((service sampleTables).run ⟨sampleState, []⟩ bothKeys) := by
  constructor
  · intro exactly
    have applied_eq := congrFun (exactly.balanced (by decide +kernel)) 1
    exact absurd applied_eq (by decide +kernel)
  · intro exactly
    exact absurd (exactly.once 2 _ rfl rfl) (by decide +kernel)

/-- The box is used, and then one key. -/
theorem used_exactly_sample :
    UsedExactly sampleTables ((service sampleTables).run ⟨sampleState, []⟩
      (.request (.useItem 1 1) :: .request (.useItem 2 1) :: List.replicate 12 (.reply 0 1))) :=
  used_exactly fresh_sampleState (by decide +kernel)

end BasWar.ItemUses
