import Mathlib.Algebra.Order.BigOperators.Group.List
import Mathlib.Algebra.Order.Field.Basic
import Mathlib.Data.List.Count
import Mathlib.Data.Rat.Cast.Order
import Mathlib.Tactic.Ring

/-!
# Equal shares of several portions

Each portion is shared equally by the members that it covers.  Portions may cover the same member,
and a member or a portion may go without the other.
-/

namespace Tables

universe u v

section Shares

variable {Member : Type u} {Portion : Type v} (covers : Portion → Member → Prop)
  [∀ portion, DecidablePred (covers portion)] (amount : Portion → ℚ) (members : List Member)

/-- The members that a portion covers. -/
def heads (portion : Portion) : ℕ :=
  members.countP fun member => covers portion member

/-- What all the portions that cover a member come to for him. -/
def due (portions : List Portion) (member : Member) : ℚ :=
  (portions.map fun portion =>
    if covers portion member then amount portion / heads covers members portion else 0).sum

variable {covers amount members} {portions : List Portion}

theorem heads_pos {portion : Portion} {member : Member} (member_mem : member ∈ members)
    (covered : covers portion member) : 0 < heads covers members portion :=
  List.countP_pos_iff.mpr ⟨member, member_mem, decide_eq_true covered⟩

/-- A share of one portion is at most what is due. -/
theorem share_le_due (nonneg : ∀ portion ∈ portions, 0 ≤ amount portion) {portion : Portion}
    {member : Member} (portion_mem : portion ∈ portions) (covered : covers portion member) :
    amount portion / heads covers members portion ≤ due covers amount members portions member := by
  refine List.single_le_sum ?_ _ (List.mem_map.mpr ⟨portion, portion_mem, if_pos covered⟩)
  intro share share_mem
  obtain ⟨other, other_mem, rfl⟩ := List.mem_map.mp share_mem
  split
  · exact div_nonneg (nonneg other other_mem) (Nat.cast_nonneg _)
  · exact le_rfl

theorem due_nonneg (nonneg : ∀ portion ∈ portions, 0 ≤ amount portion) (member : Member) :
    0 ≤ due covers amount members portions member := by
  refine List.sum_nonneg fun share share_mem => ?_
  obtain ⟨other, other_mem, rfl⟩ := List.mem_map.mp share_mem
  split
  · exact div_nonneg (nonneg other other_mem) (Nat.cast_nonneg _)
  · exact le_rfl

theorem sum_ite_eq_countP (chosen : Member → Prop) [DecidablePred chosen] (share : ℚ)
    (members : List Member) :
    (members.map fun member => if chosen member then share else 0).sum =
      members.countP (fun member => chosen member) * share := by
  induction members with
  | nil => simp
  | cons member members ih =>
      rw [List.map_cons, List.sum_cons, ih, List.countP_cons]
      by_cases is_chosen : chosen member
      · simp only [is_chosen, if_true, decide_true]
        push_cast
        ring
      · simp [is_chosen]

/-- What is due to all members is at most what the portions hold. -/
theorem sum_due_le (nonneg : ∀ portion ∈ portions, 0 ≤ amount portion) :
    (members.map (due covers amount members portions)).sum ≤ (portions.map amount).sum := by
  have all (others : List Member) : (others.map (due covers amount members portions)).sum =
      (portions.map fun portion =>
        others.countP (fun member => covers portion member) *
          (amount portion / heads covers members portion)).sum := by
    induction portions with
    | nil =>
        have nothing : due covers amount members [] = fun _ => 0 := rfl
        simp [nothing]
    | cons portion portions ih =>
        have split_eq : due covers amount members (portion :: portions) = fun member =>
            (if covers portion member then amount portion / heads covers members portion else 0) +
              due covers amount members portions member := by
          funext member
          rw [due, List.map_cons, List.sum_cons, due]
        rw [split_eq, List.sum_map_add, sum_ite_eq_countP,
          ih fun other other_mem => nonneg other (List.mem_cons_of_mem _ other_mem), List.map_cons,
          List.sum_cons]
  rw [all members]
  refine List.sum_le_sum fun portion portion_mem => ?_
  change (heads covers members portion : ℚ) * (amount portion / heads covers members portion) ≤ _
  rcases Nat.eq_zero_or_pos (heads covers members portion) with none | some
  · rw [none, Nat.cast_zero, zero_mul]
    exact nonneg portion portion_mem
  · rw [mul_comm, div_mul_cancel₀ _ (Nat.cast_ne_zero.mpr some.ne')]

end Shares

end Tables
