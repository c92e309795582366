import BasWar.Tables.Documents
import Mathlib.Algebra.Order.BigOperators.Group.List
import Mathlib.Algebra.BigOperators.Ring.Finset
import Mathlib.Algebra.BigOperators.Ring.List
import Mathlib.Algebra.Order.Field.Basic
import Mathlib.Data.Rat.Floor

/-!
# Accounts and shares by weight

A loop over a table changes the account of each of its keys once, and opens an account when it is
first written.  An amount is split by weights, and each share is rounded down.
-/

namespace Tables

universe u v w x

namespace Dict

variable {Key : Type u} {Value : Type v} {Other : Type w} [DecidableEq Key]

/-- Change the values of a table and leave out some. -/
def filterMap (table : Dict Key Value) (change : Key → Value → Option Other) : Dict Key Other where
  objects := table.objects.filterMap fun entry => (change entry.1 entry.2).map (Prod.mk entry.1)
  nodup := by
    refine table.nodup.sublist ?_
    rw [List.map_filterMap]
    have keys_eq : (table.objects.filterMap fun entry =>
        ((change entry.1 entry.2).map (Prod.mk entry.1)).map Prod.fst) =
          (table.objects.filter fun entry => (change entry.1 entry.2).isSome).map Prod.fst := by
      rw [← List.filterMap_eq_map, List.filterMap_filter]
      refine List.filterMap_congr fun entry _ => ?_
      cases change entry.1 entry.2 <;> simp
    rw [keys_eq]
    exact List.filter_sublist.map Prod.fst

theorem lookup_eq_none_iff {table : Dict Key Value} {name : Key} :
    table.lookup name = none ↔ ∀ entry ∈ table.objects, entry.1 ≠ name := by
  simp [lookup, Keyed.get, List.find?_eq_none]

theorem lookup_filterMap (table : Dict Key Value) (change : Key → Value → Option Other)
    (name : Key) :
    (table.filterMap change).lookup name = (table.lookup name).bind (change name) := by
  cases found : table.lookup name with
  | none =>
      rw [Option.bind_none, lookup_eq_none_iff]
      rintro ⟨_, _⟩ other_mem
      obtain ⟨entry, entry_mem, entry_eq⟩ := List.mem_filterMap.mp other_mem
      obtain ⟨value, _, rfl, rfl⟩ := Option.map_eq_some_iff.mp entry_eq
      exact lookup_eq_none_iff.mp found entry entry_mem
  | some value =>
      have entry_mem := mem_of_lookup found
      rw [Option.bind_some]
      cases changed : change name value with
      | none =>
          rw [lookup_eq_none_iff]
          rintro ⟨_, _⟩ other_mem same
          obtain ⟨entry, other_entry_mem, entry_eq⟩ := List.mem_filterMap.mp other_mem
          obtain ⟨other, other_eq, rfl, rfl⟩ := Option.map_eq_some_iff.mp entry_eq
          have entry_is := Keyed.eq_of_key_eq other_entry_mem entry_mem same
          rw [entry_is, changed] at other_eq
          cases other_eq
      | some other =>
          have changed_mem : (name, other) ∈ (table.filterMap change).objects :=
            List.mem_filterMap.mpr ⟨(name, value), entry_mem, by rw [changed]; rfl⟩
          exact lookup_of_mem changed_mem

theorem sum_filterMap {Amount : Type x} [AddCommMonoid Amount] (table : Dict Key Value)
    (change : Key → Value → Option Other) (amount : Other → Amount) :
    ((table.filterMap change).objects.map fun entry => amount entry.2).sum =
      (table.objects.map fun entry => (change entry.1 entry.2).elim 0 amount).sum := by
  obtain ⟨entries, nodup⟩ := table
  simp only [filterMap]
  clear nodup
  induction entries with
  | nil => rfl
  | cons entry entries ih =>
      rw [List.map_cons, List.sum_cons, ← ih]
      cases changed : change entry.1 entry.2 with
      | none =>
          rw [List.filterMap_cons_none (by rw [changed]; rfl), Option.elim_none, zero_add]
      | some other =>
          rw [List.filterMap_cons_some (by rw [changed]; rfl), List.map_cons, List.sum_cons,
            Option.elim_some]

end Dict

section Accounts

variable {Key : Type u} {Account : Type v} {Value : Type w} [DecidableEq Key] [Inhabited Account]

/-- The account of a key, or a new one. -/
def account (accounts : Dict Key Account) (name : Key) : Account :=
  (accounts.lookup name).getD default

/-- Each round of a loop over a table changes the account of its key. -/
def loop (table : Dict Key Value) (change : Key → Value → Account → Account)
    (accounts : Dict Key Account) : Dict Key Account :=
  table.objects.foldl (fun accounts entry =>
    accounts.assign entry.1 (change entry.1 entry.2 (account accounts entry.1))) accounts

variable {table : Dict Key Value} {change : Key → Value → Account → Account}
  {accounts : Dict Key Account}

theorem account_assign (accounts : Dict Key Account) (name other : Key) (value : Account) :
    account (accounts.assign name value) other =
      if other = name then value else account accounts other := by
  rw [account, Dict.lookup_assign]
  split <;> rfl

theorem account_loop (table : Dict Key Value) (change : Key → Value → Account → Account)
    (accounts : Dict Key Account) (name : Key) :
    account (loop table change accounts) name =
      match table.lookup name with
      | none => account accounts name
      | some value => change name value (account accounts name) := by
  refine Dict.foldl_view table _ account change ?_ ?_ accounts name
  · intro accounts entry other different
    rw [account_assign, if_neg different]
  · intro accounts entry
    rw [account_assign, if_pos rfl]

theorem sum_loop {Amount : Type x} [AddCommGroup Amount] (amount : Account → Amount)
    (gain : Value → Amount) (amount_default : amount default = 0)
    (amount_change : ∀ name value account,
      amount (change name value account) = amount account + gain value) :
    ((loop table change accounts).objects.map fun entry => amount entry.2).sum =
      (accounts.objects.map fun entry => amount entry.2).sum +
        (table.objects.map fun entry => gain entry.2).sum := by
  unfold loop
  generalize table.objects = entries
  induction entries generalizing accounts with
  | nil => simp
  | cons entry entries ih =>
      have written := @Keyed.sum_set _ _ Prod.fst accounts
        (entry.1, change entry.1 entry.2 (account accounts entry.1)) _ _ _
        fun entry : Key × Account => amount entry.2
      have old_eq :
          ((accounts.get entry.1).map fun entry : Key × Account => amount entry.2).getD 0 =
          amount (account accounts entry.1) := by
        rw [account, Dict.lookup]
        cases accounts.get entry.1 with
        | none => exact amount_default.symm
        | some _ => rfl
      rw [old_eq, amount_change] at written
      have assigned : ((accounts.assign entry.1
          (change entry.1 entry.2 (account accounts entry.1))).objects.map
            fun entry => amount entry.2).sum =
          (accounts.objects.map fun entry => amount entry.2).sum + gain entry.2 := by
        rw [add_left_comm, ← add_assoc, add_comm (amount _), add_assoc, add_comm (amount _),
          ← add_assoc] at written
        exact add_right_cancel written
      rw [List.foldl_cons, ih, assigned, List.map_cons, List.sum_cons, add_assoc]

end Accounts

variable {amount : ℚ}

/-- Rounding down gives away at most what there is. -/
theorem sum_floor_mul_le (amount_nonneg : 0 ≤ amount) {ratios : List ℚ} (sum_le : ratios.sum ≤ 1) :
    ((ratios.map fun ratio => ⌊amount * ratio⌋).sum : ℚ) ≤ amount := by
  calc
    ((ratios.map fun ratio => ⌊amount * ratio⌋).sum : ℚ)
        = (ratios.map fun ratio => (⌊amount * ratio⌋ : ℚ)).sum := by
      rw [Int.cast_list_sum, List.map_map]
      rfl
    _ ≤ (ratios.map fun ratio => amount * ratio).sum :=
      List.sum_le_sum fun ratio _ => Int.floor_le _
    _ = amount * ratios.sum := by rw [List.sum_map_mul_left, List.map_id']
    _ ≤ amount := mul_le_of_le_one_right amount_nonneg sum_le

/-- The share of one weight; only a positive weight has one. -/
def weightShare (amount total weight : ℚ) : ℤ :=
  if 0 < weight then max ⌊amount * (weight / total)⌋ 0 else 0

theorem weightShare_le {total weight : ℚ} (amount_nonneg : 0 ≤ amount) (total_pos : 0 < total)
    (weight_nonneg : 0 ≤ weight) :
    (weightShare amount total weight : ℚ) ≤ amount * (weight / total) := by
  have part_nonneg : 0 ≤ amount * (weight / total) :=
    mul_nonneg amount_nonneg (div_nonneg weight_nonneg total_pos.le)
  unfold weightShare
  split
  · rw [Int.cast_max, Int.cast_zero]
    exact max_le (Int.floor_le _) part_nonneg
  · rw [Int.cast_zero]
    exact part_nonneg

/-- A total that is not positive leaves nobody a share. -/
theorem weightShare_of_nonpos {total : ℚ} (amount_nonneg : 0 ≤ amount) (total_nonpos : total ≤ 0)
    (weight : ℚ) : weightShare amount total weight = 0 := by
  unfold weightShare
  split
  next weight_pos =>
    have part_nonpos : amount * (weight / total) ≤ 0 :=
      mul_nonpos_of_nonneg_of_nonpos amount_nonneg
        (div_nonpos_of_nonneg_of_nonpos weight_pos.le total_nonpos)
    exact max_eq_right (Int.floor_nonpos part_nonpos)
  · rfl

/-- All shares come to at most the amount, unless a negative weight is in a positive total. -/
theorem sum_weightShare_le (amount_nonneg : 0 ≤ amount) {weights : List ℚ}
    (fair : 0 < weights.sum → ∀ weight ∈ weights, 0 ≤ weight) :
    ((weights.map (weightShare amount weights.sum)).sum : ℚ) ≤ amount := by
  rw [Int.cast_list_sum, List.map_map]
  rcases le_or_gt weights.sum 0 with nonpos | pos
  · have nothing : weights.map (Int.cast ∘ weightShare amount weights.sum) =
        weights.map fun _ => (0 : ℚ) := by
      refine List.map_congr_left fun weight _ => ?_
      rw [Function.comp_apply, weightShare_of_nonpos amount_nonneg nonpos, Int.cast_zero]
    rw [nothing, List.sum_map_zero]
    exact amount_nonneg
  · calc
      (weights.map (Int.cast ∘ weightShare amount weights.sum)).sum
          ≤ (weights.map fun weight => amount * (weight / weights.sum)).sum :=
        List.sum_le_sum fun weight weight_mem =>
          weightShare_le amount_nonneg pos (fair pos weight weight_mem)
      _ = amount * (weights.sum / weights.sum) := by
        simp only [div_eq_mul_inv]
        rw [List.sum_map_mul_left, List.sum_map_mul_right, List.map_id']
      _ = amount := by rw [div_self pos.ne', mul_one]

end Tables
