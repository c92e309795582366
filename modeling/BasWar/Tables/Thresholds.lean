import Mathlib.Data.Nat.Notation
import Mathlib.Order.Defs.PartialOrder

/-!
# Climbing thresholds

A level is left upwards while its threshold is reached, and the last one is never left.  An amount
that grows in parts climbs as far as it does at once.
-/

namespace Tables

universe u

/-- How many levels an amount climbs. -/
def climb {Amount : Type u} [LE Amount] [DecidableLE Amount] (amount : Amount) : List Amount → ℕ
  | need :: next :: rows => if need ≤ amount then climb amount (next :: rows) + 1 else 0
  | _ => 0

theorem climb_add {Amount : Type u} [Preorder Amount] [DecidableLE Amount] {amount more : Amount}
    (le : amount ≤ more) (rows : List Amount) :
    climb amount rows + climb more (rows.drop (climb amount rows)) = climb more rows := by
  fun_induction climb amount rows with
  | case1 need next rows reached ih =>
      rw [climb, if_pos (le_trans reached le), List.drop_succ_cons, Nat.add_right_comm, ih]
  | case2 => exact Nat.zero_add _
  | case3 => exact Nat.zero_add _

end Tables
