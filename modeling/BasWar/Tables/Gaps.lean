import Mathlib.Algebra.Order.Ring.Int
import Mathlib.Tactic.Linarith

/-!
# Gaps between successive times

An interval that is split at several times.  Counting the whole units of each gap loses the rests
of the gaps.
-/

namespace Tables

/-- Whole units of the gaps from a start through successive times. -/
def wholeUnits (unit : ℤ) : ℤ → List ℤ → ℤ
  | _, [] => 0
  | start, time :: times => (time - start) / unit + wholeUnits unit time times

/-- What the gaps have beyond whole units. -/
def restUnits (unit : ℤ) : ℤ → List ℤ → ℤ
  | _, [] => 0
  | start, time :: times => (time - start) % unit + restUnits unit time times

variable {unit start : ℤ} {times : List ℤ}

/-- Whole units and rests make up the interval. -/
theorem wholeUnits_add_restUnits (unit start : ℤ) (times : List ℤ) :
    unit * wholeUnits unit start times + restUnits unit start times =
      (times.getLast?).getD start - start := by
  induction times generalizing start with
  | nil => simp [wholeUnits, restUnits]
  | cons time times ih =>
      have gap := Int.mul_ediv_add_emod (time - start) unit
      have rest := ih time
      rw [wholeUnits, restUnits, List.getLast?_cons, Option.getD_some, mul_add]
      linarith

theorem restUnits_nonneg (unit_pos : 0 < unit) (start : ℤ) (times : List ℤ) :
    0 ≤ restUnits unit start times := by
  induction times generalizing start with
  | nil => exact le_rfl
  | cons time times ih => exact add_nonneg (Int.emod_nonneg _ unit_pos.ne') (ih time)

theorem wholeUnits_nonneg (unit_pos : 0 < unit) (sorted : (start :: times).Pairwise (· ≤ ·)) :
    0 ≤ wholeUnits unit start times := by
  induction times generalizing start with
  | nil => exact le_rfl
  | cons time times ih =>
      rw [List.pairwise_cons] at sorted
      have gap_nonneg := sub_nonneg.mpr (sorted.1 time List.mem_cons_self)
      exact add_nonneg (Int.ediv_nonneg gap_nonneg unit_pos.le) (ih sorted.2)

/-- A loss leaves the quotient as it is exactly if the remainder covers it. -/
theorem sub_ediv_eq_iff {total loss period : ℤ} (period_pos : 0 < period) (loss_nonneg : 0 ≤ loss) :
    (total - loss) / period = total / period ↔ loss ≤ total % period := by
  have split := Int.mul_ediv_add_emod total period
  have less := Int.emod_lt_of_pos total period_pos
  rw [Int.ediv_eq_iff_of_pos period_pos]
  constructor
  · rintro ⟨le, -⟩
    linarith
  · intro covered
    constructor <;> linarith

end Tables
