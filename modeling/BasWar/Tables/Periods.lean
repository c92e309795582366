import Mathlib.Data.List.Infix

/-!
# Periods of a journal

Some entries of a journal start a new period.  A kind of entries is limited if no stretch of the
journal within one period has more of them than a limit.  It is enough to bound, whenever an entry
is written, how many there are since the last start of a period.
-/

namespace Tables

universe u

variable {Entry : Type u} {resets counted : Entry → Bool} {journal period : List Entry}
  {entry : Entry} {limit : ℕ}

/-- The counted entries since the last one that starts a period. -/
def sinceReset (resets counted : Entry → Bool) (journal : List Entry) : ℕ :=
  journal.foldl (fun count entry =>
    if resets entry then 0 else count + if counted entry then 1 else 0) 0

/-- No stretch of the journal within one period has more counted entries than the limit. -/
def Limited (resets counted : Entry → Bool) (limit : ℕ) (journal : List Entry) : Prop :=
  ∀ period, period <:+: journal → (∀ entry ∈ period, resets entry = false) →
    period.countP counted ≤ limit

@[simp]
theorem sinceReset_nil : sinceReset resets counted [] = 0 :=
  rfl

@[simp]
theorem sinceReset_concat :
    sinceReset resets counted (journal ++ [entry]) =
      if resets entry then 0
      else sinceReset resets counted journal + if counted entry then 1 else 0 := by
  simp [sinceReset]

/-- The counted entries of an end of the journal that starts no period. -/
theorem countP_le_sinceReset (ends : period <:+ journal)
    (unbroken : ∀ entry ∈ period, resets entry = false) :
    period.countP counted ≤ sinceReset resets counted journal := by
  obtain ⟨before, rfl⟩ := ends
  induction period using List.reverseRecOn with
  | nil => simp
  | append_singleton period entry ih =>
      have earlier := ih fun other other_mem => unbroken other (List.mem_append_left _ other_mem)
      have unbroken_entry := unbroken entry (by simp)
      rw [← List.append_assoc, sinceReset_concat, unbroken_entry, List.countP_append,
        List.countP_singleton]
      simpa using earlier

theorem limited_nil : Limited resets counted limit [] := by
  intro period inside _
  rw [List.eq_nil_of_infix_nil inside]
  simp

/-- The limit is kept as long as it bounds the current period. -/
theorem Limited.concat (limited : Limited resets counted limit journal)
    (within : sinceReset resets counted (journal ++ [entry]) ≤ limit) :
    Limited resets counted limit (journal ++ [entry]) := by
  intro period inside unbroken
  rcases List.infix_concat_iff.mp inside with ends | earlier
  · exact (countP_le_sinceReset ends unbroken).trans within
  · exact limited period earlier unbroken

end Tables
