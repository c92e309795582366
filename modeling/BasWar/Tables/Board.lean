import Mathlib

/-!
# Boards

A board names for each cell the piece that covers it, or a blank.  It shows the areas of the pieces
if it names a piece exactly on the area of that piece; pieces that are shown cannot overlap.  Pieces
are lifted from a board and put down on it by filling their areas.
-/

namespace Tables

universe u v

variable {Cell : Type u} {Key : Type v} {blank : Key} {board filled : Cell → Key}
  {area : Key → Set Cell} {region : Set Cell} {key : Key}

/-- The board names each key exactly on the area of that key. -/
def Shows (blank : Key) (board : Cell → Key) (area : Key → Set Cell) : Prop :=
  ∀ cell key, key ≠ blank → (board cell = key ↔ cell ∈ area key)

/-- The second board is the first one with a region filled by one key. -/
def Fills (region : Set Cell) (key : Key) (board filled : Cell → Key) : Prop :=
  (∀ cell ∈ region, filled cell = key) ∧ ∀ cell ∉ region, filled cell = board cell

namespace Shows

section

variable (shown : Shows blank board area)
include shown

theorem disjoint {first second : Key} (first_ne : first ≠ blank) (second_ne : second ≠ blank)
    (different : first ≠ second) : Disjoint (area first) (area second) := by
  rw [Set.disjoint_left]
  intro cell in_first in_second
  have named_first := (shown cell first first_ne).mpr in_first
  have named_second := (shown cell second second_ne).mpr in_second
  exact different (named_first.symm.trans named_second)

theorem eq_blank_iff (cell : Cell) : board cell = blank ↔ ∀ key ≠ blank, cell ∉ area key := by
  constructor
  · intro is_blank key key_ne covered
    exact key_ne ((shown cell key key_ne).mpr covered ▸ is_blank)
  · intro uncovered
    by_contra named
    exact uncovered (board cell) named ((shown cell _ named).mp rfl)

theorem lift [DecidableEq Key] (key_ne : key ≠ blank)
    (fills : Fills (area key) blank board filled) :
    Shows blank filled (Function.update area key ∅) := by
  intro cell other other_ne
  by_cases same : other = key
  · subst same
    suffices filled cell ≠ other by simpa using this
    by_cases inside : cell ∈ area other
    · rw [fills.1 cell inside]
      exact other_ne.symm
    · rw [fills.2 cell inside]
      exact fun named => inside ((shown cell other other_ne).mp named)
  · rw [Function.update_of_ne same]
    by_cases inside : cell ∈ area key
    · have named := (shown cell key key_ne).mpr inside
      have elsewhere : cell ∉ area other := fun covered =>
        same (((shown cell other other_ne).mpr covered).symm.trans named)
      rw [fills.1 cell inside]
      exact iff_of_false other_ne.symm elsewhere
    · rw [fills.2 cell inside]
      exact shown cell other other_ne

theorem put [DecidableEq Key] (key_ne : key ≠ blank) (lifted : area key = ∅)
    (free : ∀ cell ∈ region, board cell = blank) (fills : Fills region key board filled) :
    Shows blank filled (Function.update area key region) := by
  intro cell other other_ne
  by_cases same : other = key
  · subst same
    rw [Function.update_self]
    by_cases inside : cell ∈ region
    · exact iff_of_true (fills.1 cell inside) inside
    · rw [fills.2 cell inside]
      refine iff_of_false (fun named => ?_) inside
      simpa [lifted] using (shown cell other other_ne).mp named
  · rw [Function.update_of_ne same]
    by_cases inside : cell ∈ region
    · rw [fills.1 cell inside]
      have uncovered := (shown.eq_blank_iff cell).mp (free cell inside) other other_ne
      exact iff_of_false (Ne.symm same) uncovered
    · rw [fills.2 cell inside]
      exact shown cell other other_ne

end

/-- Once some pieces are lifted, the cells that named one of them are blank. -/
theorem blank_of_lifted {rest : Key → Set Cell} (lifted : Set Key)
    (shown : Shows blank board area) (after : Shows blank filled rest)
    (gone : ∀ key ∈ lifted, rest key = ∅) (others : ∀ key ∉ lifted, rest key = area key)
    {cell : Cell} (free : board cell ∈ lifted ∨ board cell = blank) : filled cell = blank := by
  rw [after.eq_blank_iff]
  intro key key_ne covered
  by_cases key_lifted : key ∈ lifted
  · simp [gone key key_lifted] at covered
  · rw [others key key_lifted] at covered
    have named := (shown cell key key_ne).mpr covered
    rcases free with is_lifted | is_blank
    · exact key_lifted (named ▸ is_lifted)
    · exact key_ne (named.symm.trans is_blank)

end Shows

/-- A blank board shows that nothing has an area. -/
theorem shows_blank (blank : Key) (none : ∀ key ≠ blank, area key = ∅) :
    Shows blank (fun _ : Cell => blank) area := by
  intro cell key key_ne
  simp [none key key_ne, key_ne.symm]

end Tables
