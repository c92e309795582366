import BasWar.Pvp.OpponentSearch
import Mathlib.Tactic.Linarith

/-!
# The pool of a search and its window

A pass over a range of scores adds the players that it admits, each once.  A window of a larger pool
has exactly as many players as are asked for.
-/

namespace BasWar.Pvp

open Tables

section Window

variable {Member : Type*} {randValue : ℚ} {searchCount : ℤ} {poolList : List Member}

theorem window_sublist : (window randValue searchCount poolList).Sublist poolList := by
  unfold window
  dsimp only
  split
  · exact List.Sublist.refl _
  · exact (List.take_sublist _ _).trans (List.drop_sublist _ _)

theorem length_window (count_nonneg : 0 ≤ searchCount) (rand_nonneg : 0 ≤ randValue)
    (rand_lt : randValue < 1) :
    ((window randValue searchCount poolList).length : ℤ) = min searchCount poolList.length := by
  unfold window
  dsimp only
  split
  next fits => rw [min_eq_right fits]
  next larger =>
    have psize_pos : (0 : ℚ) < poolList.length := by
      have pos : (0 : ℤ) < poolList.length := count_nonneg.trans_lt (not_le.mp larger)
      exact_mod_cast pos
    have index_nonneg : 0 ≤ ⌊randValue * (poolList.length : ℤ)⌋ :=
      Int.floor_nonneg.mpr (mul_nonneg rand_nonneg (Int.cast_nonneg (Int.natCast_nonneg _)))
    have index_lt : ⌊randValue * (poolList.length : ℤ)⌋ < poolList.length := by
      rw [Int.floor_lt, Int.cast_natCast]
      exact mul_lt_of_lt_one_left psize_pos rand_lt
    generalize ⌊randValue * (poolList.length : ℤ)⌋ = index at index_nonneg index_lt ⊢
    rw [List.length_take, List.length_drop]
    split_ifs <;> omega

end Window

def Pool.ids (pool : Pool) : List ℕ :=
  pool.list.map Found.pid

variable {found : Found}

theorem Pool.mem_ids_add {pool : Pool} {other : ℕ} :
    other ∈ (pool.add found).ids ↔ other ∈ pool.ids ∨ other = found.pid := by
  unfold Pool.add
  split
  next listed =>
    obtain ⟨old, old_mem, same⟩ := List.any_eq_true.mp listed
    have found_mem : found.pid ∈ pool.ids :=
      of_decide_eq_true same ▸ List.mem_map_of_mem old_mem
    exact ⟨.inl, fun either => either.elim id fun named => named ▸ found_mem⟩
  · simp [Pool.ids]

theorem Pool.nodup_ids_add {pool : Pool} (nodup : pool.ids.Nodup) : (pool.add found).ids.Nodup := by
  unfold Pool.add
  split
  · exact nodup
  next new =>
    rw [Pool.ids, List.map_append, List.nodup_append]
    refine ⟨nodup, List.nodup_singleton _, fun name name_mem other other_mem same => new ?_⟩
    obtain ⟨old, old_mem, rfl⟩ := List.mem_map.mp name_mem
    obtain rfl := List.mem_singleton.mp other_mem
    exact List.any_eq_true.mpr ⟨old, old_mem, decide_eq_true same⟩

@[simp]
theorem Pool.lvBoundary_add (found : Found) (pool : Pool) :
    (pool.add found).lvBoundary = pool.lvBoundary := by
  unfold Pool.add
  split <;> rfl

theorem Pool.mem_add {other : Found} {pool : Pool} (mem : other ∈ (pool.add found).list) :
    other = found ∨ other ∈ pool.list := by
  unfold Pool.add at mem
  split at mem
  · exact .inr mem
  · rcases List.mem_append.mp mem with old | new
    · exact .inr old
    · exact .inl (List.mem_singleton.mp new)

namespace Search

variable (search : Search)

/-- A player whom the caller may meet. -/
def Candidate (other : ℕ) : Prop :=
  other ≠ search.pid ∧ other ≠ search.excludePid

/-- One that the protection check lets through. -/
def Eligible (other : ℕ) : Prop :=
  search.Candidate other ∧ ¬ search.Refuses other

/-- One that a pass with a level filter adds. -/
def Admits (other : ℕ) : Prop :=
  search.Eligible other ∧
    (search.expandLv = 1 ∨ search.InBounds search.lvBoundary (search.level other))

/-- One that a pass adds, with these level bounds in force. -/
def Adds (isFilterLv : Bool) (lvBoundary : ℤ) (other : ℕ) : Prop :=
  search.Eligible other ∧
    (isFilterLv = true → search.expandLv = 1 ∨ search.InBounds lvBoundary (search.level other))

instance (other : ℕ) : Decidable (search.Candidate other) :=
  instDecidableAnd

instance (other : ℕ) : Decidable (search.Eligible other) :=
  instDecidableAnd

instance (other : ℕ) : Decidable (search.Admits other) :=
  instDecidableAnd

instance (isFilterLv : Bool) (lvBoundary : ℤ) (other : ℕ) :
    Decidable (search.Adds isFilterLv lvBoundary other) :=
  instDecidableAnd

/-- The level bounds after one player of a filtered pass. -/
def widen (lvBoundary : ℤ) (member : ℕ × ℤ) : ℤ :=
  if search.Eligible member.1 ∧ ¬ search.InBounds lvBoundary (search.level member.1) ∧
      search.expandLv = 1 then lvBoundary * 2
  else lvBoundary

/-- A pool whose players are listed once, with their levels. -/
structure Sound (pool : Pool) : Prop where
  nodup : pool.ids.Nodup
  level : ∀ found ∈ pool.list, found.level = search.level found.pid
  fixed : search.expandLv ≠ 1 → pool.lvBoundary = search.lvBoundary

variable {search} {pool : Pool} {member : ℕ × ℤ} {isFilterLv : Bool}

theorem widen_fixed (fixed : search.expandLv ≠ 1) (lvBoundary : ℤ) :
    search.widen lvBoundary member = lvBoundary :=
  if_neg fun widens => fixed widens.2.2

theorem adds_iff_admits (sound : search.Sound pool) (other : ℕ) :
    search.Adds true pool.lvBoundary other ↔ search.Admits other := by
  unfold Adds Admits
  by_cases widens : search.expandLv = 1
  · simp [widens]
  · simp [widens, sound.fixed widens]

theorem select_eq (isFilterLv : Bool) (pool : Pool) (member : ℕ × ℤ) :
    search.select isFilterLv pool member =
      if search.Adds isFilterLv pool.lvBoundary member.1 then
        { pool with
          lvBoundary :=
            if isFilterLv then search.widen pool.lvBoundary member else pool.lvBoundary }.add
          ⟨member.1, member.2, search.level member.1⟩
      else pool := by
  have not_adds (ineligible : ¬ search.Eligible member.1) :
      ¬ search.Adds isFilterLv pool.lvBoundary member.1 := fun adds => ineligible adds.1
  unfold select
  dsimp only
  by_cases named : member.1 = search.pid ∨ member.1 = search.excludePid
  · rw [if_pos named, if_neg (not_adds fun eligible => named.elim eligible.1.1 eligible.1.2)]
  rw [if_neg named]
  by_cases refused : search.Refuses member.1
  · rw [if_pos refused, if_neg (not_adds fun eligible => eligible.2 refused)]
  rw [if_neg refused]
  have eligible : search.Eligible member.1 := ⟨not_or.mp named, refused⟩
  cases isFilterLv with
  | false => simp [Adds, eligible]
  | true =>
      by_cases inside : search.InBounds pool.lvBoundary (search.level member.1)
      · simp [Adds, eligible, inside, widen]
      · by_cases widens : search.expandLv = 1
        · simp [Adds, eligible, inside, widens, widen]
        · simp [Adds, inside, widens]

variable {other : ℕ}

theorem mem_select :
    other ∈ (search.select isFilterLv pool member).ids ↔
      other ∈ pool.ids ∨ other = member.1 ∧ search.Adds isFilterLv pool.lvBoundary member.1 := by
  rw [select_eq]
  split
  next adds =>
    rw [Pool.mem_ids_add]
    exact or_congr_right (and_iff_left adds).symm
  next adds_not => exact (or_iff_left fun added => adds_not added.2).symm

theorem lvBoundary_select :
    (search.select true pool member).lvBoundary = search.widen pool.lvBoundary member := by
  rw [select_eq]
  split
  · exact Pool.lvBoundary_add _ _
  next adds_not =>
    refine (if_neg fun widens => adds_not ⟨widens.1, fun _ => .inl widens.2.2⟩).symm

theorem Sound.select (sound : search.Sound pool) (isFilterLv : Bool) (member : ℕ × ℤ) :
    search.Sound (search.select isFilterLv pool member) := by
  rw [select_eq]
  split
  · refine ⟨Pool.nodup_ids_add sound.nodup, fun found found_mem => ?_, fun fixed => ?_⟩
    · rcases Pool.mem_add found_mem with rfl | old
      · rfl
      · exact sound.level found old
    · rw [Pool.lvBoundary_add]
      dsimp only
      rw [widen_fixed fixed, ite_self]
      exact sound.fixed fixed
  · exact sound

variable {members : List (ℕ × ℤ)}

theorem Sound.foldl_select (sound : search.Sound pool) :
    search.Sound (members.foldl (search.select isFilterLv) pool) := by
  induction members generalizing pool with
  | nil => exact sound
  | cons member members ih => exact ih (sound.select isFilterLv member)

theorem lvBoundary_foldl_select :
    (members.foldl (search.select true) pool).lvBoundary =
      members.foldl search.widen pool.lvBoundary := by
  induction members generalizing pool with
  | nil => rfl
  | cons member members ih => rw [List.foldl_cons, List.foldl_cons, ih, lvBoundary_select]

theorem mem_filtered_pass (sound : search.Sound pool) :
    other ∈ (members.foldl (search.select true) pool).ids ↔
      other ∈ pool.ids ∨ other ∈ members.map Prod.fst ∧ search.Admits other := by
  induction members generalizing pool with
  | nil => simp
  | cons member members ih =>
      rw [List.foldl_cons, ih (sound.select true member), mem_select, adds_iff_admits sound,
        List.map_cons, List.mem_cons, or_assoc, or_and_right]
      refine or_congr_right (or_congr_left (and_congr_right fun named => ?_))
      rw [named]

theorem mem_unfiltered_pass :
    other ∈ (members.foldl (search.select false) pool).ids ↔
      other ∈ pool.ids ∨ other ∈ members.map Prod.fst ∧ search.Eligible other := by
  induction members generalizing pool with
  | nil => simp
  | cons member members ih =>
      rw [List.foldl_cons, ih, mem_select, List.map_cons, List.mem_cons, or_assoc, or_and_right]
      refine or_congr_right (or_congr_left (and_congr_right fun named => ?_))
      rw [named]
      simp [Adds]

end Search

end BasWar.Pvp
