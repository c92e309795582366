import BasWar.Pvp.OpponentPool

/-!
# The course of a search

The boundaries that a search goes through, told by counts over the rank table alone, and the pool
that it has after them.
-/

namespace BasWar.Pvp.Search

open Tables

variable (search : Search) (score : ℤ)

def InRange (boundary : ℤ) (member : ℕ × ℤ) : Prop :=
  score - boundary ≤ member.2 ∧ member.2 ≤ score + boundary

instance (boundary : ℤ) (member : ℕ × ℤ) : Decidable (InRange score boundary member) :=
  instDecidableAnd

def doublings (rounds : ℕ) : List ℤ :=
  (List.range rounds).map fun round => search.scoreBoundary * 2 ^ (round + 1)

/-- The boundaries whose ranges have enough players for a pass. -/
def scanned (course : List ℤ) : List ℤ :=
  course.filter fun boundary => search.searchCount ≤ search.rangeCount score boundary

/-- The players that the filtered passes add. -/
def admitted (course : List ℤ) : List (ℕ × ℤ) :=
  search.rank.objects.filter fun member =>
    search.Admits member.1 ∧
      (search.scanned score course).any fun boundary => InRange score boundary member

/-- The level bounds after the filtered passes. -/
def widened (course : List ℤ) : ℤ :=
  (search.scanned score course).foldl
    (fun lvBoundary boundary => (search.range score boundary).foldl search.widen lvBoundary)
    search.lvBoundary

/-- The doubled boundary is large enough, or enough players have been added. -/
def StopsAt (rounds : ℕ) : Prop :=
  search.maxScope ≤ search.scoreBoundary * 2 ^ rounds ∨
    0 < rounds ∧ search.searchCount ≤ (search.admitted score (search.doublings rounds)).length

/-- The boundaries that a search goes through. -/
def Course (course : List ℤ) : Prop :=
  if search.rangeCount score search.scoreBoundary ≤ search.searchCount then
    if search.expandScope = 1 then
      ∃ rounds, search.StopsAt score rounds ∧ (∀ earlier < rounds, ¬ search.StopsAt score earlier) ∧
        course = search.doublings rounds
    else course = []
  else course = [search.scoreBoundary]

def lastBoundary (course : List ℤ) : ℤ :=
  course.getLast?.getD search.scoreBoundary

/-- A filtered pass, where there are enough players. -/
def scan (pool : Pool) (boundary : ℤ) : Pool :=
  if search.searchCount ≤ search.rangeCount score boundary then
    search.doSelect true score boundary pool
  else pool

/-- The pool and the boundary after a course. -/
def scopeOf (course : List ℤ) : Scope :=
  ⟨search.lastBoundary course, course.foldl (search.scan score) search.start.pool⟩

/-- The pool has the players that the filtered passes add. -/
structure PoolOn (course : List ℤ) (pool : Pool) : Prop extends search.Sound pool where
  mem_iff : ∀ other, other ∈ pool.ids ↔ other ∈ (search.admitted score course).map Prod.fst
  lvBoundary_eq : pool.lvBoundary = search.widened score course

variable {search score} {course : List ℤ} {pool : Pool} {boundary : ℤ} {member : ℕ × ℤ}

theorem mem_range : member ∈ search.range score boundary ↔
    member ∈ search.rank.objects ∧ InRange score boundary member := by
  simp [range, InRange, List.mem_filter]

theorem mem_admitted : member ∈ search.admitted score course ↔
    member ∈ search.rank.objects ∧ search.Admits member.1 ∧
      ∃ boundary ∈ search.scanned score course, InRange score boundary member := by
  simp [admitted, List.mem_filter]

theorem scanned_append :
    search.scanned score (course ++ [boundary]) = search.scanned score course ++
      if search.searchCount ≤ search.rangeCount score boundary then [boundary] else [] := by
  rw [scanned, scanned, List.filter_append, List.filter_singleton]
  simp

theorem PoolOn.start : search.PoolOn score [] search.start.pool := by
  refine ⟨⟨List.nodup_nil, ?_, fun _ => rfl⟩, fun other => ?_, rfl⟩
  · intro found found_mem
    cases found_mem
  · have nobody : search.admitted score [] = [] := by
      refine List.eq_nil_iff_forall_not_mem.mpr fun member admitted => ?_
      obtain ⟨_, _, boundary, boundary_mem, _⟩ := mem_admitted.mp admitted
      cases boundary_mem
    rw [nobody]
    exact Iff.rfl

/-- One boundary more. -/
theorem PoolOn.scan (on : search.PoolOn score course pool) (boundary : ℤ) :
    search.PoolOn score (course ++ [boundary]) (search.scan score pool boundary) := by
  unfold Search.scan
  split
  next enough =>
    have scanned_eq : search.scanned score (course ++ [boundary]) =
        search.scanned score course ++ [boundary] := by
      rw [scanned_append, if_pos enough]
    refine ⟨on.toSound.foldl_select, fun other => ?_, ?_⟩
    · rw [doSelect, mem_filtered_pass on.toSound, on.mem_iff, List.mem_map, List.mem_map,
        List.mem_map]
      constructor
      · rintro (⟨old, old_mem, rfl⟩ | ⟨⟨new, new_mem, rfl⟩, admits⟩)
        · obtain ⟨ranked, admits, wide, wide_mem, within⟩ := mem_admitted.mp old_mem
          refine ⟨old, mem_admitted.mpr ⟨ranked, admits, wide, ?_, within⟩, rfl⟩
          exact scanned_eq ▸ List.mem_append_left _ wide_mem
        · obtain ⟨ranked, within⟩ := mem_range.mp new_mem
          refine ⟨new, mem_admitted.mpr ⟨ranked, admits, boundary, ?_, within⟩, rfl⟩
          exact scanned_eq ▸ List.mem_append_right _ List.mem_cons_self
      · rintro ⟨member, member_mem, rfl⟩
        obtain ⟨ranked, admits, wide, wide_mem, within⟩ := mem_admitted.mp member_mem
        rw [scanned_eq] at wide_mem
        rcases List.mem_append.mp wide_mem with old | new
        · exact .inl ⟨member, mem_admitted.mpr ⟨ranked, admits, wide, old, within⟩, rfl⟩
        · rw [List.mem_singleton.mp new] at within
          exact .inr ⟨⟨member, mem_range.mpr ⟨ranked, within⟩, rfl⟩, admits⟩
    · rw [doSelect, lvBoundary_foldl_select, on.lvBoundary_eq, widened, widened, scanned_eq,
        List.foldl_append]
      rfl
  next few =>
    have scanned_eq :
        search.scanned score (course ++ [boundary]) = search.scanned score course := by
      rw [scanned_append, if_neg few, List.append_nil]
    have admitted_eq : search.admitted score (course ++ [boundary]) =
        search.admitted score course := by
      rw [admitted, admitted, scanned_eq]
    refine ⟨on.toSound, fun other => ?_, ?_⟩
    · rw [admitted_eq]
      exact on.mem_iff other
    · rw [widened, scanned_eq]
      exact on.lvBoundary_eq

theorem PoolOn.of_course (course : List ℤ) :
    search.PoolOn score course (search.scopeOf score course).pool := by
  induction course using List.reverseRecOn with
  | nil => exact .start
  | append_singleton course boundary ih =>
      rw [scopeOf, List.foldl_append]
      exact ih.scan boundary

theorem PoolOn.length_eq (on : search.PoolOn score course pool) :
    pool.list.length = (search.admitted score course).length := by
  have admitted_nodup : ((search.admitted score course).map Prod.fst).Nodup :=
    search.rank.nodup.sublist (List.filter_sublist.map Prod.fst)
  have same := (List.perm_ext_iff_of_nodup on.nodup admitted_nodup).mpr on.mem_iff
  simpa [Pool.ids] using same.length_eq

theorem doublings_succ (rounds : ℕ) :
    search.doublings (rounds + 1) =
      search.doublings rounds ++ [search.scoreBoundary * 2 ^ (rounds + 1)] := by
  rw [doublings, List.range_succ, List.map_append]
  rfl

theorem lastBoundary_doublings (rounds : ℕ) :
    search.lastBoundary (search.doublings rounds) = search.scoreBoundary * 2 ^ rounds := by
  cases rounds with
  | zero => simp [doublings, lastBoundary]
  | succ rounds => simp [doublings_succ, lastBoundary]

theorem expandOnce_doublings (rounds : ℕ) :
    search.expandOnce score (search.scopeOf score (search.doublings rounds)) =
      search.scopeOf score (search.doublings (rounds + 1)) := by
  have boundary_eq : (search.scopeOf score (search.doublings rounds)).boundary * 2 =
      search.scoreBoundary * 2 ^ (rounds + 1) := by
    rw [scopeOf, lastBoundary_doublings, pow_succ, mul_assoc]
  have last_eq := @lastBoundary_doublings search (rounds + 1)
  unfold expandOnce
  rw [boundary_eq, scopeOf, scopeOf, last_eq, doublings_succ, List.foldl_append]
  rfl

theorem expand_eq_some {scope : Scope} {limit rounds : ℕ}
    (fresh : rounds = 0 ∨ (search.admitted score (search.doublings rounds)).length <
      search.searchCount)
    (earlier : ∀ round < rounds, ¬ search.StopsAt score round)
    (found : search.expand score limit (search.scopeOf score (search.doublings rounds)) =
      some scope) :
    ∃ last, search.StopsAt score last ∧ (∀ round < last, ¬ search.StopsAt score round) ∧
      scope = search.scopeOf score (search.doublings last) := by
  induction limit generalizing rounds with
  | zero => cases found
  | succ limit ih =>
      rw [expand, expandOnce_doublings] at found
      have boundary_eq : (search.scopeOf score (search.doublings rounds)).boundary =
          search.scoreBoundary * 2 ^ rounds := lastBoundary_doublings rounds
      rw [boundary_eq] at found
      split at found
      next small =>
        have not_now : ¬ search.StopsAt score rounds := by
          rintro (large | ⟨later, enough⟩)
          · exact absurd small large.not_gt
          · rcases fresh with rfl | few
            · exact absurd later (lt_irrefl 0)
            · exact absurd few enough.not_gt
        have before (round : ℕ) (round_lt : round < rounds + 1) :
            ¬ search.StopsAt score round := by
          rcases Nat.lt_succ_iff_lt_or_eq.mp round_lt with older | rfl
          · exact earlier round older
          · exact not_now
        dsimp only at found
        rw [(PoolOn.of_course _).length_eq] at found
        split at found
        next enough =>
          cases found
          exact ⟨rounds + 1, .inr ⟨Nat.succ_pos rounds, enough⟩, before, rfl⟩
        next few => exact ih (.inr (not_le.mp few)) before found
      next large =>
        cases found
        exact ⟨rounds, .inl (not_lt.mp large), earlier, rfl⟩

theorem expand_of_stops {rounds more : ℕ} (stops : search.StopsAt score (rounds + more))
    (fresh : rounds = 0 ∨ (search.admitted score (search.doublings rounds)).length <
      search.searchCount) :
    ∃ limit scope,
      search.expand score limit (search.scopeOf score (search.doublings rounds)) = some scope := by
  induction more generalizing rounds with
  | zero =>
      refine ⟨1, search.scopeOf score (search.doublings rounds), ?_⟩
      have large :
          ¬ (search.scopeOf score (search.doublings rounds)).boundary < search.maxScope := by
        rw [scopeOf, lastBoundary_doublings]
        rcases stops with large | ⟨later, enough⟩
        · exact large.not_gt
        · rcases fresh with rfl | few
          · exact absurd later (lt_irrefl 0)
          · exact absurd few enough.not_gt
      rw [expand, if_neg large]
  | succ more ih =>
      by_cases small : (search.scopeOf score (search.doublings rounds)).boundary < search.maxScope
      · by_cases enough : search.searchCount ≤
            (search.scopeOf score (search.doublings (rounds + 1))).pool.list.length
        · refine ⟨1, search.scopeOf score (search.doublings (rounds + 1)), ?_⟩
          rw [expand, if_pos small, expandOnce_doublings]
          exact if_pos enough
        · have few : (search.admitted score (search.doublings (rounds + 1))).length <
              search.searchCount := by
            rw [(PoolOn.of_course _).length_eq] at enough
            exact not_le.mp enough
          have later : search.StopsAt score (rounds + 1 + more) := by
            rw [add_right_comm]
            exact stops
          obtain ⟨limit, scope, found⟩ := ih later (.inr few)
          refine ⟨limit + 1, scope, ?_⟩
          rw [expand, if_pos small, expandOnce_doublings]
          exact (if_neg enough).trans found
      · exact ⟨1, _, by rw [expand, if_neg small]⟩

theorem course_of_filtered {scope : Scope} {limit : ℕ}
    (found : search.filtered score limit = some scope) :
    ∃ course, search.Course score course ∧ scope = search.scopeOf score course := by
  unfold filtered at found
  unfold Course
  split at found
  next few =>
    simp only [if_pos few]
    split at found
    next expands =>
      simp only [if_pos expands]
      obtain ⟨last, stops, before, rfl⟩ := @expand_eq_some search score scope limit 0 (.inl rfl)
        (fun _ impossible => absurd impossible (Nat.not_lt_zero _)) found
      exact ⟨_, ⟨last, stops, before, rfl⟩, rfl⟩
    next fixed =>
      simp only [if_neg fixed]
      cases found
      exact ⟨[], rfl, rfl⟩
  next many =>
    simp only [if_neg many]
    cases found
    refine ⟨[search.scoreBoundary], rfl, ?_⟩
    rw [scopeOf, List.foldl_cons, List.foldl_nil, scan, if_pos (not_le.mp many).le]
    rfl

theorem filtered_of_course {course : List ℤ} (goes : search.Course score course) :
    ∃ limit scope, search.filtered score limit = some scope := by
  unfold Course at goes
  unfold filtered
  split at goes
  next few =>
    simp only [if_pos few]
    split at goes
    next expands =>
      simp only [if_pos expands]
      obtain ⟨last, stops, -, -⟩ := goes
      have stops_later : search.StopsAt score (0 + last) := by rwa [zero_add]
      exact expand_of_stops stops_later (.inl rfl)
    next fixed =>
      simp only [if_neg fixed]
      exact ⟨0, _, rfl⟩
  next many =>
    simp only [if_neg many]
    exact ⟨0, _, rfl⟩

theorem Course.unique {first second : List ℤ} (goes : search.Course score first)
    (also : search.Course score second) : first = second := by
  unfold Course at goes also
  split at goes
  next few =>
    rw [if_pos few] at also
    split at goes
    next expands =>
      rw [if_pos expands] at also
      obtain ⟨last, stops, before, rfl⟩ := goes
      obtain ⟨other, other_stops, other_before, rfl⟩ := also
      rcases lt_trichotomy last other with less | rfl | more
      · exact absurd stops (other_before last less)
      · rfl
      · exact absurd other_stops (before other more)
    next fixed =>
      rw [if_neg fixed] at also
      rw [goes, also]
  next many =>
    rw [if_neg many] at also
    rw [goes, also]

end BasWar.Pvp.Search
