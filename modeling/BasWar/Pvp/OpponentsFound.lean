import BasWar.Pvp.OpponentCourse
import Mathlib.Tactic.Positivity

/-!
# What a search finds

A search comes to an end with a list that is right, exactly if its boundary can grow, its count is
not negative, no stamp lies between the seconds and the milliseconds of the clock, and the level
bounds cover whom they are widened for.
-/

namespace BasWar.Pvp.Search

open Tables

variable (search : Search)

def idsOf (score : ℤ) (scope : Scope) : List ℕ :=
  (search.poolOf score scope).map Found.pid

/-- The passes with a level filter have found enough. -/
def Filled (scope : Scope) : Prop :=
  search.searchCount ≤ scope.pool.list.length

/-- The returned list names few enough players, each once, but not the caller, the excluded player
or one that is protected. -/
structure Lists (returned : List Opponent) : Prop where
  nodup : (returned.map Opponent.playerId).Nodup
  caller : ∀ opponent ∈ returned, opponent.playerId ≠ search.pid
  excluded : ∀ opponent ∈ returned, opponent.playerId ≠ search.excludePid
  ended : ∀ opponent ∈ returned, search.baseInfo.protectTick opponent.playerId < search.time
  few : (returned.length : ℤ) ≤ search.searchCount

/-- Nobody in the range is missing because of a protection time that is over; a pool that the
filtered passes have filled keeps to the level bounds; the selection takes as many as it should. -/
structure Pools (score : ℤ) (scope : Scope) : Prop where
  kept : ∀ member ∈ search.range score scope.boundary, search.Candidate member.1 →
    search.baseInfo.protectTick member.1 < search.time →
      member.1 ∈ search.idsOf score scope ∨ search.Filled scope ∧ search.expandLv ≠ 1 ∧
        ¬ search.InBounds scope.pool.lvBoundary (search.level member.1)
  bounded : search.Filled scope → ∀ found ∈ search.poolOf score scope,
    search.InBounds scope.pool.lvBoundary found.level
  exact : ∀ randValue, 0 ≤ randValue → randValue < 1 →
    ((window randValue search.searchCount (search.poolOf score scope)).length : ℤ) =
      min search.searchCount (search.poolOf score scope).length

/-- The loop comes to an end, with a pool and a list that are right. -/
def FindsOpponents : Prop :=
  ∃ limit,
    (∀ randValue, 0 ≤ randValue → randValue < 1 →
      ∃ returned, search.searchPlayersByBadge randValue limit = some returned ∧
        search.Lists returned) ∧
      ∀ score scope, search.ownScore = some score → search.filtered score limit = some scope →
        search.Pools score scope

/-- The filtered passes of a course find enough. -/
def Enough (score : ℤ) (course : List ℤ) : Prop :=
  search.searchCount ≤ (search.admitted score course).length

structure Reliable : Prop where
  count_nonneg : 0 ≤ search.searchCount
  /-- A boundary that does not grow is not widened, or finds enough at once. -/
  grows : ∀ score, search.ownScore = some score →
    search.rangeCount score search.scoreBoundary ≤ search.searchCount → search.expandScope = 1 →
      0 < search.scoreBoundary ∨ search.maxScope ≤ search.scoreBoundary ∨
        search.Enough score [search.scoreBoundary * 2]
  /-- No protection time that matters is between the seconds and the milliseconds. -/
  stamps : ∀ score course, search.ownScore = some score → search.Course score course →
    ∀ member ∈ search.range score (search.lastBoundary course), search.Candidate member.1 →
      (search.Enough score course → search.expandLv = 1 ∨
        search.InBounds search.lvBoundary (search.level member.1)) →
          ¬ (search.now < search.baseInfo.protectTick member.1 ∧
            search.baseInfo.protectTick member.1 < search.time)
  /-- Bounds that are widened cover all whom the passes add. -/
  levels : ∀ score course, search.ownScore = some score → search.Course score course →
    search.Enough score course → search.expandLv = 1 → ∀ member ∈ search.admitted score course,
      search.InBounds (search.widened score course) (search.level member.1)

variable {search} {score : ℤ} {course : List ℤ} {scope : Scope}

theorem stopsAt_of_pos (pos : 0 < search.scoreBoundary) :
    ∃ rounds, search.StopsAt score rounds := by
  refine ⟨search.maxScope.toNat, .inl ?_⟩
  have large : (search.maxScope.toNat : ℤ) < 2 ^ search.maxScope.toNat := by
    exact_mod_cast Nat.lt_two_pow_self
  calc
    search.maxScope ≤ search.maxScope.toNat := Int.self_le_toNat _
    _ ≤ 2 ^ search.maxScope.toNat := large.le
    _ ≤ search.scoreBoundary * 2 ^ search.maxScope.toNat :=
      le_mul_of_one_le_left (by positivity) pos

theorem admitted_subset (nonpos : search.scoreBoundary ≤ 0) (rounds : ℕ) :
    search.admitted score (search.doublings rounds) ⊆
      search.admitted score [search.scoreBoundary * 2] := by
  intro member member_mem
  obtain ⟨ranked, admits, boundary, boundary_mem, within⟩ := mem_admitted.mp member_mem
  obtain ⟨in_course, enough⟩ := List.mem_filter.mp boundary_mem
  obtain ⟨round, -, rfl⟩ := List.mem_map.mp in_course
  have boundary_nonneg : 0 ≤ search.scoreBoundary * 2 ^ (round + 1) := by
    unfold InRange at within
    omega
  have zero : search.scoreBoundary = 0 := by
    refine le_antisymm nonpos ?_
    exact nonneg_of_mul_nonneg_left boundary_nonneg (by positivity)
  rw [zero, zero_mul] at within enough
  refine mem_admitted.mpr ⟨ranked, admits, search.scoreBoundary * 2, ?_, ?_⟩
  · rw [zero, zero_mul]
    exact List.mem_filter.mpr ⟨List.mem_cons_self, enough⟩
  · rw [zero, zero_mul]
    exact within

theorem course_exists_iff :
    (∃ course, search.Course score course) ↔
      (search.rangeCount score search.scoreBoundary ≤ search.searchCount → search.expandScope = 1 →
        0 < search.scoreBoundary ∨ search.maxScope ≤ search.scoreBoundary ∨
          search.Enough score [search.scoreBoundary * 2]) := by
  have least (rounds : ℕ) (stops : search.StopsAt score rounds) : ∃ first,
      search.StopsAt score first ∧ ∀ earlier < first, ¬ search.StopsAt score earlier := by
    classical
    exact ⟨Nat.find ⟨rounds, stops⟩, Nat.find_spec ⟨rounds, stops⟩,
      fun _ earlier => Nat.find_min ⟨rounds, stops⟩ earlier⟩
  have one_round : search.doublings 1 = [search.scoreBoundary * 2] := by simp [doublings]
  unfold Course
  by_cases few : search.rangeCount score search.scoreBoundary ≤ search.searchCount
  · by_cases expands : search.expandScope = 1
    · simp only [if_pos few, if_pos expands]
      constructor
      · rintro ⟨_, rounds, stops, -, rfl⟩ - -
        by_contra stuck
        rw [not_or, not_or, not_lt, not_le] at stuck
        obtain ⟨nonpos, small, too_few⟩ := stuck
        rcases stops with large | ⟨-, enough⟩
        · have not_larger : search.scoreBoundary * 2 ^ rounds ≤ search.scoreBoundary := by
            have one_le : (1 : ℤ) ≤ 2 ^ rounds := one_le_pow₀ one_le_two
            nlinarith
          exact absurd (large.trans not_larger) small.not_ge
        · have shorter := (List.filter_sublist.nodup search.rank.nodup.of_map).length_le_of_subset
            (@admitted_subset search score nonpos rounds)
          exact too_few (enough.trans (by exact_mod_cast shorter))
      · intro grows
        have stops : ∃ rounds, search.StopsAt score rounds := by
          rcases grows few expands with pos | large | enough
          · exact stopsAt_of_pos pos
          · exact ⟨0, .inl (by rwa [pow_zero, mul_one])⟩
          · exact ⟨1, .inr ⟨one_pos, one_round ▸ enough⟩⟩
        obtain ⟨rounds, stops_at⟩ := stops
        obtain ⟨first, first_stops, before⟩ := least rounds stops_at
        exact ⟨_, first, first_stops, before, rfl⟩
    · simp only [if_pos few, if_neg expands]
      exact iff_of_true ⟨[], rfl⟩ fun _ expanded => absurd expanded expands
  · simp only [if_neg few]
    exact iff_of_true ⟨_, rfl⟩ fun possible => absurd possible few

theorem filled_iff : search.Filled (search.scopeOf score course) ↔ search.Enough score course := by
  rw [Filled, (PoolOn.of_course course).length_eq, Enough]

theorem last_scanned (goes : search.Course score course) (enough : search.Enough score course)
    {member : ℕ × ℤ}
    (member_mem : member ∈ search.range score (search.lastBoundary course)) :
    search.lastBoundary course ∈ search.scanned score course := by
  have scanned_iff (boundary : ℤ) (boundary_mem : boundary ∈ course)
      (many : search.searchCount ≤ search.rangeCount score boundary) :
      boundary ∈ search.scanned score course :=
    List.mem_filter.mpr ⟨boundary_mem, decide_eq_true many⟩
  unfold Course at goes
  split at goes
  next few =>
    -- No pass has been made, so that nobody was asked for, and nobody is in the range.
    have nobody (none_yet : course = []) : False := by
      subst none_yet
      have nothing_asked : search.searchCount ≤ 0 := by
        have admitted_nil : search.admitted score [] = [] := by simp [admitted, scanned]
        rw [Enough, admitted_nil] at enough
        exact enough
      have in_range : member ∈ search.range score search.scoreBoundary := member_mem
      have some_there : 0 < search.rangeCount score search.scoreBoundary :=
        Int.natCast_pos.mpr (List.length_pos_of_mem in_range)
      exact absurd (some_there.trans_le few) nothing_asked.not_gt
    split at goes
    next expands =>
      obtain ⟨rounds, stops, before, rfl⟩ := goes
      cases rounds with
      | zero => exact (nobody rfl).elim
      | succ rounds =>
          rw [lastBoundary_doublings]
          refine scanned_iff _ (by rw [doublings_succ]; simp) ?_
          by_contra too_few
          -- Without this pass the loop would have stopped one round earlier.
          have same : search.admitted score (search.doublings (rounds + 1)) =
              search.admitted score (search.doublings rounds) := by
            rw [admitted, admitted, doublings_succ, scanned_append, if_neg too_few, List.append_nil]
          rw [Enough, same] at enough
          rcases Nat.eq_zero_or_pos rounds with rfl | later
          · have count_nonpos : search.searchCount ≤ 0 := by
              simpa [admitted, scanned, doublings] using enough
            have range_nonneg : 0 ≤ search.rangeCount score (search.scoreBoundary * 2 ^ (0 + 1)) :=
              Int.natCast_nonneg _
            exact too_few (count_nonpos.trans range_nonneg)
          · exact before rounds (Nat.lt_succ_self rounds) (.inr ⟨later, enough⟩)
    next fixed => exact (nobody goes).elim
  next many =>
    subst goes
    exact scanned_iff _ List.mem_cons_self (not_le.mp many).le

variable {other : ℕ}

theorem mem_idsOf_of_filled (enough : search.Enough score course) :
    other ∈ search.idsOf score (search.scopeOf score course) ↔
      other ∈ (search.admitted score course).map Prod.fst := by
  rw [idsOf, poolOf, if_neg (filled_iff.mpr enough).not_gt]
  exact (PoolOn.of_course course).mem_iff other

theorem mem_idsOf_of_few (few : ¬ search.Enough score course) :
    other ∈ search.idsOf score (search.scopeOf score course) ↔
      other ∈ (search.admitted score course).map Prod.fst ∨
        other ∈ (search.range score (search.lastBoundary course)).map Prod.fst ∧
          search.Eligible other := by
  have not_filled := not_le.mp (mt filled_iff.mp few)
  rw [idsOf, poolOf, if_pos not_filled, ← (PoolOn.of_course course).mem_iff]
  exact mem_unfiltered_pass

theorem eligible_of_mem (other_mem : other ∈ search.idsOf score (search.scopeOf score course)) :
    search.Eligible other := by
  have of_admitted (listed : other ∈ (search.admitted score course).map Prod.fst) :
      search.Eligible other := by
    obtain ⟨member, member_mem, rfl⟩ := List.mem_map.mp listed
    exact (mem_admitted.mp member_mem).2.1.1
  by_cases enough : search.Enough score course
  · exact of_admitted ((mem_idsOf_of_filled enough).mp other_mem)
  · exact ((mem_idsOf_of_few enough).mp other_mem).elim of_admitted And.right

theorem refuses_iff (time_nonneg : 0 ≤ search.now) :
    search.Refuses other ↔ search.now < search.baseInfo.protectTick other := by
  unfold Refuses BaseInfos.protectTick
  cases (search.baseInfo.values other).protectTick with
  | none => simpa using time_nonneg
  | some tick => exact Iff.rfl

theorem now_nonneg : 0 ≤ search.now :=
  Int.natCast_nonneg _

/-- Nobody is missing because of a time stamp that is over, exactly if no such stamp matters. -/
theorem kept_iff (goes : search.Course score course) :
    (∀ member ∈ search.range score (search.lastBoundary course), search.Candidate member.1 →
      search.baseInfo.protectTick member.1 < search.time →
        member.1 ∈ search.idsOf score (search.scopeOf score course) ∨
          search.Filled (search.scopeOf score course) ∧ search.expandLv ≠ 1 ∧
            ¬ search.InBounds (search.scopeOf score course).pool.lvBoundary
              (search.level member.1)) ↔
      ∀ member ∈ search.range score (search.lastBoundary course), search.Candidate member.1 →
        (search.Enough score course → search.expandLv = 1 ∨
          search.InBounds search.lvBoundary (search.level member.1)) →
            ¬ (search.now < search.baseInfo.protectTick member.1 ∧
              search.baseInfo.protectTick member.1 < search.time) := by
  constructor
  · rintro kept member member_mem candidate fits ⟨after, past⟩
    rcases kept member member_mem candidate past with listed | ⟨filled, fixed, outside⟩
    · exact (eligible_of_mem listed).2 ((refuses_iff now_nonneg).mpr after)
    · rw [(PoolOn.of_course course).fixed fixed] at outside
      exact (fits (filled_iff.mp filled)).elim fixed outside
  · intro stamps member member_mem candidate past
    by_cases outside : search.Enough score course ∧ search.expandLv ≠ 1 ∧
        ¬ search.InBounds search.lvBoundary (search.level member.1)
    · refine .inr ⟨filled_iff.mpr outside.1, outside.2.1, ?_⟩
      rw [(PoolOn.of_course course).fixed outside.2.1]
      exact outside.2.2
    have fits (enough : search.Enough score course) : search.expandLv = 1 ∨
        search.InBounds search.lvBoundary (search.level member.1) := by
      by_contra excluded
      rw [not_or] at excluded
      exact outside ⟨enough, excluded⟩
    have eligible : search.Eligible member.1 := by
      refine ⟨candidate, fun refused => ?_⟩
      exact stamps member member_mem candidate fits ⟨(refuses_iff now_nonneg).mp refused, past⟩
    refine .inl ?_
    by_cases enough : search.Enough score course
    · obtain ⟨ranked, within⟩ := mem_range.mp member_mem
      have scanned := last_scanned goes enough member_mem
      exact (mem_idsOf_of_filled enough).mpr (List.mem_map_of_mem
        (mem_admitted.mpr ⟨ranked, ⟨eligible, fits enough⟩, _, scanned, within⟩))
    · exact (mem_idsOf_of_few enough).mpr (.inr ⟨List.mem_map_of_mem member_mem, eligible⟩)

/-- The players of a pool that is filled keep to the level bounds, exactly if widened bounds cover
them. -/
theorem bounded_iff :
    (search.Filled (search.scopeOf score course) →
      ∀ found ∈ search.poolOf score (search.scopeOf score course),
        search.InBounds (search.scopeOf score course).pool.lvBoundary found.level) ↔
      (search.Enough score course → search.expandLv = 1 →
        ∀ member ∈ search.admitted score course,
          search.InBounds (search.widened score course) (search.level member.1)) := by
  have on := @PoolOn.of_course search score course
  rw [filled_iff]
  refine forall_congr' fun enough => ?_
  have pool_eq : search.poolOf score (search.scopeOf score course) =
      (search.scopeOf score course).pool.list := if_neg (filled_iff.mpr enough).not_gt
  rw [pool_eq, on.lvBoundary_eq]
  constructor
  · rintro bounded - member member_mem
    have listed : member.1 ∈ (search.scopeOf score course).pool.ids :=
      (on.mem_iff member.1).mpr (List.mem_map_of_mem member_mem)
    obtain ⟨found, found_mem, same⟩ := List.mem_map.mp listed
    rw [← same, ← on.level found found_mem]
    exact bounded found found_mem
  · intro levels found found_mem
    have listed : found.pid ∈ (search.admitted score course).map Prod.fst :=
      (on.mem_iff found.pid).mp (List.mem_map_of_mem found_mem)
    obtain ⟨member, member_mem, same⟩ := List.mem_map.mp listed
    rw [on.level found found_mem, ← same]
    by_cases widens : search.expandLv = 1
    · exact levels widens member member_mem
    · have admits := (mem_admitted.mp member_mem).2.1
      rw [← on.lvBoundary_eq, on.fixed widens]
      exact admits.2.resolve_left widens

/-- The list that the caller of the script makes of a pool. -/
def listOf (randValue : ℚ) (poolList : List Found) : List Opponent :=
  ((window randValue search.searchCount poolList).filterMap search.opponent).insertionSort
    Opponent.Before

theorem mem_listOf {randValue : ℚ} {poolList : List Found} {opponent : Opponent}
    (mem : opponent ∈ search.listOf randValue poolList) :
    ∃ found ∈ poolList, search.opponent found = some opponent := by
  have selected := (List.mem_insertionSort _).mp mem
  obtain ⟨found, found_mem, shown⟩ := List.mem_filterMap.mp selected
  exact ⟨found, window_sublist.subset found_mem, shown⟩

theorem opponent_eq_some {found : Found} {opponent : Opponent}
    (shown : search.opponent found = some opponent) :
    opponent.playerId = found.pid ∧ search.baseInfo.protectTick found.pid < search.time := by
  unfold Search.opponent at shown
  dsimp only at shown
  split at shown
  · split at shown
    next passes =>
      cases shown
      exact ⟨rfl, passes.2⟩
    · cases shown
  · cases shown

theorem playerIds_sublist (selected : List Found) :
    ((selected.filterMap search.opponent).map Opponent.playerId).Sublist
      (selected.map Found.pid) := by
  induction selected with
  | nil => exact List.Sublist.slnil
  | cons found selected ih =>
      rw [List.filterMap_cons]
      cases shown : search.opponent found with
      | none => exact ih.cons _
      | some opponent =>
          rw [List.map_cons, (opponent_eq_some shown).1]
          exact ih.cons_cons _

theorem lists_listOf (count_nonneg : 0 ≤ search.searchCount) {randValue : ℚ}
    (rand_nonneg : 0 ≤ randValue) (rand_lt : randValue < 1) {poolList : List Found}
    (nodup : (poolList.map Found.pid).Nodup)
    (eligible : ∀ found ∈ poolList, search.Eligible found.pid) :
    search.Lists (search.listOf randValue poolList) where
  nodup := by
    have sorted : (search.listOf randValue poolList).Perm
        ((window randValue search.searchCount poolList).filterMap search.opponent) :=
      List.perm_insertionSort _ _
    rw [(sorted.map Opponent.playerId).nodup_iff]
    exact nodup.sublist ((playerIds_sublist _).trans (window_sublist.map Found.pid))
  caller opponent mem := by
    obtain ⟨found, found_mem, shown⟩ := mem_listOf mem
    rw [(opponent_eq_some shown).1]
    exact (eligible found found_mem).1.1
  excluded opponent mem := by
    obtain ⟨found, found_mem, shown⟩ := mem_listOf mem
    rw [(opponent_eq_some shown).1]
    exact (eligible found found_mem).1.2
  ended opponent mem := by
    obtain ⟨found, _, shown⟩ := mem_listOf mem
    rw [(opponent_eq_some shown).1]
    exact (opponent_eq_some shown).2
  few := by
    have shorter : (search.listOf randValue poolList).length ≤
        (window randValue search.searchCount poolList).length := by
      rw [listOf, List.length_insertionSort]
      exact List.length_filterMap_le _ _
    calc
      ((search.listOf randValue poolList).length : ℤ) ≤
          (window randValue search.searchCount poolList).length := by exact_mod_cast shorter
      _ = min search.searchCount poolList.length :=
        length_window count_nonneg rand_nonneg rand_lt
      _ ≤ search.searchCount := min_le_left _ _

theorem Lists.nil (count_nonneg : 0 ≤ search.searchCount) : search.Lists [] where
  nodup := List.nodup_nil
  caller _ mem := by cases mem
  excluded _ mem := by cases mem
  ended _ mem := by cases mem
  few := count_nonneg

theorem nodup_idsOf : (search.idsOf score (search.scopeOf score course)).Nodup := by
  have sound := (@PoolOn.of_course search score course).toSound
  rw [idsOf, poolOf]
  split
  · exact (sound.foldl_select).nodup
  · exact sound.nodup

/-- The pool of a course is right, exactly if no stamp matters and the level bounds cover it. -/
theorem pools_iff (count_nonneg : 0 ≤ search.searchCount) (goes : search.Course score course) :
    search.Pools score (search.scopeOf score course) ↔
      (∀ member ∈ search.range score (search.lastBoundary course), search.Candidate member.1 →
        (search.Enough score course → search.expandLv = 1 ∨
          search.InBounds search.lvBoundary (search.level member.1)) →
            ¬ (search.now < search.baseInfo.protectTick member.1 ∧
              search.baseInfo.protectTick member.1 < search.time)) ∧
        (search.Enough score course → search.expandLv = 1 →
          ∀ member ∈ search.admitted score course,
            search.InBounds (search.widened score course) (search.level member.1)) := by
  rw [← kept_iff goes, ← bounded_iff]
  exact ⟨fun pools => ⟨pools.kept, pools.bounded⟩, fun both => ⟨both.1, both.2,
    fun _ rand_nonneg rand_lt => length_window count_nonneg rand_nonneg rand_lt⟩⟩

/-- A search comes to an end with a list that is right, exactly if it can rely on its input. -/
theorem findsOpponents_iff : search.FindsOpponents ↔ search.Reliable := by
  constructor
  · rintro ⟨limit, returns, pools⟩
    obtain ⟨returned, found, lists⟩ := returns 0 le_rfl one_pos
    have count_nonneg : 0 ≤ search.searchCount := (Int.natCast_nonneg _).trans lists.few
    -- A ranked caller's search has gone through a course, and this is its only one.
    have gone (score : ℤ) (own : search.ownScore = some score) : ∃ course,
        search.Course score course ∧ search.Pools score (search.scopeOf score course) := by
      unfold searchPlayersByBadge at found
      rw [own] at found
      obtain ⟨scope, filtered, -⟩ := Option.map_eq_some_iff.mp found
      obtain ⟨course, goes, rfl⟩ := course_of_filtered filtered
      exact ⟨course, goes, pools score _ own filtered⟩
    have right (score : ℤ) (course : List ℤ) (own : search.ownScore = some score)
        (goes : search.Course score course) : search.Pools score (search.scopeOf score course) := by
      obtain ⟨gone_through, also, pool_right⟩ := gone score own
      rwa [goes.unique also]
    refine ⟨count_nonneg, fun score own => ?_, fun score course own goes => ?_,
      fun score course own goes => ?_⟩
    · obtain ⟨course, goes, -⟩ := gone score own
      exact course_exists_iff.mp ⟨course, goes⟩
    · exact ((pools_iff count_nonneg goes).mp (right score course own goes)).1
    · exact ((pools_iff count_nonneg goes).mp (right score course own goes)).2
  · intro reliable
    cases own : search.ownScore with
    | none =>
        refine ⟨0, fun randValue _ _ => ⟨[], ?_, .nil reliable.count_nonneg⟩, ?_⟩
        · unfold searchPlayersByBadge
          rw [own]
        · intro score scope ranked
          cases own.symm.trans ranked
    | some score =>
        obtain ⟨course, goes⟩ := course_exists_iff.mpr (reliable.grows score own)
        obtain ⟨limit, scope, filtered⟩ := filtered_of_course goes
        obtain ⟨gone_through, also, rfl⟩ := course_of_filtered filtered
        obtain rfl := goes.unique also
        refine ⟨limit, fun randValue rand_nonneg rand_lt => ?_, ?_⟩
        · refine ⟨search.listOf randValue (search.poolOf score (search.scopeOf score course)), ?_,
            lists_listOf reliable.count_nonneg rand_nonneg rand_lt nodup_idsOf fun _ found_mem =>
              eligible_of_mem (List.mem_map_of_mem found_mem)⟩
          unfold searchPlayersByBadge
          rw [own]
          dsimp only
          rw [filtered]
          rfl
        · intro other scope same ended
          obtain rfl := Option.some.inj (own.symm.trans same)
          obtain rfl := Option.some.inj (filtered.symm.trans ended)
          exact (pools_iff reliable.count_nonneg goes).mpr
            ⟨reliable.stamps score course own goes, reliable.levels score course own goes⟩

/-- Nine players with one score, of whom player 2 was protected until a second ago. -/
def nineRanked : Search where
  rank := ⟨(List.range 9).map fun index => (index + 1, 1000), by decide⟩
  baseInfo pid := if pid = 2 then some { BaseInfo.absent with protectTick := some 1700000000000 }
    else none
  time := 1700000001000
  pid := 1
  score := -1
  scoreBoundary := 3
  searchCount := 7
  beAttackLv := 0
  beAttackSec := 0
  expandScope := 1
  maxScope := 1000
  excludePid := 0
  expandLv := 0
  lvBoundary := 3

/-- Player 2 is not in the pool. -/
theorem not_findsOpponents : ¬ nineRanked.FindsOpponents := by
  rintro ⟨limit, -, pools⟩
  have kept := (pools 1000 _ (by decide +kernel) rfl).kept (2, 1000) (by decide +kernel)
    (by decide +kernel) (by decide +kernel)
  rcases kept with listed | ⟨-, -, outside⟩
  · exact absurd listed (by decide +kernel)
  · exact outside (by decide +kernel)

end BasWar.Pvp.Search
