import BasWar.Starmap.Campaign
import Mathlib.Algebra.Order.BigOperators.Group.List
import Mathlib.Algebra.Order.Group.Int
import Mathlib.Data.List.Induction

/-!
# The damage of a campaign

`updateBuilds` builds the new list of buildings from the matches of the result: a building that the
result leaves out is dropped, and one that it names twice is inserted twice, both times the same
table.  The damage adds up exactly as long as every result names every building once.
-/

namespace BasWar.Starmap.Campaigns

/-- `self.builds` in memory: the building tables, and the list that refers to them. -/
structure Buildings where
  tables : ℕ → BattleBuild
  builds : List ℕ

/-- The state of the loops of `updateBuilds`. -/
structure Round where
  diffHp : ℤ
  newBuilds : List ℕ
  tables : ℕ → BattleBuild

namespace Round

/-- The body of the inner loop of `updateBuilds`. -/
def hit (build : ℕ) (round : Round) (result : ℕ × ℤ) : Round :=
  if result.1 = (round.tables build).id then
    let diffHp := round.diffHp + ((round.tables build).hp - result.2)
    if 0 < result.2 then
      { diffHp := diffHp
        newBuilds := round.newBuilds ++ [build]
        tables :=
          Function.update round.tables build { round.tables build with hp := result.2 } }
    else { round with diffHp := diffHp }
  else round

end Round

namespace Buildings

def view (buildings : Buildings) : List BattleBuild :=
  buildings.builds.map buildings.tables

def getBuildsLeftHp (buildings : Buildings) : ℤ :=
  (buildings.view.map (·.hp)).sum

/-- The loops of `updateBuilds`. -/
def scan (results : List (ℕ × ℤ)) (buildings : Buildings) : Round :=
  buildings.builds.foldl (fun round build => results.foldl (Round.hit build) round)
    ⟨0, [], buildings.tables⟩

/-- `Campaign:updateBuilds`, with the `hp` that was lost. -/
def updateBuilds (results : List (ℕ × ℤ)) (buildings : Buildings) : Buildings × ℤ :=
  if results = [] then (buildings, 0)
  else
    let round := buildings.scan results
    (⟨round.tables, round.newBuilds⟩, round.diffHp)

/-- All that `updateBuilds` returned for some battles. -/
def returned (buildings : Buildings) : List (List (ℕ × ℤ)) → ℤ
  | [] => 0
  | results :: battles =>
      (buildings.updateBuilds results).2 + (buildings.updateBuilds results).1.returned battles

/-- The tables are distinct and no building is destroyed. -/
structure Sound (buildings : Buildings) : Prop where
  nodup : buildings.builds.Nodup
  standing : ∀ build ∈ buildings.builds, 0 < (buildings.tables build).hp

def hits (buildings : Buildings) (results : List (ℕ × ℤ)) (build : ℕ) : List (ℕ × ℤ) :=
  results.filter (·.1 = (buildings.tables build).id)

/-- A result says that a building has no `hp` left. -/
def Destroyed (buildings : Buildings) (results : List (ℕ × ℤ)) (build : ℕ) : Prop :=
  ∃ result ∈ buildings.hits results build, result.2 ≤ 0
  deriving Decidable

/-- No result is above the `hp` that the building has. -/
def Reported (buildings : Buildings) (results : List (ℕ × ℤ)) : Prop :=
  ∀ build ∈ buildings.builds, ∀ result ∈ buildings.hits results build,
    result.2 ≤ (buildings.tables build).hp

/-- One call of `updateBuilds` keeps exact accounts. -/
structure Accounts (buildings : Buildings) (results : List (ℕ × ℤ)) : Prop where
  exact :
    (buildings.updateBuilds results).2 =
      buildings.getBuildsLeftHp - (buildings.updateBuilds results).1.getBuildsLeftHp
  nonneg : 0 ≤ (buildings.updateBuilds results).2
  left :
    (buildings.updateBuilds results).1.builds =
      buildings.builds.filter (¬ buildings.Destroyed results ·)

/-- Every building is named exactly once, not below zero. -/
def NamedOnce (buildings : Buildings) (results : List (ℕ × ℤ)) : Prop :=
  results = [] ∨ ∀ build ∈ buildings.builds, ∃ result,
    buildings.hits results build = [result] ∧ 0 ≤ result.2

end Buildings

section Copies

variable {items : List ℕ} {copies : ℕ → ℕ} {keeps : ℕ → Bool}

theorem count_copies (copies : ℕ → ℕ) (nodup : items.Nodup) (item : ℕ) :
    (items.flatMap fun item => List.replicate (copies item) item).count item =
      if item ∈ items then copies item else 0 := by
  induction items with
  | nil => rfl
  | cons first rest inductionHypothesis =>
      obtain ⟨fresh, restNodup⟩ := List.nodup_cons.1 nodup
      rw [List.flatMap_cons, List.count_append, List.count_replicate,
        inductionHypothesis restNodup]
      by_cases isFirst : item = first
      · subst isFirst
        simp [fresh]
      · simp [isFirst, Ne.symm isFirst]

/-- A list with copies is the filtered list when every item has the right number of copies. -/
theorem copies_eq_filter_iff (nodup : items.Nodup) :
    (items.flatMap fun item => List.replicate (copies item) item) = items.filter keeps ↔
      ∀ item ∈ items, copies item = if keeps item then 1 else 0 := by
  constructor
  · intro same item listed
    have counted := count_copies copies nodup item
    rw [same, if_pos listed] at counted
    rw [← counted]
    cases kept : keeps item with
    | false =>
        simp [List.count_eq_zero, kept]
    | true =>
        rw [List.count_filter kept, List.count_eq_one_of_mem nodup listed]
        rfl
  · intro right
    induction items with
    | nil => rfl
    | cons first rest inductionHypothesis =>
        rw [List.flatMap_cons, right first List.mem_cons_self, inductionHypothesis
          (List.nodup_cons.1 nodup).2 fun item listed => right item (List.mem_cons_of_mem _ listed)]
        cases kept : keeps first <;> simp [kept]

end Copies

variable {build : BattleBuild} {hits : List (ℕ × ℤ)} {hp : ℤ}

theorem hitBuild_concat (result : ℕ × ℤ) :
    hitBuild build (hits ++ [result]) =
      let hit := hitBuild build hits
      let current := hit.2.head?.getD build
      (hit.1 + (current.hp - result.2),
        if 0 < result.2 then List.replicate (hit.2.length + 1) { current with hp := result.2 }
        else hit.2) := by
  simp only [hitBuild, List.foldl_append, List.foldl_cons, List.foldl_nil]
  split <;> rfl

section

variable (build : BattleBuild) (hits : List (ℕ × ℤ))

theorem hitBuild_replicate :
    (hitBuild build hits).2 =
      List.replicate (hitBuild build hits).2.length ((hitBuild build hits).2.head?.getD build) := by
  induction hits using List.reverseRecOn with
  | nil => rfl
  | append_singleton hits result inductionHypothesis =>
      rw [hitBuild_concat]
      dsimp only
      split
      · simp [List.head?_replicate]
      · exact inductionHypothesis

theorem hitBuild_id : ((hitBuild build hits).2.head?.getD build).id = build.id := by
  induction hits using List.reverseRecOn with
  | nil => rfl
  | append_singleton hits result inductionHypothesis =>
      rw [hitBuild_concat]
      dsimp only
      split
      · simpa [List.head?_replicate] using inductionHypothesis
      · exact inductionHypothesis

theorem hitBuild_length : (hitBuild build hits).2.length = hits.countP (0 < ·.2) := by
  induction hits using List.reverseRecOn with
  | nil => rfl
  | append_singleton hits result inductionHypothesis =>
      rw [hitBuild_concat, List.countP_append, ← inductionHypothesis]
      dsimp only
      split <;> simp [*]

end

theorem hitBuild_destroyed (destroyed : ∀ result ∈ hits, result.2 ≤ 0) :
    hitBuild build hits = ((hits.map (build.hp - ·.2)).sum, []) := by
  induction hits using List.reverseRecOn with
  | nil => rfl
  | append_singleton hits result inductionHypothesis =>
      have earlier := inductionHypothesis fun hit listed =>
        destroyed hit (List.mem_append_left _ listed)
      have last : ¬ 0 < result.2 := not_lt.2 (destroyed result (by simp))
      rw [hitBuild_concat, earlier]
      simp [last]

theorem hitBuild_survived (result : ℕ × ℤ) (survived : 0 < result.2) :
    hitBuild build [result] = (build.hp - result.2, [{ build with hp := result.2 }]) := by
  simp [hitBuild, survived]

theorem hitBuild_loss (build : BattleBuild) (result : ℕ × ℤ) :
    (hitBuild build [result]).1 = build.hp - result.2 := by
  simp only [hitBuild, List.foldl_cons, List.foldl_nil]
  split <;> simp

namespace Buildings

variable {buildings : Buildings} {results : List (ℕ × ℤ)}

theorem foldl_hit (build : ℕ) (round : Round) (results : List (ℕ × ℤ)) :
    results.foldl (Round.hit build) round =
      let hit := hitBuild (round.tables build)
        (results.filter (·.1 = (round.tables build).id))
      { diffHp := round.diffHp + hit.1
        newBuilds := round.newBuilds ++ List.replicate hit.2.length build
        tables := Function.update round.tables build
          (hit.2.head?.getD (round.tables build)) } := by
  induction results using List.reverseRecOn with
  | nil => simp [hitBuild]
  | append_singleton results result inductionHypothesis =>
      rw [List.foldl_append, inductionHypothesis]
      have sameId := hitBuild_id (round.tables build)
        (results.filter (·.1 = (round.tables build).id))
      by_cases named : result.1 = (round.tables build).id
      · rw [List.filter_append]
        simp only [List.filter_cons, named, decide_true, if_true, List.filter_nil,
          hitBuild_concat]
        simp only [List.foldl_cons, List.foldl_nil, Round.hit, Function.update_self, sameId,
          named, if_true]
        split <;>
          simp [← List.replicate_succ', List.head?_replicate, add_assoc]
      · rw [List.filter_append]
        simp [named, Round.hit, sameId]

theorem foldl_scan (results : List (ℕ × ℤ)) (tables : ℕ → BattleBuild) {builds : List ℕ}
    (nodup : builds.Nodup) (round : Round)
    (same : ∀ build ∈ builds, round.tables build = tables build) :
    let hit := fun build =>
      hitBuild (tables build) (results.filter (·.1 = (tables build).id))
    let scanned := builds.foldl (fun round build => results.foldl (Round.hit build) round) round
    scanned.diffHp = round.diffHp + (builds.map fun build => (hit build).1).sum ∧
    scanned.newBuilds = round.newBuilds ++
      builds.flatMap (fun build => List.replicate (hit build).2.length build) ∧
    (∀ build ∈ builds, scanned.tables build = (hit build).2.head?.getD (tables build)) ∧
    ∀ build ∉ builds, scanned.tables build = round.tables build := by
  induction builds generalizing round with
  | nil => simp
  | cons first rest inductionHypothesis =>
      obtain ⟨fresh, restNodup⟩ := List.nodup_cons.1 nodup
      have firstHit := foldl_hit first round results
      rw [same first List.mem_cons_self] at firstHit
      dsimp only at firstHit
      obtain ⟨diffHp, newBuilds, listed, unlisted⟩ :=
        inductionHypothesis restNodup (results.foldl (Round.hit first) round) fun build inRest => by
          have other : build ≠ first := fun equal => fresh (equal ▸ inRest)
          rw [firstHit]
          simpa [Function.update_of_ne other] using same build (List.mem_cons_of_mem _ inRest)
      refine ⟨?_, ?_, ?_, ?_⟩
      · rw [List.foldl_cons, diffHp, firstHit, List.map_cons, List.sum_cons, add_assoc]
      · rw [List.foldl_cons, newBuilds, firstHit, List.flatMap_cons, List.append_assoc]
      · intro build inList
        rcases List.mem_cons.1 inList with rfl | inRest
        · rw [List.foldl_cons, unlisted build fresh, firstHit]
          exact Function.update_self ..
        · exact listed build inRest
      · intro build notListed
        obtain ⟨other, notRest⟩ := not_or.1 (mt List.mem_cons.2 notListed)
        rw [List.foldl_cons, unlisted build notRest, firstHit]
        exact Function.update_of_ne other ..

variable (buildings results) in
def hit (build : ℕ) : ℤ × List BattleBuild :=
  hitBuild (buildings.tables build) (buildings.hits results build)

section

variable (nodup : buildings.builds.Nodup) (results : List (ℕ × ℤ))
include nodup

theorem scan_eq :
    (buildings.scan results).diffHp =
      (buildings.builds.map fun build => (buildings.hit results build).1).sum ∧
    (buildings.scan results).newBuilds = buildings.builds.flatMap fun build =>
      List.replicate (buildings.hit results build).2.length build := by
  have scanned := foldl_scan results buildings.tables nodup ⟨0, [], buildings.tables⟩
    fun _ _ => rfl
  exact ⟨scanned.1.trans (zero_add _), scanned.2.1.trans (List.nil_append _)⟩

theorem scan_tables {build : ℕ} (listed : build ∈ buildings.builds) :
    (buildings.scan results).tables build =
      (buildings.hit results build).2.head?.getD (buildings.tables build) :=
  (foldl_scan results buildings.tables nodup ⟨0, [], buildings.tables⟩ fun _ _ => rfl).2.2.1
    build listed

theorem scan_view :
    (buildings.scan results).newBuilds.map (buildings.scan results).tables =
      buildings.builds.flatMap fun build => (buildings.hit results build).2 := by
  rw [(scan_eq nodup results).2, List.map_flatMap]
  refine List.flatMap_congr fun build listed => ?_
  rw [List.map_replicate, scan_tables nodup results listed]
  exact (hitBuild_replicate _ _).symm

end

variable (buildings results) in
/-- What the accounts of one building are off by: `hp` lost and left, against the `hp` it had. -/
def excess (build : ℕ) : ℤ :=
  (buildings.hit results build).1 + ((buildings.hit results build).2.map (·.hp)).sum -
    (buildings.tables build).hp

theorem sum_excess (buildings : Buildings) (results : List (ℕ × ℤ)) (builds : List ℕ) :
    (builds.map fun build => (buildings.hit results build).1).sum +
        (((builds.flatMap fun build => (buildings.hit results build).2).map (·.hp)).sum) =
      ((builds.map buildings.tables).map (·.hp)).sum +
        (builds.map (buildings.excess results)).sum := by
  induction builds with
  | nil => rfl
  | cons build rest inductionHypothesis =>
      simp only [List.map_cons, List.sum_cons, List.flatMap_cons, List.map_append,
        List.sum_append, excess]
      omega

/-- A building is hit once and stands, or every hit on it destroys it. -/
theorem copies_iff (build : ℕ) :
    (buildings.hit results build).2.length =
        (if decide (¬ buildings.Destroyed results build) then 1 else 0) ↔
      (∃ result, buildings.hits results build = [result] ∧ 0 < result.2) ∨
        buildings.hits results build ≠ [] ∧
          ∀ result ∈ buildings.hits results build, result.2 ≤ 0 := by
  unfold hit
  rw [hitBuild_length]
  by_cases destroyed : buildings.Destroyed results build
  · simp only [destroyed, not_true_eq_false, decide_false, Bool.false_eq_true, if_false,
      List.countP_eq_zero, decide_eq_true_eq, not_lt]
    obtain ⟨result, listed, gone⟩ := destroyed
    constructor
    · exact fun all => .inr ⟨List.ne_nil_of_mem listed, all⟩
    · rintro (⟨only, single, survived⟩ | ⟨-, all⟩)
      · rw [single, List.mem_singleton] at listed
        exact absurd survived (not_lt.2 (listed ▸ gone))
      · exact all
  · have survived : ∀ result ∈ buildings.hits results build, 0 < result.2 :=
      fun result listed => not_le.1 fun gone => destroyed ⟨result, listed, gone⟩
    have counted : (buildings.hits results build).countP (0 < ·.2) =
        (buildings.hits results build).length :=
      List.countP_eq_length.2 fun result listed => decide_eq_true (survived result listed)
    simp only [destroyed, not_false_eq_true, decide_true, if_true, counted,
      List.length_eq_one_iff]
    constructor
    · rintro ⟨result, single⟩
      exact .inl ⟨result, single, survived result (by simp [single])⟩
    · rintro (⟨result, single, -⟩ | ⟨nonempty, all⟩)
      · exact ⟨result, single⟩
      · obtain ⟨result, listed⟩ := List.exists_mem_of_ne_nil _ nonempty
        exact absurd (survived result listed) (not_lt.2 (all result listed))

theorem excess_survived {build : ℕ} {result : ℕ × ℤ}
    (single : buildings.hits results build = [result]) (survived : 0 < result.2) :
    buildings.excess results build = 0 := by
  unfold excess hit
  rw [single, hitBuild_survived result survived]
  simp

theorem excess_destroyed {build : ℕ}
    (destroyed : ∀ result ∈ buildings.hits results build, result.2 ≤ 0) :
    buildings.excess results build =
      ((buildings.hits results build).map ((buildings.tables build).hp - ·.2)).sum -
        (buildings.tables build).hp := by
  unfold excess hit
  rw [hitBuild_destroyed destroyed]
  simp

/-- A destroyed building counts at least its whole `hp`, and more when it is hit twice or below
zero. -/
theorem excess_destroyed_iff {build : ℕ} (standing : 0 < (buildings.tables build).hp)
    (nonempty : buildings.hits results build ≠ [])
    (destroyed : ∀ result ∈ buildings.hits results build, result.2 ≤ 0) :
    0 ≤ buildings.excess results build ∧ (buildings.excess results build = 0 ↔
      ∃ result, buildings.hits results build = [result] ∧ result.2 = 0) := by
  rw [excess_destroyed destroyed]
  obtain ⟨first, rest, hits⟩ := List.exists_cons_of_ne_nil nonempty
  rw [hits] at destroyed ⊢
  have firstGone := destroyed first List.mem_cons_self
  have restNonneg :
      ∀ loss ∈ rest.map ((buildings.tables build).hp - ·.2), 0 ≤ loss := by
    intro loss counted
    obtain ⟨result, listed, rfl⟩ := List.mem_map.1 counted
    have gone := destroyed result (List.mem_cons_of_mem _ listed)
    omega
  have sumNonneg := List.sum_nonneg restNonneg
  rw [List.map_cons, List.sum_cons]
  refine ⟨by omega, ?_, ?_⟩
  · intro even
    have firstZero : first.2 = 0 := by omega
    cases rest with
    | nil => exact ⟨first, rfl, firstZero⟩
    | cons second rest =>
        have restZero : (((second :: rest).map ((buildings.tables build).hp - ·.2)).sum) = 0 := by
          omega
        have secondZero := List.all_zero_of_le_zero_le_of_sum_eq_zero restNonneg restZero
          (List.mem_map_of_mem List.mem_cons_self)
        have gone := destroyed second (by simp)
        omega
  · rintro ⟨result, single, zero⟩
    obtain ⟨rfl, rfl⟩ := List.cons.inj single
    simp [zero]

theorem updateBuilds_nil (buildings : Buildings) : buildings.updateBuilds [] = (buildings, 0) :=
  rfl

theorem updateBuilds_of_ne (named : results ≠ []) :
    buildings.updateBuilds results =
      (⟨(buildings.scan results).tables, (buildings.scan results).newBuilds⟩,
        (buildings.scan results).diffHp) :=
  if_neg named

theorem accounts_nil (buildings : Buildings) : buildings.Accounts [] where
  exact := (sub_self _).symm
  nonneg := le_rfl
  left := by simp [updateBuilds_nil, Destroyed, Buildings.hits]

namespace Sound

theorem total_excess (sound : buildings.Sound) (named : results ≠ []) :
    (buildings.updateBuilds results).2 +
        (buildings.updateBuilds results).1.getBuildsLeftHp =
      buildings.getBuildsLeftHp + (buildings.builds.map (buildings.excess results)).sum := by
  rw [updateBuilds_of_ne named]
  unfold getBuildsLeftHp view
  dsimp only
  rw [scan_view sound.nodup, (scan_eq sound.nodup results).1]
  exact sum_excess buildings results buildings.builds

/-- The right buildings are left when each is hit once or destroyed by every hit. -/
theorem left_iff (sound : buildings.Sound) (named : results ≠ []) :
    (buildings.updateBuilds results).1.builds =
        buildings.builds.filter (¬ buildings.Destroyed results ·) ↔
      ∀ build ∈ buildings.builds,
        (∃ result, buildings.hits results build = [result] ∧ 0 < result.2) ∨
          buildings.hits results build ≠ [] ∧
            ∀ result ∈ buildings.hits results build, result.2 ≤ 0 := by
  rw [updateBuilds_of_ne named]
  dsimp only
  rw [(scan_eq sound.nodup results).2, copies_eq_filter_iff sound.nodup]
  exact forall₂_congr fun build _ => copies_iff build

theorem hit_of_once (once : ∀ build ∈ buildings.builds, ∃ result,
      buildings.hits results build = [result] ∧ 0 ≤ result.2)
    (build : ℕ) (listed : build ∈ buildings.builds) :
    (∃ result, buildings.hits results build = [result] ∧ 0 < result.2) ∨
      buildings.hits results build ≠ [] ∧
        ∀ result ∈ buildings.hits results build, result.2 ≤ 0 := by
  obtain ⟨result, single, nonneg⟩ := once build listed
  rcases nonneg.lt_or_eq with survived | zero
  · exact .inl ⟨result, single, survived⟩
  · exact .inr ⟨by simp [single], by simp [single, ← zero]⟩

/-- `updateBuilds` keeps exact accounts when every building is named exactly once. -/
theorem once_iff (sound : buildings.Sound) (reported : buildings.Reported results) :
    buildings.Accounts results ↔ buildings.NamedOnce results := by
  by_cases named : results = []
  · subst named
    exact iff_of_true (accounts_nil buildings) (.inl rfl)
  have total := sound.total_excess named
  constructor
  · intro accounts
    have hit := (sound.left_iff named).1 accounts.left
    have nonneg : ∀ excess ∈ buildings.builds.map (buildings.excess results), 0 ≤ excess := by
      intro excess counted
      obtain ⟨build, listed, rfl⟩ := List.mem_map.1 counted
      rcases hit build listed with ⟨result, single, survived⟩ | ⟨nonempty, destroyed⟩
      · exact (excess_survived single survived).ge
      · exact (excess_destroyed_iff (sound.standing build listed) nonempty destroyed).1
    have none : (buildings.builds.map (buildings.excess results)).sum = 0 := by
      have exact := accounts.exact
      omega
    refine .inr fun build listed => ?_
    rcases hit build listed with ⟨result, single, survived⟩ | ⟨nonempty, destroyed⟩
    · exact ⟨result, single, survived.le⟩
    · have even := List.all_zero_of_le_zero_le_of_sum_eq_zero nonneg none
        (List.mem_map_of_mem listed)
      obtain ⟨result, single, zero⟩ :=
        (excess_destroyed_iff (sound.standing build listed) nonempty destroyed).2.1 even
      exact ⟨result, single, zero.ge⟩
  · intro once
    have once := once.resolve_left named
    have hit := hit_of_once once
    have even : ∀ build ∈ buildings.builds, buildings.excess results build = 0 := by
      intro build listed
      obtain ⟨result, single, nonneg⟩ := once build listed
      rcases hit build listed with ⟨result, single, survived⟩ | ⟨nonempty, destroyed⟩
      · exact excess_survived single survived
      · have zero : result.2 = 0 := (destroyed result (by simp [single])).antisymm nonneg
        exact (excess_destroyed_iff (sound.standing build listed) nonempty destroyed).2.2
          ⟨result, single, zero⟩
    have none : (buildings.builds.map (buildings.excess results)).sum = 0 :=
      List.sum_eq_zero fun excess counted => by
        obtain ⟨build, listed, rfl⟩ := List.mem_map.1 counted
        exact even build listed
    refine ⟨by omega, ?_, (sound.left_iff named).2 hit⟩
    rw [updateBuilds_of_ne named]
    dsimp only
    rw [(scan_eq sound.nodup results).1]
    refine List.sum_nonneg fun loss counted => ?_
    obtain ⟨build, listed, rfl⟩ := List.mem_map.1 counted
    obtain ⟨result, single, nonneg⟩ := once build listed
    have bounded := reported build listed result (by simp [single])
    unfold Buildings.hit
    rw [single, hitBuild_loss]
    omega

theorem updateBuilds (sound : buildings.Sound) (once : buildings.NamedOnce results) :
    (buildings.updateBuilds results).1.Sound := by
  by_cases named : results = []
  · subst named
    exact sound
  have once := once.resolve_left named
  have left := (sound.left_iff named).2 (hit_of_once once)
  refine ⟨left ▸ sound.nodup.filter _, fun build isLeft => ?_⟩
  have listed : build ∈ buildings.builds := List.mem_of_mem_filter (left ▸ isLeft)
  rw [updateBuilds_of_ne named] at isLeft ⊢
  dsimp only at isLeft ⊢
  rw [scan_tables sound.nodup results listed]
  rw [(scan_eq sound.nodup results).2, List.mem_flatMap] at isLeft
  obtain ⟨other, -, copied⟩ := isLeft
  obtain ⟨copies, rfl⟩ := List.mem_replicate.1 copied
  obtain ⟨result, single, -⟩ := once build listed
  unfold Buildings.hit at copies ⊢
  rw [hitBuild_length, single] at copies
  have survived : 0 < result.2 := by
    by_contra gone
    simp [gone] at copies
  simpa [single, hitBuild_survived result survived] using survived

end Sound

/-- A condition on every battle of a campaign. -/
def Each (holds : Buildings → List (ℕ × ℤ) → Prop) (buildings : Buildings) :
    List (List (ℕ × ℤ)) → Prop
  | [] => True
  | results :: battles =>
      holds buildings results ∧ (buildings.updateBuilds results).1.Each holds battles

theorem Sound.leftHp_nonneg (sound : buildings.Sound) : 0 ≤ buildings.getBuildsLeftHp := by
  refine List.sum_nonneg fun hp counted => ?_
  obtain ⟨value, viewed, rfl⟩ := List.mem_map.1 counted
  obtain ⟨build, listed, rfl⟩ := List.mem_map.1 viewed
  exact (sound.standing build listed).le

theorem Sound.returned_le {battles : List (List (ℕ × ℤ))} (sound : buildings.Sound)
    (accounts : buildings.Each Accounts battles) (once : buildings.Each NamedOnce battles) :
    buildings.returned battles ≤ buildings.getBuildsLeftHp := by
  induction battles generalizing buildings with
  | nil => exact sound.leftHp_nonneg
  | cons results battles inductionHypothesis =>
      have later := inductionHypothesis (sound.updateBuilds once.1) accounts.2 once.2
      have exact := accounts.1.exact
      rw [returned]
      omega

theorem Sound.each_iff {battles : List (List (ℕ × ℤ))} (sound : buildings.Sound)
    (reported : buildings.Each Reported battles) :
    buildings.Each Accounts battles ↔ buildings.Each NamedOnce battles := by
  induction battles generalizing buildings with
  | nil => exact Iff.rfl
  | cons results battles inductionHypothesis =>
      have first := sound.once_iff reported.1
      constructor
      · intro accounts
        have once := first.1 accounts.1
        exact ⟨once, (inductionHypothesis (sound.updateBuilds once) reported.2).1 accounts.2⟩
      · intro once
        exact ⟨first.2 once.1,
          (inductionHypothesis (sound.updateBuilds once.1) reported.2).2 once.2⟩

end Buildings

/-- The buildings that a campaign begins with. -/
structure Opening where
  builds : List BattleBuild
  standing : ∀ build ∈ builds, 0 < build.hp
  whole : ∀ build ∈ builds, build.hp ≤ build.maxHp

namespace Opening

/-- `Campaign:init`: every building is a table of its own. -/
def buildings (opening : Opening) : Buildings where
  tables := fun index => opening.builds.getD index ⟨0, 0, 0⟩
  builds := List.range opening.builds.length

def maxHp (opening : Opening) : ℤ :=
  (opening.builds.map (·.maxHp)).sum

@[simp]
theorem view_buildings (opening : Opening) : opening.buildings.view = opening.builds := by
  refine List.ext_getElem (by simp [Buildings.view, buildings]) fun index inView inBuilds => ?_
  simp [Buildings.view, buildings, inBuilds]

theorem sound (opening : Opening) : opening.buildings.Sound where
  nodup := List.nodup_range
  standing := fun build listed => by
    have inBuilds := List.mem_range.1 listed
    simpa [buildings, inBuilds] using opening.standing _ (List.getElem_mem inBuilds)

theorem leftHp_le (opening : Opening) : opening.buildings.getBuildsLeftHp ≤ opening.maxHp := by
  rw [Buildings.getBuildsLeftHp, view_buildings]
  exact List.sum_le_sum opening.whole

/-- The damage of a campaign adds up exactly when every battle names every building once. -/
theorem accounts_iff (opening : Opening) (battles : List (List (ℕ × ℤ)))
    (reported : opening.buildings.Each Buildings.Reported battles) :
    opening.buildings.Each Buildings.Accounts battles ∧
        opening.buildings.returned battles ≤ opening.maxHp ↔
      opening.buildings.Each Buildings.NamedOnce battles := by
  have each := opening.sound.each_iff reported
  refine ⟨fun accounts => each.1 accounts.1, fun once => ⟨each.2 once, ?_⟩⟩
  exact (opening.sound.returned_le (each.2 once) once).trans opening.leftHp_le

def sample : Opening where
  builds := [⟨1, 10, 10⟩, ⟨2, 20, 20⟩]
  standing := by decide
  whole := by decide

theorem accounts_sample :
    sample.buildings.Each Buildings.Reported [[(1, 4), (2, 20)], [(1, 0), (2, 5)]] ∧
      (sample.buildings.Each Buildings.Accounts [[(1, 4), (2, 20)], [(1, 0), (2, 5)]] ∧
          sample.buildings.returned [[(1, 4), (2, 20)], [(1, 0), (2, 5)]] ≤ sample.maxHp ↔
        sample.buildings.Each Buildings.NamedOnce [[(1, 4), (2, 20)], [(1, 0), (2, 5)]]) := by
  have reported :
      sample.buildings.Each Buildings.Reported [[(1, 4), (2, 20)], [(1, 0), (2, 5)]] := by
    refine ⟨?_, ?_, trivial⟩ <;> unfold Buildings.Reported <;> decide
  exact ⟨reported, accounts_iff sample _ reported⟩

/-- A building that the result leaves out is dropped. -/
theorem not_accounts_omitted :
    ¬ ∀ (opening : Opening) (battles : List (List (ℕ × ℤ))),
      opening.buildings.Each Buildings.Reported battles →
        opening.buildings.Each Buildings.Accounts battles ∧
          opening.buildings.returned battles ≤ opening.maxHp := by
  intro holds
  have reported : sample.buildings.Each Buildings.Reported [[(1, 4)]] := by
    refine ⟨?_, trivial⟩
    unfold Buildings.Reported
    decide
  exact absurd (holds sample [[(1, 4)]] reported).1.1.left (by decide)

end Opening

end BasWar.Starmap.Campaigns
