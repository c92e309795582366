import BasWar.Player.Resources
import BasWar.Tables.Gaps

/-!
# Production of a resource building

`makeRes` credits the whole periods since `lastMakeTick` and moves it up to the current time, less
the seconds of the period under way.  Times are milliseconds.
-/

namespace BasWar.Resources

open Tables

/-- Configuration of a building that makes resources. -/
structure MakeCfg where
  /-- Columns `perMake..`. -/
  perMake : Stored → ℕ
  /-- Columns `maxMake..`. -/
  maxMake : Stored → ℤ
  /-- `BaseMakeResCD`: seconds of a period. -/
  perSeconds : ℤ
  perSeconds_pos : 0 < perSeconds

namespace MakeCfg

def isMakeResBuild (cfg : MakeCfg) : Bool :=
  [Stored.starCoin, .ice, .titanium, .gas].any fun stored => decide (0 < cfg.perMake stored)

def period (cfg : MakeCfg) : ℤ :=
  1000 * cfg.perSeconds

theorem period_pos (cfg : MakeCfg) : 0 < cfg.period :=
  mul_pos (by decide) cfg.perSeconds_pos

end MakeCfg

/-- What `makeRes` changes of a build. -/
structure Maker where
  lastMakeTick : ℤ
  /-- Fields `cur..`. -/
  cur : Stored → ℤ

namespace Maker

variable (cfg : MakeCfg) (vipRatio : Stored → ℚ) (nowTick : ℤ) (maker : Maker)

/-- `tempTick`: the whole seconds since `lastMakeTick`. -/
def tempTick : ℤ :=
  (nowTick - maker.lastMakeTick) / 1000

/-- `count`: the periods that a call credits. -/
def count : ℤ :=
  if 0 < maker.lastMakeTick then maker.tempTick nowTick / cfg.perSeconds else 0

def credit (count : ℤ) : Maker :=
  { maker with
    cur := fun stored =>
      let made := cfg.perMake stored * count
      min (maker.cur stored + made + ⌊made * vipRatio stored⌋) (cfg.maxMake stored) }

/-- The answer is the number of periods that were credited. -/
def makeRes : Maker × ℤ :=
  if !cfg.isMakeResBuild then (maker, 0)
  else
    let count := maker.count cfg nowTick
    let moved := { maker with
      lastMakeTick :=
        if 0 < maker.lastMakeTick then
          nowTick - maker.tempTick nowTick % cfg.perSeconds * 1000
        else nowTick }
    (if 0 < count then moved.credit cfg vipRatio count else moved, max count 0)

/-- Calls at successive times, and the periods that they credit together. -/
def makeResAll : List ℤ → Maker → Maker × ℤ
  | [], maker => (maker, 0)
  | nowTick :: times, maker =>
      let made := maker.makeRes cfg vipRatio nowTick
      let rest := makeResAll times made.1
      (rest.1, made.2 + rest.2)

variable {cfg maker nowTick}

/-- The amounts depend on the periods only. -/
def stocked (cfg : MakeCfg) (total : ℤ) (maker : Maker) (stored : Stored) : ℤ :=
  if 0 < total then min (maker.cur stored + cfg.perMake stored * total) (cfg.maxMake stored)
  else maker.cur stored

theorem makeRes_nonneg : 0 ≤ (maker.makeRes cfg vipRatio nowTick).2 := by
  unfold makeRes
  split
  · exact le_rfl
  · exact le_max_right _ _

theorem makeResAll_nonneg (times : List ℤ) (maker : Maker) :
    0 ≤ (makeResAll cfg vipRatio times maker).2 := by
  induction times generalizing maker with
  | nil => exact le_rfl
  | cons nowTick times ih => exact add_nonneg (makeRes_nonneg vipRatio) (ih _)

theorem cur_makeRes (stored : Stored) :
    (maker.makeRes cfg (fun _ => 0) nowTick).1.cur stored =
      maker.stocked cfg (maker.makeRes cfg (fun _ => 0) nowTick).2 stored := by
  unfold makeRes
  split
  · rfl
  · dsimp only
    split
    next counted => simp [stocked, credit, counted, max_eq_left counted.le]
    next nothing => simp [stocked, nothing]

theorem stocked_add {first rest : ℤ} {next : Maker} (first_nonneg : 0 ≤ first)
    (rest_nonneg : 0 ≤ rest) (next_eq : ∀ stored, next.cur stored = maker.stocked cfg first stored)
    (stored : Stored) :
    next.stocked cfg rest stored = maker.stocked cfg (first + rest) stored := by
  rcases rest_nonneg.eq_or_lt with rfl | rest_pos
  · rw [add_zero, ← next_eq]
    rfl
  have rest_made : 0 ≤ cfg.perMake stored * rest := mul_nonneg (Nat.cast_nonneg _) rest_nonneg
  rw [stocked, if_pos rest_pos, next_eq, stocked, stocked, if_pos (add_pos_of_nonneg_of_pos
    first_nonneg rest_pos), mul_add]
  rcases first_nonneg.eq_or_lt with rfl | first_pos
  · simp
  · rw [if_pos first_pos]
    generalize (cfg.perMake stored : ℤ) * first = made at *
    generalize (cfg.perMake stored : ℤ) * rest = more at *
    omega

theorem cur_makeResAll (times : List ℤ) (maker : Maker) (stored : Stored) :
    (makeResAll cfg (fun _ => 0) times maker).1.cur stored =
      maker.stocked cfg (makeResAll cfg (fun _ => 0) times maker).2 stored := by
  induction times generalizing maker with
  | nil => simp [makeResAll, stocked]
  | cons nowTick times ih =>
      rw [makeResAll]
      dsimp only
      rw [ih]
      exact stocked_add (makeRes_nonneg _) (makeResAll_nonneg _ _ _) cur_makeRes stored

theorem makeRes_started (makes : cfg.isMakeResBuild = true) (started : 0 < maker.lastMakeTick)
    (later : maker.lastMakeTick ≤ nowTick) :
    (maker.makeRes cfg vipRatio nowTick).2 = maker.tempTick nowTick / cfg.perSeconds ∧
      (maker.makeRes cfg vipRatio nowTick).1.lastMakeTick =
        nowTick - maker.tempTick nowTick % cfg.perSeconds * 1000 := by
  have count_nonneg : 0 ≤ maker.tempTick nowTick / cfg.perSeconds :=
    Int.ediv_nonneg (Int.ediv_nonneg (sub_nonneg.mpr later) (by decide)) cfg.perSeconds_pos.le
  unfold makeRes count
  rw [makes, if_neg (by decide)]
  dsimp only
  rw [if_pos started, max_eq_left count_nonneg]
  refine ⟨rfl, ?_⟩
  split <;> rfl

theorem makeRes_not_started (makes : cfg.isMakeResBuild = true) (nowTick : ℤ)
    (not_started : ¬ 0 < maker.lastMakeTick) :
    (maker.makeRes cfg vipRatio nowTick).2 = 0 ∧
      (maker.makeRes cfg vipRatio nowTick).1.lastMakeTick = nowTick := by
  unfold makeRes count
  rw [makes, if_neg (by decide)]
  dsimp only
  rw [if_neg not_started, if_neg (lt_irrefl 0), if_neg not_started]
  exact ⟨rfl, rfl⟩

variable {times : List ℤ}

/-- Once production has started, the whole seconds of the gaps add up; the last call has left
whole seconds only. -/
theorem count_makeResAll (makes : cfg.isMakeResBuild = true) {previous carried : ℤ}
    (started : 0 < maker.lastMakeTick) (carried_eq : previous - maker.lastMakeTick = 1000 * carried)
    (carried_nonneg : 0 ≤ carried) (carried_lt : carried < cfg.perSeconds)
    (sorted : (previous :: times).Pairwise (· ≤ ·)) :
    (makeResAll cfg vipRatio times maker).2 =
      (carried + wholeUnits 1000 previous times) / cfg.perSeconds := by
  induction times generalizing maker previous carried with
  | nil =>
      rw [wholeUnits, add_zero, Int.ediv_eq_zero_of_lt carried_nonneg carried_lt]
      rfl
  | cons nowTick times ih =>
      rw [List.pairwise_cons] at sorted
      have previous_le : previous ≤ nowTick := sorted.1 nowTick List.mem_cons_self
      have tick_eq : maker.tempTick nowTick = (nowTick - previous) / 1000 + carried := by
        unfold tempTick
        omega
      have tick_nonneg : 0 ≤ maker.tempTick nowTick := by
        unfold tempTick
        omega
      have left_nonneg := Int.emod_nonneg (maker.tempTick nowTick) cfg.perSeconds_pos.ne'
      have split := Int.mul_ediv_add_emod (maker.tempTick nowTick) cfg.perSeconds
      have counted_nonneg : 0 ≤ cfg.perSeconds * (maker.tempTick nowTick / cfg.perSeconds) :=
        mul_nonneg cfg.perSeconds_pos.le (Int.ediv_nonneg tick_nonneg cfg.perSeconds_pos.le)
      obtain ⟨count_eq, last_eq⟩ := makeRes_started vipRatio makes started
        (by omega : maker.lastMakeTick ≤ nowTick)
      have moved_started : 0 < (maker.makeRes cfg vipRatio nowTick).1.lastMakeTick := by
        have tick_le : maker.tempTick nowTick * 1000 ≤ nowTick - maker.lastMakeTick := by
          unfold tempTick
          omega
        rw [last_eq]
        linarith
      have moved_eq : nowTick - (maker.makeRes cfg vipRatio nowTick).1.lastMakeTick =
          1000 * (maker.tempTick nowTick % cfg.perSeconds) := by
        rw [last_eq]
        ring
      have rest_eq := ih moved_started moved_eq left_nonneg
        (Int.emod_lt_of_pos _ cfg.perSeconds_pos) sorted.2
      rw [makeResAll]
      dsimp only
      rw [count_eq, rest_eq, wholeUnits, add_comm,
        ← Int.add_mul_ediv_left _ _ cfg.perSeconds_pos.ne']
      congr 1
      linarith

/-- Whole seconds of the gaps after the first call of a building that has not started. -/
def secondsSince : List ℤ → ℤ
  | [] => 0
  | time :: times => if 0 < time then wholeUnits 1000 time times else secondsSince times

theorem secondsSince_nonneg (sorted : times.Pairwise (· ≤ ·)) : 0 ≤ secondsSince times := by
  induction times with
  | nil => exact le_rfl
  | cons time times ih =>
      rw [secondsSince]
      split
      · exact wholeUnits_nonneg (by decide) sorted
      · exact ih sorted.of_cons

theorem count_makeResAll_not_started (makes : cfg.isMakeResBuild = true)
    (not_started : ¬ 0 < maker.lastMakeTick) (sorted : times.Pairwise (· ≤ ·)) :
    (makeResAll cfg vipRatio times maker).2 = secondsSince times / cfg.perSeconds := by
  induction times generalizing maker with
  | nil => exact (Int.zero_ediv _).symm
  | cons nowTick times ih =>
      obtain ⟨count_eq, last_eq⟩ := makeRes_not_started vipRatio makes nowTick not_started
      rw [makeResAll, secondsSince]
      dsimp only
      rw [count_eq, zero_add]
      split
      next started =>
        have carried_eq : nowTick - (maker.makeRes cfg vipRatio nowTick).1.lastMakeTick =
            1000 * 0 := by
          rw [last_eq]
          ring
        rw [count_makeResAll vipRatio makes (last_eq.symm ▸ started) carried_eq le_rfl
          cfg.perSeconds_pos sorted, zero_add]
      next later => exact ih (last_eq.symm ▸ later) sorted.of_cons

/-- The same periods and the same amounts. -/
def SameOutput (first second : Maker × ℤ) : Prop :=
  first.2 = second.2 ∧ ∀ stored, first.1.cur stored = second.1.cur stored

/-- The milliseconds that the calls drop belong to the period that is under way at the last time;
if production has not started, no period ends before the last time. -/
def InStep (cfg : MakeCfg) (lastMakeTick : ℤ) (times : List ℤ) (tn : ℤ) : Prop :=
  if 0 < lastMakeTick then
    restUnits 1000 lastMakeTick (times ++ [tn]) ≤ (tn - lastMakeTick) % cfg.period
  else secondsSince (times ++ [tn]) < cfg.perSeconds

/-- Calls at several times make the same as one call at the last of them exactly if they are in
step with the periods. -/
theorem makeRes_split_iff {times : List ℤ} {tn : ℤ} (makes : cfg.isMakeResBuild = true)
    (sorted : (maker.lastMakeTick :: (times ++ [tn])).Pairwise (· ≤ ·)) :
    SameOutput (makeResAll cfg (fun _ => 0) (times ++ [tn]) maker)
        (maker.makeRes cfg (fun _ => 0) tn) ↔
      InStep cfg maker.lastMakeTick times tn := by
  have amounts_iff : SameOutput (makeResAll cfg (fun _ => 0) (times ++ [tn]) maker)
      (maker.makeRes cfg (fun _ => 0) tn) ↔
        (makeResAll cfg (fun _ => 0) (times ++ [tn]) maker).2 =
          (maker.makeRes cfg (fun _ => 0) tn).2 := by
    refine and_iff_left_of_imp fun same stored => ?_
    rw [cur_makeResAll, cur_makeRes, same]
  rw [amounts_iff, InStep]
  split
  next started =>
    have later : maker.lastMakeTick ≤ tn := (List.pairwise_cons.mp sorted).1 tn (by simp)
    have parts := wholeUnits_add_restUnits 1000 maker.lastMakeTick (times ++ [tn])
    rw [List.getLast?_append, List.getLast?_singleton, Option.some_or, Option.getD_some] at parts
    have seconds_eq : wholeUnits 1000 maker.lastMakeTick (times ++ [tn]) =
        (tn - maker.lastMakeTick - restUnits 1000 maker.lastMakeTick (times ++ [tn])) / 1000 := by
      omega
    have carried_eq : maker.lastMakeTick - maker.lastMakeTick = 1000 * 0 := by ring
    rw [count_makeResAll _ makes started carried_eq le_rfl cfg.perSeconds_pos sorted,
      (makeRes_started _ makes started later).1, zero_add, seconds_eq,
      tempTick, Int.ediv_ediv_of_nonneg (by decide), Int.ediv_ediv_of_nonneg (by decide)]
    exact sub_ediv_eq_iff cfg.period_pos (restUnits_nonneg (by decide) _ _)
  next not_started =>
    rw [count_makeResAll_not_started _ makes not_started sorted.of_cons,
      (makeRes_not_started _ makes _ not_started).1]
    have seconds_nonneg := secondsSince_nonneg sorted.of_cons
    constructor
    · intro none_counted
      have less := Int.lt_ediv_add_one_mul_self (secondsSince (times ++ [tn])) cfg.perSeconds_pos
      rwa [none_counted, zero_add, one_mul] at less
    · exact Int.ediv_eq_zero_of_lt seconds_nonneg

instance (cfg : MakeCfg) (lastMakeTick : ℤ) (times : List ℤ) (tn : ℤ) :
    Decidable (InStep cfg lastMakeTick times tn) := by
  unfold InStep
  infer_instance

/-- A mine that makes 5 of ice in 30 seconds and holds 1000. -/
def iceMine : MakeCfg where
  perMake := fun stored => if stored = .ice then 5 else 0
  maxMake := fun _ => 1000
  perSeconds := 30
  perSeconds_pos := by decide

def newMine : Maker where
  lastMakeTick := 1000
  cur := fun _ => 0

/-- A call after 15.999 seconds drops 0.999 seconds, so that no period is complete after 30. -/
theorem iceMine_drops :
    ¬ SameOutput (makeResAll iceMine (fun _ => 0) ([16999] ++ [31000]) newMine)
      (newMine.makeRes iceMine (fun _ => 0) 31000) :=
  fun same => absurd same.1 (by decide +kernel)

/-- A call after 15 seconds drops nothing. -/
theorem iceMine_inStep :
    SameOutput (makeResAll iceMine (fun _ => 0) ([16000] ++ [31000]) newMine)
      (newMine.makeRes iceMine (fun _ => 0) 31000) :=
  (makeRes_split_iff (by decide) (by decide)).mpr (by decide)

end Maker

end BasWar.Resources
