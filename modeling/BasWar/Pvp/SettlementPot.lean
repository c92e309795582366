import BasWar.Pvp.Settlement
import BasWar.Tables.Shares
import Mathlib.Algebra.BigOperators.Ring.Finset
import Mathlib.Algebra.BigOperators.Ring.List

/-!
# What a season settlement takes out of the pot

The stages of a season share a part of the pot, and the script keeps the rest.  The parts of the
pot are rational here; `settle_jackpot` is the case of whole parts.
-/

namespace BasWar.Pvp

open Tables

/-- A pot whose parts may have a fraction. -/
structure Pot where
  sysCarboxyl : ℚ
  plyCarboxyl : ℚ

namespace Pot

def carboxyl (pot : Pot) : ℚ :=
  pot.sysCarboxyl + pot.plyCarboxyl

def deduct (shareRatio : ℚ) (pot : Pot) : Pot where
  sysCarboxyl := ⌊pot.sysCarboxyl * (1 - shareRatio)⌋
  plyCarboxyl := ⌊pot.plyCarboxyl * (1 - shareRatio)⌋

end Pot

def Pot.ofJackpot (jackpot : Jackpot) : Pot where
  sysCarboxyl := jackpot.sysCarboxyl
  plyCarboxyl := jackpot.plyCarboxyl

namespace Ranking

variable (ranking : Ranking) (pot : Pot)

/-- The share of one player, for this pot. -/
def carboxylFrom (score : ℤ) : ℤ :=
  match ranking.stageOf score with
  | none => 0
  | some entry =>
      ⌊pot.carboxyl * ranking.shareRatio * entry.ratio / ranking.rangeCount entry⌋

def settle : List ℤ × Pot :=
  (ranking.rankList.map fun member => ranking.carboxylFrom pot member.2,
    pot.deduct ranking.shareRatio)

/-- The shares for which the script writes a hash. -/
def written : List ℤ :=
  (ranking.rankList.filter fun member => 0 < member.2).map fun member =>
    ranking.carboxylFrom pot member.2

theorem carboxylFrom_jackpot (score : ℤ) :
    ranking.carboxylFrom (.ofJackpot ranking.jackpot) score = ranking.carboxylOf score := by
  have carboxyl_eq : (Pot.ofJackpot ranking.jackpot).carboxyl = ranking.jackpot.carboxyl :=
    (Int.cast_add _ _).symm
  unfold carboxylFrom carboxylOf
  cases ranking.stageOf score with
  | none => rfl
  | some entry =>
      exact congrArg (fun carboxyl : ℚ =>
        ⌊carboxyl * ranking.shareRatio * entry.ratio / ranking.rangeCount entry⌋) carboxyl_eq

theorem settle_jackpot (matchData : MatchData) :
    (ranking.settle (.ofJackpot ranking.jackpot)).1 =
        (ranking.rows matchData).map (fun row => row.2.carboxyl) ∧
      (ranking.settle (.ofJackpot ranking.jackpot)).2 =
        .ofJackpot (ranking.jackpot.deduct ranking.shareRatio) := by
  refine ⟨?_, rfl⟩
  rw [settle, rows, List.map_map]
  calc
    _ = (ranking.rankList.zipIdx.map Prod.fst).map fun member =>
          ranking.carboxylFrom (.ofJackpot ranking.jackpot) member.2 := by rw [List.zipIdx_map_fst]
    _ = _ := by
      rw [List.map_map]
      exact List.map_congr_left fun member _ => ranking.carboxylFrom_jackpot member.1.2

def InStage (entry : StageRatio) (member : ℕ × ℤ) : Prop :=
  entry.Covers member.2

instance (entry : StageRatio) : DecidablePred (InStage entry) :=
  fun member => inferInstanceAs (Decidable (entry.Covers member.2))

/-- The part of the pot that a stage shares. -/
def stageAmount (entry : StageRatio) : ℚ :=
  pot.carboxyl * ranking.shareRatio * entry.ratio

variable {ranking pot}

theorem stageOf_mem {score : ℤ} {entry : StageRatio} (found : ranking.stageOf score = some entry) :
    entry ∈ ranking.stageRatio ∧ entry.Covers score := by
  have last (entries : List StageRatio) (start : Option StageRatio)
      (found : entries.foldl (fun found entry => if entry.Covers score then some entry else found)
        start = some entry) :
      start = some entry ∨ entry ∈ entries ∧ entry.Covers score := by
    induction entries generalizing start with
    | nil => exact .inl found
    | cons first entries ih =>
        rcases ih _ found with at_first | ⟨entry_mem, covered⟩
        · dsimp only at at_first
          split at at_first
          next covered =>
            cases at_first
            exact .inr ⟨List.mem_cons_self, covered⟩
          · exact .inl at_first
        · exact .inr ⟨List.mem_cons_of_mem _ entry_mem, covered⟩
  rcases last ranking.stageRatio none found with absent | mem
  · cases absent
  · exact mem

theorem rangeCount_pos {member : ℕ × ℤ} {entry : StageRatio}
    (member_mem : member ∈ ranking.rankList)
    (covered : InStage entry member) : 0 < ranking.rangeCount entry :=
  heads_pos member_mem covered

section Bounds

variable (pot_nonneg : 0 ≤ pot.carboxyl) (share_nonneg : 0 ≤ ranking.shareRatio)
  (ratio_nonneg : ∀ entry ∈ ranking.stageRatio, 0 ≤ entry.ratio)

include pot_nonneg share_nonneg ratio_nonneg

theorem stageAmount_nonneg : ∀ entry ∈ ranking.stageRatio,
    0 ≤ ranking.stageAmount pot entry := fun entry entry_mem =>
  mul_nonneg (mul_nonneg pot_nonneg share_nonneg) (ratio_nonneg entry entry_mem)

theorem carboxylFrom_nonneg (score : ℤ) : 0 ≤ ranking.carboxylFrom pot score := by
  unfold carboxylFrom
  split
  · exact le_rfl
  next entry found =>
    exact Int.floor_nonneg.mpr (div_nonneg (stageAmount_nonneg pot_nonneg share_nonneg ratio_nonneg
      entry (stageOf_mem found).1) (Nat.cast_nonneg _))

theorem carboxylFrom_le_due (member : ℕ × ℤ) :
    (ranking.carboxylFrom pot member.2 : ℚ) ≤
      due InStage (ranking.stageAmount pot) ranking.rankList ranking.stageRatio member := by
  have amount_nonneg := stageAmount_nonneg pot_nonneg share_nonneg ratio_nonneg
  unfold carboxylFrom
  split
  · exact due_nonneg amount_nonneg member
  next entry found =>
    obtain ⟨entry_mem, covered⟩ := stageOf_mem found
    exact (Int.floor_le _).trans (share_le_due amount_nonneg entry_mem covered)

theorem sum_carboxylFrom_le (sum_le : (ranking.stageRatio.map StageRatio.ratio).sum ≤ 1) :
    (((ranking.settle pot).1.sum : ℤ) : ℚ) ≤ pot.carboxyl * ranking.shareRatio := by
  have amount_nonneg := stageAmount_nonneg pot_nonneg share_nonneg ratio_nonneg
  have portions_eq : (ranking.stageRatio.map (ranking.stageAmount pot)).sum =
      pot.carboxyl * ranking.shareRatio * (ranking.stageRatio.map StageRatio.ratio).sum :=
    List.sum_map_mul_left _ _ _
  rw [settle, Int.cast_list_sum, List.map_map]
  calc
    _ ≤ (ranking.rankList.map
          (due InStage (ranking.stageAmount pot) ranking.rankList ranking.stageRatio)).sum :=
      List.sum_le_sum fun member _ =>
        carboxylFrom_le_due pot_nonneg share_nonneg ratio_nonneg member
    _ ≤ (ranking.stageRatio.map (ranking.stageAmount pot)).sum := sum_due_le amount_nonneg
    _ ≤ pot.carboxyl * ranking.shareRatio := by
      rw [portions_eq]
      exact mul_le_of_le_one_right (mul_nonneg pot_nonneg share_nonneg) sum_le

end Bounds

theorem deduct_le (pot : Pot) (shareRatio : ℚ) :
    (pot.deduct shareRatio).carboxyl ≤ pot.carboxyl * (1 - shareRatio) := by
  rw [Pot.carboxyl, Pot.carboxyl, add_mul]
  exact add_le_add (Int.floor_le _) (Int.floor_le _)

theorem sum_written_le (nonneg : ∀ score, 0 ≤ ranking.carboxylFrom pot score) :
    (ranking.written pot).sum ≤ (ranking.settle pot).1.sum := by
  refine List.Sublist.sum_le_sum (List.filter_sublist.map _) fun share share_mem => ?_
  obtain ⟨member, -, rfl⟩ := List.mem_map.mp share_mem
  exact nonneg member.2

/-- A settlement pays no more than the pot holds, with what it leaves, pays no negative share and
divides by no empty stage. -/
theorem settlement_conserves (sys_nonneg : 0 ≤ pot.sysCarboxyl) (ply_nonneg : 0 ≤ pot.plyCarboxyl)
    (share_nonneg : 0 ≤ ranking.shareRatio)
    (ratio_nonneg : ∀ entry ∈ ranking.stageRatio, 0 ≤ entry.ratio)
    (sum_le : (ranking.stageRatio.map StageRatio.ratio).sum ≤ 1) :
    ((ranking.settle pot).1.sum : ℚ) + (ranking.settle pot).2.carboxyl ≤ pot.carboxyl ∧
      ((ranking.written pot).sum : ℚ) + (ranking.settle pot).2.carboxyl ≤ pot.carboxyl ∧
      (∀ share ∈ (ranking.settle pot).1, 0 ≤ share) ∧
      ∀ member ∈ ranking.rankList, ∀ entry ∈ ranking.stageRatio, entry.Covers member.2 →
        ranking.rangeCount entry ≠ 0 := by
  have pot_nonneg : 0 ≤ pot.carboxyl := add_nonneg sys_nonneg ply_nonneg
  have nonneg := carboxylFrom_nonneg pot_nonneg share_nonneg ratio_nonneg
  have shared_le := sum_carboxylFrom_le pot_nonneg share_nonneg ratio_nonneg sum_le
  have left_le : (ranking.settle pot).2.carboxyl ≤ pot.carboxyl * (1 - ranking.shareRatio) :=
    deduct_le pot ranking.shareRatio
  have written_le : ((ranking.written pot).sum : ℚ) ≤ (ranking.settle pot).1.sum :=
    mod_cast sum_written_le nonneg
  have settled_le :
      ((ranking.settle pot).1.sum : ℚ) + (ranking.settle pot).2.carboxyl ≤ pot.carboxyl := by
    linarith
  refine ⟨settled_le, (add_le_add_left written_le _).trans settled_le, ?_, ?_⟩
  · intro share share_mem
    obtain ⟨member, -, rfl⟩ := List.mem_map.mp share_mem
    exact nonneg member.2
  · intro member member_mem entry _ covered
    exact (rangeCount_pos member_mem covered).ne'

/-- Three players, one of them in two stages and one in none. -/
def smallSeason : Ranking where
  rankList := [(1, 90), (2, 50), (3, 0)]
  nodup := by decide
  jackpot := ⟨100, 51⟩
  shareRatio := 1 / 2
  stageRatio := [⟨1, "gold", 1 / 2, 60, 100⟩, ⟨2, "silver", 1 / 3, 40, 100⟩]
  rankMitCfg := []

theorem smallSeason_conserves :
    ((smallSeason.settle ⟨100, 51⟩).1.sum : ℚ) + (smallSeason.settle ⟨100, 51⟩).2.carboxyl ≤
      (Pot.mk 100 51).carboxyl :=
  (settlement_conserves (by decide +kernel) (by decide +kernel) (by decide +kernel)
    (by decide +kernel) (by decide +kernel)).1

end Ranking

end BasWar.Pvp
