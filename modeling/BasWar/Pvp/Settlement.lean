import BasWar.Player.ResBag
import Mathlib.Data.List.Nodup
import Mathlib.Data.List.Count
import Mathlib.Data.Rat.Floor

/-!
# The settlement script of a PVP season

The script runs inside redis and nothing runs beside it.  It shares a part of the pot among the
ranked players and writes one reward for every player with a positive score.  Amounts and ratios
are exact rationals here.
-/

namespace BasWar

@[ext]
structure Jackpot where
  sysCarboxyl : ℤ
  plyCarboxyl : ℤ
  deriving DecidableEq

namespace Jackpot

def carboxyl (jackpot : Jackpot) : ℤ :=
  jackpot.sysCarboxyl + jackpot.plyCarboxyl

def deduct (shareRatio : ℚ) (jackpot : Jackpot) : Jackpot where
  sysCarboxyl := ⌊jackpot.sysCarboxyl * (1 - shareRatio)⌋
  plyCarboxyl := ⌊jackpot.plyCarboxyl * (1 - shareRatio)⌋

end Jackpot

namespace Pvp

/-- An entry of `REDIS_PVP_STAGE_RATIO`. -/
structure StageRatio where
  stage : ℕ
  name : String
  ratio : ℚ
  minScore : ℤ
  maxScore : ℤ

def StageRatio.Covers (entry : StageRatio) (score : ℤ) : Prop :=
  entry.minScore ≤ score ∧ score ≤ entry.maxScore
  deriving Decidable

/-- An entry of `REDIS_PVP_RANK_MIT_REWARD`. -/
structure RankMit where
  minRank : ℕ
  maxRank : ℕ
  mit : ℤ

/-- The fields of the reward hash of a player. -/
structure Reward where
  season : ℕ
  rankTime : ℕ
  rewardTime : ℕ
  rank : ℕ
  score : ℤ
  carboxyl : ℤ
  mit : ℤ
  stage : ℕ
  stageName : String
  deriving DecidableEq

/-- What the script finds in redis. -/
structure Ranking where
  /-- Members of the sorted set with their scores, best first. -/
  rankList : List (ℕ × ℤ)
  /-- A sorted set has each member once. -/
  nodup : (rankList.map Prod.fst).Nodup
  jackpot : Jackpot
  shareRatio : ℚ
  stageRatio : List StageRatio
  rankMitCfg : List RankMit

structure MatchData where
  season : ℕ
  rankTime : ℕ
  rewardTime : ℕ

namespace Ranking

/-- `ZCOUNT` over the range of a stage. -/
def rangeCount (ranking : Ranking) (entry : StageRatio) : ℕ :=
  ranking.rankList.countP fun member => entry.Covers member.2

/-- The last stage whose range has the score; the loop does not stop at a hit. -/
def stageOf (ranking : Ranking) (score : ℤ) : Option StageRatio :=
  ranking.stageRatio.foldl (fun found entry => if entry.Covers score then some entry else found)
    none

def carboxylOf (ranking : Ranking) (score : ℤ) : ℤ :=
  match ranking.stageOf score with
  | none => 0
  | some entry =>
      ⌊ranking.jackpot.carboxyl * ranking.shareRatio * entry.ratio / ranking.rangeCount entry⌋

def mitOf (ranking : Ranking) (rank : ℕ) (score : ℤ) : ℤ :=
  if score = 0 then 0
  else
    ranking.rankMitCfg.foldl
      (fun mit entry => if entry.minRank ≤ rank ∧ rank ≤ entry.maxRank then entry.mit else mit) 0

/-- What the script works out for one member. -/
def rewardOf (ranking : Ranking) (matchData : MatchData) (rank : ℕ) (score : ℤ) : Reward where
  season := matchData.season
  rankTime := matchData.rankTime
  rewardTime := matchData.rewardTime
  rank := rank
  score := score
  carboxyl := ranking.carboxylOf score
  mit := ranking.mitOf rank score
  stage := ((ranking.stageOf score).map StageRatio.stage).getD 0
  stageName := ((ranking.stageOf score).map StageRatio.name).getD ""

def rows (ranking : Ranking) (matchData : MatchData) : List (ℕ × Reward) :=
  ranking.rankList.zipIdx.map fun member =>
    (member.1.1, ranking.rewardOf matchData (member.2 + 1) member.1.2)

def rewards (ranking : Ranking) (matchData : MatchData) : List (ℕ × Reward) :=
  (ranking.rows matchData).filter fun row => 0 < row.2.score

theorem rows_nodup (ranking : Ranking) (matchData : MatchData) :
    ((ranking.rows matchData).map Prod.fst).Nodup := by
  have members_eq : (ranking.rows matchData).map Prod.fst = ranking.rankList.map Prod.fst := by
    rw [rows, List.map_map]
    calc
      ranking.rankList.zipIdx.map _ = (ranking.rankList.zipIdx.map Prod.fst).map Prod.fst := by
        rw [List.map_map]
        rfl
      _ = ranking.rankList.map Prod.fst := by rw [List.zipIdx_map_fst]
  rw [members_eq]
  exact ranking.nodup

theorem rewards_nodup (ranking : Ranking) (matchData : MatchData) :
    ((ranking.rewards matchData).map Prod.fst).Nodup :=
  (ranking.rows_nodup matchData).sublist (List.filter_sublist.map Prod.fst)

end Ranking

end Pvp
end BasWar
