import BasWar.Pvp.SettlementPot

/-!
# What a player is shown of a season

The script of `getPvpMatchInfo` tells a player his reward so far and lists his opponents.  It finds
a stage by a loop that stops at the first hit, where the settlement goes on to the last one, and it
reads the clock of redis in seconds, where the game server stores protection times in milliseconds.
-/

namespace BasWar.Pvp

/-- The fields that are read of `REDIS_PLAYER_BASE_INFO`. -/
structure BaseInfo where
  name : Option String
  level : Option ℤ
  protectTick : Option ℤ
  headIcon : Option String
  unionName : Option String
  createTime : Option ℤ

/-- An answer of `HMGET` where nothing is stored. -/
def BaseInfo.absent : BaseInfo :=
  ⟨none, none, none, none, none, none⟩

/-- The hashes of all players. -/
abbrev BaseInfos : Type := ℕ → Option BaseInfo

/-- `HMGET`: one value for each field, whether there is a hash or not. -/
def BaseInfos.values (baseInfo : BaseInfos) (pid : ℕ) : BaseInfo :=
  (baseInfo pid).getD .absent

/-- The protection time of a player, in milliseconds. -/
def BaseInfos.protectTick (baseInfo : BaseInfos) (pid : ℕ) : ℤ :=
  (baseInfo.values pid).protectTick.getD 0

/-- An opponent in the answer. -/
structure MatchPlayer where
  playerId : ℕ
  playerScore : ℤ
  playerName : String
  playerLevel : ℤ
  protectTick : ℤ
  playerHead : String
  unionName : String
  diffTick : ℤ
  diffScore : ℤ
  canAttack : Bool

structure MatchInfo where
  jackpot : ℚ
  reward : ℤ
  playerList : List MatchPlayer

namespace Ranking

variable (ranking : Ranking) (pot : Pot)

def zscore (pid : ℕ) : Option ℤ :=
  (ranking.rankList.find? fun member => member.1 = pid).map Prod.snd

def shownStage (score : ℤ) : Option StageRatio :=
  ranking.stageRatio.find? fun entry => entry.Covers score

def shownReward (pid : ℕ) : ℤ :=
  match ranking.zscore pid with
  | none => 0
  | some score =>
      match ranking.shownStage score with
      | none => 0
      | some entry =>
          if entry.stage = 0 then 0
          else
            let rangeCount := if ranking.rangeCount entry = 0 then 1 else ranking.rangeCount entry
            ⌊pot.carboxyl * ranking.shareRatio * entry.ratio / rangeCount⌋

/-- An opponent, unless he is protected.  His score is read, but the caller's one is used. -/
def matchPlayer (scoreS : Option ℤ) (now : ℤ) (values : BaseInfo) (pid : ℕ) :
    Option MatchPlayer :=
  let score := scoreS.getD 0
  let protectTick := values.protectTick.getD 0
  if protectTick ≤ now then
    some
      { playerId := pid
        playerScore := score
        playerName := values.name.getD ""
        playerLevel := values.level.getD 0
        protectTick := protectTick
        playerHead := values.headIcon.getD ""
        unionName := values.unionName.getD ""
        diffTick := now - protectTick
        diffScore := |scoreS.getD 0 - score|
        canAttack := true }
  else none

/-- The script, run at a time in milliseconds. -/
def getPvpMatchInfo (baseInfo : BaseInfos) (time pid : ℕ) (armyPlayerList : List ℕ) :
    MatchInfo where
  jackpot := pot.carboxyl
  reward := ranking.shownReward pot pid
  playerList := armyPlayerList.filterMap fun other =>
    matchPlayer (ranking.zscore pid) ((time / 1000 : ℕ) : ℤ) (baseInfo.values other) other

/-- The hashes that a settlement writes, with their field `carboxyl`. -/
def writtenRewards : List (ℕ × ℤ) :=
  (ranking.rankList.filter fun member => 0 < member.2).map fun member =>
    (member.1, ranking.carboxylFrom pot member.2)

/-- What a settlement writes for a player, or 0. -/
def settledReward (pid : ℕ) : ℤ :=
  (((ranking.writtenRewards pot).find? fun row => row.1 = pid).map Prod.snd).getD 0

/-- The share of the pot that a stage has for one of its members. -/
def stageShare (entry : StageRatio) : ℚ :=
  ranking.stageAmount pot entry / ranking.rangeCount entry

/-- The share of a stage comes to nothing. -/
def NoShare (entry : StageRatio) : Prop :=
  0 ≤ ranking.stageShare pot entry ∧ ranking.stageShare pot entry < 1

/-- The first and the last stage that have a score agree about it. -/
def StagesAgree (score : ℤ) (first last : StageRatio) : Prop :=
  if 0 < score then
    if first.stage = 0 then ranking.NoShare pot last
    else ⌊ranking.stageShare pot first⌋ = ⌊ranking.stageShare pot last⌋
  else first.stage = 0 ∨ ranking.NoShare pot first

variable {ranking pot}

theorem writtenRewards_jackpot (matchData : MatchData) :
    ranking.writtenRewards (.ofJackpot ranking.jackpot) =
      (ranking.rewards matchData).map fun row => (row.1, row.2.carboxyl) := by
  have rewards_eq : ranking.rewards matchData =
      (ranking.rankList.zipIdx.filter fun member => 0 < member.1.2).map fun member =>
        (member.1.1, ranking.rewardOf matchData (member.2 + 1) member.1.2) := by
    rw [rewards, rows, List.filter_map]
    rfl
  have members_eq : ranking.rankList.filter (fun member => 0 < member.2) =
      (ranking.rankList.zipIdx.filter fun member => 0 < member.1.2).map Prod.fst := by
    rw [← List.zipIdx_map_fst 0 ranking.rankList, List.filter_map, List.zipIdx_map_fst]
    rfl
  rw [rewards_eq, writtenRewards, members_eq, List.map_map, List.map_map]
  refine List.map_congr_left fun member _ => ?_
  exact congrArg (Prod.mk member.1.1) (ranking.carboxylFrom_jackpot member.1.2)

variable {score : ℤ} {entry : StageRatio}

theorem zscore_mem {pid : ℕ} (ranked : ranking.zscore pid = some score) :
    (pid, score) ∈ ranking.rankList := by
  obtain ⟨member, found, rfl⟩ := Option.map_eq_some_iff.mp ranked
  have named := List.find?_some found
  rw [decide_eq_true_eq] at named
  exact named ▸ List.mem_of_find?_eq_some found

theorem zscore_eq {pid : ℕ} (member_mem : (pid, score) ∈ ranking.rankList) :
    ranking.zscore pid = some score := by
  cases ranked : ranking.zscore pid with
  | none =>
      have absent := List.find?_eq_none.mp (Option.map_eq_none_iff.mp ranked)
      exact absurd (decide_eq_true rfl) (absent _ member_mem)
  | some other =>
      have same := List.inj_on_of_nodup_map ranking.nodup (zscore_mem ranked) member_mem rfl
      exact congrArg some (Prod.ext_iff.mp same).2

theorem settledReward_of_unranked {pid : ℕ} (unranked : ranking.zscore pid = none) :
    ranking.settledReward pot pid = 0 := by
  have absent := List.find?_eq_none.mp (Option.map_eq_none_iff.mp unranked)
  have none_written : ((ranking.writtenRewards pot).find? fun row => row.1 = pid) = none := by
    rw [List.find?_eq_none]
    rintro row row_mem named
    obtain ⟨member, member_mem, rfl⟩ := List.mem_map.mp row_mem
    exact absent member (List.mem_filter.mp member_mem).1 named
  rw [settledReward, none_written]
  rfl

theorem settledReward_of_ranked {pid : ℕ} (ranked : ranking.zscore pid = some score) :
    ranking.settledReward pot pid = if 0 < score then ranking.carboxylFrom pot score else 0 := by
  unfold settledReward
  cases found : (ranking.writtenRewards pot).find? fun row => row.1 = pid with
  | none =>
      split
      next scored =>
        have written : (pid, ranking.carboxylFrom pot score) ∈ ranking.writtenRewards pot :=
          List.mem_map_of_mem (List.mem_filter.mpr ⟨zscore_mem ranked, decide_eq_true scored⟩)
        exact absurd (decide_eq_true rfl) (List.find?_eq_none.mp found _ written)
      · rfl
  | some row =>
      obtain ⟨member, member_mem, rfl⟩ := List.mem_map.mp (List.mem_of_find?_eq_some found)
      obtain ⟨in_list, scored⟩ := List.mem_filter.mp member_mem
      have named : member.1 = pid := by simpa using List.find?_some found
      have same : member.2 = score := by
        have member_ranked : ranking.zscore pid = some member.2 := zscore_eq (named ▸ in_list)
        exact Option.some.inj (member_ranked.symm.trans ranked)
      rw [← same, if_pos (of_decide_eq_true scored)]
      rfl

/-- Both loops find a stage, or none does. -/
theorem shownStage_eq_none_iff :
    ranking.shownStage score = none ↔ ranking.stageOf score = none := by
  have kept (entries : List StageRatio) (start : Option StageRatio) :
      entries.foldl (fun found entry => if entry.Covers score then some entry else found) start =
          none ↔ start = none ∧ ∀ entry ∈ entries, ¬ entry.Covers score := by
    induction entries generalizing start with
    | nil => simp
    | cons entry entries ih =>
        rw [List.foldl_cons, ih, List.forall_mem_cons]
        by_cases covered : entry.Covers score <;> simp [covered]
  rw [stageOf, kept, shownStage, List.find?_eq_none]
  simp

theorem shownReward_of_stage {pid : ℕ} (ranked : ranking.zscore pid = some score)
    (found : ranking.shownStage score = some entry) :
    ranking.shownReward pot pid =
      if entry.stage = 0 then 0 else ⌊ranking.stageShare pot entry⌋ := by
  have covered : InStage entry (pid, score) := by
    have in_range := List.find?_some found
    exact of_decide_eq_true in_range
  have members_pos := rangeCount_pos (zscore_mem ranked) covered
  simp only [shownReward, ranked, found, if_neg members_pos.ne']
  rfl

theorem carboxylFrom_of_stage (found : ranking.stageOf score = some entry) :
    ranking.carboxylFrom pot score = ⌊ranking.stageShare pot entry⌋ := by
  rw [carboxylFrom, found]
  rfl

theorem noShare_iff : ranking.NoShare pot entry ↔ ⌊ranking.stageShare pot entry⌋ = 0 :=
  Int.floor_eq_zero_iff.symm

theorem stagesAgree_iff {first last : StageRatio} :
    ranking.StagesAgree pot score first last ↔
      (if first.stage = 0 then 0 else ⌊ranking.stageShare pot first⌋) =
        if 0 < score then ⌊ranking.stageShare pot last⌋ else 0 := by
  unfold StagesAgree
  rw [noShare_iff, noShare_iff]
  by_cases numbered : first.stage = 0
  · rw [if_pos numbered, if_pos numbered]
    split
    · exact eq_comm
    · exact iff_of_true (.inl numbered) rfl
  · rw [if_neg numbered, if_neg numbered]
    split
    · exact Iff.rfl
    · exact or_iff_right numbered

/-- A player is shown what the settlement writes for him exactly if the stages agree about his
score. -/
theorem shown_eq_settled_iff (ranking : Ranking) (pot : Pot) (baseInfo : BaseInfos)
    (time pid : ℕ) (armyPlayerList : List ℕ) :
    (ranking.getPvpMatchInfo pot baseInfo time pid armyPlayerList).reward =
        ranking.settledReward pot pid ↔
      ∀ score first last, ranking.zscore pid = some score →
        ranking.shownStage score = some first → ranking.stageOf score = some last →
          ranking.StagesAgree pot score first last := by
  change ranking.shownReward pot pid = ranking.settledReward pot pid ↔ _
  cases ranked : ranking.zscore pid with
  | none =>
      rw [settledReward_of_unranked ranked]
      simp [shownReward, ranked]
  | some score =>
      rw [settledReward_of_ranked ranked]
      cases shown : ranking.shownStage score with
      | none =>
          have none_covers := shownStage_eq_none_iff.mp shown
          have none_shown : ranking.shownReward pot pid = 0 := by simp [shownReward, ranked, shown]
          have none_settled : ranking.carboxylFrom pot score = 0 := by
            simp [carboxylFrom, none_covers]
          rw [none_shown, none_settled, ite_self]
          refine iff_of_true rfl fun other first last same shown_first => ?_
          rw [← Option.some.inj same, shown] at shown_first
          cases shown_first
      | some first =>
          cases settled : ranking.stageOf score with
          | none => rw [shownStage_eq_none_iff.mpr settled] at shown; cases shown
          | some last =>
              rw [shownReward_of_stage ranked shown, carboxylFrom_of_stage settled,
                ← stagesAgree_iff]
              constructor
              · intro agree other first' last' same shown_first settled_last
                obtain rfl := Option.some.inj same
                obtain rfl := Option.some.inj (shown.symm.trans shown_first)
                obtain rfl := Option.some.inj (settled.symm.trans settled_last)
                exact agree
              · exact fun agree => agree score first last rfl shown settled

/-- One zero-score player in a stage that pays. -/
def quietSeason : Ranking where
  rankList := [(1, 40), (2, 0)]
  nodup := by decide
  jackpot := ⟨100, 0⟩
  shareRatio := 1
  stageRatio := [⟨1, "Private", 1 / 2, 0, 79⟩]
  rankMitCfg := []

/-- He is shown a quarter of the pot and gets nothing. -/
theorem not_shown_eq_settled :
    (quietSeason.getPvpMatchInfo ⟨100, 0⟩ (fun _ => none) 0 2 []).reward ≠
      quietSeason.settledReward ⟨100, 0⟩ 2 := by
  decide +kernel

def Ended (baseInfo : BaseInfos) (time pid : ℕ) : Prop :=
  baseInfo.protectTick pid ≤ time

/-- Opponents with a record are listed once if their protection has ended, and else not at all,
each with his own score and its distance to the caller's. -/
structure DescribesOpponents (ranking : Ranking) (baseInfo : BaseInfos) (time pid : ℕ)
    (armyPlayerList : List ℕ) (playerList : List MatchPlayer) : Prop where
  once : ∀ other ∈ armyPlayerList, (baseInfo other).isSome → Ended baseInfo time other →
    playerList.countP (fun player => player.playerId = other) = 1
  protects : ∀ other ∈ armyPlayerList, (baseInfo other).isSome → ¬ Ended baseInfo time other →
    ∀ player ∈ playerList, player.playerId ≠ other
  playerScore : ∀ player ∈ playerList, (baseInfo player.playerId).isSome →
    player.playerScore = (ranking.zscore player.playerId).getD 0
  diffScore : ∀ player ∈ playerList, (baseInfo player.playerId).isSome →
    player.diffScore =
      |(ranking.zscore pid).getD 0 - (ranking.zscore player.playerId).getD 0|

/-- No opponent has a protection time between the seconds and the milliseconds of the clock; one
that ended before is listed once and has the caller's score. -/
def OpponentsAlike (ranking : Ranking) (baseInfo : BaseInfos) (time pid : ℕ)
    (armyPlayerList : List ℕ) : Prop :=
  ∀ other ∈ armyPlayerList, (baseInfo other).isSome →
    (baseInfo.protectTick other ≤ time →
      baseInfo.protectTick other ≤ (time / 1000 : ℕ)) ∧
    (baseInfo.protectTick other ≤ (time / 1000 : ℕ) →
      armyPlayerList.count other = 1 ∧
        (ranking.zscore other).getD 0 = (ranking.zscore pid).getD 0)

theorem matchPlayer_of_ended {scoreS : Option ℤ} {now : ℤ} {baseInfo : BaseInfos} {pid : ℕ}
    (ended : baseInfo.protectTick pid ≤ now) :
    ∃ player, matchPlayer scoreS now (baseInfo.values pid) pid = some player ∧
      player.playerId = pid := by
  unfold matchPlayer
  exact ⟨_, if_pos ended, rfl⟩

theorem matchPlayer_eq_some {scoreS : Option ℤ} {now : ℤ} {baseInfo : BaseInfos} {pid : ℕ}
    {player : MatchPlayer}
    (listed : matchPlayer scoreS now (baseInfo.values pid) pid = some player) :
    baseInfo.protectTick pid ≤ now ∧ player.playerId = pid ∧ player.playerScore = scoreS.getD 0 ∧
      player.diffScore = 0 := by
  unfold matchPlayer at listed
  dsimp only at listed
  split at listed
  next ended =>
    cases listed
    exact ⟨ended, rfl, rfl, by simp⟩
  · cases listed

section Opponents

variable {ranking : Ranking} {pot : Pot} {baseInfo : BaseInfos} {time pid : ℕ}
  {armyPlayerList : List ℕ}

theorem countP_playerList (other : ℕ) :
    (ranking.getPvpMatchInfo pot baseInfo time pid armyPlayerList).playerList.countP
        (fun player => player.playerId = other) =
      if baseInfo.protectTick other ≤ (time / 1000 : ℕ) then armyPlayerList.count other else 0 := by
  have entry_eq (listed : ℕ) :
      ((matchPlayer (ranking.zscore pid) ((time / 1000 : ℕ) : ℤ) (baseInfo.values listed)
        listed).map fun player => decide (player.playerId = other)).getD false =
          (decide (listed = other) && decide (baseInfo.protectTick other ≤ (time / 1000 : ℕ))) := by
    cases found : matchPlayer (ranking.zscore pid) ((time / 1000 : ℕ) : ℤ)
        (baseInfo.values listed) listed with
    | none =>
        by_cases same : listed = other
        · subst same
          have protected_still : ¬ baseInfo.protectTick listed ≤ (time / 1000 : ℕ) := by
            intro ended
            obtain ⟨player, some_player, -⟩ :=
              @matchPlayer_of_ended (ranking.zscore pid) _ baseInfo listed ended
            rw [found] at some_player
            cases some_player
          rw [decide_eq_false protected_still, Bool.and_false]
          rfl
        · rw [decide_eq_false same, Bool.false_and]
          rfl
    | some player =>
        obtain ⟨ended, named, -, -⟩ := matchPlayer_eq_some found
        rw [Option.map_some, Option.getD_some, named]
        by_cases same : listed = other
        · subst same
          rw [decide_eq_true ended, Bool.and_true]
        · rw [decide_eq_false same, Bool.false_and]
  rw [getPvpMatchInfo, List.countP_filterMap, funext entry_eq]
  split
  next ended =>
    simp only [ended, decide_true, Bool.and_true]
    rfl
  next not_ended =>
    simp only [not_ended, decide_false, Bool.and_false]
    exact List.countP_eq_zero.mpr fun _ _ => Bool.false_ne_true

theorem mem_playerList {player : MatchPlayer}
    (listed : player ∈
      (ranking.getPvpMatchInfo pot baseInfo time pid armyPlayerList).playerList) :
    player.playerId ∈ armyPlayerList ∧
      baseInfo.protectTick player.playerId ≤ (time / 1000 : ℕ) ∧
      player.playerScore = (ranking.zscore pid).getD 0 ∧ player.diffScore = 0 := by
  obtain ⟨other, other_mem, found⟩ := List.mem_filterMap.mp listed
  obtain ⟨ended, rfl, score_eq, diff_eq⟩ := matchPlayer_eq_some found
  exact ⟨other_mem, ended, score_eq, diff_eq⟩

/-- The answer describes the opponents by their own data exactly if they are alike. -/
theorem describes_iff (ranking : Ranking) (pot : Pot) (baseInfo : BaseInfos) (time pid : ℕ)
    (armyPlayerList : List ℕ) :
    DescribesOpponents ranking baseInfo time pid armyPlayerList
        (ranking.getPvpMatchInfo pot baseInfo time pid armyPlayerList).playerList ↔
      OpponentsAlike ranking baseInfo time pid armyPlayerList := by
  have seconds_le : ((time / 1000 : ℕ) : ℤ) ≤ time := by exact_mod_cast Nat.div_le_self time 1000
  constructor
  · intro describes other other_mem recorded
    have listed_once (ended : Ended baseInfo time other) := describes.once other other_mem recorded
      ended
    rw [countP_playerList] at listed_once
    refine ⟨fun ended => ?_, fun passed => ⟨?_, ?_⟩⟩
    · by_contra still
      have once := listed_once ended
      rw [if_neg still] at once
      cases once
    · have once := listed_once (passed.trans seconds_le)
      rwa [if_pos passed] at once
    · obtain ⟨player, found, rfl⟩ :=
        @matchPlayer_of_ended (ranking.zscore pid) _ baseInfo other passed
      have listed : player ∈
          (ranking.getPvpMatchInfo pot baseInfo time pid armyPlayerList).playerList :=
        List.mem_filterMap.mpr ⟨player.playerId, other_mem, found⟩
      rw [← describes.playerScore player listed recorded, (mem_playerList listed).2.2.1]
  · intro alike
    refine ⟨fun other other_mem recorded ended => ?_, fun other _ _ still player listed named => ?_,
      fun player listed recorded => ?_, fun player listed recorded => ?_⟩
    · obtain ⟨passes, apart⟩ := alike other other_mem recorded
      rw [countP_playerList, if_pos (passes ended)]
      exact (apart (passes ended)).1
    · have passed := (mem_playerList listed).2.1
      rw [named] at passed
      exact still (passed.trans seconds_le)
    · obtain ⟨mem, passed, score_eq, -⟩ := mem_playerList listed
      rw [score_eq, ((alike _ mem recorded).2 passed).2]
    · obtain ⟨mem, passed, -, diff_eq⟩ := mem_playerList listed
      rw [diff_eq, ((alike _ mem recorded).2 passed).2, sub_self, abs_zero]

end Opponents

def sampleInfos : BaseInfos
  | 1 => some ⟨some "one", some 4, some 1700000000000, none, none, none⟩
  | 3 => some ⟨some "three", some 2, none, none, none, none⟩
  | _ => none

/-- Player 1 is left out, and player 3 is shown with the caller's score. -/
theorem not_describes : ¬ DescribesOpponents quietSeason sampleInfos 1700000001000 1 [3]
      (quietSeason.getPvpMatchInfo ⟨100, 0⟩ sampleInfos 1700000001000 1 [3]).playerList ∧
    ¬ DescribesOpponents quietSeason sampleInfos 1700000001000 2 [1]
      (quietSeason.getPvpMatchInfo ⟨100, 0⟩ sampleInfos 1700000001000 2 [1]).playerList := by
  constructor
  · intro describes
    have scores := describes.playerScore _ List.mem_cons_self rfl
    exact absurd scores (by decide +kernel)
  · intro describes
    have ended : Ended sampleInfos 1700000001000 1 := by
      unfold Ended
      decide +kernel
    exact absurd (describes.once 1 List.mem_cons_self rfl ended) (by decide +kernel)

end Ranking

end BasWar.Pvp
