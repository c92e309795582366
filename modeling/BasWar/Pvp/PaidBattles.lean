import BasWar.Pvp.SettledOnce
import Mathlib.Data.List.Dedup

/-!
# Rewards of paid battles

Whether a battle is free is a flag of the player, and another one of its enemy.  While both flags
are set when a free battle is settled, only battles that have cost a battle number are rewarded.
-/

namespace BasWar.Pvp.Battles.Paid

open Cooperative

def Zero (reward : Reward) : Prop :=
  (∀ res ∈ spoils, reward.amount res = 0) ∧ reward.score = 0
  deriving Decidable

/-- The battle was created without a battle number. -/
def Free (battles : List Battle) (battle : ℕ) : Prop :=
  (battles[battle]?.map Battle.free).getD false = true
  deriving Decidable

def rewardedBattles (attacker : Attacker) : List ℕ :=
  ((attacker.rewards.filter fun reward => ¬ Zero reward).map Reward.battle).dedup

/-- There are no more rewarded battles than battle numbers spent, and a free battle brings nothing
to either side. -/
structure PaidOnly (attacker : Attacker) : Prop where
  rewarded : (rewardedBattles attacker).length ≤ attacker.decrs.length
  rewards : ∀ reward ∈ attacker.rewards, Free attacker.battles reward.battle → Zero reward
  scores : ∀ score ∈ attacker.scores, Free attacker.battles score.1 → score.2 = 0
  defences : ∀ defence ∈ attacker.defences, Free attacker.battles defence.battle →
    (∀ res, defence.plunder res = 0) ∧ defence.score = 0

/-- The flags of a free battle are set when it is settled. -/
def marked : Guard Attacker Request Task Reply where
  onRequest _ _ _ := True
  onReply task reply attacker _ :=
    match task, reply with
    | .endAttacked battle enemy _ _, .go =>
        Free attacker.battles battle → (attacker.bases enemy).freeBeFight = true
    | .endInfo battle enemy ret _ _, .go =>
        Free attacker.battles battle ∧ isGmRobotPlayer enemy = false ∧
          (ret = battleWin ∨ ret = battleLose) → attacker.freeFight = true
    | _, _ => True

instance (request attacker others) : Decidable (marked.onRequest request attacker others) :=
  inferInstanceAs (Decidable True)

instance (task reply attacker others) : Decidable (marked.onReply task reply attacker others) := by
  unfold marked
  dsimp only
  split <;> infer_instance

/-- A battle against an enemy, for whom no condition holds if the battle is free. -/
def Stored (battles : List Battle) (battle : ℕ) (good : Battle → Prop) : Prop :=
  ∃ stored, battles[battle]? = some stored ∧ good stored

variable {battle enemy : ℕ} {task : Task} {attacker next : Attacker} {others : List Task}
  {cfg : AttackCfg} {ret score : ℤ} {result : BattleResult} {info : Option EndInfo}

theorem Stored.free {battles : List Battle} {good : Battle → Prop}
    (is_stored : Stored battles battle good) (free : Free battles battle) :
    ∃ stored, good stored ∧ stored.free = true := by
  obtain ⟨stored, stored_eq, is_good⟩ := is_stored
  exact ⟨stored, is_good, by simpa [Free, stored_eq] using free⟩

theorem Stored.append {battles : List Battle} {good : Battle → Prop}
    (is_stored : Stored battles battle good) (more : List Battle) :
    Stored (battles ++ more) battle good := by
  obtain ⟨stored, stored_eq, is_good⟩ := is_stored
  obtain ⟨known, -⟩ := List.getElem?_eq_some_iff.mp stored_eq
  exact ⟨stored, by rw [List.getElem?_append_left known, stored_eq], is_good⟩

theorem Stored.mono {battles : List Battle} {good better : Battle → Prop}
    (is_stored : Stored battles battle good) (implies : ∀ stored, good stored → better stored) :
    Stored battles battle better := by
  obtain ⟨stored, stored_eq, is_good⟩ := is_stored
  exact ⟨stored, stored_eq, implies stored is_good⟩

def RewardKept (reward : Reward) (stored : Battle) : Prop :=
  isGmRobotPlayer stored.enemy = false ∧ (stored.free = true → Zero reward)

def DefenceKept (defence : Defence) (stored : Battle) : Prop :=
  stored.free = true → (∀ res, defence.plunder res = 0) ∧ defence.score = 0

structure Sound (attacker : Attacker) : Prop where
  reports : ∀ report ∈ attacker.reports, ∀ battle, report.fightId = some battle →
    Stored attacker.battles battle (·.enemy = report.enemyPlayerId)
  paid : ∀ battle stored, attacker.battles[battle]? = some stored → stored.free = false →
    isGmRobotPlayer stored.enemy = false → battle ∈ attacker.decrs
  rewards : ∀ reward ∈ attacker.rewards,
    Stored attacker.battles reward.battle (RewardKept reward)
  scores : ∀ score ∈ attacker.scores, Stored attacker.battles score.1 (·.free = false)
  defences : ∀ defence ∈ attacker.defences,
    Stored attacker.battles defence.battle (DefenceKept defence)

def Knows (battles : List Battle) : Task → Prop
  | .checkBattleValid battle enemy _ | .endAttacked battle enemy _ _
  | .getInStartMatchs battle enemy _ _ _ | .endInfo battle enemy _ _ _ =>
      Stored battles battle (·.enemy = enemy)
  | .updateMatchRankScore battle _ _ _ _ => Stored battles battle (·.free = false)
  | _ => True

def paidPool : Pool Attacker Task where
  shared := Sound
  own attacker task := Knows attacker.battles task
  apart _ _ := True
  apart_symm apart := apart

theorem Knows.append {battles : List Battle} (knows : Knows battles task) (more : List Battle) :
    Knows (battles ++ more) task := by
  cases task with
  | checkBattleValid battle enemy result => exact Stored.append knows more
  | endAttacked battle enemy ret result => exact Stored.append knows more
  | getInStartMatchs battle enemy ret result info => exact Stored.append knows more
  | endInfo battle enemy ret result info => exact Stored.append knows more
  | updateMatchRankScore battle ret score result info => exact Stored.append knows more
  | _ => trivial

theorem Sound.paidOnly (sound : Sound attacker) : PaidOnly attacker where
  rewarded := by
    have spent : rewardedBattles attacker ⊆ attacker.decrs := by
      intro battle battle_mem
      obtain ⟨reward, reward_mem, rfl⟩ := List.mem_map.mp (List.mem_dedup.mp battle_mem)
      obtain ⟨listed, nonzero⟩ := List.mem_filter.mp reward_mem
      obtain ⟨stored, stored_eq, player, zero⟩ := sound.rewards reward listed
      refine sound.paid reward.battle stored stored_eq ?_ player
      rw [Bool.eq_false_iff]
      exact fun free => of_decide_eq_true nonzero (zero free)
    exact (List.subperm_of_subset (List.nodup_dedup _) spent).length_le
  rewards reward reward_mem free := by
    obtain ⟨stored, kept, is_free⟩ := (sound.rewards reward reward_mem).free free
    exact kept.2 is_free
  scores score score_mem free := by
    obtain ⟨stored, not_free, is_free⟩ := (sound.scores score score_mem).free free
    rw [not_free] at is_free
    cases is_free
  defences defence defence_mem free := by
    obtain ⟨stored, kept, is_free⟩ := (sound.defences defence defence_mem).free free
    exact kept is_free

/-- A segment that creates no battle, and whose new records are in order. -/
structure Grows (attacker next : Attacker) : Prop where
  battles : next.battles = attacker.battles
  decrs : next.decrs = attacker.decrs
  reports : ∀ report ∈ next.reports, ∀ battle, report.fightId = some battle →
    ∃ listed ∈ attacker.reports, listed.fightId = some battle ∧
      listed.enemyPlayerId = report.enemyPlayerId
  rewards : ∀ reward ∈ next.rewards, reward ∈ attacker.rewards ∨
    Stored attacker.battles reward.battle (RewardKept reward)
  scores : ∀ score ∈ next.scores, score ∈ attacker.scores ∨
    Stored attacker.battles score.1 (·.free = false)
  defences : ∀ defence ∈ next.defences, defence ∈ attacker.defences ∨
    Stored attacker.battles defence.battle (DefenceKept defence)

theorem Grows.of_records (battles : next.battles = attacker.battles)
    (decrs : next.decrs = attacker.decrs) (reports : next.reports = attacker.reports)
    (rewards : next.rewards = attacker.rewards) (scores : next.scores = attacker.scores)
    (defences : next.defences = attacker.defences) : Grows attacker next where
  battles := battles
  decrs := decrs
  reports report report_mem _ fightId := ⟨report, reports ▸ report_mem, fightId, rfl⟩
  rewards _ reward_mem := .inl (rewards ▸ reward_mem)
  scores _ score_mem := .inl (scores ▸ score_mem)
  defences _ defence_mem := .inl (defences ▸ defence_mem)

theorem Grows.refl (attacker : Attacker) : Grows attacker attacker :=
  .of_records rfl rfl rfl rfl rfl rfl

theorem Grows.trans {first second third : Attacker} (left : Grows first second)
    (right : Grows second third) : Grows first third where
  battles := right.battles.trans left.battles
  decrs := right.decrs.trans left.decrs
  reports report report_mem battle fightId := by
    obtain ⟨listed, listed_mem, listed_id, listed_enemy⟩ :=
      right.reports report report_mem battle fightId
    obtain ⟨first, first_mem, first_id, first_enemy⟩ :=
      left.reports listed listed_mem battle listed_id
    exact ⟨first, first_mem, first_id, first_enemy.trans listed_enemy⟩
  rewards reward reward_mem := by
    rcases right.rewards reward reward_mem with earlier | kept
    · exact left.rewards reward earlier
    · exact .inr (left.battles ▸ kept)
  scores score score_mem := by
    rcases right.scores score score_mem with earlier | kept
    · exact left.scores score earlier
    · exact .inr (left.battles ▸ kept)
  defences defence defence_mem := by
    rcases right.defences defence defence_mem with earlier | kept
    · exact left.defences defence earlier
    · exact .inr (left.battles ▸ kept)

theorem Grows.sound (grows : Grows attacker next) (sound : Sound attacker) : Sound next where
  reports report report_mem battle fightId := by
    obtain ⟨listed, listed_mem, listed_id, listed_enemy⟩ :=
      grows.reports report report_mem battle fightId
    rw [grows.battles, ← listed_enemy]
    exact sound.reports listed listed_mem battle listed_id
  paid := by
    rw [grows.battles, grows.decrs]
    exact sound.paid
  rewards reward reward_mem := by
    rw [grows.battles]
    exact (grows.rewards reward reward_mem).elim (sound.rewards reward) id
  scores score score_mem := by
    rw [grows.battles]
    exact (grows.scores score score_mem).elim (sound.scores score) id
  defences defence defence_mem := by
    rw [grows.battles]
    exact (grows.defences defence defence_mem).elim (sound.defences defence) id

theorem Grows.keeps {result : Attacker × List Task} (holds : paidPool.Holds ⟨attacker, others⟩)
    (grows : Grows attacker result.1) (fresh : ∀ task ∈ result.2, Knows attacker.battles task) :
    paidPool.Keeps others result where
  shared := grows.sound holds.shared
  stable other other_mem := by
    have knows : Knows attacker.battles other := holds.own other other_mem
    rwa [← grows.battles] at knows
  fresh task task_mem := by
    have knows := fresh task task_mem
    rwa [← grows.battles] at knows
  apart _ _ _ _ := trivial
  fresh_apart := List.pairwise_of_forall fun _ _ => trivial

/-- A segment after which the handler knows its battle. -/
structure Leaves (attacker : Attacker) (result : Attacker × List Task) : Prop where
  grows : Grows attacker result.1
  fresh : ∀ task ∈ result.2, Knows attacker.battles task

theorem Leaves.of_grows {result : Attacker × List Task} (grows : Grows attacker next)
    (leaves : Leaves next result) : Leaves attacker result where
  grows := grows.trans leaves.grows
  fresh := grows.battles ▸ leaves.fresh

theorem leaves_one (grows : Grows attacker next) (knows : Knows attacker.battles task) :
    Leaves attacker (next, [task]) where
  grows := grows
  fresh other other_mem := by
    obtain rfl := List.mem_singleton.mp other_mem
    exact knows

theorem leaves_none (grows : Grows attacker next) : Leaves attacker (next, []) :=
  ⟨grows, by simp⟩

theorem updateReport_enemy (battle : ℕ) (result : BattleResult) (info : Option EndInfo)
    (report : Report) :
    (Attacker.updateReport battle result info report).enemyPlayerId = report.enemyPlayerId := by
  unfold Attacker.updateReport
  split <;> rfl

theorem leaves_settle (cfg : AttackCfg) (battle : ℕ) (ret : ℤ) (result : BattleResult)
    (info : Option EndInfo) (attacker : Attacker) :
    Leaves attacker (attacker.settle cfg battle ret result info) := by
  unfold Attacker.settle
  split
  · exact leaves_none (.refl attacker)
  · dsimp only
    split
    · refine leaves_one ⟨rfl, rfl, fun report report_mem other fightId => ?_,
        fun _ => .inl, fun _ => .inl, fun _ => .inl⟩ trivial
      obtain ⟨listed, listed_mem, rfl⟩ := List.mem_map.mp report_mem
      rw [updateReport_fightId] at fightId
      exact ⟨listed, listed_mem, fightId, (updateReport_enemy ..).symm⟩
    · exact leaves_none (.of_records rfl rfl rfl rfl rfl rfl)

theorem leaves_askScore (not_free : Stored attacker.battles battle (·.free = false)) :
    Leaves attacker (attacker.askScore cfg battle ret score result info) := by
  unfold Attacker.askScore
  split
  · split
    · exact leaves_none (.refl attacker)
    · exact leaves_settle ..
  · exact leaves_one (.refl attacker) not_free

theorem grows_addRewards {info : EndInfo}
    (kept : Stored attacker.battles battle (RewardKept ⟨battle, info.amount, score⟩)) :
    Grows attacker (attacker.addRewards cfg battle info score) := by
  obtain ⟨res, next_eq⟩ := addRewards_eq cfg battle info score attacker
  rw [next_eq]
  refine ⟨rfl, rfl, fun report report_mem _ fightId => ⟨report, report_mem, fightId, rfl⟩,
    fun reward reward_mem => ?_, fun _ => .inl, fun _ => .inl⟩
  rcases List.mem_append.mp reward_mem with earlier | last
  · exact .inl earlier
  · obtain rfl := List.mem_singleton.mp last
    exact .inr kept

section

variable (stored : Stored attacker.battles battle (·.enemy = enemy)) (allows : marked.onReply
  (.endInfo battle enemy ret result info) .go attacker others)
include stored allows

theorem not_free_of_marked (player : isGmRobotPlayer enemy = false)
    (decided : ret = battleWin ∨ ret = battleLose) (not_free : attacker.freeFight = false) :
    Stored attacker.battles battle fun stored => stored.enemy = enemy ∧ stored.free = false := by
  obtain ⟨found, found_eq, is_enemy⟩ := stored
  refine ⟨found, found_eq, is_enemy, ?_⟩
  rw [Bool.eq_false_iff]
  intro free
  have is_free : Free attacker.battles battle := by simp [Free, found_eq, free]
  have flag : attacker.freeFight = true := allows ⟨is_free, player, decided⟩
  rw [not_free] at flag
  cases flag

theorem leaves_endInfo : Leaves attacker (attacker.endInfo cfg battle enemy ret result info) := by
  unfold Attacker.endInfo
  split_ifs with robot is_win flag is_lose flag
  · exact leaves_settle ..
  · split
    · exact leaves_none (.refl attacker)
    · rename_i answer
      refine .of_grows (grows_addRewards ?_) (leaves_settle ..)
      refine stored.mono fun found is_enemy => ⟨?_, fun _ => ?_⟩
      · rw [is_enemy]
        exact Bool.eq_false_iff.mpr robot
      · rw [Attacker.winInfo, if_pos flag]
        exact ⟨fun _ _ => rfl, rfl⟩
  · split
    · exact leaves_none (.refl attacker)
    · rename_i answer
      have paid := not_free_of_marked stored allows (Bool.eq_false_iff.mpr robot) (.inl is_win)
        (Bool.eq_false_iff.mpr flag)
      refine .of_grows (grows_addRewards ?_) (leaves_askScore ?_)
      · refine paid.mono fun found is_paid => ⟨?_, fun free => ?_⟩
        · rw [is_paid.1]
          exact Bool.eq_false_iff.mpr robot
        · rw [is_paid.2] at free
          cases free
      · obtain ⟨res, next_eq⟩ := addRewards_eq cfg battle
          (Attacker.winInfo cfg attacker.freeFight answer) cfg.pvpWinGainPoint attacker
        rw [next_eq]
        exact paid.mono fun _ is_paid => is_paid.2
  · split
    · exact leaves_none (.refl attacker)
    · exact leaves_settle ..
  · have paid := not_free_of_marked stored allows (Bool.eq_false_iff.mpr robot) (.inr is_lose)
      (Bool.eq_false_iff.mpr flag)
    exact leaves_askScore (paid.mono fun _ is_paid => is_paid.2)
  · exact leaves_settle ..

end

theorem leaves_scored {inStart : Bool}
    (not_free : Stored attacker.battles battle (·.free = false)) :
    Leaves attacker (attacker.scored cfg battle ret score inStart result info) := by
  have finished {next : Attacker} (grows : Grows attacker next) : Leaves attacker (next, []) ∧
      ∀ info : EndInfo, Leaves attacker
        (next.settle cfg battle ret result (some { info with atkBadge := score })) :=
    ⟨leaves_none grows, fun _ => .of_grows grows (leaves_settle ..)⟩
  unfold Attacker.scored
  cases inStart with
  | false =>
      have finished := finished (.refl attacker)
      cases info with
      | none => exact finished.1
      | some info => exact finished.2 info
  | true =>
      have grows : Grows attacker { attacker with
          rankScore := attacker.rankScore + score
          scores := attacker.scores ++ [(battle, score)] } := by
        refine ⟨rfl, rfl, fun report report_mem _ fightId =>
          ⟨report, report_mem, fightId, rfl⟩, fun _ => .inl, fun entry entry_mem => ?_,
          fun _ => .inl⟩
        rcases List.mem_append.mp entry_mem with earlier | last
        · exact .inl earlier
        · obtain rfl := List.mem_singleton.mp last
          exact .inr not_free
      have finished := finished grows
      cases info with
      | none => exact finished.1
      | some info => exact finished.2 info

theorem leaves_endAttacked (stored : Stored attacker.battles battle (·.enemy = enemy))
    (allows : marked.onReply (.endAttacked battle enemy ret result) .go attacker others) :
    Leaves attacker (attacker.endAttacked cfg battle enemy ret result) := by
  have recorded (bases : ℕ → Foundation) : Grows attacker
      { attacker with
        bases := bases
        defences := attacker.defences ++
          [Attacker.defence cfg battle ret (attacker.bases enemy)] } := by
    refine ⟨rfl, rfl, fun report report_mem _ fightId => ⟨report, report_mem, fightId, rfl⟩,
      fun _ => .inl, fun _ => .inl, fun defence defence_mem => ?_⟩
    rcases List.mem_append.mp defence_mem with earlier | last
    · exact .inl earlier
    · obtain rfl := List.mem_singleton.mp last
      right
      rw [defence_battle]
      obtain ⟨found, found_eq, -⟩ := stored
      refine ⟨found, found_eq, fun free => ?_⟩
      have is_free : Free attacker.battles battle := by simp [Free, found_eq, free]
      have flag : (attacker.bases enemy).freeBeFight = true := allows is_free
      rw [Attacker.defence, if_pos flag]
      exact ⟨fun _ => rfl, rfl⟩
  unfold Attacker.endAttacked
  dsimp only
  split_ifs
  · exact .of_grows (recorded _) (leaves_one (.of_records rfl rfl rfl rfl rfl rfl) stored)
  · exact .of_grows (recorded _) (leaves_one (.of_records rfl rfl rfl rfl rfl rfl) stored)
  · exact leaves_one (recorded _) stored

theorem createBattle_records (enemy : ℕ) (heroIds : List ℕ) (attacker : Attacker) :
    (attacker.createBattle enemy heroIds).battles =
        attacker.battles ++ [⟨enemy, heroIds, !attacker.enoughBattleNum enemy⟩] ∧
      (attacker.createBattle enemy heroIds).reports =
        (attacker.addFightPvpReport
          ⟨some attacker.battles.length, enemy, battleUnknow, 0, []⟩).reports := by
  unfold Attacker.createBattle
  dsimp only
  split
  · exact ⟨rfl, rfl⟩
  · obtain ⟨battleNum, decrs, next_eq⟩ := decrPlayerBattleNum_eq attacker.battles.length enemy
      (Attacker.addFightPvpReport ⟨some attacker.battles.length, enemy, battleUnknow, 0, []⟩
        { attacker with
          battles := attacker.battles ++ [⟨enemy, heroIds, !attacker.enoughBattleNum enemy⟩]
          incomplete := some attacker.battles.length })
    rw [next_eq]
    exact ⟨rfl, rfl⟩

theorem createBattle_decrs (heroIds : List ℕ) (player : isGmRobotPlayer enemy = false)
    (enough : attacker.enoughBattleNum enemy = true) :
    (attacker.createBattle enemy heroIds).decrs =
      attacker.decrs ++ [attacker.battles.length] := by
  have left : 0 < attacker.battleNum := by
    simpa [Attacker.enoughBattleNum, player] using enough
  have not_empty : ¬ (attacker.freeFight = true ∧ attacker.battleNum ≤ 0) := by omega
  have not_robot : ¬ isGmRobotPlayer enemy = true := by simp [player]
  simp [Attacker.createBattle, enough, Attacker.decrPlayerBattleNum, Attacker.addFightPvpReport,
    not_empty, not_robot]

theorem mem_createBattle_decrs (heroIds : List ℕ) (spent : battle ∈ attacker.decrs) :
    battle ∈ (attacker.createBattle enemy heroIds).decrs := by
  unfold Attacker.createBattle Attacker.decrPlayerBattleNum
  dsimp only
  split_ifs
  · exact spent
  · exact spent
  · exact spent
  · exact List.mem_append_left _ spent

theorem keeps_createBattle (enemy : ℕ) (heroIds : List ℕ)
    (holds : paidPool.Holds ⟨attacker, others⟩) :
    paidPool.Keeps others (attacker.createBattle enemy heroIds, []) := by
  have sound : Sound attacker := holds.shared
  have creates := creates_createBattle enemy heroIds attacker
  obtain ⟨battles_eq, reports_eq⟩ := createBattle_records enemy heroIds attacker
  refine ⟨⟨?_, ?_, ?_, ?_, ?_⟩, fun other other_mem => ?_, by simp, fun _ _ _ _ => trivial, .nil⟩
  · intro report report_mem battle fightId
    rw [reports_eq] at report_mem
    rw [battles_eq]
    rcases addFightPvpReport_reports report_mem with earlier | rfl
    · exact (sound.reports report earlier battle fightId).append _
    · obtain rfl := Option.some.inj fightId
      let stored : Battle := ⟨enemy, heroIds, !attacker.enoughBattleNum enemy⟩
      exact ⟨stored, by simp [stored], rfl⟩
  · intro battle stored stored_eq not_free player
    rw [battles_eq] at stored_eq
    rcases Nat.lt_or_ge battle attacker.battles.length with earlier | later
    · rw [List.getElem?_append_left earlier] at stored_eq
      exact mem_createBattle_decrs heroIds (sound.paid battle stored stored_eq not_free player)
    · obtain ⟨known, -⟩ := List.getElem?_eq_some_iff.mp stored_eq
      have battle_eq : battle = attacker.battles.length := by
        simp only [List.length_append, List.length_singleton] at known
        omega
      subst battle_eq
      rw [List.getElem?_concat_length, Option.some.injEq] at stored_eq
      subst stored_eq
      rw [createBattle_decrs heroIds player (by simpa using not_free)]
      simp
  · intro reward reward_mem
    rw [creates.rewards] at reward_mem
    rw [battles_eq]
    exact (sound.rewards reward reward_mem).append _
  · intro score score_mem
    rw [creates.scores] at score_mem
    rw [battles_eq]
    exact (sound.scores score score_mem).append _
  · intro defence defence_mem
    rw [creates.defences] at defence_mem
    rw [battles_eq]
    exact (sound.defences defence defence_mem).append _
  · have knows : Knows attacker.battles other := holds.own other other_mem
    have next_knows := knows.append [⟨enemy, heroIds, !attacker.enoughBattleNum enemy⟩]
    rwa [← battles_eq] at next_knows

theorem keeps_accept (request : Request) (holds : paidPool.Holds ⟨attacker, others⟩) :
    paidPool.Keeps others (attacker.accept request) := by
  cases request with
  | startBattle enemy armyId =>
      have grows : Grows attacker { attacker with freeFight := false } :=
        .of_records rfl rfl rfl rfl rfl rfl
      simp only [Attacker.accept, Attacker.startBattle]
      split
      · exact grows.keeps holds (by simp)
      · split
        · exact grows.keeps holds (by simp [Knows])
        · exact grows.keeps holds (by simp)
  | endBattle battle ret soliders =>
      exact (Grows.refl attacker).keeps holds (by simp [Attacker.accept, Knows])
  | uploadBattle battle =>
      exact (Grows.refl attacker).keeps holds (by simp [Attacker.accept, Knows])
  | addFightPvpReport enemy =>
      refine Grows.keeps holds ⟨rfl, rfl, fun report report_mem battle fightId => ?_,
        fun _ => .inl, fun _ => .inl, fun _ => .inl⟩ (by simp [Attacker.accept])
      rcases addFightPvpReport_reports report_mem with earlier | rfl
      · exact ⟨report, earlier, fightId, rfl⟩
      · cases fightId
  | startSelfBattle | foundation enemy base | bags battleNum res army | elapse time =>
      exact Grows.keeps holds (.of_records rfl rfl rfl rfl rfl rfl) (by simp [Attacker.accept])

theorem keeps_resume {reply : Reply} (holds : paidPool.Holds ⟨attacker, others⟩)
    (knows : Knows attacker.battles task) (allows : marked.onReply task reply attacker others) :
    paidPool.Keeps others (attacker.resume cfg task reply) := by
  have again : paidPool.Keeps others (attacker, [task]) :=
    .unchanged holds knows fun _ _ => trivial
  have ended : paidPool.Keeps others (attacker, []) := .ended holds
  have leaves {result : Attacker × List Task} (leaves : Leaves attacker result) :
      paidPool.Keeps others result := leaves.grows.keeps holds leaves.fresh
  have suspended {task : Task} (fresh : Knows attacker.battles task) :
      paidPool.Keeps others (attacker, [task]) := leaves (leaves_one (.refl attacker) fresh)
  have unrecorded {next : Attacker} {task : Task} (grows : Grows attacker next)
      (fresh : Knows attacker.battles task) : paidPool.Keeps others (next, [task]) :=
    leaves (leaves_one grows fresh)
  have listed {battle : ℕ} {result : BattleResult} :
      paidPool.Keeps others (attacker.endBattle battle result) := by
    unfold Attacker.endBattle
    split
    · exact ended
    · rename_i report report_eq
      split
      · exact ended
      · have fightId : report.fightId = some battle := by
          simpa using List.find?_some report_eq
        exact suspended
          (holds.shared.reports report (List.mem_of_find?_eq_some report_eq) battle fightId)
  have passed {battle enemy : ℕ} {ret : ℤ} {result : BattleResult}
      (stored : Stored attacker.battles battle (·.enemy = enemy)) :
      paidPool.Keeps others (attacker.battleValid battle enemy ret result) :=
    unrecorded (.of_records rfl rfl rfl rfl rfl rfl) stored
  cases task with
  | getFoundationInfo enemy heroIds =>
      cases reply with
      | go => exact suspended trivial
      | refused => exact suspended trivial
      | raise => exact ended
      | _ => exact again
  | foundationInfo enemy heroIds info =>
      cases reply with
      | go =>
          simp only [Attacker.resume, Attacker.foundationInfo]
          split
          · exact ended
          · split
            · exact ended
            · exact suspended trivial
      | raise => exact ended
      | _ => exact again
  | startAttacked enemy heroIds cost isFreeFight =>
      cases reply with
      | go =>
          simp only [Attacker.resume, Attacker.startAttacked]
          split
          · exact suspended trivial
          · exact unrecorded (.of_records rfl rfl rfl rfl rfl rfl) trivial
      | refused => exact suspended trivial
      | raise => exact ended
      | _ => exact again
  | startedAttacked enemy heroIds cost info =>
      cases reply with
      | go =>
          simp only [Attacker.resume, Attacker.startedAttacked]
          split
          · exact ended
          · split_ifs
            · exact ended
            · exact suspended trivial
            · exact unrecorded (.of_records rfl rfl rfl rfl rfl rfl) trivial
      | raise => exact ended
      | _ => exact again
  | getSelfRank enemy heroIds =>
      cases reply with
      | go => exact keeps_createBattle enemy heroIds holds
      | raise => exact ended
      | _ => exact again
  | getBattle battle ret soliders =>
      cases reply with
      | go =>
          simp only [Attacker.resume]
          split
          · exact ended
          · exact listed
      | refused => exact ended
      | raise => exact ended
      | _ => exact again
  | getUploadBattle battle =>
      cases reply with
      | go =>
          simp only [Attacker.resume]
          split
          · exact suspended trivial
          · exact ended
      | refused => exact ended
      | raise => exact ended
      | _ => exact again
  | execIncompleteBattle battle =>
      cases reply with
      | recalculated ret soliders => exact listed
      | refused => exact ended
      | raise => exact ended
      | _ => exact again
  | checkBattleValid battle enemy result =>
      cases reply with
      | go => exact passed knows
      | recalculated ret soliders =>
          simp only [Attacker.resume]
          split
          · exact passed knows
          · exact passed knows
      | refused => exact leaves (leaves_none (.of_records rfl rfl rfl rfl rfl rfl))
      | raise => exact ended
      | _ => exact again
  | endAttacked battle enemy ret result =>
      cases reply with
      | go => exact leaves (leaves_endAttacked knows allows)
      | refused => exact suspended knows
      | raise => exact ended
      | _ => exact again
  | getInStartMatchs battle enemy ret result info =>
      cases reply with
      | matchs inStart => exact unrecorded (.of_records rfl rfl rfl rfl rfl rfl) knows
      | raise => exact ended
      | _ => exact again
  | endInfo battle enemy ret result info =>
      cases reply with
      | go => exact leaves (leaves_endInfo knows allows)
      | raise => exact ended
      | _ => exact again
  | updateMatchRankScore battle ret score result info =>
      cases reply with
      | matchs inStart => exact leaves (leaves_scored knows)
      | raise => exact ended
      | _ => exact again
  | endGetBattle =>
      cases reply with
      | go => exact unrecorded (.of_records rfl rfl rfl rfl rfl rfl) trivial
      | refused => exact suspended trivial
      | raise => exact ended
      | _ => exact again
  | autoChangePlayers =>
      cases reply with
      | go => exact leaves (leaves_none (.of_records rfl rfl rfl rfl rfl rfl))
      | raise => exact ended
      | _ => exact again

theorem paidPool_kept (cfg : AttackCfg) : paidPool.KeptBy (battles cfg) marked where
  accept request _ _ holds _ := keeps_accept request holds
  resume _ _ _ _ holds own _ allows := keeps_resume holds own allows

theorem attackerStart_holds (pid now : ℕ) (bases : ℕ → Foundation) (battleNum : ℤ)
    (res : BaseRes → ℤ) (army : Army) :
    paidPool.Holds (attackerStart pid now bases battleNum res army) where
  shared :=
    ⟨fun _ report_mem => (List.not_mem_nil report_mem).elim,
      fun _ _ stored_eq => by simp [attackerStart] at stored_eq,
      fun _ reward_mem => (List.not_mem_nil reward_mem).elim,
      fun _ score_mem => (List.not_mem_nil score_mem).elim,
      fun _ defence_mem => (List.not_mem_nil defence_mem).elim⟩
  own _ task_mem := (List.not_mem_nil task_mem).elim
  apart := .nil

/-- The end of a free battle, which asks for no scores. -/
def freeEnd : List (Event Request Reply) :=
  [.request (.endBattle 0 battleWin []), .reply 0 .go, .reply 0 .go, .reply 0 .go, .reply 0 .go,
    .reply 0 .go, .reply 0 .go]

/-- After a free battle has begun, the player tries to attack itself, and then wins the battle. -/
def clearedRun : List (Event Request Reply) :=
  sampleStart ++ [.request (.startBattle 100 1)] ++
    [.request (.endBattle 0 battleWin []), .reply 0 .go, .reply 0 .go, .reply 0 .go, .reply 0 .go,
      .reply 0 (.matchs true)]

end BasWar.Pvp.Battles.Paid
