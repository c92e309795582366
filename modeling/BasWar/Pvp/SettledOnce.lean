import BasWar.Pvp.Battle

/-!
# Battles that are settled once

A battle is settled once while no request gets past the checks of `endBattle` unless the report of
the battle is listed, has no result yet, and no other request is between the checks and the report.
-/

namespace BasWar.Pvp.Battles

open Cooperative

namespace Attacker

/-- Runs of `endAttacked` for a battle. -/
def attacked (battle : ℕ) (attacker : Attacker) : ℕ :=
  (attacker.defences.map Defence.battle).count battle

def rewarded (battle : ℕ) (attacker : Attacker) : ℕ :=
  (attacker.rewards.map Reward.battle).count battle

def rankScores (battle : ℕ) (attacker : Attacker) : ℕ :=
  (attacker.scores.map Prod.fst).count battle

def lost (battle : ℕ) (attacker : Attacker) : ℕ :=
  attacker.losses.count battle

end Attacker

/-- A battle is settled at most once. -/
structure SettledOnce (attacker : Attacker) (battle : ℕ) : Prop where
  attacked : attacker.attacked battle ≤ 1
  rewarded : attacker.rewarded battle ≤ 1
  rankScores : attacker.rankScores battle ≤ 1
  lost : attacker.lost battle ≤ 1

/-- The listed report of a battle has no result, and no request is settling the battle or has
failed to. -/
def Open (battle : ℕ) (attacker : Attacker) : Prop :=
  battle ∉ attacker.pending ∧
    ∃ report ∈ attacker.reports, report.fightId = some battle ∧ report.result = battleUnknow
  deriving Decidable

/-- Only a request for an open battle passes the checks, with a result. -/
def ticketed (cfg : AttackCfg) : Guard Attacker Request Task Reply where
  onRequest _ _ _ := True
  onReply task reply attacker _ :=
    match task, reply with
    | .checkBattleValid battle _ _, .go => Open battle attacker
    | .checkBattleValid battle _ _, .recalculated ret _ =>
        Open battle attacker ∧ (cfg.checkBattleValid = true → ret ≠ battleUnknow)
    | _, _ => True

instance (cfg : AttackCfg) (request attacker others) :
    Decidable ((ticketed cfg).onRequest request attacker others) :=
  inferInstanceAs (Decidable True)

instance (cfg : AttackCfg) (task reply attacker others) :
    Decidable ((ticketed cfg).onReply task reply attacker others) := by
  unfold ticketed
  dsimp only
  split <;> infer_instance

structure Untouched (attacker : Attacker) (battle : ℕ) : Prop where
  attacked : attacker.attacked battle = 0
  rewarded : attacker.rewarded battle = 0
  rankScores : attacker.rankScores battle = 0
  lost : attacker.lost battle = 0

variable {attacker next : Attacker} {battle enemy : ℕ} {task : Task} {others : List Task}
  {report : Report} {cfg : AttackCfg} {ret : ℤ} {info : Option EndInfo}

theorem Untouched.once (untouched : Untouched attacker battle) :
    SettledOnce attacker battle where
  attacked := by rw [untouched.attacked]; exact Nat.zero_le _
  rewarded := by rw [untouched.rewarded]; exact Nat.zero_le _
  rankScores := by rw [untouched.rankScores]; exact Nat.zero_le _
  lost := by rw [untouched.lost]; exact Nat.zero_le _

structure Sound (attacker : Attacker) : Prop where
  once : ∀ battle, SettledOnce attacker battle
  fresh : ∀ battle, Open battle attacker → Untouched attacker battle
  created : ∀ battle, attacker.battles.length ≤ battle →
    Untouched attacker battle ∧ battle ∉ attacker.pending
  reports : ∀ report ∈ attacker.reports, ∀ battle, report.fightId = some battle →
    battle < attacker.battles.length

def Task.settles : Task → Option ℕ
  | .endAttacked battle _ _ _ | .getInStartMatchs battle _ _ _ _ | .endInfo battle _ _ _ _
  | .updateMatchRankScore battle _ _ _ _ => some battle
  | _ => none

def Task.result : Task → Option BattleResult
  | .checkBattleValid _ _ result | .endAttacked _ _ _ result | .getInStartMatchs _ _ _ result _
  | .endInfo _ _ _ result _ | .updateMatchRankScore _ _ _ result _ => some result
  | _ => none

/-- The rewards that a handler still has to give were not given. -/
def Task.Ahead (attacker : Attacker) : Task → Prop
  | .endAttacked battle _ _ _ => Untouched attacker battle
  | .getInStartMatchs battle _ _ _ _ | .endInfo battle _ _ _ _ =>
      attacker.rewarded battle = 0 ∧ attacker.rankScores battle = 0 ∧ attacker.lost battle = 0
  | .updateMatchRankScore battle _ _ _ _ =>
      attacker.rankScores battle = 0 ∧ attacker.lost battle = 0
  | _ => True

structure Task.Knows (attacker : Attacker) (task : Task) : Prop where
  pending : ∀ battle, task.settles = some battle → battle ∈ attacker.pending
  result : ∀ result, task.result = some result → result.ret ≠ battleUnknow
  ahead : task.Ahead attacker

/-- The attacker and its handlers; two handlers settle different battles. -/
def battlePool : Pool Attacker Task where
  shared := Sound
  own attacker task := task.Knows attacker
  apart first second := ∀ battle, first.settles = some battle → second.settles ≠ some battle
  apart_symm apart battle second_eq first_eq := apart battle first_eq second_eq

structure SameBattle (attacker next : Attacker) (battle : ℕ) : Prop where
  attacked : next.attacked battle = attacker.attacked battle
  rewarded : next.rewarded battle = attacker.rewarded battle
  rankScores : next.rankScores battle = attacker.rankScores battle
  lost : next.lost battle = attacker.lost battle
  pending : battle ∈ next.pending ↔ battle ∈ attacker.pending
  reopened : Open battle next → Open battle attacker

theorem SameBattle.trans {first second third : Attacker} (left : SameBattle first second battle)
    (right : SameBattle second third battle) :
    SameBattle first third battle where
  attacked := right.attacked.trans left.attacked
  rewarded := right.rewarded.trans left.rewarded
  rankScores := right.rankScores.trans left.rankScores
  lost := right.lost.trans left.lost
  pending := right.pending.trans left.pending
  reopened opened := left.reopened (right.reopened opened)

theorem SameBattle.untouched (same : SameBattle attacker next battle)
    (untouched : Untouched attacker battle) :
    Untouched next battle where
  attacked := same.attacked.trans untouched.attacked
  rewarded := same.rewarded.trans untouched.rewarded
  rankScores := same.rankScores.trans untouched.rankScores
  lost := same.lost.trans untouched.lost

theorem SameBattle.once (same : SameBattle attacker next battle)
    (once : SettledOnce attacker battle) :
    SettledOnce next battle where
  attacked := same.attacked.trans_le once.attacked
  rewarded := same.rewarded.trans_le once.rewarded
  rankScores := same.rankScores.trans_le once.rankScores
  lost := same.lost.trans_le once.lost

theorem SameBattle.knows
    (same : ∀ battle, task.settles = some battle → SameBattle attacker next battle)
    (knows : task.Knows attacker) : task.Knows next where
  pending battle settles := (same battle settles).pending.mpr (knows.pending battle settles)
  result := knows.result
  ahead := by
    have ahead := knows.ahead
    cases task with
    | endAttacked battle enemy ret result => exact (same battle rfl).untouched ahead
    | getInStartMatchs battle enemy ret result info =>
        obtain ⟨rewarded, rankScores, lost⟩ := ahead
        have same := same battle rfl
        exact ⟨same.rewarded.trans rewarded, same.rankScores.trans rankScores,
          same.lost.trans lost⟩
    | endInfo battle enemy ret result info =>
        obtain ⟨rewarded, rankScores, lost⟩ := ahead
        have same := same battle rfl
        exact ⟨same.rewarded.trans rewarded, same.rankScores.trans rankScores,
          same.lost.trans lost⟩
    | updateMatchRankScore battle ret score result info =>
        obtain ⟨rankScores, lost⟩ := ahead
        have same := same battle rfl
        exact ⟨same.rankScores.trans rankScores, same.lost.trans lost⟩
    | _ => trivial

/-- A segment changes one battle at most, and creates none. -/
structure Frame (battle : Option ℕ) (attacker next : Attacker) : Prop where
  same : ∀ other, battle ≠ some other → SameBattle attacker next other
  battles : next.battles = attacker.battles
  reports : ∀ report ∈ next.reports, ∀ other, report.fightId = some other →
    ∃ listed ∈ attacker.reports, listed.fightId = some other

theorem Frame.trans {battle : Option ℕ} {first second third : Attacker}
    (left : Frame battle first second) (right : Frame battle second third) :
    Frame battle first third where
  same other other_ne := (left.same other other_ne).trans (right.same other other_ne)
  battles := right.battles.trans left.battles
  reports report report_mem other fightId := by
    obtain ⟨listed, listed_mem, listed_eq⟩ := right.reports report report_mem other fightId
    exact left.reports listed listed_mem other listed_eq

theorem Frame.of_records (defences : next.defences = attacker.defences)
    (rewards : next.rewards = attacker.rewards) (scores : next.scores = attacker.scores)
    (losses : next.losses = attacker.losses) (pending : next.pending = attacker.pending)
    (battles : next.battles = attacker.battles) (reports : next.reports = attacker.reports) :
    Frame none attacker next where
  same other _ := by
    refine ⟨?_, ?_, ?_, ?_, by rw [pending], fun opened => ?_⟩
    · rw [Attacker.attacked, defences, Attacker.attacked]
    · rw [Attacker.rewarded, rewards, Attacker.rewarded]
    · rw [Attacker.rankScores, scores, Attacker.rankScores]
    · rw [Attacker.lost, losses, Attacker.lost]
    · rwa [Open, pending, reports] at opened
  battles := battles
  reports report report_mem _ fightId := ⟨report, reports ▸ report_mem, fightId⟩

theorem Frame.refl (attacker : Attacker) : Frame none attacker attacker :=
  .of_records rfl rfl rfl rfl rfl rfl rfl

theorem Frame.weaken (frame : Frame none attacker next) (battle : ℕ) :
    Frame (some battle) attacker next where
  same other _ := frame.same other (by simp)
  battles := frame.battles
  reports := frame.reports

theorem Frame.sound {battle : Option ℕ} (frame : Frame battle attacker next)
    (sound : Sound attacker)
    (touched : ∀ other, battle = some other → other < attacker.battles.length ∧
      SettledOnce next other ∧ (Open other next → Untouched next other)) : Sound next where
  once other := by
    by_cases is_battle : battle = some other
    · exact (touched other is_battle).2.1
    · exact (frame.same other is_battle).once (sound.once other)
  fresh other opened := by
    by_cases is_battle : battle = some other
    · exact (touched other is_battle).2.2 opened
    · have same := frame.same other is_battle
      exact same.untouched (sound.fresh other (same.reopened opened))
  created other created := by
    rw [frame.battles] at created
    have other_ne : battle ≠ some other := fun is_battle => by
      have known := (touched other is_battle).1
      omega
    have same := frame.same other other_ne
    obtain ⟨untouched, not_pending⟩ := sound.created other created
    exact ⟨same.untouched untouched, fun pending => not_pending (same.pending.mp pending)⟩
  reports report report_mem other fightId := by
    obtain ⟨listed, listed_mem, listed_eq⟩ := frame.reports report report_mem other fightId
    rw [frame.battles]
    exact sound.reports listed listed_mem other listed_eq

theorem Frame.keeps {result : Attacker × List Task} (holds : battlePool.Holds ⟨attacker, others⟩)
    (frame : Frame none attacker result.1)
    (fresh : ∀ task ∈ result.2, task.Knows result.1 ∧ task.settles = none)
    (single : result.2.length ≤ 1) : battlePool.Keeps others result where
  shared := frame.sound holds.shared (by simp)
  stable other other_mem :=
    SameBattle.knows (fun battle _ => frame.same battle (by simp)) (holds.own other other_mem)
  fresh task task_mem := (fresh task task_mem).1
  apart other _ task task_mem battle _ settles := by
    rw [(fresh task task_mem).2] at settles
    cases settles
  fresh_apart := pairwise_of_single single

/-- A segment of the handler that settles a battle; afterwards the battle is not open. -/
structure Settles (battle : ℕ) (attacker : Attacker) (result : Attacker × List Task) : Prop where
  frame : Frame (some battle) attacker result.1
  once : SettledOnce result.1 battle
  shut : ¬ Open battle result.1
  fresh : ∀ task ∈ result.2, task.Knows result.1 ∧
    ∀ other, task.settles = some other → other = battle
  single : result.2.length ≤ 1

theorem Settles.of_frame {result : Attacker × List Task} (frame : Frame (some battle) attacker next)
    (settles : Settles battle next result) :
    Settles battle attacker result where
  frame := frame.trans settles.frame
  once := settles.once
  shut := settles.shut
  fresh := settles.fresh
  single := settles.single

theorem Settles.keeps {result : Attacker × List Task} (holds : battlePool.Holds ⟨attacker, others⟩)
    (known : battle < attacker.battles.length)
    (apart : ∀ other ∈ others, other.settles ≠ some battle)
    (settles : Settles battle attacker result) : battlePool.Keeps others result where
  shared := settles.frame.sound holds.shared fun other other_eq => by
    obtain rfl := Option.some.inj other_eq
    exact ⟨known, settles.once, fun opened => absurd opened settles.shut⟩
  stable other other_mem := by
    refine SameBattle.knows (fun other_battle other_settles => ?_) (holds.own other other_mem)
    refine settles.frame.same other_battle fun same => apart other other_mem ?_
    rw [other_settles, same]
  fresh task task_mem := (settles.fresh task task_mem).1
  apart other other_mem task task_mem other_battle other_settles task_settles := by
    have same := (settles.fresh task task_mem).2 other_battle task_settles
    exact apart other other_mem (same ▸ other_settles)
  fresh_apart := pairwise_of_single settles.single

theorem Task.Knows.idle (settles : task.settles = none) (no_result : task.result = none)
    (ahead : task.Ahead attacker) : task.Knows attacker where
  pending battle settles_eq := by
    rw [settles] at settles_eq
    cases settles_eq
  result result result_eq := by
    rw [no_result] at result_eq
    cases result_eq
  ahead := ahead

theorem updateReport_fightId (battle : ℕ) (result : BattleResult) (info : Option EndInfo)
    (report : Report) :
    (Attacker.updateReport battle result info report).fightId = report.fightId := by
  unfold Attacker.updateReport
  split <;> rfl

theorem updateReport_of_ne (result : BattleResult) (info : Option EndInfo)
    (fightId_ne : report.fightId ≠ some battle) :
    Attacker.updateReport battle result info report = report := by
  rw [Attacker.updateReport, if_neg fightId_ne]

theorem updateReport_result (result : BattleResult) (info : Option EndInfo)
    (fightId_eq : report.fightId = some battle) :
    (Attacker.updateReport battle result info report).result = result.ret := by
  rw [Attacker.updateReport, if_pos fightId_eq]

theorem frame_of_counts
    (attacked : ∀ other, other ≠ battle → next.attacked other = attacker.attacked other)
    (rewarded : ∀ other, other ≠ battle → next.rewarded other = attacker.rewarded other)
    (rankScores : ∀ other, other ≠ battle → next.rankScores other = attacker.rankScores other)
    (lost : ∀ other, other ≠ battle → next.lost other = attacker.lost other)
    (pending : ∀ other, other ≠ battle → (other ∈ next.pending ↔ other ∈ attacker.pending))
    (battles : next.battles = attacker.battles) (reports : next.reports = attacker.reports) :
    Frame (some battle) attacker next where
  same other is_other := by
    have other_ne : other ≠ battle := fun same => is_other (same ▸ rfl)
    refine ⟨attacked other other_ne, rewarded other other_ne, rankScores other other_ne,
      lost other other_ne, pending other other_ne, fun opened => ?_⟩
    obtain ⟨not_pending, listed⟩ := opened
    rw [reports] at listed
    exact ⟨fun is_pending => not_pending ((pending other other_ne).mpr is_pending), listed⟩
  battles := battles
  reports report report_mem _ fightId := ⟨report, reports ▸ report_mem, fightId⟩

theorem count_concat_of_ne {battles : List ℕ} {other : ℕ} (other_ne : other ≠ battle) :
    (battles ++ [battle]).count other = battles.count other := by
  rw [List.count_append, List.count_singleton, if_neg, add_zero]
  simpa using other_ne.symm

theorem count_concat_self (battles : List ℕ) (battle : ℕ) :
    (battles ++ [battle]).count battle = battles.count battle + 1 := by
  simp [List.count_append]

theorem frame_losses (attacker : Attacker) (battle : ℕ) (army : Army) :
    Frame (some battle) attacker
      { attacker with army := army, losses := attacker.losses ++ [battle] } :=
  frame_of_counts (fun _ _ => rfl) (fun _ _ => rfl) (fun _ _ => rfl)
    (fun _ other_ne => count_concat_of_ne other_ne) (fun _ _ => Iff.rfl) rfl rfl

theorem frame_report (attacker : Attacker) (battle : ℕ) (result : BattleResult)
    (info : Option EndInfo) :
    Frame (some battle) attacker
      { attacker with
        reports := attacker.reports.map (Attacker.updateReport battle result info)
        pending := attacker.pending.filter (· ≠ battle) } where
  same other is_other := by
    have other_ne : other ≠ battle := fun same => is_other (same ▸ rfl)
    have pending_iff : other ∈ attacker.pending.filter (· ≠ battle) ↔ other ∈ attacker.pending := by
      simp [other_ne]
    refine ⟨rfl, rfl, rfl, rfl, pending_iff, ?_⟩
    rintro ⟨not_pending, report, report_mem, fightId, unknow⟩
    obtain ⟨listed, listed_mem, rfl⟩ := List.mem_map.mp report_mem
    rw [updateReport_fightId] at fightId
    have fightId_ne : listed.fightId ≠ some battle := by
      rw [fightId]
      exact fun same => other_ne (Option.some.inj same)
    rw [updateReport_of_ne result info fightId_ne] at unknow
    exact ⟨fun is_pending => not_pending (pending_iff.mpr is_pending),
      listed, listed_mem, fightId, unknow⟩
  battles := rfl
  reports report report_mem other fightId := by
    obtain ⟨listed, listed_mem, rfl⟩ := List.mem_map.mp report_mem
    rw [updateReport_fightId] at fightId
    exact ⟨listed, listed_mem, fightId⟩

theorem settles_pending {tasks : List Task} (pending : battle ∈ attacker.pending)
    (once : SettledOnce attacker battle)
    (fresh : ∀ task ∈ tasks, task.Knows attacker ∧
      ∀ other, task.settles = some other → other = battle) (single : tasks.length ≤ 1) :
    Settles battle attacker (attacker, tasks) where
  frame := (Frame.refl attacker).weaken battle
  once := once
  shut opened := opened.1 pending
  fresh := fresh
  single := single

theorem settles_settle {result : BattleResult} (pending : battle ∈ attacker.pending)
    (once : SettledOnce attacker battle) (lost : attacker.lost battle = 0)
    (has_result : result.ret ≠ battleUnknow) :
    Settles battle attacker (attacker.settle cfg battle ret result info) := by
  unfold Attacker.settle
  split
  · exact settles_pending pending once (by simp) (by simp)
  · dsimp only
    have next_once (army : Army) :
        SettledOnce { attacker with army := army, losses := attacker.losses ++ [battle] }
          battle := by
      refine ⟨once.attacked, once.rewarded, once.rankScores, ?_⟩
      rw [Attacker.lost, count_concat_self]
      exact Nat.le_of_eq (congrArg (· + 1) lost)
    split_ifs with listed
    · refine .of_frame (frame_losses attacker battle _) ⟨frame_report _ battle result info, ?_, ?_,
        ?_, by simp⟩
      · obtain ⟨attacked, rewarded, rankScores, lost⟩ := next_once attacker.army
        exact ⟨attacked, rewarded, rankScores, lost⟩
      · rintro ⟨-, report, report_mem, fightId, unknow⟩
        obtain ⟨listed, listed_mem, rfl⟩ := List.mem_map.mp report_mem
        rw [updateReport_fightId] at fightId
        rw [updateReport_result result info fightId] at unknow
        exact has_result unknow
      · intro task task_mem
        obtain rfl := List.mem_singleton.mp task_mem
        exact ⟨.idle rfl rfl trivial, fun _ settles => by cases settles⟩
    · exact .of_frame (frame_losses attacker battle _)
        (settles_pending pending (next_once _) (by simp) (by simp))

theorem settles_askScore {score : ℤ} {result : BattleResult} (pending : battle ∈ attacker.pending)
    (once : SettledOnce attacker battle) (rankScores : attacker.rankScores battle = 0)
    (lost : attacker.lost battle = 0) (has_result : result.ret ≠ battleUnknow) :
    Settles battle attacker (attacker.askScore cfg battle ret score result info) := by
  unfold Attacker.askScore
  split
  · split
    · exact settles_pending pending once (by simp) (by simp)
    · exact settles_settle pending once lost has_result
  · refine settles_pending pending once (fun task task_mem => ?_) (by simp)
    obtain rfl := List.mem_singleton.mp task_mem
    refine ⟨⟨fun other settles => ?_, fun other result_eq => ?_, rankScores, lost⟩,
      fun other settles => (Option.some.inj settles).symm⟩
    · rwa [← Option.some.inj settles]
    · rwa [← Option.some.inj result_eq]

theorem addRewards_eq (cfg : AttackCfg) (battle : ℕ) (info : EndInfo) (score : ℤ)
    (attacker : Attacker) : ∃ res, attacker.addRewards cfg battle info score =
      { attacker with
        res := res
        rewards := attacker.rewards ++ [⟨battle, info.amount, score⟩] } := by
  have folded (kinds : List BaseRes) : ∀ attacker : Attacker, ∃ res,
      kinds.foldl (fun attacker res => attacker.safeAddRes cfg res (info.amount res)) attacker =
        { attacker with res := res } := by
    induction kinds with
    | nil => exact fun attacker => ⟨attacker.res, rfl⟩
    | cons kind kinds ih =>
        intro attacker
        obtain ⟨first, first_eq⟩ : ∃ res,
            attacker.safeAddRes cfg kind (info.amount kind) = { attacker with res := res } := by
          unfold Attacker.safeAddRes
          dsimp only
          split_ifs
          · exact ⟨_, rfl⟩
          · exact ⟨attacker.res, rfl⟩
          all_goals exact ⟨_, rfl⟩
        obtain ⟨res, res_eq⟩ := ih (attacker.safeAddRes cfg kind (info.amount kind))
        rw [List.foldl_cons, res_eq, first_eq]
        exact ⟨res, rfl⟩
  obtain ⟨res, res_eq⟩ := folded spoils attacker
  exact ⟨res, by rw [Attacker.addRewards, res_eq]⟩

theorem frame_addRewards (cfg : AttackCfg) (battle : ℕ) (info : EndInfo) (score : ℤ)
    (attacker : Attacker) :
    Frame (some battle) attacker (attacker.addRewards cfg battle info score) := by
  obtain ⟨res, next_eq⟩ := addRewards_eq cfg battle info score attacker
  rw [next_eq]
  refine frame_of_counts (fun _ _ => rfl) (fun other other_ne => ?_) (fun _ _ => rfl)
    (fun _ _ => rfl) (fun _ _ => Iff.rfl) rfl rfl
  rw [Attacker.rewarded, List.map_append]
  exact count_concat_of_ne other_ne

theorem settles_endInfo {result : BattleResult} (pending : battle ∈ attacker.pending)
    (once : SettledOnce attacker battle) (rewarded : attacker.rewarded battle = 0)
    (rankScores : attacker.rankScores battle = 0) (lost : attacker.lost battle = 0)
    (has_result : result.ret ≠ battleUnknow) :
    Settles battle attacker (attacker.endInfo cfg battle enemy ret result info) := by
  have paid (info : EndInfo) (score : ℤ) :
      let next := attacker.addRewards cfg battle info score
      battle ∈ next.pending ∧ SettledOnce next battle ∧ next.rankScores battle = 0 ∧
        next.lost battle = 0 := by
    obtain ⟨res, next_eq⟩ := addRewards_eq cfg battle info score attacker
    dsimp only
    rw [next_eq]
    refine ⟨pending, ⟨once.attacked, ?_, once.rankScores, once.lost⟩, rankScores, lost⟩
    rw [Attacker.rewarded, List.map_append, List.map_singleton, count_concat_self]
    exact Nat.le_of_eq (congrArg (· + 1) rewarded)
  unfold Attacker.endInfo
  split_ifs
  · exact settles_settle pending once lost has_result
  · split
    · exact settles_pending pending once (by simp) (by simp)
    · rename_i info
      obtain ⟨pending, once, -, lost⟩ := paid (Attacker.winInfo cfg attacker.freeFight info) 0
      exact .of_frame (frame_addRewards ..) (settles_settle pending once lost has_result)
  · split
    · exact settles_pending pending once (by simp) (by simp)
    · rename_i info
      obtain ⟨pending, once, rankScores, lost⟩ :=
        paid (Attacker.winInfo cfg attacker.freeFight info) cfg.pvpWinGainPoint
      exact .of_frame (frame_addRewards ..)
        (settles_askScore pending once rankScores lost has_result)
  · split
    · exact settles_pending pending once (by simp) (by simp)
    · exact settles_settle pending once lost has_result
  · exact settles_askScore pending once rankScores lost has_result
  · exact settles_settle pending once lost has_result

theorem settles_scored {score : ℤ} {inStart : Bool} {result : BattleResult}
    (pending : battle ∈ attacker.pending) (once : SettledOnce attacker battle)
    (rankScores : attacker.rankScores battle = 0) (lost : attacker.lost battle = 0)
    (has_result : result.ret ≠ battleUnknow) :
    Settles battle attacker (attacker.scored cfg battle ret score inStart result info) := by
  have finished {next : Attacker} (frame : Frame (some battle) attacker next)
      (pending : battle ∈ next.pending) (once : SettledOnce next battle)
      (lost : next.lost battle = 0) : Settles battle attacker (next, []) ∧
        ∀ info : EndInfo, Settles battle attacker
          (next.settle cfg battle ret result (some { info with atkBadge := score })) :=
    ⟨.of_frame frame (settles_pending pending once (by simp) (by simp)), fun _ =>
      .of_frame frame (settles_settle pending once lost has_result)⟩
  unfold Attacker.scored
  cases inStart with
  | false =>
      have finished := finished ((Frame.refl attacker).weaken battle) pending once lost
      cases info with
      | none => exact finished.1
      | some info => exact finished.2 info
  | true =>
      let next : Attacker := { attacker with
        rankScore := attacker.rankScore + score
        scores := attacker.scores ++ [(battle, score)] }
      have frame : Frame (some battle) attacker next := by
        refine frame_of_counts (fun _ _ => rfl) (fun _ _ => rfl) (fun other other_ne => ?_)
          (fun _ _ => rfl) (fun _ _ => Iff.rfl) rfl rfl
        rw [Attacker.rankScores, List.map_append]
        exact count_concat_of_ne other_ne
      have next_once : SettledOnce next battle := by
        refine ⟨once.attacked, once.rewarded, ?_, once.lost⟩
        rw [Attacker.rankScores, List.map_append, List.map_singleton, count_concat_self]
        exact Nat.le_of_eq (congrArg (· + 1) rankScores)
      have finished := finished frame pending next_once lost
      cases info with
      | none => exact finished.1
      | some info => exact finished.2 info

theorem settles_endAttackedRest {result : BattleResult} {isFreeBeFight inStart : Bool}
    {info : EndInfo} (pending : battle ∈ attacker.pending) (once : SettledOnce attacker battle)
    (rewarded : attacker.rewarded battle = 0) (rankScores : attacker.rankScores battle = 0)
    (lost : attacker.lost battle = 0) (has_result : result.ret ≠ battleUnknow) :
    Settles battle attacker
      (attacker.endAttackedRest cfg battle enemy ret result isFreeBeFight inStart info) := by
  unfold Attacker.endAttackedRest
  dsimp only
  refine .of_frame ?_ (settles_pending ?_ ?_ ?_ ?_)
  · refine Frame.weaken ?_ battle
    exact .of_records rfl rfl rfl rfl rfl rfl rfl
  · exact pending
  · exact ⟨once.attacked, once.rewarded, once.rankScores, once.lost⟩
  · intro task task_mem
    obtain rfl := List.mem_singleton.mp task_mem
    refine ⟨⟨fun other settles => ?_, fun other result_eq => ?_, rewarded, rankScores, lost⟩,
      fun other settles => (Option.some.inj settles).symm⟩
    · rwa [← Option.some.inj settles]
    · rwa [← Option.some.inj result_eq]
  · exact le_rfl

theorem defence_battle (cfg : AttackCfg) (battle : ℕ) (ret : ℤ) (base : Foundation) :
    (Attacker.defence cfg battle ret base).battle = battle := by
  unfold Attacker.defence
  split_ifs <;> rfl

theorem settles_endAttacked {result : BattleResult} (pending : battle ∈ attacker.pending)
    (untouched : Untouched attacker battle) (has_result : result.ret ≠ battleUnknow) :
    Settles battle attacker (attacker.endAttacked cfg battle enemy ret result) := by
  obtain ⟨attacked, rewarded, rankScores, lost⟩ := untouched
  let next : Attacker := { attacker with
    bases := Function.update attacker.bases enemy
      ((attacker.bases enemy).endAttacked cfg.toDefenceCfg ret).1
    defences := attacker.defences ++
      [Attacker.defence cfg battle ret (attacker.bases enemy)] }
  have frame : Frame (some battle) attacker next := by
    refine frame_of_counts (fun other other_ne => ?_) (fun _ _ => rfl) (fun _ _ => rfl)
      (fun _ _ => rfl) (fun _ _ => Iff.rfl) rfl rfl
    rw [Attacker.attacked, List.map_append, List.map_singleton, defence_battle]
    exact count_concat_of_ne other_ne
  have once : SettledOnce next battle := by
    refine ⟨?_, rewarded.trans_le zero_le_one, rankScores.trans_le zero_le_one,
      lost.trans_le zero_le_one⟩
    rw [Attacker.attacked, List.map_append, List.map_singleton, defence_battle, count_concat_self]
    exact Nat.le_of_eq (congrArg (· + 1) attacked)
  have pending : battle ∈ next.pending := pending
  have rewarded : next.rewarded battle = 0 := rewarded
  have rankScores : next.rankScores battle = 0 := rankScores
  have lost : next.lost battle = 0 := lost
  unfold Attacker.endAttacked
  dsimp only
  split_ifs
  · exact .of_frame frame
      (settles_endAttackedRest pending once rewarded rankScores lost has_result)
  · exact .of_frame frame
      (settles_endAttackedRest pending once rewarded rankScores lost has_result)
  · refine .of_frame frame (settles_pending pending once (fun task task_mem => ?_) (by simp))
    obtain rfl := List.mem_singleton.mp task_mem
    refine ⟨⟨fun other settles => ?_, fun other result_eq => ?_, rewarded, rankScores, lost⟩,
      fun other settles => (Option.some.inj settles).symm⟩
    · rwa [← Option.some.inj settles]
    · rwa [← Option.some.inj result_eq]

theorem settles_battleValid {result : BattleResult} (untouched : Untouched attacker battle)
    (has_result : result.ret ≠ battleUnknow) :
    Settles battle attacker (attacker.battleValid battle enemy ret result) := by
  refine .of_frame ?_ (settles_pending ?_ ?_ ?_ ?_)
  · refine frame_of_counts (fun _ _ => rfl) (fun _ _ => rfl) (fun _ _ => rfl) (fun _ _ => rfl)
      (fun other other_ne => ?_) rfl rfl
    simp [other_ne]
  · simp
  · obtain ⟨attacked, rewarded, rankScores, lost⟩ := untouched.once
    exact ⟨attacked, rewarded, rankScores, lost⟩
  · intro task task_mem
    obtain rfl := List.mem_singleton.mp task_mem
    obtain ⟨attacked, rewarded, rankScores, lost⟩ := untouched
    refine ⟨⟨fun other settles => ?_, fun other result_eq => ?_,
      ⟨attacked, rewarded, rankScores, lost⟩⟩, fun other settles => (Option.some.inj settles).symm⟩
    · rw [← Option.some.inj settles]
      simp
    · rwa [← Option.some.inj result_eq]
  · exact le_rfl

theorem addFightPvpReport_reports {listed : Report}
    (listed_mem : listed ∈ (attacker.addFightPvpReport report).reports) :
    listed ∈ attacker.reports ∨ listed = report := by
  rcases List.mem_append.mp (List.mem_of_mem_drop listed_mem) with earlier | last
  · exact .inl earlier
  · exact .inr (List.mem_singleton.mp last)

theorem decrPlayerBattleNum_eq (battle enemy : ℕ) (attacker : Attacker) :
    ∃ battleNum decrs, attacker.decrPlayerBattleNum battle enemy =
      { attacker with battleNum := battleNum, decrs := decrs } := by
  unfold Attacker.decrPlayerBattleNum
  split_ifs
  · exact ⟨attacker.battleNum, attacker.decrs, rfl⟩
  · exact ⟨attacker.battleNum, attacker.decrs, rfl⟩
  · exact ⟨_, _, rfl⟩

structure Creates (attacker next : Attacker) : Prop where
  defences : next.defences = attacker.defences
  rewards : next.rewards = attacker.rewards
  scores : next.scores = attacker.scores
  losses : next.losses = attacker.losses
  pending : next.pending = attacker.pending
  battles : next.battles.length = attacker.battles.length + 1
  reports : ∀ report ∈ next.reports, report ∈ attacker.reports ∨
    report.fightId = some attacker.battles.length

theorem creates_createBattle (enemy : ℕ) (heroIds : List ℕ) (attacker : Attacker) :
    Creates attacker (attacker.createBattle enemy heroIds) := by
  have reports (report : Report) (next : Attacker) (next_eq : next.reports = attacker.reports)
      (fightId : report.fightId = some attacker.battles.length) (listed : Report)
      (listed_mem : listed ∈ (next.addFightPvpReport report).reports) :
      listed ∈ attacker.reports ∨ listed.fightId = some attacker.battles.length := by
    rcases addFightPvpReport_reports listed_mem with earlier | rfl
    · exact .inl (next_eq ▸ earlier)
    · exact .inr fightId
  unfold Attacker.createBattle
  dsimp only
  split
  · exact ⟨rfl, rfl, rfl, rfl, rfl, by simp [Attacker.addFightPvpReport], reports _ _ rfl rfl⟩
  · obtain ⟨battleNum, decrs, next_eq⟩ := decrPlayerBattleNum_eq attacker.battles.length enemy
      (Attacker.addFightPvpReport ⟨some attacker.battles.length, enemy, battleUnknow, 0, []⟩
        { attacker with
          battles := attacker.battles ++ [⟨enemy, heroIds, !attacker.enoughBattleNum enemy⟩]
          incomplete := some attacker.battles.length })
    rw [next_eq]
    exact ⟨rfl, rfl, rfl, rfl, rfl, by simp [Attacker.addFightPvpReport], reports _ _ rfl rfl⟩

theorem Creates.keeps (holds : battlePool.Holds ⟨attacker, others⟩)
    (creates : Creates attacker next) : battlePool.Keeps others (next, []) := by
  obtain ⟨once, fresh, created, reports⟩ := holds.shared
  have untouched {battle : ℕ} (before : Untouched attacker battle) : Untouched next battle := by
    obtain ⟨attacked, rewarded, rankScores, lost⟩ := before
    refine ⟨?_, ?_, ?_, ?_⟩
    · rwa [Attacker.attacked, creates.defences]
    · rwa [Attacker.rewarded, creates.rewards]
    · rwa [Attacker.rankScores, creates.scores]
    · rwa [Attacker.lost, creates.losses]
  have same (battle : ℕ) (battle_ne : battle ≠ attacker.battles.length) :
      SameBattle attacker next battle := by
    refine ⟨?_, ?_, ?_, ?_, by rw [creates.pending], ?_⟩
    · rw [Attacker.attacked, creates.defences, Attacker.attacked]
    · rw [Attacker.rewarded, creates.rewards, Attacker.rewarded]
    · rw [Attacker.rankScores, creates.scores, Attacker.rankScores]
    · rw [Attacker.lost, creates.losses, Attacker.lost]
    · rintro ⟨not_pending, report, report_mem, fightId, unknow⟩
      rw [creates.pending] at not_pending
      rcases creates.reports report report_mem with earlier | is_new
      · exact ⟨not_pending, report, earlier, fightId, unknow⟩
      · exact absurd (Option.some.inj (fightId.symm.trans is_new)) battle_ne
  obtain ⟨new_untouched, new_not_pending⟩ := created attacker.battles.length le_rfl
  refine ⟨⟨fun battle => ?_, fun battle opened => ?_, fun battle battle_ge => ?_,
    fun report report_mem battle fightId => ?_⟩, fun other other_mem => ?_, by simp, by simp, .nil⟩
  · by_cases is_new : battle = attacker.battles.length
    · rw [is_new]
      exact (untouched new_untouched).once
    · exact (same battle is_new).once (once battle)
  · by_cases is_new : battle = attacker.battles.length
    · rw [is_new]
      exact untouched new_untouched
    · exact untouched (fresh battle ((same battle is_new).reopened opened))
  · rw [creates.battles] at battle_ge
    obtain ⟨before, not_pending⟩ := created battle (Nat.le_of_succ_le battle_ge)
    exact ⟨untouched before, by rwa [creates.pending]⟩
  · rw [creates.battles]
    rcases creates.reports report report_mem with earlier | is_new
    · exact (reports report earlier battle fightId).trans (Nat.lt_succ_self _)
    · rw [← Option.some.inj (is_new.symm.trans fightId)]
      exact Nat.lt_succ_self _
  · refine SameBattle.knows (fun battle settles => same battle ?_) (holds.own other other_mem)
    rintro rfl
    exact new_not_pending ((holds.own other other_mem).pending _ settles)

theorem battlePool_accept (request : Request) (holds : battlePool.Holds ⟨attacker, others⟩) :
    battlePool.Keeps others (attacker.accept request) := by
  have idle {task : Task} {next : Attacker} (settles : task.settles = none)
      (no_result : task.result = none) (ahead : task.Ahead next) :
      ∀ other ∈ [task], other.Knows next ∧ other.settles = none := by
    intro other other_mem
    obtain rfl := List.mem_singleton.mp other_mem
    exact ⟨.idle settles no_result ahead, settles⟩
  cases request with
  | startBattle enemy armyId =>
      have frame : Frame none attacker { attacker with freeFight := false } :=
        .of_records rfl rfl rfl rfl rfl rfl rfl
      simp only [Attacker.accept, Attacker.startBattle]
      split
      · exact frame.keeps holds (by simp) (by simp)
      · split
        · exact frame.keeps holds (idle rfl rfl trivial) (by simp)
        · exact frame.keeps holds (by simp) (by simp)
  | startSelfBattle =>
      exact Frame.keeps holds (.of_records rfl rfl rfl rfl rfl rfl rfl) (by simp [Attacker.accept])
        (by simp [Attacker.accept])
  | endBattle battle ret soliders =>
      exact (Frame.refl attacker).keeps holds (idle rfl rfl trivial) le_rfl
  | uploadBattle battle =>
      exact (Frame.refl attacker).keeps holds (idle rfl rfl trivial) le_rfl
  | foundation enemy base =>
      exact Frame.keeps holds (.of_records rfl rfl rfl rfl rfl rfl rfl) (by simp [Attacker.accept])
        (by simp [Attacker.accept])
  | bags battleNum res army =>
      exact Frame.keeps holds (.of_records rfl rfl rfl rfl rfl rfl rfl) (by simp [Attacker.accept])
        (by simp [Attacker.accept])
  | elapse time =>
      exact Frame.keeps holds (.of_records rfl rfl rfl rfl rfl rfl rfl) (by simp [Attacker.accept])
        (by simp [Attacker.accept])
  | addFightPvpReport enemy =>
      have named {report : Report} {battle : ℕ} (report_mem : report ∈
          (attacker.addFightPvpReport ⟨none, enemy, battleUnknow, 0, []⟩).reports)
          (fightId : report.fightId = some battle) : report ∈ attacker.reports := by
        rcases addFightPvpReport_reports report_mem with earlier | rfl
        · exact earlier
        · cases fightId
      refine Frame.keeps holds ⟨fun other _ => ⟨rfl, rfl, rfl, rfl, Iff.rfl, ?_⟩, rfl, ?_⟩
        (by simp [Attacker.accept]) (by simp [Attacker.accept])
      · rintro ⟨not_pending, report, report_mem, fightId, unknow⟩
        exact ⟨not_pending, report, named report_mem fightId, fightId, unknow⟩
      · intro report report_mem other fightId
        exact ⟨report, named report_mem fightId, fightId⟩

theorem battlePool_resume {reply : Reply} (holds : battlePool.Holds ⟨attacker, others⟩)
    (knows : task.Knows attacker) (apart : ∀ other ∈ others, battlePool.apart task other)
    (allows : (ticketed cfg).onReply task reply attacker others) :
    battlePool.Keeps others (attacker.resume cfg task reply) := by
  have sound : Sound attacker := holds.shared
  have again : battlePool.Keeps others (attacker, [task]) := .unchanged holds knows apart
  have ended : battlePool.Keeps others (attacker, []) := .ended holds
  have idle {task : Task} {next : Attacker} (settles : task.settles = none)
      (no_result : task.result = none) (ahead : task.Ahead next) :
      ∀ other ∈ [task], other.Knows next ∧ other.settles = none := by
    intro other other_mem
    obtain rfl := List.mem_singleton.mp other_mem
    exact ⟨.idle settles no_result ahead, settles⟩
  have suspended {task : Task} (settles : task.settles = none) (no_result : task.result = none)
      (ahead : task.Ahead attacker) : battlePool.Keeps others (attacker, [task]) :=
    (Frame.refl attacker).keeps holds (idle settles no_result ahead) le_rfl
  -- The handler of a battle has it to itself.
  have settled {battle : ℕ} {result : Attacker × List Task} (settles : task.settles = some battle)
      (segment : battle ∈ attacker.pending → Settles battle attacker result) :
      battlePool.Keeps others result := by
    have pending := knows.pending battle settles
    refine (segment pending).keeps holds ?_ fun other other_mem =>
      apart other other_mem battle settles
    by_contra created
    exact (sound.created battle (not_lt.mp created)).2 pending
  have passed {battle enemy : ℕ} {ret : ℤ} {result : BattleResult}
      (opened : Open battle attacker) (has_result : result.ret ≠ battleUnknow) :
      battlePool.Keeps others (attacker.battleValid battle enemy ret result) := by
    obtain ⟨not_pending, report, report_mem, fightId, -⟩ := id opened
    refine (settles_battleValid (sound.fresh battle opened) has_result).keeps holds
      (sound.reports report report_mem battle fightId) fun other other_mem settles => ?_
    exact not_pending ((holds.own other other_mem).pending battle settles)
  have listed {battle : ℕ} {result : BattleResult} :
      battlePool.Keeps others (attacker.endBattle battle result) := by
    unfold Attacker.endBattle
    split
    · exact ended
    · split_ifs with unknown
      · exact ended
      · refine (Frame.refl attacker).keeps holds (fun other other_mem => ?_) le_rfl
        obtain rfl := List.mem_singleton.mp other_mem
        refine ⟨⟨fun _ settles => ?_, fun other result_eq => ?_, trivial⟩, rfl⟩
        · cases settles
        · rw [← Option.some.inj result_eq]
          intro unknow
          rw [unknow] at unknown
          exact unknown (.inl (by decide))
  have frameless {next : Attacker} {tasks : List Task} (frame : Frame none attacker next)
      (fresh : ∀ task ∈ tasks, task.Knows next ∧ task.settles = none)
      (single : tasks.length ≤ 1) : battlePool.Keeps others (next, tasks) :=
    frame.keeps holds fresh single
  cases task with
  | getFoundationInfo enemy heroIds =>
      cases reply with
      | go => exact suspended rfl rfl trivial
      | refused => exact suspended rfl rfl trivial
      | raise => exact ended
      | _ => exact again
  | foundationInfo enemy heroIds info =>
      cases reply with
      | go =>
          simp only [Attacker.resume, Attacker.foundationInfo]
          split
          · exact ended
          · split
            · exact ended
            · exact suspended rfl rfl trivial
      | raise => exact ended
      | _ => exact again
  | startAttacked enemy heroIds cost isFreeFight =>
      cases reply with
      | go =>
          simp only [Attacker.resume, Attacker.startAttacked]
          split
          · exact suspended rfl rfl trivial
          · exact frameless (.of_records rfl rfl rfl rfl rfl rfl rfl) (idle rfl rfl trivial) le_rfl
      | refused => exact suspended rfl rfl trivial
      | raise => exact ended
      | _ => exact again
  | startedAttacked enemy heroIds cost info =>
      cases reply with
      | go =>
          simp only [Attacker.resume, Attacker.startedAttacked]
          split
          · exact ended
          · split_ifs
            · exact ended
            · exact suspended rfl rfl trivial
            · exact frameless (.of_records rfl rfl rfl rfl rfl rfl rfl)
                (idle rfl rfl trivial) le_rfl
      | raise => exact ended
      | _ => exact again
  | getSelfRank enemy heroIds =>
      cases reply with
      | go => exact (creates_createBattle enemy heroIds attacker).keeps holds
      | raise => exact ended
      | _ => exact again
  | getBattle battle ret soliders =>
      cases reply with
      | go =>
          simp only [Attacker.resume]
          split
          · exact ended
          · exact listed
      | refused => exact ended
      | raise => exact ended
      | _ => exact again
  | getUploadBattle battle =>
      cases reply with
      | go =>
          simp only [Attacker.resume]
          split
          · exact suspended rfl rfl trivial
          · exact ended
      | refused => exact ended
      | raise => exact ended
      | _ => exact again
  | execIncompleteBattle battle =>
      cases reply with
      | recalculated ret soliders => exact listed
      | refused => exact ended
      | raise => exact ended
      | _ => exact again
  | checkBattleValid battle enemy result =>
      have has_result : result.ret ≠ battleUnknow := knows.result result rfl
      cases reply with
      | go => exact passed allows has_result
      | recalculated ret soliders =>
          obtain ⟨opened, recalculated⟩ := allows
          simp only [Attacker.resume]
          split
          · exact passed opened (recalculated ‹_›)
          · exact passed opened has_result
      | refused =>
          exact frameless (.of_records rfl rfl rfl rfl rfl rfl rfl) (by simp) (by simp)
      | raise => exact ended
      | _ => exact again
  | endAttacked battle enemy ret result =>
      have has_result : result.ret ≠ battleUnknow := knows.result result rfl
      cases reply with
      | go =>
          exact settled rfl fun pending => settles_endAttacked pending knows.ahead has_result
      | refused =>
          have untouched : Untouched attacker battle := knows.ahead
          refine settled rfl fun pending => settles_pending pending (sound.once battle) ?_ le_rfl
          intro other other_mem
          obtain rfl := List.mem_singleton.mp other_mem
          refine ⟨⟨fun other settles => ?_, fun other result_eq => ?_, untouched.rewarded,
            untouched.rankScores, untouched.lost⟩,
            fun other settles => (Option.some.inj settles).symm⟩
          · rwa [← Option.some.inj settles]
          · rwa [← Option.some.inj result_eq]
      | raise => exact ended
      | _ => exact again
  | getInStartMatchs battle enemy ret result info =>
      have has_result : result.ret ≠ battleUnknow := knows.result result rfl
      obtain ⟨rewarded, rankScores, lost⟩ := knows.ahead
      cases reply with
      | matchs inStart =>
          exact settled rfl fun pending => settles_endAttackedRest pending (sound.once battle)
            rewarded rankScores lost has_result
      | raise => exact ended
      | _ => exact again
  | endInfo battle enemy ret result info =>
      have has_result : result.ret ≠ battleUnknow := knows.result result rfl
      obtain ⟨rewarded, rankScores, lost⟩ := knows.ahead
      cases reply with
      | go =>
          exact settled rfl fun pending => settles_endInfo pending (sound.once battle)
            rewarded rankScores lost has_result
      | raise => exact ended
      | _ => exact again
  | updateMatchRankScore battle ret score result info =>
      have has_result : result.ret ≠ battleUnknow := knows.result result rfl
      obtain ⟨rankScores, lost⟩ := knows.ahead
      cases reply with
      | matchs inStart =>
          exact settled rfl fun pending => settles_scored pending (sound.once battle)
            rankScores lost has_result
      | raise => exact ended
      | _ => exact again
  | endGetBattle =>
      cases reply with
      | go =>
          exact frameless (.of_records rfl rfl rfl rfl rfl rfl rfl) (idle rfl rfl trivial) le_rfl
      | refused => exact suspended rfl rfl trivial
      | raise => exact ended
      | _ => exact again
  | autoChangePlayers =>
      cases reply with
      | go => exact frameless (.of_records rfl rfl rfl rfl rfl rfl rfl) (by simp) (by simp)
      | raise => exact ended
      | _ => exact again

theorem battlePool_kept (cfg : AttackCfg) : battlePool.KeptBy (battles cfg) (ticketed cfg) where
  accept request _ _ holds _ := battlePool_accept request holds
  resume _ _ _ _ holds own apart allows := battlePool_resume holds own apart allows

theorem attackerStart_holds (pid now : ℕ) (bases : ℕ → Foundation) (battleNum : ℤ)
    (res : BaseRes → ℤ) (army : Army) :
    battlePool.Holds (attackerStart pid now bases battleNum res army) where
  shared := by
    have untouched (battle : ℕ) :
        Untouched (attackerStart pid now bases battleNum res army).state battle :=
      ⟨rfl, rfl, rfl, rfl⟩
    exact ⟨fun battle => (untouched battle).once, fun battle _ => untouched battle,
      fun battle _ => ⟨untouched battle, List.not_mem_nil⟩,
      fun _ report_mem => (List.not_mem_nil report_mem).elim⟩
  own _ task_mem := (List.not_mem_nil task_mem).elim
  apart := .nil

def sampleAttackCfg : AttackCfg where
  fightMaxCostTime := 300
  pvpPlunderRatio := 1 / 10
  newHandPvpProtectRatio := []
  pvpFailCostGunLife := 0
  pvpDefenceFailGainPoint := -5
  pvpDefenceWinGainPoint := 5
  pvpDefenceWinGainRes := []
  pvpFailGainPoint := -2
  foundationBattleProtectTime := 60
  pvpCost _ := some 10
  vipHydroxylAward := 10000
  pvpWinGainPoint := 10
  pvpWinCostHeroLife := 0
  pvpFailCostHeroLife := 0
  pvpWinCostWarShipLife := 1
  pvpFailCostWarShipLife := 0
  store _ := none
  checkBattleValid := false

/-- A player with a hundred of each resource and one build. -/
def sampleBase : Foundation where
  isGmRobotPlayer := false
  baseLevel := 1
  attackedTick := 0
  protectTick := 0
  freeBeFight := false
  res _ := 100
  builds := [⟨false, false, true, fun _ => 0, fun _ => 0, fun _ => 0, 1, 0, none⟩]
  rankScore := 0

def sampleArmy : Army where
  warShip := some ⟨100, false⟩
  heros _ := some ⟨100, false⟩
  armys _ := some [⟨1, 5⟩]
  isUseGuildArmy := false

def sampleAttacker (battleNum : ℤ) : Config Attacker Task :=
  attackerStart 100 0 (fun _ => sampleBase) battleNum (fun _ => 100) sampleArmy

def sampleStart : List (Event Request Reply) :=
  [.request (.startBattle 200 1), .reply 0 .go, .reply 0 .go, .reply 0 .go, .reply 0 .go,
    .reply 0 .go]

def sampleEnd : List (Event Request Reply) :=
  [.request (.endBattle 0 battleWin []), .reply 0 .go, .reply 0 .go, .reply 0 .go,
    .reply 0 (.matchs true), .reply 0 .go, .reply 0 (.matchs true), .reply 0 .go, .reply 0 .go]

end BasWar.Pvp.Battles
