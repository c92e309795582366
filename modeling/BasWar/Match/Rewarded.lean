import BasWar.Match.RankKept

/-!
# Every version is rewarded once

A mark of a version is answered by rewards that were handed out or by rewards that are on their
way, and every reward check after the reward time marks another version.
-/

namespace BasWar.Matches

open Cooperative

namespace Svc

variable {setting : Setting}

/-- A mark of a version is either answered by rewards that were handed out, or by rewards that are
on their way. -/
def marks (ver : ℕ) : Ledger Svc Task ℤ where
  book svc :=
    (if svc.data.Flagged ver then 1 else 0) -
      ((svc.distributions.map Distribution.ver).count ver : ℤ)
  carry task := if task.pays = some ver then -1 else 0

/-- A segment that neither marks nor hands out anything. -/
structure Unpaid (svc : Svc) (result : Svc × List Task) : Prop where
  flagged : ∀ ver, result.1.data.Flagged ver ↔ svc.data.Flagged ver
  distributions : result.1.distributions = svc.distributions
  pays : ∀ task ∈ result.2, task.pays = none

variable {svc : Svc} {task : Task} {others : List Task}

theorem unpaid_refl {tasks : List Task} (pays : ∀ task ∈ tasks, task.pays = none) :
    Unpaid svc (svc, tasks) :=
  ⟨fun _ => Iff.rfl, rfl, pays⟩

theorem Unpaid.balances {result : Svc × List Task} (unpaid : Unpaid svc result) (ver : ℕ) :
    (marks ver).Balances svc 0 result := by
  have nothing : (result.2.map (marks ver).carry).sum = 0 := by
    refine List.sum_eq_zero fun amount amount_mem => ?_
    obtain ⟨task, task_mem, rfl⟩ := List.mem_map.mp amount_mem
    simp [marks, unpaid.pays task task_mem]
  rw [Ledger.Balances, nothing]
  simp only [marks, unpaid.flagged, unpaid.distributions]

theorem balances_waits (ver : ℕ) (svc : Svc) (task : Task) :
    (marks ver).Balances svc ((marks ver).carry task) (svc, [task]) := by
  simp [Ledger.Balances]

theorem balances_moves {ver other : ℕ} {next : Task} (task_pays : task.pays = some other)
    (next_pays : next.pays = some other) :
    (marks ver).Balances svc ((marks ver).carry task) (svc, [next]) := by
  simp [Ledger.Balances, marks, task_pays, next_pays]

theorem readNext_unpaid (reading : Reading) (unread : List ℕ) :
    ∀ task ∈ svc.readNext reading unread, task.pays = none := by
  induction unread with
  | nil =>
      unfold readNext
      dsimp only
      split
      · simp [Task.pays]
      · split <;> simp [Task.pays]
  | cons unionId unread ih =>
      unfold readNext
      split
      · exact ih
      · simp [Task.pays]

theorem restart_unpaid (saved : svc.Saved setting) (shared : Shared setting svc) :
    Unpaid svc (svc.restart setting) := by
  obtain ⟨dirty, tasks, restart_eq, tasks_eq⟩ := restart_eq setting svc
  rw [restart_eq]
  refine ⟨loaded_flagged saved shared, rfl, ?_⟩
  rcases tasks_eq with rfl | rfl <;> simp [Task.pays]

theorem joinMatch_unpaid (svc : Svc) (id : ℕ) : Unpaid svc (svc.joinMatch id, []) := by
  unfold joinMatch
  split
  · exact unpaid_refl (by simp)
  · exact ⟨fun _ => Iff.rfl, rfl, by simp⟩

theorem afterUpdate_unpaid {after : Svc} (fromEnd : Bool)
    (flagged : ∀ ver, after.data.Flagged ver ↔ svc.data.Flagged ver)
    (distributions : after.distributions = svc.distributions) :
    Unpaid svc (after.afterUpdate fromEnd) := by
  cases fromEnd with
  | true => exact ⟨flagged, distributions, by simp [afterUpdate, Task.pays]⟩
  | false => exact ⟨flagged, distributions, by simp [afterUpdate]⟩

theorem accept_unpaid (request : Request) (holds : (pool setting).Holds ⟨svc, others⟩)
    (allows : (timely setting).onRequest request svc others) :
    Unpaid svc (svc.accept setting request) := by
  cases request with
  | restart => exact restart_unpaid allows.1 holds.shared
  | save =>
      refine unpaid_refl fun task task_mem => ?_
      split at task_mem
      · rw [List.mem_singleton.mp task_mem]
        rfl
      · cases task_mem
  | tick | zadd | zincrby | unionScore | personScore =>
      exact ⟨fun _ => Iff.rfl, rfl, by simp [accept]⟩
  | onSecond | onMinute | joinMatch => exact unpaid_refl (by simp [Task.pays])

/-- Handlers that do not hand out rewards. -/
theorem resumeOwn_unpaid (thread : Thread) (reply : Reply)
    (unpaid : (Task.own svc.epoch thread).pays = none) (unchecked : thread ≠ .checkRewardTimeout)
    (marked : ∀ ver, thread = .distributed ver → svc.data.Flagged ver) :
    Unpaid svc (svc.resumeOwn setting thread reply) := by
  cases thread with
  | checkNoticeTimeout =>
      cases reply with
      | deliver =>
          simp only [resumeOwn]
          split
          · refine ⟨fun _ => Iff.rfl, rfl, ?_⟩
            split <;> simp [Task.pays]
          · exact unpaid_refl (by simp [Task.pays])
      | _ => exact unpaid_refl (by simp [Task.pays])
  | delRank => cases reply <;> exact unpaid_refl (by simp [Task.pays])
  | onNoticeTimeout => cases reply <;> exact ⟨fun _ => Iff.rfl, rfl, by simp [resumeOwn, Task.pays]⟩
  | checkStartTimeout =>
      cases reply with
      | deliver =>
          simp only [resumeOwn]
          split
          · exact ⟨fun _ => Iff.rfl, rfl, by simp [Task.pays]⟩
          · exact unpaid_refl (by simp [Task.pays])
      | _ => exact unpaid_refl (by simp [Task.pays])
  | checkEndTimeout =>
      cases reply with
      | deliver =>
          simp only [resumeOwn]
          split
          · refine ⟨fun _ => Iff.rfl, rfl, ?_⟩
            split <;> simp [Task.pays]
          · exact unpaid_refl (by simp [Task.pays])
      | _ => exact unpaid_refl (by simp [Task.pays])
  | getPvpRankMembers => cases reply <;> exact unpaid_refl (by simp [Task.pays])
  | updateMatchRankInfo fromEnd =>
      cases reply with
      | deliver =>
          simp only [resumeOwn]
          split
          · exact unpaid_refl (by simp [Task.pays])
          · exact afterUpdate_unpaid fromEnd (fun _ => Iff.rfl) rfl
      | missing => exact afterUpdate_unpaid fromEnd (fun _ => Iff.rfl) rfl
      | _ => exact unpaid_refl (by simp [Task.pays])
  | getCurVerRankInfo fromEnd =>
      cases reply with
      | deliver =>
          exact afterUpdate_unpaid fromEnd (updateMatchRankInfo_flagged svc)
            (svc.getCurVerRankInfo_aside setting).2.2.2.1
      | missing => exact afterUpdate_unpaid fromEnd (fun _ => Iff.rfl) rfl
      | _ => exact unpaid_refl (by simp [Task.pays])
  | checkRewardTimeout => exact absurd rfl unchecked
  | distributeReward => cases unpaid
  | getRewardByRank => cases unpaid
  | distributed ver =>
      have flagged (other : ℕ) :
          (svc.data.modify ver .setDistribute).Flagged other ↔ svc.data.Flagged other := by
        rw [MatchData.flagged_setDistribute]
        refine ⟨?_, .inl⟩
        rintro (old | ⟨rfl, _⟩)
        · exact old
        · exact marked other rfl
      cases reply with
      | deliver =>
          simp only [resumeOwn]
          split
          · exact ⟨flagged, rfl, by simp [Task.pays]⟩
          · exact ⟨flagged, rfl, by simp⟩
      | _ => exact unpaid_refl (by simp [Task.pays])
  | matchSeasonEndHandle =>
      cases reply <;> exact ⟨fun _ => Iff.rfl, rfl, by simp [resumeOwn, Task.pays]⟩
  | onMinute =>
      cases reply with
      | deliver =>
          refine unpaid_refl ?_
          split
          · split <;> simp [Task.pays]
          · simp
      | _ => exact unpaid_refl (by simp [Task.pays])
  | isNoticeStage id =>
      cases reply with
      | deliver =>
          simp only [resumeOwn]
          split
          · exact joinMatch_unpaid svc id
          · exact unpaid_refl (by simp [Task.pays])
      | _ => exact unpaid_refl (by simp [Task.pays])
  | isStartStage id =>
      cases reply with
      | deliver =>
          simp only [resumeOwn]
          split
          · exact joinMatch_unpaid svc id
          · exact unpaid_refl (by simp)
      | _ => exact unpaid_refl (by simp [Task.pays])
  | updated => cases reply <;> exact ⟨fun _ => Iff.rfl, rfl, by simp [resumeOwn, Task.pays]⟩

theorem checkRewardTimeout_balances (position ver : ℕ) (shared : Shared setting svc) :
    (marks ver).Balances svc 0 (svc.checkRewardTimeout setting position) := by
  rcases svc.checkRewardTimeout_cases position with
    ⟨picked, picked_eq, check_eq⟩ | ⟨_, check_eq⟩
  · rw [check_eq]
    obtain ⟨version, version_mem, rfl, unmarked⟩ := getCanRewardVer_some picked_eq
    by_cases same : ver = version.ver
    · subst same
      have before : ¬svc.data.Flagged version.ver := by
        rintro ⟨other, other_mem, ver_eq, marked⟩
        rw [List.inj_on_of_nodup_map shared.sound.nodup other_mem version_mem ver_eq,
          unmarked] at marked
        cases marked
      have after : (svc.data.modify version.ver .setDistribute).Flagged version.ver :=
        MatchData.flagged_setDistribute.mpr (.inr ⟨rfl, version, version_mem, rfl⟩)
      simp [Ledger.Balances, marks, before, after, Task.pays]
      omega
    · have flagged : (svc.data.modify version.ver .setDistribute).Flagged ver ↔
          svc.data.Flagged ver := by
        simp [MatchData.flagged_setDistribute, same]
      simp [Ledger.Balances, marks, flagged, Task.pays, Ne.symm same]
  · rw [check_eq]
    exact (Unpaid.balances ⟨fun _ => Iff.rfl, rfl, by simp⟩ ver)

theorem balances_handed {next : Task} (ver : ℕ) (distribution : Distribution)
    (task_pays : task.pays = some distribution.ver) (next_pays : next.pays = none) :
    (marks ver).Balances svc ((marks ver).carry task)
      ({ svc with distributions := svc.distributions ++ [distribution] }, [next]) := by
  by_cases same : distribution.ver = ver
  · simp [Ledger.Balances, marks, task_pays, next_pays, same]
    omega
  · simp [Ledger.Balances, marks, task_pays, next_pays, same]

theorem rewardNext_balances (ver other : ℕ) (carboxyl : ℤ) (shareRatio : ℚ)
    (unranked : List (RankInfo × ℕ)) (rewardInfos : List RewardInfo)
    (task_pays : task.pays = some other) :
    (marks ver).Balances svc ((marks ver).carry task)
      (svc, svc.rewardNext other carboxyl shareRatio unranked rewardInfos) := by
  cases unranked with
  | nil => exact balances_moves task_pays rfl
  | cons row unranked => exact balances_moves task_pays rfl

theorem resumeOwn_balances (ver : ℕ) (thread : Thread) (reply : Reply)
    (holds : (pool setting).Holds ⟨svc, others⟩) (knows : svc.Knows setting (.own svc.epoch thread))
    (allows : (timely setting).onReply (.own svc.epoch thread) reply svc others) :
    (marks ver).Balances svc ((marks ver).carry (.own svc.epoch thread))
      (svc.resumeOwn setting thread reply) := by
  have same_epoch (thread : Thread) (unpaid : (Task.own svc.epoch thread).pays = none) :
      (marks ver).carry (.own svc.epoch thread) = 0 := by
    simp [marks, unpaid]
  cases thread with
  | checkRewardTimeout =>
      cases reply with
      | pick position => exact checkRewardTimeout_balances position ver holds.shared
      | missing | raise => exact (unpaid_refl (by simp)).balances ver
      | _ => exact balances_waits ver svc _
  | distributeReward other =>
      cases reply with
      | opCfg jackpot shareRatio =>
          simp only [resumeOwn]
          split
          case h_1 =>
            obtain ⟨_, _, version, found, _⟩ := flagged_closed holds.shared knows.2
            obtain ⟨version_mem, _⟩ := MatchData.version?_some found
            obtain ⟨current, current_mem, current_ver⟩ :=
              holds.shared.sound.nowVer version version_mem
            have current_found : svc.data.version? svc.data.nowVer = some current := by
              rw [← current_ver]
              exact MatchData.version?_of_mem holds.shared.sound.nodup current_mem
            rw [onDistributeRewardPvp, current_found]
            exact balances_moves rfl rfl
          case h_2 => exact rewardNext_balances ver other _ _ _ _ rfl
      | missing | raise => exact allows.elim
      | _ => exact balances_waits ver svc _
  | getRewardByRank other carboxyl shareRatio unranked rewardInfos =>
      cases reply with
      | deliver =>
          cases unranked with
          | nil => exact balances_waits ver svc _
          | cons row unranked => exact rewardNext_balances ver other _ _ _ _ rfl
      | missing | raise => exact allows.elim
      | _ => cases unranked <;> exact balances_waits ver svc _
  | distributed other =>
      rw [same_epoch _ rfl]
      exact (resumeOwn_unpaid (.distributed other) reply rfl (by simp)
        fun _ same => Thread.distributed.inj same ▸ knows).balances ver
  | _ =>
      rw [same_epoch _ rfl]
      exact (resumeOwn_unpaid _ reply rfl (by simp) (by simp)).balances ver

theorem resume_balances (ver : ℕ) (task : Task) (reply : Reply)
    (holds : (pool setting).Holds ⟨svc, others⟩) (knows : svc.Knows setting task)
    (allows : (timely setting).onReply task reply svc others) :
    (marks ver).Balances svc ((marks ver).carry task) (svc.resume setting task reply) := by
  have nothing {tasks : List Task} (pays : ∀ task ∈ tasks, task.pays = none) :
      (marks ver).Balances svc 0 (svc, tasks) := (unpaid_refl pays).balances ver
  cases task with
  | own epoch thread =>
      simp only [resume]
      split
      case isTrue same =>
        subst same
        exact resumeOwn_balances ver thread reply holds knows allows
      case isFalse stale =>
        -- The rewards that are on their way belong to the service as it runs now.
        have unpaid : (Task.own epoch thread).pays = none := by
          cases thread with
          | distributeReward => exact absurd knows.1 stale
          | getRewardByRank => exact absurd knows.1 stale
          | _ => rfl
        have carry_eq : (marks ver).carry (.own epoch thread) = 0 := by simp [marks, unpaid]
        rw [carry_eq]
        exact nothing (by simp)
  | update epoch data =>
      cases reply with
      | deliver => exact Unpaid.balances ⟨fun _ => Iff.rfl, rfl, by simp [resume, Task.pays]⟩ ver
      | raise => exact nothing (by simp)
      | _ => exact balances_waits ver svc _
  | del =>
      cases reply with
      | deliver => exact Unpaid.balances ⟨fun _ => Iff.rfl, rfl, by simp [resume]⟩ ver
      | raise => exact nothing (by simp)
      | _ => exact balances_waits ver svc _
  | getStarmapMatchRankList reading =>
      cases reply with
      | deliver => exact nothing (readNext_unpaid reading reading.unread)
      | raise => exact nothing (by simp)
      | _ => exact balances_waits ver svc _
  | getPersonalGridScore =>
      cases reply with
      | deliver => exact nothing (by simp [Task.pays])
      | raise => exact nothing (by simp)
      | _ => exact balances_waits ver svc _
  | personScore reading =>
      cases reply with
      | deliver => exact nothing (readNext_unpaid _ reading.unread)
      | raise => exact nothing (by simp)
      | _ => exact balances_waits ver svc _
  | sendRankInfo =>
      cases reply with
      | deliver => exact nothing (by simp [Task.pays])
      | raise => exact nothing (by simp)
      | _ => exact balances_waits ver svc _
  | distributeMatchReward epoch other carboxyl shareRatio rewardInfos =>
      cases reply with
      | deliver => exact balances_handed ver _ rfl rfl
      | raise => exact allows.elim
      | _ => exact balances_waits ver svc _
  | getPvpMatchSettlement epoch other matchData =>
      cases reply with
      | settle => exact balances_handed ver _ (congrArg some allows.1.symm) rfl
      | raise => exact allows.elim
      | _ => exact balances_waits ver svc _

theorem carry_sum_le (ver : ℕ) (tasks : List Task) : (tasks.map (marks ver).carry).sum ≤ 0 := by
  induction tasks with
  | nil => exact le_rfl
  | cons task tasks ih =>
      simp only [List.map_cons, List.sum_cons, marks] at ih ⊢
      split <;> omega

theorem balanced (setting : Setting) (ver : ℕ) :
    (marks ver).BalancedBy (pool setting) (matchSvc setting) (timely setting) where
  accept request _ _ holds allows := (accept_unpaid request holds allows).balances ver
  resume task reply _ _ holds knows _ allows := resume_balances ver task reply holds knows allows

end Svc

open Svc

/-- In every timely run the rewards follow the rank of their own version, exactly once. -/
theorem followsRank_run (setting : Setting) (events : List (Event Request Reply))
    (admits : (timely setting).Admits (matchSvc setting) (matchStart setting) events) :
    FollowsRank setting ((matchSvc setting).run (matchStart setting) events) := by
  have holds := (kept setting).holds_run admits (holds_start setting)
  have total (ver : ℕ) :
      (marks ver).total ((matchSvc setting).run (matchStart setting) events) = 0 :=
    ((balanced setting ver).total_run (kept setting) admits (holds_start setting)).trans rfl
  revert holds total
  generalize (matchSvc setting).run (matchStart setting) events = config
  intro holds total
  refine ⟨?_, holds.shared.earned, ?_⟩
  · refine List.nodup_iff_count_le_one.mpr fun ver => ?_
    have marked := total ver
    have carried := carry_sum_le ver config.waiting
    simp only [Ledger.total, marks] at marked carried
    split at marked <;> omega
  · rintro ⟨checked, enough, quiet⟩ ver past
    obtain ⟨closed, closed_eq⟩ := Option.ne_none_iff_exists'.mp past
    obtain ⟨version, version_mem, rfl, _⟩ := (holds.shared.closed ver closed closed_eq).version
    have all : ∀ version ∈ config.state.data.rankVersions, version.isDistribute = true := by
      rcases holds.shared.checked with counted | all
      · exact List.countP_eq_length.mp (le_antisymm List.countP_le_length (enough.trans counted))
      · exact all
    have flagged : config.state.data.Flagged version.ver :=
      ⟨version, version_mem, rfl, all version version_mem⟩
    have nothing : (config.waiting.map (marks version.ver).carry).sum = 0 := by
      refine List.sum_eq_zero fun amount amount_mem => ?_
      obtain ⟨task, task_mem, rfl⟩ := List.mem_map.mp amount_mem
      simp [marks, quiet task task_mem]
    have marked := total version.ver
    rw [Ledger.total, nothing] at marked
    simp only [marks, flagged, if_true] at marked
    refine List.count_pos_iff.mp ?_
    omega

/-- A season from second 2 to second 4, with rewards for two ranks. -/
def sampleSetting : Setting where
  matchCfg :=
    { belong := .starmap
      matchType := .season
      season := 3
      noticeTime := 1
      startTime := 2
      endTime := 4
      rewardType := .delaySec
      rewardTime := 0
      delayRewardTime := 2
      rewardCfgId := 1 }
  matchRewardConfig := [⟨1, 1, 1, 100, 10, 5000⟩, ⟨1, 2, 2, 50, 5, 2500⟩]
  monthno _ := 0

/-- The oldest task gets through, some times. -/
def deliver (times : ℕ) : List (Event Request Reply) :=
  List.replicate times (.reply 0 .deliver)

/-- Two unions have joined, and the ranking is refreshed in the first second of the season. -/
def refreshed : List (Event Request Reply) :=
  deliver 2 ++
    [.request .tick, .request (.unionScore 7 (some 5)), .request (.unionScore 8 (some 3)),
      .request (.joinMatch 7)] ++
    deliver 1 ++ [.request (.joinMatch 8)] ++ deliver 1 ++
    [.request .tick, .request .onMinute] ++ deliver 9

/-- The checks of the second after the reward time, when the ranking has two rows. -/
def rewarded : List (Event Request Reply) :=
  [.request .onSecond] ++ deliver 9 ++
    [.reply 0 (.pick 0), .reply 0 (.opCfg ⟨1000, 200⟩ (1 / 2))] ++
    deliver 5

def sampleRun : List (Event Request Reply) :=
  refreshed ++ List.replicate 3 (.request .tick) ++ [.request .save] ++ deliver 2 ++
    List.replicate 2 (.request .tick) ++ rewarded

theorem followsRank_sample :
    ((timely sampleSetting).Admits (matchSvc sampleSetting) (matchStart sampleSetting) sampleRun ∧
      ((matchSvc sampleSetting).run (matchStart sampleSetting) sampleRun).state.distributions.map
        Distribution.ver = [3]) ∧
      FollowsRank sampleSetting
        ((matchSvc sampleSetting).run (matchStart sampleSetting) sampleRun) :=
  ⟨by decide +kernel, followsRank_run sampleSetting sampleRun (by decide +kernel)⟩

/-- The second union comes first in the last second, and the ranking is asked for too late. -/
def lateScoreRun : List (Event Request Reply) :=
  refreshed ++ List.replicate 2 (.request .tick) ++ [.request (.unionScore 8 (some 9))] ++
    List.replicate 3 (.request .tick) ++ rewarded

theorem not_followsRank_lateScore :
    ¬FollowsRank sampleSetting
      ((matchSvc sampleSetting).run (matchStart sampleSetting) lateScoreRun) := by
  have unearned : ¬∀ distribution ∈
      ((matchSvc sampleSetting).run (matchStart sampleSetting) lateScoreRun).state.distributions,
      ∀ closed ∈ ((matchSvc sampleSetting).run (matchStart sampleSetting)
        lateScoreRun).state.closing distribution.ver,
          distribution.rewards.EarnedBy sampleSetting closed.ranking := by
    decide +kernel
  intro follows
  refine unearned fun distribution distribution_mem closed closed_mem => ?_
  obtain ⟨other, other_eq, earned⟩ := follows.earned distribution distribution_mem
  obtain rfl : other = closed := Option.some.inj (other_eq.symm.trans closed_mem)
  exact earned

end BasWar.Matches
