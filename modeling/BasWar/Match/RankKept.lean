import BasWar.Match.RankChanges

/-!
# Rankings in every timely run

A ranking on its way to the match is exact until a score or a member changes, and rewards on their
way are earned by the ranking of a version that is over.
-/

namespace BasWar.Matches

open Cooperative

namespace Svc

variable {setting : Setting}

/-- The rows read so far and the rows of the unread unions make the ranking, unless a change came
after `readAt`. -/
structure Reads (setting : Setting) (svc : Svc) (reading : Reading) (unread : List ℕ) : Prop where
  belong : setting.matchCfg.belong = .starmap
  readAt_le : reading.readAt ≤ svc.accepted
  exact : reading.readAt = svc.accepted →
    reading.rankMembers ++ unread.filterMap svc.rankInfo? =
      svc.data.members.filterMap svc.rankInfo?

variable {before after : Svc} {reading : Reading} {ver : ℕ}

theorem Reads.grows {unread : List ℕ} (reads : Reads setting before reading unread)
    (grows : Grows setting before after) :
    Reads setting after reading unread where
  belong := reads.belong
  readAt_le := reads.readAt_le.trans grows.accepted
  exact readAt_eq := by
    have same : after.accepted = before.accepted :=
      le_antisymm (readAt_eq ▸ reads.readAt_le) grows.accepted
    rw [(grows.scores same).rankInfo?, (grows.scores same).members]
    exact reads.exact (readAt_eq.trans same)

/-- The rewards worked out so far and those of the unranked rows are earned by the ranking. -/
def Pays (setting : Setting) (svc : Svc) (ver : ℕ) (carboxyl : ℤ) (shareRatio : ℚ)
    (unranked : List (RankInfo × ℕ)) (rewardInfos : List RewardInfo) : Prop :=
  svc.data.Flagged ver ∧ ∃ closed, svc.closing ver = some closed ∧
    rewardInfos ++ unranked.filterMap (setting.rewardInfo carboxyl shareRatio) =
      setting.rewardInfos carboxyl shareRatio closed.ranking

theorem Pays.grows {carboxyl : ℤ} {shareRatio : ℚ} {unranked : List (RankInfo × ℕ)}
    {rewardInfos : List RewardInfo}
    (pays : Pays setting before ver carboxyl shareRatio unranked rewardInfos)
    (grows : Grows setting before after) :
    Pays setting after ver carboxyl shareRatio unranked rewardInfos := by
  obtain ⟨flagged, closed, closed_eq, rows⟩ := pays
  exact ⟨grows.flagged ver flagged, closed, grows.closing ver closed closed_eq, rows⟩

def Knows (setting : Setting) (svc : Svc) : Task → Prop
  | .own _ (.getPvpRankMembers _) => setting.matchCfg.belong = .pvp
  | .own _ (.updateMatchRankInfo _ rankMembers readAt) =>
      setting.matchCfg.belong = .starmap → svc.Ranked setting rankMembers readAt
  | .own _ (.getCurVerRankInfo _ rankMembers readAt) =>
      setting.matchCfg.belong = .starmap → svc.Ranked setting rankMembers readAt
  | .sendRankInfo rankMembers readAt => svc.Ranked setting rankMembers readAt
  | .getStarmapMatchRankList reading => svc.Reads setting reading reading.unread
  | .getPersonalGridScore reading unionId unionScore =>
      svc.Reads setting reading (unionId :: reading.unread) ∧
        (reading.readAt = svc.accepted → svc.unionScore unionId = some unionScore)
  | .personScore reading unionId unionScore personScore =>
      svc.Reads setting reading (unionId :: reading.unread) ∧
        (reading.readAt = svc.accepted → svc.unionScore unionId = some unionScore ∧
          svc.personScore unionId = personScore)
  | .update _ data => svc.Sound setting data
  | .own epoch (.distributeReward ver) => epoch = svc.epoch ∧ svc.data.Flagged ver
  | .own _ (.distributed ver) => svc.data.Flagged ver
  | .own epoch (.getRewardByRank ver carboxyl shareRatio unranked rewardInfos) =>
      epoch = svc.epoch ∧ svc.Pays setting ver carboxyl shareRatio unranked rewardInfos
  | .distributeMatchReward _ ver carboxyl shareRatio rewardInfos =>
      svc.Pays setting ver carboxyl shareRatio [] rewardInfos
  | .getPvpMatchSettlement _ ver _ => setting.matchCfg.belong = .pvp ∧ svc.data.Flagged ver
  | _ => True

theorem Knows.grows (grows : Grows setting before after) {task : Task}
    (lasts : after.epoch = before.epoch ∨ task.pays = none) (knows : before.Knows setting task) :
    after.Knows setting task := by
  cases task with
  | own epoch thread =>
      cases thread with
      | getPvpRankMembers => exact knows
      | updateMatchRankInfo => exact fun belong => (knows belong).grows grows
      | getCurVerRankInfo => exact fun belong => (knows belong).grows grows
      | distributeReward ver =>
          rcases lasts with same | none_paid
          · exact ⟨knows.1.trans same.symm, grows.flagged ver knows.2⟩
          · cases none_paid
      | distributed ver => exact grows.flagged ver knows
      | getRewardByRank =>
          rcases lasts with same | none_paid
          · exact ⟨knows.1.trans same.symm, knows.2.grows grows⟩
          · cases none_paid
      | _ => trivial
  | sendRankInfo => exact Ranked.grows knows grows
  | getStarmapMatchRankList => exact Reads.grows knows grows
  | getPersonalGridScore reading unionId unionScore =>
      obtain ⟨reads, score_eq⟩ := knows
      refine ⟨reads.grows grows, fun readAt_eq => ?_⟩
      have same : after.accepted = before.accepted :=
        le_antisymm (readAt_eq ▸ reads.readAt_le) grows.accepted
      rw [(grows.scores same).unionScore]
      exact score_eq (readAt_eq.trans same)
  | personScore reading unionId unionScore personScore =>
      obtain ⟨reads, scores_eq⟩ := knows
      refine ⟨reads.grows grows, fun readAt_eq => ?_⟩
      have same : after.accepted = before.accepted :=
        le_antisymm (readAt_eq ▸ reads.readAt_le) grows.accepted
      rw [(grows.scores same).unionScore, (grows.scores same).personScore]
      exact scores_eq (readAt_eq.trans same)
  | update => exact Sound.grows knows grows
  | distributeMatchReward => exact Pays.grows knows grows
  | getPvpMatchSettlement _ ver => exact ⟨knows.1, grows.flagged ver knows.2⟩
  | del => trivial

def pool (setting : Setting) : Pool Svc Task where
  shared := Shared setting
  own svc task := svc.Knows setting task
  apart _ _ := True
  apart_symm apart := apart

theorem keeps {svc : Svc} {others : List Task} {result : Svc × List Task}
    (holds : (pool setting).Holds ⟨svc, others⟩) (grows : Grows setting svc result.1)
    (shared : Shared setting result.1)
    (lasts : ∀ other ∈ others, result.1.epoch = svc.epoch ∨ other.pays = none)
    (knows : ∀ task ∈ result.2, result.1.Knows setting task) :
    (pool setting).Keeps others result where
  shared := shared
  stable other other_mem :=
    Knows.grows grows (lasts other other_mem) (holds.own other other_mem)
  fresh := knows
  apart _ _ _ _ := trivial
  fresh_apart := List.pairwise_of_forall fun _ _ => trivial

theorem still_keeps {svc : Svc} {others : List Task} {result : Svc × List Task}
    (holds : (pool setting).Holds ⟨svc, others⟩) (still : Still svc result.1)
    (stored : result.1.stored = svc.stored)
    (knows : ∀ task ∈ result.2, result.1.Knows setting task) :
    (pool setting).Keeps others result := by
  have tally : result.1.badge = result.1.tally := by
    rw [still.badge, still.scores.tally]
    exact holds.shared.tally
  exact keeps holds still.grows
    (still.toAside.shared still.grows holds.shared tally fun data data_eq =>
      holds.shared.stored data (stored ▸ data_eq)) (fun _ _ => .inl still.epoch) knows

theorem still_refl (svc : Svc) : Still svc svc :=
  ⟨⟨rfl, rfl, rfl, rfl, rfl, rfl, rfl⟩, ⟨rfl, rfl, rfl, rfl⟩, rfl, rfl⟩

theorem readNext_knows {svc : Svc} {unread : List ℕ} (reads : svc.Reads setting reading unread) :
    ∀ task ∈ svc.readNext reading unread, svc.Knows setting task := by
  induction unread with
  | nil =>
      have ranked : svc.Ranked setting (reading.rankMembers.insertionSort starmapBefore)
          reading.readAt := by
        refine ⟨reads.readAt_le, fun readAt_eq => ?_⟩
        rw [ranking, reads.belong, ← reads.exact readAt_eq, List.filterMap_nil, List.append_nil]
      intro task task_mem
      unfold readNext at task_mem
      split at task_mem
      · rw [List.mem_singleton.mp task_mem]
        exact fun _ => ranked
      · dsimp only at task_mem
        split at task_mem
        · cases task_mem
        · rw [List.mem_singleton.mp task_mem]
          exact ranked
  | cons unionId unread ih =>
      unfold readNext
      split
      case h_1 absent =>
        refine ih ⟨reads.belong, reads.readAt_le, fun readAt_eq => ?_⟩
        rw [← reads.exact readAt_eq, List.filterMap_cons_none]
        simp [rankInfo?, absent]
      case h_2 unionScore found =>
        intro task task_mem
        rw [List.mem_singleton.mp task_mem]
        exact ⟨⟨reads.belong, reads.readAt_le, reads.exact⟩, fun _ => found⟩

theorem readPerson_knows {svc : Svc} {unionId : ℕ} {unionScore person : ℤ}
    (reads : svc.Reads setting reading (unionId :: reading.unread))
    (scores : reading.readAt = svc.accepted →
      svc.unionScore unionId = some unionScore ∧ svc.personScore unionId = person) :
    ∀ task ∈ svc.readPerson reading unionId unionScore person, svc.Knows setting task := by
  unfold readPerson
  apply readNext_knows
  split
  case isTrue positive =>
    refine ⟨reads.belong, reads.readAt_le, fun readAt_eq => ?_⟩
    obtain ⟨union_eq, person_eq⟩ := scores readAt_eq
    rw [← reads.exact readAt_eq, List.filterMap_cons_some (b := ⟨unionId, unionScore + person⟩)]
    · simp
    · simp [rankInfo?, union_eq, person_eq, positive]
  case isFalse negative =>
    refine ⟨reads.belong, reads.readAt_le, fun readAt_eq => ?_⟩
    obtain ⟨union_eq, person_eq⟩ := scores readAt_eq
    rw [← reads.exact readAt_eq, List.filterMap_cons_none]
    simp [rankInfo?, union_eq, person_eq, negative]

theorem rewardNext_knows {svc : Svc} {carboxyl : ℤ} {shareRatio : ℚ}
    {unranked : List (RankInfo × ℕ)} {rewardInfos : List RewardInfo}
    (pays : svc.Pays setting ver carboxyl shareRatio unranked rewardInfos) :
    ∀ task ∈ svc.rewardNext ver carboxyl shareRatio unranked rewardInfos,
      svc.Knows setting task := by
  intro task task_mem
  cases unranked with
  | nil =>
      rw [List.mem_singleton.mp task_mem]
      exact pays
  | cons row unranked =>
      rw [List.mem_singleton.mp task_mem]
      exact ⟨rfl, pays⟩

theorem flagged_closed {svc : Svc} (shared : Shared setting svc) (flagged : svc.data.Flagged ver) :
    ∃ closed, svc.closing ver = some closed ∧
      ∃ version, svc.data.version? ver = some version ∧
        (setting.matchCfg.belong = .starmap → version.rankMembers = closed.ranking) := by
  obtain ⟨marked, marked_mem, rfl, is_marked⟩ := flagged
  obtain ⟨closed, closed_eq⟩ := Option.ne_none_iff_exists'.mp
    (shared.sound.flagged marked marked_mem is_marked)
  obtain ⟨version, version_mem, ver_eq, rows⟩ := (shared.closed _ closed closed_eq).version
  refine ⟨closed, closed_eq, version, ?_, rows⟩
  rw [← ver_eq]
  exact MatchData.version?_of_mem shared.sound.nodup version_mem

theorem onDistributeReward_knows {svc : Svc} (shared : Shared setting svc)
    (belong : setting.matchCfg.belong = .starmap) (flagged : svc.data.Flagged ver)
    (jackpot : Jackpot) (shareRatio : ℚ) :
    ∀ task ∈ svc.onDistributeReward setting ver jackpot shareRatio, svc.Knows setting task := by
  obtain ⟨closed, closed_eq, version, found, rows⟩ := flagged_closed shared flagged
  refine rewardNext_knows ⟨flagged, closed, closed_eq, ?_⟩
  rw [found, Option.map_some, Option.getD_some, rows belong, List.nil_append]
  rfl

theorem onDistributeRewardPvp_knows {svc : Svc} (belong : setting.matchCfg.belong = .pvp)
    (flagged : svc.data.Flagged ver) :
    ∀ task ∈ svc.onDistributeRewardPvp ver, svc.Knows setting task := by
  unfold onDistributeRewardPvp
  split
  · simp
  · intro task task_mem
    rw [List.mem_singleton.mp task_mem]
    exact ⟨belong, flagged⟩

section Keeps

variable {svc : Svc} {others : List Task}

theorem counted_keeps {after : Svc} (holds : (pool setting).Holds ⟨svc, others⟩)
    (aside : Aside svc after) (accepted : after.accepted = svc.accepted + 1)
    (tally : after.badge = after.tally) (stored : after.stored = svc.stored) :
    (pool setting).Keeps others (after, []) := by
  have grows : Grows setting svc after := aside.grows_counted accepted
  refine keeps holds grows (aside.shared grows holds.shared tally fun data data_eq => ?_)
    (fun _ _ => .inl aside.epoch) (by simp)
  exact holds.shared.stored data (stored ▸ data_eq)

theorem joinMatch_keeps (id : ℕ) (holds : (pool setting).Holds ⟨svc, others⟩) :
    (pool setting).Keeps others (svc.joinMatch id, []) := by
  unfold joinMatch
  split
  · exact .ended holds
  · exact counted_keeps holds ⟨rfl, rfl, rfl, rfl, rfl, rfl, rfl⟩ rfl holds.shared.tally rfl

theorem restart_keeps (saved : svc.Saved setting) (quiet : ∀ task ∈ others, task.pays = none)
    (holds : (pool setting).Holds ⟨svc, others⟩) :
    (pool setting).Keeps others (svc.restart setting) := by
  obtain ⟨dirty, tasks, restart_eq, tasks_eq⟩ := restart_eq setting svc
  rw [restart_eq]
  refine keeps holds (restart_grows saved holds.shared dirty)
    (restart_shared saved holds.shared dirty) (fun other other_mem => .inr (quiet other other_mem))
    ?_
  rcases tasks_eq with rfl | rfl
  · simp
  · intro task task_mem
    rw [List.mem_singleton.mp task_mem]
    exact sound_new _

theorem accept_keeps (request : Request) (holds : (pool setting).Holds ⟨svc, others⟩)
    (allows : (timely setting).onRequest request svc others) :
    (pool setting).Keeps others (svc.accept setting request) := by
  cases request with
  | tick =>
      exact keeps holds (tick_grows svc) (tick_shared holds.shared allows)
        (fun _ _ => .inl rfl) (by simp [accept])
  | onSecond => exact still_keeps holds (still_refl svc) rfl (by simp [accept, Knows])
  | onMinute => exact still_keeps holds (still_refl svc) rfl (by simp [accept, Knows])
  | joinMatch id => exact still_keeps holds (still_refl svc) rfl (by simp [accept, Knows])
  | save =>
      refine still_keeps holds (still_refl svc) rfl fun task task_mem => ?_
      simp only [accept] at task_mem
      split at task_mem
      · rw [List.mem_singleton.mp task_mem]
        exact holds.shared.sound
      · cases task_mem
  | restart => exact restart_keeps allows.1 allows.2 holds
  | zadd pid badge =>
      refine counted_keeps holds ⟨rfl, rfl, rfl, rfl, rfl, rfl, rfl⟩ rfl ?_ rfl
      exact congrArg (BadgeRank.zadd pid badge) holds.shared.tally
  | zincrby pid badge =>
      refine counted_keeps holds ⟨rfl, rfl, rfl, rfl, rfl, rfl, rfl⟩ rfl ?_ rfl
      exact congrArg (BadgeRank.zincrby pid badge) holds.shared.tally
  | unionScore | personScore =>
      exact counted_keeps holds ⟨rfl, rfl, rfl, rfl, rfl, rfl, rfl⟩ rfl holds.shared.tally rfl

theorem getCurVerRankInfo_keeps (fromEnd : Bool) {rankMembers : List RankInfo} {readAt : ℕ}
    (holds : (pool setting).Holds ⟨svc, others⟩)
    (knows : setting.matchCfg.belong = .starmap → svc.Ranked setting rankMembers readAt)
    (started : setting.isStartStage svc.now)
    (running : ¬svc.Over (setting.getCurrentVer svc.now)) :
    (pool setting).Keeps others
      ((svc.updateMatchRankInfo setting rankMembers readAt).afterUpdate fromEnd) := by
  have grows : Grows setting svc (svc.updateMatchRankInfo setting rankMembers readAt) :=
    updateMatchRankInfo_grows svc
  have shared := updateMatchRankInfo_shared holds.shared started running knows
  have lasts : (svc.updateMatchRankInfo setting rankMembers readAt).epoch = svc.epoch :=
    (svc.getCurVerRankInfo_aside setting).2.2.2.2.2
  cases fromEnd with
  | true => exact keeps holds grows shared (fun _ _ => .inl lasts) (by simp [afterUpdate, Knows])
  | false => exact keeps holds grows shared (fun _ _ => .inl lasts) (by simp [afterUpdate])

theorem afterUpdate_keeps (fromEnd dirty : Bool) (holds : (pool setting).Holds ⟨svc, others⟩) :
    (pool setting).Keeps others ({ svc with dirty := dirty }.afterUpdate fromEnd) := by
  have still (dirty : Bool) : Still svc { svc with dirty := dirty } :=
    ⟨⟨rfl, rfl, rfl, rfl, rfl, rfl, rfl⟩, ⟨rfl, rfl, rfl, rfl⟩, rfl, rfl⟩
  cases fromEnd with
  | true => exact still_keeps holds (still true) rfl (by simp [afterUpdate, Knows])
  | false => exact still_keeps holds (still dirty) rfl (by simp [afterUpdate])

theorem checkRewardTimeout_keeps (position : ℕ) (holds : (pool setting).Holds ⟨svc, others⟩)
    (past : ∀ ver ∈ setting.getCanRewardVer svc.now svc.data position, svc.Over ver) :
    (pool setting).Keeps others (svc.checkRewardTimeout setting position) := by
  rcases svc.checkRewardTimeout_cases position with ⟨ver, picked, check_eq⟩ | ⟨nothing, check_eq⟩
  · rw [check_eq]
    refine keeps holds (setDistribute_grows svc ver _ svc.dirty)
      (checkRewardTimeout_shared holds.shared picked (past ver picked)) (fun _ _ => .inl rfl)
      fun task task_mem => ?_
    rw [List.mem_singleton.mp task_mem]
    obtain ⟨version, version_mem, ver_eq, _⟩ := getCanRewardVer_some picked
    exact ⟨rfl, MatchData.flagged_setDistribute.mpr (.inr ⟨rfl, version, version_mem, ver_eq⟩)⟩
  · rw [check_eq]
    have beside : Beside svc { svc with rewardChecks := svc.nextChecks setting } :=
      ⟨⟨rfl, rfl, rfl, rfl⟩, rfl, rfl, rfl⟩
    exact keeps holds (beside.grows fun _ flagged => flagged)
      (checkRewardTimeout_shared_none holds.shared nothing) (fun _ _ => .inl rfl) (by simp)

theorem distributed_keeps {ver : ℕ} (dirty : Bool) {tasks : List Task}
    (holds : (pool setting).Holds ⟨svc, others⟩) (flagged : svc.data.Flagged ver)
    (knows : ∀ after, ∀ task ∈ tasks, Knows setting after task) :
    (pool setting).Keeps others
      ({ svc with data := svc.data.modify ver .setDistribute, dirty := dirty }, tasks) := by
  obtain ⟨closed, closed_eq, _⟩ := flagged_closed holds.shared flagged
  have past : svc.Over ver := by
    rw [Over, closed_eq]
    exact Option.some_ne_none _
  exact keeps holds (setDistribute_grows svc ver svc.rewardChecks dirty)
    (setDistribute_shared holds.shared past dirty holds.shared.early
      (checked_setDistribute holds.shared ver)) (fun _ _ => .inl rfl) (knows _)

theorem waits_keeps {task : Task} (holds : (pool setting).Holds ⟨svc, others⟩)
    (knows : svc.Knows setting task) : (pool setting).Keeps others (svc, [task]) :=
  still_keeps holds (still_refl svc) rfl (by simpa using knows)

theorem marks_keeps {isNotice isStart isEnd dirty : Bool} {tasks : List Task}
    (holds : (pool setting).Holds ⟨svc, others⟩)
    (knows : ∀ after : Svc, SameScores svc after → after.accepted = svc.accepted →
      ∀ task ∈ tasks, after.Knows setting task) :
    (pool setting).Keeps others
      ({ svc with
          data := { svc.data with isNotice := isNotice, isStart := isStart, isEnd := isEnd }
          dirty := dirty }, tasks) :=
  still_keeps holds ⟨⟨rfl, rfl, rfl, rfl, rfl, rfl, rfl⟩, ⟨rfl, rfl, rfl, rfl⟩, rfl, rfl⟩ rfl
    (knows _ ⟨rfl, rfl, rfl, rfl⟩ rfl)

theorem reads_start (caller : Option ℕ) (svc : Svc)
    (belong : setting.matchCfg.belong = .starmap) :
    svc.Reads setting ⟨caller, svc.data.members, [], svc.accepted⟩ svc.data.members :=
  ⟨belong, le_rfl, fun _ => rfl⟩

theorem resumeOwn_keeps (thread : Thread) (reply : Reply)
    (holds : (pool setting).Holds ⟨svc, others⟩)
    (knows : svc.Knows setting (.own svc.epoch thread))
    (allows : (timely setting).onReply (.own svc.epoch thread) reply svc others) :
    (pool setting).Keeps others (svc.resumeOwn setting thread reply) := by
  cases thread with
  | checkNoticeTimeout =>
      cases reply with
      | deliver =>
          simp only [resumeOwn]
          split
          · refine marks_keeps holds fun _ _ _ => ?_
            split <;> simp [Knows]
          · exact waits_keeps holds trivial
      | missing => exact waits_keeps holds trivial
      | raise => exact .ended holds
      | _ => exact waits_keeps holds trivial
  | delRank =>
      cases reply with
      | deliver => exact still_keeps holds (still_refl svc) rfl (by simp [resumeOwn, Knows])
      | raise => exact .ended holds
      | _ => exact waits_keeps holds trivial
  | onNoticeTimeout =>
      cases reply with
      | deliver => exact marks_keeps holds (by simp [Knows])
      | raise => exact .ended holds
      | _ => exact waits_keeps holds trivial
  | checkStartTimeout =>
      cases reply with
      | deliver =>
          simp only [resumeOwn]
          split
          · exact marks_keeps holds (by simp [Knows])
          · exact waits_keeps holds trivial
      | missing => exact waits_keeps holds trivial
      | raise => exact .ended holds
      | _ => exact waits_keeps holds trivial
  | checkEndTimeout =>
      cases reply with
      | deliver =>
          simp only [resumeOwn]
          split
          · refine still_keeps holds
              ⟨⟨rfl, rfl, rfl, rfl, rfl, rfl, rfl⟩, ⟨rfl, rfl, rfl, rfl⟩, rfl, rfl⟩ rfl ?_
            split
            case h_1 belong => simpa [Knows] using belong
            case h_2 belong =>
              intro task task_mem
              rw [List.mem_singleton.mp task_mem]
              exact reads_start _ _ belong
          · exact waits_keeps holds trivial
      | missing => exact waits_keeps holds trivial
      | raise => exact .ended holds
      | _ => exact waits_keeps holds trivial
  | getPvpRankMembers fromEnd =>
      cases reply with
      | rankMembers rankMembers =>
          refine waits_keeps holds fun belong => ?_
          rw [show setting.matchCfg.belong = .pvp from knows] at belong
          cases belong
      | raise => exact .ended holds
      | _ => exact waits_keeps holds knows
  | updateMatchRankInfo fromEnd rankMembers readAt =>
      cases reply with
      | deliver =>
          simp only [resumeOwn]
          split
          · exact waits_keeps holds knows
          · exact afterUpdate_keeps fromEnd svc.dirty holds
      | missing => exact afterUpdate_keeps fromEnd svc.dirty holds
      | raise => exact .ended holds
      | _ => exact waits_keeps holds knows
  | getCurVerRankInfo fromEnd rankMembers readAt =>
      cases reply with
      | deliver => exact getCurVerRankInfo_keeps fromEnd holds knows allows.1 allows.2
      | missing => exact afterUpdate_keeps fromEnd true holds
      | raise => exact .ended holds
      | _ => exact waits_keeps holds knows
  | checkRewardTimeout =>
      cases reply with
      | pick position => exact checkRewardTimeout_keeps position holds allows
      | missing => exact .ended holds
      | raise => exact .ended holds
      | _ => exact waits_keeps holds trivial
  | distributeReward ver =>
      cases reply with
      | opCfg jackpot shareRatio =>
          refine still_keeps holds (still_refl svc) rfl ?_
          simp only [resumeOwn]
          split
          case h_1 belong => exact onDistributeRewardPvp_knows belong knows.2
          case h_2 belong =>
            exact onDistributeReward_knows holds.shared belong knows.2 jackpot shareRatio
      | missing => exact allows.elim
      | raise => exact allows.elim
      | _ => exact waits_keeps holds knows
  | getRewardByRank ver carboxyl shareRatio unranked rewardInfos =>
      cases reply with
      | deliver =>
          cases unranked with
          | nil => exact waits_keeps holds knows
          | cons row unranked =>
              refine still_keeps holds (still_refl svc) rfl (rewardNext_knows ?_)
              obtain ⟨_, flagged, closed, closed_eq, rows⟩ := knows
              refine ⟨flagged, closed, closed_eq, ?_⟩
              rw [← rows, List.append_assoc]
              cases found : setting.rewardInfo carboxyl shareRatio row with
              | none => rw [List.filterMap_cons_none found]; rfl
              | some rewardInfo => rw [List.filterMap_cons_some found]; rfl
      | missing => exact allows.elim
      | raise => exact allows.elim
      | _ => cases unranked <;> exact waits_keeps holds knows
  | distributed ver =>
      cases reply with
      | deliver =>
          simp only [resumeOwn]
          split
          · exact distributed_keeps svc.dirty holds knows (by simp [Knows])
          · exact distributed_keeps true holds knows (by simp)
      | raise => exact .ended holds
      | _ => exact waits_keeps holds knows
  | matchSeasonEndHandle =>
      cases reply with
      | deliver => exact marks_keeps holds (by simp)
      | raise => exact .ended holds
      | _ => exact waits_keeps holds trivial
  | onMinute =>
      cases reply with
      | deliver =>
          refine still_keeps holds (still_refl svc) rfl ?_
          simp only [resumeOwn]
          split
          · split
            case h_1 belong => simpa [Knows] using belong
            case h_2 belong =>
              intro task task_mem
              rw [List.mem_singleton.mp task_mem]
              exact reads_start _ _ belong
          · simp
      | missing => exact .ended holds
      | raise => exact .ended holds
      | _ => exact waits_keeps holds trivial
  | isNoticeStage id =>
      cases reply with
      | deliver =>
          simp only [resumeOwn]
          split
          · exact joinMatch_keeps id holds
          · exact waits_keeps holds trivial
      | missing => exact waits_keeps holds trivial
      | raise => exact .ended holds
      | _ => exact waits_keeps holds trivial
  | isStartStage id =>
      cases reply with
      | deliver =>
          simp only [resumeOwn]
          split
          · exact joinMatch_keeps id holds
          · exact .ended holds
      | missing => exact .ended holds
      | raise => exact .ended holds
      | _ => exact waits_keeps holds trivial
  | updated =>
      cases reply with
      | deliver => exact marks_keeps holds (by simp)
      | raise => exact .ended holds
      | _ => exact waits_keeps holds trivial

theorem settled_earned {ver : ℕ} {matchData : Pvp.MatchData} (shared : Shared setting svc)
    (belong : setting.matchCfg.belong = .pvp) (season : matchData.season = ver)
    (accepted : (svc.closing ver).map Closing.accepted = some svc.accepted)
    (jackpot : Jackpot) (shareRatio : ℚ) (stageRatio : List Pvp.StageRatio)
    (rankMitCfg : List Pvp.RankMit) :
    ∃ closed, svc.closing matchData.season = some closed ∧
      (Rewards.pvp (svc.settled jackpot shareRatio stageRatio rankMitCfg) matchData
        ((svc.settled jackpot shareRatio stageRatio rankMitCfg).rewards matchData)).EarnedBy
          setting closed.ranking := by
  obtain ⟨closed, closed_eq, same⟩ := Option.map_eq_some_iff.mp accepted
  subst season
  refine ⟨closed, closed_eq, ?_, rfl⟩
  rw [(shared.closed _ closed closed_eq).unchanged same, ranking, belong, ← shared.tally]
  rfl

theorem resume_keeps (task : Task) (reply : Reply)
    (holds : (pool setting).Holds ⟨svc, others⟩) (knows : svc.Knows setting task)
    (allows : (timely setting).onReply task reply svc others) :
    (pool setting).Keeps others (svc.resume setting task reply) := by
  cases task with
  | own epoch thread =>
      simp only [resume]
      split
      case isTrue same =>
        subst same
        exact resumeOwn_keeps thread reply holds knows allows
      case isFalse => exact .ended holds
  | update epoch data =>
      cases reply with
      | deliver =>
          have still : Still svc { svc with stored := some data } :=
            ⟨⟨rfl, rfl, rfl, rfl, rfl, rfl, rfl⟩, ⟨rfl, rfl, rfl, rfl⟩, rfl, rfl⟩
          refine keeps holds still.grows (still.toAside.shared still.grows holds.shared
            holds.shared.tally fun other other_eq => ?_) (fun _ _ => .inl rfl)
            (by simp [resume, Knows])
          obtain rfl : data = other := Option.some.inj other_eq
          exact knows
      | raise => exact .ended holds
      | _ => exact waits_keeps holds knows
  | del =>
      cases reply with
      | deliver =>
          refine counted_keeps holds ⟨rfl, rfl, rfl, rfl, rfl, rfl, rfl⟩ rfl ?_ rfl
          exact (if_pos allows).symm
      | raise => exact .ended holds
      | _ => exact waits_keeps holds trivial
  | getStarmapMatchRankList reading =>
      cases reply with
      | deliver => exact still_keeps holds (still_refl svc) rfl (readNext_knows knows)
      | raise => exact .ended holds
      | _ => exact waits_keeps holds knows
  | getPersonalGridScore reading unionId unionScore =>
      cases reply with
      | deliver =>
          exact waits_keeps holds ⟨knows.1, fun readAt_eq => ⟨knows.2 readAt_eq, rfl⟩⟩
      | raise => exact .ended holds
      | _ => exact waits_keeps holds knows
  | personScore reading unionId unionScore personScore =>
      cases reply with
      | deliver =>
          exact still_keeps holds (still_refl svc) rfl (readPerson_knows knows.1 knows.2)
      | raise => exact .ended holds
      | _ => exact waits_keeps holds knows
  | sendRankInfo rankMembers readAt =>
      cases reply with
      | deliver => exact waits_keeps holds fun _ => knows
      | raise => exact .ended holds
      | _ => exact waits_keeps holds knows
  | distributeMatchReward epoch ver carboxyl shareRatio rewardInfos =>
      cases reply with
      | deliver =>
          obtain ⟨flagged, closed, closed_eq, rows⟩ := knows
          have beside (distributions : List Distribution) :
              Beside svc { svc with distributions := distributions } :=
            ⟨⟨rfl, rfl, rfl, rfl⟩, rfl, rfl, rfl⟩
          refine keeps holds ((beside _).grows fun _ flagged => flagged)
            (distribute_shared holds.shared _ closed_eq ?_) (fun _ _ => .inl rfl)
            (by simpa [resume, Knows] using flagged)
          simpa [Rewards.EarnedBy] using rows
      | raise => exact allows.elim
      | _ => exact waits_keeps holds knows
  | getPvpMatchSettlement epoch ver matchData =>
      cases reply with
      | settle jackpot shareRatio stageRatio rankMitCfg =>
          obtain ⟨closed, closed_eq, earned⟩ := settled_earned holds.shared knows.1 allows.1
            allows.2 jackpot shareRatio stageRatio rankMitCfg
          have beside (distributions : List Distribution) :
              Beside svc { svc with distributions := distributions } :=
            ⟨⟨rfl, rfl, rfl, rfl⟩, rfl, rfl, rfl⟩
          exact keeps holds ((beside _).grows fun _ flagged => flagged)
            (distribute_shared holds.shared _ closed_eq earned) (fun _ _ => .inl rfl)
            (by simpa [resume, Knows] using knows.2)
      | raise => exact allows.elim
      | _ => exact waits_keeps holds knows

end Keeps

theorem kept (setting : Setting) : (pool setting).KeptBy (matchSvc setting) (timely setting) where
  accept request _ _ holds allows := accept_keeps request holds allows
  resume task reply _ _ holds knows _ allows := resume_keeps task reply holds knows allows

theorem holds_start (setting : Setting) : (pool setting).Holds (matchStart setting) where
  shared :=
    { sound := sound_new _
      stored := by simp [matchStart]
      tally := rfl
      closed := by simp [matchStart]
      early := fun _ => rfl
      checked := .inl (Nat.zero_le _)
      earned := by simp [matchStart] }
  own task task_mem := by
    rw [List.mem_singleton.mp task_mem]
    exact sound_new _
  apart := List.pairwise_of_forall fun _ _ => trivial

end Svc

end BasWar.Matches
