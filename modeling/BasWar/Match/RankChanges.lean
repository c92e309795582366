import BasWar.Match.Distribute

/-!
# What a segment does to the rankings of a match

The versions that are over keep the ranking that they had, as long as the segments are timely.
-/

namespace BasWar.Matches

open Cooperative

namespace Svc

variable {setting : Setting}

/-- The time of a version has come and is not over. -/
def Current (setting : Setting) (svc : Svc) (ver : ℕ) : Prop :=
  setting.isStartStage svc.now ∧ ver = setting.getCurrentVer svc.now

structure SameScores (before after : Svc) : Prop where
  members : after.data.members = before.data.members
  unionScore : after.unionScore = before.unionScore
  personScore : after.personScore = before.personScore
  tally : after.tally = before.tally

variable {before after svc : Svc} {ver position : ℕ} {data : MatchData} {version : RankVersion}

theorem SameScores.rankInfo? (same : SameScores before after) :
    after.rankInfo? = before.rankInfo? := by
  funext unionId
  simp only [Svc.rankInfo?, same.unionScore, same.personScore]

theorem SameScores.ranking (same : SameScores before after) :
    after.ranking setting = before.ranking setting := by
  simp only [Svc.ranking, same.members, same.rankInfo?, same.tally]

/-- How the service changes in any segment of a timely schedule. -/
structure Grows (setting : Setting) (before after : Svc) : Prop where
  accepted : before.accepted ≤ after.accepted
  scores : after.accepted = before.accepted → SameScores before after
  closing : ∀ ver closed, before.closing ver = some closed → after.closing ver = some closed
  current : ∀ ver, before.Current setting ver → after.Over ver ∨ after.Current setting ver
  flagged : ∀ ver, before.data.Flagged ver → after.data.Flagged ver

theorem Grows.over (grows : Grows setting before after) (past : before.Over ver) :
    after.Over ver := by
  obtain ⟨closed, closed_eq⟩ := Option.ne_none_iff_exists'.mp past
  rw [Over, grows.closing ver closed closed_eq]
  exact Option.some_ne_none _

/-- The clock, the versions that are over and the scores are the same. -/
structure Beside (before after : Svc) : Prop where
  scores : SameScores before after
  now : after.now = before.now
  accepted : after.accepted = before.accepted
  closing : after.closing = before.closing

theorem Beside.grows (beside : Beside before after)
    (flagged : ∀ ver, before.data.Flagged ver → after.data.Flagged ver) :
    Grows setting before after where
  accepted := beside.accepted.ge
  scores _ := beside.scores
  closing ver closed closed_eq := by rw [beside.closing, closed_eq]
  current ver current := by
    refine .inr ?_
    rw [Current, beside.now]
    exact current
  flagged := flagged

/-- The versions, the clock and what was handed out are the same. -/
structure Aside (before after : Svc) : Prop where
  epoch : after.epoch = before.epoch
  rankVersions : after.data.rankVersions = before.data.rankVersions
  nowVer : after.data.nowVer = before.data.nowVer
  now : after.now = before.now
  closing : after.closing = before.closing
  distributions : after.distributions = before.distributions
  rewardChecks : after.rewardChecks = before.rewardChecks

theorem Aside.flagged (aside : Aside before after) (ver : ℕ) :
    after.data.Flagged ver ↔ before.data.Flagged ver := by
  simp only [MatchData.Flagged, aside.rankVersions]

theorem Aside.grows_counted (aside : Aside before after)
    (accepted : after.accepted = before.accepted + 1) : Grows setting before after where
  accepted := by omega
  scores same := by omega
  closing ver closed closed_eq := by rw [aside.closing, closed_eq]
  current ver current := by
    refine .inr ?_
    rw [Current, aside.now]
    exact current
  flagged ver := (aside.flagged ver).mpr

/-- Only marks of the match change. -/
structure Still (before after : Svc) : Prop extends Aside before after where
  scores : SameScores before after
  badge : after.badge = before.badge
  accepted : after.accepted = before.accepted

theorem Still.grows (still : Still before after) : Grows setting before after :=
  Beside.grows ⟨still.scores, still.now, still.accepted, still.closing⟩ fun ver =>
    (still.flagged ver).mpr

/-- A list of rows is the ranking, unless a change came after `readAt`. -/
structure Ranked (setting : Setting) (svc : Svc) (rankMembers : List RankInfo) (readAt : ℕ) :
    Prop where
  readAt_le : readAt ≤ svc.accepted
  exact : readAt = svc.accepted → rankMembers = svc.ranking setting

theorem Ranked.grows {rankMembers : List RankInfo} {readAt : ℕ}
    (ranked : Ranked setting before rankMembers readAt) (grows : Grows setting before after) :
    Ranked setting after rankMembers readAt where
  readAt_le := ranked.readAt_le.trans grows.accepted
  exact readAt_eq := by
    have same : after.accepted = before.accepted :=
      le_antisymm (readAt_eq ▸ ranked.readAt_le) grows.accepted
    rw [ranked.exact (readAt_eq.trans same), (grows.scores same).ranking]

/-- What holds of the document of a match, in memory, stored or on its way. -/
structure Sound (setting : Setting) (svc : Svc) (data : MatchData) : Prop where
  nodup : (data.rankVersions.map RankVersion.ver).Nodup
  ranked : setting.matchCfg.belong = .starmap → ∀ version ∈ data.rankVersions,
    svc.Ranked setting version.rankMembers version.readAt
  timed : ∀ version ∈ data.rankVersions,
    svc.Over version.ver ∨ svc.Current setting version.ver
  flagged : ∀ version ∈ data.rankVersions, version.isDistribute = true → svc.Over version.ver
  nowVer : ∀ version ∈ data.rankVersions, ∃ current ∈ data.rankVersions,
    current.ver = data.nowVer

theorem Sound.grows (sound : Sound setting before data) (grows : Grows setting before after) :
    Sound setting after data where
  nodup := sound.nodup
  ranked belong version version_mem := (sound.ranked belong version version_mem).grows grows
  timed version version_mem := by
    rcases sound.timed version version_mem with past | current
    · exact .inl (grows.over past)
    · exact grows.current _ current
  flagged version version_mem marked := grows.over (sound.flagged version version_mem marked)
  nowVer := sound.nowVer

theorem Sound.congr {other : MatchData} (sound : Sound setting svc data)
    (rankVersions : other.rankVersions = data.rankVersions) (nowVer : other.nowVer = data.nowVer) :
    Sound setting svc other where
  nodup := rankVersions ▸ sound.nodup
  ranked := by rw [rankVersions]; exact sound.ranked
  timed := by rw [rankVersions]; exact sound.timed
  flagged := by rw [rankVersions]; exact sound.flagged
  nowVer := by rw [rankVersions, nowVer]; exact sound.nowVer

theorem sound_new (svc : Svc) : Sound setting svc (.new setting) where
  nodup := .nil
  ranked _ _ version_mem := by simp [MatchData.new] at version_mem
  timed _ version_mem := by simp [MatchData.new] at version_mem
  flagged _ version_mem := by simp [MatchData.new] at version_mem
  nowVer _ version_mem := by simp [MatchData.new] at version_mem

/-- What a version that is over still has. -/
structure Closed (setting : Setting) (svc : Svc) (ver : ℕ) (closed : Closing) : Prop where
  version : ∃ version ∈ svc.data.rankVersions, version.ver = ver ∧
    (setting.matchCfg.belong = .starmap → version.rankMembers = closed.ranking)
  accepted_le : closed.accepted ≤ svc.accepted
  unchanged : closed.accepted = svc.accepted → closed.ranking = svc.ranking setting

structure Shared (setting : Setting) (svc : Svc) : Prop where
  sound : Sound setting svc svc.data
  stored : ∀ data, svc.stored = some data → Sound setting svc data
  tally : svc.badge = svc.tally
  closed : ∀ ver closed, svc.closing ver = some closed → Closed setting svc ver closed
  early : svc.now ≤ setting.matchCfg.endTime → svc.rewardChecks = 0
  checked : svc.rewardChecks ≤ svc.data.rankVersions.countP RankVersion.isDistribute ∨
    ∀ version ∈ svc.data.rankVersions, version.isDistribute = true
  earned : ∀ distribution ∈ svc.distributions, ∃ closed,
    svc.closing distribution.ver = some closed ∧
      distribution.rewards.EarnedBy setting closed.ranking

theorem Closed.grows {closed : Closing} (kept : Closed setting before ver closed)
    (grows : Grows setting before after)
    (version : ∃ version ∈ after.data.rankVersions, version.ver = ver ∧
      (setting.matchCfg.belong = .starmap → version.rankMembers = closed.ranking)) :
    Closed setting after ver closed where
  version := version
  accepted_le := kept.accepted_le.trans grows.accepted
  unchanged accepted_eq := by
    have same : after.accepted = before.accepted :=
      le_antisymm (accepted_eq ▸ kept.accepted_le) grows.accepted
    rw [kept.unchanged (accepted_eq.trans same), (grows.scores same).ranking]

theorem Aside.shared (aside : Aside before after) (grows : Grows setting before after)
    (shared : Shared setting before) (tally : after.badge = after.tally)
    (stored : ∀ data, after.stored = some data → Sound setting before data) :
    Shared setting after where
  sound := (shared.sound.grows grows).congr aside.rankVersions aside.nowVer
  stored data stored_eq := (stored data stored_eq).grows grows
  tally := tally
  closed ver closed closed_eq := by
    rw [aside.closing] at closed_eq
    have kept := shared.closed ver closed closed_eq
    exact kept.grows grows (by rw [aside.rankVersions]; exact kept.version)
  early := by
    rw [aside.now, aside.rewardChecks]
    exact shared.early
  checked := by
    rw [aside.rankVersions, aside.rewardChecks]
    exact shared.checked
  earned := by
    rw [aside.distributions, aside.closing]
    exact shared.earned

theorem tick_grows (svc : Svc) : Grows setting svc (svc.tick setting) where
  accepted := le_rfl
  scores _ := ⟨rfl, rfl, rfl, rfl⟩
  closing ver closed closed_eq := by
    simp only [tick]
    split
    case isTrue leaves =>
      rw [Function.update_of_ne, closed_eq]
      rintro rfl
      rw [leaves.2.2] at closed_eq
      cases closed_eq
    case isFalse => exact closed_eq
  current := by
    rintro ver ⟨started, rfl⟩
    by_cases leaves : svc.now = setting.matchCfg.endTime ∨
        setting.getCurrentVer (svc.now + 1) ≠ setting.getCurrentVer svc.now
    · refine .inl ?_
      simp only [Over, tick, started, leaves, true_and]
      split
      case isTrue => simp
      case isFalse past => exact past
    · refine .inr ?_
      obtain ⟨not_last, same⟩ := not_or.mp leaves
      refine ⟨⟨started.1.trans (Nat.le_succ _), ?_⟩, (not_not.mp same).symm⟩
      have before_end := started.2
      simp only [tick]
      omega
  flagged _ flagged := flagged

theorem tick_shared (shared : Shared setting svc)
    (upToDate : svc.Leaves setting → svc.UpToDate setting) :
    Shared setting (svc.tick setting) where
  sound := shared.sound.grows (tick_grows svc)
  stored data stored_eq := (shared.stored data stored_eq).grows (tick_grows svc)
  tally := shared.tally
  closed ver closed closed_eq := by
    simp only [tick] at closed_eq
    split at closed_eq
    case isTrue leaves =>
      by_cases left : ver = setting.getCurrentVer svc.now
      · subst left
        obtain rfl : _ = closed := by simpa using closed_eq
        have fresh := upToDate ⟨leaves.1, leaves.2.1⟩
        rw [UpToDate] at fresh
        split at fresh
        · exact fresh.elim
        · rename_i version found
          obtain ⟨version_mem, ver_eq⟩ := MatchData.version?_some found
          refine ⟨⟨version, version_mem, ver_eq, fun belong => ?_⟩, le_rfl, fun _ => rfl⟩
          exact (shared.sound.ranked belong version version_mem).exact (fresh belong)
      · rw [Function.update_of_ne left] at closed_eq
        have kept := shared.closed ver closed closed_eq
        exact kept.grows (tick_grows svc) kept.version
    case isFalse =>
      have kept := shared.closed ver closed closed_eq
      exact kept.grows (tick_grows svc) kept.version
  early now_le := shared.early ((Nat.le_succ _).trans now_le)
  checked := shared.checked
  earned distribution distribution_mem := by
    obtain ⟨closed, closed_eq, earned⟩ := shared.earned distribution distribution_mem
    exact ⟨closed, (tick_grows svc).closing _ _ closed_eq, earned⟩

def loaded (setting : Setting) (svc : Svc) : MatchData :=
  svc.stored.getD (.new setting)

theorem loaded_sound (shared : Shared setting svc) : Sound setting svc (svc.loaded setting) := by
  rw [loaded]
  cases stored_eq : svc.stored with
  | none => exact sound_new svc
  | some data => exact shared.stored data stored_eq

theorem restart_eq (setting : Setting) (svc : Svc) :
    ∃ dirty tasks, svc.restart setting =
      ({ svc with data := svc.loaded setting, dirty := dirty, epoch := svc.epoch + 1 }, tasks) ∧
        (tasks = [] ∨ tasks = [.update (svc.epoch + 1) (.new setting)]) := by
  unfold restart loaded
  cases svc.stored with
  | none => exact ⟨true, _, rfl, .inr rfl⟩
  | some data => exact ⟨false, _, rfl, .inl rfl⟩

section

variable (saved : svc.Saved setting)
include saved

theorem mem_loaded (past : svc.Over version.ver) :
    version ∈ (svc.loaded setting).rankVersions ↔ version ∈ svc.data.rankVersions := by
  have same := congrArg (version ∈ ·) saved.2
  simpa [past, loaded] using same

theorem loaded_flagged (shared : Shared setting svc) (ver : ℕ) :
    (svc.loaded setting).Flagged ver ↔ svc.data.Flagged ver := by
  constructor
  · rintro ⟨version, version_mem, ver_eq, marked⟩
    have past := (loaded_sound shared).flagged version version_mem marked
    exact ⟨version, (mem_loaded saved past).mp version_mem, ver_eq, marked⟩
  · rintro ⟨version, version_mem, ver_eq, marked⟩
    have past := shared.sound.flagged version version_mem marked
    exact ⟨version, (mem_loaded saved past).mpr version_mem, ver_eq, marked⟩

theorem loaded_rankVersions (shared : Shared setting svc)
    (ended : setting.matchCfg.endTime < svc.now) :
    (svc.loaded setting).rankVersions = svc.data.rankVersions := by
  have past {data : MatchData} (sound : Sound setting svc data) :
      (data.rankVersions.filter fun version => svc.Over version.ver) = data.rankVersions := by
    refine List.filter_eq_self.mpr fun version version_mem => ?_
    rcases sound.timed version version_mem with past | current
    · simpa using past
    · exact absurd ended (Nat.not_lt.mpr current.1.2)
  rw [← past (loaded_sound shared), ← past shared.sound]
  exact saved.2

theorem restart_beside (dirty : Bool) :
    Beside svc
      { svc with data := svc.loaded setting, dirty := dirty, epoch := svc.epoch + 1 } :=
  ⟨⟨saved.1, rfl, rfl, rfl⟩, rfl, rfl, rfl⟩

theorem restart_grows (shared : Shared setting svc) (dirty : Bool) :
    Grows setting svc
      { svc with data := svc.loaded setting, dirty := dirty, epoch := svc.epoch + 1 } :=
  (restart_beside saved dirty).grows fun ver => (loaded_flagged saved shared ver).mpr

theorem restart_shared (shared : Shared setting svc) (dirty : Bool) :
    Shared setting
      { svc with data := svc.loaded setting, dirty := dirty, epoch := svc.epoch + 1 } where
  sound := (loaded_sound shared).grows (restart_grows saved shared dirty)
  stored data stored_eq := (shared.stored data stored_eq).grows (restart_grows saved shared dirty)
  tally := shared.tally
  closed ver closed closed_eq := by
    have kept := shared.closed ver closed closed_eq
    obtain ⟨version, version_mem, rfl, rows⟩ := kept.version
    have past : svc.Over version.ver := by
      rw [Over, closed_eq]
      exact Option.some_ne_none _
    exact kept.grows (restart_grows saved shared dirty)
      ⟨version, (mem_loaded saved past).mpr version_mem, rfl, rows⟩
  early := shared.early
  checked := by
    by_cases ended : setting.matchCfg.endTime < svc.now
    · rw [loaded_rankVersions saved shared ended]
      exact shared.checked
    · refine .inl ?_
      rw [shared.early (by omega)]
      exact Nat.zero_le _
  earned := shared.earned

end

theorem getCurVerRankInfo_cases (setting : Setting) (svc : Svc) :
    (∃ version ∈ svc.data.rankVersions, version.ver = setting.getCurrentVer svc.now ∧
      svc.getCurVerRankInfo setting = svc) ∨
    ∃ made : RankVersion, made.ver = setting.getCurrentVer svc.now ∧ made.isDistribute = false ∧
      (∀ version ∈ svc.data.rankVersions, version.ver ≠ setting.getCurrentVer svc.now) ∧
        svc.getCurVerRankInfo setting =
          { svc with
            dirty := true
            data :=
              { svc.data with
                nowVer := setting.getCurrentVer svc.now
                rankVersions := svc.data.rankVersions ++ [made] } } := by
  unfold getCurVerRankInfo
  split
  case h_1 version found =>
    obtain ⟨version_mem, ver_eq⟩ := MatchData.version?_some found
    exact .inl ⟨version, version_mem, ver_eq, rfl⟩
  case h_2 absent =>
    exact .inr ⟨_, rfl, rfl, fun version => MatchData.version?_none absent, rfl⟩

variable {rankMembers : List RankInfo} {readAt : ℕ}

theorem getCurVerRankInfo_aside (setting : Setting) (svc : Svc) :
    Beside svc (svc.getCurVerRankInfo setting) ∧
      (svc.getCurVerRankInfo setting).stored = svc.stored ∧
      (svc.getCurVerRankInfo setting).badge = svc.badge ∧
      (svc.getCurVerRankInfo setting).distributions = svc.distributions ∧
      (svc.getCurVerRankInfo setting).rewardChecks = svc.rewardChecks ∧
      (svc.getCurVerRankInfo setting).epoch = svc.epoch := by
  rcases svc.getCurVerRankInfo_cases setting with
    ⟨_, _, _, found_eq⟩ | ⟨_, _, _, _, made_eq⟩
  · rw [found_eq]
    exact ⟨⟨⟨rfl, rfl, rfl, rfl⟩, rfl, rfl, rfl⟩, rfl, rfl, rfl, rfl, rfl⟩
  · rw [made_eq]
    exact ⟨⟨⟨rfl, rfl, rfl, rfl⟩, rfl, rfl, rfl⟩, rfl, rfl, rfl, rfl, rfl⟩

theorem updateMatchRankInfo_beside (svc : Svc) :
    Beside svc (svc.updateMatchRankInfo setting rankMembers readAt) := by
  have found := (svc.getCurVerRankInfo_aside setting).1
  exact ⟨⟨found.scores.members, found.scores.unionScore, found.scores.personScore,
    found.scores.tally⟩, found.now, found.accepted, found.closing⟩

theorem mem_updateMatchRankInfo
    (version_mem : version ∈
      (svc.updateMatchRankInfo setting rankMembers readAt).data.rankVersions) :
    (version.ver ≠ setting.getCurrentVer svc.now ∧ version ∈ svc.data.rankVersions) ∨
      (version.ver = setting.getCurrentVer svc.now ∧ version.rankMembers = rankMembers ∧
        version.readAt = readAt ∧
        (version.isDistribute = true → svc.data.Flagged (setting.getCurrentVer svc.now))) := by
  obtain ⟨old, old_mem, rfl⟩ := MatchData.mem_modify.mp version_mem
  by_cases same : old.ver = setting.getCurrentVer svc.now
  · refine .inr ⟨by simp [same, RankVersion.setRank], by simp [same, RankVersion.setRank],
      by simp [same, RankVersion.setRank], fun marked => ?_⟩
    have old_marked : old.isDistribute = true := by simpa [same, RankVersion.setRank] using marked
    rcases svc.getCurVerRankInfo_cases setting with
      ⟨_, _, _, found_eq⟩ | ⟨made, _, unmarked, _, made_eq⟩
    · rw [found_eq] at old_mem
      exact ⟨old, old_mem, same, old_marked⟩
    · rw [made_eq] at old_mem
      rcases List.mem_append.mp old_mem with old_mem | new_mem
      · exact ⟨old, old_mem, same, old_marked⟩
      · rw [List.mem_singleton.mp new_mem, unmarked] at old_marked
        cases old_marked
  · refine .inl ⟨by simp [same], ?_⟩
    rcases svc.getCurVerRankInfo_cases setting with
      ⟨_, _, _, found_eq⟩ | ⟨made, made_ver, _, _, made_eq⟩
    · rw [found_eq] at old_mem
      simpa [same] using old_mem
    · rw [made_eq] at old_mem
      rcases List.mem_append.mp old_mem with old_mem | new_mem
      · simpa [same] using old_mem
      · rw [List.mem_singleton.mp new_mem] at same
        exact absurd made_ver same

theorem mem_updateMatchRankInfo_of_ne (version_mem : version ∈ svc.data.rankVersions)
    (other : version.ver ≠ setting.getCurrentVer svc.now) :
    version ∈ (svc.updateMatchRankInfo setting rankMembers readAt).data.rankVersions := by
  refine MatchData.mem_modify.mpr ⟨version, ?_, by simp [other]⟩
  rcases svc.getCurVerRankInfo_cases setting with
    ⟨_, _, _, found_eq⟩ | ⟨_, _, _, _, made_eq⟩
  · rwa [found_eq]
  · rw [made_eq]
    exact List.mem_append_left _ version_mem

theorem updateMatchRankInfo_vers (setting : Setting) (rankMembers : List RankInfo) (readAt : ℕ)
    (svc : Svc) :
    ((svc.updateMatchRankInfo setting rankMembers readAt).data.rankVersions.map
          RankVersion.ver = svc.data.rankVersions.map RankVersion.ver ∧
        (svc.updateMatchRankInfo setting rankMembers readAt).data.nowVer = svc.data.nowVer) ∨
      (setting.getCurrentVer svc.now ∉ svc.data.rankVersions.map RankVersion.ver ∧
        (svc.updateMatchRankInfo setting rankMembers readAt).data.rankVersions.map
          RankVersion.ver =
            svc.data.rankVersions.map RankVersion.ver ++ [setting.getCurrentVer svc.now] ∧
        (svc.updateMatchRankInfo setting rankMembers readAt).data.nowVer =
          setting.getCurrentVer svc.now) := by
  have vers_eq : (svc.updateMatchRankInfo setting rankMembers readAt).data.rankVersions.map
      RankVersion.ver = (svc.getCurVerRankInfo setting).data.rankVersions.map RankVersion.ver :=
    MatchData.modify_vers fun _ => rfl
  have nowVer_eq : (svc.updateMatchRankInfo setting rankMembers readAt).data.nowVer =
      (svc.getCurVerRankInfo setting).data.nowVer := rfl
  rw [vers_eq, nowVer_eq]
  rcases svc.getCurVerRankInfo_cases setting with
    ⟨_, _, _, found_eq⟩ | ⟨made, made_ver, _, absent, made_eq⟩
  · rw [found_eq]
    exact .inl ⟨rfl, rfl⟩
  · rw [made_eq]
    refine .inr ⟨?_, by simp [made_ver], rfl⟩
    rintro present
    obtain ⟨version, version_mem, ver_eq⟩ := List.mem_map.mp present
    exact absent version version_mem ver_eq

theorem updateMatchRankInfo_flagged (svc : Svc) (ver : ℕ) :
    (svc.updateMatchRankInfo setting rankMembers readAt).data.Flagged ver ↔
      svc.data.Flagged ver := by
  refine MatchData.flagged_setRank.trans ?_
  rcases svc.getCurVerRankInfo_cases setting with
    ⟨_, _, _, found_eq⟩ | ⟨made, _, unmarked, _, made_eq⟩
  · rw [found_eq]
  · rw [made_eq]
    simp [MatchData.Flagged, or_and_right, exists_or, unmarked]

theorem updateMatchRankInfo_sound (shared : Shared setting svc)
    (started : setting.isStartStage svc.now)
    (ranked : setting.matchCfg.belong = .starmap → svc.Ranked setting rankMembers readAt) :
    Sound setting svc (svc.updateMatchRankInfo setting rankMembers readAt).data where
  nodup := by
    rcases svc.updateMatchRankInfo_vers setting rankMembers readAt with
      ⟨vers_eq, _⟩ | ⟨absent, vers_eq, _⟩
    · rw [vers_eq]
      exact shared.sound.nodup
    · rw [vers_eq]
      refine List.nodup_append.mpr ⟨shared.sound.nodup, List.nodup_singleton _, ?_⟩
      rintro old old_mem new new_mem rfl
      rw [List.mem_singleton.mp new_mem] at old_mem
      exact absent old_mem
  ranked belong version version_mem := by
    rcases mem_updateMatchRankInfo version_mem with ⟨_, old_mem⟩ | ⟨_, rows_eq, readAt_eq, _⟩
    · exact shared.sound.ranked belong version old_mem
    · rw [rows_eq, readAt_eq]
      exact ranked belong
  timed version version_mem := by
    rcases mem_updateMatchRankInfo version_mem with ⟨_, old_mem⟩ | ⟨ver_eq, _⟩
    · exact shared.sound.timed version old_mem
    · exact .inr ⟨started, ver_eq⟩
  flagged version version_mem marked := by
    rcases mem_updateMatchRankInfo version_mem with ⟨_, old_mem⟩ | ⟨ver_eq, _, _, old_marked⟩
    · exact shared.sound.flagged version old_mem marked
    · obtain ⟨old, old_mem, old_ver, marked⟩ := old_marked marked
      rw [ver_eq, ← old_ver]
      exact shared.sound.flagged old old_mem marked
  nowVer version version_mem := by
    have present : (svc.updateMatchRankInfo setting rankMembers readAt).data.nowVer ∈
        (svc.updateMatchRankInfo setting rankMembers readAt).data.rankVersions.map
          RankVersion.ver := by
      have some_version := List.mem_map_of_mem (f := RankVersion.ver) version_mem
      rcases svc.updateMatchRankInfo_vers setting rankMembers readAt with
        ⟨vers_eq, nowVer_eq⟩ | ⟨_, vers_eq, nowVer_eq⟩
      · rw [vers_eq] at some_version ⊢
        obtain ⟨old, old_mem, _⟩ := List.mem_map.mp some_version
        obtain ⟨current, current_mem, current_ver⟩ := shared.sound.nowVer old old_mem
        rw [nowVer_eq, ← current_ver]
        exact List.mem_map_of_mem current_mem
      · rw [vers_eq, nowVer_eq]
        exact List.mem_append_right _ (List.mem_singleton_self _)
    exact List.mem_map.mp present

theorem updateMatchRankInfo_grows (svc : Svc) :
    Grows setting svc (svc.updateMatchRankInfo setting rankMembers readAt) :=
  (updateMatchRankInfo_beside svc).grows fun ver => (updateMatchRankInfo_flagged svc ver).mpr

theorem updateMatchRankInfo_shared (shared : Shared setting svc)
    (started : setting.isStartStage svc.now) (running : ¬svc.Over (setting.getCurrentVer svc.now))
    (ranked : setting.matchCfg.belong = .starmap → svc.Ranked setting rankMembers readAt) :
    Shared setting (svc.updateMatchRankInfo setting rankMembers readAt) := by
  obtain ⟨_, stored_eq, badge_eq, distributions_eq, checks_eq, _⟩ :=
    svc.getCurVerRankInfo_aside setting
  have beside : Beside svc (svc.updateMatchRankInfo setting rankMembers readAt) :=
    updateMatchRankInfo_beside svc
  have grows : Grows setting svc (svc.updateMatchRankInfo setting rankMembers readAt) :=
    updateMatchRankInfo_grows svc
  refine ⟨(updateMatchRankInfo_sound shared started ranked).grows grows, ?_, ?_, ?_, ?_, ?_, ?_⟩
  · intro data data_eq
    exact (shared.stored data (stored_eq.symm.trans data_eq)).grows grows
  · exact badge_eq.trans (shared.tally.trans beside.scores.tally.symm)
  · intro ver closed closed_eq
    rw [beside.closing] at closed_eq
    have kept := shared.closed ver closed closed_eq
    obtain ⟨version, version_mem, rfl, rows⟩ := kept.version
    refine kept.grows grows ⟨version, mem_updateMatchRankInfo_of_ne version_mem ?_, rfl, rows⟩
    rintro same
    apply running
    rw [Over, ← same, closed_eq]
    exact Option.some_ne_none _
  · intro now_le
    rw [beside.now] at now_le
    exact checks_eq.trans (shared.early now_le)
  · refine .inl ?_
    have none_yet : (svc.updateMatchRankInfo setting rankMembers readAt).rewardChecks = 0 :=
      checks_eq.trans (shared.early started.2)
    rw [none_yet]
    exact Nat.zero_le _
  · intro distribution distribution_mem
    obtain ⟨closed, closed_eq, earned⟩ :=
      shared.earned distribution (distributions_eq ▸ distribution_mem)
    exact ⟨closed, grows.closing _ _ closed_eq, earned⟩

theorem setDistribute_beside (svc : Svc) (ver checks : ℕ) (dirty : Bool) :
    Beside svc { svc with
      data := svc.data.modify ver .setDistribute, rewardChecks := checks, dirty := dirty } :=
  ⟨⟨rfl, rfl, rfl, rfl⟩, rfl, rfl, rfl⟩

theorem setDistribute_grows (svc : Svc) (ver checks : ℕ) (dirty : Bool) :
    Grows setting svc { svc with
      data := svc.data.modify ver .setDistribute, rewardChecks := checks, dirty := dirty } :=
  (setDistribute_beside svc ver checks dirty).grows fun _ flagged =>
    MatchData.flagged_setDistribute.mpr (.inl flagged)

theorem setDistribute_sound (shared : Shared setting svc) (past : svc.Over ver) :
    Sound setting svc (svc.data.modify ver .setDistribute) where
  nodup := by
    have vers_eq : (svc.data.modify ver .setDistribute).rankVersions.map RankVersion.ver =
        svc.data.rankVersions.map RankVersion.ver := MatchData.modify_vers fun _ => rfl
    rw [vers_eq]
    exact shared.sound.nodup
  ranked belong version version_mem := by
    obtain ⟨old, old_mem, rfl⟩ := MatchData.mem_modify.mp version_mem
    have ranked := shared.sound.ranked belong old old_mem
    split <;> exact ranked
  timed version version_mem := by
    obtain ⟨old, old_mem, rfl⟩ := MatchData.mem_modify.mp version_mem
    have timed := shared.sound.timed old old_mem
    split <;> exact timed
  flagged version version_mem marked := by
    obtain ⟨old, old_mem, rfl⟩ := MatchData.mem_modify.mp version_mem
    by_cases same : old.ver = ver
    · rw [if_pos same, RankVersion.setDistribute, same]
      exact past
    · rw [if_neg same] at marked ⊢
      exact shared.sound.flagged old old_mem marked
  nowVer version version_mem := by
    obtain ⟨old, old_mem, rfl⟩ := MatchData.mem_modify.mp version_mem
    obtain ⟨current, current_mem, current_ver⟩ := shared.sound.nowVer old old_mem
    refine ⟨_, MatchData.mem_modify.mpr ⟨current, current_mem, rfl⟩, ?_⟩
    split <;> exact current_ver

theorem setDistribute_shared {checks : ℕ} (shared : Shared setting svc) (past : svc.Over ver)
    (dirty : Bool) (early : svc.now ≤ setting.matchCfg.endTime → checks = 0)
    (checked : checks ≤
        (svc.data.modify ver .setDistribute).rankVersions.countP RankVersion.isDistribute ∨
      ∀ version ∈ (svc.data.modify ver .setDistribute).rankVersions,
        version.isDistribute = true) :
    Shared setting { svc with
      data := svc.data.modify ver .setDistribute, rewardChecks := checks, dirty := dirty } where
  sound := (setDistribute_sound shared past).grows (setDistribute_grows svc ver checks dirty)
  stored data stored_eq :=
    (shared.stored data stored_eq).grows (setDistribute_grows svc ver checks dirty)
  tally := shared.tally
  closed other closed closed_eq := by
    have kept := shared.closed other closed closed_eq
    obtain ⟨version, version_mem, rfl, rows⟩ := kept.version
    refine kept.grows (setDistribute_grows svc ver checks dirty)
      ⟨_, MatchData.mem_modify.mpr ⟨version, version_mem, rfl⟩, ?_, ?_⟩
    · split <;> rfl
    · split <;> exact rows
  early := early
  checked := checked
  earned := shared.earned

theorem checked_setDistribute (shared : Shared setting svc) (ver : ℕ) :
    svc.rewardChecks ≤
        (svc.data.modify ver .setDistribute).rankVersions.countP RankVersion.isDistribute ∨
      ∀ version ∈ (svc.data.modify ver .setDistribute).rankVersions,
        version.isDistribute = true := by
  rcases shared.checked with enough | all
  · refine .inl (enough.trans ?_)
    rw [MatchData.modify, List.countP_map]
    refine List.countP_mono_left fun version _ marked => ?_
    simp only [Function.comp_apply]
    split
    · rfl
    · exact marked
  · refine .inr fun version version_mem => ?_
    obtain ⟨old, old_mem, rfl⟩ := MatchData.mem_modify.mp version_mem
    have marked := all old old_mem
    split
    · rfl
    · exact marked

theorem getCanRewardVer_some {now : ℕ}
    (picked : setting.getCanRewardVer now data position = some ver) :
    ∃ version ∈ data.rankVersions, version.ver = ver ∧ version.isDistribute = false := by
  have ver_mem := List.mem_of_getElem? picked
  obtain ⟨version, version_mem, rfl⟩ := List.mem_map.mp ver_mem
  obtain ⟨version_mem, due⟩ := List.mem_filter.mp version_mem
  exact ⟨version, version_mem, rfl, by simpa using (Bool.and_eq_true_iff.mp due).1⟩

theorem getCanRewardVer_none {now : ℕ} (nothing : setting.getCanRewardVer now data position = none)
    (version_mem : version ∈ data.rankVersions) (due : setting.rewardTime version < now) :
    version.isDistribute = true := by
  have empty : setting.canRewardVers now data = [] := by
    rw [Setting.getCanRewardVer, List.getElem?_eq_none_iff] at nothing
    by_contra some_due
    have bound := Nat.mod_lt position (List.length_pos_iff.mpr some_due)
    omega
  rw [Setting.canRewardVers, List.map_eq_nil_iff, List.filter_eq_nil_iff] at empty
  simpa [due] using empty version version_mem

/-- The number of reward checks after one more. -/
def nextChecks (setting : Setting) (svc : Svc) : ℕ :=
  if setting.matchCfg.endTime < svc.now ∧
      ∀ version ∈ svc.data.rankVersions, setting.rewardTime version < svc.now then
    svc.rewardChecks + 1
  else svc.rewardChecks

theorem checkRewardTimeout_cases (svc : Svc) (position : ℕ) :
    (∃ ver, setting.getCanRewardVer svc.now svc.data position = some ver ∧
      svc.checkRewardTimeout setting position =
        ({ svc with
            data := svc.data.modify ver .setDistribute
            rewardChecks := svc.nextChecks setting },
          [.own svc.epoch (.distributeReward ver)])) ∨
    (setting.getCanRewardVer svc.now svc.data position = none ∧
      svc.checkRewardTimeout setting position =
        ({ svc with rewardChecks := svc.nextChecks setting }, [])) := by
  unfold checkRewardTimeout
  dsimp only
  split
  case h_1 nothing => exact .inr ⟨nothing, rfl⟩
  case h_2 ver picked => exact .inl ⟨ver, picked, rfl⟩

theorem nextChecks_early (shared : Shared setting svc)
    (early : svc.now ≤ setting.matchCfg.endTime) : svc.nextChecks setting = 0 := by
  rw [nextChecks, if_neg (by omega), shared.early early]

theorem nextChecks_le (svc : Svc) : svc.nextChecks setting ≤ svc.rewardChecks + 1 := by
  unfold nextChecks
  split <;> omega

theorem checkRewardTimeout_shared (shared : Shared setting svc)
    (picked : setting.getCanRewardVer svc.now svc.data position = some ver) (past : svc.Over ver) :
    Shared setting { svc with
      data := svc.data.modify ver .setDistribute
      rewardChecks := svc.nextChecks setting } := by
  obtain ⟨version, version_mem, rfl, unmarked⟩ := getCanRewardVer_some picked
  refine setDistribute_shared shared past svc.dirty (nextChecks_early shared) ?_
  rcases shared.checked with enough | all
  · refine .inl (svc.nextChecks_le.trans ?_)
    have more := MatchData.countP_setDistribute version_mem unmarked
    omega
  · exact absurd (all version version_mem) (by simp [unmarked])

theorem checkRewardTimeout_shared_none (shared : Shared setting svc)
    (nothing : setting.getCanRewardVer svc.now svc.data position = none) :
    Shared setting { svc with rewardChecks := svc.nextChecks setting } := by
  have beside : Beside svc { svc with rewardChecks := svc.nextChecks setting } :=
    ⟨⟨rfl, rfl, rfl, rfl⟩, rfl, rfl, rfl⟩
  have grows : Grows setting svc { svc with rewardChecks := svc.nextChecks setting } :=
    beside.grows fun _ flagged => flagged
  refine ⟨shared.sound.grows grows,
    fun data stored_eq => (shared.stored data stored_eq).grows grows,
    shared.tally, ?_, nextChecks_early shared, ?_, shared.earned⟩
  · intro ver closed closed_eq
    have kept := shared.closed ver closed closed_eq
    exact kept.grows grows kept.version
  · by_cases counts : setting.matchCfg.endTime < svc.now ∧
        ∀ version ∈ svc.data.rankVersions, setting.rewardTime version < svc.now
    · exact .inr fun version version_mem =>
        getCanRewardVer_none nothing version_mem (counts.2 version version_mem)
    · rw [nextChecks, if_neg counts]
      exact shared.checked

theorem distribute_shared (shared : Shared setting svc) (distribution : Distribution)
    {closed : Closing} (closed_eq : svc.closing distribution.ver = some closed)
    (earned : distribution.rewards.EarnedBy setting closed.ranking) :
    Shared setting { svc with distributions := svc.distributions ++ [distribution] } := by
  have beside : Beside svc { svc with distributions := svc.distributions ++ [distribution] } :=
    ⟨⟨rfl, rfl, rfl, rfl⟩, rfl, rfl, rfl⟩
  have grows : Grows setting svc
      { svc with distributions := svc.distributions ++ [distribution] } :=
    beside.grows fun _ flagged => flagged
  refine ⟨shared.sound.grows grows,
    fun data stored_eq => (shared.stored data stored_eq).grows grows,
    shared.tally, ?_, shared.early, shared.checked, ?_⟩
  · intro ver other other_eq
    have kept := shared.closed ver other other_eq
    exact kept.grows grows kept.version
  · intro other other_mem
    rcases List.mem_append.mp other_mem with old | new
    · exact shared.earned other old
    · rw [List.mem_singleton.mp new]
      exact ⟨closed, closed_eq, earned⟩

end Svc

end BasWar.Matches
