import BasWar.Match.MatchBase

/-!
# The rewards of a match

A version of the ranking is marked before its rewards are handed out, and the copy that they are
worked out from is only refreshed now and then.  The rewards follow the ranking, once and only
once, as long as the last refresh of a version comes before its end, nothing fails on the way from
the mark to the union service, and no restart falls between the mark and the next save.
-/

namespace BasWar.Matches

open Cooperative

/-- The version whose rewards are on their way to be handed out. -/
def Task.pays : Task → Option ℕ
  | .own _ (.distributeReward ver) => some ver
  | .own _ (.getRewardByRank ver _ _ _ _) => some ver
  | .distributeMatchReward _ ver _ _ _ => some ver
  | .getPvpMatchSettlement _ ver _ => some ver
  | _ => none

def Rewards.EarnedBy (setting : Setting) (ranking : List RankInfo) : Rewards → Prop
  | .starmap carboxyl shareRatio rewardInfos =>
      rewardInfos = setting.rewardInfos carboxyl shareRatio ranking
  | .pvp found matchData rewards =>
      found.rankList.map (fun entry => (⟨entry.1, entry.2⟩ : RankInfo)) = ranking ∧
        rewards = found.rewards matchData

instance (setting : Setting) (ranking : List RankInfo) :
    ∀ rewards : Rewards, Decidable (rewards.EarnedBy setting ranking)
  | .starmap _ _ _ => inferInstanceAs (Decidable (_ = _))
  | .pvp _ _ _ => inferInstanceAs (Decidable (_ ∧ _))

/-- The service has run on after the reward time: it has made a reward check for each version, and
no rewards are on their way. -/
structure RunOn (config : Config Svc Task) : Prop where
  checked : 0 < config.state.rewardChecks
  enough : config.state.data.rankVersions.length ≤ config.state.rewardChecks
  quiet : ∀ task ∈ config.waiting, task.pays = none

/-- Rewards follow the rank of their own version, exactly once. -/
structure FollowsRank (setting : Setting) (config : Config Svc Task) : Prop where
  /-- No version is distributed twice. -/
  once : (config.state.distributions.map Distribution.ver).Nodup
  /-- The rewards of a version are earned by its ranking as it was when its time was over. -/
  earned : ∀ distribution ∈ config.state.distributions, ∃ closed,
    config.state.closing distribution.ver = some closed ∧
      distribution.rewards.EarnedBy setting closed.ranking
  /-- Every version that is over is distributed, if the service runs on. -/
  all : RunOn config → ∀ ver, config.state.closing ver ≠ none →
    ver ∈ config.state.distributions.map Distribution.ver

namespace Svc

def Over (svc : Svc) (ver : ℕ) : Prop :=
  svc.closing ver ≠ none
  deriving Decidable

/-- The next second ends the current version. -/
def Leaves (setting : Setting) (svc : Svc) : Prop :=
  setting.isStartStage svc.now ∧
    (svc.now = setting.matchCfg.endTime ∨
      setting.getCurrentVer (svc.now + 1) ≠ setting.getCurrentVer svc.now)
  deriving Decidable

/-- The current version has a ranking, and on the star map nothing has changed since that ranking
was asked for. -/
def UpToDate (setting : Setting) (svc : Svc) : Prop :=
  match svc.data.version? (setting.getCurrentVer svc.now) with
  | none => False
  | some version => setting.matchCfg.belong = .starmap → version.readAt = svc.accepted

instance (setting : Setting) (svc : Svc) : Decidable (svc.UpToDate setting) := by
  unfold UpToDate
  split <;> infer_instance

/-- The members and the versions that are over are stored as they are. -/
def Saved (setting : Setting) (svc : Svc) : Prop :=
  (svc.stored.getD (.new setting)).members = svc.data.members ∧
    ((svc.stored.getD (.new setting)).rankVersions.filter fun version => svc.Over version.ver) =
      svc.data.rankVersions.filter fun version => svc.Over version.ver
  deriving Decidable

end Svc

/-- A version ends with an up to date ranking, which no later one replaces; only versions that are
over are distributed, and nothing fails before their rewards are handed out; a restart finds what
is over saved and no rewards on their way.  A PVP settlement is for the version that was picked,
and finds the scores as they were at its end; the scores are deleted before the start. -/
def timely (setting : Setting) : Guard Svc Request Task Reply where
  onRequest request svc others :=
    match request with
    | .tick => svc.Leaves setting → svc.UpToDate setting
    | .restart => svc.Saved setting ∧ ∀ task ∈ others, task.pays = none
    | _ => True
  onReply task reply svc _ :=
    match task, reply with
    | .own _ (.getCurVerRankInfo _ _ _), .deliver =>
        setting.isStartStage svc.now ∧ ¬svc.Over (setting.getCurrentVer svc.now)
    | .own _ .checkRewardTimeout, .pick position =>
        ∀ ver ∈ setting.getCanRewardVer svc.now svc.data position, svc.Over ver
    | .own _ (.distributeReward _), .missing => False
    | .own _ (.distributeReward _), .raise => False
    | .own _ (.getRewardByRank _ _ _ _ _), .missing => False
    | .own _ (.getRewardByRank _ _ _ _ _), .raise => False
    | .distributeMatchReward _ _ _ _ _, .raise => False
    | .getPvpMatchSettlement _ _ _, .raise => False
    | .getPvpMatchSettlement _ ver matchData, .settle _ _ _ _ =>
        matchData.season = ver ∧ (svc.closing ver).map Closing.accepted = some svc.accepted
    | .del, .deliver => svc.now < setting.matchCfg.startTime
    | _, _ => True

instance (setting : Setting) (request svc others) :
    Decidable ((timely setting).onRequest request svc others) := by
  unfold timely
  dsimp only
  split <;> infer_instance

instance (setting : Setting) (task reply svc others) :
    Decidable ((timely setting).onReply task reply svc others) := by
  unfold timely
  dsimp only
  split <;> infer_instance

namespace MatchData

def Flagged (data : MatchData) (ver : ℕ) : Prop :=
  ∃ version ∈ data.rankVersions, version.ver = ver ∧ version.isDistribute = true
  deriving Decidable

variable {data : MatchData} {ver : ℕ} {version : RankVersion}

theorem version?_some (found : data.version? ver = some version) :
    version ∈ data.rankVersions ∧ version.ver = ver :=
  ⟨List.mem_of_find?_eq_some found, by simpa using List.find?_some found⟩

theorem version?_none (absent : data.version? ver = none)
    (version_mem : version ∈ data.rankVersions) : version.ver ≠ ver := by
  simpa using List.find?_eq_none.mp absent version version_mem

theorem version?_of_mem (nodup : (data.rankVersions.map RankVersion.ver).Nodup)
    (version_mem : version ∈ data.rankVersions) : data.version? version.ver = some version := by
  cases found : data.version? version.ver with
  | none => exact absurd rfl (version?_none found version_mem)
  | some other =>
      obtain ⟨other_mem, ver_eq⟩ := version?_some found
      rw [List.inj_on_of_nodup_map nodup other_mem version_mem ver_eq]

theorem mem_modify {change : RankVersion → RankVersion} :
    version ∈ (data.modify ver change).rankVersions ↔
      ∃ old ∈ data.rankVersions, version = if old.ver = ver then change old else old := by
  simp [modify, eq_comm]

theorem modify_vers {change : RankVersion → RankVersion}
    (keeps : ∀ version, (change version).ver = version.ver) :
    (data.modify ver change).rankVersions.map RankVersion.ver =
      data.rankVersions.map RankVersion.ver := by
  rw [modify, List.map_map]
  refine List.map_congr_left fun version _ => ?_
  by_cases same : version.ver = ver
  · simp [same, keeps]
  · simp [same]

theorem flagged_setDistribute {other : ℕ} :
    (data.modify ver .setDistribute).Flagged other ↔
      data.Flagged other ∨ (other = ver ∧ ∃ version ∈ data.rankVersions, version.ver = ver) := by
  constructor
  · rintro ⟨version, version_mem, rfl, marked⟩
    obtain ⟨old, old_mem, rfl⟩ := mem_modify.mp version_mem
    by_cases same : old.ver = ver
    · exact .inr ⟨by simp [same, RankVersion.setDistribute], old, old_mem, same⟩
    · exact .inl ⟨old, old_mem, by simp [same], by simpa [same] using marked⟩
  · rintro (⟨version, version_mem, rfl, marked⟩ | ⟨rfl, version, version_mem, rfl⟩)
    · refine ⟨_, mem_modify.mpr ⟨version, version_mem, rfl⟩, ?_⟩
      split <;> simp [RankVersion.setDistribute, marked]
    · exact ⟨_, mem_modify.mpr ⟨version, version_mem, rfl⟩, by simp [RankVersion.setDistribute]⟩

theorem flagged_setRank {other : ℕ} {rankMembers : List RankInfo} {rankTime readAt : ℕ} :
    (data.modify ver (.setRank rankMembers rankTime readAt)).Flagged other ↔
      data.Flagged other := by
  constructor
  · rintro ⟨version, version_mem, rfl, marked⟩
    obtain ⟨old, old_mem, rfl⟩ := mem_modify.mp version_mem
    by_cases same : old.ver = ver
    · exact ⟨old, old_mem, by simp [same, RankVersion.setRank],
        by simpa [same, RankVersion.setRank] using marked⟩
    · exact ⟨old, old_mem, by simp [same], by simpa [same] using marked⟩
  · rintro ⟨version, version_mem, rfl, marked⟩
    refine ⟨_, mem_modify.mpr ⟨version, version_mem, rfl⟩, ?_⟩
    split <;> simp [RankVersion.setRank, marked]

theorem countP_setDistribute (version_mem : version ∈ data.rankVersions)
    (unmarked : version.isDistribute = false) :
    data.rankVersions.countP RankVersion.isDistribute + 1 ≤
      (data.modify version.ver .setDistribute).rankVersions.countP RankVersion.isDistribute := by
  obtain ⟨before, after, split_at⟩ := List.append_of_mem version_mem
  have grows (part : List RankVersion) :
      part.countP RankVersion.isDistribute ≤
        (part.map fun entry =>
          if entry.ver = version.ver then entry.setDistribute else entry).countP
            RankVersion.isDistribute := by
    rw [List.countP_map]
    refine List.countP_mono_left fun entry _ marked => ?_
    simp only [Function.comp_apply]
    split
    · rfl
    · exact marked
  have first := grows before
  have second := grows after
  simp only [modify, split_at, List.map_append, List.map_cons, List.countP_append,
    List.countP_cons, if_true, unmarked, RankVersion.setDistribute] at first second ⊢
  simp only [Bool.false_eq_true, if_false]
  omega

end MatchData

end BasWar.Matches
