import BasWar.Cooperative.Pool
import BasWar.Match.Jackpot
import BasWar.Pvp.Settlement
import Mathlib.Data.List.Sort

/-!
# A match of the match service

Every second a match checks whether its notice, its start, its end or the reward time of one of
its rankings has come.  The scores are kept elsewhere: those of a star map match by the union
service, those of a PVP match in a sorted set of redis.  The match holds copies of the ranking, one
for each week, month or season, and saves itself now and then.  Every look at the configuration is
a call to the share service, and several checks may be under way at once.

Times are seconds since `STARTTIME1`.
-/

namespace BasWar.Matches

open Cooperative

open Pots (Belong)

inductive MatchType
  | week
  | month
  | season
  deriving DecidableEq

/-- `MATCH_REWARD_TYPE_DATE_TIME` and `MATCH_REWARD_TYPE_DELAY_SEC`. -/
inductive RewardType
  | dateTime
  | delaySec

structure MatchCfg where
  belong : Belong
  matchType : MatchType
  season : ℕ
  noticeTime : ℕ
  startTime : ℕ
  endTime : ℕ
  rewardType : RewardType
  rewardTime : ℕ
  delayRewardTime : ℕ
  rewardCfgId : ℕ

/-- An entry of `MatchRewardConfig`. -/
structure RewardCfg where
  cfgId : ℕ
  startRank : ℕ
  endRank : ℕ
  hyt : ℤ
  mit : ℤ
  gvgPercentage : ℚ

structure RankInfo where
  /-- The union, or the player of a PVP match. -/
  unionId : ℕ
  score : ℤ
  deriving DecidableEq

/-- An entry of `rankVersions`. -/
structure RankVersion where
  ver : ℕ
  rankMembers : List RankInfo
  rankTime : ℕ
  rewardTime : ℕ
  isDistribute : Bool
  /-- How many changes of the scores and the members `rankMembers` takes into account. -/
  readAt : ℕ
  deriving DecidableEq

/-- What `serialize` writes. -/
structure MatchData where
  isNotice : Bool
  isStart : Bool
  isEnd : Bool
  startVer : ℕ
  nowVer : ℕ
  members : List ℕ
  rankVersions : List RankVersion

/-- What is handed to the union service for one union. -/
structure RewardInfo where
  unionId : ℕ
  rank : ℕ
  hyt : ℤ
  mit : ℤ
  deriving DecidableEq

/-- What a match finds configured. -/
structure Setting where
  matchCfg : MatchCfg
  matchRewardConfig : List RewardCfg
  /-- The months since `STARTTIME1`, by the calendar of the server. -/
  monthno : ℕ → ℕ

namespace Setting

def weekno (now : ℕ) : ℕ :=
  now / (7 * 24 * 3600) + 1

def getTimeVersion (setting : Setting) (vtime : ℕ) : ℕ :=
  match setting.matchCfg.matchType with
  | .week => weekno vtime
  | .month => setting.monthno vtime
  | .season => setting.matchCfg.season

def getCurrentVer (setting : Setting) (now : ℕ) : ℕ :=
  setting.getTimeVersion
    (if now < setting.matchCfg.startTime then setting.matchCfg.startTime
    else if setting.matchCfg.endTime < now then setting.matchCfg.endTime
    else now)

def getStartVer (setting : Setting) : ℕ :=
  setting.getTimeVersion setting.matchCfg.startTime

def isNoticeStage (setting : Setting) (now : ℕ) : Prop :=
  setting.matchCfg.noticeTime ≤ now ∧ now ≤ setting.matchCfg.startTime
  deriving Decidable

def isStartStage (setting : Setting) (now : ℕ) : Prop :=
  setting.matchCfg.startTime ≤ now ∧ now ≤ setting.matchCfg.endTime
  deriving Decidable

/-- The reward time of `getCanRewardVer`. -/
def rewardTime (setting : Setting) (version : RankVersion) : ℕ :=
  match setting.matchCfg.rewardType with
  | .dateTime => setting.matchCfg.rewardTime
  | .delaySec =>
      if version.rewardTime = 0 then setting.matchCfg.endTime + setting.matchCfg.delayRewardTime
      else version.rewardTime

/-- The versions of which `getCanRewardVer` returns one. -/
def canRewardVers (setting : Setting) (now : ℕ) (data : MatchData) : List ℕ :=
  (data.rankVersions.filter fun version =>
    !version.isDistribute && decide (setting.rewardTime version < now)).map RankVersion.ver

/-- The version that `getCanRewardVer` comes to first; its table has any order. -/
def getCanRewardVer (setting : Setting) (now : ℕ) (data : MatchData) (position : ℕ) : Option ℕ :=
  (setting.canRewardVers now data)[position % (setting.canRewardVers now data).length]?

def getRewardByRank (setting : Setting) (rank : ℕ) : Option RewardCfg :=
  (setting.matchRewardConfig.filter fun cfg => cfg.cfgId = setting.matchCfg.rewardCfgId).find?
    fun cfg => cfg.startRank ≤ rank ∧ rank ≤ cfg.endRank

/-- The reward of one union, its rank counted from 1. -/
def rewardInfo (setting : Setting) (carboxyl : ℤ) (shareRatio : ℚ) (row : RankInfo × ℕ) :
    Option RewardInfo :=
  (setting.getRewardByRank row.2).map fun rewardCfg =>
    { unionId := row.1.unionId
      rank := row.2
      hyt := rewardCfg.hyt + ⌊carboxyl * shareRatio * rewardCfg.gvgPercentage / 10000⌋
      mit := rewardCfg.mit }

/-- `rewardInfos` of a whole ranking. -/
def rewardInfos (setting : Setting) (carboxyl : ℤ) (shareRatio : ℚ)
    (rankMembers : List RankInfo) : List RewardInfo :=
  (rankMembers.zipIdx 1).filterMap (setting.rewardInfo carboxyl shareRatio)

end Setting

/-- Order of `getStarmapMatchRankList`: the higher score, then the lower id. -/
def starmapBefore (first second : RankInfo) : Prop :=
  if first.score = second.score then first.unionId ≤ second.unionId
  else second.score < first.score

instance : DecidableRel starmapBefore := fun first second =>
  inferInstanceAs (Decidable (if first.score = second.score then first.unionId ≤ second.unionId
    else second.score < first.score))

/-- Order of `ZREVRANGEBYSCORE`: the higher score, then the later text of the id. -/
def badgeBefore (first second : ℕ × ℤ) : Prop :=
  if first.2 = second.2 then toString second.1 ≤ toString first.1
  else second.2 < first.2

instance : DecidableRel badgeBefore := fun first second =>
  inferInstanceAs (Decidable (if first.2 = second.2 then toString second.1 ≤ toString first.1
    else second.2 < first.2))

/-- The sorted set `MatchRankBadge`. -/
@[ext]
structure BadgeRank where
  entries : List (ℕ × ℤ)
  /-- A sorted set has each member once. -/
  nodup : (entries.map Prod.fst).Nodup

namespace BadgeRank

def empty : BadgeRank :=
  ⟨[], .nil⟩

def score (badge : BadgeRank) (pid : ℕ) : ℤ :=
  ((badge.entries.find? fun entry => entry.1 = pid).map Prod.snd).getD 0

def zadd (pid : ℕ) (value : ℤ) (badge : BadgeRank) : BadgeRank where
  entries := (badge.entries.filter fun entry => entry.1 ≠ pid) ++ [(pid, value)]
  nodup := by
    have others : ((badge.entries.filter fun entry => entry.1 ≠ pid).map Prod.fst).Nodup :=
      badge.nodup.sublist (List.filter_sublist.map Prod.fst)
    rw [List.map_append, List.nodup_append]
    refine ⟨others, List.nodup_singleton _, ?_⟩
    intro first first_mem second second_mem
    obtain ⟨entry, entry_mem, rfl⟩ := List.mem_map.mp first_mem
    obtain rfl : second = pid := by simpa using second_mem
    simpa using (List.mem_filter.mp entry_mem).2

def zincrby (pid : ℕ) (change : ℤ) (badge : BadgeRank) : BadgeRank :=
  badge.zadd pid (badge.score pid + change)

def rankList (badge : BadgeRank) : List (ℕ × ℤ) :=
  badge.entries.insertionSort badgeBefore

theorem rankList_nodup (badge : BadgeRank) : (badge.rankList.map Prod.fst).Nodup :=
  ((List.perm_insertionSort badgeBefore badge.entries).map Prod.fst).nodup_iff.mpr badge.nodup

end BadgeRank

/-- The ranking of a version when its time was over. -/
structure Closing where
  ranking : List RankInfo
  /-- Number of changes of the scores and the members until then. -/
  accepted : ℕ

inductive Rewards
  | starmap (carboxyl : ℤ) (shareRatio : ℚ) (rewardInfos : List RewardInfo)
  | pvp (ranking : Pvp.Ranking) (matchData : Pvp.MatchData)
      (rewards : List (ℕ × Pvp.Reward))

structure Distribution where
  ver : ℕ
  rewards : Rewards

/-- A match, what is stored of it, and the scores. -/
structure Svc where
  data : MatchData
  dirty : Bool
  stored : Option MatchData
  now : ℕ
  /-- Number of restarts of the match service. -/
  epoch : ℕ
  unionScore : ℕ → Option ℤ
  personScore : ℕ → ℤ
  badge : BadgeRank
  /-- `badge` without the deletions that came after the start. -/
  tally : BadgeRank
  /-- Number of changes of the scores and the members. -/
  accepted : ℕ
  closing : ℕ → Option Closing
  distributions : List Distribution
  /-- Reward checks that were made when the reward time of every version had come. -/
  rewardChecks : ℕ

/-- A ranking that the union service is putting together. -/
structure Reading where
  /-- The restarts known to a caller who waits for the ranking. -/
  caller : Option ℕ
  unread : List ℕ
  rankMembers : List RankInfo
  readAt : ℕ

/-- Where a handler of the match waits.  Calls between which it touches nothing are one. -/
inductive Thread
  | checkNoticeTimeout
  | delRank
  | onNoticeTimeout
  | checkStartTimeout
  | checkEndTimeout
  | getPvpRankMembers (fromEnd : Bool)
  | updateMatchRankInfo (fromEnd : Bool) (rankMembers : List RankInfo) (readAt : ℕ)
  | getCurVerRankInfo (fromEnd : Bool) (rankMembers : List RankInfo) (readAt : ℕ)
  | checkRewardTimeout
  /-- The calls before the ranking is looked at. -/
  | distributeReward (ver : ℕ)
  | getRewardByRank (ver : ℕ) (carboxyl : ℤ) (shareRatio : ℚ) (unranked : List (RankInfo × ℕ))
      (rewardInfos : List RewardInfo)
  /-- The rewards are handed out, and the answer is on its way. -/
  | distributed (ver : ℕ)
  | matchSeasonEndHandle
  | onMinute
  | isNoticeStage (id : ℕ)
  | isStartStage (id : ℕ)
  /-- The answer of `update`. -/
  | updated

inductive Task
  /-- A handler of the match, with the restarts that it knows of. -/
  | own (epoch : ℕ) (thread : Thread)
  /-- `update` of the document on its way to the database. -/
  | update (epoch : ℕ) (data : MatchData)
  /-- `del` of the sorted set on its way to redis. -/
  | del
  /-- `getStarmapMatchRankList` or `onMatchRankUpdate` on its way to the union service. -/
  | getStarmapMatchRankList (reading : Reading)
  | getPersonalGridScore (reading : Reading) (unionId : ℕ) (unionScore : ℤ)
  /-- The answer of `getPersonalGridScore`. -/
  | personScore (reading : Reading) (unionId : ℕ) (unionScore personScore : ℤ)
  /-- `updateMatchRankInfo` on its way to the match service. -/
  | sendRankInfo (rankMembers : List RankInfo) (readAt : ℕ)
  | distributeMatchReward (epoch ver : ℕ) (carboxyl : ℤ) (shareRatio : ℚ)
      (rewardInfos : List RewardInfo)
  | getPvpMatchSettlement (epoch ver : ℕ) (matchData : Pvp.MatchData)

inductive Reply
  | deliver
  /-- The configuration has no entry for the match. -/
  | missing
  /-- The configuration arrives at a reward check; the position picks one of the versions. -/
  | pick (position : ℕ)
  /-- `getPvpRankMembers` answers. -/
  | rankMembers (rankMembers : List RankInfo)
  /-- The pot and the share are answered. -/
  | opCfg (jackpot : Jackpot) (shareRatio : ℚ)
  /-- The script runs, with what it finds beside the sorted set. -/
  | settle (jackpot : Jackpot) (shareRatio : ℚ) (stageRatio : List Pvp.StageRatio)
      (rankMitCfg : List Pvp.RankMit)
  | raise

inductive Request
  | tick
  | onSecond
  | onMinute
  | joinMatch (id : ℕ)
  | save
  | restart
  /-- `syncPvpMatchBadgeInfo` reaches redis. -/
  | zadd (pid : ℕ) (badge : ℤ)
  /-- `increPvpMatchBadgeInfo` reaches redis. -/
  | zincrby (pid : ℕ) (badge : ℤ)
  /-- The score of a union changes, or the union is founded or dissolved. -/
  | unionScore (unionId : ℕ) (score : Option ℤ)
  | personScore (unionId : ℕ) (score : ℤ)

namespace MatchData

/-- `rankVersions[ver]`. -/
def version? (data : MatchData) (ver : ℕ) : Option RankVersion :=
  data.rankVersions.find? fun version => version.ver = ver

def modify (ver : ℕ) (change : RankVersion → RankVersion) (data : MatchData) : MatchData :=
  { data with
    rankVersions := data.rankVersions.map fun version =>
      if version.ver = ver then change version else version }

def new (setting : Setting) : MatchData where
  isNotice := false
  isStart := false
  isEnd := false
  startVer := setting.getStartVer
  nowVer := setting.getStartVer
  members := []
  rankVersions := []

end MatchData

namespace RankVersion

def setDistribute (version : RankVersion) : RankVersion :=
  { version with isDistribute := true }

def setRank (rankMembers : List RankInfo) (rankTime readAt : ℕ) (version : RankVersion) :
    RankVersion :=
  { version with rankMembers := rankMembers, rankTime := rankTime, readAt := readAt }

end RankVersion

namespace Svc

variable (setting : Setting)

/-- The row of a union, if it is ranked. -/
def rankInfo? (svc : Svc) (unionId : ℕ) : Option RankInfo :=
  (svc.unionScore unionId).bind fun unionScore =>
    if 0 < unionScore + svc.personScore unionId then
      some ⟨unionId, unionScore + svc.personScore unionId⟩
    else none

def ranking (svc : Svc) : List RankInfo :=
  match setting.matchCfg.belong with
  | .starmap => (svc.data.members.filterMap svc.rankInfo?).insertionSort starmapBefore
  | .pvp => svc.tally.rankList.map fun entry => ⟨entry.1, entry.2⟩

/-- A second goes by, and the version of the last one may be over. -/
def tick (svc : Svc) : Svc :=
  { svc with
    now := svc.now + 1
    closing :=
      if setting.isStartStage svc.now ∧
          (svc.now = setting.matchCfg.endTime ∨
            setting.getCurrentVer (svc.now + 1) ≠ setting.getCurrentVer svc.now) ∧
          svc.closing (setting.getCurrentVer svc.now) = none then
        Function.update svc.closing (setting.getCurrentVer svc.now)
          (some ⟨svc.ranking setting, svc.accepted⟩)
      else svc.closing }

/-- The match service starts, and every handler that waits is gone. -/
def restart (svc : Svc) : Svc × List Task :=
  match svc.stored with
  | some data => ({ svc with data := data, dirty := false, epoch := svc.epoch + 1 }, [])
  | none =>
      ({ svc with data := .new setting, dirty := true, epoch := svc.epoch + 1 },
        [.update (svc.epoch + 1) (.new setting)])

/-- The part of `joinMatch` after its stage was found right. -/
def joinMatch (id : ℕ) (svc : Svc) : Svc :=
  if id ∈ svc.data.members then svc
  else
    { svc with
      data := { svc.data with members := svc.data.members ++ [id] }
      dirty := true
      accepted := svc.accepted + 1 }

/-- What the union service does until its next call, or when it has read all unions. -/
def readNext (svc : Svc) (reading : Reading) : List ℕ → List Task
  | [] =>
      let rankMembers := reading.rankMembers.insertionSort starmapBefore
      match reading.caller with
      | some epoch => [.own epoch (.updateMatchRankInfo true rankMembers reading.readAt)]
      | none => if rankMembers = [] then [] else [.sendRankInfo rankMembers reading.readAt]
  | unionId :: unread =>
      match svc.unionScore unionId with
      | none => svc.readNext reading unread
      | some unionScore =>
          [.getPersonalGridScore { reading with unread := unread } unionId unionScore]

/-- The union service goes on with the personal score of a union. -/
def readPerson (svc : Svc) (reading : Reading) (unionId : ℕ) (unionScore personScore : ℤ) :
    List Task :=
  svc.readNext
    (if 0 < unionScore + personScore then
      { reading with rankMembers := reading.rankMembers ++ [⟨unionId, unionScore + personScore⟩] }
    else reading)
    reading.unread

/-- The version for the current time, which may be new. -/
def getCurVerRankInfo (svc : Svc) : Svc :=
  match svc.data.version? (setting.getCurrentVer svc.now) with
  | some _ => svc
  | none =>
      { svc with
        dirty := true
        data :=
          { svc.data with
            nowVer := setting.getCurrentVer svc.now
            rankVersions := svc.data.rankVersions ++
              [{  ver := setting.getCurrentVer svc.now
                  rankMembers := []
                  rankTime := 0
                  rewardTime := 0
                  isDistribute := false
                  readAt := 0 }] } }

/-- The last part of `updateMatchRankInfo`. -/
def updateMatchRankInfo (rankMembers : List RankInfo) (readAt : ℕ) (svc : Svc) : Svc :=
  let found := svc.getCurVerRankInfo setting
  { found with
    dirty := true
    data := found.data.modify (setting.getCurrentVer svc.now)
      (.setRank rankMembers svc.now readAt) }

/-- What follows `updateMatchRankInfo` in `onEndTimeout` and `checkEndTimeout`. -/
def afterUpdate (fromEnd : Bool) (svc : Svc) : Svc × List Task :=
  if fromEnd then ({ svc with dirty := true }, [.own svc.epoch .checkRewardTimeout])
  else (svc, [])

/-- The part of `checkRewardTimeout` before its first call. -/
def checkRewardTimeout (position : ℕ) (svc : Svc) : Svc × List Task :=
  let checked :=
    { svc with
      rewardChecks :=
        if setting.matchCfg.endTime < svc.now ∧
            ∀ version ∈ svc.data.rankVersions, setting.rewardTime version < svc.now then
          svc.rewardChecks + 1
        else svc.rewardChecks }
  match setting.getCanRewardVer svc.now svc.data position with
  | none => (checked, [])
  | some ver =>
      ({ checked with data := svc.data.modify ver .setDistribute },
        [.own svc.epoch (.distributeReward ver)])

/-- The loop over the rows of a ranking, until its next call. -/
def rewardNext (svc : Svc) (ver : ℕ) (carboxyl : ℤ) (shareRatio : ℚ)
    (unranked : List (RankInfo × ℕ)) (rewardInfos : List RewardInfo) : List Task :=
  match unranked with
  | [] => [.distributeMatchReward svc.epoch ver carboxyl shareRatio rewardInfos]
  | _ :: _ => [.own svc.epoch (.getRewardByRank ver carboxyl shareRatio unranked rewardInfos)]

/-- `onDistributeReward` of a PVP match until its call; without the current version it raises. -/
def onDistributeRewardPvp (svc : Svc) (ver : ℕ) : List Task :=
  match svc.data.version? svc.data.nowVer with
  | none => []
  | some rankInfo =>
      [.getPvpMatchSettlement svc.epoch ver
        ⟨svc.data.nowVer, rankInfo.rankTime, rankInfo.rewardTime⟩]

/-- `onDistributeReward` of a star map match, from the pot to the rows of the ranking. -/
def onDistributeReward (svc : Svc) (ver : ℕ) (jackpot : Jackpot) (shareRatio : ℚ) : List Task :=
  let season := setting.matchCfg.matchType = .season
  svc.rewardNext ver (if season then jackpot.carboxyl else 0) (if season then shareRatio else 0)
    ((((svc.data.version? ver).map RankVersion.rankMembers).getD []).zipIdx 1) []

/-- The ranking that the settlement script finds. -/
def settled (svc : Svc) (jackpot : Jackpot) (shareRatio : ℚ) (stageRatio : List Pvp.StageRatio)
    (rankMitCfg : List Pvp.RankMit) : Pvp.Ranking where
  rankList := svc.badge.rankList
  nodup := svc.badge.rankList_nodup
  jackpot := jackpot
  shareRatio := shareRatio
  stageRatio := stageRatio
  rankMitCfg := rankMitCfg

def accept (request : Request) (svc : Svc) : Svc × List Task :=
  match request with
  | .tick => (svc.tick setting, [])
  | .onSecond => (svc, [.own svc.epoch .checkNoticeTimeout])
  | .onMinute => (svc, [.own svc.epoch .onMinute])
  | .joinMatch id => (svc, [.own svc.epoch (.isNoticeStage id)])
  | .save => (svc, if svc.dirty then [.update svc.epoch svc.data] else [])
  | .restart => svc.restart setting
  | .zadd pid badge =>
      ({ svc with
          badge := svc.badge.zadd pid badge
          tally := svc.tally.zadd pid badge
          accepted := svc.accepted + 1 }, [])
  | .zincrby pid badge =>
      ({ svc with
          badge := svc.badge.zincrby pid badge
          tally := svc.tally.zincrby pid badge
          accepted := svc.accepted + 1 }, [])
  | .unionScore unionId score =>
      ({ svc with
          unionScore := Function.update svc.unionScore unionId score
          accepted := svc.accepted + 1 }, [])
  | .personScore unionId score =>
      ({ svc with
          personScore := Function.update svc.personScore unionId score
          accepted := svc.accepted + 1 }, [])

def resumeOwn (thread : Thread) (reply : Reply) (svc : Svc) : Svc × List Task :=
  match thread, reply with
  | .checkNoticeTimeout, .deliver =>
      if setting.isNoticeStage svc.now ∧ ¬svc.data.isNotice then
        ({ svc with data := { svc.data with isNotice := true } },
          match setting.matchCfg.belong with
          | .pvp => [.own svc.epoch .delRank]
          | .starmap => [.own svc.epoch .onNoticeTimeout])
      else (svc, [.own svc.epoch .checkStartTimeout])
  | .checkNoticeTimeout, .missing => (svc, [.own svc.epoch .checkStartTimeout])
  | .delRank, .deliver => (svc, [.del, .own svc.epoch .onNoticeTimeout])
  | .onNoticeTimeout, .deliver =>
      ({ svc with dirty := true }, [.own svc.epoch .checkStartTimeout])
  | .checkStartTimeout, .deliver =>
      if ¬svc.data.isStart ∧ setting.matchCfg.startTime ≤ svc.now then
        ({ svc with data := { svc.data with isStart := true }, dirty := true },
          [.own svc.epoch .checkEndTimeout])
      else (svc, [.own svc.epoch .checkEndTimeout])
  | .checkStartTimeout, .missing => (svc, [.own svc.epoch .checkEndTimeout])
  | .checkEndTimeout, .deliver =>
      if ¬svc.data.isEnd ∧ setting.matchCfg.endTime ≤ svc.now then
        ({ svc with data := { svc.data with isEnd := true } },
          match setting.matchCfg.belong with
          | .pvp => [.own svc.epoch (.getPvpRankMembers true)]
          | .starmap =>
              [.getStarmapMatchRankList
                ⟨some svc.epoch, svc.data.members, [], svc.accepted⟩])
      else (svc, [.own svc.epoch .checkRewardTimeout])
  | .checkEndTimeout, .missing => (svc, [.own svc.epoch .checkRewardTimeout])
  | .getPvpRankMembers fromEnd, .rankMembers rankMembers =>
      (svc, [.own svc.epoch (.updateMatchRankInfo fromEnd rankMembers svc.accepted)])
  | .updateMatchRankInfo fromEnd rankMembers readAt, .deliver =>
      if setting.isStartStage svc.now then
        (svc, [.own svc.epoch (.getCurVerRankInfo fromEnd rankMembers readAt)])
      else svc.afterUpdate fromEnd
  | .updateMatchRankInfo fromEnd _ _, .missing => svc.afterUpdate fromEnd
  | .getCurVerRankInfo fromEnd rankMembers readAt, .deliver =>
      (svc.updateMatchRankInfo setting rankMembers readAt).afterUpdate fromEnd
  | .getCurVerRankInfo fromEnd _ _, .missing => { svc with dirty := true }.afterUpdate fromEnd
  | .checkRewardTimeout, .pick position => svc.checkRewardTimeout setting position
  | .checkRewardTimeout, .missing => (svc, [])
  | .distributeReward ver, .opCfg jackpot shareRatio =>
      (svc,
        match setting.matchCfg.belong with
        | .pvp => svc.onDistributeRewardPvp ver
        | .starmap => svc.onDistributeReward setting ver jackpot shareRatio)
  -- `distributeReward` returns nothing, and what called it goes on.
  | .distributeReward _, .missing => ({ svc with dirty := true }, [])
  | .getRewardByRank ver carboxyl shareRatio (row :: unranked) rewardInfos, .deliver =>
      (svc, svc.rewardNext ver carboxyl shareRatio unranked
        (rewardInfos ++ (setting.rewardInfo carboxyl shareRatio row).toList))
  | .getRewardByRank ver carboxyl shareRatio (_ :: unranked) rewardInfos, .missing =>
      (svc, svc.rewardNext ver carboxyl shareRatio unranked rewardInfos)
  | .distributed ver, .deliver =>
      if setting.matchCfg.belong = .starmap ∧ setting.matchCfg.matchType = .season then
        ({ svc with data := svc.data.modify ver .setDistribute },
          [.own svc.epoch .matchSeasonEndHandle])
      else ({ svc with data := svc.data.modify ver .setDistribute, dirty := true }, [])
  | .matchSeasonEndHandle, .deliver => ({ svc with dirty := true }, [])
  | .onMinute, .deliver =>
      (svc,
        if setting.isStartStage svc.now then
          match setting.matchCfg.belong with
          | .pvp => [.own svc.epoch (.getPvpRankMembers false)]
          | .starmap => [.getStarmapMatchRankList ⟨none, svc.data.members, [], svc.accepted⟩]
        else [])
  | .onMinute, .missing => (svc, [])
  | .isNoticeStage id, .deliver =>
      if setting.isNoticeStage svc.now then (svc.joinMatch id, [])
      else (svc, [.own svc.epoch (.isStartStage id)])
  | .isNoticeStage id, .missing => (svc, [.own svc.epoch (.isStartStage id)])
  | .isStartStage id, .deliver =>
      (if setting.isStartStage svc.now then svc.joinMatch id else svc, [])
  | .isStartStage _, .missing => (svc, [])
  | .updated, .deliver => ({ svc with dirty := false }, [])
  | _, .raise => (svc, [])
  | thread, _ => (svc, [.own svc.epoch thread])

def resume (task : Task) (reply : Reply) (svc : Svc) : Svc × List Task :=
  match task, reply with
  | .own epoch thread, reply =>
      if epoch = svc.epoch then svc.resumeOwn setting thread reply else (svc, [])
  | .update epoch data, .deliver =>
      ({ svc with stored := some data }, [.own epoch .updated])
  | .del, .deliver =>
      ({ svc with
          badge := .empty
          tally := if svc.now < setting.matchCfg.startTime then .empty else svc.tally
          accepted := svc.accepted + 1 }, [])
  | .getStarmapMatchRankList reading, .deliver => (svc, svc.readNext reading reading.unread)
  | .getPersonalGridScore reading unionId unionScore, .deliver =>
      (svc, [.personScore reading unionId unionScore (svc.personScore unionId)])
  | .personScore reading unionId unionScore personScore, .deliver =>
      (svc, svc.readPerson reading unionId unionScore personScore)
  | .sendRankInfo rankMembers readAt, .deliver =>
      (svc, [.own svc.epoch (.updateMatchRankInfo false rankMembers readAt)])
  | .distributeMatchReward epoch ver carboxyl shareRatio rewardInfos, .deliver =>
      ({ svc with
          distributions :=
            svc.distributions ++ [⟨ver, .starmap carboxyl shareRatio rewardInfos⟩] },
        [.own epoch (.distributed ver)])
  | .getPvpMatchSettlement epoch ver matchData,
      .settle jackpot shareRatio stageRatio rankMitCfg =>
      let ranking := svc.settled jackpot shareRatio stageRatio rankMitCfg
      ({ svc with
          distributions := svc.distributions ++
            [⟨matchData.season, .pvp ranking matchData (ranking.rewards matchData)⟩] },
        [.own epoch (.distributed ver)])
  | _, .raise => (svc, [])
  | task, _ => (svc, [task])

end Svc

/-- A match with everyone who keeps a part of it. -/
def matchSvc (setting : Setting) : Service Svc Request Task Reply where
  accept := Svc.accept setting
  resume := Svc.resume setting

/-- A new match that saves itself, long before its notice. -/
def matchStart (setting : Setting) : Config Svc Task where
  state :=
    { data := .new setting
      dirty := true
      stored := none
      now := 0
      epoch := 0
      unionScore := fun _ => none
      personScore := fun _ => 0
      badge := .empty
      tally := .empty
      accepted := 0
      closing := fun _ => none
      distributions := []
      rewardChecks := 0 }
  waiting := [.update 0 (.new setting)]

end BasWar.Matches
