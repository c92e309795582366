import BasWar.Cooperative.Pool
import Mathlib.Data.List.AList
import Mathlib.Logic.Function.Basic

/-!
# The union manager

The union service keeps the unions, the union of each player and the union of each name.  Each union
serves one request at a time, but different unions, and the founding of a new one, run side by side,
and every one of them waits for other services on the way.
-/

namespace BasWar.Unions.UnionMgr

open Cooperative

/-- `UNION_JOIN_TYPE_UNLIMIT`, `UNION_JOIN_TYPE_APPLY` and `UNION_JOIN_TYPE_NOT_ALLOW`. -/
inductive EnterType
  | unlimit | apply | notAllow
  deriving DecidableEq

/-- `UNION_JOB_PRESIDENT` -/
def jobPresident : ℕ := 9

/-- `UNION_JOB_VICEPRESIDENT` -/
def jobVicePresident : ℕ := 8

/-- `UNION_JOB_MEMBER` -/
def jobMember : ℕ := 0

/-- The column `isKickOut` of `daoPosition`. -/
def unionJobCanKickOut (unionJob : ℕ) : Bool :=
  unionJob = jobPresident || unionJob = jobVicePresident

/-- The column `memberMax` of `daoLevel`, from level 1 on. -/
def daoLevel : List ℕ :=
  [20, 25, 30, 35, 40, 45, 50]

/-- What a founder or an officer says about a union. -/
structure UnionInfo where
  unionName : String
  enterType : EnterType
  enterScore : ℕ

structure Union where
  info : UnionInfo
  unionLevel : ℕ
  members : AList fun _ : ℕ => ℕ
  applys : List ℕ
  modifyNameTime : ℕ
  dirty : Bool

namespace Union

/-- The part of `doCreate` that fills a new union. -/
def create (pid : ℕ) (info : UnionInfo) : Union where
  info := info
  unionLevel := 1
  members := AList.singleton pid jobPresident
  applys := []
  modifyNameTime := 0
  dirty := true

/-- `table.count(self.members)` -/
def memberCount (union : Union) : ℕ :=
  union.members.keys.length

def getMemberMax (union : Union) : ℕ :=
  match union.unionLevel with
  | 0 => 0
  | level + 1 => daoLevel.getD level 0

def touch (union : Union) : Union :=
  { union with dirty := true }

def setMember (pid unionJob : ℕ) (union : Union) : Union :=
  { union with members := union.members.insert pid unionJob }

def eraseMember (pid : ℕ) (union : Union) : Union :=
  { union with members := union.members.erase pid }

def setApplys (change : List ℕ → List ℕ) (union : Union) : Union :=
  { union with applys := change union.applys, dirty := true }

/-- `doModifyUnionInfo` without its first branch. -/
def setInfo (info : UnionInfo) (union : Union) : Union :=
  { union with
    info := { info with unionName := union.info.unionName }
    dirty := true }

/-- `doModifyUnionInfo` with a new name. -/
def rename (info : UnionInfo) (now : ℕ) (union : Union) : Union :=
  { union with info := info, modifyNameTime := now, dirty := true }

/-- The change of a member's job by `doEditJob`. -/
def editJob (pid unionJob : ℕ) (union : Union) : Union :=
  if pid ∈ union.members then (union.setMember pid unionJob).touch else union

/-- The change of the level by `donateDaoItem`. -/
def levelUp (union : Union) : Union :=
  if union.unionLevel < daoLevel.length then { union with unionLevel := union.unionLevel + 1 }
  else union

end Union

structure Mgr where
  unions : ℕ → Option Union
  pidToUnionId : ℕ → Option ℕ
  unionNameToUnionId : String → Option ℕ
  /-- The lock `"union_" .. unionId` is taken. -/
  locked : ℕ → Bool
  /-- The union is saved from time to time. -/
  saving : ℕ → Bool
  /-- `genUniqueId("unionId")`, which outlives the service. -/
  unionSeq : ℕ
  /-- The collection `union` of the database. -/
  docs : AList fun _ : ℕ => Union

namespace Mgr

def getUnionByUnionName (mgr : Mgr) (unionName : String) : Option Union :=
  (mgr.unionNameToUnionId unionName).bind mgr.unions

def getUnionByPlayerId (mgr : Mgr) (playerId : ℕ) : Option Union :=
  (mgr.pidToUnionId playerId).bind mgr.unions

def setPidToUnionId (pid : ℕ) (unionId : Option ℕ) (mgr : Mgr) : Mgr :=
  { mgr with pidToUnionId := Function.update mgr.pidToUnionId pid unionId }

def setUnionNameToUnionId (unionName : String) (unionId : Option ℕ) (mgr : Mgr) : Mgr :=
  { mgr with unionNameToUnionId := Function.update mgr.unionNameToUnionId unionName unionId }

def setUnion (unionId : ℕ) (union : Option Union) (mgr : Mgr) : Mgr :=
  { mgr with unions := Function.update mgr.unions unionId union }

def change (unionId : ℕ) (change : Union → Union) (mgr : Mgr) : Mgr :=
  mgr.setUnion unionId ((mgr.unions unionId).map change)

def enter (unionId pid : ℕ) (mgr : Mgr) : Mgr :=
  (mgr.change unionId fun union => (union.setMember pid jobMember).touch).setPidToUnionId pid
    (some unionId)

def leave (unionId pid : ℕ) (mgr : Mgr) : Mgr :=
  (mgr.change unionId (·.eraseMember pid)).setPidToUnionId pid none

/-- `genUnionId` -/
def nextUnionId (mgr : Mgr) : ℕ :=
  mgr.unionSeq + 1 + 100000

/-- The part of `doCreate` before its first call. -/
def doCreate (pid : ℕ) (info : UnionInfo) (mgr : Mgr) : Mgr :=
  let next := ((mgr.setUnion mgr.nextUnionId (some (.create pid info))).setPidToUnionId pid
    (some mgr.nextUnionId)).setUnionNameToUnionId info.unionName (some mgr.nextUnionId)
  { next with unionSeq := mgr.unionSeq + 1 }

end Mgr

inductive Leaver
  | quit (pid : ℕ)
  | ticked (pid : ℕ)

def Leaver.pid : Leaver → ℕ
  | .quit pid | .ticked pid => pid

inductive Op
  | joinUnion (pid playerScore : ℕ)
  | joinUnionAnswer (pid applyPid : ℕ) (agree : Bool)
  | unionClearAllApply (pid : ℕ)
  | answerUnionInvite (pid : ℕ) (agree : Bool)
  /-- At the time `now`. -/
  | modifyUnionInfo (pid : ℕ) (newInfo : UnionInfo) (now : ℕ)
  /-- An accepted edit gives this member another job. -/
  | editUnionJob (editedPid unionJob : ℕ)
  /-- A donation raises the level. -/
  | donateDaoItem
  /-- `doReturnNfts` makes `calls` calls. -/
  | quitUnion (pid calls : ℕ)
  | tickOutUnion (pid tickedPid calls : ℕ)

/-- A request that meets the lock taken has no effect here: it starts when it gets the lock. -/
inductive Request
  | createUnion (pid : ℕ) (info : UnionInfo)
  | locked (unionId : ℕ) (op : Op)
  /-- `nowsave` by the timer of the union. -/
  | save (unionId : ℕ)

inductive Task
  | genUnionId (pid : ℕ) (info : UnionInfo)
  /-- `updatePersonalGrids` for the founder. -/
  | createdGrids (unionId : ℕ)
  | selectBeginGrid (unionId : ℕ)
  | save (unionId : ℕ)
  /-- `updatePersonalGrids` for a new member. -/
  | joinedGrids (unionId : ℕ)
  | answerCheckCD (unionId applyPid : ℕ)
  | getOnlineStatus (unionId applyPid : ℕ)
  /-- `updatePersonalGrids` for a player whose application was accepted. -/
  | answeredGrids (unionId applyPid : ℕ)
  | inviteCheckCD (unionId pid : ℕ)
  /-- A call of `doReturnNfts`, with the number of those that follow. -/
  | returnNfts (unionId : ℕ) (leaver : Leaver) (calls : ℕ)
  /-- `updatePersonalGrids` for a player who leaves. -/
  | leftGrids (unionId : ℕ) (leaver : Leaver)
  | onUnionQuitSucc (unionId : ℕ)
  | dissolveUnionHandle (unionId : ℕ) (unionName : String)
  | isResDictEnough (unionId : ℕ) (newInfo : UnionInfo) (now : ℕ)
  | costResDict (unionId : ℕ) (newInfo : UnionInfo) (now : ℕ)

def Task.lock : Task → Option ℕ
  | .genUnionId .. | .createdGrids _ | .selectBeginGrid _ | .save _ => none
  | .joinedGrids unionId | .answerCheckCD unionId _ | .getOnlineStatus unionId _
  | .answeredGrids unionId _ | .inviteCheckCD unionId _ | .returnNfts unionId _ _
  | .leftGrids unionId _ | .onUnionQuitSucc unionId | .dissolveUnionHandle unionId _
  | .isResDictEnough unionId _ _ | .costResDict unionId _ _ => some unionId

/-- What a call brings back: a truth value, or nothing if it fails. -/
abbrev Reply := Option Bool

/-- The cost of a new name, if there is one, and the time between two names. -/
structure Settings where
  unionChangeNameCost : Bool
  modifyCDSec : ℕ

section Handlers

variable (unionId : ℕ) (mgr : Mgr)

def joinUnion (pid playerScore : ℕ) : Mgr × List Task :=
  if (mgr.getUnionByPlayerId pid).isSome then (mgr, [])
  else
    match mgr.unions unionId with
    | none => (mgr, [])
    | some union =>
        if union.info.enterType = .notAllow then (mgr, [])
        else if union.getMemberMax ≤ union.memberCount then (mgr, [])
        else if playerScore < union.info.enterScore then (mgr, [])
        else if union.info.enterType = .apply then
          (mgr.change unionId (·.setApplys (·.insert pid)), [])
        else (mgr.enter unionId pid, [.joinedGrids unionId])

def joinUnionAnswer (pid applyPid : ℕ) (agree : Bool) : Mgr × List Task :=
  match mgr.unions unionId with
  | none => (mgr, [])
  | some union =>
      if applyPid ∉ union.applys then (mgr, [])
      else
        match union.members.lookup pid with
        | none => (mgr, [])
        | some unionJob =>
            if unionJob < jobVicePresident then (mgr, [])
            else if !agree then (mgr.change unionId (·.setApplys (·.erase applyPid)), [])
            else if (mgr.getUnionByPlayerId applyPid).isSome then
              (mgr.change unionId (·.setApplys (·.erase applyPid)), [])
            else if union.getMemberMax ≤ union.memberCount then (mgr, [])
            else (mgr, [.answerCheckCD unionId applyPid])

def unionClearAllApply (pid : ℕ) : Mgr × List Task :=
  match (mgr.unions unionId).bind (·.members.lookup pid) with
  | none => (mgr, [])
  | some unionJob =>
      if unionJob < jobVicePresident then (mgr, [])
      else (mgr.change unionId (·.setApplys fun _ => []), [])

def answerUnionInvite (pid : ℕ) (agree : Bool) : Mgr × List Task :=
  match mgr.unions unionId with
  | none => (mgr, [])
  | some _ =>
      if (mgr.getUnionByPlayerId pid).isSome then (mgr, [])
      else if !agree then (mgr, [])
      else (mgr, [.inviteCheckCD unionId pid])

def modifyUnionInfo (settings : Settings) (pid : ℕ) (newInfo : UnionInfo) (now : ℕ) :
    Mgr × List Task :=
  match mgr.unions unionId with
  | none => (mgr, [])
  | some union =>
      match union.members.lookup pid with
      | none => (mgr, [])
      | some unionJob =>
          if unionJob < jobVicePresident then (mgr, [])
          else if newInfo.unionName = union.info.unionName then
            (mgr.change unionId (·.setInfo newInfo), [])
          else if 0 < union.modifyNameTime ∧ now < union.modifyNameTime + settings.modifyCDSec then
            (mgr, [])
          else if settings.unionChangeNameCost then (mgr, [.isResDictEnough unionId newInfo now])
          else (mgr.change unionId (·.rename newInfo now), [])

/-- `doReturnNfts` and the call after it. -/
def returnNfts (leaver : Leaver) : ℕ → List Task
  | 0 => [.leftGrids unionId leaver]
  | calls + 1 => [.returnNfts unionId leaver calls]

/-- The end of `quitUnion`: a union without members ends. -/
def endQuit : Mgr × List Task :=
  match mgr.unions unionId with
  | none => (mgr, [])
  | some union =>
      if union.members.keys = [] then
        ({ mgr.setUnion unionId none with saving := Function.update mgr.saving unionId false },
          [.dissolveUnionHandle unionId union.info.unionName])
      else (mgr, [])

def quitUnion (pid calls : ℕ) : Mgr × List Task :=
  match mgr.unions unionId with
  | none => (mgr, [])
  | some union =>
      match union.members.lookup pid with
      | none => endQuit unionId mgr
      | some unionJob =>
          if jobMember < unionJob ∧ unionJob < jobPresident then endQuit unionId mgr
          else if unionJob = jobPresident ∧ 1 < union.memberCount then endQuit unionId mgr
          else (mgr.change unionId (·.touch), returnNfts unionId (.quit pid) calls)

def tickOutUnion (pid tickedPid calls : ℕ) : Mgr × List Task :=
  match mgr.unions unionId with
  | none => (mgr, [])
  | some union =>
      match union.members.lookup pid, union.members.lookup tickedPid with
      | some unionJob, some tickedJob =>
          if !unionJobCanKickOut unionJob then (mgr, [])
          else if unionJob ≤ tickedJob then (mgr, [])
          else if jobMember < tickedJob then (mgr, [])
          else (mgr.change unionId (·.touch), returnNfts unionId (.ticked tickedPid) calls)
      | _, _ => (mgr, [])

def start (settings : Settings) : Op → Mgr × List Task
  | .joinUnion pid playerScore => joinUnion unionId mgr pid playerScore
  | .joinUnionAnswer pid applyPid agree => joinUnionAnswer unionId mgr pid applyPid agree
  | .unionClearAllApply pid => unionClearAllApply unionId mgr pid
  | .answerUnionInvite pid agree => answerUnionInvite unionId mgr pid agree
  | .modifyUnionInfo pid newInfo now => modifyUnionInfo unionId mgr settings pid newInfo now
  | .editUnionJob editedPid unionJob => (mgr.change unionId (·.editJob editedPid unionJob), [])
  | .donateDaoItem => (mgr.change unionId (·.levelUp), [])
  | .quitUnion pid calls => quitUnion unionId mgr pid calls
  | .tickOutUnion pid tickedPid calls => tickOutUnion unionId mgr pid tickedPid calls

/-- `nowsave` -/
def save : Mgr × List Task :=
  match mgr.unions unionId with
  | none => (mgr, [])
  | some union =>
      if mgr.saving unionId ∧ union.dirty then
        ({ mgr with docs := mgr.docs.insert unionId union }, [.save unionId])
      else (mgr, [])

/-- A handler with the lock keeps it while it is suspended. -/
def lockFor (result : Mgr × List Task) : Mgr × List Task :=
  ({ result.1 with locked := Function.update result.1.locked unionId !result.2.isEmpty }, result.2)

end Handlers

section Service

variable (settings : Settings)

def accept : Request → Mgr → Mgr × List Task
  | .createUnion pid info, mgr =>
      if (mgr.getUnionByUnionName info.unionName).isSome then (mgr, [])
      else if (mgr.getUnionByPlayerId pid).isSome then (mgr, [])
      else (mgr, [.genUnionId pid info])
  | .locked unionId op, mgr =>
      if mgr.locked unionId then (mgr, []) else lockFor unionId (start unionId mgr settings op)
  | .save unionId, mgr => save unionId mgr

/-- The next segment of a handler after an answer. -/
def proceed : Task → Bool → Mgr → Mgr × List Task
  | .genUnionId pid info, _, mgr => (mgr.doCreate pid info, [.createdGrids mgr.nextUnionId])
  | .createdGrids unionId, _, mgr => (mgr, [.selectBeginGrid unionId])
  | .selectBeginGrid unionId, _, mgr =>
      -- A union that has ended meanwhile is not dirty and is never saved again.
      match mgr.unions unionId with
      | none => (mgr, [])
      | some _ => save unionId { mgr with saving := Function.update mgr.saving unionId true }
  | .save unionId, _, mgr => (mgr.change unionId ({ · with dirty := false }), [])
  | .joinedGrids _, _, mgr => (mgr, [])
  | .answerCheckCD unionId applyPid, ret, mgr =>
      if ret then
        (mgr.change unionId (·.setMember applyPid jobMember), [.getOnlineStatus unionId applyPid])
      else (mgr, [])
  | .getOnlineStatus unionId applyPid, _, mgr =>
      (mgr.setPidToUnionId applyPid (some unionId), [.answeredGrids unionId applyPid])
  | .answeredGrids unionId applyPid, _, mgr =>
      (mgr.change unionId (·.setApplys (·.erase applyPid)), [])
  | .inviteCheckCD unionId pid, ret, mgr =>
      if ret then (mgr.enter unionId pid, [.joinedGrids unionId]) else (mgr, [])
  | .returnNfts unionId leaver calls, _, mgr => (mgr, returnNfts unionId leaver calls)
  | .leftGrids unionId (.quit pid), _, mgr => (mgr.leave unionId pid, [.onUnionQuitSucc unionId])
  | .leftGrids unionId (.ticked pid), _, mgr => (mgr.leave unionId pid, [])
  | .onUnionQuitSucc unionId, _, mgr => endQuit unionId mgr
  | .dissolveUnionHandle unionId unionName, _, mgr =>
      let next := mgr.setUnionNameToUnionId unionName none
      ({ next with docs := next.docs.erase unionId }, [])
  | .isResDictEnough unionId newInfo now, ret, mgr =>
      if ret then (mgr, [.costResDict unionId newInfo now]) else (mgr, [])
  | .costResDict unionId newInfo now, ret, mgr =>
      if ret then (mgr.change unionId (·.rename newInfo now), []) else (mgr, [])

/-- A call that fails ends its handler. -/
def answer (task : Task) (reply : Reply) (mgr : Mgr) : Mgr × List Task :=
  match reply with
  | none => (mgr, [])
  | some ret => proceed task ret mgr

def resume (task : Task) (reply : Reply) (mgr : Mgr) : Mgr × List Task :=
  match task.lock with
  | none => answer task reply mgr
  | some unionId => lockFor unionId (answer task reply mgr)

def unionService : Service Mgr Request Task Reply where
  accept := accept settings
  resume := resume

end Service

/-- `initUnions` from these documents. -/
def initUnions (unionSeq : ℕ) (docs : AList fun _ : ℕ => Union) : Mgr where
  unions unionId := (docs.lookup unionId).map ({ · with dirty := false })
  pidToUnionId := docs.entries.foldl (fun index doc =>
    doc.2.members.keys.foldl (fun index pid => Function.update index pid (some doc.1)) index)
      fun _ => none
  unionNameToUnionId := docs.entries.foldl
    (fun index doc => Function.update index doc.2.info.unionName (some doc.1)) fun _ => none
  locked _ := false
  saving unionId := (docs.lookup unionId).isSome
  unionSeq := unionSeq
  docs := docs

def unionStart (unionSeq : ℕ) (docs : AList fun _ : ℕ => Union) : Config Mgr Task :=
  ⟨initUnions unionSeq docs, []⟩

end BasWar.Unions.UnionMgr
