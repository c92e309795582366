import BasWar.Cooperative.Pool
import BasWar.Mail.PlyMail
import Mathlib.Logic.Function.Basic

/-!
# Delivery of mails

The mail service gives every mail an id from one counter.  Mails of players are cached, saved by a
coroutine of their own and announced; a mail of the system is announced and saved by another
coroutine.  A player asks for the mails beyond the largest ids that he has seen, puts the answer
into his mail bag and has the mail service delete what was addressed to him.  Every hop between the
services takes its time.
-/

namespace BasWar.Mails.Delivery

open Cooperative

/-- `MAIL_DURATION`, in hours. -/
def mailDuration : ℕ :=
  30 * 24

/-- What `gmSendMail` is given, apart from texts and attachments. -/
structure MailData where
  duration : Option ℕ
  filter : Option Filter
  sendTime : Option ℕ

structure Mail where
  id : ℕ
  mailType : MailType
  receivePid : ℕ
  /-- Hours. -/
  duration : ℕ
  filter : Filter
  sendTime : ℕ
  deriving DecidableEq

namespace Mail

/-- `cleanUpMailsFromDB` deletes the mail. -/
def Outdated (now : ℕ) (mail : Mail) : Prop :=
  mail.sendTime + mail.duration * 3600 < now
  deriving Decidable

/-- `_getSysMails` takes the mail. -/
def Lives (now : ℕ) (mail : Mail) : Prop :=
  mail.duration = 0 ∨ now < mail.sendTime + mail.duration * 3600
  deriving Decidable

/-- `canAdd` of `addMyMails`. -/
def CanAdd (createTime : ℕ) (mail : Mail) : Prop :=
  match mail.mailType, mail.filter with
  | .sys, .before => createTime < mail.sendTime
  | .sys, .after => mail.sendTime ≤ createTime
  | _, _ => True

instance (createTime : ℕ) (mail : Mail) : Decidable (mail.CanAdd createTime) := by
  unfold CanAdd
  split <;> infer_instance

end Mail

/-- An id is not beyond the last one that was seen. -/
def Seen : Option ℕ → ℕ → Prop
  | none, _ => False
  | some last, id => id ≤ last

instance : ∀ last id, Decidable (Seen last id)
  | none, _ => .isFalse id
  | some last, id => inferInstanceAs (Decidable (id ≤ last))

/-- The last id that was seen, after one more. -/
def seenTo (last : Option ℕ) (id : ℕ) : Option ℕ :=
  if Seen last id then last else some id

structure Bag where
  mailsDict : List Mail
  lastSysMailId : Option ℕ
  lastPlyMailId : Option ℕ
  deriving DecidableEq

namespace Bag

/-- The ids of `mailsDict`. -/
def ids (bag : Bag) : List ℕ :=
  bag.mailsDict.map Mail.id

/-- `deserialize` of what `serialize` wrote. -/
def deserialize (data : Bag) : Bag where
  mailsDict := data.mailsDict
  lastSysMailId := data.ids.foldl seenTo data.lastSysMailId
  lastPlyMailId := data.ids.foldl seenTo data.lastPlyMailId

/-- The turn of `addMyMails` for one mail. -/
def addMyMail (createTime : ℕ) (bag : Bag) (mail : Mail) : Bag :=
  if mail.id ∈ bag.ids then bag
  else
    match mail.mailType with
    | .sys =>
        { bag with
          lastSysMailId := seenTo bag.lastSysMailId mail.id
          mailsDict :=
            if mail.CanAdd createTime then bag.mailsDict ++ [mail] else bag.mailsDict }
    | .ply =>
        { bag with
          lastPlyMailId := seenTo bag.lastPlyMailId mail.id
          mailsDict := bag.mailsDict ++ [mail] }

def addMyMails (createTime : ℕ) (bag : Bag) (mails : List Mail) : Bag :=
  mails.foldl (addMyMail createTime) bag

/-- `delPlyMailIds` of `addMyMails`. -/
def delPlyMailIds (bag : Bag) (mails : List Mail) : List ℕ :=
  (mails.filter fun mail => mail.mailType = .ply ∧ mail.id ∉ bag.ids).map Mail.id

end Bag

structure Player where
  createTime : ℕ
  /-- The mail bag while the player is loaded. -/
  bag : Option Bag
  online : Bool
  stored : Bag
  loads : ℕ

/-- Arguments of `getPlayerMails` or `checkAndGetPlayerMails`. -/
structure Query where
  pid : ℕ
  /-- `checkAndGetPlayerMails`. -/
  check : Bool
  lastSysMailId : Option ℕ
  lastPlyMailId : Option ℕ

structure Svc where
  /-- Last id that `genMailId` gave. -/
  mailId : ℕ
  now : ℕ
  /-- The lock of `gmSendMail` is held. -/
  sending : Bool
  /-- `mailsDict` of the mail service. -/
  mailsDict : List Mail
  plymail : List Mail
  sysmail : List Mail
  players : ℕ → Player
  sent : List Mail
  /-- How often a mail entered `mailsDict` of a player. -/
  entered : ℕ → ℕ → ℕ

/-- `data` of `_addMails`. -/
structure Data where
  duration : ℕ
  filter : Filter
  sendTime : ℕ

/-- `Mail.new` and `deserialize`. -/
def Data.mail (data : Data) (mailType : MailType) (receivePid id : ℕ) : Mail where
  id := id
  mailType := mailType
  receivePid := receivePid
  duration := data.duration
  filter := data.filter
  sendTime := data.sendTime

/-- `_addMails` fills in what is missing. -/
def MailData.data (mailData : MailData) (now : ℕ) : Data where
  duration := mailData.duration.getD mailDuration
  filter := mailData.filter.getD .all
  sendTime := mailData.sendTime.getD now

inductive Task
  /-- Waits for the lock. -/
  | gmSendMail (mailData : MailData) (toPidList : List ℕ)
  /-- `genMailId` for the first of the players. -/
  | genMailId (data : Data) (toPidList : List ℕ) (mailDict : List Mail)
  | plyMailId (id : ℕ) (data : Data) (toPidList : List ℕ) (mailDict : List Mail)
  | genSysMailId (data : Data)
  | sysMailId (id : ℕ) (data : Data)
  /-- The coroutine that saves the mails of players; `save_to_db` of the service comes first. -/
  | saveMails (unsaved mailDict : List Mail)
  | updatePlymail (mail : Mail) (unsaved mailDict : List Mail)
  | updateSysmail (mail : Mail)
  | newMailsNotice (pid : ℕ)
  | broadcastSysMail
  /-- `getPlayerMails` or `checkAndGetPlayerMails` on its way. -/
  | getPlayerMails (query : Query)
  /-- `find` of the mails of the player. -/
  | findPlymail (query : Query) (mailDict : List Mail)
  | plymail (query : Query) (mailDict : List Mail)
  /-- `find` of the mails of the system, with the time before it. -/
  | findSysmail (query : Query) (now : ℕ) (mailDict : List Mail)
  | addPlayerMails (pid : ℕ) (mailDict : List Mail)
  | delPlayerMails (pid : ℕ) (delPlyMailIds : List ℕ)
  /-- `getOpCfg` of a login. -/
  | getOpCfg (pid : ℕ)
  | localGenMailId (pid loads : ℕ) (mailData : MailData)
  | localMailId (pid loads id : ℕ) (mailData : MailData)
  /-- The coroutine of `cleanUpMailsFromDB`. -/
  | findOutdatedPlymail (now : ℕ)
  | deletePlymail (ids : List ℕ) (now : ℕ)
  | findOutdatedSysmail (now : ℕ)
  | deleteSysmail (ids : List ℕ)

inductive Reply
  | deliver
  /-- The call of the saving coroutine is answered; the position picks the mail it saves next. -/
  | pick (position : ℕ)
  /-- `REDIS_MAIL_CHECK_PLY_MAIL`. -/
  | isCheck (isCheck : Bool)
  /-- The broadcast reaches one game server, with its players. -/
  | game (pidList : List ℕ)
  | raise

inductive Request
  | tick
  | gmSendMail (mailData : MailData) (toPidList : List ℕ)
  | cleanUpMailsFromCache
  | cleanUpMailsFromDB
  | load (pid : ℕ)
  | unload (pid : ℕ)
  | onlogin (pid : ℕ)
  | onlogout (pid : ℕ)
  | saveToDb (pid : ℕ)
  /-- `delMail`, `oneKeyDelMails` or `checkExpireMails`, with the mails that it finds. -/
  | delMails (pid : ℕ) (ids : List ℕ)
  | localAddMyMail (pid : ℕ) (mailData : MailData)

namespace Svc

def setPlayer (pid : ℕ) (player : Player) (svc : Svc) : Svc :=
  { svc with players := Function.update svc.players pid player }

/-- `newMailsNotice` of a player who is online. -/
def newMailsNotice (svc : Svc) (pid : ℕ) : List Task :=
  match (svc.players pid).bag with
  | some bag =>
      if (svc.players pid).online then
        [.getPlayerMails ⟨pid, false, bag.lastSysMailId, bag.lastPlyMailId⟩]
      else []
  | none => []

/-- The mails that `_findMailsFromCache` takes out of the cache. -/
def findMailsFromCache (svc : Svc) (query : Query) : List Mail :=
  match query.lastPlyMailId with
  | none => []
  | some _ =>
      svc.mailsDict.filter fun mail =>
        mail.receivePid = query.pid ∧ ¬Seen query.lastPlyMailId mail.id

/-- The rows that `_getPlyMails` finds. -/
def findPlymail (svc : Svc) (query : Query) : List Mail :=
  svc.plymail.filter fun mail =>
    mail.receivePid = query.pid ∧ ¬Seen query.lastPlyMailId mail.id

/-- The mails of `_getPlyMails`. -/
def getPlyMails (svc : Svc) (query : Query) (cacheMailDict : List Mail) : List Mail :=
  cacheMailDict ++
    (svc.findPlymail query).filter fun mail => mail.id ∉ cacheMailDict.map Mail.id

/-- The mails of `_getSysMails`. -/
def getSysMails (svc : Svc) (query : Query) (now : ℕ) : List Mail :=
  svc.sysmail.filter fun mail => ¬Seen query.lastSysMailId mail.id ∧ mail.Lives now

/-- `addMyMails` of a player who is online; other answers are lost. -/
def addPlayerMails (pid : ℕ) (mails : List Mail) (svc : Svc) : Svc × List Task :=
  match (svc.players pid).bag with
  | some bag =>
      if (svc.players pid).online then
        let added := bag.addMyMails (svc.players pid).createTime mails
        let delPlyMailIds := bag.delPlyMailIds mails
        ({ svc.setPlayer pid { svc.players pid with bag := some added } with
            entered := Function.update svc.entered pid fun id =>
              if id ∈ added.ids ∧ id ∉ bag.ids then svc.entered pid id + 1
              else svc.entered pid id },
          if delPlyMailIds = [] then [] else [.delPlayerMails pid delPlyMailIds])
      else (svc, [])
  | none => (svc, [])

def updatePlymail (mail : Mail) (svc : Svc) : Svc :=
  { svc with plymail := (svc.plymail.filter fun row => row.id ≠ mail.id) ++ [mail] }

def updateSysmail (mail : Mail) (svc : Svc) : Svc :=
  { svc with sysmail := (svc.sysmail.filter fun row => row.id ≠ mail.id) ++ [mail] }

/-- The saving coroutine goes on; `pairs` has any order.  It ends with the notices. -/
def saveNext (unsaved mailDict : List Mail) (position : ℕ) : List Task :=
  match unsaved[position % unsaved.length]? with
  | none => mailDict.map fun mail => .newMailsNotice mail.receivePid
  | some mail => [.updatePlymail mail (unsaved.erase mail) mailDict]

/-- The loop of `_createPlyMails` until its next call, or its end. -/
def createNext (data : Data) (toPidList : List ℕ) (mailDict : List Mail) (svc : Svc) :
    Svc × List Task :=
  match toPidList with
  | [] => ({ svc with sending := false }, [.saveMails mailDict mailDict])
  | _ :: _ => (svc, [.genMailId data toPidList mailDict])

def make (mail : Mail) (svc : Svc) : Svc :=
  { svc with sent := svc.sent ++ [mail] }

/-- A mail with a new id is put into the cache. -/
def createPlyMail (mail : Mail) (svc : Svc) : Svc :=
  { svc.make mail with mailsDict := svc.mailsDict ++ [mail] }

def accept (svc : Svc) (request : Request) : Svc × List Task :=
  match request with
  | .tick => ({ svc with now := svc.now + 1 }, [])
  | .gmSendMail mailData toPidList => (svc, [.gmSendMail mailData toPidList])
  | .cleanUpMailsFromCache =>
      ({ svc with
          mailsDict := svc.mailsDict.filter fun mail => ¬mail.sendTime + 3600 < svc.now }, [])
  | .cleanUpMailsFromDB => (svc, [.findOutdatedPlymail svc.now])
  | .load pid =>
      (svc.setPlayer pid
        { svc.players pid with
          bag := some (svc.players pid).stored.deserialize
          online := false
          loads := (svc.players pid).loads + 1 }, [])
  | .unload pid =>
      (svc.setPlayer pid { svc.players pid with bag := none, online := false }, [])
  | .onlogin pid =>
      match (svc.players pid).bag with
      | none => (svc, [])
      | some bag =>
          (svc.setPlayer pid { svc.players pid with online := true },
            [.getPlayerMails ⟨pid, false, bag.lastSysMailId, bag.lastPlyMailId⟩,
              .getOpCfg pid])
  | .onlogout pid => (svc.setPlayer pid { svc.players pid with online := false }, [])
  | .saveToDb pid =>
      (svc.setPlayer pid
        { svc.players pid with
          stored := (svc.players pid).bag.getD (svc.players pid).stored }, [])
  | .delMails pid ids =>
      (svc.setPlayer pid
        { svc.players pid with
          bag := (svc.players pid).bag.map fun bag =>
            { bag with mailsDict := bag.mailsDict.filter fun mail => mail.id ∉ ids } }, [])
  | .localAddMyMail pid mailData =>
      (svc, [.localGenMailId pid (svc.players pid).loads mailData])

def resume (svc : Svc) (task : Task) (reply : Reply) : Svc × List Task :=
  match task, reply with
  | .gmSendMail mailData toPidList, .deliver =>
      if svc.sending then (svc, [.gmSendMail mailData toPidList])
      else
        ({ svc with sending := true },
          match toPidList with
          | [] => [.genSysMailId (mailData.data svc.now)]
          | _ :: _ => [.genMailId (mailData.data svc.now) toPidList []])
  | .genMailId data toPidList mailDict, .deliver =>
      ({ svc with mailId := svc.mailId + 1 },
        [.plyMailId (svc.mailId + 1) data toPidList mailDict])
  -- Without the mails made so far being saved, the lock is released.
  | .genMailId _ _ _, .raise => ({ svc with sending := false }, [])
  | .plyMailId id data (pid :: toPidList) mailDict, .deliver =>
      (svc.createPlyMail (data.mail .ply pid id)).createNext data toPidList
        (mailDict ++ [data.mail .ply pid id])
  | .plyMailId _ _ _ _, .raise => ({ svc with sending := false }, [])
  | .genSysMailId data, .deliver =>
      ({ svc with mailId := svc.mailId + 1 }, [.sysMailId (svc.mailId + 1) data])
  | .genSysMailId _, .raise => ({ svc with sending := false }, [])
  | .sysMailId id data, .deliver =>
      ({ svc.make (data.mail .sys 0 id) with sending := false },
        [.broadcastSysMail, .updateSysmail (data.mail .sys 0 id)])
  | .sysMailId _ _, .raise => ({ svc with sending := false }, [])
  | .saveMails unsaved mailDict, .pick position => (svc, saveNext unsaved mailDict position)
  | .updatePlymail mail unsaved mailDict, .deliver =>
      (svc.updatePlymail mail, [.saveMails unsaved mailDict])
  | .updateSysmail mail, .deliver => (svc.updateSysmail mail, [])
  | .newMailsNotice pid, .deliver => (svc, svc.newMailsNotice pid)
  | .broadcastSysMail, .game pidList =>
      (svc, .broadcastSysMail :: pidList.flatMap svc.newMailsNotice)
  | .broadcastSysMail, .deliver => (svc, [])
  | .getPlayerMails query, .deliver =>
      let found := svc.findMailsFromCache query
      ({ svc with mailsDict := svc.mailsDict.filter (· ∉ found) }, [.findPlymail query found])
  | .findPlymail query mailDict, .deliver =>
      (svc, [.plymail query (svc.getPlyMails query mailDict)])
  | .plymail query mailDict, .deliver =>
      (svc,
        if query.check then [.addPlayerMails query.pid mailDict]
        else [.findSysmail query svc.now mailDict])
  | .findSysmail query now mailDict, .deliver =>
      (svc, [.addPlayerMails query.pid (mailDict ++ svc.getSysMails query now)])
  | .addPlayerMails pid mailDict, .deliver => svc.addPlayerMails pid mailDict
  | .delPlayerMails pid (id :: ids), .deliver =>
      ({ svc with
          plymail := svc.plymail.filter fun mail => ¬(mail.id = id ∧ mail.receivePid = pid) },
        if ids = [] then [] else [.delPlayerMails pid ids])
  | .getOpCfg pid, .isCheck isCheck =>
      (svc, if isCheck then [.getPlayerMails ⟨pid, true, none, some 0⟩] else [])
  | .localGenMailId pid loads mailData, .deliver =>
      ({ svc with mailId := svc.mailId + 1 },
        [.localMailId pid loads (svc.mailId + 1) mailData])
  | .localMailId pid loads id mailData, .deliver =>
      (if loads = (svc.players pid).loads then
        svc.setPlayer pid
          { svc.players pid with
            bag := (svc.players pid).bag.map fun bag =>
              { bag with
                mailsDict := bag.mailsDict ++ [(mailData.data svc.now).mail .ply pid id] } }
      else svc, [])
  | .findOutdatedPlymail now, .deliver =>
      (svc, [.deletePlymail ((svc.plymail.filter (Mail.Outdated now)).map Mail.id) now])
  | .deletePlymail [] now, .deliver => (svc, [.findOutdatedSysmail now])
  | .deletePlymail (id :: ids) now, .deliver =>
      ({ svc with plymail := svc.plymail.filter fun mail => mail.id ≠ id },
        [.deletePlymail ids now])
  | .findOutdatedSysmail now, .deliver =>
      (svc, [.deleteSysmail ((svc.sysmail.filter (Mail.Outdated now)).map Mail.id)])
  | .deleteSysmail (id :: ids), .deliver =>
      ({ svc with sysmail := svc.sysmail.filter fun mail => mail.id ≠ id },
        if ids = [] then [] else [.deleteSysmail ids])
  | .deleteSysmail [], .deliver => (svc, [])
  | _, .raise => (svc, [])
  | task, _ => (svc, [task])

end Svc

/-- A task that makes mails under the lock. -/
def Task.Creates : Task → Prop
  | .genMailId _ _ _ | .plyMailId _ _ _ _ | .genSysMailId _ | .sysMailId _ _ => True
  | _ => False

inductive Goes : Task → Reply → Prop
  | gmSendMail (mailData toPidList) : Goes (.gmSendMail mailData toPidList) .deliver
  | genMailId (data toPidList mailDict) : Goes (.genMailId data toPidList mailDict) .deliver
  | plyMailId (id data pid toPidList mailDict) :
      Goes (.plyMailId id data (pid :: toPidList) mailDict) .deliver
  | genSysMailId (data) : Goes (.genSysMailId data) .deliver
  | sysMailId (id data) : Goes (.sysMailId id data) .deliver
  | fails {task} (creates : task.Creates) : Goes task .raise
  | saveMails (unsaved mailDict position) :
      Goes (.saveMails unsaved mailDict) (.pick position)
  | updatePlymail (mail unsaved mailDict) : Goes (.updatePlymail mail unsaved mailDict) .deliver
  | updateSysmail (mail) : Goes (.updateSysmail mail) .deliver
  | newMailsNotice (pid) : Goes (.newMailsNotice pid) .deliver
  | broadcastSysMail (pidList) : Goes .broadcastSysMail (.game pidList)
  | broadcastEnds : Goes .broadcastSysMail .deliver
  | getPlayerMails (query) : Goes (.getPlayerMails query) .deliver
  | findPlymail (query mailDict) : Goes (.findPlymail query mailDict) .deliver
  | plymail (query mailDict) : Goes (.plymail query mailDict) .deliver
  | findSysmail (query now mailDict) : Goes (.findSysmail query now mailDict) .deliver
  | addPlayerMails (pid mailDict) : Goes (.addPlayerMails pid mailDict) .deliver
  | delPlayerMails (pid id ids) : Goes (.delPlayerMails pid (id :: ids)) .deliver
  | getOpCfg (pid isCheck) : Goes (.getOpCfg pid) (.isCheck isCheck)
  | localGenMailId (pid loads mailData) : Goes (.localGenMailId pid loads mailData) .deliver
  | localMailId (pid loads id mailData) : Goes (.localMailId pid loads id mailData) .deliver
  | findOutdatedPlymail (now) : Goes (.findOutdatedPlymail now) .deliver
  | plymailDeleted (now) : Goes (.deletePlymail [] now) .deliver
  | deletePlymail (id ids now) : Goes (.deletePlymail (id :: ids) now) .deliver
  | findOutdatedSysmail (now) : Goes (.findOutdatedSysmail now) .deliver
  | sysmailDeleted : Goes (.deleteSysmail []) .deliver
  | deleteSysmail (id ids) : Goes (.deleteSysmail (id :: ids)) .deliver

namespace Svc

theorem resume_fails (svc : Svc) {task : Task} (creates : task.Creates) :
    svc.resume task .raise = ({ svc with sending := false }, []) := by
  cases task with
  | plyMailId _ _ toPidList => cases toPidList <;> rfl
  | genMailId | genSysMailId | sysMailId => rfl
  | _ => exact creates.elim

/-- A task that does not go on ends with a failure, or it waits as before. -/
theorem resume_rests (svc : Svc) {task : Task} {reply : Reply} (rests : ¬Goes task reply) :
    (reply = .raise ∧ svc.resume task reply = (svc, [])) ∨
      svc.resume task reply = (svc, [task]) := by
  cases task with
  | plyMailId id data toPidList mailDict =>
      cases toPidList <;> cases reply with
      | raise => exact absurd (.fails trivial) rests
      | deliver => first | exact .inr rfl | exact absurd (.plyMailId ..) rests
      | _ => exact .inr rfl
  | delPlayerMails pid ids =>
      cases ids <;> cases reply with
      | raise => exact .inl ⟨rfl, rfl⟩
      | deliver => first | exact .inr rfl | exact absurd (.delPlayerMails ..) rests
      | _ => exact .inr rfl
  | deletePlymail ids =>
      cases ids <;> cases reply with
      | deliver => exact absurd (by constructor) rests
      | raise => exact .inl ⟨rfl, rfl⟩
      | _ => exact .inr rfl
  | deleteSysmail ids =>
      cases ids <;> cases reply with
      | deliver => exact absurd (by constructor) rests
      | raise => exact .inl ⟨rfl, rfl⟩
      | _ => exact .inr rfl
  | genMailId | genSysMailId | sysMailId =>
      cases reply with
      | deliver => exact absurd (by constructor) rests
      | raise => exact absurd (.fails trivial) rests
      | _ => exact .inr rfl
  | saveMails =>
      cases reply with
      | pick => exact absurd (.saveMails ..) rests
      | raise => exact .inl ⟨rfl, rfl⟩
      | _ => exact .inr rfl
  | broadcastSysMail =>
      cases reply with
      | deliver | game => exact absurd (by constructor) rests
      | raise => exact .inl ⟨rfl, rfl⟩
      | _ => exact .inr rfl
  | getOpCfg =>
      cases reply with
      | isCheck => exact absurd (.getOpCfg ..) rests
      | raise => exact .inl ⟨rfl, rfl⟩
      | _ => exact .inr rfl
  | _ =>
      cases reply with
      | deliver => exact absurd (by constructor) rests
      | raise => exact .inl ⟨rfl, rfl⟩
      | _ => exact .inr rfl

end Svc

def delivery : Service Svc Request Task Reply where
  accept request svc := svc.accept request
  resume task reply svc := svc.resume task reply

def deliveryStart (now : ℕ) (createTime : ℕ → ℕ) : Config Svc Task where
  state :=
    { mailId := 0
      now := now
      sending := false
      mailsDict := []
      plymail := []
      sysmail := []
      players := fun pid => ⟨createTime pid, none, false, ⟨[], none, none⟩, 0⟩
      sent := []
      entered := fun _ _ => 0 }
  waiting := []

end BasWar.Mails.Delivery
