import BasWar.Mail.Delivery
import Mathlib

/-!
# Mails that are delivered once

A mail that a player is to get has entered his mail bag once, or it is beyond the last id of its
type that he has seen, or an answer with it is on its way.  Ids are seen too early when the mail
bag takes them over from other mails at a load, when an answer passes a mail that was not saved in
time, and when an answer is lost after a later one; a mail comes twice when it is deleted while an
answer with it is on its way or its row is found again.
-/

namespace BasWar.Mails.Delivery

open Cooperative

/-- The last id of a type that the mail bag has seen. -/
def Bag.last (bag : Bag) : MailType → Option ℕ
  | .sys => bag.lastSysMailId
  | .ply => bag.lastPlyMailId

namespace Svc

def current (svc : Svc) (pid : ℕ) : Bag :=
  (svc.players pid).bag.getD (svc.players pid).stored

def loaded (svc : Svc) (pid : ℕ) : Bag :=
  (svc.players pid).stored.deserialize

/-- The player is to get the mail. -/
def Addressed (svc : Svc) (pid : ℕ) (mail : Mail) : Prop :=
  match mail.mailType with
  | .ply => mail.receivePid = pid
  | .sys => mail.CanAdd (svc.players pid).createTime

instance (svc : Svc) (pid : ℕ) (mail : Mail) : Decidable (svc.Addressed pid mail) := by
  unfold Addressed
  generalize mail.mailType = mailType
  induction mailType using MailType.casesOn <;> dsimp only <;> infer_instance

/-- The player is to get the mail, which lives and has not entered his mail bag. -/
def Wanted (svc : Svc) (pid : ℕ) (mail : Mail) : Prop :=
  mail ∈ svc.sent ∧ svc.Addressed pid mail ∧ svc.entered pid mail.id = 0 ∧ mail.Lives svc.now
  deriving Decidable

/-- Nobody waits for the mail. -/
def Unneeded (svc : Svc) (mail : Mail) : Prop :=
  match mail.mailType with
  | .ply => ¬svc.Wanted mail.receivePid mail
  | .sys => ¬mail.Lives svc.now

instance (svc : Svc) (mail : Mail) : Decidable (svc.Unneeded mail) := by
  unfold Unneeded
  generalize mail.mailType = mailType
  induction mailType using MailType.casesOn <;> dsimp only <;> infer_instance

/-- What the mail service answers to a query that the player makes now. -/
def answer (svc : Svc) (pid : ℕ) : List Mail :=
  let query : Query :=
    ⟨pid, false, (svc.current pid).lastSysMailId, (svc.current pid).lastPlyMailId⟩
  svc.getPlyMails query (svc.findMailsFromCache query) ++ svc.getSysMails query svc.now

end Svc

def Query.last (query : Query) : MailType → Option ℕ
  | .sys => query.lastSysMailId
  | .ply => query.lastPlyMailId

def Query.Asks (query : Query) (mail : Mail) : Prop :=
  (mail.mailType = .sys → query.check = false) ∧ ¬Seen (query.last mail.mailType) mail.id
  deriving Decidable

/-- The mails hold one of the same type with the id of the mail or a larger one. -/
def Passed (mails : List Mail) (mail : Mail) : Prop :=
  ∃ other ∈ mails, other.mailType = mail.mailType ∧ mail.id ≤ other.id
  deriving Decidable

namespace Task

/-- The player whom a query or an answer is for. -/
def pid : Task → ℕ
  | .findPlymail query _ | .plymail query _ | .findSysmail query _ _ => query.pid
  | .getPlayerMails query => query.pid
  | .addPlayerMails pid _ => pid
  | _ => 0

def mails : Task → List Mail
  | .findPlymail _ mailDict | .plymail _ mailDict | .findSysmail _ _ mailDict => mailDict
  | .addPlayerMails _ mailDict => mailDict
  | _ => []

/-- The mails that a task brings after all of their type were looked for. -/
def answer : Task → List Mail
  | .plymail _ mailDict | .findSysmail _ _ mailDict | .addPlayerMails _ mailDict => mailDict
  | _ => []

def pending : Task → List Mail
  | .genMailId _ _ mailDict | .plyMailId _ _ _ mailDict => mailDict
  | .saveMails unsaved _ => unsaved
  | .updatePlymail mail unsaved _ => mail :: unsaved
  | .updateSysmail mail => [mail]
  | _ => []

def newMails : Task → List Mail
  | .plyMailId id data (pid :: _) _ => [data.mail .ply pid id]
  | .sysMailId id data => [data.mail .sys 0 id]
  | _ => []

def Brings (task : Task) (pid : ℕ) (mail : Mail) : Prop :=
  task.pid = pid ∧ mail ∈ task.mails
  deriving Decidable

def Passes (task : Task) (pid : ℕ) (mail : Mail) : Prop :=
  task.pid = pid ∧ Passed task.answer mail
  deriving Decidable

/-- A task will look for the mail among the rows of the mail service. -/
def Asks : Task → ℕ → Mail → Prop
  | .getPlayerMails query, pid, mail | .findPlymail query _, pid, mail =>
      query.pid = pid ∧ query.Asks mail
  | .plymail query _, pid, mail | .findSysmail query _ _, pid, mail =>
      query.pid = pid ∧ mail.mailType = .sys ∧ query.Asks mail
  | _, _, _ => False

instance (task : Task) (pid : ℕ) (mail : Mail) : Decidable (task.Asks pid mail) := by
  unfold Asks
  split <;> infer_instance

end Task

/-- An answer with the mail is on its way to the player. -/
def Brought (tasks : List Task) (pid : ℕ) (mail : Mail) : Prop :=
  ∃ task ∈ tasks, task.Brings pid mail
  deriving Decidable

namespace Svc

/-- The mail service cannot find the mail any more. -/
def Gone (svc : Svc) (tasks : List Task) (mail : Mail) : Prop :=
  mail ∉ svc.mailsDict ∧ mail ∉ svc.plymail ∧ mail ∉ svc.sysmail ∧
    ∀ task ∈ tasks, mail ∉ task.pending
  deriving Decidable

end Svc

/-- Every mail enters the mail bag of a player once: never twice; a mail that he still waits for is
not behind a last id that he has seen, unless an answer with it is on its way; and once nothing is
under way, it has entered or the next query brings it. -/
structure DeliveredOnce (config : Config Svc Task) : Prop where
  once : ∀ pid id, config.state.entered pid id ≤ 1
  not_skipped : ∀ pid mail, config.state.Wanted pid mail →
    Seen ((config.state.current pid).last mail.mailType) mail.id → Brought config.waiting pid mail
  next : config.Idle → ∀ pid, ∀ mail ∈ config.state.sent, config.state.Addressed pid mail →
    mail.Lives config.state.now →
      config.state.entered pid mail.id = 1 ∨ mail ∈ config.state.answer pid

namespace Svc

/-- What is loaded of the player is stored. -/
def IsSaved (svc : Svc) (pid : ℕ) : Prop :=
  svc.current pid = (svc.players pid).stored
  deriving Decidable

/-- An answer can be lost: another one brings its mails, or they are beyond the last ids that were
seen and no other answer passes them. -/
def Spared (svc : Svc) (task : Task) (others : List Task) : Prop :=
  ∀ mail ∈ task.mails, svc.Wanted task.pid mail → Brought others task.pid mail ∨
    (¬Seen ((svc.current task.pid).last mail.mailType) mail.id ∧
      ∀ other ∈ others, ¬other.Passes task.pid mail)
  deriving Decidable

/-- An answer passes only mails that it holds, that `found` still adds or that others bring. -/
def InOrder (svc : Svc) (pid : ℕ) (found mails : List Mail) (others : List Task) : Prop :=
  ∀ mail ∈ svc.sent, svc.Wanted pid mail → Passed mails mail →
    mail ∈ found ∨ Brought others pid mail
  deriving Decidable

/-- The ids that a load takes over pass no mail that the player waits for. -/
def LoadsInOrder (svc : Svc) (pid : ℕ) (others : List Task) : Prop :=
  (∀ mail ∈ svc.sent, svc.Wanted pid mail →
    Seen ((svc.loaded pid).last mail.mailType) mail.id → Brought others pid mail) ∧
  ∀ other ∈ others, ∀ mail ∈ other.newMails, svc.Addressed pid mail →
    ¬Seen ((svc.loaded pid).last mail.mailType) mail.id
  deriving Decidable

/-- A mail that the player deletes is on no way to him and cannot be found again. -/
def Finished (svc : Svc) (pid : ℕ) (others : List Task) (mail : Mail) : Prop :=
  ∀ other ∈ others, ¬other.Brings pid mail ∧ (other.Asks pid mail → svc.Gone others mail)
  deriving Decidable

/-- Every mail that has entered the mail bag of the player is still there, or its row is gone. -/
def Cleared (svc : Svc) (pid : ℕ) (others : List Task) : Prop :=
  ∀ mail ∈ svc.sent, mail.mailType = .ply → 0 < svc.entered pid mail.id →
    mail.id ∈ (svc.current pid).ids ∨ svc.Gone others mail
  deriving Decidable

end Svc

/-- A player is loaded and unloaded with what was saved, and a load passes no mail that he waits
for; he deletes mails that are finished.  Saves do not fail while a mail is waited for, and answers
are in order, not lost, and not asked for again before rows are cleared. -/
def orderly : Guard Svc Request Task Reply where
  onRequest request svc others :=
    match request with
    | .load pid => svc.IsSaved pid ∧ svc.LoadsInOrder pid others
    | .unload pid => svc.IsSaved pid
    | .delMails pid ids => ∀ mail ∈ svc.sent, mail.id ∈ ids →
        mail.id ∈ (svc.current pid).ids → svc.Finished pid others mail
    | _ => True
  onReply task reply svc others :=
    match task, reply with
    | .findPlymail query mailDict, .deliver =>
        svc.InOrder query.pid (mailDict ++ svc.plymail) (svc.getPlyMails query mailDict) others
    | .findSysmail query now _, .deliver =>
        svc.InOrder query.pid svc.sysmail (svc.getSysMails query now) others
    | .addPlayerMails pid mailDict, .deliver =>
        (svc.players pid).bag = none ∨ (svc.players pid).online = false →
          svc.Spared (.addPlayerMails pid mailDict) others
    | .getOpCfg pid, .isCheck true => svc.Cleared pid others
    | .deletePlymail (id :: _) _, .deliver =>
        ∀ mail ∈ svc.plymail, mail.id = id → svc.Unneeded mail
    | .deleteSysmail (id :: _), .deliver =>
        ∀ mail ∈ svc.sysmail, mail.id = id → svc.Unneeded mail
    | task, .raise => svc.Spared task others ∧ ∀ mail ∈ task.pending, svc.Unneeded mail
    | _, _ => True

instance (request svc others) : Decidable (orderly.onRequest request svc others) := by
  unfold orderly
  dsimp only
  split <;> infer_instance

instance (task reply svc others) : Decidable (orderly.onReply task reply svc others) := by
  unfold orderly
  dsimp only
  split <;> infer_instance

end BasWar.Mails.Delivery
