import Mathlib.Data.List.Nodup
import Mathlib.Data.Int.Notation

/-!
# Mails of a player

A mailbox holds the mails of a player by their ids.
-/

namespace BasWar.Mails

inductive AttachType
  /-- `MAIL_ATTACH_RES`. -/
  | res
  /-- `MAIL_ATTACH_ITEM`. -/
  | item
  /-- A type that nothing is credited for. -/
  | other
  deriving DecidableEq

structure Attach where
  type : AttachType
  cfgId : ℕ
  count : ℤ

def Attach.due (attach : Attach) : ℤ :=
  max attach.count 0

inductive MailType
  | sys
  | ply
  deriving DecidableEq

inductive Filter
  | all
  /-- `MAIL_GET_FILTER_BEFORE`. -/
  | before
  /-- `MAIL_GET_FILTER_AFTER`. -/
  | after
  deriving DecidableEq

structure PlyMail where
  id : ℕ
  mailType : MailType
  duration : ℕ
  filter : Filter
  sendTime : ℕ
  attachment : Option (List Attach)
  read : Bool
  get : Bool
  logType : Option ℕ

namespace PlyMail

def canDel (mail : PlyMail) : Bool :=
  mail.read && (mail.attachment.getD [] = [] || mail.get)

def isExpire (now : ℕ) (mail : PlyMail) : Bool :=
  mail.sendTime + mail.duration * 3600 ≤ now

def due (mail : PlyMail) (index : ℕ) : ℤ :=
  (((mail.attachment.getD [])[index]?).map Attach.due).getD 0

end PlyMail

/-- `mailsDict`, in the order of `pairs`. -/
structure Mailbox where
  mails : List PlyMail
  nodup : (mails.map PlyMail.id).Nodup

namespace Mailbox

def find (box : Mailbox) (id : ℕ) : Option PlyMail :=
  box.mails.find? fun mail => mail.id = id

/-- Change the mails that have one of the ids. -/
def modify (box : Mailbox) (ids : List ℕ) (change : PlyMail → PlyMail)
    (same_id : ∀ mail, (change mail).id = mail.id) : Mailbox where
  mails := box.mails.map fun mail => if mail.id ∈ ids then change mail else mail
  nodup := by
    have ids_eq : (box.mails.map fun mail => if mail.id ∈ ids then change mail else mail).map
        PlyMail.id = box.mails.map PlyMail.id := by
      rw [List.map_map]
      refine List.map_congr_left fun mail _ => ?_
      rw [Function.comp_apply]
      split
      · exact same_id mail
      · rfl
    rw [ids_eq]
    exact box.nodup

def setRead (box : Mailbox) (ids : List ℕ) : Mailbox :=
  box.modify ids (fun mail => { mail with read := true }) fun _ => rfl

def setGet (box : Mailbox) (id : ℕ) : Mailbox :=
  box.modify [id] (fun mail => { mail with get := true }) fun _ => rfl

def keep (box : Mailbox) (kept : PlyMail → Bool) : Mailbox where
  mails := box.mails.filter kept
  nodup := box.nodup.sublist (List.filter_sublist.map PlyMail.id)

variable {box : Mailbox} {mail : PlyMail}

theorem find_some {id : ℕ} (found : box.find id = some mail) : mail ∈ box.mails ∧ mail.id = id :=
  ⟨List.mem_of_find?_eq_some found, by simpa using List.find?_some found⟩

theorem eq_of_id {other : PlyMail} (mail_mem : mail ∈ box.mails) (other_mem : other ∈ box.mails)
    (same : mail.id = other.id) : mail = other :=
  List.inj_on_of_nodup_map box.nodup mail_mem other_mem same

theorem find_of_mem (mail_mem : mail ∈ box.mails) : box.find mail.id = some mail := by
  have some_found : (box.find mail.id).isSome := by
    rw [find, List.find?_isSome]
    exact ⟨mail, mail_mem, by simp⟩
  obtain ⟨other, found⟩ := Option.isSome_iff_exists.mp some_found
  obtain ⟨other_mem, id_eq⟩ := find_some found
  rw [found, eq_of_id other_mem mail_mem id_eq]

theorem mem_modify {ids : List ℕ} {change : PlyMail → PlyMail}
    {same_id : ∀ mail, (change mail).id = mail.id} :
    mail ∈ (box.modify ids change same_id).mails ↔
      ∃ old ∈ box.mails, (if old.id ∈ ids then change old else old) = mail := by
  simp [modify]

theorem mem_setRead {ids : List ℕ} :
    mail ∈ (box.setRead ids).mails ↔
      ∃ old ∈ box.mails, (if old.id ∈ ids then { old with read := true } else old) = mail :=
  mem_modify

theorem mem_setGet {id : ℕ} :
    mail ∈ (box.setGet id).mails ↔
      ∃ old ∈ box.mails, (if old.id = id then { old with get := true } else old) = mail := by
  simp only [setGet, mem_modify, List.mem_singleton]

theorem mem_keep {kept : PlyMail → Bool} :
    mail ∈ (box.keep kept).mails ↔ mail ∈ box.mails ∧ kept mail := by
  simp [keep]

end Mailbox

end BasWar.Mails
