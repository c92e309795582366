import BasWar.Mail.DeliveryIds

/-!
# Whose mails a player gets

The queries look for the mails of one player and for those of the system, and their answers come
back to this player.  Whatever is lost or overtaken on the way, and whatever is saved or loaded in
between, nobody gets a mail that is addressed to another player.
-/

namespace BasWar.Mails.Delivery

open Cooperative

/-- A mail of a player is addressed to this one. -/
def Mail.IsFor (mail : Mail) (pid : ℕ) : Prop :=
  mail.mailType = .ply → mail.receivePid = pid

/-- What the mail bags hold and what is on its way to them is for their players. -/
structure Private (svc : Svc) (tasks : List Task) : Prop where
  bags : ∀ pid, ∀ bag ∈ (svc.players pid).bag, ∀ mail ∈ bag.mailsDict, svc.Addressed pid mail
  stored : ∀ pid, ∀ mail ∈ (svc.players pid).stored.mailsDict, svc.Addressed pid mail
  brings : ∀ task ∈ tasks, ∀ pid mail, task.Brings pid mail → mail.IsFor pid

def privacy : Standing Svc Task where
  holds := Private
  perm perm private_before :=
    ⟨private_before.bags, private_before.stored,
      fun task task_mem => private_before.brings task (perm.mem_iff.mpr task_mem)⟩

variable {svc after : Svc} {task : Task} {tasks others next : List Task} {pid : ℕ}

theorem addressed_ply {data : Data} {id : ℕ} : svc.Addressed pid (data.mail .ply pid id) := rfl

theorem addressed_of_isFor {mail : Mail} (isFor : mail.IsFor pid)
    (canAdd : mail.mailType = .sys → mail.CanAdd (svc.players pid).createTime) :
    svc.Addressed pid mail := by
  unfold Svc.Addressed
  split
  · exact isFor ‹_›
  · exact canAdd ‹_›

theorem Private.goes (safe : Private svc others) (players : after.players = svc.players)
    (brings : ∀ task ∈ next, ∀ pid mail, task.Brings pid mail → mail.IsFor pid) :
    Private after (others ++ next) where
  bags := by simpa only [Svc.Addressed, players] using safe.bags
  stored := by simpa only [Svc.Addressed, players] using safe.stored
  brings other other_mem := by
    rcases List.mem_append.mp other_mem with old | new
    · exact safe.brings other old
    · exact brings other new

theorem Private.setPlayer (safe : Private svc tasks) {player : Player}
    (createTime : player.createTime = (svc.players pid).createTime)
    (bags : ∀ bag ∈ player.bag, ∀ mail ∈ bag.mailsDict, svc.Addressed pid mail)
    (stored : ∀ mail ∈ player.stored.mailsDict, svc.Addressed pid mail) :
    Private (svc.setPlayer pid player) tasks := by
  have addressed (other : ℕ) (mail : Mail) :
      (svc.setPlayer pid player).Addressed other mail ↔ svc.Addressed other mail := by
    by_cases same : other = pid
    · subst same
      simp [Svc.Addressed, Svc.setPlayer, createTime]
    · simp [Svc.Addressed, Svc.setPlayer, same]
  refine ⟨fun other bag bag_mem mail mail_mem => ?_, fun other mail mail_mem => ?_, safe.brings⟩
  all_goals
    rw [addressed]
    by_cases same : other = pid
    · subst same
      simp only [Svc.setPlayer, Function.update_self] at *
      first
        | exact bags bag bag_mem mail mail_mem
        | exact stored mail mail_mem
    · simp only [Svc.setPlayer, Function.update_of_ne same] at *
      first
        | exact safe.bags other bag bag_mem mail mail_mem
        | exact safe.stored other mail mail_mem

theorem addMyMails_addressed (mails : List Mail) {bag : Bag}
    (bags : ∀ mail ∈ bag.mailsDict, svc.Addressed pid mail)
    (isFor : ∀ mail ∈ mails, mail.IsFor pid) :
    ∀ mail ∈ (bag.addMyMails (svc.players pid).createTime mails).mailsDict,
      svc.Addressed pid mail := by
  unfold Bag.addMyMails
  induction mails generalizing bag with
  | nil => exact bags
  | cons first rest ih =>
      refine ih (fun mail mail_mem => ?_) fun mail mail_mem =>
        isFor mail (List.mem_cons_of_mem _ mail_mem)
      have first_isFor := isFor first List.mem_cons_self
      unfold Bag.addMyMail at mail_mem
      split at mail_mem
      · exact bags mail mail_mem
      · cases mailType_eq : first.mailType <;> simp only [mailType_eq] at mail_mem
        · split at mail_mem
          next canAdd =>
            rcases List.mem_append.mp mail_mem with old | new
            · exact bags mail old
            · rw [List.mem_singleton.mp new]
              exact addressed_of_isFor first_isFor fun _ => canAdd
          next => exact bags mail mail_mem
        · rcases List.mem_append.mp mail_mem with old | new
          · exact bags mail old
          · rw [List.mem_singleton.mp new]
            exact addressed_of_isFor first_isFor fun sys => by simp [mailType_eq] at sys

theorem brings_nothing (mails : ∀ task ∈ next, task.mails = []) :
    ∀ task ∈ next, ∀ pid mail, task.Brings pid mail → mail.IsFor pid := by
  rintro task task_mem pid mail ⟨-, mail_mem⟩
  simp [mails task task_mem] at mail_mem

theorem Private.accept (safe : Private svc others) (request : Request) :
    Private (svc.accept request).1 (others ++ (svc.accept request).2) := by
  have silent : Private svc (others ++ []) := by rwa [List.append_nil]
  have started (next : Task) (mails : next.mails = []) : Private svc (others ++ [next]) :=
    safe.goes rfl (brings_nothing (List.forall_mem_singleton.mpr mails))
  cases request with
  | tick | cleanUpMailsFromCache => exact ⟨silent.bags, silent.stored, silent.brings⟩
  | gmSendMail | cleanUpMailsFromDB | localAddMyMail => exact started _ rfl
  | load pid =>
      exact silent.setPlayer rfl (by simpa [Bag.deserialize] using safe.stored pid)
        (safe.stored pid)
  | unload pid => exact silent.setPlayer rfl (by simp) (safe.stored pid)
  | onlogout pid => exact silent.setPlayer rfl (safe.bags pid) (safe.stored pid)
  | saveToDb pid =>
      refine silent.setPlayer rfl (safe.bags pid) ?_
      cases bag_eq : (svc.players pid).bag with
      | none => exact safe.stored pid
      | some bag => exact safe.bags pid bag bag_eq
  | delMails pid ids =>
      refine silent.setPlayer rfl (fun bag bag_mem mail mail_mem => ?_) (safe.stored pid)
      obtain ⟨old, old_mem, rfl⟩ := Option.map_eq_some_iff.mp bag_mem
      exact safe.bags pid old old_mem mail (List.mem_filter.mp mail_mem).1
  | onlogin pid =>
      unfold Svc.accept
      dsimp only
      split
      · exact silent
      · next bag bag_eq =>
          refine Private.setPlayer ?_ rfl (by simpa [bag_eq] using safe.bags pid bag)
            (safe.stored pid)
          exact safe.goes rfl (brings_nothing (by simp [Task.mails]))

theorem newMailsNotice_mails (pid : ℕ) : ∀ task ∈ svc.newMailsNotice pid, task.mails = [] := by
  unfold Svc.newMailsNotice
  split
  · split <;> simp [Task.mails]
  · simp

theorem Private.resume (safe : Private svc (task :: others)) (holds : idPool.Holds ⟨svc, others⟩)
    (reply : Reply) :
    Private (svc.resume task reply).1 (others ++ (svc.resume task reply).2) := by
  have rest : Private svc others := ⟨safe.bags, safe.stored, fun other other_mem =>
    safe.brings other (List.mem_cons_of_mem _ other_mem)⟩
  have silent : Private svc (others ++ []) := by rwa [List.append_nil]
  have brought := safe.brings task List.mem_cons_self
  by_cases goes : Goes task reply
  swap
  · obtain ⟨-, resume_eq⟩ | resume_eq := svc.resume_rests goes
    · rwa [resume_eq]
    · rw [resume_eq]
      exact rest.goes rfl (List.forall_mem_singleton.mpr brought)
  cases goes with
  | getPlayerMails query =>
      refine rest.goes rfl (List.forall_mem_singleton.mpr ?_)
      rintro _ mail ⟨rfl, mail_mem⟩ -
      exact (findMailsFromCache_mem mail_mem).2.1
  | findPlymail query mailDict =>
      refine rest.goes rfl (List.forall_mem_singleton.mpr ?_)
      rintro _ mail ⟨rfl, mail_mem⟩
      obtain cached | ⟨-, receivePid, -⟩ := getPlyMails_mem mail_mem
      · exact brought _ mail ⟨rfl, cached⟩
      · exact fun _ => receivePid
  | plymail query mailDict =>
      unfold Svc.resume
      dsimp only
      split <;> exact rest.goes rfl (List.forall_mem_singleton.mpr brought)
  | findSysmail query now mailDict =>
      refine rest.goes rfl (List.forall_mem_singleton.mpr ?_)
      rintro _ mail ⟨rfl, mail_mem⟩
      obtain old | found := List.mem_append.mp mail_mem
      · exact brought _ mail ⟨rfl, old⟩
      · have sys := (holds.shared.sysmail mail (getSysMails_mem found).1).2
        exact fun ply => by simp [sys] at ply
  | addPlayerMails pid mailDict =>
      unfold Svc.resume Svc.addPlayerMails
      dsimp only
      split
      · next bag bag_eq =>
          split
          · have added : Private (svc.setPlayer pid { svc.players pid with
                bag := some (bag.addMyMails (svc.players pid).createTime mailDict) }) others := by
              refine rest.setPlayer rfl ?_ (safe.stored pid)
              rintro _ ⟨⟩
              exact addMyMails_addressed mailDict (safe.bags pid bag bag_eq) fun mail mail_mem =>
                brought pid mail ⟨rfl, mail_mem⟩
            refine added.goes rfl (brings_nothing ?_)
            split <;> simp [Task.mails]
          · exact silent
      · exact silent
  | localMailId pid loads id mailData =>
      unfold Svc.resume
      dsimp only
      split
      · refine silent.setPlayer rfl (fun bag bag_mem mail mail_mem => ?_) (safe.stored pid)
        obtain ⟨old, old_mem, rfl⟩ := Option.map_eq_some_iff.mp bag_mem
        obtain old_mail | new := List.mem_append.mp mail_mem
        · exact safe.bags pid old old_mem mail old_mail
        · rw [List.mem_singleton.mp new]
          exact addressed_ply
      · exact silent
  | fails creates =>
      rw [svc.resume_fails creates]
      exact ⟨silent.bags, silent.stored, silent.brings⟩
  | gmSendMail mailData toPidList =>
      unfold Svc.resume
      dsimp only
      split
      · exact rest.goes rfl (brings_nothing (List.forall_mem_singleton.mpr rfl))
      · refine rest.goes rfl (brings_nothing ?_)
        cases toPidList <;> exact List.forall_mem_singleton.mpr rfl
  | plyMailId id data pid toPidList mailDict =>
      cases toPidList <;>
        exact rest.goes rfl (brings_nothing (List.forall_mem_singleton.mpr rfl))
  | saveMails unsaved mailDict position =>
      refine rest.goes rfl (brings_nothing ?_)
      unfold Svc.resume Svc.saveNext
      dsimp only
      split <;> simp [Task.mails]
  | newMailsNotice pid => exact rest.goes rfl (brings_nothing (newMailsNotice_mails pid))
  | broadcastSysMail pidList =>
      refine rest.goes rfl (brings_nothing fun next next_mem => ?_)
      obtain rfl | next_mem := List.mem_cons.mp next_mem
      · rfl
      · obtain ⟨pid, -, next_mem⟩ := List.mem_flatMap.mp next_mem
        exact newMailsNotice_mails pid next next_mem
  | delPlayerMails _ _ ids | deleteSysmail _ ids =>
      refine rest.goes rfl (brings_nothing ?_)
      unfold Svc.resume
      dsimp only
      split <;> simp [Task.mails]
  | getOpCfg pid isCheck =>
      refine rest.goes rfl (brings_nothing ?_)
      cases isCheck <;> simp [Svc.resume, Task.mails]
  | sysMailId | updateSysmail | broadcastEnds | sysmailDeleted =>
      exact rest.goes rfl (brings_nothing (by simp [Svc.resume, Task.mails]))
  | _ => exact rest.goes rfl (brings_nothing (List.forall_mem_singleton.mpr rfl))

theorem privacy_kept : privacy.KeptBy idPool delivery .free where
  accept request _ _ _ safe _ := safe.accept request
  resume _ reply _ _ holds _ _ safe _ := safe.resume holds reply

/-- In whatever order requests and answers come, and whichever are lost, every mail has an id of its
own, and caches and tables hold only mails that were made, each in the place of its type. -/
theorem ids_run (now : ℕ) (createTime : ℕ → ℕ) (events : List (Event Request Reply)) :
    Kept (delivery.run (deliveryStart now createTime) events).state :=
  ((idPool_kept .free).holds_run (Guard.free_admits _ _ _) (idPool_start now createTime)).shared

/-- In whatever order requests and answers come, and whichever are lost, players get only mails that
are addressed to them. -/
theorem addressed_run (now : ℕ) (createTime : ℕ → ℕ) (events : List (Event Request Reply)) :
    Private (delivery.run (deliveryStart now createTime) events).state
      (delivery.run (deliveryStart now createTime) events).waiting := by
  refine (privacy_kept.holds_run (idPool_kept .free) (Guard.free_admits _ _ _)
    (idPool_start now createTime) ?_).2
  constructor <;> simp [deliveryStart]

end BasWar.Mails.Delivery
