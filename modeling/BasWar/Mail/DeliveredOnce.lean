import BasWar.Mail.DeliveryBags

/-!
# Every mail is delivered once

Every orderly segment keeps the ids and the standing condition, and so does every orderly run.  A
load that takes over the id of a later mail of a player skips a mail of the system.
-/

namespace BasWar.Mails.Delivery

open Cooperative

variable {svc : Svc} {others : List Task} {id pid : ℕ} {ids : List ℕ}

theorem Turns.bare {after : Svc} {old next : List Task} (calm : Calm svc after)
    (old_light : ∀ task ∈ old, Light task)
    (bare : ∀ task ∈ next, Light task ∧ task.query = none ∧ Knows after task)
    (mailsDict : ∀ mail ∈ after.mailsDict, mail ∈ svc.mailsDict)
    (plymail : after.plymail = svc.plymail) (sysmail : after.sysmail = svc.sysmail) :
    Turns svc after old others next :=
  .idle calm old_light (fun task task_mem => (bare task task_mem).1)
    (fun task task_mem => (bare task task_mem).2.2)
    (fun task task_mem pid mail _ asks =>
      absurd asks (Task.not_asks (bare task task_mem).2.1 pid mail)) mailsDict plymail sysmail

theorem Sound.onlogin (sound : Sound svc ([] ++ others)) (pid : ℕ) :
    Sound (svc.accept (.onlogin pid)).1 (others ++ (svc.accept (.onlogin pid)).2) := by
  cases bag_eq : (svc.players pid).bag with
  | none =>
      have result_eq : svc.accept (.onlogin pid) = (svc, []) := by simp [Svc.accept, bag_eq]
      rw [result_eq]
      exact sound.turns (.bare (.refl svc) (by simp) (by simp) (fun _ mem => mem) rfl rfl)
  | some bag =>
      have result_eq : svc.accept (.onlogin pid) =
          (svc.setPlayer pid { svc.players pid with online := true },
            [.getPlayerMails ⟨pid, false, (svc.current pid).lastSysMailId,
              (svc.current pid).lastPlyMailId⟩, .getOpCfg pid]) := by
        simp [Svc.accept, Svc.current, bag_eq]
      have calm : Calm svc (svc.setPlayer pid { svc.players pid with online := true }) :=
        .setPlayer rfl rfl
      rw [result_eq]
      refine sound.turns (.idle calm (by simp) ?_ ?_ ?_ (fun _ mem => mem) rfl rfl)
      · simp [Light, Task.pending, Task.mails]
      · simp only [List.mem_cons, List.not_mem_nil, or_false, forall_eq_or_imp, forall_eq]
        exact ⟨calm.knows knows_current, .bare rfl rfl (by simp)⟩
      · simp only [List.mem_cons, List.not_mem_nil, or_false, forall_eq_or_imp, forall_eq]
        refine ⟨fun reader mail mail_mem asks entered => ?_, fun _ _ _ asks => asks.elim⟩
        obtain ⟨rfl, asks⟩ := asks
        exact absurd entered (sound.books.not_asked rfl mail_mem asks)

theorem Sound.gmSendMail {mailData : MailData} {toPidList : List ℕ}
    (sound : Sound svc ([.gmSendMail mailData toPidList] ++ others)) :
    Sound (svc.resume (.gmSendMail mailData toPidList) .deliver).1
      (others ++ (svc.resume (.gmSendMail mailData toPidList) .deliver).2) := by
  have light : ∀ task ∈ [Task.gmSendMail mailData toPidList], Light task :=
    List.forall_mem_singleton.mpr ⟨rfl, rfl⟩
  simp only [Svc.resume]
  split
  · exact sound.turns (.bare (.refl svc) light
      (List.forall_mem_singleton.mpr ⟨⟨rfl, rfl⟩, rfl, .bare rfl rfl (by simp)⟩)
      (fun _ mem => mem) rfl rfl)
  · refine sound.turns (.bare (.of_players rfl rfl rfl le_rfl le_rfl) light ?_
      (fun _ mem => mem) rfl rfl)
    cases toPidList <;>
      exact List.forall_mem_singleton.mpr ⟨⟨rfl, rfl⟩, rfl, .bare rfl rfl (by simp)⟩

theorem Sound.plyMailId {data : Data} {toPidList : List ℕ} {mailDict : List Mail}
    (sound : Sound svc (.plyMailId id data (pid :: toPidList) mailDict :: others))
    (holds : idPool.Holds ⟨svc, others⟩)
    (own : Carries svc (.plyMailId id data (pid :: toPidList) mailDict)) :
    Sound (svc.resume (.plyMailId id data (pid :: toPidList) mailDict) .deliver).1
      (others ++ (svc.resume (.plyMailId id data (pid :: toPidList) mailDict) .deliver).2) := by
  have id_mem : id ∈ (Task.plyMailId id data (pid :: toPidList) mailDict).newIds :=
    List.mem_singleton_self id
  have newest := own.newest trivial id id_mem
  have bounded := (own.newIds id id_mem).2.1
  have mailsDict : ∀ other ∈ svc.mailsDict ++ [data.mail .ply pid id],
      other ∈ svc.mailsDict ∨ other = data.mail .ply pid id := by simp
  cases toPidList with
  | nil =>
      exact sound.make holds (List.mem_singleton_self _) newest bounded rfl rfl rfl rfl rfl rfl
        mailsDict rfl rfl (List.forall_mem_singleton.mpr rfl)
        (List.forall_mem_singleton.mpr (.bare rfl rfl (by simp)))
        (List.forall_mem_singleton.mpr rfl) fun other => by
          simp [Svc.resume, Svc.createNext, Task.pending]
  | cons next toPidList =>
      exact sound.make holds (List.mem_singleton_self _) newest bounded rfl rfl rfl rfl rfl rfl
        mailsDict rfl rfl (List.forall_mem_singleton.mpr rfl)
        (List.forall_mem_singleton.mpr (.bare rfl rfl (by simp)))
        (List.forall_mem_singleton.mpr rfl) fun other => by
          simp [Svc.resume, Svc.createNext, Task.pending]

theorem Sound.sysMailId {data : Data} (sound : Sound svc (.sysMailId id data :: others))
    (holds : idPool.Holds ⟨svc, others⟩) (own : Carries svc (.sysMailId id data)) :
    Sound (svc.resume (.sysMailId id data) .deliver).1
      (others ++ (svc.resume (.sysMailId id data) .deliver).2) := by
  have id_mem : id ∈ (Task.sysMailId id data).newIds := List.mem_singleton_self id
  have both : ∀ task ∈ [Task.broadcastSysMail, .updateSysmail (data.mail .sys 0 id)],
      task.mails = [] ∧ task.query = none ∧ task.newMails = [] ∧
        ∀ pid ids, task ≠ .delPlayerMails pid ids := by
    simp [Task.mails, Task.query, Task.newMails]
  refine sound.make holds (List.mem_singleton_self _) (own.newest trivial id id_mem)
    (own.newIds id id_mem).2.1 rfl rfl rfl rfl rfl rfl (fun _ mem => .inl mem) rfl rfl
    (fun task task_mem => (both task task_mem).1)
    (fun task task_mem => .bare (both task task_mem).2.2.1 (both task task_mem).2.1
      (both task task_mem).2.2.2)
    (fun task task_mem => (both task task_mem).2.1) fun other => ?_
  simp [Svc.resume, Task.pending]

theorem Sound.plymail {query : Query} {mailDict : List Mail}
    (sound : Sound svc ([.plymail query mailDict] ++ others)) :
    Sound (svc.resume (.plymail query mailDict) .deliver).1
      (others ++ (svc.resume (.plymail query mailDict) .deliver).2) := by
  have knows := sound.knows _ List.mem_cons_self
  simp only [Svc.resume]
  split
  · exact sound.turns (turns_passed sound (.bare rfl rfl (by simp)) rfl rfl rfl rfl rfl
      fun _ _ asks => asks.elim)
  · next no_check =>
      refine sound.turns (turns_passed sound ⟨by simp [Task.newMails], knows.query, by simp, ?_⟩
        rfl rfl rfl rfl rfl fun _ _ asks => asks)
      rintro _ _ _ ⟨⟩
      exact ⟨le_rfl, Bool.eq_false_of_not_eq_true no_check⟩

theorem Sound.answered {mails : List Mail} (sound : Sound svc (.addPlayerMails pid mails :: others))
    (holds : idPool.Holds ⟨svc, others⟩) (made : ∀ mail ∈ mails, mail ∈ svc.sent)
    (allows : (svc.players pid).bag = none ∨ (svc.players pid).online = false →
      svc.Spared (.addPlayerMails pid mails) others) :
    Sound (svc.addPlayerMails pid mails).1 (others ++ (svc.addPlayerMails pid mails).2) := by
  have begun : Sound svc ([.addPlayerMails pid mails] ++ others) := sound
  have lost (spared : svc.Spared (.addPlayerMails pid mails) others)
      (result_eq : svc.addPlayerMails pid mails = (svc, [])) :
      Sound (svc.addPlayerMails pid mails).1 (others ++ (svc.addPlayerMails pid mails).2) := by
    rw [result_eq]
    exact begun.turns (turns_ends (.refl svc) rfl rfl rfl spared (by simp [Task.pending]))
  cases bag_eq : (svc.players pid).bag with
  | none => exact lost (allows (.inl bag_eq)) (by simp [Svc.addPlayerMails, bag_eq])
  | some bag =>
      cases online : (svc.players pid).online with
      | true => exact sound.addPlayerMails holds made bag_eq online
      | false => exact lost (allows (.inr online)) (by simp [Svc.addPlayerMails, bag_eq, online])

theorem turns_delete {after : Svc} {old next : List Task} (calm : Calm svc after)
    (old_light : ∀ task ∈ old, Light task)
    (bare : ∀ task ∈ next, Light task ∧ task.query = none ∧ Knows after task)
    (mailsDict : after.mailsDict = svc.mailsDict)
    (plymail : ∀ mail ∈ after.plymail, mail ∈ svc.plymail)
    (sysmail : ∀ mail ∈ after.sysmail, mail ∈ svc.sysmail)
    (saved : ∀ pid mail, svc.Wanted pid mail → mail ∈ svc.plymail ∨ mail ∈ svc.sysmail →
      mail ∈ after.plymail ∨ mail ∈ after.sysmail) : Turns svc after old others next :=
  .light calm old_light (fun task task_mem => (bare task task_mem).1)
    (fun task task_mem => (bare task task_mem).2.2)
    (fun task task_mem pid mail _ asks =>
      absurd asks (Task.not_asks (bare task task_mem).2.1 pid mail))
    (fun _ mem => mailsDict ▸ mem) (fun mail row => row.imp (plymail mail) (sysmail mail)) saved

theorem Sound.delPlayerMails (sound : Sound svc ([.delPlayerMails pid (id :: ids)] ++ others))
    (kept : Kept svc) :
    Sound (svc.resume (.delPlayerMails pid (id :: ids)) .deliver).1
      (others ++ (svc.resume (.delPlayerMails pid (id :: ids)) .deliver).2) := by
  have removes := (sound.knows _ List.mem_cons_self).delPlayerMails pid (id :: ids) rfl
  refine sound.turns (turns_delete (.of_players rfl rfl rfl le_rfl le_rfl)
    (List.forall_mem_singleton.mpr ⟨rfl, rfl⟩) ?_ rfl (fun _ mem => (List.mem_filter.mp mem).1)
    (fun _ mem => mem) ?_)
  · simp only [Svc.resume]
    split
    · exact List.forall_mem_nil _
    · refine List.forall_mem_singleton.mpr ⟨⟨rfl, rfl⟩, rfl, by simp [Task.newMails],
        by simp [Task.query], ?_, by simp⟩
      rintro _ _ ⟨⟩ other other_mem
      exact removes other (List.mem_cons_of_mem _ other_mem)
  · rintro reader mail wanted (row | row)
    · refine .inl (List.mem_filter.mpr ⟨row, ?_⟩)
      have addressed := wanted.2.1
      simp only [Svc.Addressed, (kept.plymail mail row).2] at addressed
      rw [decide_eq_true_eq]
      rintro ⟨rfl, rfl⟩
      have entered := removes mail.id List.mem_cons_self
      rw [addressed, wanted.2.2.1] at entered
      exact lt_irrefl 0 entered
    · exact .inr row

theorem Sound.deletePlymail {now : ℕ}
    (sound : Sound svc ([.deletePlymail (id :: ids) now] ++ others))
    (unneeded : ∀ mail ∈ svc.plymail, mail.id = id → svc.Unneeded mail) :
    Sound (svc.resume (.deletePlymail (id :: ids) now) .deliver).1
      (others ++ (svc.resume (.deletePlymail (id :: ids) now) .deliver).2) := by
  refine sound.turns (turns_delete (.of_players rfl rfl rfl le_rfl le_rfl)
    (List.forall_mem_singleton.mpr ⟨rfl, rfl⟩)
    (List.forall_mem_singleton.mpr ⟨⟨rfl, rfl⟩, rfl, .bare rfl rfl (by simp)⟩) rfl
    (fun _ mem => (List.mem_filter.mp mem).1) (fun _ mem => mem) ?_)
  rintro pid mail wanted (row | row)
  · refine .inl (List.mem_filter.mpr ⟨row, ?_⟩)
    rw [decide_eq_true_eq]
    exact fun id_eq => (unneeded mail row id_eq).not_wanted pid wanted
  · exact .inr row

theorem Sound.deleteSysmail (sound : Sound svc ([.deleteSysmail (id :: ids)] ++ others))
    (unneeded : ∀ mail ∈ svc.sysmail, mail.id = id → svc.Unneeded mail) :
    Sound (svc.resume (.deleteSysmail (id :: ids)) .deliver).1
      (others ++ (svc.resume (.deleteSysmail (id :: ids)) .deliver).2) := by
  refine sound.turns (turns_delete (.of_players rfl rfl rfl le_rfl le_rfl)
    (List.forall_mem_singleton.mpr ⟨rfl, rfl⟩) ?_ rfl (fun _ mem => mem)
    (fun _ mem => (List.mem_filter.mp mem).1) ?_)
  · simp only [Svc.resume]
    split
    · exact List.forall_mem_nil _
    · exact List.forall_mem_singleton.mpr ⟨⟨rfl, rfl⟩, rfl, .bare rfl rfl (by simp)⟩
  · rintro pid mail wanted (row | row)
    · exact .inl row
    · refine .inr (List.mem_filter.mpr ⟨row, ?_⟩)
      rw [decide_eq_true_eq]
      exact fun id_eq => (unneeded mail row id_eq).not_wanted pid wanted

theorem orderly_raise {task : Task} (allows : orderly.onReply task .raise svc others) :
    svc.Spared task others ∧ ∀ mail ∈ task.pending, svc.Unneeded mail := by
  cases task with
  | deletePlymail ids => cases ids <;> exact allows
  | deleteSysmail ids => cases ids <;> exact allows
  | _ => exact allows

theorem Sound.getOpCfg {isCheck : Bool} (sound : Sound svc ([.getOpCfg pid] ++ others))
    (allows : orderly.onReply (.getOpCfg pid) (.isCheck isCheck) svc others) :
    Sound (svc.resume (.getOpCfg pid) (.isCheck isCheck)).1
      (others ++ (svc.resume (.getOpCfg pid) (.isCheck isCheck)).2) := by
  have light : ∀ task ∈ [Task.getOpCfg pid], Light task :=
    List.forall_mem_singleton.mpr ⟨rfl, rfl⟩
  cases isCheck with
  | false =>
      exact sound.turns (.bare (.refl svc) light (List.forall_mem_nil _) (fun _ mem => mem) rfl rfl)
  | true =>
      have cleared : svc.Cleared pid others := allows
      refine sound.turns (.idle (.refl svc) light (List.forall_mem_singleton.mpr ⟨rfl, rfl⟩)
        (List.forall_mem_singleton.mpr ⟨by simp [Task.newMails], ?_, by simp, by simp⟩)
        (List.forall_mem_singleton.mpr ?_) (fun _ mem => mem) rfl rfl)
      · rintro query ⟨⟩ mailType id positive seen
        cases mailType with
        | sys => exact seen.elim
        | ply => exact absurd positive (Nat.le_zero.mp seen).not_gt
      · rintro _ mail mail_mem ⟨rfl, no_sys, _⟩ entered
        have ply : mail.mailType = .ply := by
          cases type_eq : mail.mailType with
          | sys => simp [type_eq] at no_sys
          | ply => rfl
        refine (cleared mail mail_mem ply entered).imp_right fun gone => ?_
        obtain ⟨cache, row, sysrow, unsaved⟩ := gone
        refine ⟨cache, row, sysrow, fun saver saver_mem => ?_⟩
        rcases List.mem_cons.mp saver_mem with rfl | saver_mem
        · exact List.not_mem_nil
        · exact unsaved saver saver_mem

theorem Sound.accept (sound : Sound svc others) (holds : idPool.Holds ⟨svc, others⟩)
    (request : Request) (allows : orderly.onRequest request svc others) :
    Sound (svc.accept request).1 (others ++ (svc.accept request).2) := by
  have begun : Sound svc ([] ++ others) := sound
  cases request with
  | tick =>
      exact begun.turns (.idle (.of_players rfl rfl rfl (Nat.le_succ _) le_rfl) (by simp)
        (List.forall_mem_nil _) (List.forall_mem_nil _) (List.forall_mem_nil _) (fun _ mem => mem)
        rfl rfl)
  | gmSendMail | cleanUpMailsFromDB | localAddMyMail =>
      exact begun.turns (.idle (.refl svc) (by simp) (List.forall_mem_singleton.mpr ⟨rfl, rfl⟩)
        (List.forall_mem_singleton.mpr (.bare rfl rfl (by simp)))
        (List.forall_mem_singleton.mpr fun _ _ _ asks => asks.elim) (fun _ mem => mem) rfl rfl)
  | cleanUpMailsFromCache =>
      exact begun.turns (.idle (.of_players rfl rfl rfl le_rfl le_rfl) (by simp)
        (List.forall_mem_nil _) (List.forall_mem_nil _) (List.forall_mem_nil _)
        (fun _ mem => (List.mem_filter.mp mem).1) rfl rfl)
  | load pid =>
      rw [show (svc.accept (.load pid)).2 = [] from rfl, List.append_nil]
      exact sound.load holds allows.1 allows.2
  | unload pid =>
      have current : none.getD (svc.players pid).stored = svc.current pid := Eq.symm allows
      exact begun.turns (.idle (.setPlayer current rfl) (by simp) (List.forall_mem_nil _)
        (List.forall_mem_nil _) (List.forall_mem_nil _) (fun _ mem => mem) rfl rfl)
  | onlogin pid => exact begun.onlogin pid
  | onlogout pid =>
      exact begun.turns (.idle (.setPlayer rfl rfl) (by simp) (List.forall_mem_nil _)
        (List.forall_mem_nil _) (List.forall_mem_nil _) (fun _ mem => mem) rfl rfl)
  | saveToDb pid =>
      have current : (svc.players pid).bag.getD (svc.current pid) = svc.current pid := by
        cases bag_eq : (svc.players pid).bag <;> simp [Svc.current, bag_eq]
      exact begun.turns (.idle (.setPlayer current rfl) (by simp) (List.forall_mem_nil _)
        (List.forall_mem_nil _) (List.forall_mem_nil _) (fun _ mem => mem) rfl rfl)
  | delMails pid ids =>
      rw [show (svc.accept (.delMails pid ids)).2 = [] from rfl, List.append_nil]
      exact sound.delMails holds allows

theorem Sound.resume {task : Task} {reply : Reply} (sound : Sound svc (task :: others))
    (holds : idPool.Holds ⟨svc, others⟩) (own : Carries svc task)
    (apart : ∀ other ∈ others, Apart task other) (allows : orderly.onReply task reply svc others) :
    Sound (svc.resume task reply).1 (others ++ (svc.resume task reply).2) := by
  have begun : Sound svc ([task] ++ others) := sound
  have kept : Kept svc := holds.shared
  by_cases goes : Goes task reply
  · cases goes with
    | gmSendMail mailData toPidList => exact begun.gmSendMail
    | genMailId data toPidList mailDict =>
        refine begun.turns (turns_newId sound.books rfl rfl rfl rfl ?_ (by simp))
        cases toPidList <;> simp [Task.newMails, Data.mail]
    | genSysMailId =>
        exact begun.turns (turns_newId sound.books rfl rfl rfl rfl
          (by simp [Task.newMails, Data.mail]) (by simp))
    | localGenMailId =>
        exact begun.turns (turns_newId sound.books rfl rfl rfl rfl (by simp [Task.newMails])
          (by simp))
    | plyMailId id data pid toPidList mailDict => exact sound.plyMailId holds own
    | sysMailId id data => exact sound.sysMailId holds own
    | fails creates =>
        rw [svc.resume_fails creates]
        obtain ⟨spared, unneeded⟩ := orderly_raise allows
        exact begun.turns (turns_ends (.of_players rfl rfl rfl le_rfl le_rfl) rfl rfl rfl spared
          unneeded)
    | saveMails unsaved mailDict position => exact begun.turns turns_saveNext
    | updatePlymail mail unsaved mailDict =>
        exact begun.turns (turns_updatePlymail kept (own.pending mail List.mem_cons_self).1)
    | updateSysmail mail =>
        exact begun.turns (turns_updateSysmail kept (own.pending mail List.mem_cons_self).1)
    | newMailsNotice pid =>
        exact begun.turns (turns_notices sound.books (List.forall_mem_singleton.mpr ⟨rfl, rfl⟩)
          fun next next_mem => .inr ⟨pid, newMailsNotice_cases next_mem⟩)
    | broadcastSysMail pidList =>
        refine begun.turns (turns_notices sound.books (List.forall_mem_singleton.mpr ⟨rfl, rfl⟩)
          fun next next_mem => ?_)
        rcases List.mem_cons.mp next_mem with rfl | next_mem
        · exact .inl ⟨⟨rfl, rfl⟩, rfl, .bare rfl rfl (by simp)⟩
        · obtain ⟨pid, _, next_mem⟩ := List.mem_flatMap.mp next_mem
          exact .inr ⟨pid, newMailsNotice_cases next_mem⟩
    | broadcastEnds | sysmailDeleted =>
        exact begun.turns (.bare (.refl svc) (List.forall_mem_singleton.mpr ⟨rfl, rfl⟩)
          (List.forall_mem_nil _) (fun _ mem => mem) rfl rfl)
    | getPlayerMails query =>
        exact begun.turns (turns_getPlayerMails kept sound)
    | findPlymail query mailDict =>
        exact begun.turns (turns_findPlymail kept own.mails sound allows)
    | plymail query mailDict => exact begun.plymail
    | findSysmail query now mailDict =>
        exact begun.turns (turns_findSysmail kept sound allows)
    | addPlayerMails pid mailDict => exact sound.answered holds own.mails allows
    | delPlayerMails pid id ids => exact begun.delPlayerMails kept
    | getOpCfg pid isCheck => exact begun.getOpCfg allows
    | localMailId pid loads id mailData =>
        rw [show (svc.resume (.localMailId pid loads id mailData) .deliver).2 = [] from rfl,
          List.append_nil]
        exact sound.localMailId holds own apart
    | findOutdatedPlymail | plymailDeleted | findOutdatedSysmail =>
        exact begun.turns (.bare (.refl svc) (List.forall_mem_singleton.mpr ⟨rfl, rfl⟩)
          (List.forall_mem_singleton.mpr ⟨⟨rfl, rfl⟩, rfl, .bare rfl rfl (by simp)⟩)
          (fun _ mem => mem) rfl rfl)
    | deletePlymail id ids now => exact begun.deletePlymail allows
    | deleteSysmail id ids => exact begun.deleteSysmail allows
  · rcases svc.resume_rests goes with ⟨rfl, resume_eq⟩ | resume_eq
    · rw [resume_eq]
      obtain ⟨spared, unneeded⟩ := orderly_raise allows
      exact begun.turns (turns_ends (.refl svc) rfl rfl rfl spared unneeded)
    · rw [resume_eq]
      exact standing.perm (List.perm_append_singleton task others).symm sound

theorem standing_kept : standing.KeptBy idPool delivery orderly where
  accept request _ _ holds sound allows := sound.accept holds request allows
  resume _ _ _ _ holds own apart sound allows := sound.resume holds own apart allows

theorem standing_start (now : ℕ) (createTime : ℕ → ℕ) :
    Sound (deliveryStart now createTime).state (deliveryStart now createTime).waiting := by
  refine ⟨⟨?_, ?_, ?_, ?_, ?_, ?_⟩, ?_, ?_, ?_, ?_, ?_⟩
  all_goals simp [deliveryStart, Svc.current, Bag.ids, Svc.Wanted]
  intro mailType id
  cases mailType <;> simp [Bag.last]

theorem mem_answer (kept : Kept svc) {mail : Mail} (wanted : svc.Wanted pid mail)
    (stored : mail ∈ svc.plymail ∨ mail ∈ svc.sysmail)
    (unseen : ¬Seen ((svc.current pid).last mail.mailType) mail.id) : mail ∈ svc.answer pid := by
  rcases stored with row | row
  · have ply := (kept.plymail mail row).2
    have addressed := wanted.2.1
    simp only [Svc.Addressed, ply] at addressed
    simp only [ply, Bag.last] at unseen
    exact List.mem_append_left _ (mem_getPlyMails kept
      (fun other mem => (kept.mailsDict other (findMailsFromCache_mem mem).1).1)
      row addressed unseen)
  · have sys := (kept.sysmail mail row).2
    simp only [sys, Bag.last] at unseen
    refine List.mem_append_right _ (List.mem_filter.mpr ⟨row, ?_⟩)
    simpa using ⟨unseen, wanted.2.2.2⟩

theorem Sound.deliveredOnce {config : Config Svc Task} (holds : idPool.Holds config)
    (sound : Sound config.state config.waiting) : DeliveredOnce config where
  once := sound.books.once
  not_skipped pid mail wanted seen := sound.ahead pid mail wanted (.inl seen)
  next idle pid mail made addressed lives := by
    by_cases entered : config.state.entered pid mail.id = 0
    · have wanted : config.state.Wanted pid mail := ⟨made, addressed, entered, lives⟩
      have nothing : config.waiting = [] := idle
      have saved := sound.saved pid mail wanted
      have ahead := sound.ahead pid mail wanted
      simp only [nothing, List.not_mem_nil, false_and, exists_false, or_false, Brought,
        imp_false] at saved ahead
      exact .inr (mem_answer holds.shared wanted saved ahead)
    · have once := sound.books.once pid mail.id
      exact .inl (by omega)

/-- A mail is sent to a player whose login is under way; the notice brings it. -/
def sampleEvents : List (Event Request Reply) :=
  [.request (.load 1), .request (.onlogin 1), .request (.gmSendMail ⟨none, none, none⟩ [1]),
    .reply 0 .deliver, .reply 0 (.isCheck false), .reply 0 .deliver, .reply 1 .deliver,
    .reply 1 .deliver, .reply 0 .deliver, .reply 0 (.pick 0), .reply 1 .deliver,
    .reply 0 .deliver, .reply 0 (.pick 0), .reply 0 .deliver, .reply 0 .deliver,
    .reply 0 .deliver, .reply 0 .deliver, .reply 0 .deliver, .reply 0 .deliver,
    .reply 0 .deliver, .reply 0 .deliver, .reply 0 .deliver, .request (.saveToDb 1),
    .request (.unload 1), .request (.load 1)]

/-- A mail of the system is saved while the player is offline; another mail, with a larger id, is
added to his mail bag, which is then saved and loaded. -/
def reloadEvents : List (Event Request Reply) :=
  [.request (.load 1), .request (.gmSendMail ⟨none, none, none⟩ []), .reply 0 .deliver,
    .reply 0 .deliver, .reply 0 .deliver, .reply 0 .deliver, .reply 0 .deliver,
    .request (.localAddMyMail 1 ⟨none, none, none⟩), .reply 0 .deliver, .reply 0 .deliver,
    .request (.saveToDb 1), .request (.unload 1), .request (.load 1)]

end BasWar.Mails.Delivery
