import BasWar.Mail.DeliveryMarks

/-!
# Segments that leave the mail bags alone

Queries, saves and deletions on their way keep the standing condition of the delivery: what a query
takes out of the cache or finds among the rows it brings, and a mail that is waited for keeps its
row.
-/

namespace BasWar.Mails.Delivery

open Cooperative

variable {svc after : Svc} {old others next : List Task} {pid : ℕ} {query : Query} {mail : Mail}
  {task : Task} {mailDict : List Mail}

theorem Turns.quiet (calm : Calm svc after) (old_mails : ∀ task ∈ old, task.mails = [])
    (next_mails : ∀ task ∈ next, task.mails = []) (knows : ∀ task ∈ next, Knows after task)
    (asks : ∀ task ∈ next, ∀ pid, ∀ mail ∈ svc.sent, task.Asks pid mail →
      0 < svc.entered pid mail.id →
        mail.id ∈ (svc.current pid).ids ∨ svc.Gone (old ++ others) mail)
    (mailsDict : ∀ mail ∈ after.mailsDict, mail ∈ svc.mailsDict)
    (rows : ∀ mail, mail ∈ after.plymail ∨ mail ∈ after.sysmail →
      mail ∈ svc.plymail ∨ mail ∈ svc.sysmail ∨ ∃ task ∈ old, mail ∈ task.pending)
    (pending : ∀ task ∈ next, ∀ mail ∈ task.pending, ∃ task ∈ old, mail ∈ task.pending)
    (saved : ∀ pid mail, svc.Wanted pid mail →
      (mail ∈ svc.plymail ∨ mail ∈ svc.sysmail ∨ ∃ task ∈ old, mail ∈ task.pending) →
        mail ∈ after.plymail ∨ mail ∈ after.sysmail ∨ ∃ task ∈ next, mail ∈ task.pending) :
    Turns svc after old others next where
  calm := calm
  knows := knows
  brings task task_mem _ _ brings := by simp [Task.Brings, next_mails task task_mem] at brings
  asks := asks
  mailsDict := mailsDict
  rows := rows
  pending := pending
  saved := saved
  passes pid mail _ := by
    rintro ⟨task, task_mem, passes⟩
    exact absurd passes (Task.not_passes (next_mails task task_mem) pid mail)
  loses _ _ _ := by
    rintro ⟨task, task_mem, brings⟩
    simp [Task.Brings, old_mails task task_mem] at brings

/-- A task that saves no mail and brings none. -/
def Light (task : Task) : Prop :=
  task.pending = [] ∧ task.mails = []

theorem Turns.light (calm : Calm svc after) (old_light : ∀ task ∈ old, Light task)
    (next_light : ∀ task ∈ next, Light task) (knows : ∀ task ∈ next, Knows after task)
    (asks : ∀ task ∈ next, ∀ pid, ∀ mail ∈ svc.sent, task.Asks pid mail →
      0 < svc.entered pid mail.id →
        mail.id ∈ (svc.current pid).ids ∨ svc.Gone (old ++ others) mail)
    (mailsDict : ∀ mail ∈ after.mailsDict, mail ∈ svc.mailsDict)
    (rows : ∀ mail, mail ∈ after.plymail ∨ mail ∈ after.sysmail →
      mail ∈ svc.plymail ∨ mail ∈ svc.sysmail)
    (saved : ∀ pid mail, svc.Wanted pid mail → mail ∈ svc.plymail ∨ mail ∈ svc.sysmail →
      mail ∈ after.plymail ∨ mail ∈ after.sysmail) : Turns svc after old others next := by
  refine .quiet calm (fun task task_mem => (old_light task task_mem).2)
    (fun task task_mem => (next_light task task_mem).2) knows asks mailsDict
    (fun mail row => (rows mail row).imp_right .inl) ?_ ?_
  · intro task task_mem
    simp [(next_light task task_mem).1]
  · rintro pid mail wanted (row | row | ⟨task, task_mem, pending⟩)
    · exact (saved pid mail wanted (.inl row)).imp_right .inl
    · exact (saved pid mail wanted (.inr row)).imp_right .inl
    · simp [(old_light task task_mem).1] at pending

theorem Turns.idle (calm : Calm svc after) (old_light : ∀ task ∈ old, Light task)
    (next_light : ∀ task ∈ next, Light task) (knows : ∀ task ∈ next, Knows after task)
    (asks : ∀ task ∈ next, ∀ pid, ∀ mail ∈ svc.sent, task.Asks pid mail →
      0 < svc.entered pid mail.id →
        mail.id ∈ (svc.current pid).ids ∨ svc.Gone (old ++ others) mail)
    (mailsDict : ∀ mail ∈ after.mailsDict, mail ∈ svc.mailsDict)
    (plymail : after.plymail = svc.plymail) (sysmail : after.sysmail = svc.sysmail) :
    Turns svc after old others next :=
  .light calm old_light next_light knows asks mailsDict
    (fun _ row => plymail ▸ sysmail ▸ row) (fun _ _ _ row => plymail.symm ▸ sysmail.symm ▸ row)

theorem Books.not_asked (books : Books svc) {check : Bool}
    (query_eq : query = ⟨pid, check, (svc.current pid).lastSysMailId,
      (svc.current pid).lastPlyMailId⟩) (mail_mem : mail ∈ svc.sent) (asks : query.Asks mail) :
    ¬0 < svc.entered pid mail.id := by
  intro entered
  have seen := books.seen pid mail mail_mem entered
  subst query_eq
  cases mailType_eq : mail.mailType <;> simp_all [Query.Asks, Query.last, Bag.last]

theorem knows_current {check : Bool} :
    Knows svc (.getPlayerMails ⟨pid, check, (svc.current pid).lastSysMailId,
      (svc.current pid).lastPlyMailId⟩) where
  newMails := by simp [Task.newMails]
  query := by
    rintro query ⟨⟩ mailType id _ seen
    cases mailType <;> exact seen
  delPlayerMails := by simp
  findSysmail := by simp

theorem newMailsNotice_cases (mem : task ∈ svc.newMailsNotice pid) :
    task = .getPlayerMails ⟨pid, false, (svc.current pid).lastSysMailId,
      (svc.current pid).lastPlyMailId⟩ := by
  unfold Svc.newMailsNotice at mem
  split at mem
  · next bag bag_eq =>
      split at mem
      · rw [List.mem_singleton] at mem
        simp [mem, Svc.current, bag_eq]
      · cases mem
  · cases mem

theorem turns_notices (books : Books svc) (old_light : ∀ task ∈ old, Light task)
    (notices : ∀ task ∈ next, (Light task ∧ task.query = none ∧ Knows svc task) ∨
      ∃ pid, task = .getPlayerMails ⟨pid, false, (svc.current pid).lastSysMailId,
        (svc.current pid).lastPlyMailId⟩) : Turns svc svc old others next := by
  refine .idle (.refl svc) old_light ?_ ?_ ?_ (fun _ mem => mem) rfl rfl
  · intro task task_mem
    rcases notices task task_mem with ⟨light, _, _⟩ | ⟨pid, rfl⟩
    · exact light
    · exact ⟨rfl, rfl⟩
  · intro task task_mem
    rcases notices task task_mem with ⟨_, _, knows⟩ | ⟨pid, rfl⟩
    · exact knows
    · exact knows_current
  · intro task task_mem pid mail mail_mem asks entered
    rcases notices task task_mem with ⟨_, no_query, _⟩ | ⟨reader, rfl⟩
    · cases task <;> simp_all [Task.query, Task.Asks]
    · obtain ⟨rfl, asks⟩ := asks
      exact absurd entered (books.not_asked rfl mail_mem asks)

theorem Svc.Unneeded.not_wanted (unneeded : svc.Unneeded mail) (pid : ℕ) :
    ¬svc.Wanted pid mail := by
  intro wanted
  unfold Svc.Unneeded at unneeded
  split at unneeded
  · next ply =>
      have addressed : mail.receivePid = pid := by simpa [Svc.Addressed, ply] using wanted.2.1
      exact unneeded (addressed ▸ wanted)
  · exact unneeded wanted.2.2.2

theorem Task.not_asks (query : task.query = none) (pid : ℕ) (mail : Mail) :
    ¬task.Asks pid mail := by
  cases task with
  | getPlayerMails | findPlymail | plymail | findSysmail => cases query
  | _ => exact id

theorem turns_saveNext {unsaved : List Mail} {position : ℕ} :
    Turns svc svc [.saveMails unsaved mailDict] others
      (Svc.saveNext unsaved mailDict position) := by
  unfold Svc.saveNext
  split
  · next none_left =>
      have unsaved_eq : unsaved = [] := by
        rw [List.getElem?_eq_none_iff] at none_left
        by_contra some_left
        exact absurd (Nat.mod_lt position (List.length_pos_iff.mpr some_left)) none_left.not_gt
      subst unsaved_eq
      refine .idle (.refl svc) (by simp [Light, Task.pending, Task.mails]) ?_ ?_ ?_
        (fun _ mem => mem) rfl rfl
      · simp [Light, Task.pending, Task.mails]
      · simp only [List.mem_map, forall_exists_index, and_imp, forall_apply_eq_imp_iff₂]
        exact fun _ _ => .bare rfl rfl (by simp)
      · simp [Task.Asks]
  · next mail mail_eq =>
      refine .quiet (.refl svc) (by simp [Task.mails]) (by simp [Task.mails])
        (List.forall_mem_singleton.mpr (.bare rfl rfl (by simp))) (by simp [Task.Asks])
        (fun _ mem => mem) (fun _ row => row.imp_right .inl)
        (List.forall_mem_singleton.mpr fun other other_mem => ⟨_, List.mem_singleton_self _, ?_⟩) ?_
      · rcases List.mem_cons.mp other_mem with rfl | other_mem
        · exact List.mem_of_getElem? mail_eq
        · exact List.mem_of_mem_erase other_mem
      · rintro pid other _ (row | row | ⟨task, task_mem, pending⟩)
        · exact .inl row
        · exact .inr (.inl row)
        · rw [List.mem_singleton.mp task_mem] at pending
          refine .inr (.inr ⟨_, List.mem_singleton_self _, ?_⟩)
          by_cases same : other = mail
          · exact same ▸ List.mem_cons_self
          · exact List.mem_cons_of_mem _ ((List.mem_erase_of_ne same).mpr pending)

theorem turns_updatePlymail {unsaved : List Mail} (kept : Kept svc) (made : mail ∈ svc.sent) :
    Turns svc (svc.updatePlymail mail) [.updatePlymail mail unsaved mailDict] others
      [.saveMails unsaved mailDict] := by
  refine .quiet (.of_players rfl rfl rfl le_rfl le_rfl) (by simp [Task.mails])
    (by simp [Task.mails]) (List.forall_mem_singleton.mpr (.bare rfl rfl (by simp)))
    (by simp [Task.Asks]) (fun _ mem => mem) ?_ (List.forall_mem_singleton.mpr
      fun other other_mem => ⟨_, List.mem_singleton_self _, List.mem_cons_of_mem _ other_mem⟩) ?_
  · rintro other (row | row)
    · rcases List.mem_append.mp row with old | new
      · exact .inl (List.mem_filter.mp old).1
      · exact .inr (.inr ⟨_, List.mem_singleton_self _,
          List.mem_singleton.mp new ▸ List.mem_cons_self⟩)
    · exact .inr (.inl row)
  · rintro pid other wanted (row | row | ⟨task, task_mem, pending⟩)
    · refine .inl (List.mem_append.mpr ?_)
      by_cases same : other.id = mail.id
      · exact .inr (List.mem_singleton.mpr (kept.eq_of_id wanted.1 made same))
      · exact .inl (List.mem_filter.mpr ⟨row, by simpa using same⟩)
    · exact .inr (.inl row)
    · rw [List.mem_singleton.mp task_mem] at pending
      rcases List.mem_cons.mp pending with rfl | other_mem
      · exact .inl (List.mem_append_right _ (List.mem_singleton_self _))
      · exact .inr (.inr ⟨_, List.mem_singleton_self _, other_mem⟩)

theorem turns_updateSysmail (kept : Kept svc) (made : mail ∈ svc.sent) :
    Turns svc (svc.updateSysmail mail) [.updateSysmail mail] others [] := by
  refine .quiet (.of_players rfl rfl rfl le_rfl le_rfl) (by simp [Task.mails])
    (by simp) (by simp) (by simp) (fun _ mem => mem) ?_ (by simp) ?_
  · rintro other (row | row)
    · exact .inl row
    · rcases List.mem_append.mp row with old | new
      · exact .inr (.inl (List.mem_filter.mp old).1)
      · exact .inr (.inr ⟨_, List.mem_singleton_self _, new⟩)
  · rintro pid other wanted (row | row | ⟨task, task_mem, pending⟩)
    · exact .inl row
    · refine .inr (.inl (List.mem_append.mpr ?_))
      by_cases same : other.id = mail.id
      · exact .inr (List.mem_singleton.mpr (kept.eq_of_id wanted.1 made same))
      · exact .inl (List.mem_filter.mpr ⟨row, by simpa using same⟩)
    · rw [List.mem_singleton.mp task_mem] at pending
      exact .inr (.inl (List.mem_append_right _ pending))

theorem turns_ends (calm : Calm svc after) (mailsDict : after.mailsDict = svc.mailsDict)
    (plymail : after.plymail = svc.plymail) (sysmail : after.sysmail = svc.sysmail)
    (spared : svc.Spared task others) (unneeded : ∀ mail ∈ task.pending, svc.Unneeded mail) :
    Turns svc after [task] others [] where
  calm := calm
  knows := by simp
  brings := by simp
  asks := by simp
  mailsDict _ mem := mailsDict ▸ mem
  rows _ row := (plymail ▸ sysmail ▸ row : _ ∈ svc.plymail ∨ _ ∈ svc.sysmail).imp_right .inl
  pending := by simp
  saved pid mail wanted := by
    rw [plymail, sysmail]
    rintro (row | row | ⟨ended, ended_mem, pending⟩)
    · exact .inl row
    · exact .inr (.inl row)
    · rw [List.mem_singleton.mp ended_mem] at pending
      exact absurd wanted ((unneeded mail pending).not_wanted pid)
  passes := by simp
  loses pid mail wanted := by
    rintro ⟨ended, ended_mem, brings⟩ passed
    rw [List.mem_singleton.mp ended_mem] at brings
    obtain ⟨rfl, mail_mem⟩ := brings
    rw [List.append_nil] at passed ⊢
    rcases spared mail mail_mem wanted with brought | ⟨unseen, not_passed⟩
    · exact brought
    · rcases passed with seen | ⟨other, other_mem, passes⟩
      · exact absurd seen unseen
      · exact absurd passes (not_passed other other_mem)

theorem Sound.found (sound : Sound svc (task :: others)) (made : mail ∈ svc.sent)
    (asks : task.Asks pid mail)
    (found : mail ∈ svc.mailsDict ∨ mail ∈ svc.plymail ∨ mail ∈ svc.sysmail)
    (entered : 0 < svc.entered pid mail.id) : mail.id ∈ (svc.current pid).ids := by
  rcases sound.asks task List.mem_cons_self pid mail made asks entered with
    inside | ⟨cache, plymail, sysmail, _⟩
  · exact inside
  · rcases found with row | row | row
    · exact absurd row cache
    · exact absurd row plymail
    · exact absurd row sysmail

theorem Sound.covered (sound : Sound svc (task :: others)) (kept : Kept svc)
    (query_eq : task.query = some query) (wanted : svc.Wanted query.pid mail)
    (covered : Seen (query.last mail.mailType) mail.id) : Brought (task :: others) query.pid mail :=
  sound.ahead query.pid mail wanted
    (.inl ((sound.knows task List.mem_cons_self).query query query_eq
    mail.mailType mail.id (kept.positive mail wanted.1) covered))

theorem turns_getPlayerMails (kept : Kept svc)
    (sound : Sound svc (.getPlayerMails query :: others)) :
    Turns svc (svc.resume (.getPlayerMails query) .deliver).1 [.getPlayerMails query] others
      [.findPlymail query (svc.findMailsFromCache query)] where
  calm := .of_players rfl rfl rfl le_rfl le_rfl
  knows := by
    have knows := sound.knows _ List.mem_cons_self
    exact List.forall_mem_singleton.mpr ⟨by simp [Task.newMails], knows.query, by simp, by simp⟩
  brings := by
    refine List.forall_mem_singleton.mpr ?_
    rintro _ mail ⟨rfl, mail_mem⟩ entered
    obtain ⟨cached, _, unseen⟩ := findMailsFromCache_mem mail_mem
    obtain ⟨made, ply⟩ := kept.mailsDict mail cached
    have asks : query.Asks mail := ⟨by simp [ply], by simpa [Query.last, ply] using unseen⟩
    exact sound.found made ⟨rfl, asks⟩ (.inl cached) entered
  asks := List.forall_mem_singleton.mpr fun pid mail mail_mem asks =>
    sound.asks _ List.mem_cons_self pid mail mail_mem asks
  mailsDict mail mail_mem := (List.mem_filter.mp mail_mem).1
  rows _ row := row.imp_right .inl
  pending := by simp [Task.pending]
  saved pid mail _ stored := by simpa [Task.pending, Svc.resume] using stored
  passes pid mail _ := by simp [Task.Passes, Passed, Task.answer]
  loses pid mail _ := by simp [Brought, Task.Brings, Task.mails]

theorem mem_getPlyMails {cacheMailDict : List Mail} (kept : Kept svc)
    (cached : ∀ other ∈ cacheMailDict, other ∈ svc.sent) (row : mail ∈ svc.plymail)
    (receivePid : mail.receivePid = query.pid) (unseen : ¬Seen query.lastPlyMailId mail.id) :
    mail ∈ svc.getPlyMails query cacheMailDict := by
  refine List.mem_append.mpr ?_
  by_cases id_mem : mail.id ∈ cacheMailDict.map Mail.id
  · obtain ⟨other, other_mem, id_eq⟩ := List.mem_map.mp id_mem
    exact .inl (kept.eq_of_id (cached other other_mem) (kept.plymail mail row).1 id_eq ▸ other_mem)
  · refine .inr (List.mem_filter.mpr ⟨?_, by simpa using id_mem⟩)
    exact List.mem_filter.mpr ⟨row, by simpa using ⟨receivePid, unseen⟩⟩

theorem turns_findPlymail (kept : Kept svc) (cached : ∀ mail ∈ mailDict, mail ∈ svc.sent)
    (sound : Sound svc (.findPlymail query mailDict :: others))
    (ordered : svc.InOrder query.pid (mailDict ++ svc.plymail) (svc.getPlyMails query mailDict)
      others) :
    Turns svc svc [.findPlymail query mailDict] others
      [.plymail query (svc.getPlyMails query mailDict)] where
  calm := .refl svc
  knows := by
    have knows := sound.knows _ List.mem_cons_self
    exact List.forall_mem_singleton.mpr ⟨by simp [Task.newMails], knows.query, by simp, by simp⟩
  brings := by
    refine List.forall_mem_singleton.mpr ?_
    rintro _ mail ⟨rfl, mail_mem⟩ entered
    rcases getPlyMails_mem mail_mem with old | ⟨row, _, unseen⟩
    · exact sound.brings _ List.mem_cons_self _ mail ⟨rfl, old⟩ entered
    · obtain ⟨made, ply⟩ := kept.plymail mail row
      have asks : query.Asks mail := ⟨by simp [ply], by simpa [Query.last, ply] using unseen⟩
      exact sound.found made ⟨rfl, asks⟩ (.inr (.inl row)) entered
  asks := List.forall_mem_singleton.mpr fun pid mail mail_mem asks =>
    sound.asks _ List.mem_cons_self pid mail mail_mem ⟨asks.1, asks.2.2⟩
  mailsDict _ mem := mem
  rows _ row := row.imp_right .inl
  pending := by simp [Task.pending]
  saved pid mail _ stored := by simpa [Task.pending] using stored
  passes pid mail wanted := by
    rintro ⟨task, task_mem, passes⟩
    rw [List.mem_singleton.mp task_mem] at passes
    obtain ⟨rfl, passed⟩ := passes
    rcases ordered mail wanted.1 wanted passed with found | brought
    · rcases List.mem_append.mp found with old | row
      · exact .inl ⟨_, List.mem_cons_self, rfl, old⟩
      · by_cases covered : Seen (query.last mail.mailType) mail.id
        · exact .inl (sound.covered kept rfl wanted covered)
        · obtain ⟨_, ply⟩ := kept.plymail mail row
          have receivePid : mail.receivePid = query.pid := by
            have addressed := wanted.2.1
            simp only [Svc.Addressed, ply] at addressed
            exact addressed
          have unseen : ¬Seen query.lastPlyMailId mail.id := by
            simpa [Query.last, ply] using covered
          exact .inr ⟨_, List.mem_singleton_self _, rfl,
            mem_getPlyMails kept cached row receivePid unseen⟩
    · exact .inl (brought_append.mpr (.inr brought))
  loses pid mail _ := by
    rintro ⟨task, task_mem, brings⟩ _
    rw [List.mem_singleton.mp task_mem] at brings
    exact brought_append.mpr (.inr ⟨_, List.mem_singleton_self _, brings.1,
      List.mem_append_left _ brings.2⟩)

theorem turns_passed {next : Task} (sound : Sound svc (task :: others)) (knows : Knows svc next)
    (pid : next.pid = task.pid) (mails : next.mails = task.mails)
    (answer : next.answer = task.answer) (pending : task.pending = [])
    (next_pending : next.pending = [])
    (asks : ∀ pid mail, next.Asks pid mail → task.Asks pid mail) :
    Turns svc svc [task] others [next] where
  calm := .refl svc
  knows := List.forall_mem_singleton.mpr knows
  brings := List.forall_mem_singleton.mpr fun reader mail brings =>
    sound.brings task List.mem_cons_self reader mail ⟨pid ▸ brings.1, mails ▸ brings.2⟩
  asks := List.forall_mem_singleton.mpr fun reader mail mail_mem next_asks =>
    sound.asks task List.mem_cons_self reader mail mail_mem (asks reader mail next_asks)
  mailsDict _ mem := mem
  rows _ row := row.imp_right .inl
  pending := by simp [next_pending]
  saved reader mail _ stored := by simpa [pending, next_pending] using stored
  passes reader mail wanted := by
    rintro ⟨other, other_mem, passes⟩
    rw [List.mem_singleton.mp other_mem] at passes
    exact .inl (sound.ahead reader mail wanted
      (.inr ⟨task, List.mem_cons_self, pid ▸ passes.1, answer ▸ passes.2⟩))
  loses reader mail _ := by
    rintro ⟨other, other_mem, brings⟩ _
    rw [List.mem_singleton.mp other_mem] at brings
    exact brought_append.mpr (.inr ⟨next, List.mem_singleton_self _, pid.trans brings.1,
      mails.symm ▸ brings.2⟩)

theorem turns_findSysmail {now : ℕ} (kept : Kept svc)
    (sound : Sound svc (.findSysmail query now mailDict :: others))
    (ordered : svc.InOrder query.pid svc.sysmail (svc.getSysMails query now) others) :
    Turns svc svc [.findSysmail query now mailDict] others
      [.addPlayerMails query.pid (mailDict ++ svc.getSysMails query now)] where
  calm := .refl svc
  knows := List.forall_mem_singleton.mpr (.bare rfl rfl (by simp))
  brings := by
    refine List.forall_mem_singleton.mpr ?_
    rintro _ mail ⟨rfl, mail_mem⟩ entered
    rcases List.mem_append.mp mail_mem with old | found
    · exact sound.brings _ List.mem_cons_self _ mail ⟨rfl, old⟩ entered
    · obtain ⟨row, unseen, _⟩ := getSysMails_mem found
      obtain ⟨made, sys⟩ := kept.sysmail mail row
      obtain ⟨_, no_check⟩ := (sound.knows _ List.mem_cons_self).findSysmail query now mailDict rfl
      have asks : query.Asks mail := ⟨fun _ => no_check, by simpa [Query.last, sys] using unseen⟩
      exact sound.found made ⟨rfl, sys, asks⟩ (.inr (.inr row)) entered
  asks := List.forall_mem_singleton.mpr fun _ _ _ asks => asks.elim
  mailsDict _ mem := mem
  rows _ row := row.imp_right .inl
  pending := by simp [Task.pending]
  saved pid mail _ stored := by simpa [Task.pending] using stored
  passes pid mail wanted := by
    rintro ⟨task, task_mem, passes⟩
    rw [List.mem_singleton.mp task_mem] at passes
    obtain ⟨rfl, other, other_mem, type_eq, le⟩ := passes
    rcases List.mem_append.mp other_mem with old | found
    · exact .inl (sound.ahead _ mail wanted
        (.inr ⟨_, List.mem_cons_self, rfl, other, old, type_eq, le⟩))
    · rcases ordered mail wanted.1 wanted ⟨other, found, type_eq, le⟩ with row | brought
      · by_cases covered : Seen (query.last mail.mailType) mail.id
        · exact .inl (sound.covered kept rfl wanted covered)
        · obtain ⟨_, sys⟩ := kept.sysmail mail row
          obtain ⟨now_le, _⟩ :=
            (sound.knows _ List.mem_cons_self).findSysmail query now mailDict rfl
          have unseen : ¬Seen query.lastSysMailId mail.id := by
            simpa [Query.last, sys] using covered
          have lives : mail.Lives now := wanted.2.2.2.imp_right now_le.trans_lt
          refine .inr ⟨_, List.mem_singleton_self _, rfl, List.mem_append_right _ ?_⟩
          exact List.mem_filter.mpr ⟨row, by simpa using ⟨unseen, lives⟩⟩
      · exact .inl (brought_append.mpr (.inr brought))
  loses pid mail _ := by
    rintro ⟨task, task_mem, brings⟩ _
    rw [List.mem_singleton.mp task_mem] at brings
    exact brought_append.mpr (.inr ⟨_, List.mem_singleton_self _, brings.1,
      List.mem_append_left _ brings.2⟩)

theorem turns_newId {next : Task} (books : Books svc) (mails : task.mails = [])
    (next_mails : next.mails = []) (query : next.query = none)
    (pending : next.pending = task.pending)
    (newMails : ∀ mail ∈ next.newMails, mail.id = svc.mailId + 1)
    (delPlayerMails : ∀ pid ids, next ≠ .delPlayerMails pid ids) :
    Turns svc { svc with mailId := svc.mailId + 1 } [task] others [next] := by
  refine .quiet (.of_players rfl rfl rfl le_rfl (Nat.le_succ _))
    (List.forall_mem_singleton.mpr mails) (List.forall_mem_singleton.mpr next_mails)
    (List.forall_mem_singleton.mpr ⟨fun mail mail_mem pid => ?_, by simp [query],
      fun pid ids next_eq => absurd next_eq (delPlayerMails pid ids), ?_⟩)
    (List.forall_mem_singleton.mpr fun pid mail _ asks =>
      absurd asks (Task.not_asks query pid mail))
    (fun _ mem => mem) (fun _ row => row.imp_right .inl) ?_ ?_
  · rw [newMails mail mail_mem]
    refine ⟨fun id_mem => ?_, fun _ seen => ?_⟩
    · exact absurd (books.ids pid _ id_mem) (Nat.not_succ_le_self _)
    · exact absurd (books.last pid _ _ seen) (Nat.not_succ_le_self _)
  · rintro _ _ _ rfl
    cases query
  · exact List.forall_mem_singleton.mpr fun mail mem =>
      ⟨task, List.mem_singleton_self _, pending ▸ mem⟩
  · intro pid mail _ stored
    simpa [pending] using stored

end BasWar.Mails.Delivery
