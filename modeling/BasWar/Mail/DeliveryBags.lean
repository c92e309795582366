import BasWar.Mail.DeliveryTurns

/-!
# Segments that change a mail bag

A new mail is beyond everything that was seen.  Loads and deletions only lose ids that nothing
brings again, and the mails of an answer enter the mail bag unless they are in it.
-/

namespace BasWar.Mails.Delivery

open Cooperative

variable {others : List Task}

/-- A new mail that is going to be saved keeps the standing condition. -/
theorem Sound.make {svc after : Svc} {next : List Task} {task : Task} {mail : Mail}
    (sound : Sound svc (task :: others)) (holds : idPool.Holds ⟨svc, others⟩)
    (new : mail ∈ task.newMails) (newest : ∀ other ∈ svc.sent, other.id < mail.id)
    (bounded : mail.id ≤ svc.mailId) (task_mails : task.mails = [])
    (sent : after.sent = svc.sent ++ [mail]) (entered : after.entered = svc.entered)
    (players : after.players = svc.players) (now : after.now = svc.now)
    (mailId : after.mailId = svc.mailId)
    (mailsDict : ∀ other ∈ after.mailsDict, other ∈ svc.mailsDict ∨ other = mail)
    (plymail : after.plymail = svc.plymail) (sysmail : after.sysmail = svc.sysmail)
    (mails : ∀ made ∈ next, made.mails = []) (knows : ∀ made ∈ next, Knows after made)
    (query : ∀ made ∈ next, made.query = none)
    (pending : ∀ other, (∃ made ∈ next, other ∈ made.pending) ↔ other ∈ task.pending ∨
      other = mail) : Sound after (others ++ next) := by
  have current : ∀ pid, after.current pid = svc.current pid := by simp [Svc.current, players]
  have addressed : ∀ pid other, after.Addressed pid other ↔ svc.Addressed pid other := by
    simp [Svc.Addressed, players]
  have not_entered : ∀ pid, svc.entered pid mail.id = 0 := by
    intro pid
    by_contra positive
    obtain ⟨other, other_mem, id_eq⟩ := sound.books.made pid mail.id (Nat.pos_of_ne_zero positive)
    exact absurd id_eq (newest other other_mem).ne
  have fresh := (sound.knows task List.mem_cons_self).newMails mail new
  have wanted_cases : ∀ pid other, after.Wanted pid other →
      svc.Wanted pid other ∨ other = mail ∧ svc.Addressed pid mail := by
    rintro pid other ⟨other_mem, address, not_in, lives⟩
    rw [sent] at other_mem
    rw [addressed] at address
    rw [entered] at not_in
    rw [now] at lives
    rcases List.mem_append.mp other_mem with old | new
    · exact .inl ⟨old, address, not_in, lives⟩
    · obtain rfl := List.mem_singleton.mp new
      exact .inr ⟨rfl, address⟩
  have gone : ∀ other, other ∈ svc.sent → svc.Gone (task :: others) other →
      after.Gone (others ++ next) other := by
    rintro other other_mem ⟨cache, row, sysrow, unsaved⟩
    have not_mail : other ≠ mail := fun same => absurd (newest other other_mem) (same ▸ lt_irrefl _)
    refine ⟨fun mem => ?_, plymail ▸ row, sysmail ▸ sysrow, fun saver saver_mem mem => ?_⟩
    · exact (mailsDict other mem).elim cache not_mail
    · rcases List.mem_append.mp saver_mem with old | made
      · exact unsaved saver (List.mem_cons_of_mem _ old) mem
      · rcases (pending other).mp ⟨saver, made, mem⟩ with carried | same
        · exact unsaved task List.mem_cons_self carried
        · exact not_mail same
  refine ⟨?_, ?_, ?_, ?_, ?_, ?_⟩
  · refine ⟨entered ▸ sound.books.once, ?_, ?_, ?_, ?_, ?_⟩
    · intro pid other other_mem inside
      rw [sent] at other_mem
      rw [current] at inside
      rw [entered]
      rcases List.mem_append.mp other_mem with old | made
      · exact sound.books.inside pid other old inside
      · rw [List.mem_singleton.mp made] at inside
        exact absurd inside (fresh pid).1
    · intro pid id positive
      rw [entered] at positive
      obtain ⟨other, other_mem, id_eq⟩ := sound.books.made pid id positive
      exact ⟨other, sent ▸ List.mem_append_left _ other_mem, id_eq⟩
    · intro pid other other_mem positive
      rw [sent] at other_mem
      rw [entered] at positive
      rw [current]
      rcases List.mem_append.mp other_mem with old | made
      · exact sound.books.seen pid other old positive
      · rw [List.mem_singleton.mp made, not_entered pid] at positive
        exact absurd positive (lt_irrefl 0)
    · intro pid
      rw [current, mailId]
      exact sound.books.ids pid
    · intro pid
      rw [current, mailId]
      exact sound.books.last pid
  · intro other other_mem
    rcases List.mem_append.mp other_mem with old | made
    · obtain ⟨newMails, query, removes, finds⟩ := sound.knows other (List.mem_cons_of_mem _ old)
      refine ⟨fun made made_mem pid => ?_, fun asked asked_mem => ?_, entered ▸ removes,
        now ▸ finds⟩
      · rw [current, addressed]
        exact newMails made made_mem pid
      · rw [current]
        exact query asked asked_mem
    · exact knows other made
  · intro other other_mem pid brought brings positive
    rw [entered] at positive
    rw [current]
    rcases List.mem_append.mp other_mem with old | made
    · exact sound.brings other (List.mem_cons_of_mem _ old) pid brought brings positive
    · simp [Task.Brings, mails other made] at brings
  · intro other other_mem pid asked asked_mem asks positive
    rw [sent] at asked_mem
    rw [entered] at positive
    rw [current]
    rcases List.mem_append.mp asked_mem with asked_old | asked_made
    · rcases List.mem_append.mp other_mem with old | made
      · have asked_before := sound.asks other (List.mem_cons_of_mem _ old) pid asked asked_old
        exact (asked_before asks positive).imp_right
          (gone asked asked_old)
      · exact absurd asks (Task.not_asks (query other made) pid asked)
    · rw [List.mem_singleton.mp asked_made, not_entered pid] at positive
      exact absurd positive (lt_irrefl 0)
  · intro pid other wanted
    rw [plymail, sysmail]
    rcases wanted_cases pid other wanted with old | ⟨rfl, _⟩
    · rcases sound.saved pid other old with row | row | ⟨saver, saver_mem, mem⟩
      · exact .inl row
      · exact .inr (.inl row)
      · rcases List.mem_cons.mp saver_mem with rfl | saver_mem
        · obtain ⟨made, made_mem, mem⟩ := (pending other).mpr (.inl mem)
          exact .inr (.inr ⟨made, List.mem_append_right _ made_mem, mem⟩)
        · exact .inr (.inr ⟨saver, List.mem_append_left _ saver_mem, mem⟩)
    · obtain ⟨made, made_mem, mem⟩ := (pending other).mpr (.inr rfl)
      exact .inr (.inr ⟨made, List.mem_append_right _ made_mem, mem⟩)
  · intro pid other wanted passed
    rw [current] at passed
    rcases wanted_cases pid other wanted with old | ⟨rfl, address⟩
    · have brought : Brought (task :: others) pid other := by
        refine sound.ahead pid other old (passed.imp_right ?_)
        rintro ⟨passer, passer_mem, passes⟩
        rcases List.mem_append.mp passer_mem with old | made
        · exact ⟨passer, List.mem_cons_of_mem _ old, passes⟩
        · exact absurd passes (Task.not_passes (mails passer made) pid other)
      obtain ⟨bringer, bringer_mem, brings⟩ := brought
      rcases List.mem_cons.mp bringer_mem with rfl | bringer_mem
      · simp [Task.Brings, task_mails] at brings
      · exact ⟨bringer, List.mem_append_left _ bringer_mem, brings⟩
    · rcases passed with seen | ⟨passer, passer_mem, passes⟩
      · exact absurd seen ((fresh pid).2 address)
      · rcases List.mem_append.mp passer_mem with old | made
        · obtain ⟨_, larger, larger_mem, _, le⟩ := passes
          have made := (holds.own passer old).mails larger (Task.mem_mails larger_mem)
          exact absurd le (newest larger made).not_ge
        · exact absurd passes (Task.not_passes (mails passer made) pid other)

/-- A mail bag that takes no mail in keeps the standing condition when no mail that is lost from it
comes again and no mail that is waited for is passed. -/
theorem Sound.rebag {svc after : Svc} {old : List Task} (sound : Sound svc (old ++ others))
    (light : ∀ task ∈ old, Light task)
    (mails : ∀ task ∈ others, ∀ mail ∈ task.mails, mail ∈ svc.sent) (sent : after.sent = svc.sent)
    (entered : after.entered = svc.entered)
    (createTime : ∀ pid, (after.players pid).createTime = (svc.players pid).createTime)
    (now : after.now = svc.now) (mailId : after.mailId = svc.mailId)
    (mailsDict : after.mailsDict = svc.mailsDict) (plymail : after.plymail = svc.plymail)
    (sysmail : after.sysmail = svc.sysmail)
    (inside : ∀ pid, ∀ mail ∈ svc.sent, mail.id ∈ (after.current pid).ids →
      mail.id ∈ (svc.current pid).ids)
    (seen : ∀ pid mailType id, Seen ((svc.current pid).last mailType) id →
      Seen ((after.current pid).last mailType) id)
    (ids : ∀ pid, ∀ id ∈ (after.current pid).ids, id ≤ svc.mailId)
    (last : ∀ pid mailType id, Seen ((after.current pid).last mailType) id → id ≤ svc.mailId)
    (newMails : ∀ task ∈ others, ∀ mail ∈ task.newMails, ∀ pid,
      mail.id ∉ (after.current pid).ids ∧
        (svc.Addressed pid mail → ¬Seen ((after.current pid).last mail.mailType) mail.id))
    (lost : ∀ task ∈ others, ∀ pid, ∀ mail ∈ svc.sent, mail.id ∈ (svc.current pid).ids →
      mail.id ∈ (after.current pid).ids ∨
        ¬task.Brings pid mail ∧ (task.Asks pid mail → svc.Gone others mail))
    (ahead : ∀ pid mail, svc.Wanted pid mail →
      Seen ((after.current pid).last mail.mailType) mail.id →
        Seen ((svc.current pid).last mail.mailType) mail.id ∨ Brought others pid mail) :
    Sound after others := by
  have addressed : ∀ pid mail, after.Addressed pid mail ↔ svc.Addressed pid mail := by
    simp [Svc.Addressed, createTime]
  have wanted_iff : ∀ pid mail, after.Wanted pid mail ↔ svc.Wanted pid mail := by
    simp [Svc.Wanted, sent, entered, now, addressed]
  have gone : ∀ mail, svc.Gone others mail → after.Gone others mail := by
    simp only [Svc.Gone, mailsDict, plymail, sysmail]
    exact fun _ gone => gone
  refine ⟨⟨entered ▸ sound.books.once, ?_, sent ▸ entered ▸ sound.books.made, ?_, mailId ▸ ids,
    mailId ▸ last⟩, ?_, ?_, ?_, ?_, ?_⟩
  · intro pid mail mail_mem mem
    rw [sent] at mail_mem
    rw [entered]
    exact sound.books.inside pid mail mail_mem (inside pid mail mail_mem mem)
  · intro pid mail mail_mem positive
    rw [sent] at mail_mem
    rw [entered] at positive
    exact seen pid _ _ (sound.books.seen pid mail mail_mem positive)
  · intro task task_mem
    obtain ⟨_, query, removes, finds⟩ := sound.knows task (List.mem_append_right _ task_mem)
    refine ⟨fun mail mail_mem pid => ?_, fun asked asked_mem mailType id positive covered => ?_,
      entered ▸ removes, now ▸ finds⟩
    · rw [addressed]
      exact newMails task task_mem mail mail_mem pid
    · exact seen _ _ _ (query asked asked_mem mailType id positive covered)
  · intro task task_mem pid mail brings positive
    rw [entered] at positive
    have mem := sound.brings task (List.mem_append_right _ task_mem) pid mail brings positive
    rcases lost task task_mem pid mail (mails task task_mem mail brings.2) mem with kept | ⟨no, _⟩
    · exact kept
    · exact absurd brings no
  · intro task task_mem pid mail mail_mem asks positive
    rw [sent] at mail_mem
    rw [entered] at positive
    rcases sound.asks task (List.mem_append_right _ task_mem) pid mail mail_mem asks positive with
      mem | ⟨cache, row, sysrow, unsaved⟩
    · exact (lost task task_mem pid mail mail_mem mem).imp_right fun no => gone mail (no.2 asks)
    · exact .inr (gone mail ⟨cache, row, sysrow,
        fun saver saver_mem => unsaved saver (List.mem_append_right _ saver_mem)⟩)
  · intro pid mail wanted
    rw [plymail, sysmail]
    rcases sound.saved pid mail ((wanted_iff pid mail).mp wanted) with
      row | row | ⟨saver, saver_mem, pending⟩
    · exact .inl row
    · exact .inr (.inl row)
    · rcases List.mem_append.mp saver_mem with ended | other
      · simp [(light saver ended).1] at pending
      · exact .inr (.inr ⟨saver, other, pending⟩)
  · intro pid mail wanted passed
    have wanted := (wanted_iff pid mail).mp wanted
    have brought : Brought (old ++ others) pid mail ∨ Brought others pid mail := by
      rcases passed with covered | ⟨passer, passer_mem, passes⟩
      · exact (ahead pid mail wanted covered).imp_left fun covered =>
          sound.ahead pid mail wanted (.inl covered)
      · exact .inl (sound.ahead pid mail wanted
          (.inr ⟨passer, List.mem_append_right _ passer_mem, passes⟩))
    rcases brought with brought | brought
    · rcases brought_append.mp brought with ⟨ended, ended_mem, brings⟩ | other
      · simp [Task.Brings, (light ended ended_mem).2] at brings
      · exact other
    · exact brought

@[simp]
theorem current_setPlayer (svc : Svc) (pid other : ℕ) (player : Player) :
    (svc.setPlayer pid player).current other =
      if other = pid then player.bag.getD player.stored else svc.current other := by
  by_cases same : other = pid
  · subst same
    simp [Svc.current, Svc.setPlayer]
  · simp [Svc.current, Svc.setPlayer, same]

theorem createTime_setPlayer {svc : Svc} {pid : ℕ} {player : Player}
    (createTime : player.createTime = (svc.players pid).createTime) (other : ℕ) :
    ((svc.setPlayer pid player).players other).createTime = (svc.players other).createTime := by
  by_cases same : other = pid
  · subst same
    simpa [Svc.setPlayer] using createTime
  · simp [Svc.setPlayer, same]

theorem seen_foldl_seenTo (ids : List ℕ) (last : Option ℕ) (id : ℕ) :
    Seen (ids.foldl seenTo last) id ↔ Seen last id ∨ ∃ other ∈ ids, id ≤ other := by
  induction ids generalizing last with
  | nil => simp
  | cons head ids induction =>
      rw [List.foldl_cons, induction, seen_seenTo]
      simp [or_assoc]

theorem Bag.seen_deserialize (bag : Bag) (mailType : MailType) (id : ℕ) :
    Seen (bag.deserialize.last mailType) id ↔
      Seen (bag.last mailType) id ∨ ∃ other ∈ bag.ids, id ≤ other := by
  cases mailType <;> exact seen_foldl_seenTo _ _ id

theorem Sound.load {svc : Svc} (sound : Sound svc others) (holds : idPool.Holds ⟨svc, others⟩)
    {pid : ℕ} (is_saved : svc.IsSaved pid) (ordered : svc.LoadsInOrder pid others) :
    Sound (svc.accept (.load pid)).1 others := by
  have current : ∀ other, (svc.accept (.load pid)).1.current other =
      if other = pid then svc.loaded pid else svc.current other :=
    fun other => current_setPlayer svc pid other _
  have stored : (svc.players pid).stored = svc.current pid := is_saved.symm
  have ids_eq :
      ∀ other, ((svc.accept (.load pid)).1.current other).ids = (svc.current other).ids := by
    intro other
    rw [current]
    split
    · next same => rw [same, Svc.loaded, stored]; rfl
    · rfl
  have seen_iff : ∀ mailType id, Seen ((svc.loaded pid).last mailType) id ↔
      Seen ((svc.current pid).last mailType) id ∨ ∃ other ∈ (svc.current pid).ids, id ≤ other := by
    intro mailType id
    rw [Svc.loaded, stored, Bag.seen_deserialize]
  have sound : Sound svc ([] ++ others) := sound
  refine sound.rebag (by simp) (fun task task_mem => (holds.own task task_mem).mails)
    rfl rfl (createTime_setPlayer rfl) rfl rfl rfl rfl rfl ?_ ?_ ?_ ?_ ?_ ?_ ?_
  · exact fun other mail _ mem => ids_eq other ▸ mem
  · intro other mailType id seen
    rw [current]
    split
    · next same => exact (seen_iff mailType id).mpr (.inl (same ▸ seen))
    · exact seen
  · exact fun other id mem => sound.books.ids other id (ids_eq other ▸ mem)
  · intro other mailType id seen
    rw [current] at seen
    split at seen
    · rcases (seen_iff mailType id).mp seen with old | ⟨larger, larger_mem, le⟩
      · exact sound.books.last pid mailType id old
      · exact le.trans (sound.books.ids pid larger larger_mem)
    · exact sound.books.last other mailType id seen
  · intro task task_mem mail mail_mem other
    obtain ⟨not_mem, unseen⟩ := (sound.knows task task_mem).newMails mail mail_mem other
    refine ⟨ids_eq other ▸ not_mem, fun addressed => ?_⟩
    rw [current]
    split
    · next same => exact ordered.2 task task_mem mail mail_mem (same ▸ addressed)
    · exact unseen addressed
  · exact fun task _ other mail _ mem => .inl ((ids_eq other).symm ▸ mem)
  · intro other mail wanted seen
    rw [current] at seen
    split at seen
    · next same =>
        exact .inr (same ▸ ordered.1 mail wanted.1 (same ▸ wanted) seen)
    · exact .inl seen

theorem Sound.delMails {svc : Svc} (sound : Sound svc others) (holds : idPool.Holds ⟨svc, others⟩)
    {pid : ℕ} {ids : List ℕ}
    (finished : ∀ mail ∈ svc.sent, mail.id ∈ ids → mail.id ∈ (svc.current pid).ids →
      svc.Finished pid others mail) : Sound (svc.accept (.delMails pid ids)).1 others := by
  have last_eq : ∀ other, ((svc.accept (.delMails pid ids)).1.current other).last =
      (svc.current other).last := by
    intro other
    funext mailType
    rw [Svc.accept, current_setPlayer]
    split
    · next same =>
        cases bag_eq : (svc.players pid).bag <;> cases mailType <;>
          simp [same, Svc.current, bag_eq, Bag.last]
    · rfl
  have ids_iff : ∀ other id, id ∈ ((svc.accept (.delMails pid ids)).1.current other).ids ↔
      id ∈ (svc.current other).ids ∧ (other = pid → ((svc.players pid).bag = none ∨ id ∉ ids)) := by
    intro other id
    rw [Svc.accept, current_setPlayer]
    split
    · next same =>
        cases bag_eq : (svc.players pid).bag with
        | none => simp [same, Svc.current, bag_eq]
        | some bag =>
            simp only [same, Svc.current, bag_eq, Bag.ids, Option.map_some, Option.getD_some,
              List.mem_map, List.mem_filter, decide_eq_true_eq, forall_const, reduceCtorEq,
              false_or]
            grind
    · next differ => simp [differ]
  have sound : Sound svc ([] ++ others) := sound
  refine sound.rebag (by simp) (fun task task_mem => (holds.own task task_mem).mails)
    rfl rfl (createTime_setPlayer rfl) rfl rfl rfl rfl rfl ?_ ?_ ?_ ?_ ?_ ?_ ?_
  · exact fun other mail _ mem => ((ids_iff other mail.id).mp mem).1
  · exact fun other mailType id seen => last_eq other ▸ seen
  · exact fun other id mem => sound.books.ids other id ((ids_iff other id).mp mem).1
  · exact fun other mailType id seen => sound.books.last other mailType id (last_eq other ▸ seen)
  · intro task task_mem mail mail_mem other
    obtain ⟨not_mem, unseen⟩ := (sound.knows task task_mem).newMails mail mail_mem other
    exact ⟨fun mem => not_mem ((ids_iff other mail.id).mp mem).1, last_eq other ▸ unseen⟩
  · intro task task_mem other mail mail_mem mem
    by_cases kept : mail.id ∈ ((svc.accept (.delMails pid ids)).1.current other).ids
    · exact .inl kept
    · have deleted : other = pid ∧ mail.id ∈ ids := by
        rw [ids_iff] at kept
        grind
      obtain ⟨rfl, id_mem⟩ := deleted
      exact .inr (finished mail mail_mem id_mem mem task task_mem)
  · exact fun other mail _ seen => .inl (last_eq other ▸ seen)

/-- `localAddMyMail` adds a mail that the mail service does not know. -/
theorem Sound.localMailId {svc : Svc} {pid loads id : ℕ} {mailData : MailData}
    (sound : Sound svc (.localMailId pid loads id mailData :: others))
    (holds : idPool.Holds ⟨svc, others⟩) (own : Carries svc (.localMailId pid loads id mailData))
    (apart : ∀ other ∈ others, Apart (.localMailId pid loads id mailData) other) :
    Sound (svc.resume (.localMailId pid loads id mailData) .deliver).1 others := by
  obtain ⟨_, bounded, not_sent⟩ := own.newIds id (List.mem_singleton_self id)
  have sound : Sound svc ([.localMailId pid loads id mailData] ++ others) := sound
  by_cases same_load : loads = (svc.players pid).loads
  · have after_eq : (svc.resume (.localMailId pid loads id mailData) .deliver).1 =
        svc.setPlayer pid { svc.players pid with
          bag := (svc.players pid).bag.map fun bag =>
            { bag with
              mailsDict := bag.mailsDict ++ [(mailData.data svc.now).mail .ply pid id] } } :=
      if_pos same_load
    rw [after_eq]
    generalize after_def : svc.setPlayer pid _ = after
    have last_eq : ∀ other, (after.current other).last = (svc.current other).last := by
      intro other
      funext mailType
      rw [← after_def, current_setPlayer]
      split
      · next same =>
          cases bag_eq : (svc.players pid).bag <;> cases mailType <;>
            simp [same, Svc.current, bag_eq, Bag.last]
      · rfl
    have ids_old : ∀ other, ∀ old ∈ (svc.current other).ids, old ∈ (after.current other).ids := by
      intro other old mem
      rw [← after_def, current_setPlayer]
      split
      · next same =>
          cases bag_eq : (svc.players pid).bag <;> simp_all [Svc.current, Bag.ids]
      · exact mem
    have ids_new : ∀ other, ∀ new ∈ (after.current other).ids,
        new ∈ (svc.current other).ids ∨ new = id := by
      intro other new mem
      rw [← after_def, current_setPlayer] at mem
      split at mem
      · next same =>
          cases bag_eq : (svc.players pid).bag <;>
            simp_all [Svc.current, Bag.ids, Data.mail]
      · exact .inl mem
    refine sound.rebag (List.forall_mem_singleton.mpr ⟨rfl, rfl⟩)
      (fun task task_mem => (holds.own task task_mem).mails) (after_def ▸ rfl) (after_def ▸ rfl)
      (after_def ▸ createTime_setPlayer rfl) (after_def ▸ rfl) (after_def ▸ rfl) (after_def ▸ rfl)
      (after_def ▸ rfl) (after_def ▸ rfl) ?_ ?_ ?_ ?_ ?_ ?_ ?_
    · exact fun other mail mail_mem mem =>
        (ids_new other mail.id mem).resolve_right (not_sent mail mail_mem)
    · exact fun other mailType seen_id seen => last_eq other ▸ seen
    · intro other new mem
      rcases ids_new other new mem with old | rfl
      · exact sound.books.ids other new old
      · exact bounded
    · exact fun other mailType seen_id seen =>
        sound.books.last other mailType seen_id (last_eq other ▸ seen)
    · intro task task_mem mail mail_mem other
      obtain ⟨not_mem, unseen⟩ :=
        (sound.knows task (List.mem_cons_of_mem _ task_mem)).newMails mail mail_mem other
      refine ⟨fun mem => ?_, last_eq other ▸ unseen⟩
      rcases ids_new other mail.id mem with old | same
      · exact not_mem old
      · exact (apart task task_mem).newIds id (List.mem_singleton_self id)
          (same ▸ (Task.newMails_id mail_mem).1)
    · exact fun task _ other mail _ mem => .inl (ids_old other mail.id mem)
    · exact fun other mail _ seen => .inl (last_eq other ▸ seen)
  · have after_eq : (svc.resume (.localMailId pid loads id mailData) .deliver).1 = svc :=
      if_neg same_load
    rw [after_eq, ← List.append_nil others]
    exact sound.turns (.idle (.refl svc) (List.forall_mem_singleton.mpr ⟨rfl, rfl⟩) (by simp)
      (by simp) (by simp) (fun _ mem => mem) rfl rfl)

namespace Bag

variable {createTime : ℕ} {bag : Bag}

variable {mail : Mail}

theorem last_addMyMail (mailType : MailType) (id : ℕ) :
    Seen ((bag.addMyMail createTime mail).last mailType) id ↔
      Seen (bag.last mailType) id ∨
        mail.id ∉ bag.ids ∧ mail.mailType = mailType ∧ id ≤ mail.id := by
  unfold addMyMail
  split
  · next mem => simp [mem]
  · next not_mem =>
      cases type_eq : mail.mailType <;> cases mailType <;> simp [last, seen_seenTo, not_mem]

theorem ids_addMyMail (id : ℕ) :
    id ∈ (bag.addMyMail createTime mail).ids ↔
      id ∈ bag.ids ∨ mail.CanAdd createTime ∧ id = mail.id := by
  unfold addMyMail
  split
  · next mem =>
      refine ⟨.inl, ?_⟩
      rintro (old | ⟨_, rfl⟩)
      · exact old
      · exact mem
  · cases type_eq : mail.mailType with
    | sys =>
        by_cases can_add : mail.CanAdd createTime <;> simp [ids, can_add]
    | ply =>
        have can_add : mail.CanAdd createTime := by simp [Mail.CanAdd, type_eq]
        simp [ids, can_add]

theorem last_addMyMails (mails : List Mail) (mailType : MailType) (id : ℕ) :
    (Seen (bag.last mailType) id → Seen ((bag.addMyMails createTime mails).last mailType) id) ∧
      (Seen ((bag.addMyMails createTime mails).last mailType) id → Seen (bag.last mailType) id ∨
        ∃ mail ∈ mails, mail.mailType = mailType ∧ id ≤ mail.id) := by
  induction mails generalizing bag with
  | nil => exact ⟨fun seen => seen, .inl⟩
  | cons mail mails induction =>
      obtain ⟨grows, covered⟩ := @induction (bag.addMyMail createTime mail)
      refine ⟨fun seen => grows (last_addMyMail mailType id |>.mpr (.inl seen)), fun seen => ?_⟩
      rcases covered seen with before | ⟨other, other_mem, type_eq, le⟩
      · rcases (last_addMyMail mailType id).mp before with old | ⟨_, type_eq, le⟩
        · exact .inl old
        · exact .inr ⟨mail, List.mem_cons_self, type_eq, le⟩
      · exact .inr ⟨other, List.mem_cons_of_mem _ other_mem, type_eq, le⟩

theorem ids_addMyMails (mails : List Mail) (id : ℕ) :
    (id ∈ bag.ids → id ∈ (bag.addMyMails createTime mails).ids) ∧
      (id ∈ (bag.addMyMails createTime mails).ids → id ∈ bag.ids ∨
        ∃ mail ∈ mails, mail.id = id ∧
          Seen ((bag.addMyMails createTime mails).last mail.mailType) id) := by
  induction mails generalizing bag with
  | nil => exact ⟨fun mem => mem, .inl⟩
  | cons mail mails induction =>
      obtain ⟨grows, enters⟩ := @induction (bag.addMyMail createTime mail)
      refine ⟨fun mem => grows (ids_addMyMail id |>.mpr (.inl mem)), fun mem => ?_⟩
      rcases enters mem with before | ⟨other, other_mem, id_eq, seen⟩
      · by_cases old : id ∈ bag.ids
        · exact .inl old
        · obtain ⟨_, rfl⟩ := ((ids_addMyMail id).mp before).resolve_left old
          refine .inr ⟨mail, List.mem_cons_self, rfl, ?_⟩
          exact (last_addMyMails mails _ _).1 ((last_addMyMail _ _).mpr (.inr ⟨old, rfl, le_rfl⟩))
      · exact .inr ⟨other, List.mem_cons_of_mem _ other_mem, id_eq, seen⟩

theorem mem_addMyMails {mails : List Mail} (mem : mail ∈ mails) (can_add : mail.CanAdd createTime) :
    mail.id ∈ (bag.addMyMails createTime mails).ids := by
  induction mails generalizing bag with
  | nil => cases mem
  | cons head mails induction =>
      rcases List.mem_cons.mp mem with rfl | mem
      · exact (ids_addMyMails mails _).1 ((ids_addMyMail _).mpr (.inr ⟨can_add, rfl⟩))
      · exact induction mem

end Bag

/-- The mail bag of a player takes in what is new of some mails. -/
structure Enters (svc after : Svc) (pid : ℕ) (mails : List Mail) : Prop where
  sent : after.sent = svc.sent
  mailId : after.mailId = svc.mailId
  now : after.now = svc.now
  mailsDict : after.mailsDict = svc.mailsDict
  plymail : after.plymail = svc.plymail
  sysmail : after.sysmail = svc.sysmail
  createTime : ∀ other, (after.players other).createTime = (svc.players other).createTime
  current : ∀ other, after.current other =
    if other = pid then (svc.current pid).addMyMails (svc.players pid).createTime mails
    else svc.current other
  entered : ∀ other id, after.entered other id =
    if id ∈ (after.current other).ids ∧ id ∉ (svc.current other).ids then
      svc.entered other id + 1
    else svc.entered other id

namespace Enters

variable {svc after : Svc} {pid : ℕ} {mails : List Mail}

variable {other id : ℕ}

section

variable (enters : Enters svc after pid mails)
include enters

theorem last_mono {mailType : MailType} (seen : Seen ((svc.current other).last mailType) id) :
    Seen ((after.current other).last mailType) id := by
  rw [enters.current]
  split
  · next same => exact (Bag.last_addMyMails mails mailType id).1 (same ▸ seen)
  · exact seen

theorem last_cases {mailType : MailType} (seen : Seen ((after.current other).last mailType) id) :
    Seen ((svc.current other).last mailType) id ∨
      other = pid ∧ ∃ mail ∈ mails, mail.mailType = mailType ∧ id ≤ mail.id := by
  rw [enters.current] at seen
  split at seen
  · next same =>
      rw [same]
      exact ((Bag.last_addMyMails mails mailType id).2 seen).imp_right fun found => ⟨rfl, found⟩
  · exact .inl seen

theorem ids_mono (mem : id ∈ (svc.current other).ids) : id ∈ (after.current other).ids := by
  rw [enters.current]
  split
  · next same => exact (Bag.ids_addMyMails mails id).1 (same ▸ mem)
  · exact mem

theorem ids_cases (mem : id ∈ (after.current other).ids) :
    id ∈ (svc.current other).ids ∨
      other = pid ∧ ∃ mail ∈ mails, mail.id = id ∧
        Seen ((after.current other).last mail.mailType) id := by
  rw [enters.current] at mem ⊢
  split at mem
  · next same =>
      rw [if_pos same, same]
      exact ((Bag.ids_addMyMails mails id).2 mem).imp_right fun found => ⟨rfl, found⟩
  · exact .inl mem

theorem entered_cases (positive : 0 < after.entered other id) : 0 < svc.entered other id ∨
      id ∈ (after.current other).ids ∧ id ∉ (svc.current other).ids := by
  rw [enters.entered] at positive
  split at positive
  · next new => exact .inr new
  · exact .inl positive

theorem entered_mono (positive : 0 < svc.entered other id) : 0 < after.entered other id := by
  rw [enters.entered]
  split
  · exact Nat.succ_pos _
  · exact positive

theorem addressed (other : ℕ) (mail : Mail) :
    after.Addressed other mail ↔ svc.Addressed other mail := by
  simp only [Svc.Addressed, enters.createTime]

theorem wanted {mail : Mail} (wanted : after.Wanted other mail) : svc.Wanted other mail := by
  obtain ⟨mem, address, not_entered, lives⟩ := wanted
  refine ⟨enters.sent ▸ mem, (enters.addressed other mail).mp address, ?_, enters.now ▸ lives⟩
  by_contra positive
  exact absurd not_entered (enters.entered_mono (Nat.pos_of_ne_zero positive)).ne'

end

end Enters

theorem Svc.Addressed.canAdd {svc : Svc} {pid : ℕ} {mail : Mail}
    (addressed : svc.Addressed pid mail) :
    mail.CanAdd (svc.players pid).createTime := by
  unfold Svc.Addressed at addressed
  split at addressed
  · next ply => simp [Mail.CanAdd, ply]
  · exact addressed

section

variable {svc : Svc} {pid : ℕ} {mails : List Mail}
  (sound : Sound svc (.addPlayerMails pid mails :: others))
  (holds : idPool.Holds ⟨svc, others⟩) (made : ∀ mail ∈ mails, mail ∈ svc.sent)
include sound holds made

/-- An answer whose mails enter the mail bag keeps the standing condition. -/
theorem Sound.enters {after : Svc} {next : List Task}
    (enters : Enters svc after pid mails) (light : ∀ task ∈ next, Light task)
    (query : ∀ task ∈ next, task.query = none) (knows : ∀ task ∈ next, Knows after task) :
    Sound after (others ++ next) := by
  have kept : Kept svc := holds.shared
  have once_new : ∀ other id, id ∈ (after.current other).ids → id ∉ (svc.current other).ids →
      svc.entered other id = 0 := by
    intro other id mem not_mem
    obtain ⟨rfl, mail, mail_mem, rfl, _⟩ := (enters.ids_cases mem).resolve_left not_mem
    by_contra positive
    exact not_mem (sound.brings _ List.mem_cons_self _ mail ⟨rfl, mail_mem⟩
      (Nat.pos_of_ne_zero positive))
  refine ⟨⟨?_, ?_, ?_, ?_, ?_, ?_⟩, ?_, ?_, ?_, ?_, ?_⟩
  · intro other id
    rw [enters.entered]
    split
    · next new => rw [once_new other id new.1 new.2]
    · exact sound.books.once other id
  · intro other mail mail_mem mem
    by_cases old : mail.id ∈ (svc.current other).ids
    · exact enters.entered_mono (sound.books.inside other mail (enters.sent ▸ mail_mem) old)
    · rw [enters.entered, if_pos ⟨mem, old⟩]
      exact Nat.succ_pos _
  · intro other id positive
    rw [enters.sent]
    rcases enters.entered_cases positive with before | ⟨mem, not_mem⟩
    · exact sound.books.made other id before
    · obtain ⟨_, mail, mail_mem, id_eq, _⟩ := (enters.ids_cases mem).resolve_left not_mem
      exact ⟨mail, made mail mail_mem, id_eq⟩
  · intro other mail mail_mem positive
    rw [enters.sent] at mail_mem
    rcases enters.entered_cases positive with before | ⟨mem, not_mem⟩
    · exact enters.last_mono (sound.books.seen other mail mail_mem before)
    · obtain ⟨_, entered, entered_mem, id_eq, seen⟩ :=
        (enters.ids_cases mem).resolve_left not_mem
      exact kept.eq_of_id (made entered entered_mem) mail_mem id_eq ▸ seen
  · intro other id mem
    rw [enters.mailId]
    rcases enters.ids_cases mem with old | ⟨_, mail, mail_mem, rfl, _⟩
    · exact sound.books.ids other id old
    · exact kept.bounded mail (made mail mail_mem)
  · intro other mailType id seen
    rw [enters.mailId]
    rcases enters.last_cases seen with old | ⟨_, mail, mail_mem, _, le⟩
    · exact sound.books.last other mailType id old
    · exact le.trans (kept.bounded mail (made mail mail_mem))
  · intro task task_mem
    rcases List.mem_append.mp task_mem with old | new
    · obtain ⟨newMails, query, removes, finds⟩ := sound.knows task (List.mem_cons_of_mem _ old)
      refine ⟨fun mail mail_mem other => ?_, fun asked asked_mem mailType id positive covered =>
        enters.last_mono (query asked asked_mem mailType id positive covered),
        fun other ids task_eq id id_mem =>
          enters.entered_mono (removes other ids task_eq id id_mem),
        enters.now ▸ finds⟩
      obtain ⟨not_mem, unseen⟩ := newMails mail mail_mem other
      obtain ⟨id_mem, creates⟩ := Task.newMails_id mail_mem
      refine ⟨fun mem => ?_, fun address seen => ?_⟩
      · rcases enters.ids_cases mem with before | ⟨_, entered, entered_mem, id_eq, _⟩
        · exact not_mem before
        · exact ((holds.own task old).newIds _ id_mem).2.2 entered (made entered entered_mem) id_eq
      · rcases enters.last_cases seen with before | ⟨_, entered, entered_mem, _, le⟩
        · exact unseen ((enters.addressed other mail).mp address) before
        · exact absurd le ((holds.own task old).newest creates _ id_mem entered
            (made entered entered_mem)).not_ge
    · exact knows task new
  · intro task task_mem other mail brings positive
    rcases enters.entered_cases positive with before | ⟨mem, _⟩
    · rcases List.mem_append.mp task_mem with old | new
      · exact enters.ids_mono
          (sound.brings task (List.mem_cons_of_mem _ old) other mail brings before)
      · simp [Task.Brings, (light task new).2] at brings
    · exact mem
  · intro task task_mem other mail mail_mem asks positive
    rw [enters.sent] at mail_mem
    rcases enters.entered_cases positive with before | ⟨mem, _⟩
    · rcases List.mem_append.mp task_mem with old | new
      · rcases sound.asks task (List.mem_cons_of_mem _ old) other mail mail_mem asks before with
          mem | ⟨cache, row, sysrow, unsaved⟩
        · exact .inl (enters.ids_mono mem)
        · refine .inr ⟨enters.mailsDict ▸ cache, enters.plymail ▸ row, enters.sysmail ▸ sysrow,
            fun saver saver_mem => ?_⟩
          rcases List.mem_append.mp saver_mem with old | new
          · exact unsaved saver (List.mem_cons_of_mem _ old)
          · simp [(light saver new).1]
      · exact absurd asks (Task.not_asks (query task new) other mail)
    · exact .inl mem
  · intro other mail wanted
    rw [enters.plymail, enters.sysmail]
    rcases sound.saved other mail (enters.wanted wanted) with
      row | row | ⟨saver, saver_mem, pending⟩
    · exact .inl row
    · exact .inr (.inl row)
    · rcases List.mem_cons.mp saver_mem with rfl | saver_mem
      · simp [Task.pending] at pending
      · exact .inr (.inr ⟨saver, List.mem_append_left _ saver_mem, pending⟩)
  · intro other mail wanted passed
    have before := enters.wanted wanted
    -- What the mail bag has just seen was passed by the answer.
    have passed_before : Seen ((svc.current other).last mail.mailType) mail.id ∨
        ∃ task ∈ Task.addPlayerMails pid mails :: others, task.Passes other mail := by
      rcases passed with seen | ⟨passer, passer_mem, passes⟩
      · rcases enters.last_cases seen with old | ⟨rfl, larger, larger_mem, type_eq, le⟩
        · exact .inl old
        · exact .inr ⟨_, List.mem_cons_self, rfl, larger, larger_mem, type_eq, le⟩
      · rcases List.mem_append.mp passer_mem with old | new
        · exact .inr ⟨passer, List.mem_cons_of_mem _ old, passes⟩
        · exact absurd passes (Task.not_passes (light passer new).2 other mail)
    obtain ⟨bringer, bringer_mem, brings⟩ := sound.ahead other mail before passed_before
    rcases List.mem_cons.mp bringer_mem with rfl | bringer_mem
    · obtain ⟨rfl, mail_mem⟩ := brings
      have mem : mail.id ∈ (after.current pid).ids := by
        rw [enters.current, if_pos rfl]
        exact Bag.mem_addMyMails mail_mem before.2.1.canAdd
      have positive : 0 < after.entered pid mail.id := by
        by_cases old : mail.id ∈ (svc.current pid).ids
        · exact enters.entered_mono (sound.books.inside pid mail before.1 old)
        · rw [enters.entered, if_pos ⟨mem, old⟩]
          exact Nat.succ_pos _
      exact absurd wanted.2.2.1 positive.ne'
    · exact ⟨bringer, List.mem_append_left _ bringer_mem, brings⟩

theorem Sound.addPlayerMails {bag : Bag}
    (bag_eq : (svc.players pid).bag = some bag) (online : (svc.players pid).online = true) :
    Sound (svc.addPlayerMails pid mails).1 (others ++ (svc.addPlayerMails pid mails).2) := by
  have current_eq : svc.current pid = bag := by simp [Svc.current, bag_eq]
  have result_eq : svc.addPlayerMails pid mails =
      ({ svc.setPlayer pid { svc.players pid with
            bag := some (bag.addMyMails (svc.players pid).createTime mails) } with
          entered := Function.update svc.entered pid fun id =>
            if id ∈ (bag.addMyMails (svc.players pid).createTime mails).ids ∧ id ∉ bag.ids then
              svc.entered pid id + 1
            else svc.entered pid id },
        if bag.delPlyMailIds mails = [] then []
        else [.delPlayerMails pid (bag.delPlyMailIds mails)]) := by
    simp [Svc.addPlayerMails, bag_eq, online]
  have current : ∀ other, (svc.addPlayerMails pid mails).1.current other =
      if other = pid then (svc.current pid).addMyMails (svc.players pid).createTime mails
      else svc.current other := by
    intro other
    rw [result_eq, current_eq]
    exact current_setPlayer svc pid other _
  have enters : Enters svc (svc.addPlayerMails pid mails).1 pid mails := by
    refine ⟨by rw [result_eq]; rfl, by rw [result_eq]; rfl, by rw [result_eq]; rfl,
      by rw [result_eq]; rfl, by rw [result_eq]; rfl, by rw [result_eq]; rfl, ?_, current, ?_⟩
    · rw [result_eq]
      exact createTime_setPlayer rfl
    · intro other id
      rw [current]
      split
      · next same =>
          rw [result_eq, same, current_eq]
          simp
      · next differ =>
          rw [result_eq]
          simp [differ]
  have next_eq : ∀ task ∈ (svc.addPlayerMails pid mails).2,
      task = .delPlayerMails pid (bag.delPlyMailIds mails) := by
    rw [result_eq]
    intro task task_mem
    dsimp only at task_mem
    split at task_mem
    · cases task_mem
    · exact List.mem_singleton.mp task_mem
  refine sound.enters holds made enters (fun task task_mem => ?_) (fun task task_mem => ?_)
    (fun task task_mem => ?_)
  · rw [next_eq task task_mem]
    exact ⟨rfl, rfl⟩
  · rw [next_eq task task_mem]
    rfl
  · rw [next_eq task task_mem]
    refine ⟨by simp [Task.newMails], by simp [Task.query], ?_, by simp⟩
    rintro _ _ ⟨⟩ id id_mem
    obtain ⟨mail, mail_mem, rfl⟩ := List.mem_map.mp id_mem
    obtain ⟨mail_mem, new⟩ := List.mem_filter.mp mail_mem
    obtain ⟨ply, not_mem⟩ : mail.mailType = .ply ∧ mail.id ∉ bag.ids := by simpa using new
    have can_add : mail.CanAdd (svc.players pid).createTime := by simp [Mail.CanAdd, ply]
    have mem : mail.id ∈ ((svc.addPlayerMails pid mails).1.current pid).ids := by
      rw [current, if_pos rfl]
      exact Bag.mem_addMyMails mail_mem can_add
    rw [enters.entered, if_pos ⟨mem, current_eq ▸ not_mem⟩]
    exact Nat.succ_pos _

end

end BasWar.Mails.Delivery
