import BasWar.Mail.DeliveryIds

/-!
# Last ids that were seen

Over every orderly run a mail enters a mail bag at most once, and a mail that a player waits for is
saved or going to be saved; when its id or a larger one is on its way or seen, an answer brings it.
-/

namespace BasWar.Mails.Delivery

open Cooperative

@[simp]
theorem seen_none (id : ℕ) : ¬Seen none id :=
  not_false

theorem Seen.anti {last : Option ℕ} {small large : ℕ} (seen : Seen last large)
    (le : small ≤ large) : Seen last small := by
  cases last with
  | none => exact seen
  | some last => exact le.trans seen

theorem seen_seenTo {last : Option ℕ} {next id : ℕ} :
    Seen (seenTo last next) id ↔ Seen last id ∨ id ≤ next := by
  unfold seenTo
  split
  · next seen =>
      constructor
      · exact .inl
      · rintro (old | le)
        · exact old
        · exact seen.anti le
  · next unseen =>
      constructor
      · exact .inr
      · rintro (old | le)
        · by_contra not_le
          exact unseen (old.anti (Nat.le_of_not_le not_le))
        · exact le

/-- No mail enters a mail bag twice; what is in there has entered, and what has entered was made and
is seen. -/
structure Books (svc : Svc) : Prop where
  once : ∀ pid id, svc.entered pid id ≤ 1
  inside : ∀ pid, ∀ mail ∈ svc.sent, mail.id ∈ (svc.current pid).ids →
    0 < svc.entered pid mail.id
  made : ∀ pid id, 0 < svc.entered pid id → ∃ mail ∈ svc.sent, mail.id = id
  seen : ∀ pid, ∀ mail ∈ svc.sent, 0 < svc.entered pid mail.id →
    Seen ((svc.current pid).last mail.mailType) mail.id
  ids : ∀ pid, ∀ id ∈ (svc.current pid).ids, id ≤ svc.mailId
  last : ∀ pid mailType id, Seen ((svc.current pid).last mailType) id → id ≤ svc.mailId

def Task.query : Task → Option Query
  | .getPlayerMails query | .findPlymail query _ => some query
  | .plymail query _ | .findSysmail query _ _ => some query
  | _ => none

/-- What a suspended task knows about the mail bags. -/
structure Knows (svc : Svc) (task : Task) : Prop where
  newMails : ∀ mail ∈ task.newMails, ∀ pid, mail.id ∉ (svc.current pid).ids ∧
    (svc.Addressed pid mail → ¬Seen ((svc.current pid).last mail.mailType) mail.id)
  query : ∀ query ∈ task.query, ∀ mailType id, 0 < id → Seen (query.last mailType) id →
    Seen ((svc.current query.pid).last mailType) id
  delPlayerMails : ∀ pid ids, task = .delPlayerMails pid ids → ∀ id ∈ ids, 0 < svc.entered pid id
  findSysmail : ∀ query now mailDict, task = .findSysmail query now mailDict →
    now ≤ svc.now ∧ query.check = false

variable {task : Task}

theorem Knows.bare {svc : Svc} (newMails : task.newMails = []) (query : task.query = none)
    (delPlayerMails : ∀ pid ids, task ≠ .delPlayerMails pid ids) :
    Knows svc task where
  newMails := by simp [newMails]
  query := by simp [query]
  delPlayerMails pid ids task_eq := absurd task_eq (delPlayerMails pid ids)
  findSysmail _ _ _ task_eq := by
    subst task_eq
    cases query

/-- What holds of the books and of all suspended tasks together. -/
structure Sound (svc : Svc) (tasks : List Task) : Prop where
  books : Books svc
  knows : ∀ task ∈ tasks, Knows svc task
  brings : ∀ task ∈ tasks, ∀ pid mail, task.Brings pid mail → 0 < svc.entered pid mail.id →
    mail.id ∈ (svc.current pid).ids
  asks : ∀ task ∈ tasks, ∀ pid, ∀ mail ∈ svc.sent, task.Asks pid mail →
    0 < svc.entered pid mail.id → mail.id ∈ (svc.current pid).ids ∨ svc.Gone tasks mail
  saved : ∀ pid mail, svc.Wanted pid mail →
    mail ∈ svc.plymail ∨ mail ∈ svc.sysmail ∨ ∃ task ∈ tasks, mail ∈ task.pending
  ahead : ∀ pid mail, svc.Wanted pid mail →
    (Seen ((svc.current pid).last mail.mailType) mail.id ∨ ∃ task ∈ tasks, task.Passes pid mail) →
      Brought tasks pid mail

/-- The standing condition of the delivery. -/
def standing : Standing Svc Task where
  holds := Sound
  perm := by
    rintro svc first second perm ⟨books, knows, brings, asks, saved, ahead⟩
    have gone : ∀ mail, svc.Gone first mail ↔ svc.Gone second mail := by
      simp [Svc.Gone, perm.mem_iff]
    have brought : ∀ pid mail, Brought first pid mail ↔ Brought second pid mail := by
      simp [Brought, perm.mem_iff]
    simp only [perm.mem_iff, gone, brought] at knows brings asks saved ahead
    exact ⟨books, knows, brings, asks, saved, ahead⟩

/-- The mail bags of all players, what has entered them and the mails made are as before. -/
structure Calm (before after : Svc) : Prop where
  sent : after.sent = before.sent
  entered : after.entered = before.entered
  current : ∀ pid, after.current pid = before.current pid
  createTime : ∀ pid, (after.players pid).createTime = (before.players pid).createTime
  now : before.now ≤ after.now
  mailId : before.mailId ≤ after.mailId

namespace Calm

variable {before after : Svc}

theorem of_players (sent : after.sent = before.sent) (entered : after.entered = before.entered)
    (players : after.players = before.players) (now : before.now ≤ after.now)
    (mailId : before.mailId ≤ after.mailId) : Calm before after :=
  ⟨sent, entered, fun _ => by rw [Svc.current, Svc.current, players],
    fun _ => by rw [players], now, mailId⟩

theorem refl (svc : Svc) : Calm svc svc :=
  .of_players rfl rfl rfl le_rfl le_rfl

theorem setPlayer {svc : Svc} {pid : ℕ} {player : Player}
    (current : player.bag.getD player.stored = svc.current pid)
    (createTime : player.createTime = (svc.players pid).createTime) :
    Calm svc (svc.setPlayer pid player) where
  sent := rfl
  entered := rfl
  current other := by
    by_cases same : other = pid
    · subst same
      simpa [Svc.current, Svc.setPlayer] using current
    · simp [Svc.current, Svc.setPlayer, same]
  createTime other := by
    by_cases same : other = pid
    · subst same
      simpa [Svc.setPlayer] using createTime
    · simp [Svc.setPlayer, same]
  now := le_rfl
  mailId := le_rfl

section

variable (calm : Calm before after)
include calm

theorem addressed (pid : ℕ) (mail : Mail) :
    after.Addressed pid mail ↔ before.Addressed pid mail := by
  simp only [Svc.Addressed, calm.createTime]

theorem lives {mail : Mail} (lives : mail.Lives after.now) : mail.Lives before.now :=
  lives.imp_right calm.now.trans_lt

theorem wanted {pid : ℕ} {mail : Mail} (wanted : after.Wanted pid mail) :
    before.Wanted pid mail := by
  obtain ⟨sent, addressed, entered, lives⟩ := wanted
  exact ⟨calm.sent ▸ sent, (calm.addressed pid mail).mp addressed, calm.entered ▸ entered,
    calm.lives lives⟩

theorem books (books : Books before) : Books after where
  once := calm.entered ▸ books.once
  inside pid := by
    rw [calm.sent, calm.entered, calm.current pid]
    exact books.inside pid
  made := calm.sent ▸ calm.entered ▸ books.made
  seen pid := by
    rw [calm.sent, calm.entered, calm.current pid]
    exact books.seen pid
  ids pid id id_mem := (books.ids pid id (calm.current pid ▸ id_mem)).trans calm.mailId
  last pid mailType id seen :=
    (books.last pid mailType id (calm.current pid ▸ seen)).trans calm.mailId

theorem knows {task : Task} (knows : Knows before task) :
    Knows after task where
  newMails mail mail_mem pid := by
    rw [calm.current pid, calm.addressed pid mail]
    exact knows.newMails mail mail_mem pid
  query query query_mem := by
    rw [calm.current query.pid]
    exact knows.query query query_mem
  delPlayerMails := calm.entered ▸ knows.delPlayerMails
  findSysmail query now mailDict task_eq :=
    (knows.findSysmail query now mailDict task_eq).imp_left fun le => le.trans calm.now

end

end Calm

theorem Task.mem_mails {mail : Mail} (mem : mail ∈ task.answer) : mail ∈ task.mails := by
  cases task with
  | plymail | findSysmail | addPlayerMails => exact mem
  | _ => simp [Task.answer] at mem

theorem Task.not_passes (mails : task.mails = []) (pid : ℕ) (mail : Mail) :
    ¬task.Passes pid mail := by
  rintro ⟨_, other, other_mem, _⟩
  simpa [mails] using Task.mem_mails other_mem

theorem brought_append {first second : List Task} {pid : ℕ} {mail : Mail} :
    Brought (first ++ second) pid mail ↔ Brought first pid mail ∨ Brought second pid mail := by
  simp [Brought, or_and_right, exists_or]

/-- A segment that turns the tasks `old` into the tasks `next` and leaves the mail bags alone. -/
structure Turns (svc after : Svc) (old others next : List Task) : Prop where
  calm : Calm svc after
  knows : ∀ task ∈ next, Knows after task
  brings : ∀ task ∈ next, ∀ pid mail, task.Brings pid mail → 0 < svc.entered pid mail.id →
    mail.id ∈ (svc.current pid).ids
  asks : ∀ task ∈ next, ∀ pid, ∀ mail ∈ svc.sent, task.Asks pid mail →
    0 < svc.entered pid mail.id →
      mail.id ∈ (svc.current pid).ids ∨ svc.Gone (old ++ others) mail
  mailsDict : ∀ mail ∈ after.mailsDict, mail ∈ svc.mailsDict
  rows : ∀ mail, mail ∈ after.plymail ∨ mail ∈ after.sysmail →
    mail ∈ svc.plymail ∨ mail ∈ svc.sysmail ∨ ∃ task ∈ old, mail ∈ task.pending
  pending : ∀ task ∈ next, ∀ mail ∈ task.pending, ∃ task ∈ old, mail ∈ task.pending
  saved : ∀ pid mail, svc.Wanted pid mail →
    (mail ∈ svc.plymail ∨ mail ∈ svc.sysmail ∨ ∃ task ∈ old, mail ∈ task.pending) →
      mail ∈ after.plymail ∨ mail ∈ after.sysmail ∨ ∃ task ∈ next, mail ∈ task.pending
  passes : ∀ pid mail, svc.Wanted pid mail → (∃ task ∈ next, task.Passes pid mail) →
    Brought (old ++ others) pid mail ∨ Brought next pid mail
  loses : ∀ pid mail, svc.Wanted pid mail → Brought old pid mail →
    (Seen ((svc.current pid).last mail.mailType) mail.id ∨
      ∃ task ∈ others ++ next, task.Passes pid mail) → Brought (others ++ next) pid mail

theorem Sound.turns {svc after : Svc} {old others next : List Task}
    (sound : Sound svc (old ++ others)) (turns : Turns svc after old others next) :
    Sound after (others ++ next) := by
  have gone : ∀ mail, svc.Gone (old ++ others) mail → after.Gone (others ++ next) mail := by
    rintro mail ⟨cache, plymail, sysmail, pending⟩
    have not_old : ∀ task ∈ old, mail ∉ task.pending :=
      fun task task_mem => pending task (List.mem_append_left _ task_mem)
    have no_rows : ¬(mail ∈ after.plymail ∨ mail ∈ after.sysmail) := fun row => by
      rcases turns.rows mail row with row | row | ⟨task, task_mem, row⟩
      · exact plymail row
      · exact sysmail row
      · exact not_old task task_mem row
    refine ⟨fun mem => cache (turns.mailsDict mail mem), fun row => no_rows (.inl row),
      fun row => no_rows (.inr row), fun task task_mem mem => ?_⟩
    rcases List.mem_append.mp task_mem with other | new
    · exact pending task (List.mem_append_right _ other) mem
    · obtain ⟨task, task_mem, mem⟩ := turns.pending task new mail mem
      exact not_old task task_mem mem
  refine ⟨turns.calm.books sound.books, ?_, ?_, ?_, ?_, ?_⟩
  · intro task task_mem
    rcases List.mem_append.mp task_mem with other | new
    · exact turns.calm.knows (sound.knows task (List.mem_append_right _ other))
    · exact turns.knows task new
  · intro task task_mem pid mail brings
    rw [turns.calm.entered, turns.calm.current]
    rcases List.mem_append.mp task_mem with other | new
    · exact sound.brings task (List.mem_append_right _ other) pid mail brings
    · exact turns.brings task new pid mail brings
  · intro task task_mem pid mail
    rw [turns.calm.sent, turns.calm.entered, turns.calm.current]
    intro mail_mem asks entered
    refine Or.imp_right (gone mail) ?_
    rcases List.mem_append.mp task_mem with other | new
    · exact sound.asks task (List.mem_append_right _ other) pid mail mail_mem asks entered
    · exact turns.asks task new pid mail mail_mem asks entered
  · intro pid mail wanted
    have wanted := turns.calm.wanted wanted
    rcases sound.saved pid mail wanted with row | row | ⟨task, task_mem, pending⟩
    · exact (turns.saved pid mail wanted (.inl row)).imp_right (.imp_right (by grind))
    · exact (turns.saved pid mail wanted (.inr (.inl row))).imp_right (.imp_right (by grind))
    · rcases List.mem_append.mp task_mem with gone | other
      · exact (turns.saved pid mail wanted (.inr (.inr ⟨task, gone, pending⟩))).imp_right
          (.imp_right (by grind))
      · exact .inr (.inr ⟨task, List.mem_append_left _ other, pending⟩)
  · intro pid mail wanted
    have wanted := turns.calm.wanted wanted
    rw [turns.calm.current]
    intro passed
    have brought : Brought (old ++ others) pid mail ∨ Brought next pid mail := by
      rcases passed with seen | ⟨task, task_mem, passes⟩
      · exact .inl (sound.ahead pid mail wanted (.inl seen))
      · rcases List.mem_append.mp task_mem with other | new
        · exact .inl (sound.ahead pid mail wanted
            (.inr ⟨task, List.mem_append_right _ other, passes⟩))
        · exact turns.passes pid mail wanted ⟨task, new, passes⟩
    rcases brought with brought | brought
    · rcases brought_append.mp brought with gone | other
      · exact turns.loses pid mail wanted gone passed
      · exact brought_append.mpr (.inl other)
    · exact brought_append.mpr (.inr brought)

end BasWar.Mails.Delivery
