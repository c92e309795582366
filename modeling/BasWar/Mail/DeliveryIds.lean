import BasWar.Mail.Delivered

/-!
# Ids of mails

Only one mail is in the making at a time, and its id is larger than those of all mails before it.
The cache and the tables hold mails that were made, each in the place of its type; so do the
answers and the mails that are going to be saved.
-/

namespace BasWar.Mails.Delivery

open Cooperative

namespace Task

def newIds : Task → List ℕ
  | .plyMailId id _ _ _ | .sysMailId id _ | .localMailId _ _ id _ => [id]
  | _ => []

def saves : Task → MailType
  | .updateSysmail _ => .sys
  | _ => .ply

theorem newMails_id {task : Task} {mail : Mail} (mem : mail ∈ task.newMails) :
    mail.id ∈ task.newIds ∧ task.Creates := by
  cases task with
  | plyMailId id data toPidList =>
      cases toPidList with
      | nil => simp [newMails] at mem
      | cons => simp_all [newMails, newIds, Creates, Data.mail]
  | sysMailId => simp_all [newMails, newIds, Creates, Data.mail]
  | _ => simp [newMails] at mem

end Task

/-- Only made mails are kept, each in the place of its type. -/
structure Kept (svc : Svc) : Prop where
  positive : ∀ mail ∈ svc.sent, 0 < mail.id
  bounded : ∀ mail ∈ svc.sent, mail.id ≤ svc.mailId
  nodup : (svc.sent.map Mail.id).Nodup
  mailsDict : ∀ mail ∈ svc.mailsDict, mail ∈ svc.sent ∧ mail.mailType = .ply
  plymail : ∀ mail ∈ svc.plymail, mail ∈ svc.sent ∧ mail.mailType = .ply
  sysmail : ∀ mail ∈ svc.sysmail, mail ∈ svc.sent ∧ mail.mailType = .sys

variable {svc before after : Svc} {task : Task} {others : List Task} {mail : Mail} {query : Query}

theorem Kept.eq_of_id (kept : Kept svc) {first second : Mail} (first_mem : first ∈ svc.sent)
    (second_mem : second ∈ svc.sent) (id_eq : first.id = second.id) : first = second :=
  List.inj_on_of_nodup_map kept.nodup first_mem second_mem id_eq

/-- What a suspended task knows about the ids. -/
structure Carries (svc : Svc) (task : Task) : Prop where
  creates : task.Creates → svc.sending = true
  newIds : ∀ id ∈ task.newIds, 0 < id ∧ id ≤ svc.mailId ∧ ∀ mail ∈ svc.sent, mail.id ≠ id
  newest : task.Creates → ∀ id ∈ task.newIds, ∀ mail ∈ svc.sent, mail.id < id
  pending : ∀ mail ∈ task.pending, mail ∈ svc.sent ∧ mail.mailType = task.saves
  mails : ∀ mail ∈ task.mails, mail ∈ svc.sent

/-- Only one task makes mails, and new ids differ. -/
structure Apart (first second : Task) : Prop where
  creates : first.Creates → ¬second.Creates
  newIds : ∀ id ∈ first.newIds, id ∉ second.newIds

theorem Apart.symm {first second : Task} (apart : Apart first second) : Apart second first where
  creates second_creates first_creates := apart.creates first_creates second_creates
  newIds id second_mem first_mem := apart.newIds id first_mem second_mem

def idPool : Pool Svc Task where
  shared := Kept
  own := Carries
  apart := Apart
  apart_symm := Apart.symm

/-- A task that makes no mail, and what it saves and brings was made. -/
structure Plain (svc : Svc) (task : Task) : Prop where
  creates : ¬task.Creates
  newIds : task.newIds = []
  pending : ∀ mail ∈ task.pending, mail ∈ svc.sent ∧ mail.mailType = task.saves
  mails : ∀ mail ∈ task.mails, mail ∈ svc.sent

theorem Plain.bare (creates : ¬task.Creates) (newIds : task.newIds = [])
    (pending : task.pending = []) (mails : task.mails = []) : Plain svc task :=
  ⟨creates, newIds, by simp [pending], by simp [mails]⟩

theorem Plain.apart (plain : Plain svc task) (other : Task) :
    Apart other task where
  creates _ := plain.creates
  newIds := by simp [plain.newIds]

theorem Plain.carries (plain : Plain svc task) : Carries svc task where
  creates creates := absurd creates plain.creates
  newIds := by simp [plain.newIds]
  newest creates := absurd creates plain.creates
  pending := plain.pending
  mails := plain.mails

theorem Carries.lasts (carries : Carries before task) (sent : after.sent = before.sent)
    (mailId : before.mailId ≤ after.mailId) (sending : task.Creates → after.sending = true) :
    Carries after task where
  creates := sending
  newIds id id_mem := by
    obtain ⟨positive, bounded, fresh⟩ := carries.newIds id id_mem
    exact ⟨positive, bounded.trans mailId, sent ▸ fresh⟩
  newest := sent ▸ carries.newest
  pending := sent ▸ carries.pending
  mails := sent ▸ carries.mails

/-- Nothing changes but the counter, the lock and what is kept of the mails made before. -/
structure Idles (before after : Svc) : Prop where
  sent : after.sent = before.sent
  mailId : before.mailId ≤ after.mailId
  mailsDict : ∀ mail ∈ after.mailsDict, mail ∈ before.mailsDict
  plymail : ∀ mail ∈ after.plymail, mail ∈ before.plymail ∨
    mail ∈ before.sent ∧ mail.mailType = .ply
  sysmail : ∀ mail ∈ after.sysmail, mail ∈ before.sysmail ∨
    mail ∈ before.sent ∧ mail.mailType = .sys

theorem Idles.of_same (sent : after.sent = before.sent)
    (mailsDict : after.mailsDict = before.mailsDict) (plymail : after.plymail = before.plymail)
    (sysmail : after.sysmail = before.sysmail) (mailId : before.mailId ≤ after.mailId) :
    Idles before after :=
  ⟨sent, mailId, fun _ mem => mailsDict ▸ mem, fun _ mem => .inl (plymail ▸ mem),
    fun _ mem => .inl (sysmail ▸ mem)⟩

theorem Idles.refl (svc : Svc) : Idles svc svc :=
  .of_same rfl rfl rfl rfl le_rfl

theorem Idles.kept (idles : Idles before after) (kept : Kept before) :
    Kept after where
  positive := idles.sent ▸ kept.positive
  bounded mail mail_mem := (kept.bounded mail (idles.sent ▸ mail_mem)).trans idles.mailId
  nodup := idles.sent ▸ kept.nodup
  mailsDict mail mail_mem := idles.sent ▸ kept.mailsDict mail (idles.mailsDict mail mail_mem)
  plymail mail mail_mem := by
    rw [idles.sent]
    exact (idles.plymail mail mail_mem).elim (kept.plymail mail) id
  sysmail mail mail_mem := by
    rw [idles.sent]
    exact (idles.sysmail mail mail_mem).elim (kept.sysmail mail) id

section

variable (holds : idPool.Holds ⟨svc, others⟩)
include holds

theorem own_of_idles (idles : Idles svc after)
    (sending : after.sending = svc.sending ∨ ∀ other ∈ others, ¬other.Creates) :
    ∀ other ∈ others, Carries after other := by
  intro other other_mem
  refine (holds.own other other_mem).lasts idles.sent idles.mailId fun creates => ?_
  rcases sending with same | none_creates
  · rw [same]
    exact (holds.own other other_mem).creates creates
  · exact absurd creates (none_creates other other_mem)

theorem keeps_plain {result : Svc × List Task} (idles : Idles svc result.1)
    (sending : result.1.sending = svc.sending ∨ ∀ other ∈ others, ¬other.Creates)
    (plain : ∀ task ∈ result.2, Plain result.1 task) : idPool.Keeps others result where
  shared := idles.kept holds.shared
  stable := own_of_idles holds idles sending
  fresh task task_mem := (plain task task_mem).carries
  apart other _ task task_mem := (plain task task_mem).apart other
  fresh_apart := List.Pairwise.imp_of_mem (fun _ second_mem _ => (plain _ second_mem).apart _)
    (List.pairwise_of_forall fun _ _ => trivial)

theorem keeps_single {next : Task} (idles : Idles svc after)
    (sending : after.sending = svc.sending ∨ ∀ other ∈ others, ¬other.Creates)
    (carries : Carries after next) (apart : ∀ other ∈ others, Apart other next) :
    idPool.Keeps others (after, [next]) where
  shared := idles.kept holds.shared
  stable := own_of_idles holds idles sending
  fresh := List.forall_mem_singleton.mpr carries
  apart other other_mem := List.forall_mem_singleton.mpr (apart other other_mem)
  fresh_apart := List.pairwise_singleton _ _

theorem none_creates (unlocked : svc.sending = false) : ∀ other ∈ others, ¬other.Creates := by
  intro other other_mem creates
  have locked := (holds.own other other_mem).creates creates
  simp [unlocked] at locked

theorem newId_fresh : ∀ other ∈ others, svc.mailId + 1 ∉ other.newIds := by
  intro other other_mem id_mem
  have bounded : svc.mailId + 1 ≤ svc.mailId := ((holds.own other other_mem).newIds _ id_mem).2.1
  omega

end

theorem Kept.make (kept : Kept svc) (positive : 0 < mail.id) (bounded : mail.id ≤ svc.mailId)
    (newest : ∀ other ∈ svc.sent, other.id < mail.id) :
    Kept (svc.make mail) where
  positive := by
    simp only [Svc.make, List.mem_append, List.mem_singleton]
    rintro other (old | rfl)
    · exact kept.positive other old
    · exact positive
  bounded := by
    simp only [Svc.make, List.mem_append, List.mem_singleton]
    rintro other (old | rfl)
    · exact kept.bounded other old
    · exact bounded
  nodup := by
    simp only [Svc.make, List.map_append, List.map_cons, List.map_nil]
    refine List.Nodup.append kept.nodup (List.nodup_singleton _) fun id old new => ?_
    obtain ⟨other, other_mem, rfl⟩ := List.mem_map.mp old
    exact absurd (List.mem_singleton.mp new) (newest other other_mem).ne
  mailsDict other other_mem :=
    ⟨List.mem_append_left _ (kept.mailsDict other other_mem).1, (kept.mailsDict other other_mem).2⟩
  plymail other other_mem :=
    ⟨List.mem_append_left _ (kept.plymail other other_mem).1, (kept.plymail other other_mem).2⟩
  sysmail other other_mem :=
    ⟨List.mem_append_left _ (kept.sysmail other other_mem).1, (kept.sysmail other other_mem).2⟩

theorem Carries.make (carries : Carries svc task) (not_creates : ¬task.Creates)
    (fresh : mail.id ∉ task.newIds) :
    Carries (svc.make mail) task where
  creates creates := absurd creates not_creates
  newIds id id_mem := by
    obtain ⟨positive, bounded, others⟩ := carries.newIds id id_mem
    refine ⟨positive, bounded, ?_⟩
    simp only [Svc.make, List.mem_append, List.mem_singleton]
    rintro other (old | rfl)
    · exact others other old
    · rintro rfl
      exact fresh id_mem
  newest creates := absurd creates not_creates
  pending other other_mem :=
    ⟨List.mem_append_left _ (carries.pending other other_mem).1,
      (carries.pending other other_mem).2⟩
  mails other other_mem := List.mem_append_left _ (carries.mails other other_mem)

theorem Kept.unlock (kept : Kept svc) : Kept { svc with sending := false } :=
  ⟨kept.positive, kept.bounded, kept.nodup, kept.mailsDict, kept.plymail, kept.sysmail⟩

theorem Kept.createPlyMail (kept : Kept (svc.make mail)) (ply : mail.mailType = .ply) :
    Kept (svc.createPlyMail mail) where
  positive := kept.positive
  bounded := kept.bounded
  nodup := kept.nodup
  mailsDict := by
    simp only [Svc.createPlyMail, Svc.make, List.mem_append, List.mem_singleton]
    rintro other (old | rfl)
    · exact ⟨List.mem_append.mp (kept.mailsDict other old).1 |>.imp_right List.mem_singleton.mp,
        (kept.mailsDict other old).2⟩
    · exact ⟨.inr rfl, ply⟩
  plymail := kept.plymail
  sysmail := kept.sysmail

theorem keeps_make {next : List Task} (holds : idPool.Holds ⟨svc, others⟩)
    (apart : ∀ other ∈ others, Apart task other) (creates : task.Creates)
    (id_mem : mail.id ∈ task.newIds) (kept : Kept after) (sent : after.sent = (svc.make mail).sent)
    (mailId : after.mailId = svc.mailId) (fresh : ∀ made ∈ next, Carries after made)
    (next_apart : ∀ other ∈ others, ∀ made ∈ next, Apart other made)
    (fresh_apart : next.Pairwise Apart) : idPool.Keeps others (after, next) where
  shared := kept
  stable other other_mem := by
    have not_creates : ¬other.Creates := (apart other other_mem).creates creates
    exact ((holds.own other other_mem).make not_creates
      ((apart other other_mem).newIds _ id_mem)).lasts sent mailId.ge
        fun other_creates => absurd other_creates not_creates
  fresh := fresh
  apart := next_apart
  fresh_apart := fresh_apart

theorem keeps_plyMailId {id pid : ℕ} {data : Data} {toPidList : List ℕ} {mailDict : List Mail}
    (holds : idPool.Holds ⟨svc, others⟩)
    (own : Carries svc (.plyMailId id data (pid :: toPidList) mailDict))
    (apart : ∀ other ∈ others, Apart (.plyMailId id data (pid :: toPidList) mailDict) other) :
    idPool.Keeps others ((svc.createPlyMail (data.mail .ply pid id)).createNext data toPidList
      (mailDict ++ [data.mail .ply pid id])) := by
  obtain ⟨positive, bounded, _⟩ := own.newIds id (by simp [Task.newIds])
  have kept : Kept (svc.createPlyMail (data.mail .ply pid id)) :=
    (holds.shared.make positive bounded
      (own.newest trivial id (by simp [Task.newIds]))).createPlyMail
      rfl
  have made : ∀ mail ∈ mailDict ++ [data.mail .ply pid id],
      mail ∈ svc.sent ++ [data.mail .ply pid id] ∧ mail.mailType = .ply := by
    intro mail mail_mem
    rcases List.mem_append.mp mail_mem with old | new
    · exact ⟨List.mem_append_left _ (own.pending mail old).1, (own.pending mail old).2⟩
    · exact ⟨List.mem_append_right _ new, List.mem_singleton.mp new ▸ rfl⟩
  cases toPidList with
  | nil =>
      have plain : Plain ((svc.createPlyMail (data.mail .ply pid id)).createNext data []
          (mailDict ++ [data.mail .ply pid id])).1
          (.saveMails (mailDict ++ [data.mail .ply pid id])
            (mailDict ++ [data.mail .ply pid id])) :=
        ⟨False.elim, rfl, made, by simp [Task.mails]⟩
      exact keeps_make holds apart trivial (List.mem_singleton_self id)
        kept.unlock rfl rfl
        (List.forall_mem_singleton.mpr plain.carries)
        (fun other _ => List.forall_mem_singleton.mpr (plain.apart other))
        (List.pairwise_singleton _ _)
  | cons next toPidList =>
      have carries : Carries (svc.createPlyMail (data.mail .ply pid id))
          (.genMailId data (next :: toPidList) (mailDict ++ [data.mail .ply pid id])) :=
        ⟨fun _ => own.creates trivial, by simp [Task.newIds], by simp [Task.newIds], made,
          by simp [Task.mails]⟩
      have next_apart : ∀ other ∈ others, Apart other
          (.genMailId data (next :: toPidList) (mailDict ++ [data.mail .ply pid id])) :=
        fun other other_mem => ⟨fun creates => absurd creates
          ((apart other other_mem).creates trivial), by simp [Task.newIds]⟩
      exact keeps_make holds apart trivial (List.mem_singleton_self id) kept rfl rfl
        (List.forall_mem_singleton.mpr carries)
        (fun other other_mem => List.forall_mem_singleton.mpr (next_apart other other_mem))
        (List.pairwise_singleton _ _)

theorem keeps_sysMailId {id : ℕ} {data : Data} (holds : idPool.Holds ⟨svc, others⟩)
    (own : Carries svc (.sysMailId id data))
    (apart : ∀ other ∈ others, Apart (.sysMailId id data) other) :
    idPool.Keeps others ({ svc.make (data.mail .sys 0 id) with sending := false },
      [.broadcastSysMail, .updateSysmail (data.mail .sys 0 id)]) := by
  obtain ⟨positive, bounded, _⟩ := own.newIds id (List.mem_singleton_self id)
  have kept : Kept (svc.make (data.mail .sys 0 id)) :=
    holds.shared.make positive bounded (own.newest trivial id (List.mem_singleton_self id))
  have plain : ∀ next ∈ [Task.broadcastSysMail, .updateSysmail (data.mail .sys 0 id)],
      Plain { svc.make (data.mail .sys 0 id) with sending := false } next := by
    simp only [List.mem_cons, List.not_mem_nil, or_false, forall_eq_or_imp, forall_eq]
    refine ⟨.bare False.elim rfl rfl rfl, False.elim, rfl, ?_, by simp [Task.mails]⟩
    simp [Task.pending, Task.saves, Svc.make, Data.mail]
  exact keeps_make holds apart trivial (List.mem_singleton_self id)
    kept.unlock rfl rfl
    (fun next next_mem => (plain next next_mem).carries)
    (fun other _ next next_mem => (plain next next_mem).apart other)
    (List.Pairwise.imp_of_mem (fun _ second_mem _ => (plain _ second_mem).apart _)
      (List.pairwise_of_forall fun _ _ => trivial))

theorem findMailsFromCache_mem (mem : mail ∈ svc.findMailsFromCache query) :
    mail ∈ svc.mailsDict ∧ mail.receivePid = query.pid ∧ ¬Seen query.lastPlyMailId mail.id := by
  unfold Svc.findMailsFromCache at mem
  split at mem
  · cases mem
  · simpa using mem

theorem getPlyMails_mem {cacheMailDict : List Mail}
    (mem : mail ∈ svc.getPlyMails query cacheMailDict) : mail ∈ cacheMailDict ∨
      mail ∈ svc.plymail ∧ mail.receivePid = query.pid ∧ ¬Seen query.lastPlyMailId mail.id := by
  rcases List.mem_append.mp mem with cached | row
  · exact .inl cached
  · exact .inr (by simpa [Svc.findPlymail] using (List.mem_filter.mp row).1)

theorem getSysMails_mem {now : ℕ} (mem : mail ∈ svc.getSysMails query now) :
    mail ∈ svc.sysmail ∧ ¬Seen query.lastSysMailId mail.id ∧ mail.Lives now := by
  simpa [Svc.getSysMails] using mem

section

variable (holds : idPool.Holds ⟨svc, others⟩)
include holds

theorem keeps_accept (request : Request) : idPool.Keeps others (svc.accept request) := by
  cases request with
  | tick | unload | load | onlogout | saveToDb | delMails =>
      exact keeps_plain holds (.of_same rfl rfl rfl rfl le_rfl) (.inl rfl) (by simp [Svc.accept])
  | cleanUpMailsFromCache =>
      refine keeps_plain holds ⟨rfl, le_rfl, ?_, fun _ => .inl, fun _ => .inl⟩ (.inl rfl)
        (by simp [Svc.accept])
      exact fun mail mail_mem => (List.mem_filter.mp mail_mem).1
  | gmSendMail | cleanUpMailsFromDB | localAddMyMail =>
      exact keeps_plain holds (.of_same rfl rfl rfl rfl le_rfl) (.inl rfl)
        (List.forall_mem_singleton.mpr (.bare False.elim rfl rfl rfl))
  | onlogin pid =>
      simp only [Svc.accept]
      cases (svc.players pid).bag with
      | none => exact .ended holds
      | some bag =>
          refine keeps_plain holds (.of_same rfl rfl rfl rfl le_rfl) (.inl rfl) ?_
          simp only [List.mem_cons, List.not_mem_nil, or_false, forall_eq_or_imp, forall_eq]
          exact ⟨.bare False.elim rfl rfl rfl, .bare False.elim rfl rfl rfl⟩

theorem keeps_gmSendMail {mailData : MailData} {toPidList : List ℕ} :
    idPool.Keeps others (svc.resume (.gmSendMail mailData toPidList) .deliver) := by
  simp only [Svc.resume]
  split
  · exact keeps_plain holds (.of_same rfl rfl rfl rfl le_rfl) (.inl rfl)
      (List.forall_mem_singleton.mpr (.bare False.elim rfl rfl rfl))
  · next unlocked =>
      have none := none_creates holds (Bool.eq_false_of_not_eq_true unlocked)
      have begins : ∀ next : Task, next.newIds = [] → next.pending = [] → next.mails = [] →
          idPool.Keeps others ({ svc with sending := true }, [next]) :=
        fun next newIds pending mails =>
          keeps_single holds (.of_same rfl rfl rfl rfl le_rfl) (.inr none)
            ⟨fun _ => rfl, by simp [newIds], by simp [newIds], by simp [pending], by simp [mails]⟩
            fun other other_mem => ⟨fun creates => absurd creates (none other other_mem),
              by simp [newIds]⟩
      cases toPidList with
      | nil => exact begins _ rfl rfl rfl
      | cons => exact begins _ rfl rfl rfl

theorem keeps_newId {next : Task} (own : Carries svc task)
    (apart : ∀ other ∈ others, Apart task other) (creates : next.Creates → task.Creates)
    (newIds : next.newIds = [svc.mailId + 1]) (pending : next.pending = task.pending)
    (saves : next.saves = task.saves) (mails : next.mails = []) :
    idPool.Keeps others ({ svc with mailId := svc.mailId + 1 }, [next]) := by
  have newest : ∀ mail ∈ svc.sent, mail.id < svc.mailId + 1 :=
    fun mail mail_mem => Nat.lt_succ_of_le (holds.shared.bounded mail mail_mem)
  refine keeps_single holds (.of_same rfl rfl rfl rfl (Nat.le_succ _)) (.inl rfl)
    ⟨?_, ?_, ?_, ?_, ?_⟩
    fun other other_mem => ⟨?_, ?_⟩
  · exact fun next_creates => own.creates (creates next_creates)
  · rw [newIds]
    exact List.forall_mem_singleton.mpr
      ⟨Nat.succ_pos _, le_rfl, fun mail mail_mem => (newest mail mail_mem).ne⟩
  · rw [newIds]
    exact fun _ => List.forall_mem_singleton.mpr newest
  · rw [pending, saves]
    exact own.pending
  · simp [mails]
  · exact fun other_creates next_creates =>
      (apart other other_mem).creates (creates next_creates) other_creates
  · rw [newIds]
    exact fun id id_mem id_eq =>
      newId_fresh holds other other_mem (List.mem_singleton.mp id_eq ▸ id_mem)

theorem keeps_fails (apart : ∀ other ∈ others, Apart task other) (creates : task.Creates) :
    idPool.Keeps others (svc.resume task .raise) := by
  rw [svc.resume_fails creates]
  exact keeps_plain holds (.of_same rfl rfl rfl rfl le_rfl)
    (.inr fun other other_mem => (apart other other_mem).creates creates) (by simp)

end

theorem idles_updatePlymail (made : mail ∈ svc.sent ∧ mail.mailType = .ply) :
    Idles svc (svc.updatePlymail mail) where
  sent := rfl
  mailId := le_rfl
  mailsDict _ mem := mem
  plymail other other_mem := by
    rcases List.mem_append.mp other_mem with old | new
    · exact .inl (List.mem_filter.mp old).1
    · exact .inr (List.mem_singleton.mp new ▸ made)
  sysmail _ := .inl

theorem idles_updateSysmail (made : mail ∈ svc.sent ∧ mail.mailType = .sys) :
    Idles svc (svc.updateSysmail mail) where
  sent := rfl
  mailId := le_rfl
  mailsDict _ mem := mem
  plymail _ := .inl
  sysmail other other_mem := by
    rcases List.mem_append.mp other_mem with old | new
    · exact .inl (List.mem_filter.mp old).1
    · exact .inr (List.mem_singleton.mp new ▸ made)

theorem plain_newMailsNotice (pid : ℕ) : ∀ task ∈ svc.newMailsNotice pid, Plain svc task := by
  unfold Svc.newMailsNotice
  split
  · split
    · exact List.forall_mem_singleton.mpr (.bare False.elim rfl rfl rfl)
    · exact List.forall_mem_nil _
  · exact List.forall_mem_nil _

theorem plain_saveNext {unsaved mailDict : List Mail} {position : ℕ}
    (made : ∀ mail ∈ unsaved, mail ∈ svc.sent ∧ mail.mailType = .ply) :
    ∀ task ∈ Svc.saveNext unsaved mailDict position, Plain svc task := by
  unfold Svc.saveNext
  split
  · simp only [List.mem_map, forall_exists_index, and_imp, forall_apply_eq_imp_iff₂]
    exact fun _ _ => .bare False.elim rfl rfl rfl
  · next mail mail_eq =>
      refine List.forall_mem_singleton.mpr ⟨False.elim, rfl, ?_, by simp [Task.mails]⟩
      rintro other (_ | ⟨_, other_mem⟩)
      · exact made mail (List.mem_of_getElem? mail_eq)
      · exact made other (List.mem_of_mem_erase other_mem)

/-- Answers make no mails but in the making of mails under the lock. -/
theorem keeps_resume {reply : Reply} (holds : idPool.Holds ⟨svc, others⟩) (own : Carries svc task)
    (apart : ∀ other ∈ others, Apart task other) : idPool.Keeps others (svc.resume task reply) := by
  by_cases goes : Goes task reply
  · cases goes with
    | gmSendMail => exact keeps_gmSendMail holds
    | genMailId => exact keeps_newId holds own apart id rfl rfl rfl rfl
    | plyMailId => exact keeps_plyMailId holds own apart
    | genSysMailId => exact keeps_newId holds own apart id rfl rfl rfl rfl
    | sysMailId => exact keeps_sysMailId holds own apart
    | fails creates => exact keeps_fails holds apart creates
    | localGenMailId => exact keeps_newId holds own apart id rfl rfl rfl rfl
    | saveMails unsaved mailDict position =>
        exact keeps_plain holds (.refl svc) (.inl rfl) (plain_saveNext own.pending)
    | updatePlymail mail unsaved mailDict =>
        exact keeps_plain holds (idles_updatePlymail (own.pending mail List.mem_cons_self))
          (.inl rfl)
          (List.forall_mem_singleton.mpr ⟨False.elim, rfl,
            fun other other_mem => own.pending other (List.mem_cons_of_mem _ other_mem),
            by simp [Task.mails]⟩)
    | updateSysmail mail =>
        exact keeps_plain holds (idles_updateSysmail (own.pending mail List.mem_cons_self))
          (.inl rfl)
          (by simp [Svc.resume])
    | newMailsNotice pid =>
        exact keeps_plain holds (.refl svc) (.inl rfl) (plain_newMailsNotice pid)
    | broadcastSysMail pidList =>
        refine keeps_plain holds (.refl svc) (.inl rfl) fun next next_mem => ?_
        rcases List.mem_cons.mp next_mem with rfl | next_mem
        · exact .bare False.elim rfl rfl rfl
        · obtain ⟨pid, _, next_mem⟩ := List.mem_flatMap.mp next_mem
          exact plain_newMailsNotice pid next next_mem
    | broadcastEnds | sysmailDeleted => exact .ended holds
    | getPlayerMails query =>
        refine keeps_plain holds ⟨rfl, le_rfl, fun mail mail_mem => (List.mem_filter.mp mail_mem).1,
          fun _ => .inl, fun _ => .inl⟩ (.inl rfl) (List.forall_mem_singleton.mpr
            ⟨False.elim, rfl, by simp [Task.pending], fun mail mail_mem => ?_⟩)
        exact (holds.shared.mailsDict mail (findMailsFromCache_mem mail_mem).1).1
    | findPlymail query mailDict =>
        refine keeps_plain holds (.refl svc) (.inl rfl) (List.forall_mem_singleton.mpr
          ⟨False.elim, rfl, by simp [Task.pending], fun mail mail_mem => ?_⟩)
        rcases getPlyMails_mem mail_mem with cached | ⟨row, _⟩
        · exact own.mails mail cached
        · exact (holds.shared.plymail mail row).1
    | plymail query mailDict =>
        refine keeps_plain holds (.refl svc) (.inl rfl) ?_
        simp only [Svc.resume]
        split <;> exact List.forall_mem_singleton.mpr
          ⟨False.elim, rfl, by simp [Task.pending], own.mails⟩
    | findSysmail query now mailDict =>
        refine keeps_plain holds (.refl svc) (.inl rfl) (List.forall_mem_singleton.mpr
          ⟨False.elim, rfl, by simp [Task.pending], fun mail mail_mem => ?_⟩)
        rcases List.mem_append.mp mail_mem with old | row
        · exact own.mails mail old
        · exact (holds.shared.sysmail mail (getSysMails_mem row).1).1
    | addPlayerMails pid mailDict =>
        simp only [Svc.resume, Svc.addPlayerMails]
        split
        · split
          · refine keeps_plain holds (.of_same rfl rfl rfl rfl le_rfl) (.inl rfl) ?_
            split
            · exact List.forall_mem_nil _
            · exact List.forall_mem_singleton.mpr (.bare False.elim rfl rfl rfl)
          · exact .ended holds
        · exact .ended holds
    | delPlayerMails pid id ids =>
        refine keeps_plain holds ⟨rfl, le_rfl, fun _ mem => mem,
          fun mail mail_mem => .inl (List.mem_filter.mp mail_mem).1, fun _ => .inl⟩ (.inl rfl) ?_
        simp only [Svc.resume]
        split
        · exact List.forall_mem_nil _
        · exact List.forall_mem_singleton.mpr (.bare False.elim rfl rfl rfl)
    | getOpCfg pid isCheck =>
        refine keeps_plain holds (.refl svc) (.inl rfl) ?_
        simp only [Svc.resume]
        split
        · exact List.forall_mem_singleton.mpr (.bare False.elim rfl rfl rfl)
        · exact List.forall_mem_nil _
    | localMailId pid loads id mailData =>
        simp only [Svc.resume]
        split
        · exact keeps_plain holds (.of_same rfl rfl rfl rfl le_rfl) (.inl rfl) (by simp)
        · exact .ended holds
    | findOutdatedPlymail | plymailDeleted | findOutdatedSysmail =>
        exact keeps_plain holds (.refl svc) (.inl rfl)
          (List.forall_mem_singleton.mpr (.bare False.elim rfl rfl rfl))
    | deletePlymail id ids now =>
        exact keeps_plain holds ⟨rfl, le_rfl, fun _ mem => mem,
          fun mail mail_mem => .inl (List.mem_filter.mp mail_mem).1, fun _ => .inl⟩ (.inl rfl)
          (List.forall_mem_singleton.mpr (.bare False.elim rfl rfl rfl))
    | deleteSysmail id ids =>
        refine keeps_plain holds ⟨rfl, le_rfl, fun _ mem => mem, fun _ => .inl,
          fun mail mail_mem => .inl (List.mem_filter.mp mail_mem).1⟩ (.inl rfl) ?_
        simp only [Svc.resume]
        split
        · exact List.forall_mem_nil _
        · exact List.forall_mem_singleton.mpr (.bare False.elim rfl rfl rfl)
  · rcases svc.resume_rests goes with ⟨_, resume_eq⟩ | resume_eq
    · rw [resume_eq]
      exact .ended holds
    · rw [resume_eq]
      exact .unchanged holds own apart

theorem idPool_kept (guard : Guard Svc Request Task Reply) : idPool.KeptBy delivery guard where
  accept request _ _ holds _ := keeps_accept holds request
  resume _ _ _ _ holds own apart _ := keeps_resume holds own apart

theorem idPool_start (now : ℕ) (createTime : ℕ → ℕ) :
    idPool.Holds (deliveryStart now createTime) where
  shared := by constructor <;> simp [deliveryStart]
  own := by simp [deliveryStart]
  apart := .nil

end BasWar.Mails.Delivery
