import BasWar.Mail.MailBag
import Mathlib

/-!
# Attachments are credited once

What an attachment has brought and what the handler of its mail is still to bring add up to what
the attachment is worth.  A mail that is not marked and that no handler has begun has brought
nothing.
-/

namespace BasWar.Mails

open Cooperative

def placed (chunks : List Chunk) : ℤ :=
  (chunks.map fun chunk => (chunk.num : ℤ)).sum

@[simp]
theorem placed_nil : placed [] = 0 := rfl

@[simp]
theorem placed_cons (chunk : Chunk) (chunks : List Chunk) :
    placed (chunk :: chunks) = chunk.num + placed chunks := by
  simp [placed]

@[simp]
theorem placed_append (first second : List Chunk) :
    placed (first ++ second) = placed first + placed second := by
  simp [placed]

theorem placed_nonneg (chunks : List Chunk) : 0 ≤ placed chunks := by
  induction chunks with
  | nil => exact le_rfl
  | cons chunk chunks ih =>
      rw [placed_cons]
      omega

theorem placed_overlay (maxNum : ℕ) (items : List Item) (left : ℕ) :
    placed (overlay maxNum items left).1 + (overlay maxNum items left).2 = left := by
  induction items generalizing left with
  | nil => simp [overlay]
  | cons item items ih =>
      unfold overlay
      split
      · rename_i room
        dsimp only
        split
        · rename_i full
          simp only [placed_cons, placed_nil]
          omega
        · have later := ih (left - min left (maxNum - item.num))
          simp only [placed_cons]
          omega
      · exact ih left

theorem placed_newItems (maxNum left : ℕ) : placed (newItems maxNum left) = left := by
  have full : placed (List.replicate (left / maxNum) ⟨none, maxNum⟩) =
      ((left / maxNum * maxNum : ℕ) : ℤ) := by
    simp [placed, List.map_replicate, List.sum_replicate]
  have divided : left / maxNum * maxNum + left % maxNum = left := Nat.div_add_mod' left maxNum
  unfold newItems
  rw [placed_append, full]
  split
  · rename_i exact_fit
    rw [placed_nil]
    omega
  · simp only [placed_cons, placed_nil]
    omega

theorem placed_turns (itemCfg : ItemCfg) (items : List Item) (num : ℕ) :
    placed (turns itemCfg items num) = num := by
  have first := placed_overlay itemCfg.maxNum items num
  rw [turns, placed_append, placed_newItems]
  exact first

/-- What the attachments that are left still bring. -/
def Receipt.left (receipt : Receipt) (index : ℕ) : ℤ :=
  if index < receipt.index then 0
  else ((receipt.rest[index - receipt.index]?).map Attach.due).getD 0

/-- What is left while an item is added. -/
def Receipt.leftAdding (receipt : Receipt) (adding : Adding) (index : ℕ) : ℤ :=
  if index = receipt.index then placed adding.chunks
  else { receipt with index := receipt.index + 1 }.left index

theorem due_nonneg (found : Option Attach) : 0 ≤ (found.map Attach.due).getD 0 := by
  cases found with
  | none => exact le_rfl
  | some attach => exact le_max_right attach.count 0

theorem Receipt.left_nonneg (receipt : Receipt) (index : ℕ) : 0 ≤ receipt.left index := by
  unfold Receipt.left
  split
  · exact le_rfl
  · exact due_nonneg _

theorem Receipt.leftAdding_nonneg (receipt : Receipt) (adding : Adding) (index : ℕ) :
    0 ≤ receipt.leftAdding adding index := by
  unfold Receipt.leftAdding
  split
  · exact placed_nonneg _
  · exact Receipt.left_nonneg _ index

variable {receipt : Receipt} {attach : Attach} {rest : List Attach} {changed : Option ℕ}
  {player : Player} {next state : State} {point : Point} {others : List Task} {task : Task}

theorem Receipt.left_cons (rest_eq : receipt.rest = attach :: rest) (index : ℕ) :
    receipt.left index =
      if index = receipt.index then attach.due
      else { receipt with index := receipt.index + 1, rest := rest }.left index := by
  unfold Receipt.left
  rw [rest_eq]
  rcases lt_trichotomy index receipt.index with before | here | after
  · have not_here : index ≠ receipt.index := by omega
    have before_next : index < receipt.index + 1 := by omega
    simp [before, not_here, before_next]
  · subst here
    simp
  · have not_before : ¬ index < receipt.index := by omega
    have not_here : index ≠ receipt.index := by omega
    have not_before_next : ¬ index < receipt.index + 1 := by omega
    have position : index - receipt.index = index - (receipt.index + 1) + 1 := by omega
    simp [not_before, not_here, not_before_next, position]

theorem Receipt.left_nil (rest_eq : receipt.rest = []) (index : ℕ) : receipt.left index = 0 := by
  simp [Receipt.left, rest_eq]

def due (box : Mailbox) (id index : ℕ) : ℤ :=
  ((box.find id).map fun mail => mail.due index).getD 0

/-- A positive attachment is not passed over. -/
def Creditable (tables : Tables) (logType : Option ℕ) (attach : Attach) : Prop :=
  0 < attach.count → tables.logs logType = true ∧
    (attach.type = .res ∨ attach.type = .item ∧ (tables.item attach.cfgId).isSome = true)
  deriving Decidable

/-- The attachments of each mail are credited at most once, and those of a marked mail are. -/
structure CreditedOnce (box : Mailbox) (player : Player) : Prop where
  atMost : ∀ id index, player.credited id index ≤ due box id index
  marked : ∀ mail ∈ player.mailsDict.mails, mail.get = true → ∀ index,
    player.credited mail.id index = due box mail.id index

/-- What holds of a player between two segments. -/
structure Sound (box : Mailbox) (player : Player) : Prop extends CreditedOnce box player where
  same : ∀ mail ∈ player.mailsDict.mails, ∀ index, mail.due index = due box mail.id index
  fresh : ∀ mail ∈ player.mailsDict.mails, mail.get = false → mail.id ∉ player.receiving →
    ∀ index, player.credited mail.id index = 0

structure SoundAt (box : Mailbox) (id : ℕ) (player : Player) : Prop where
  atMost : ∀ index, player.credited id index ≤ due box id index
  marked : ∀ mail ∈ player.mailsDict.mails, mail.id = id → mail.get = true → ∀ index,
    player.credited id index = due box id index
  fresh : ∀ mail ∈ player.mailsDict.mails, mail.id = id → mail.get = false →
    id ∉ player.receiving → ∀ index, player.credited id index = 0

/-- A handler works on a mail and still has to bring `left`. -/
structure Holding (box : Mailbox) (tables : Tables) (player : Player) (receipt : Receipt)
    (left : ℕ → ℤ) : Prop where
  begun : receipt.id ∈ player.receiving
  unmarked : ∀ mail ∈ player.mailsDict.mails, mail.id = receipt.id → mail.get = false
  owed : ∀ index, player.credited receipt.id index + left index = due box receipt.id index
  creditable : ∀ attach ∈ receipt.rest, Creditable tables receipt.logType attach

def Point.mail : Point → Option ℕ
  | .mails _ => none
  | .attachments receipt | .chunks receipt _ | .calls receipt _ _ | .waits receipt _ _ _ =>
      some receipt.id

def Point.Knows (box : Mailbox) (tables : Tables) (player : Player) : Point → Prop
  | .mails _ => True
  | .attachments receipt => Holding box tables player receipt receipt.left
  | .chunks receipt adding | .calls receipt adding _ | .waits receipt adding _ _ =>
      Holding box tables player receipt (receipt.leftAdding adding)

/-- No two handlers of the loaded player work on one mail. -/
def receivePool (box : Mailbox) (tables : Tables) : Pool State Task where
  shared state := Sound box state.player ∧ Sound box state.stored
  own state task :=
    task.loads ≤ state.loads ∧
      (task.loads = state.loads → task.point.Knows box tables state.player)
  apart first second :=
    first.loads = second.loads → ∀ id, first.point.mail = some id → second.point.mail ≠ some id
  apart_symm apart same id second_mail first_mail := apart same.symm id first_mail second_mail

/-- Mails whose turn comes are not marked, not begun and not passed over, and a stack that is
filled up is in the bag. -/
def undisturbed (tables : Tables) : Guard State Request Task Reply where
  onRequest _ _ _ := True
  onReply task reply state _ :=
    task.loads = state.loads → reply = .resume →
      match task.point with
      | .mails (id :: _) =>
          ∀ mail ∈ state.player.mailsDict.mails, mail.id = id → mail.attachment ≠ none →
            mail.get = false ∧ id ∉ state.player.receiving ∧
              ∀ attach ∈ mail.attachment.getD [], Creditable tables mail.logType attach
      | .chunks _ ⟨_, _, chunk :: _⟩ => state.player.Placeable chunk
      | _ => True

instance (tables : Tables) (request state others) :
    Decidable ((undisturbed tables).onRequest request state others) :=
  .isTrue trivial

instance (tables : Tables) (task reply state others) :
    Decidable ((undisturbed tables).onReply task reply state others) := by
  unfold undisturbed
  dsimp only
  split <;> infer_instance

/-- Nothing changes but the mail `changed`, and whether mails are read or still there. -/
structure Leaves (changed : Option ℕ) (player next : Player) : Prop where
  credited : ∀ id, changed ≠ some id → next.credited id = player.credited id
  receiving : ∀ id, changed ≠ some id → (id ∈ next.receiving ↔ id ∈ player.receiving)
  mails : ∀ mail ∈ next.mailsDict.mails, ∃ old ∈ player.mailsDict.mails,
    old.id = mail.id ∧ old.attachment = mail.attachment ∧
      (changed ≠ some mail.id → mail.get = old.get)

theorem Leaves.of_books {next : Player}
    (credited : ∀ id, changed ≠ some id → next.credited id = player.credited id)
    (receiving : next.receiving = player.receiving) (mails : next.mailsDict = player.mailsDict) :
    Leaves changed player next where
  credited := credited
  receiving id _ := by rw [receiving]
  mails mail mail_mem := ⟨mail, mails ▸ mail_mem, rfl, rfl, fun _ => rfl⟩

theorem Leaves.refl (player : Player) : Leaves none player player :=
  .of_books (fun _ _ => rfl) rfl rfl

theorem Leaves.sound {box : Mailbox} {next : Player} (leaves : Leaves changed player next)
    (sound : Sound box player) (at_changed : ∀ id, changed = some id → SoundAt box id next) :
    Sound box next := by
  refine ⟨⟨fun id index => ?_, fun mail mail_mem marked index => ?_⟩,
    fun mail mail_mem index => ?_, fun mail mail_mem unmarked unbegun index => ?_⟩
  · by_cases here : changed = some id
    · exact (at_changed id here).atMost index
    · rw [leaves.credited id here]
      exact sound.atMost id index
  · by_cases here : changed = some mail.id
    · exact (at_changed mail.id here).marked mail mail_mem rfl marked index
    · obtain ⟨old, old_mem, id_eq, -, get_eq⟩ := leaves.mails mail mail_mem
      rw [leaves.credited mail.id here, ← id_eq]
      exact sound.marked old old_mem (get_eq here ▸ marked) index
  · obtain ⟨old, old_mem, id_eq, attachment_eq, -⟩ := leaves.mails mail mail_mem
    rw [← id_eq, ← sound.same old old_mem index, PlyMail.due, PlyMail.due, attachment_eq]
  · by_cases here : changed = some mail.id
    · exact (at_changed mail.id here).fresh mail mail_mem rfl unmarked unbegun index
    · obtain ⟨old, old_mem, id_eq, -, get_eq⟩ := leaves.mails mail mail_mem
      rw [leaves.credited mail.id here, ← id_eq]
      refine sound.fresh old old_mem (get_eq here ▸ unmarked) ?_ index
      rw [id_eq]
      exact fun begun => unbegun ((leaves.receiving mail.id here).mpr begun)

theorem Leaves.holding {box : Mailbox} {tables : Tables} {next : Player} {left : ℕ → ℤ}
    (leaves : Leaves changed player next) (away : changed ≠ some receipt.id)
    (holding : Holding box tables player receipt left) :
    Holding box tables next receipt left where
  begun := (leaves.receiving receipt.id away).mpr holding.begun
  unmarked mail mail_mem id_eq := by
    obtain ⟨old, old_mem, same_id, -, get_eq⟩ := leaves.mails mail mail_mem
    rw [get_eq (id_eq ▸ away)]
    exact holding.unmarked old old_mem (same_id.trans id_eq)
  owed index := by
    rw [leaves.credited receipt.id away]
    exact holding.owed index
  creditable := holding.creditable

theorem Leaves.knows {box : Mailbox} {tables : Tables} {next : Player}
    (leaves : Leaves changed player next) (away : ∀ id, point.mail = some id → changed ≠ some id)
    (knows : point.Knows box tables player) : point.Knows box tables next := by
  cases point with
  | mails ids => trivial
  | attachments receipt => exact leaves.holding (away receipt.id rfl) knows
  | chunks receipt adding => exact leaves.holding (away receipt.id rfl) knows
  | calls receipt adding left => exact leaves.holding (away receipt.id rfl) knows
  | waits receipt adding call left => exact leaves.holding (away receipt.id rfl) knows

theorem Holding.soundAt {box : Mailbox} {tables : Tables} {left : ℕ → ℤ}
    (holding : Holding box tables player receipt left) (nonneg : ∀ index, 0 ≤ left index) :
    SoundAt box receipt.id player where
  atMost index := by
    have owed := holding.owed index
    have := nonneg index
    omega
  marked mail mail_mem id_eq marked := by
    rw [holding.unmarked mail mail_mem id_eq] at marked
    cases marked
  fresh _ _ _ _ unbegun := absurd holding.begun unbegun

theorem Point.Knows.soundAt {box : Mailbox} {tables : Tables}
    (knows : point.Knows box tables player) {id : ℕ} (mail_eq : point.mail = some id) :
    SoundAt box id player := by
  cases point with
  | mails ids => cases mail_eq
  | attachments receipt =>
      obtain rfl := Option.some.inj mail_eq
      exact Holding.soundAt knows receipt.left_nonneg
  | chunks receipt adding =>
      obtain rfl := Option.some.inj mail_eq
      exact Holding.soundAt knows (receipt.leftAdding_nonneg adding)
  | calls receipt adding left =>
      obtain rfl := Option.some.inj mail_eq
      exact Holding.soundAt knows (receipt.leftAdding_nonneg adding)
  | waits receipt adding call left =>
      obtain rfl := Option.some.inj mail_eq
      exact Holding.soundAt knows (receipt.leftAdding_nonneg adding)

variable {box : Mailbox} {tables : Tables}

section

variable (holds : (receivePool box tables).Holds ⟨state, others⟩)
include holds

theorem keeps_goOn (loads_eq : next.loads = state.loads) (stored_eq : next.stored = state.stored)
    (leaves : Leaves changed state.player next.player)
    (away : ∀ other ∈ others, other.loads = state.loads → ∀ id, other.point.mail = some id →
      changed ≠ some id ∧ point.mail ≠ some id)
    (at_changed : ∀ id, changed = some id → point.mail = some id ∨ SoundAt box id next.player)
    (knows : point.Knows box tables next.player) :
    (receivePool box tables).Keeps others (next.goOn point) where
  shared := by
    refine ⟨leaves.sound holds.shared.1 fun id here => ?_, ?_⟩
    · rcases at_changed id here with working | sound
      · exact knows.soundAt working
      · exact sound
    · show Sound box next.stored
      rw [stored_eq]
      exact holds.shared.2
  stable other other_mem := by
    obtain ⟨older, knew⟩ := holds.own other other_mem
    refine ⟨by rw [show (next.goOn point).1.loads = state.loads from loads_eq]; exact older, ?_⟩
    intro current
    have loaded : other.loads = state.loads := current.trans loads_eq
    exact leaves.knows (fun id mail_eq => (away other other_mem loaded id mail_eq).1) (knew loaded)
  fresh := by
    simp only [State.goOn, List.mem_singleton, forall_eq]
    exact ⟨le_rfl, fun _ => knows⟩
  apart other other_mem := by
    simp only [State.goOn, List.mem_singleton, forall_eq]
    intro same id mail_eq
    exact (away other other_mem (same.trans loads_eq) id mail_eq).2
  fresh_apart := List.pairwise_singleton _ _

theorem keeps_ended (loads_eq : next.loads = state.loads) (stored_eq : next.stored = state.stored)
    (leaves : Leaves none state.player next.player) :
    (receivePool box tables).Keeps others (next, []) where
  shared := by
    refine ⟨leaves.sound holds.shared.1 (fun _ here => by cases here), ?_⟩
    show Sound box next.stored
    rw [stored_eq]
    exact holds.shared.2
  stable other other_mem := by
    obtain ⟨older, knew⟩ := holds.own other other_mem
    refine ⟨older.trans_eq loads_eq.symm, fun current => ?_⟩
    exact leaves.knows (fun _ _ => by simp) (knew (current.trans loads_eq))
  fresh := by simp
  apart := by simp
  fresh_apart := .nil

section

variable (apart : ∀ other ∈ others, (receivePool box tables).apart task other)
  (loaded : task.loads = state.loads)
include apart loaded

theorem keeps_stays (loads_eq : next.loads = state.loads) (stored_eq : next.stored = state.stored)
    (leaves : Leaves none state.player next.player)
    (mail_eq : ∀ id, point.mail = some id → task.point.mail = some id)
    (knows : point.Knows box tables next.player) :
    (receivePool box tables).Keeps others (next.goOn point) := by
  refine keeps_goOn holds loads_eq stored_eq leaves ?_ (fun _ here => by cases here)
    knows
  intro other other_mem other_loaded id other_mail
  refine ⟨by simp, fun mail => ?_⟩
  exact apart other other_mem (loaded.trans other_loaded.symm) id (mail_eq id mail) other_mail

theorem keeps_works {id : ℕ} (working : task.point.mail = some id)
    (loads_eq : next.loads = state.loads) (stored_eq : next.stored = state.stored)
    (leaves : Leaves (some id) state.player next.player)
    (mail_eq : ∀ other, point.mail = some other → other = id)
    (at_id : point.mail = some id ∨ SoundAt box id next.player)
    (knows : point.Knows box tables next.player) :
    (receivePool box tables).Keeps others (next.goOn point) := by
  refine keeps_goOn holds loads_eq stored_eq leaves ?_ ?_ knows
  · intro other other_mem other_loaded other_id other_mail
    have different : other_id ≠ id := by
      rintro rfl
      exact apart other other_mem (loaded.trans other_loaded.symm) other_id working other_mail
    exact ⟨fun same => different (Option.some.inj same).symm,
      fun mail => different (mail_eq other_id mail)⟩
  · intro other here
    obtain rfl := Option.some.inj here
    exact at_id

theorem keeps_nextMail {ids : List ℕ} (point_eq : task.point = .mails ids)
    (allows : (undisturbed tables).onReply task .resume state others) :
    (receivePool box tables).Keeps others (state.nextMail ids) := by
  cases ids with
  | nil => exact keeps_ended holds rfl rfl (.refl state.player)
  | cons id ids =>
      have passes : (receivePool box tables).Keeps others (state.goOn (.mails ids)) :=
        keeps_stays holds apart loaded rfl rfl (.refl state.player)
          (fun _ mail_eq => by cases mail_eq) trivial
      unfold State.nextMail
      dsimp only
      split
      · exact passes
      · rename_i mail found
        split
        · exact passes
        · rename_i attachment attached
          obtain ⟨mail_mem, rfl⟩ := Mailbox.find_some found
          have turn : mail.get = false ∧ mail.id ∉ state.player.receiving ∧
              ∀ attach ∈ mail.attachment.getD [], Creditable tables mail.logType attach := by
            have rule := allows loaded rfl
            simp only [point_eq] at rule
            exact rule mail mail_mem rfl (by simp [attached])
          obtain ⟨unmarked, unbegun, creditable⟩ := turn
          rw [attached, Option.getD_some] at creditable
          have nothing := holds.shared.1.fresh mail mail_mem unmarked unbegun
          have knows : Holding box tables
              { state.player with receiving := mail.id :: state.player.receiving }
              ⟨mail.id, 0, mail.logType, attachment, ids⟩
              (Receipt.left ⟨mail.id, 0, mail.logType, attachment, ids⟩) := by
            refine ⟨List.mem_cons_self, fun other other_mem id_eq => ?_, fun index => ?_,
              creditable⟩
            · rw [Mailbox.eq_of_id other_mem mail_mem id_eq]
              exact unmarked
            · have worth := holds.shared.1.same mail mail_mem index
              show state.player.credited mail.id index + _ = _
              rw [nothing index, ← worth]
              simp [Receipt.left, PlyMail.due, attached]
          have leaves : Leaves (some mail.id) state.player
              { state.player with receiving := mail.id :: state.player.receiving } :=
            { credited := fun _ _ => rfl
              receiving := fun other away => by
                have different : other ≠ mail.id := fun same => away (same ▸ rfl)
                simp [different]
              mails := fun other other_mem => ⟨other, other_mem, rfl, rfl, fun _ => rfl⟩ }
          refine keeps_goOn holds rfl rfl leaves ?_ ?_ knows
          · intro other other_mem other_loaded other_id other_mail
            have begun : other_id ∈ state.player.receiving := by
              have knew := (holds.own other other_mem).2 other_loaded
              cases point : other.point <;> rw [point] at other_mail knew
              case mails => cases other_mail
              all_goals
                obtain rfl := Option.some.inj other_mail
                exact knew.begun
            have different : mail.id ≠ other_id := fun same => unbegun (same ▸ begun)
            exact ⟨fun same => different (Option.some.inj same),
              fun same => different (Option.some.inj same)⟩
          · intro other here
            exact .inl here

end

end

theorem Holding.move {next : Player} {moved : Receipt} {left still : ℕ → ℤ}
    (holding : Holding box tables player receipt left) (id_eq : moved.id = receipt.id)
    (logType_eq : moved.logType = receipt.logType)
    (rest_sub : ∀ attach ∈ moved.rest, attach ∈ receipt.rest)
    (receiving_eq : next.receiving = player.receiving)
    (mails_eq : next.mailsDict = player.mailsDict)
    (sum_eq : ∀ index, next.credited receipt.id index + still index =
      player.credited receipt.id index + left index) :
    Holding box tables next moved still where
  begun := by
    rw [receiving_eq, id_eq]
    exact holding.begun
  unmarked mail mail_mem same := by
    rw [mails_eq] at mail_mem
    exact holding.unmarked mail mail_mem (same.trans id_eq)
  owed index := by
    rw [id_eq, sum_eq]
    exact holding.owed index
  creditable attach attach_mem := by
    rw [logType_eq]
    exact holding.creditable attach (rest_sub attach attach_mem)

section

variable (holds : (receivePool box tables).Holds ⟨state, others⟩)
include holds

section

variable (apart : ∀ other ∈ others, (receivePool box tables).apart task other)
  (loaded : task.loads = state.loads) (working : task.point.mail = some receipt.id)
include apart loaded working

theorem keeps_markGet (rest_eq : receipt.rest = [])
    (holding : Holding box tables state.player receipt receipt.left) :
    (receivePool box tables).Keeps others (state.markGet receipt) := by
  have paid : ∀ index, state.player.credited receipt.id index = due box receipt.id index := by
    intro index
    have owed := holding.owed index
    rw [Receipt.left_nil rest_eq, add_zero] at owed
    exact owed
  refine keeps_works holds apart loaded working rfl rfl ?_ (fun _ mail_eq => by cases mail_eq)
    (.inr ?_) trivial
  · refine ⟨fun _ _ => rfl, fun other away => ?_, fun mail mail_mem => ?_⟩
    · have different : other ≠ receipt.id := fun same => away (same ▸ rfl)
      simp [State.setPlayer, different]
    · obtain ⟨old, old_mem, old_eq⟩ := Mailbox.mem_setGet.mp mail_mem
      refine ⟨old, old_mem, ?_⟩
      subst old_eq
      by_cases here : old.id = receipt.id
      · simp [here]
      · simp [here]
  · refine ⟨fun index => (paid index).le, fun _ _ _ _ index => paid index, ?_⟩
    intro mail mail_mem id_eq unmarked
    obtain ⟨old, old_mem, old_eq⟩ := Mailbox.mem_setGet.mp mail_mem
    subst old_eq
    by_cases here : old.id = receipt.id
    · simp [here] at unmarked
    · simp [here] at id_eq

theorem keeps_skip (rest_eq : receipt.rest = attach :: rest)
    (holding : Holding box tables state.player receipt receipt.left)
    (worthless : attach.count ≤ 0) :
    (receivePool box tables).Keeps others (state.skip receipt rest) := by
  refine keeps_stays holds apart loaded rfl rfl (.refl state.player)
    (fun id mail_eq => working.trans mail_eq) ?_
  refine holding.move rfl rfl (fun other other_mem => ?_) rfl rfl fun index => ?_
  · rw [rest_eq]
    exact List.mem_cons_of_mem attach other_mem
  · rw [Receipt.left_cons rest_eq index]
    split
    · rename_i here
      have nothing : attach.due = 0 := max_eq_right worthless
      rw [nothing, here]
      simp [Receipt.left]
    · rfl

theorem keeps_addRes (rest_eq : receipt.rest = attach :: rest)
    (holding : Holding box tables state.player receipt receipt.left) (worth : 0 < attach.count) :
    (receivePool box tables).Keeps others
      ((state.setPlayer (state.player.addRes receipt attach)).skip receipt rest) := by
  have added : state.player.addRes receipt attach =
      { state.player with
        res := Function.update state.player.res attach.cfgId
          (state.player.res attach.cfgId + attach.count)
        credited := Function.update state.player.credited receipt.id
          (Function.update (state.player.credited receipt.id) receipt.index
            (state.player.credited receipt.id receipt.index + attach.count)) } := by
    rw [Player.addRes, if_neg (by omega)]
  have leaves : Leaves (some receipt.id) state.player (state.player.addRes receipt attach) := by
    rw [added]
    refine .of_books (fun other away => ?_) rfl rfl
    have different : other ≠ receipt.id := fun same => away (same ▸ rfl)
    simp [different]
  refine keeps_works holds apart loaded working rfl rfl leaves
    (fun other mail_eq => (Option.some.inj mail_eq).symm) (.inl rfl) ?_
  refine holding.move rfl rfl (fun other other_mem => ?_) (by rw [State.setPlayer, added])
    (by rw [State.setPlayer, added]) fun index => ?_
  · rw [rest_eq]
    exact List.mem_cons_of_mem attach other_mem
  · rw [Receipt.left_cons rest_eq index, State.setPlayer, added]
    simp only [Function.update_self]
    split
    · rename_i here
      have whole : attach.due = attach.count := max_eq_left worth.le
      rw [here, Function.update_self, whole]
      simp [Receipt.left]
    · rename_i elsewhere
      rw [Function.update_of_ne elsewhere]

theorem keeps_nextAttachment (holding : Holding box tables state.player receipt receipt.left) :
    (receivePool box tables).Keeps others (state.nextAttachment tables receipt) := by
  unfold State.nextAttachment
  split
  · rename_i rest_eq
    exact keeps_markGet holds apart loaded working rest_eq holding
  · rename_i attach rest rest_eq
    have creditable := holding.creditable attach (by rw [rest_eq]; exact List.mem_cons_self)
    have skips : attach.count ≤ 0 →
        (receivePool box tables).Keeps others (state.skip receipt rest) :=
      keeps_skip holds apart loaded working rest_eq holding
    by_cases worth : 0 < attach.count
    · obtain ⟨logs, taken⟩ := creditable worth
      rw [if_pos logs, if_pos logs, if_neg (by omega)]
      rcases taken with is_res | ⟨is_item, configured⟩
      · rw [is_res]
        exact keeps_addRes holds apart loaded working rest_eq holding worth
      · obtain ⟨itemCfg, found⟩ := Option.isSome_iff_exists.mp configured
        rw [is_item, found]
        refine keeps_stays holds apart loaded rfl rfl (.refl state.player)
          (fun id mail_eq => working.trans mail_eq) ?_
        refine holding.move rfl rfl (fun other other_mem => ?_) rfl rfl fun index => ?_
        · rw [rest_eq]
          exact List.mem_cons_of_mem attach other_mem
        · have whole : attach.due = attach.count := max_eq_left worth.le
          have count_eq : (attach.count.toNat : ℤ) = attach.count := Int.toNat_of_nonneg worth.le
          rw [Receipt.left_cons rest_eq index, Receipt.leftAdding]
          split
          · rw [placed_turns, count_eq, whole]
          · rfl
    · have worthless : attach.count ≤ 0 := by omega
      have passed := skips worthless
      split
      · split
        · have added : state.player.addRes receipt attach = state.player := if_pos worthless
          rw [added]
          exact passed
        · exact passed
      · split
        · exact keeps_ended holds rfl rfl (.refl state.player)
        · exact passed
      · exact passed

end

/-- A turn of the loops of `addItem` credits what it places. -/
theorem keeps_nextChunk {adding : Adding}
    (apart : ∀ other ∈ others, (receivePool box tables).apart task other)
    (loaded : task.loads = state.loads) (point_eq : task.point = .chunks receipt adding)
    (holding : Holding box tables state.player receipt (receipt.leftAdding adding))
    (allows : (undisturbed tables).onReply task .resume state others) :
    (receivePool box tables).Keeps others (state.nextChunk receipt adding) := by
  have working : task.point.mail = some receipt.id := by rw [point_eq]; rfl
  obtain ⟨itemCfg, cfgId, chunks⟩ := adding
  cases chunks with
  | nil =>
      refine keeps_stays holds apart loaded rfl rfl (.refl state.player)
        (fun id mail_eq => working.trans mail_eq) ?_
      refine holding.move rfl rfl (fun _ other_mem => other_mem) rfl rfl fun index => ?_
      rw [Receipt.leftAdding]
      split
      · rename_i here
        rw [here]
        simp [Receipt.left]
      · rfl
  | cons chunk chunks =>
      have placeable : state.player.Placeable chunk := by
        have rule := allows loaded rfl
        simpa only [point_eq] using rule
      have credited_eq : (state.player.place receipt cfgId (state.uuid + 1) chunk).credited =
          Function.update state.player.credited receipt.id
            (Function.update (state.player.credited receipt.id) receipt.index
              (state.player.credited receipt.id receipt.index + chunk.num)) := by
        rw [Player.place, if_pos placeable]
      have receiving_eq : (state.player.place receipt cfgId (state.uuid + 1) chunk).receiving =
          state.player.receiving := by
        rw [Player.place, if_pos placeable]
      have mails_eq : (state.player.place receipt cfgId (state.uuid + 1) chunk).mailsDict =
          state.player.mailsDict := by
        rw [Player.place, if_pos placeable]
      refine keeps_works holds apart loaded working rfl rfl
        (.of_books (fun other away => ?_) receiving_eq mails_eq)
        (fun other mail_eq => (Option.some.inj mail_eq).symm) (.inl rfl) ?_
      · have different : other ≠ receipt.id := fun same => away (same ▸ rfl)
        rw [credited_eq, Function.update_of_ne different]
      · refine holding.move rfl rfl (fun _ other_mem => other_mem) receiving_eq mails_eq
          fun index => ?_
        rw [credited_eq, Function.update_self]
        unfold Receipt.leftAdding
        split
        · rename_i here
          rw [here, Function.update_self, placed_cons]
          dsimp only
          omega
        · rename_i elsewhere
          rw [Function.update_of_ne elsewhere]

end

theorem leaves_answer (state : State) (adding : Adding) (call : Call) :
    Leaves none state.player (state.answer adding call).player := by
  cases call with
  | isNewGet => exact .refl state.player
  | autoUseItem id num =>
      show Leaves none state.player (state.player.autoUseItem adding.cfgId id num)
      unfold Player.autoUseItem
      split
      · exact .of_books (fun _ _ => rfl) rfl rfl
      · exact .refl state.player

theorem answer_loads (state : State) (adding : Adding) (call : Call) :
    (state.answer adding call).loads = state.loads ∧
      (state.answer adding call).stored = state.stored := by
  cases call <;> exact ⟨rfl, rfl⟩

theorem keeps_turn {adding : Adding} (holds : (receivePool box tables).Holds ⟨state, others⟩)
    (apart : ∀ other ∈ others, (receivePool box tables).apart task other)
    (loaded : task.loads = state.loads) (working : task.point.mail = some receipt.id)
    (holding : Holding box tables state.player receipt (receipt.leftAdding adding))
    (next_eq : next = state ∨ ∃ call, next = state.answer adding call)
    (point_eq : (∃ left, point = .calls receipt adding left) ∨ point = .chunks receipt adding ∨
      ∃ call left, point = .waits receipt adding call left) :
    (receivePool box tables).Keeps others (next.goOn point) := by
  have leaves : Leaves none state.player next.player := by
    rcases next_eq with rfl | ⟨call, rfl⟩
    · exact .refl _
    · exact leaves_answer state adding call
  have same : next.loads = state.loads ∧ next.stored = state.stored := by
    rcases next_eq with rfl | ⟨call, rfl⟩
    · exact ⟨rfl, rfl⟩
    · exact answer_loads state adding call
  have knows := leaves.holding (fun here => by cases here) holding
  rcases point_eq with ⟨left, rfl⟩ | rfl | ⟨call, left, rfl⟩ <;>
    exact keeps_stays holds apart loaded same.1 same.2 leaves
      (fun id mail_eq => working.trans mail_eq) knows

theorem keeps_resume {reply : Reply} (holds : (receivePool box tables).Holds ⟨state, others⟩)
    (own : (receivePool box tables).own state task)
    (apart : ∀ other ∈ others, (receivePool box tables).apart task other)
    (allows : (undisturbed tables).onReply task reply state others) :
    (receivePool box tables).Keeps others (state.resume tables task reply) := by
  have unchanged : (receivePool box tables).Keeps others (state, [task]) :=
    .unchanged holds own apart
  unfold State.resume
  split
  · exact .ended holds
  · rename_i current
    have loaded : task.loads = state.loads := not_not.mp current
    have knows := own.2 loaded
    split
    · rename_i ids point_eq
      exact keeps_nextMail holds apart loaded point_eq allows
    · rename_i receipt point_eq
      rw [point_eq] at knows
      exact keeps_nextAttachment holds apart loaded (by rw [point_eq]; rfl) knows
    · rename_i receipt adding point_eq
      rw [point_eq] at knows
      exact keeps_nextChunk holds apart loaded point_eq knows allows
    · rename_i receipt adding left point_eq
      rw [point_eq] at knows
      have working : task.point.mail = some receipt.id := by rw [point_eq]; rfl
      unfold State.nextCall
      split
      · exact keeps_turn holds apart loaded working knows (.inl rfl) (.inr (.inl rfl))
      · rename_i call later
        split
        · exact keeps_turn holds apart loaded working knows (.inl rfl)
            (.inr (.inr ⟨call, later, rfl⟩))
        · exact keeps_turn holds apart loaded working knows (.inr ⟨call, rfl⟩)
            (.inl ⟨later, rfl⟩)
    · rename_i receipt adding call left point_eq
      rw [point_eq] at knows
      have working : task.point.mail = some receipt.id := by rw [point_eq]; rfl
      split
      · exact unchanged
      · split
        · exact keeps_turn holds apart loaded working knows (.inr ⟨_, rfl⟩) (.inl ⟨left, rfl⟩)
        · split
          · exact keeps_turn holds apart loaded working knows (.inl rfl) (.inl ⟨left, rfl⟩)
          · exact unchanged
        · exact unchanged
        · exact .ended holds
    · exact unchanged

theorem leaves_of_mails {mailsDict : Mailbox}
    (mails : ∀ mail ∈ mailsDict.mails, ∃ old ∈ player.mailsDict.mails,
      old.id = mail.id ∧ old.attachment = mail.attachment ∧ mail.get = old.get) :
    Leaves none player { player with mailsDict := mailsDict } where
  credited _ _ := rfl
  receiving _ _ := Iff.rfl
  mails mail mail_mem := by
    obtain ⟨old, old_mem, id_eq, attachment_eq, get_eq⟩ := mails mail mail_mem
    exact ⟨old, old_mem, id_eq, attachment_eq, fun _ => get_eq⟩

theorem leaves_setRead (player : Player) (ids : List ℕ) :
    Leaves none player { player with mailsDict := player.mailsDict.setRead ids } := by
  refine leaves_of_mails fun mail mail_mem => ?_
  obtain ⟨old, old_mem, rfl⟩ := Mailbox.mem_setRead.mp mail_mem
  refine ⟨old, old_mem, ?_⟩
  split <;> exact ⟨rfl, rfl, rfl⟩

theorem leaves_keep (player : Player) (kept : PlyMail → Bool) :
    Leaves none player { player with mailsDict := player.mailsDict.keep kept } := by
  refine leaves_of_mails fun mail mail_mem => ?_
  exact ⟨mail, (Mailbox.mem_keep.mp mail_mem).1, rfl, rfl, rfl⟩

theorem keeps_start (ids : List ℕ) (holds : (receivePool box tables).Holds ⟨state, others⟩)
    (loads_eq : next.loads = state.loads) (stored_eq : next.stored = state.stored)
    (leaves : Leaves none state.player next.player) :
    (receivePool box tables).Keeps others (next.goOn (.mails ids)) :=
  keeps_goOn holds loads_eq stored_eq leaves
    (fun _ _ _ _ _ => ⟨by simp, fun mail_eq => by cases mail_eq⟩) (fun _ here => by cases here)
    trivial

theorem keeps_accept (request : Request) (holds : (receivePool box tables).Holds ⟨state, others⟩) :
    (receivePool box tables).Keeps others (state.accept request) := by
  have unchanged : (receivePool box tables).Keeps others (state, []) := .ended holds
  unfold State.accept
  split
  · exact unchanged
  · cases request with
    | getMail id => exact keeps_ended holds rfl rfl (leaves_setRead state.player [id])
    | delMail id => exact keeps_ended holds rfl rfl (leaves_keep state.player _)
    | oneKeyDelMails => exact keeps_ended holds rfl rfl (leaves_keep state.player _)
    | oneKeyReadMails ids =>
        dsimp only
        split
        · exact keeps_start ids holds rfl rfl (leaves_setRead state.player ids)
        · exact unchanged
    | receiveMailAttach id =>
        dsimp only
        split
        · exact unchanged
        · split
          · exact unchanged
          · split
            · exact unchanged
            · exact keeps_start [id] holds rfl rfl (.refl state.player)
    | checkExpireMails now => exact keeps_ended holds rfl rfl (leaves_keep state.player _)
    | saveToDb =>
        exact
          { shared := ⟨holds.shared.1, holds.shared.1⟩
            stable := holds.own
            fresh := by simp
            apart := by simp
            fresh_apart := .nil }
    | load =>
        -- Every handler that is left belongs to an earlier object.
        refine ⟨⟨holds.shared.2, holds.shared.2⟩, fun other other_mem => ?_, by simp, by simp,
          .nil⟩
        have older : other.loads ≤ state.loads := (holds.own other other_mem).1
        exact ⟨Nat.le_succ_of_le older, fun current => absurd current (Nat.lt_succ_of_le older).ne⟩

theorem receivePool_kept (box : Mailbox) (tables : Tables) :
    (receivePool box tables).KeptBy (mailBag tables) (undisturbed tables) where
  accept request _ _ holds _ := keeps_accept request holds
  resume _ _ _ _ holds own apart allows := keeps_resume holds own apart allows

/-- A player with a mailbox; what is marked has been credited before. -/
def playerStart (box : Mailbox) (res : ℕ → ℤ) (items : List Item) : Player where
  mailsDict := box
  res := res
  items := items
  used _ := 0
  credited id index :=
    ((box.find id).map fun mail => if mail.get then mail.due index else 0).getD 0
  receiving := []

def mailStart (box : Mailbox) (res : ℕ → ℤ) (items : List Item) (uuid : ℕ) : Config State Task :=
  ⟨⟨playerStart box res items, playerStart box res items, 0, uuid, false⟩, []⟩

theorem playerStart_sound (box : Mailbox) (res : ℕ → ℤ) (items : List Item) :
    Sound box (playerStart box res items) := by
  have due_eq : ∀ mail ∈ box.mails, ∀ index, due box mail.id index = mail.due index := by
    intro mail mail_mem index
    simp [due, Mailbox.find_of_mem mail_mem]
  refine ⟨⟨fun id index => ?_, fun mail mail_mem marked index => ?_⟩,
    fun mail mail_mem index => (due_eq mail mail_mem index).symm,
    fun mail mail_mem unmarked _ index => ?_⟩
  · cases found : box.find id with
    | none => simp [playerStart, due, found]
    | some mail =>
        have nonneg : 0 ≤ mail.due index := due_nonneg _
        simp only [playerStart, due, found, Option.map_some, Option.getD_some]
        split
        · exact le_rfl
        · exact nonneg
  · have found := Mailbox.find_of_mem (show mail ∈ box.mails from mail_mem)
    rw [due_eq mail mail_mem]
    simp [playerStart, found, marked]
  · have found := Mailbox.find_of_mem (show mail ∈ box.mails from mail_mem)
    simp [playerStart, found, unmarked]

/-- Over every undisturbed run, no attachment is credited twice and every marked mail has brought
what it is worth. -/
theorem attachmentsCredited_run (tables : Tables) (box : Mailbox) (res : ℕ → ℤ) (items : List Item)
    (uuid : ℕ) (events : List (Event Request Reply))
    (admits : (undisturbed tables).Admits (mailBag tables) (mailStart box res items uuid) events) :
    CreditedOnce box
      ((mailBag tables).run (mailStart box res items uuid) events).state.player := by
  have start : (receivePool box tables).Holds (mailStart box res items uuid) :=
    { shared := ⟨playerStart_sound box res items, playerStart_sound box res items⟩
      own := by simp [mailStart]
      apart := .nil }
  exact ((receivePool_kept box tables).holds_run admits start).shared.1.toCreditedOnce

def sampleTables : Tables where
  gamelog _ := true
  item cfgId := if cfgId = 5 then some ⟨10, by decide, true, false, false, false⟩ else none

def sampleBox : Mailbox where
  mails :=
    [⟨1, .ply, 720, .all, 0, some [⟨.res, 104, 100⟩, ⟨.item, 5, 2⟩], false, false, some 10⟩]
  nodup := by decide

/-- The handler of a receive goes on a number of times. -/
def resumes (times : ℕ) : List (Event Request Reply) :=
  List.replicate times (.reply 0 .resume)

/-- The mail is received, deleted after a save, and is back after a load. -/
def receiveRun : List (Event Request Reply) :=
  .request (.getMail 1) :: .request (.receiveMailAttach 1) :: resumes 10 ++
    [.request .saveToDb, .request (.delMail 1), .request .load, .request (.receiveMailAttach 1)]

theorem attachmentsCredited_receiveRun :
    ((mailBag sampleTables).run (mailStart sampleBox (fun _ => 0) [] 0)
        receiveRun).state.player.res 104 = 100 ∧
      CreditedOnce sampleBox
        ((mailBag sampleTables).run (mailStart sampleBox (fun _ => 0) [] 0)
          receiveRun).state.player :=
  ⟨by decide,
    attachmentsCredited_run sampleTables sampleBox (fun _ => 0) [] 0 receiveRun (by decide)⟩

/-- The mail is received before it is read, and then all mails are read with one key. -/
def unreadRun : List (Event Request Reply) :=
  .request (.receiveMailAttach 1) :: resumes 10 ++ .request (.oneKeyReadMails [1]) :: resumes 10

theorem not_attachmentsCredited_unreadRun :
    ¬ CreditedOnce sampleBox
      ((mailBag sampleTables).run (mailStart sampleBox (fun _ => 0) [] 0)
        unreadRun).state.player :=
  fun once => absurd (once.atMost 1 0) (by decide)

end BasWar.Mails
