import BasWar.Cooperative.Pool
import BasWar.Player.Rewards

/-!
# Rewards are received once

A handler that has passed its test and has not yet written its mark holds the reward open.  As long
as no reward is tested or renewed while another handler holds it open, each is credited at most as
often as its limit allows and is marked exactly when it was credited.  Crediting a hero leaves the
reward of the first recharge open, and a second request then passes the same test.
-/

namespace BasWar.Rewards

open Cooperative

namespace Act

/-- The marks that an act writes, with their counts. -/
def opens : Act → List (Reward × ℕ)
  | .mark reward count => [(reward, count)]
  | _ => []

def credits : Act → List Reward
  | .credit reward _ => [reward]
  | _ => []

def due : Act → Multiset Piece
  | .credit _ pieces => pieces
  | _ => 0

def added : Act → Multiset Piece
  | .add piece => {piece}
  | _ => 0

end Act

namespace Task

def acts : Task → List Act
  | .crediting acts => acts
  | _ => []

/-- The marks that a suspended handler has tested and not yet written. -/
def opens : Task → List (Reward × ℕ)
  | .crediting acts => acts.flatMap Act.opens
  | .finding _ _ => []
  | .taking _ cfgId count => [(.giftCode cfgId, count + 1)]
  | .inserting _ cfgId count => [(.giftCode cfgId, count + 1)]

end Task

/-- The rewards that suspended handlers hold open. -/
def openRewards (tasks : List Task) : List Reward :=
  (tasks.flatMap Task.opens).map Prod.fst

/-- The acts that suspended handlers have left. -/
def actsLeft (tasks : List Task) : List Act :=
  tasks.flatMap Task.acts

/-- The rewards that a request opens: those whose tests it passes. -/
def Request.starts (tables : Tables) (state : State) : Request → List Reward
  | .receive now call =>
      ((Rewards.receive tables now state.bags call).flatMap Act.opens).map Prod.fst
  | .useGiftCode now code => openRewards (Rewards.useGiftCode tables now state code).2
  | .change _ => []

def Request.renews (tables : Tables) : Request → Reward → Bool
  | .change other, reward => other.renews tables reward
  | _, _ => false

/-- A reward is tested or renewed only while no other handler holds it open. -/
def clear (tables : Tables) : Guard State Request Task Reply where
  onRequest request state others :=
    (∀ reward ∈ request.starts tables state, reward ∉ openRewards others) ∧
      ∀ reward ∈ openRewards others, request.renews tables reward = false
  onReply task reply state others :=
    match task, reply with
    | .finding code cfgId, .doc (some false) =>
        ∀ reward ∈ openRewards (checkCount tables state code cfgId), reward ∉ openRewards others
    | _, _ => True

instance (tables : Tables) (request state others) :
    Decidable ((clear tables).onRequest request state others) :=
  inferInstanceAs (Decidable (_ ∧ _))

instance (tables : Tables) (task reply state others) :
    Decidable ((clear tables).onReply task reply state others) := by
  unfold clear
  dsimp only
  split <;> infer_instance

/-- No reward is credited more often than its limit, a reward that no handler holds open is marked
as often as it was credited, and at rest every piece of what was credited has been added. -/
structure PaidOnce (tables : Tables) (config : Config State Task) : Prop where
  limit : ∀ reward, config.state.credited reward ≤ tables.limit reward
  marked : ∀ reward ∉ openRewards config.waiting,
    config.state.bags.received reward = config.state.credited reward
  whole : config.Idle → config.state.added = config.state.due

/-- Every reward whose crediting is still to begin is marked later. -/
def Ready : List Act → Prop
  | [] => True
  | .credit reward _ :: acts => (∃ count, (reward, count) ∈ acts.flatMap Act.opens) ∧ Ready acts
  | _ :: acts => Ready acts

/-- What the tests of a handler make sure of. -/
structure Fair (tables : Tables) (bags : Bags) (acts : List Act) : Prop where
  next : ∀ mark ∈ acts.flatMap Act.opens,
    bags.received mark.1 + 1 = mark.2 ∧ mark.2 ≤ tables.limit mark.1
  apart : ((acts.flatMap Act.opens).map Prod.fst).Nodup
  balanced : (acts.flatMap Act.credits).Perm ((acts.flatMap Act.opens).map Prod.fst)
  pieces : (acts.map Act.added).sum = (acts.map Act.due).sum
  ready : Ready acts

/-- The invariant of the ledger, the marks and the suspended handlers. -/
structure Sound (tables : Tables) (state : State) (tasks : List Task) : Prop where
  received_le : ∀ reward, state.bags.received reward ≤ tables.limit reward
  next : ∀ mark ∈ tasks.flatMap Task.opens,
    state.bags.received mark.1 + 1 = mark.2 ∧ mark.2 ≤ tables.limit mark.1
  apart : (openRewards tasks).Nodup
  balanced : ∀ reward,
    state.credited reward + ((actsLeft tasks).flatMap Act.credits).count reward =
      state.bags.received reward +
        (((actsLeft tasks).flatMap Act.opens).map Prod.fst).count reward
  pieces : state.added + ((actsLeft tasks).map Act.added).sum =
    state.due + ((actsLeft tasks).map Act.due).sum
  ready : ∀ task ∈ tasks, Ready task.acts

section Acts

variable {tables : Tables} {bags : Bags} {reward : Reward} {pieces : List Piece}

@[simp]
theorem opens_adds (pieces : List Piece) : (pieces.map Act.add).flatMap Act.opens = [] := by
  simp [List.flatMap_map, Act.opens]

@[simp]
theorem credits_adds (pieces : List Piece) : (pieces.map Act.add).flatMap Act.credits = [] := by
  simp [List.flatMap_map, Act.credits]

@[simp]
theorem due_adds (pieces : List Piece) : ((pieces.map Act.add).map Act.due).sum = 0 := by
  induction pieces with
  | nil => rfl
  | cons piece pieces ih => simpa [Act.due] using ih

@[simp]
theorem added_adds (pieces : List Piece) :
    ((pieces.map Act.add).map Act.added).sum = (pieces : Multiset Piece) := by
  induction pieces with
  | nil => rfl
  | cons piece pieces ih =>
      simp only [List.map_cons, List.sum_cons, ih, Act.added]
      rfl

variable {first second : List Act}

theorem ready_append (first_ready : Ready first) (second_ready : Ready second) :
    Ready (first ++ second) := by
  induction first with
  | nil => exact second_ready
  | cons act acts ih =>
      cases act with
      | credit reward pieces =>
          obtain ⟨⟨count, count_mem⟩, acts_ready⟩ := first_ready
          refine ⟨⟨count, ?_⟩, ih acts_ready⟩
          change (reward, count) ∈ (acts ++ second).flatMap Act.opens
          rw [List.flatMap_append]
          exact List.mem_append_left _ count_mem
      | add _ => exact ih first_ready
      | mark _ _ => exact ih first_ready
      | addActivation _ => exact ih first_ready
      | setChapter _ => exact ih first_ready

theorem ready_adds (pieces : List Piece) : Ready (pieces.map Act.add) := by
  induction pieces with
  | nil => trivial
  | cons piece pieces ih => exact ih

theorem fair_nil : Fair tables bags [] where
  next := by simp
  apart := .nil
  balanced := .nil
  pieces := rfl
  ready := trivial

theorem fair_payout (unmarked : bags.received reward = 0) (flag : tables.limit reward = 1)
    (pieces : List Piece) : Fair tables bags (payout reward pieces) where
  next := by simp [payout, Act.opens, unmarked, flag]
  apart := by simp [payout, Act.opens]
  balanced := by simp [payout, Act.opens, Act.credits]
  pieces := by
    simp only [payout, List.cons_append, List.map_cons, List.map_append, List.sum_cons,
      List.sum_append, added_adds, due_adds]
    simp [Act.added, Act.due]
  ready :=
    ⟨⟨1, by simp [Act.opens]⟩, ready_append (ready_adds pieces) trivial⟩

theorem Fair.append (first_fair : Fair tables bags first) (second_fair : Fair tables bags second)
    (disjoint : List.Disjoint ((first.flatMap Act.opens).map Prod.fst)
      ((second.flatMap Act.opens).map Prod.fst)) : Fair tables bags (first ++ second) where
  next mark mark_mem := by
    rw [List.flatMap_append] at mark_mem
    rcases List.mem_append.mp mark_mem with is_first | is_second
    · exact first_fair.next mark is_first
    · exact second_fair.next mark is_second
  apart := by
    rw [List.flatMap_append, List.map_append]
    exact first_fair.apart.append second_fair.apart disjoint
  balanced := by
    rw [List.flatMap_append, List.flatMap_append, List.map_append]
    exact first_fair.balanced.append second_fair.balanced
  pieces := by
    simp only [List.map_append, List.sum_append, first_fair.pieces, second_fair.pieces]
  ready := ready_append first_fair.ready second_fair.ready

theorem fair_addActivation (amount : ℕ) : Fair tables bags [.addActivation amount] :=
  ⟨by simp [Act.opens], by simp [Act.opens], by simp [Act.opens, Act.credits], rfl, trivial⟩

theorem fair_setChapter (chapterId : ℕ) : Fair tables bags [.setChapter chapterId] :=
  ⟨by simp [Act.opens], by simp [Act.opens], by simp [Act.opens, Act.credits], rfl, trivial⟩

theorem fair_counted {count : ℕ} (count_eq : bags.received reward = count)
    (below : count < tables.limit reward) (pieces : List Piece) :
    Fair tables bags (.credit reward pieces :: .mark reward (count + 1) :: pieces.map .add) where
  next := by
    simp [Act.opens, count_eq]
    omega
  apart := by simp [Act.opens]
  balanced := by simp [Act.opens, Act.credits]
  pieces := by
    simp only [List.map_cons, List.sum_cons, added_adds, due_adds]
    simp [Act.added, Act.due]
  ready := ⟨⟨count + 1, by simp [Act.opens]⟩, ready_adds pieces⟩

theorem disjoint_plain (plain : second.flatMap Act.opens = []) :
    List.Disjoint ((first.flatMap Act.opens).map Prod.fst)
      ((second.flatMap Act.opens).map Prod.fst) := by
  simp [plain]

@[simp]
theorem opens_payout (reward : Reward) (pieces : List Piece) :
    (payout reward pieces).flatMap Act.opens = [(reward, 1)] := by
  simp [payout, Act.opens]

theorem fair_receiveTaskRewards (cfgId : ℕ) :
    Fair tables bags (receiveTaskRewards tables bags cfgId) := by
  unfold receiveTaskRewards
  split
  next cfg not_received _ =>
    refine (fair_payout (by simp [Bags.received, not_received]) rfl _).append ?_ ?_
    · split
      · exact fair_addActivation cfg.activation
      · exact fair_nil
    · refine disjoint_plain ?_
      split <;> simp [Act.opens]
  · exact fair_nil

theorem fair_receiveChapterRewards : Fair tables bags (receiveChapterRewards tables bags) := by
  unfold receiveChapterRewards
  split
  · exact fair_nil
  next cfg _ =>
    split_ifs with all_received received
    · exact fair_nil
    · refine (fair_payout (by simpa [Bags.received] using received) rfl _).append ?_ ?_
      · cases cfg.nextChapter with
        | none => exact fair_nil
        | some chapterId => exact fair_setChapter chapterId
      · refine disjoint_plain ?_
        cases cfg.nextChapter <;> simp [Act.opens]
    · exact fair_nil

theorem fair_receiveActivationRewards (cfgId : ℕ) :
    Fair tables bags (receiveActivationRewards tables bags cfgId) := by
  unfold receiveActivationRewards
  split
  · exact fair_nil
  · split_ifs with refused
    · exact fair_nil
    · split
      · exact fair_nil
      · rw [not_or, Bool.not_eq_true] at refused
        exact fair_payout (by simp [Bags.received, refused.1]) rfl _

theorem fair_getFundsReward (now : ℤ) (cfgId : ℕ) :
    Fair tables bags (getFundsReward tables now bags cfgId) := by
  unfold getFundsReward
  split
  · exact fair_nil
  next cfg found =>
    split_ifs with tested
    · obtain ⟨row, row_eq⟩ := Option.isSome_iff_exists.mp (tables.funds_rewarded cfgId cfg found)
      simp only [getReward, row_eq, Option.map_some]
      exact fair_payout (by simp [Bags.received, tested.2.1]) rfl _
    · exact fair_nil

theorem fair_getFirstOrRechargeReward (now : ℤ) (giftCfgId : ℕ) :
    Fair tables bags (getFirstOrRechargeReward tables now bags giftCfgId) := by
  have paid_out {reward : Reward} (unmarked : bags.received reward = 0)
      (flag : tables.limit reward = 1) (pieces : Option (List Piece)) :
      Fair tables bags ((pieces.map (payout reward)).getD []) := by
    cases pieces with
    | none => exact fair_nil
    | some pieces => exact fair_payout unmarked flag pieces
  unfold getFirstOrRechargeReward
  split_ifs
  · unfold getFirestRechargeReward
    split_ifs with tested
    · exact paid_out (by simp [Bags.received, tested.2.1]) rfl _
    · exact fair_nil
  · unfold getRechargeReward
    split_ifs with tested
    · exact paid_out (by simp [Bags.received, tested.2.1]) rfl _
    · exact fair_nil
  · exact fair_nil

theorem fair_getDailyCheckReward (weekDay : ℕ) :
    Fair tables bags (getDailyCheckReward tables bags weekDay) := by
  unfold getDailyCheckReward
  split_ifs with tested
  · obtain ⟨row, row_eq⟩ := Option.isSome_iff_exists.mp (tables.dailyCheck_rewarded weekDay)
    simp only [getReward, row_eq, Option.map_some]
    exact fair_payout (by simp [Bags.received, tested.2.2.1]) rfl _
  · exact fair_nil

theorem fair_getLoginActDayReward (now : ℤ) (day : ℕ) :
    Fair tables bags (getLoginActDayReward tables now bags day) := by
  unfold getLoginActDayReward
  split_ifs with refused base adv adv
  · exact fair_nil
  · refine (fair_payout (by simp [Bags.received, base]) rfl _).append
      (fair_payout (by simp [Bags.received, adv]) rfl _) ?_
    simp
  · rw [List.append_nil]
    exact fair_payout (by simp [Bags.received, base]) rfl _
  · rw [List.nil_append]
    exact fair_payout (by simp [Bags.received, adv]) rfl _
  · exact fair_nil

theorem fair_getGiftReward (received_le : ∀ reward, bags.received reward ≤ tables.limit reward)
    (productId : String) : Fair tables bags (getGiftReward tables bags productId) := by
  unfold getGiftReward
  split
  · exact fair_nil
  next cfg found =>
    split_ifs with reached
    · exact fair_nil
    · refine fair_counted rfl ?_ [.item cfg.itemCfgId 1]
      have count_le := received_le (.dailyGift productId)
      have num_pos := cfg.num.pos
      simp only [Tables.limit, Bags.received, found, Option.map_some, Option.getD_some]
        at count_le ⊢
      rw [not_and] at reached
      rcases Nat.eq_zero_or_pos (bags.dailyGift productId) with is_zero | is_pos
      · omega
      · exact lt_of_le_of_ne count_le (reached is_pos)

theorem fair_receive (received_le : ∀ reward, bags.received reward ≤ tables.limit reward)
    (now : ℤ) (call : Call) : Fair tables bags (receive tables now bags call) := by
  cases call with
  | receiveTaskRewards cfgId => exact fair_receiveTaskRewards cfgId
  | receiveChapterRewards => exact fair_receiveChapterRewards
  | receiveActivationRewards cfgId => exact fair_receiveActivationRewards cfgId
  | getFundsReward cfgId => exact fair_getFundsReward now cfgId
  | getFirstOrRechargeReward giftCfgId => exact fair_getFirstOrRechargeReward now giftCfgId
  | getDailyCheckReward weekDay => exact fair_getDailyCheckReward weekDay
  | getLoginActDayReward day => exact fair_getLoginActDayReward now day
  | getGiftReward productId => exact fair_getGiftReward received_le productId

theorem fair_giftActs {cfgId count : ℕ} (count_eq : bags.rewardDict cfgId = count)
    (below : count < (tables.giftCode cfgId).limit) :
    Fair tables bags (giftActs tables cfgId count) := by
  have received_eq : bags.received (.giftCode cfgId) = count := count_eq
  exact fair_counted received_eq below _

end Acts

theorem received_mark {tables : Tables} {bags : Bags} {reward : Reward} {count : ℕ}
    (next : bags.received reward + 1 = count) (le : count ≤ tables.limit reward)
    (other : Reward) :
    (bags.mark count reward).received other =
      if other = reward then count else bags.received other := by
  by_cases same : other = reward
  · subst same
    rw [if_pos rfl]
    cases other with
    | dailyGift productId => simp [Bags.received, Bags.mark]
    | giftCode cfgId => simp [Bags.received, Bags.mark]
    | _ =>
        have flag : count = 1 := by
          simp only [Tables.limit] at le
          omega
        simp [Bags.received, Bags.mark, flag]
  · rw [if_neg same]
    -- marks of different kinds are different fields
    cases reward <;> cases other <;>
      first
        | rfl
        | simp_all [Bags.received, Bags.mark]

namespace Sound

variable {tables : Tables} {state : State} {tasks others : List Task} {task : Task}

theorem perm {second : List Task} (sound : Sound tables state tasks) (same : tasks.Perm second) :
    Sound tables state second where
  received_le := sound.received_le
  next mark mark_mem := sound.next mark ((same.flatMap_right Task.opens).mem_iff.mpr mark_mem)
  apart := ((same.flatMap_right Task.opens).map Prod.fst).nodup_iff.mp sound.apart
  balanced reward := by
    have acts_perm := same.flatMap_right Task.acts
    rw [actsLeft, ← (acts_perm.flatMap_right Act.credits).count_eq,
      ← ((acts_perm.flatMap_right Act.opens).map Prod.fst).count_eq]
    exact sound.balanced reward
  pieces := by
    have acts_perm := same.flatMap_right Task.acts
    rw [actsLeft, ← (acts_perm.map Act.added).sum_eq, ← (acts_perm.map Act.due).sum_eq]
    exact sound.pieces
  ready task task_mem := sound.ready task (same.mem_iff.mpr task_mem)

theorem enter (sound : Sound tables state others)
    (fair : Fair tables state.bags task.acts)
    (next : ∀ mark ∈ task.opens,
      state.bags.received mark.1 + 1 = mark.2 ∧ mark.2 ≤ tables.limit mark.1)
    (apart : (task.opens.map Prod.fst).Nodup)
    (free : ∀ reward ∈ task.opens.map Prod.fst, reward ∉ openRewards others) :
    Sound tables state (task :: others) where
  received_le := sound.received_le
  next mark mark_mem := by
    rcases List.mem_append.mp mark_mem with own | other
    · exact next mark own
    · exact sound.next mark other
  apart := by
    rw [openRewards, List.flatMap_cons, List.map_append]
    exact apart.append sound.apart free
  balanced reward := by
    have own := fair.balanced.count_eq reward
    have rest := sound.balanced reward
    simp only [actsLeft, List.flatMap_cons, List.flatMap_append, List.map_append,
      List.count_append] at rest ⊢
    omega
  pieces := by
    have rest := sound.pieces
    simp only [actsLeft, List.flatMap_cons, List.map_append, List.sum_append, fair.pieces]
      at rest ⊢
    rw [add_left_comm, rest, add_left_comm]
  ready other other_mem := by
    rcases List.mem_cons.mp other_mem with rfl | old
    · exact fair.ready
    · exact sound.ready other old

theorem leave (sound : Sound tables state (task :: others)) (idle : task.acts = []) :
    Sound tables state others where
  received_le := sound.received_le
  next mark mark_mem := sound.next mark (List.mem_append_right _ mark_mem)
  apart := by
    have apart := sound.apart
    rw [openRewards, List.flatMap_cons, List.map_append] at apart
    exact apart.of_append_right
  balanced reward := by simpa [actsLeft, idle] using sound.balanced reward
  pieces := by simpa [actsLeft, idle] using sound.pieces
  ready other other_mem := sound.ready other (List.mem_cons_of_mem _ other_mem)

theorem skip {act : Act} {acts : List Act} {bags : Bags}
    (sound : Sound tables state (.crediting (act :: acts) :: others))
    (same : bags.received = state.bags.received) (opens_nil : act.opens = [])
    (credits_nil : act.credits = []) (due_zero : act.due = 0) (added_zero : act.added = 0)
    (ready : Ready (act :: acts) → Ready acts) :
    Sound tables { state with bags } (.crediting acts :: others) where
  received_le reward := by simpa [same] using sound.received_le reward
  next mark mark_mem := by
    have next := sound.next mark
    simp only [List.flatMap_cons, Task.opens, opens_nil, List.nil_append] at next mark_mem
    simpa [same] using next mark_mem
  apart := by simpa [openRewards, Task.opens, opens_nil] using sound.apart
  balanced reward := by
    simpa [actsLeft, Task.acts, opens_nil, credits_nil, same] using sound.balanced reward
  pieces := by simpa [actsLeft, Task.acts, due_zero, added_zero] using sound.pieces
  ready other other_mem := by
    rcases List.mem_cons.mp other_mem with rfl | old
    · exact ready (sound.ready _ List.mem_cons_self)
    · exact sound.ready other (List.mem_cons_of_mem _ old)

theorem perform_credit {reward : Reward} {pieces : List Piece} {acts : List Act}
    (sound : Sound tables state (.crediting (.credit reward pieces :: acts) :: others)) :
    Sound tables (Act.perform (.credit reward pieces) state) (.crediting acts :: others) where
  received_le := sound.received_le
  next := sound.next
  apart := sound.apart
  balanced other := by
    have balanced := sound.balanced other
    simp only [actsLeft, List.flatMap_cons, Task.acts, List.cons_append, Act.credits, Act.opens,
      List.nil_append, List.count_cons, Act.perform, Function.update_apply] at balanced ⊢
    by_cases same : other = reward
    · subst same
      simp only [beq_self_eq_true, if_true] at balanced ⊢
      omega
    · simpa [same, Ne.symm same] using balanced
  pieces := by
    have pieces_eq := sound.pieces
    simp only [actsLeft, List.flatMap_cons, Task.acts, List.cons_append, List.map_cons,
      List.sum_cons, Act.due, Act.added, zero_add, Act.perform] at pieces_eq ⊢
    rw [pieces_eq, add_assoc]
  ready other other_mem := by
    rcases List.mem_cons.mp other_mem with rfl | old
    · have head_ready : Ready (.credit reward pieces :: acts) :=
        sound.ready _ List.mem_cons_self
      exact head_ready.2
    · exact sound.ready other (List.mem_cons_of_mem _ old)

theorem perform_add {piece : Piece} {acts : List Act}
    (sound : Sound tables state (.crediting (.add piece :: acts) :: others)) :
    Sound tables (Act.perform (.add piece) state) (.crediting acts :: others) where
  received_le := sound.received_le
  next := sound.next
  apart := sound.apart
  balanced := sound.balanced
  pieces := by
    have pieces_eq := sound.pieces
    simp only [actsLeft, List.flatMap_cons, Task.acts, List.cons_append, List.map_cons,
      List.sum_cons, Act.due, Act.added, zero_add, Act.perform] at pieces_eq ⊢
    rw [← pieces_eq, add_assoc]
  ready other other_mem := by
    rcases List.mem_cons.mp other_mem with rfl | old
    · exact sound.ready (.crediting (.add piece :: acts)) List.mem_cons_self
    · exact sound.ready other (List.mem_cons_of_mem _ old)

theorem perform_mark {reward : Reward} {count : ℕ} {acts : List Act}
    (sound : Sound tables state (.crediting (.mark reward count :: acts) :: others)) :
    Sound tables (Act.perform (.mark reward count) state) (.crediting acts :: others) := by
  obtain ⟨next, le⟩ := sound.next (reward, count) (by simp [Task.opens, Act.opens])
  dsimp only at next le
  have received_eq := received_mark next le
  have apart := sound.apart
  have opens_eq : openRewards (.crediting (.mark reward count :: acts) :: others) =
      reward :: openRewards (.crediting acts :: others) := by
    simp [openRewards, Task.opens, Act.opens]
  rw [opens_eq, List.nodup_cons] at apart
  refine ⟨fun other => ?_, fun mark mark_mem => ?_, apart.2, fun other => ?_, ?_, ?_⟩
  · change (state.bags.mark count reward).received other ≤ _
    rw [received_eq other]
    split
    next same => exact same ▸ le
    · exact sound.received_le other
  · have different : mark.1 ≠ reward := fun same =>
      apart.1 (same ▸ List.mem_map_of_mem mark_mem)
    change (state.bags.mark count reward).received mark.1 + 1 = mark.2 ∧ _
    rw [received_eq, if_neg different]
    refine sound.next mark ?_
    simp only [List.flatMap_cons, Task.opens, List.mem_append] at mark_mem ⊢
    exact mark_mem.imp_left .inr
  · have balanced := sound.balanced other
    change state.credited other + _ = (state.bags.mark count reward).received other + _
    rw [received_eq other]
    simp only [actsLeft, List.flatMap_cons, Task.acts, List.cons_append, Act.credits, Act.opens,
      List.nil_append, List.map_cons, List.count_cons] at balanced ⊢
    by_cases same : other = reward
    · subst same
      simp only [beq_self_eq_true, if_true] at balanced ⊢
      omega
    · simpa [same, Ne.symm same] using balanced
  · have pieces_eq := sound.pieces
    simpa [actsLeft, Task.acts, Act.due, Act.added, Act.perform] using pieces_eq
  · intro other other_mem
    rcases List.mem_cons.mp other_mem with rfl | old
    · exact sound.ready (.crediting (.mark reward count :: acts)) List.mem_cons_self
    · exact sound.ready other (List.mem_cons_of_mem _ old)

theorem perform {act : Act} {acts : List Act}
    (sound : Sound tables state (.crediting (act :: acts) :: others)) :
    Sound tables (act.perform state) (.crediting acts :: others) := by
  cases act with
  | credit reward pieces => exact sound.perform_credit
  | add piece => exact sound.perform_add
  | mark reward count => exact sound.perform_mark
  | addActivation amount => exact sound.skip rfl rfl rfl rfl rfl id
  | setChapter chapterId => exact sound.skip rfl rfl rfl rfl rfl id

theorem proceed {acts : List Act} (sound : Sound tables state (.crediting acts :: others)) :
    Sound tables (Rewards.proceed tables acts state).1
      (others ++ (Rewards.proceed tables acts state).2) := by
  have kept := (script tables).run_keeps
    (fun acts state => Sound tables state (.crediting acts :: others))
    (fun _ _ _ sound => sound.perform) sound
  unfold Rewards.proceed
  rcases kept with ⟨rest, left_eq, rest_sound⟩ | ⟨left_eq, done_sound⟩
  · simp only [left_eq, List.map_singleton]
    exact rest_sound.perm (List.perm_append_singleton _ _).symm
  · simp only [left_eq, List.map_nil, List.append_nil]
    exact done_sound.leave rfl

end Sound

theorem received_apply (tables : Tables) (bags : Bags) (change : Change) (reward : Reward) :
    (change.apply tables bags).received reward =
      if change.renews tables reward then 0 else bags.received reward := by
  cases change with
  | completeTask cfgId =>
      unfold Change.apply
      dsimp only
      split
      next incomplete =>
        cases reward with
        | task other =>
            by_cases same : other = cfgId
            · subst same
              simp [Bags.received, Change.renews, incomplete]
            · simp [Bags.received, Change.renews, same]
        | _ => rfl
      · rfl
  | resetDailyData =>
      cases reward with
      | task cfgId =>
          simp only [Change.apply, Change.renews, Bags.received]
          split_ifs <;> simp_all
      | _ => rfl
  | onreset => cases reward <;> rfl
  | setFunds costLevel => cases reward <;> rfl
  | addRechargeVal val => cases reward <;> rfl
  | setBaseLevel level => cases reward <;> rfl
  | setDailyCheck day =>
      unfold Change.apply
      dsimp only
      split
      next unchecked =>
        cases reward with
        | dailyCheck other =>
            by_cases same : other = day
            · subst same
              simp [Bags.received, Change.renews, unchecked]
            · simp [Bags.received, Change.renews, same]
        | _ => rfl
      · rfl
  | flushDailyCheck => cases reward <;> rfl
  | setLoginActDay day =>
      have logIn_iff (status : LoginStatus) : status.logIn = .loginAndGet ↔ status = .loginAndGet :=
        by cases status <;> decide
      cases reward with
      | loginBase other =>
          by_cases same : other = day
          · subst same
            simp [Bags.received, Change.renews, Change.apply, logIn_iff]
          · simp [Bags.received, Change.renews, Change.apply, same]
      | loginAdv other =>
          by_cases same : other = day
          · subst same
            simp [Bags.received, Change.renews, Change.apply, logIn_iff]
          · simp [Bags.received, Change.renews, Change.apply, same]
      | _ => rfl
  | unLockLoginActAdv day =>
      unfold Change.apply
      dsimp only
      split
      next locked =>
        cases reward with
        | loginAdv other =>
            by_cases same : other = day
            · subst same
              simp only [Bags.received, Change.renews, Function.update_self, locked]
              split_ifs <;> simp_all
            · simp [Bags.received, Change.renews, same]
        | _ => rfl
      · rfl
  | flushBuyGiftBagNum => cases reward <;> rfl
  | setLastUseTick now => cases reward <;> rfl

theorem Ready.marked {acts : List Act} (ready : Ready acts) {reward : Reward}
    (credited : reward ∈ acts.flatMap Act.credits) :
    reward ∈ (acts.flatMap Act.opens).map Prod.fst := by
  induction acts with
  | nil => exact absurd credited List.not_mem_nil
  | cons act acts ih =>
      rw [List.flatMap_cons, List.map_append]
      refine List.mem_append_right _ ?_
      cases act with
      | credit other pieces =>
          rcases List.mem_cons.mp credited with rfl | later
          · obtain ⟨count, count_mem⟩ := ready.1
            exact List.mem_map.mpr ⟨_, count_mem, rfl⟩
          · exact ih ready.2 later
      | add _ => exact ih ready credited
      | mark _ _ => exact ih ready credited
      | addActivation _ => exact ih ready credited
      | setChapter _ => exact ih ready credited

theorem acts_sublist (task : Task) : (task.acts.flatMap Act.opens).Sublist task.opens := by
  cases task with
  | crediting acts => exact List.Sublist.refl _
  | _ => exact List.nil_sublist _

theorem actsLeft_sublist (tasks : List Task) :
    (((actsLeft tasks).flatMap Act.opens).map Prod.fst).Sublist (openRewards tasks) := by
  refine List.Sublist.map _ ?_
  induction tasks with
  | nil => exact List.Sublist.refl _
  | cons task tasks ih =>
      simp only [actsLeft, List.flatMap_cons, List.flatMap_append] at ih ⊢
      exact (acts_sublist task).append ih

namespace Sound

variable {tables : Tables} {state : State} {tasks others : List Task} {task : Task}

theorem count_eq_zero (sound : Sound tables state tasks) {reward : Reward}
    (closed : reward ∉ openRewards tasks) :
    ((actsLeft tasks).flatMap Act.credits).count reward = 0 ∧
      (((actsLeft tasks).flatMap Act.opens).map Prod.fst).count reward = 0 := by
  have unmarked : reward ∉ ((actsLeft tasks).flatMap Act.opens).map Prod.fst :=
    fun left => closed ((actsLeft_sublist tasks).mem left)
  refine ⟨List.count_eq_zero.mpr fun credited => unmarked ?_, List.count_eq_zero.mpr unmarked⟩
  obtain ⟨act, act_mem, act_credits⟩ := List.mem_flatMap.mp credited
  obtain ⟨task, task_mem, task_act⟩ := List.mem_flatMap.mp act_mem
  have marked :=
    (sound.ready task task_mem).marked (List.mem_flatMap.mpr ⟨act, task_act, act_credits⟩)
  obtain ⟨mark, mark_mem, rfl⟩ := List.mem_map.mp marked
  obtain ⟨marking, marking_mem, marking_opens⟩ := List.mem_flatMap.mp mark_mem
  refine List.mem_map.mpr ⟨mark, List.mem_flatMap.mpr ⟨marking, ?_, marking_opens⟩, rfl⟩
  exact List.mem_flatMap.mpr ⟨task, task_mem, marking_mem⟩

theorem received_eq (sound : Sound tables state tasks) {reward : Reward}
    (closed : reward ∉ openRewards tasks) :
    state.bags.received reward = state.credited reward := by
  have balanced := sound.balanced reward
  rw [(sound.count_eq_zero closed).1, (sound.count_eq_zero closed).2] at balanced
  exact balanced.symm

theorem credited_le (sound : Sound tables state tasks) (reward : Reward) :
    state.credited reward ≤ tables.limit reward := by
  by_cases opened : reward ∈ openRewards tasks
  · obtain ⟨mark, mark_mem, rfl⟩ := List.mem_map.mp opened
    have next := sound.next mark mark_mem
    have once := List.nodup_iff_count_le_one.mp
      (sound.apart.sublist (actsLeft_sublist tasks)) mark.1
    have balanced := sound.balanced mark.1
    omega
  · rw [← sound.received_eq opened]
    exact sound.received_le reward

theorem paidOnce {config : Config State Task}
    (sound : Sound tables config.state config.waiting) : PaidOnce tables config where
  limit := sound.credited_le
  marked _ closed := sound.received_eq closed
  whole idle := by
    have pieces := sound.pieces
    simpa [show config.waiting = [] from idle, actsLeft] using pieces

section

variable (sound : Sound tables state others)
include sound

theorem change (change : Change)
    (kept : ∀ reward ∈ openRewards others, change.renews tables reward = false) :
    Sound tables (state.change tables change) others where
  received_le reward := by
    change (change.apply tables state.bags).received reward ≤ _
    rw [received_apply]
    split
    · exact Nat.zero_le _
    · exact sound.received_le reward
  next mark mark_mem := by
    change (change.apply tables state.bags).received mark.1 + 1 = mark.2 ∧ _
    rw [received_apply, kept mark.1 (List.mem_map_of_mem mark_mem)]
    exact sound.next mark mark_mem
  apart := sound.apart
  balanced reward := by
    change (if change.renews tables reward then 0 else state.credited reward) + _ =
      (change.apply tables state.bags).received reward + _
    rw [received_apply]
    by_cases renewed : change.renews tables reward
    · have closed : reward ∉ openRewards others := fun opened => by
        simp [kept reward opened] at renewed
      simp [renewed, sound.count_eq_zero closed]
    · simpa [renewed] using sound.balanced reward
  pieces := sound.pieces
  ready := sound.ready

theorem tick (lastUseTick : Option ℤ) : Sound tables { state with lastUseTick } others :=
  ⟨sound.received_le, sound.next, sound.apart, sound.balanced, sound.pieces, sound.ready⟩

theorem checkCount {code : String} {cfgId : ℕ}
    (free : ∀ reward ∈ openRewards (Rewards.checkCount tables state code cfgId),
      reward ∉ openRewards others) :
    Sound tables state (others ++ Rewards.checkCount tables state code cfgId) := by
  have opened {task : Task} (acts_nil : task.acts = [])
      (opens_eq : task.opens = [(.giftCode cfgId, state.bags.rewardDict cfgId + 1)])
      (below : state.bags.rewardDict cfgId < (tables.giftCode cfgId).limit)
      (free : Reward.giftCode cfgId ∉ openRewards others) :
      Sound tables state (others ++ [task]) := by
    refine (sound.enter (acts_nil ▸ fair_nil) ?_ ?_ ?_).perm (List.perm_append_singleton _ _).symm
    · simp only [opens_eq, List.mem_singleton, forall_eq]
      exact ⟨rfl, below⟩
    · simp [opens_eq]
    · simpa [opens_eq] using free
  unfold Rewards.checkCount at free ⊢
  split_ifs at free ⊢ with reached
  · simpa using sound
  · rw [not_le] at reached
    split at free
    · exact opened rfl rfl reached (free _ (by simp [openRewards, Task.opens]))
    · exact opened rfl rfl reached (free _ (by simp [openRewards, Task.opens]))
    · simpa using sound

theorem useGiftCode {now : ℤ} {code : String}
    (free : ∀ reward ∈ openRewards (Rewards.useGiftCode tables now state code).2,
      reward ∉ openRewards others) :
    Sound tables (Rewards.useGiftCode tables now state code).1
      (others ++ (Rewards.useGiftCode tables now state code).2) := by
  unfold Rewards.useGiftCode at free ⊢
  have ticked := sound.tick (some now)
  split_ifs at free ⊢
  · simpa using sound
  · dsimp only at free ⊢
    split at free
    · simpa using ticked
    · split at free
      · simpa using ticked
      · split_ifs at free ⊢
        · simpa using ticked
        · refine (ticked.enter fair_nil ?_ ?_ ?_).perm (List.perm_append_singleton _ _).symm <;>
            simp [Task.opens]
        · exact ticked.checkCount free

theorem receive {now : ℤ} {call : Call}
    (free : ∀ reward ∈
      ((Rewards.receive tables now state.bags call).flatMap Act.opens).map Prod.fst,
        reward ∉ openRewards others) :
    Sound tables (Rewards.proceed tables (Rewards.receive tables now state.bags call) state).1
      (others ++
        (Rewards.proceed tables (Rewards.receive tables now state.bags call) state).2) := by
  have fair := fair_receive sound.received_le now call
  have entered : Sound tables state (.crediting _ :: others) :=
    sound.enter fair fair.next fair.apart free
  exact entered.proceed

end

theorem giftActs {cfgId count : ℕ} (sound : Sound tables state (task :: others))
    (acts_nil : task.acts = []) (opens_eq : task.opens = [(.giftCode cfgId, count + 1)]) :
    Sound tables (Rewards.proceed tables (Rewards.giftActs tables cfgId count) state).1
      (others ++
        (Rewards.proceed tables (Rewards.giftActs tables cfgId count) state).2) := by
  obtain ⟨next, le⟩ := sound.next (.giftCode cfgId, count + 1) (by simp [opens_eq])
  have count_eq : state.bags.rewardDict cfgId = count := Nat.succ_injective next
  have fair := fair_giftActs count_eq le
  have apart := sound.apart
  rw [openRewards, List.flatMap_cons, opens_eq, List.map_append, List.map_singleton,
    List.singleton_append, List.nodup_cons] at apart
  have entered :
      Sound tables state (.crediting (Rewards.giftActs tables cfgId count) :: others) := by
    refine (sound.leave acts_nil).enter fair fair.next fair.apart fun reward reward_mem => ?_
    simp only [Task.opens, Rewards.giftActs, List.flatMap_cons, Act.opens, opens_adds,
      List.nil_append, List.append_nil, List.map_singleton, List.mem_singleton] at reward_mem
    exact reward_mem ▸ apart.1
  exact entered.proceed

end Sound

/-- The invariant as a condition on all suspended handlers together. -/
def soundStanding (tables : Tables) : Standing State Task where
  holds := Sound tables
  perm same sound := sound.perm same

theorem soundStanding_kept (tables : Tables) :
    (soundStanding tables).KeptBy .any (rewards tables) (clear tables) where
  accept request state others _ sound allows := by
    change Sound tables state others at sound
    cases request with
    | receive now call => exact sound.receive allows.1
    | useGiftCode now code => exact sound.useGiftCode allows.1
    | change change =>
        have changed := sound.change change allows.2
        rwa [← List.append_nil others] at changed
  resume task reply state others _ _ _ sound allows := by
    change Sound tables state (task :: others) at sound
    have again : Sound tables state (others ++ [task]) :=
      sound.perm (List.perm_append_singleton _ _).symm
    cases task with
    | crediting acts =>
        cases reply with
        | noted calls_again =>
            cases calls_again with
            | true => exact again
            | false => exact sound.proceed
        | _ => exact again
    | finding code cfgId =>
        cases reply with
        | doc used =>
            have left := sound.leave rfl
            match used with
            | some false => exact left.checkCount allows
            | some true => simpa [rewards, soundStanding] using left
            | none => simpa [rewards, soundStanding] using left
        | _ => exact again
    | taking code cfgId count =>
        cases reply with
        | modified found =>
            cases found with
            | true => exact sound.giftActs rfl rfl
            | false =>
                have left := sound.leave rfl
                rwa [← List.append_nil others] at left
        | _ => exact again
    | inserting code cfgId count =>
        cases reply with
        | inserted => exact sound.giftActs rfl rfl
        | _ => exact again

def start (loginEnd : ℤ) : Config State Task :=
  ⟨.fresh loginEnd, []⟩

theorem sound_start (tables : Tables) (loginEnd : ℤ) :
    Sound tables (start loginEnd).state (start loginEnd).waiting where
  received_le reward := by
    have none_received : (Bags.fresh loginEnd).received reward = 0 := by cases reward <;> rfl
    change (Bags.fresh loginEnd).received reward ≤ _
    rw [none_received]
    exact Nat.zero_le _
  next := by simp [start]
  apart := .nil
  balanced reward := by cases reward <;> rfl
  pieces := rfl
  ready := by simp [start]

/-- As long as no reward is tested or renewed while another handler holds it open, each reward is
credited within its limit and marked exactly when it was credited, in every state that is reached.
-/
theorem rewards_once_run (tables : Tables) (loginEnd : ℤ) (events : List (Event Request Reply))
    (admits : (clear tables).Admits (rewards tables) (start loginEnd) events) :
    PaidOnce tables ((rewards tables).run (start loginEnd) events) :=
  ((soundStanding_kept tables).holds_run (Pool.any_kept _ _) admits (Pool.any_holds _)
    (sound_start tables loginEnd)).2.paidOnce

/-- The rewards of the first recharge, one task, one chapter and one kind of gift codes. -/
def sampleTables : Tables where
  subTask cfgId := if cfgId = 101001 then some ⟨false, [(103, 1000000)], [], 0⟩ else none
  chapterTask chapterId :=
    if chapterId = 1 then some ⟨[101001], [(103, 5)], [(8900001, 1)], some 2⟩ else none
  taskActivation _ := none
  activationReward _ _ := none
  giftActivities cfgId := if cfgId = firestRechargeId then some ⟨1, 0, 4000000000⟩ else none
  cumulativeFunds _ := none
  giftReward _ := some ⟨[(5000002, 2, 1)], [(102, 10000000), (103, 10000000)]⟩
  rechargeReward := 2
  firestRechargeReward := 1
  rechargeValue := 100
  firestRechargeValue := 99 / 100
  dailyCheck _ := 16
  loginActivity _ := ⟨[], []⟩
  dailyGiftBag _ := none
  giftCodeOf code := if code = "101a" ∨ code = "101b" then some 101 else none
  giftCode _ := ⟨.random, some 6910001, 1, some (0, 4000000000)⟩
  itemCalls cfgId := cfgId = 8900001
  funds_rewarded := by simp
  dailyCheck_rewarded := by simp

/-- While the first request for the reward of the first recharge waits for the share service, a
second one passes the same test. -/
def firestRechargeTwice : List (Event Request Reply) :=
  [.request (.change (.addRechargeVal 1)),
    .request (.receive 1680000000 (.getFirstOrRechargeReward firestRechargeId)),
    .request (.receive 1680000000 (.getFirstOrRechargeReward firestRechargeId)),
    .reply 0 (.noted true), .reply 0 (.noted false), .reply 0 (.noted false)]

/-- The hero and the resources are credited twice, the mark is written once. -/
theorem not_paidOnce_firestRechargeTwice :
    ¬ PaidOnce sampleTables ((rewards sampleTables).run (start 0) firestRechargeTwice) := by
  intro once
  exact absurd (once.limit .firestRecharge) (by decide +kernel)

/-- A task and its chapter are received while the first recharge waits, then a gift code; every
repeated request is refused. -/
theorem rewards_once_run_sample :
    PaidOnce sampleTables ((rewards sampleTables).run (start 0)
      [.request (.change (.addRechargeVal 1)),
        .request (.receive 1680000000 (.getFirstOrRechargeReward firestRechargeId)),
        .request (.change (.completeTask 101001)),
        .request (.receive 1680000001 (.receiveTaskRewards 101001)),
        .request (.receive 1680000002 .receiveChapterRewards),
        .reply 0 (.noted true), .reply 1 (.noted false),
        .request (.receive 1680000003 (.getFirstOrRechargeReward firestRechargeId)),
        .reply 0 (.noted false),
        .request (.useGiftCode 1680000004 "101a"), .reply 0 (.doc (some false)),
        .reply 0 (.modified true),
        .request (.useGiftCode 1680000008 "101b"), .reply 0 (.doc (some false))]) :=
  rewards_once_run sampleTables 0 _ (by decide +kernel)

end BasWar.Rewards
