import BasWar.Player.LevelUps
import BasWar.Player.UpgradesPaid
import Mathlib

/-!
# Level-ups are worth their price

A run of requests that are clear is a sequence of moves on single works: an idle work is charged
and gets its time, a running one is hurried, a due one is raised.  Each move keeps the account of
the steps that were paid for, and the bounds between which a timer must lie.
-/

namespace BasWar.LevelUps

open Tables
open Upgrades (Timestamp)

abbrev Step :=
  Target × ℕ

def Work.pending (side : Side) (work : Work) : Multiset Step :=
  if 0 < work.nextTick then {((side, work.id), work.level)} else 0

def Table.pending (side : Side) (table : Table) : Multiset Step :=
  (table.objects.map (Work.pending side)).sum

def Bag.pending (bag : Bag) : Multiset Step :=
  (bag .builds).pending .builds + (bag .soliderLevels).pending .soliderLevels

/-- The steps that the entries charge and apply, and those that are pending. -/
def account : Machine.Account Bag Entry (Multiset Step) where
  paid
    | .charged target level _ _ _ => {(target, level)}
    | _ => 0
  delivered
    | .raised target level _ => {(target, level)}
    | _ => 0
  pending := Bag.pending

/-- When a step that was under way before or was charged since is due without being hurried. -/
def Due (before : Bag) (journal : List Entry) (step : Step) (tick : ℤ) : Prop :=
  (∃ work ∈ (before step.1.1).objects, work.id = step.1.2 ∧ work.level = step.2 ∧
    0 < work.nextTick ∧ work.nextTick = tick) ∨
  ∃ now needTick instant, Entry.charged step.1 step.2 now needTick instant ∈ journal ∧
    now.val + (needTick * 1000 : ℕ) = tick

def TimePaid (journal : List Entry) (step : Step) : Prop :=
  (∃ now needTick, Entry.charged step.1 step.2 now needTick true ∈ journal) ∨
    Entry.hurried step.1 step.2 ∈ journal

structure Worth (before : Bag) (after : Bag × List Entry) : Prop where
  /-- Each step that was charged has been applied once or is pending. -/
  balances : account.Balances before after
  /-- No step is charged twice, or while it was under way before. -/
  once : (before.pending + account.paidIn after.2).Nodup
  /-- No timer is set back. -/
  kept : ∀ side, ∀ work ∈ (after.1 side).objects, 0 < work.nextTick →
    ∃ tick, Due before after.2 ((side, work.id), work.level) tick ∧ work.nextTick ≤ tick
  /-- No step is applied early without the price of its time. -/
  early : ∀ target level now, Entry.raised target level now ∈ after.2 →
    TimePaid after.2 (target, level) ∨
      ∃ tick, Due before after.2 (target, level) tick ∧ tick ≤ now.val
  /-- A check after all timers leaves nothing pending. -/
  due : ∀ now : Timestamp, (∀ side, ∀ work ∈ (after.1 side).objects, work.nextTick ≤ now.val) →
    (onSecond now after.1).1.pending = 0

/-- A request of a building from the chain meets no step that waits for its check, and does not
set a running timer back. -/
def ClearChain (now : Timestamp) (request : Request) (work : Work) : Prop :=
  ¬ (0 < work.nextTick ∧ work.nextTick < now.val) ∧ (work.isLevelUp now → 0 ≤ request.speedUp)
  deriving Decidable

/-- Any other request hurries a running timer by `speedUp = 1`, or meets a work with nothing under
way, and does not skip its time. -/
def ClearOwn (now : Timestamp) (request : Request) (work : Work) (needTick : ℕ) : Prop :=
  (request.speedUp = 1 ∧ 0 < work.getLessTick now) ∨
    (work.nextTick ≤ 0 ∧ (1 < request.speedUp → needTick = 0))
  deriving Decidable

/-- A request that is paid keeps to what the source leaves unchecked. -/
def Event.Clear (config : Config) (bag : Bag) : Event → Prop
  | .levelUpBuild now id request =>
      match buildAllowed config now id request bag with
      | none => True
      | some (build, needTick) => request.affords →
          if 0 < build.chain then ClearChain now request build
          else ClearOwn now request build needTick
  | .soliderLevelUp now cfgId request =>
      match soliderAllowed config now cfgId request bag with
      | none => True
      | some (work, needTick) => request.affords → ClearOwn now request work needTick
  | _ => True

instance (config : Config) (bag : Bag) (event : Event) : Decidable (event.Clear config bag) := by
  cases event <;> unfold Event.Clear <;> dsimp only
  case levelUpBuild => split <;> infer_instance
  case soliderLevelUp => split <;> infer_instance
  all_goals infer_instance

/-! ## Moves of single works -/

inductive Move (bag : Bag) : Bag × List Entry → Prop
  /-- A step is charged while nothing is under way. -/
  | charge (side : Side) (work : Work) (mem : work ∈ (bag side).objects) (idle : work.nextTick ≤ 0)
      (now : Timestamp) (needTick tick : ℕ) (instant : Bool) (tick_le : tick ≤ needTick * 1000)
      (whole : instant = true ∨ tick = needTick * 1000) :
      Move bag (bag.put side (work.setNextTick now tick),
        [.charged (side, work.id) work.level now needTick instant])
  /-- A running timer is ended. -/
  | hurry (side : Side) (work : Work) (mem : work ∈ (bag side).objects) (now : Timestamp)
      (running : now.val ≤ work.nextTick) :
      Move bag (bag.put side (work.setNextTick now 0), [.hurried (side, work.id) work.level])
  /-- A step whose timer has run out is applied. -/
  | raise (side : Side) (work : Work) (mem : work ∈ (bag side).objects) (now : Timestamp)
      (under_way : 0 < work.nextTick) (due : work.nextTick ≤ now.val) :
      Move bag (bag.put side work.raise,
        [.raised (side, work.id) work.level now])

/-- Moves one after another. -/
inductive Moves : Bag → Bag × List Entry → Prop
  | refl (bag : Bag) : Moves bag (bag, [])
  | step {first second third : Bag} {left right : List Entry} : Move first (second, left) →
      Moves second (third, right) → Moves first (third, left ++ right)

theorem Move.moves {bag : Bag} {result : Bag × List Entry} (move : Move bag result) :
    Moves bag result := by
  obtain ⟨next, entries⟩ := result
  simpa using Moves.step move (.refl next)

theorem Moves.trans {first second third : Bag} {left right : List Entry}
    (earlier : Moves first (second, left)) (later : Moves second (third, right)) :
    Moves first (third, left ++ right) := by
  generalize result_eq : (second, left) = result at earlier
  induction earlier generalizing left with
  | refl bag =>
      cases result_eq
      exact later
  | step move _ ih =>
      cases result_eq
      rw [List.append_assoc]
      exact .step move (ih rfl)

/-- What the journal since `before` says about a bag. -/
structure Sound (before : Bag) (journal : List Entry) (bag : Bag) : Prop where
  balances : account.Balances before (bag, journal)
  below : ∀ target level now, Entry.raised target level now ∈ journal →
    ∀ work ∈ (bag target.1).objects, work.id = target.2 → level < work.level
  once : (account.deliveredBy journal).Nodup
  kept : ∀ side, ∀ work ∈ (bag side).objects, 0 < work.nextTick →
    ∃ tick, Due before journal ((side, work.id), work.level) tick ∧ work.nextTick ≤ tick
  lower : ∀ side, ∀ work ∈ (bag side).objects, 0 < work.nextTick →
    TimePaid journal ((side, work.id), work.level) ∨
      ∃ tick, Due before journal ((side, work.id), work.level) tick ∧ tick ≤ work.nextTick
  early : ∀ target level now, Entry.raised target level now ∈ journal →
    TimePaid journal (target, level) ∨
      ∃ tick, Due before journal (target, level) tick ∧ tick ≤ now.val

variable {step : Step}

theorem Due.append {before : Bag} {journal : List Entry} {tick : ℤ}
    (due : Due before journal step tick) (entries : List Entry) :
    Due before (journal ++ entries) step tick := by
  rcases due with old | ⟨now, needTick, instant, mem, tick_eq⟩
  · exact .inl old
  · exact .inr ⟨now, needTick, instant, List.mem_append_left entries mem, tick_eq⟩

theorem TimePaid.append {journal : List Entry} (paid : TimePaid journal step)
    (entries : List Entry) : TimePaid (journal ++ entries) step := by
  rcases paid with ⟨now, needTick, mem⟩ | mem
  · exact .inl ⟨now, needTick, List.mem_append_left entries mem⟩
  · exact .inr (List.mem_append_left entries mem)

theorem mem_bag_put {bag : Bag} {side other : Side} {work found : Work}
    (mem : found ∈ (bag.put side work other).objects) :
    other = side ∧ found = work ∨
      found ∈ (bag other).objects ∧ ((other, found.id) : Target) ≠ (side, work.id) := by
  by_cases same : other = side
  · subst same
    rw [Bag.put, Function.update_self] at mem
    rcases Keyed.mem_put mem with rfl | ⟨old, different⟩
    · exact .inl ⟨rfl, rfl⟩
    · exact .inr ⟨old, fun target_eq => different (congrArg Prod.snd target_eq)⟩
  · rw [Bag.put, Function.update_of_ne same] at mem
    exact .inr ⟨mem, fun target_eq => same (congrArg Prod.fst target_eq)⟩

theorem pending_bag_put {bag : Bag} {side : Side} {old work : Work}
    (mem : old ∈ (bag side).objects) (same : old.id = work.id) :
    (bag.put side work).pending + old.pending side = bag.pending + work.pending side := by
  have changed := Keyed.sum_put (Work.pending side) mem same
  cases side
  · simp only [Bag.pending, Table.pending, Bag.put, Function.update_self,
      Function.update_of_ne (show Side.soliderLevels ≠ .builds by decide)]
    rw [add_right_comm, changed, add_right_comm]
  · simp only [Bag.pending, Table.pending, Bag.put, Function.update_self,
      Function.update_of_ne (show Side.builds ≠ .soliderLevels by decide)]
    rw [add_assoc, changed, ← add_assoc]

theorem pending_setNextTick (side : Side) (work : Work) (now : Timestamp) (tick : ℕ) :
    (work.setNextTick now tick).pending side = {((side, work.id), work.level)} := by
  have := now.property
  exact if_pos (show 0 < now.val + tick by omega)

section

variable {before bag : Bag} {journal : List Entry}

theorem mem_deliveredBy {target : Target} {level : ℕ} :
    (target, level) ∈ account.deliveredBy journal ↔
      ∃ now, Entry.raised target level now ∈ journal := by
  induction journal with
  | nil => simp [Machine.Account.deliveredBy]
  | cons entry journal ih =>
      have cons_eq : account.deliveredBy (entry :: journal) =
          account.delivered entry + account.deliveredBy journal := by
        simp [Machine.Account.deliveredBy]
      rw [cons_eq, Multiset.mem_add, ih]
      cases entry with
      | raised other otherLevel time =>
          simp only [account, Multiset.mem_singleton, Prod.mk.injEq, List.mem_cons,
            Entry.raised.injEq]
          constructor
          · rintro (⟨rfl, rfl⟩ | ⟨now, mem⟩)
            · exact ⟨time, .inl ⟨rfl, rfl, rfl⟩⟩
            · exact ⟨now, .inr mem⟩
          · rintro ⟨now, ⟨rfl, rfl, -⟩ | mem⟩
            · exact .inl ⟨rfl, rfl⟩
            · exact .inr ⟨now, mem⟩
      | charged _ _ _ _ _ => simp [account]
      | hurried _ _ => simp [account]

theorem deliveredBy_append (journal entries : List Entry) :
    account.deliveredBy (journal ++ entries) =
      account.deliveredBy journal + account.deliveredBy entries := by
  simp [Machine.Account.deliveredBy]

section

variable (sound : Sound before journal bag)
include sound

/-- The parts of the invariant that speak of the works which a move leaves alone. -/
theorem Sound.others {side : Side} {work : Work} {entries : List Entry}
    (silent : ∀ target level now, Entry.raised target level now ∉ entries)
    (balances : account.Balances bag (bag.put side work, entries))
    (level_eq : ∃ old ∈ (bag side).objects, old.id = work.id ∧ old.level = work.level)
    (kept : ∃ tick, Due before (journal ++ entries) ((side, work.id), work.level) tick ∧
      work.nextTick ≤ tick)
    (lower : TimePaid (journal ++ entries) ((side, work.id), work.level) ∨
      ∃ tick, Due before (journal ++ entries) ((side, work.id), work.level) tick ∧
        tick ≤ work.nextTick) : Sound before (journal ++ entries) (bag.put side work) where
  balances := sound.balances.trans balances
  below target level now raised other mem same := by
    rcases List.mem_append.mp raised with old | new
    · rcases mem_bag_put mem with ⟨side_eq, rfl⟩ | ⟨other_mem, -⟩
      · obtain ⟨before_put, old_mem, id_eq, is_level⟩ := level_eq
        rw [← is_level]
        exact sound.below target level now old before_put (side_eq ▸ old_mem) (id_eq.trans same)
      · exact sound.below target level now old other other_mem same
    · exact absurd new (silent target level now)
  once := by
    have none : account.deliveredBy entries = 0 := by
      refine Multiset.eq_zero_of_forall_notMem fun step mem => ?_
      obtain ⟨now, raised⟩ := mem_deliveredBy.mp mem
      exact silent step.1 step.2 now raised
    rw [deliveredBy_append, none, add_zero]
    exact sound.once
  kept other_side other mem under_way := by
    rcases mem_bag_put mem with ⟨rfl, rfl⟩ | ⟨other_mem, -⟩
    · exact kept
    · obtain ⟨tick, due, le⟩ := sound.kept other_side other other_mem under_way
      exact ⟨tick, due.append entries, le⟩
  lower other_side other mem under_way := by
    rcases mem_bag_put mem with ⟨rfl, rfl⟩ | ⟨other_mem, -⟩
    · exact lower
    · rcases sound.lower other_side other other_mem under_way with paid | ⟨tick, due, le⟩
      · exact .inl (paid.append entries)
      · exact .inr ⟨tick, due.append entries, le⟩
  early target level now raised := by
    rcases List.mem_append.mp raised with old | new
    · rcases sound.early target level now old with paid | ⟨tick, due, le⟩
      · exact .inl (paid.append entries)
      · exact .inr ⟨tick, due.append entries, le⟩
    · exact absurd new (silent target level now)

theorem Sound.charge {side : Side} {work : Work} (mem : work ∈ (bag side).objects)
    (idle : work.nextTick ≤ 0) (now : Timestamp) (needTick tick : ℕ) (instant : Bool)
    (tick_le : tick ≤ needTick * 1000) (whole : instant = true ∨ tick = needTick * 1000) :
    Sound before (journal ++ [.charged (side, work.id) work.level now needTick instant])
      (bag.put side (work.setNextTick now tick)) := by
  have due : Due before
      (journal ++ [.charged (side, work.id) work.level now needTick instant])
      ((side, work.id), work.level) (now.val + (needTick * 1000 : ℕ)) :=
    .inr ⟨now, needTick, instant, by simp, rfl⟩
  refine sound.others (by simp) ?_ ⟨work, mem, rfl, rfl⟩ ⟨_, due, ?_⟩ ?_
  · have changed := pending_bag_put mem (show work.id = (work.setNextTick now tick).id from rfl)
    have was_idle : work.pending side = 0 := if_neg (by omega)
    rw [was_idle, add_zero, pending_setNextTick] at changed
    simp [Machine.Account.Balances, Machine.Account.paidIn, Machine.Account.deliveredBy, account,
      changed]
  · show now.val + tick ≤ now.val + (needTick * 1000 : ℕ)
    omega
  · rcases whole with rfl | rfl
    · exact .inl (.inl ⟨now, needTick, by simp [Work.setNextTick]⟩)
    · exact .inr ⟨_, due, le_rfl⟩

theorem Sound.hurry {side : Side} {work : Work} (mem : work ∈ (bag side).objects) (now : Timestamp)
    (running : now.val ≤ work.nextTick) :
    Sound before (journal ++ [.hurried (side, work.id) work.level])
      (bag.put side (work.setNextTick now 0)) := by
  have under_way : 0 < work.nextTick := by
    have := now.property
    omega
  obtain ⟨tick, due, le⟩ := sound.kept side work mem under_way
  refine sound.others (by simp) ?_ ⟨work, mem, rfl, rfl⟩ ⟨tick, due.append _, ?_⟩
    (.inl (.inr (by simp [Work.setNextTick])))
  · have changed := pending_bag_put mem (show work.id = (work.setNextTick now 0).id from rfl)
    have was_pending : work.pending side = {((side, work.id), work.level)} := if_pos under_way
    rw [was_pending, pending_setNextTick, add_left_inj] at changed
    simp [Machine.Account.Balances, Machine.Account.paidIn, Machine.Account.deliveredBy, account,
      changed]
  · show now.val + (0 : ℕ) ≤ tick
    omega

theorem Sound.raise {side : Side} {work : Work} (mem : work ∈ (bag side).objects) (now : Timestamp)
    (under_way : 0 < work.nextTick) (due : work.nextTick ≤ now.val) :
    Sound before (journal ++ [.raised (side, work.id) work.level now])
      (bag.put side work.raise) where
  balances := by
    refine sound.balances.trans ?_
    have changed := pending_bag_put mem
      (show work.id = work.raise.id from rfl)
    have was_pending : work.pending side = {((side, work.id), work.level)} := if_pos under_way
    have is_idle : work.raise.pending side = 0 :=
      if_neg (lt_irrefl 0)
    rw [was_pending, is_idle, add_zero, add_comm] at changed
    simp [Machine.Account.Balances, Machine.Account.paidIn, Machine.Account.deliveredBy, account,
      ← changed]
  below target level time raised other other_mem same := by
    rcases List.mem_append.mp raised with old | new
    · rcases mem_bag_put other_mem with ⟨rfl, rfl⟩ | ⟨still_mem, -⟩
      · exact (sound.below target level time old work mem same).trans (Nat.lt_succ_self _)
      · exact sound.below target level time old other still_mem same
    · obtain ⟨rfl, rfl, rfl⟩ := Entry.raised.inj (List.mem_singleton.mp new)
      rcases mem_bag_put other_mem with ⟨-, rfl⟩ | ⟨-, different⟩
      · exact Nat.lt_succ_self _
      · exact absurd (congrArg (Prod.mk side) same) different
  once := by
    rw [deliveredBy_append, Multiset.nodup_add]
    refine ⟨sound.once, by simp [Machine.Account.deliveredBy, account], ?_⟩
    rw [Multiset.disjoint_left]
    intro step old new
    have step_eq : step = ((side, work.id), work.level) := by
      simpa [Machine.Account.deliveredBy, account] using new
    subst step_eq
    obtain ⟨time, raised⟩ := mem_deliveredBy.mp old
    exact absurd (sound.below _ _ time raised work mem rfl) (lt_irrefl _)
  kept other_side other other_mem pending := by
    rcases mem_bag_put other_mem with ⟨rfl, rfl⟩ | ⟨still_mem, -⟩
    · exact absurd pending (lt_irrefl 0)
    · obtain ⟨tick, other_due, le⟩ := sound.kept other_side other still_mem pending
      exact ⟨tick, other_due.append _, le⟩
  lower other_side other other_mem pending := by
    rcases mem_bag_put other_mem with ⟨rfl, rfl⟩ | ⟨still_mem, -⟩
    · exact absurd pending (lt_irrefl 0)
    · rcases sound.lower other_side other still_mem pending with paid | ⟨tick, other_due, le⟩
      · exact .inl (paid.append _)
      · exact .inr ⟨tick, other_due.append _, le⟩
  early target level time raised := by
    rcases List.mem_append.mp raised with old | new
    · rcases sound.early target level time old with paid | ⟨tick, other_due, le⟩
      · exact .inl (paid.append _)
      · exact .inr ⟨tick, other_due.append _, le⟩
    · obtain ⟨rfl, rfl, rfl⟩ := Entry.raised.inj (List.mem_singleton.mp new)
      rcases sound.lower side work mem under_way with paid | ⟨tick, work_due, le⟩
      · exact .inl (paid.append _)
      · exact .inr ⟨tick, work_due.append _, le.trans due⟩

theorem Sound.move {result : Bag × List Entry} (move : Move bag result) :
    Sound before (journal ++ result.2) result.1 := by
  cases move with
  | charge side work mem idle now needTick tick instant tick_le whole =>
      exact sound.charge mem idle now needTick tick instant tick_le whole
  | hurry side work mem now running => exact sound.hurry mem now running
  | raise side work mem now under_way due => exact sound.raise mem now under_way due

end

theorem Sound.moves {result : Bag × List Entry} (moves : Moves bag result)
    (sound : Sound before journal bag) : Sound before (journal ++ result.2) result.1 := by
  induction moves generalizing journal with
  | refl bag => simpa using sound
  | step move _ ih =>
      rw [← List.append_assoc]
      exact ih (sound.move move)

theorem Sound.start (before : Bag) : Sound before [] before where
  balances := .of_silent rfl
  below _ _ _ raised := absurd raised List.not_mem_nil
  once := Multiset.nodup_zero
  kept _ work mem under_way := ⟨work.nextTick, .inl ⟨work, mem, rfl, rfl, under_way, rfl⟩, le_rfl⟩
  lower _ work mem under_way :=
    .inr ⟨work.nextTick, .inl ⟨work, mem, rfl, rfl, under_way, rfl⟩, le_rfl⟩
  early _ _ _ raised := absurd raised List.not_mem_nil

end

/-! ## Events are moves -/

section

variable {now : Timestamp} {bag : Bag} {side : Side} {work : Work}

theorem setNextTick_of_mem (mem : work ∈ (bag side).objects) (needTick : ℕ) :
    setNextTick now needTick bag (side, work.id) =
      bag.put side (work.setNextTick now needTick) := by
  simp only [setNextTick, Keyed.get_of_mem mem]

theorem checkLevelUp_moves (target : Target) : Moves bag (checkLevelUp now bag target) := by
  obtain ⟨side, id⟩ := target
  unfold checkLevelUp
  split
  · exact .refl bag
  next work found =>
    obtain ⟨mem, rfl⟩ := Keyed.get_mem found
    split
    · exact .refl bag
    next due =>
      rw [not_or, not_le, not_lt] at due
      exact (Move.raise side work mem now due.1 due.2).moves

theorem checkLevelUps_moves (targets : List Target) :
    Moves bag (checkLevelUps now targets bag) := by
  induction targets generalizing bag with
  | nil => exact .refl bag
  | cons target targets ih => exact (checkLevelUp_moves target).trans ih

theorem running_of_getLessTick (less : 0 < work.getLessTick now) : now.val < work.nextTick := by
  unfold Work.getLessTick at less
  split at less
  · exact absurd less (lt_irrefl 0)
  · dsimp only at less
    split at less
    · exact absurd less (lt_irrefl 0)
    · omega

variable {least : Work} {request : Request} {needTick : ℕ} {config : Config}

theorem earlier_cases {best : Option Work} (found : earlier now best work = some least) :
    best = some least ∨ work = least ∧ 0 < least.getLessTick now := by
  unfold earlier at found
  split at found
  next running =>
    split at found
    · exact .inr ⟨Option.some.inj found, Option.some.inj found ▸ running⟩
    · split at found
      · exact .inr ⟨Option.some.inj found, Option.some.inj found ▸ running⟩
      · exact .inl found
  · exact .inl found

theorem mem_of_earliest {works : List Work} (found : earliest now works = some least) :
    least ∈ works ∧ 0 < least.getLessTick now := by
  have chosen (works : List Work) (best : Option Work)
      (folded : works.foldl (earlier now) best = some least) :
      best = some least ∨ least ∈ works ∧ 0 < least.getLessTick now := by
    induction works generalizing best with
    | nil => exact .inl folded
    | cons work works ih =>
        rcases ih _ folded with this_round | ⟨mem, running⟩
        · rcases earlier_cases this_round with before | ⟨rfl, running⟩
          · exact .inl before
          · exact .inr ⟨by simp, running⟩
        · exact .inr ⟨by simp [mem], running⟩
  rcases chosen works none found with none_found | result
  · cases none_found
  · exact result

theorem bag_put_put {first second : Work} (same : first.id = second.id) :
    (bag.put side first).put side second = bag.put side second := by
  simp only [Bag.put, Function.update_self, Function.update_idem, Keyed.put_put same]

theorem bag_put_comm {first second : Work} (different : first.id ≠ second.id) :
    (bag.put side first).put side second = (bag.put side second).put side first := by
  simp only [Bag.put, Function.update_self, Function.update_idem, Keyed.put_comm different]

theorem mem_put_self {old : Work} (mem : old ∈ (bag side).objects) (same : old.id = work.id) :
    work ∈ (bag.put side work side).objects := by
  rw [Bag.put, Function.update_self]
  exact Keyed.put_mem mem same

theorem mem_put_other {other : Work} (mem : other ∈ (bag side).objects)
    (different : other.id ≠ work.id) : other ∈ (bag.put side work side).objects := by
  rw [Bag.put, Function.update_self]
  exact Keyed.mem_put_of_ne mem different

theorem finishEarliest_eq (mem : least ∈ (bag side).objects) :
    finishEarliest now side bag (some least) =
      (bag.put side least.raise,
        [.hurried (side, least.id) least.level, .raised (side, least.id) least.level now]) := by
  have set_mem : least.setNextTick now 0 ∈
      (bag.put side (least.setNextTick now 0) side).objects := mem_put_self mem rfl
  have get_eq := Keyed.get_of_mem set_mem
  have due : ¬ ((least.setNextTick now 0).nextTick ≤ 0 ∨
      now.val < (least.setNextTick now 0).nextTick) := by
    have := now.property
    show ¬ (now.val + (0 : ℕ) ≤ 0 ∨ now.val < now.val + (0 : ℕ))
    omega
  have checked : checkLevelUp now (bag.put side (least.setNextTick now 0)) (side, least.id) =
      ((bag.put side (least.setNextTick now 0)).put side
        least.raise,
        [.raised (side, least.id) least.level now]) := by
    unfold checkLevelUp
    rw [show (bag.put side (least.setNextTick now 0) side).get least.id =
      some (least.setNextTick now 0) from get_eq]
    exact if_neg due
  simp only [finishEarliest, setNextTick_of_mem mem, checked]
  rw [bag_put_put (show (least.setNextTick now 0).id = least.raise.id from rfl)]

/-- A work that is charged while another one is finished for it. -/
theorem charge_finish_moves (mem : work ∈ (bag side).objects) (idle : work.nextTick ≤ 0)
    (whole : orderedTick needTick request = needTick * 1000) {minObj : Option Work}
    (running : ∀ least, minObj = some least →
      least ∈ (bag side).objects ∧ now.val < least.nextTick) :
    Moves bag
      (setNextTick now (orderedTick needTick request) (finishEarliest now side bag minObj).1
        (side, work.id),
        .charged (side, work.id) work.level now needTick false ::
          (finishEarliest now side bag minObj).2) := by
  have charge := Move.charge side work mem idle now needTick (orderedTick needTick request) false
    whole.le (.inr whole)
  cases minObj with
  | none =>
      simp only [finishEarliest, setNextTick_of_mem mem]
      exact charge.moves
  | some least =>
      obtain ⟨least_mem, least_running⟩ := running least rfl
      have different : work.id ≠ least.id := fun same => by
        have := Keyed.eq_of_key_eq mem least_mem same
        subst this
        have := now.property
        omega
      have charged_mem : least ∈
          (bag.put side (work.setNextTick now (orderedTick needTick request)) side).objects :=
        mem_put_other least_mem different.symm
      have hurry := Move.hurry side least charged_mem now least_running.le
      have raise := Move.raise side (least.setNextTick now 0) (mem_put_self charged_mem rfl) now
        (show 0 < now.val + (0 : ℕ) by have := now.property; omega)
        (show now.val + (0 : ℕ) ≤ now.val by omega)
      have after_eq : setNextTick now (orderedTick needTick request) (bag.put side least.raise)
            (side, work.id) =
          ((bag.put side (work.setNextTick now (orderedTick needTick request))).put side
            (least.setNextTick now 0)).put side (least.setNextTick now 0).raise := by
        rw [setNextTick_of_mem (mem_put_other mem (show work.id ≠ least.raise.id from different)),
          bag_put_put (show (least.setNextTick now 0).id = (least.setNextTick now 0).raise.id
            from rfl)]
        exact bag_put_comm (show least.raise.id ≠ (work.setNextTick now _).id from different.symm)
      rw [finishEarliest_eq least_mem]
      dsimp only
      rw [after_eq]
      exact .step charge (.step hurry raise.moves)

theorem payChain_moves (mem : work ∈ (bag side).objects) (needTick : ℕ)
    (hurrying : work.isLevelUp now → request.speedUp ≠ 0)
    (clear : request.affords → ClearChain now request work) :
    Moves bag (payChain now request needTick bag side work) := by
  unfold payChain
  split
  · exact .refl bag
  next affords =>
    obtain ⟨not_lapsed, not_back⟩ := clear (by simpa using affords)
    rw [setNextTick_of_mem mem]
    split
    next under_way =>
      have no_time : orderedTick needTick request = 0 := by
        have := hurrying under_way
        have := not_back under_way
        exact if_neg (by omega)
      rw [no_time]
      exact (Move.hurry side work mem now (of_decide_eq_true under_way)).moves
    next not_under_way =>
      have idle : work.nextTick ≤ 0 := by
        have passed : ¬ now.val ≤ work.nextTick := by
          simpa [Work.isLevelUp] using not_under_way
        by_contra under_way
        exact not_lapsed ⟨by omega, by omega⟩
      refine (Move.charge side work mem idle now needTick (orderedTick needTick request)
        (request.speedUp != 0) ?_ ?_).moves
      · unfold orderedTick
        split <;> omega
      · unfold orderedTick
        by_cases no_speed : request.speedUp = 0
        · exact .inr (if_pos no_speed.le)
        · exact .inl (by simpa using no_speed)

theorem payOwn_moves (mem : work ∈ (bag side).objects) {minObj : Option Work}
    (running : ∀ least, minObj = some least → least ∈ (bag side).objects ∧ now.val < least.nextTick)
    (clear : request.affords → ClearOwn now request work needTick) :
    Moves bag (payOwn now request needTick bag side work minObj) := by
  unfold payOwn
  split
  · exact .refl bag
  next affords =>
    have how := clear (by simpa using affords)
    split
    next instant =>
      have no_time : orderedTick needTick request = 0 := if_neg (by omega)
      rw [setNextTick_of_mem mem, no_time]
      split
      next less =>
        exact (Move.hurry side work mem now (running_of_getLessTick less).le).moves
      next no_less =>
        rcases how with ⟨-, less⟩ | ⟨idle, -⟩
        · exact absurd less no_less
        · exact (Move.charge side work mem idle now needTick 0 true (Nat.zero_le _)
            (.inl rfl)).moves
    next not_instant =>
      rcases how with ⟨instant, -⟩ | ⟨idle, no_skip⟩
      · exact absurd instant not_instant
      · refine charge_finish_moves mem idle ?_ running
        unfold orderedTick
        split
        · rfl
        next hurrying => rw [no_skip (by omega), Nat.zero_mul]

theorem buildAllowed_some {id : ℕ}
    (allowed : buildAllowed config now id request bag = some (work, needTick)) :
    work ∈ (bag .builds).objects ∧ (work.isLevelUp now → request.speedUp ≠ 0) := by
  unfold buildAllowed at allowed
  split at allowed
  · cases allowed
  next build found =>
    split at allowed
    · split at allowed
      · cases allowed
      next passed =>
        split at allowed
        · cases allowed
        · cases allowed
          refine ⟨(Keyed.get_mem found).1, fun under_way no_speed => passed ?_⟩
          simp [under_way, no_speed]
    · cases allowed

theorem soliderAllowed_some {cfgId : ℕ}
    (allowed : soliderAllowed config now cfgId request bag = some (work, needTick)) :
    work ∈ (bag .soliderLevels).objects := by
  unfold soliderAllowed at allowed
  split at allowed
  · cases allowed
  next found_work found =>
    split at allowed
    · cases allowed
    · split at allowed
      · cases allowed
      · split at allowed
        · split at allowed
          · cases allowed
            exact (Keyed.get_mem found).1
          · cases allowed
        · cases allowed

theorem running_of_queue {works : List Work} {full : Prop} [Decidable full]
    (subset : ∀ other ∈ works, other ∈ (bag side).objects) (least : Work)
    (found : (if full then earliest now works else none) = some least) :
    least ∈ (bag side).objects ∧ now.val < least.nextTick := by
  split at found
  · obtain ⟨mem, less⟩ := mem_of_earliest found
    exact ⟨subset least mem, running_of_getLessTick less⟩
  · cases found

theorem step_moves {event : Event} (clear : event.Clear config bag) :
    Moves bag ((machine config).step bag event) := by
  cases event with
  | levelUpBuild now id request =>
      show Moves bag (levelUpBuild config now id request bag)
      unfold levelUpBuild
      simp only [Event.Clear] at clear
      split
      · exact .refl bag
      next build needTick allowed =>
        rw [allowed] at clear
        obtain ⟨mem, hurrying⟩ := buildAllowed_some allowed
        split
        next chained =>
          exact payChain_moves mem needTick hurrying fun affords => by
            simpa only [if_pos chained] using clear affords
        next own =>
          refine payOwn_moves mem (fun least found => ?_) fun affords => by
            simpa only [if_neg own] using clear affords
          exact running_of_queue (fun other other_mem => List.mem_of_mem_filter other_mem) least
            found
  | soliderLevelUp now cfgId request =>
      show Moves bag (soliderLevelUp config now cfgId request bag)
      unfold soliderLevelUp
      simp only [Event.Clear] at clear
      split
      · exact .refl bag
      next work needTick allowed =>
        rw [allowed] at clear
        refine payOwn_moves (soliderAllowed_some allowed) (fun least found => ?_) clear
        exact running_of_queue (fun other other_mem => other_mem) least found
  | speedUpSoliderLevelUp now cfgId affords =>
      show Moves bag (speedUpSoliderLevelUp now cfgId affords bag)
      unfold speedUpSoliderLevelUp
      split
      · exact .refl bag
      next work found =>
        obtain ⟨mem, rfl⟩ := Keyed.get_mem found
        split
        · exact .refl bag
        next running =>
          have less : 0 < work.getLessTick now := by
            simp only [Bool.or_eq_true, decide_eq_true_eq, not_or, not_le] at running
            exact running.1
          rw [setNextTick_of_mem mem]
          exact (Move.hurry .soliderLevels work mem now (running_of_getLessTick less).le).moves
  | onSecond now => exact checkLevelUps_moves bag.targets

/-- Every work is one of `all`, its timer has run out, and it is idle if it is one of `done`. -/
def Checked (now : Timestamp) (all done : List Target) (bag : Bag) : Prop :=
  ∀ side, ∀ work ∈ (bag side).objects,
    (side, work.id) ∈ all ∧ work.nextTick ≤ now.val ∧ ((side, work.id) ∈ done → work.nextTick ≤ 0)

theorem checked_checkLevelUp {all done : List Target} (checked : Checked now all done bag)
    (target : Target) : Checked now all (target :: done) (checkLevelUp now bag target).1 := by
  obtain ⟨name, id⟩ := target
  unfold checkLevelUp
  split
  next absent =>
    intro side work mem
    obtain ⟨listed, passed, was_done⟩ := checked side work mem
    refine ⟨listed, passed, fun now_done => ?_⟩
    rcases List.mem_cons.mp now_done with same | old
    · cases same
      rw [Keyed.get_of_mem mem] at absent
      cases absent
    · exact was_done old
  next found_work found =>
    obtain ⟨found_mem, rfl⟩ := Keyed.get_mem found
    split
    next not_due =>
      intro side work mem
      obtain ⟨listed, passed, was_done⟩ := checked side work mem
      refine ⟨listed, passed, fun now_done => ?_⟩
      rcases List.mem_cons.mp now_done with same | old
      · have side_eq : side = name := congrArg Prod.fst same
        subst side_eq
        have work_eq := Keyed.eq_of_key_eq mem found_mem (congrArg Prod.snd same)
        subst work_eq
        omega
      · exact was_done old
    next due =>
      intro side work mem
      rcases mem_bag_put mem with ⟨rfl, rfl⟩ | ⟨old_mem, different⟩
      · exact ⟨(checked _ found_work found_mem).1, now.property.le, fun _ => le_rfl⟩
      · obtain ⟨listed, passed, was_done⟩ := checked side work old_mem
        refine ⟨listed, passed, fun now_done => ?_⟩
        rcases List.mem_cons.mp now_done with same | old
        · exact absurd same different
        · exact was_done old

theorem checked_checkLevelUps {all done : List Target} (targets : List Target)
    (checked : Checked now all done bag) :
    Checked now all (targets.reverse ++ done) (checkLevelUps now targets bag).1 := by
  induction targets generalizing bag done with
  | nil => exact checked
  | cons target targets ih =>
      rw [List.reverse_cons, List.append_assoc]
      exact ih (checked_checkLevelUp checked target)

theorem mem_targets (mem : work ∈ (bag side).objects) : (side, work.id) ∈ bag.targets := by
  cases side with
  | builds => exact List.mem_append_left _ (List.mem_map.mpr ⟨work, mem, rfl⟩)
  | soliderLevels => exact List.mem_append_right _ (List.mem_map.mpr ⟨work, mem, rfl⟩)

theorem pending_eq_zero (idle : ∀ side, ∀ work ∈ (bag side).objects, work.nextTick ≤ 0) :
    bag.pending = 0 := by
  have none (side : Side) : (bag side).pending side = 0 := by
    refine List.sum_eq_zero fun steps mem => ?_
    obtain ⟨work, work_mem, rfl⟩ := List.mem_map.mp mem
    exact if_neg (not_lt.mpr (idle side work work_mem))
  rw [Bag.pending, none, none, add_zero]

theorem onSecond_due (passed : ∀ side, ∀ work ∈ (bag side).objects, work.nextTick ≤ now.val) :
    (onSecond now bag).1.pending = 0 := by
  have start : Checked now bag.targets [] bag := fun side work mem =>
    ⟨mem_targets mem, passed side work mem, fun listed => absurd listed List.not_mem_nil⟩
  refine pending_eq_zero fun side work mem => ?_
  obtain ⟨listed, -, done⟩ := checked_checkLevelUps bag.targets start side work mem
  exact done (by simpa using listed)

end

theorem mem_work_pending {side : Side} {work : Work} (mem : step ∈ work.pending side) :
    step = ((side, work.id), work.level) := by
  unfold Work.pending at mem
  split at mem
  · exact Multiset.mem_singleton.mp mem
  · exact absurd mem (Multiset.notMem_zero step)

theorem mem_table_pending {side : Side} {objects : List Work}
    (mem : step ∈ (objects.map (Work.pending side)).sum) :
    ∃ work ∈ objects, step = ((side, work.id), work.level) := by
  induction objects with
  | nil => exact absurd mem (Multiset.notMem_zero step)
  | cons work objects ih =>
      rw [List.map_cons, List.sum_cons, Multiset.mem_add] at mem
      rcases mem with first | later
      · exact ⟨work, by simp, mem_work_pending first⟩
      · obtain ⟨other, other_mem, step_eq⟩ := ih later
        exact ⟨other, by simp [other_mem], step_eq⟩

theorem nodup_table_pending {side : Side} {objects : List Work}
    (nodup : (objects.map Work.id).Nodup) :
    (objects.map (Work.pending side)).sum.Nodup := by
  induction objects with
  | nil => exact Multiset.nodup_zero
  | cons work objects ih =>
      obtain ⟨absent, rest⟩ := List.nodup_cons.mp nodup
      rw [List.map_cons, List.sum_cons, Multiset.nodup_add]
      refine ⟨?_, ih rest, Multiset.disjoint_left.mpr ?_⟩
      · unfold Work.pending
        split
        · exact Multiset.nodup_singleton _
        · exact Multiset.nodup_zero
      · intro step first later
        obtain ⟨other, other_mem, rfl⟩ := mem_table_pending later
        have same : other.id = work.id :=
          congrArg (fun step : Step => step.1.2) (mem_work_pending first)
        exact absent (same ▸ List.mem_map_of_mem other_mem)

theorem mem_pending {bag : Bag} (mem : step ∈ bag.pending) :
    ∃ work ∈ (bag step.1.1).objects, step = ((step.1.1, work.id), work.level) := by
  rcases Multiset.mem_add.mp mem with build | solider
  · obtain ⟨work, work_mem, rfl⟩ := mem_table_pending build
    exact ⟨work, work_mem, rfl⟩
  · obtain ⟨work, work_mem, rfl⟩ := mem_table_pending solider
    exact ⟨work, work_mem, rfl⟩

theorem nodup_pending (bag : Bag) : bag.pending.Nodup := by
  refine Multiset.nodup_add.mpr ⟨nodup_table_pending (bag .builds).nodup,
    nodup_table_pending (bag .soliderLevels).nodup,
    Multiset.disjoint_left.mpr ?_⟩
  intro step build solider
  obtain ⟨_, -, rfl⟩ := mem_table_pending build
  obtain ⟨_, -, same⟩ := mem_table_pending solider
  cases congrArg (fun step : Step => step.1.1) same

theorem Sound.nodup {before bag : Bag} {journal : List Entry} (sound : Sound before journal bag) :
    (before.pending + account.paidIn journal).Nodup := by
  have balances : before.pending + account.paidIn journal =
      account.deliveredBy journal + bag.pending := sound.balances
  rw [balances]
  refine Multiset.nodup_add.mpr ⟨sound.once, nodup_pending bag,
    Multiset.disjoint_left.mpr ?_⟩
  intro step delivered pending
  obtain ⟨work, mem, step_eq⟩ := mem_pending pending
  obtain ⟨now, raised⟩ := mem_deliveredBy.mp delivered
  have below := sound.below _ _ now raised work mem
    (congrArg (fun step : Step => step.1.2) step_eq).symm
  have same : step.2 = work.level := congrArg Prod.snd step_eq
  omega

/-- Over every sequence of clear events level-ups are worth their price. -/
theorem levelUps_worth_run (config : Config) (before : Bag) {events : List Event}
    (clear : (machine config).Allowed (fun bag event => event.Clear config bag) before events) :
    Worth before ((machine config).run before events) := by
  have sound := Machine.journal_run (Sound before)
    (fun _ _ _ sound clear => sound.moves (step_moves clear)) (Sound.start before) clear
  rw [List.nil_append] at sound
  exact {
    balances := sound.balances
    once := sound.nodup
    kept := sound.kept
    early := sound.early
    due := fun _ => onSecond_due }

/-! ## A level-up paid twice -/

def sampleConfig : Config where
  buildNeedTick _ _ level := if level ≤ 5 then some 60 else none
  soliderNeedTick _ level := if level ≤ 5 then some 60 else none

def sampleBuild : Work where
  id := 1
  cfgId := 6020004
  quality := 0
  chain := 0
  level := 1
  nextTick := 0

def sampleSolider : Work where
  id := 3010001
  cfgId := 3010001
  quality := 0
  chain := 0
  level := 1
  nextTick := 0

def sampleBag : Bag
  | .builds => ⟨[sampleBuild], by decide⟩
  | .soliderLevels => ⟨[sampleSolider], by decide⟩

def sampleRequest (speedUp : ℤ) : Request where
  speedUp
  allowed := true
  affords := true
  queueLimit := 2

theorem sampleTime_pos (seconds : ℕ) : (0 : ℤ) < 1000 * seconds + 500 := by omega

def sampleTime (seconds : ℕ) : Timestamp :=
  ⟨1000 * seconds + 500, sampleTime_pos seconds⟩

/-- A level-up that is hurried and one that takes its time. -/
theorem levelUps_worth_run_sample :
    Worth sampleBag ((machine sampleConfig).run sampleBag
      [.levelUpBuild (sampleTime 1) 1 (sampleRequest 0),
        .soliderLevelUp (sampleTime 1) 3010001 (sampleRequest 0), .onSecond (sampleTime 2),
        .levelUpBuild (sampleTime 3) 1 (sampleRequest 1), .onSecond (sampleTime 4),
        .onSecond (sampleTime 70)]) :=
  levelUps_worth_run sampleConfig sampleBag (by decide +kernel)

/-- With `speedUp = 2` a running level-up is paid for in full once more. -/
theorem not_levelUps_worth_sample :
    ¬ ∀ (config : Config) (before : Bag) (events : List Event),
      Worth before ((machine config).run before events) := by
  intro worth
  have once := (worth sampleConfig sampleBag
    [.levelUpBuild (sampleTime 1) 1 (sampleRequest 0),
      .levelUpBuild (sampleTime 2) 1 (sampleRequest 2)]).once
  exact absurd once (by decide +kernel)

end BasWar.LevelUps
