import BasWar.Tables.Documents
import BasWar.Tables.Journal
import Mathlib

/-!
# VIP time

Every VIP level has a time at which it ends, and the highest level that has not ended counts.  A
purchase prolongs its own level and moves the lower active ones, so that their time is not used up
meanwhile.  It moves a level by the duration of the next one rather than of the one that was
bought, and time bought below a higher level runs out together with it.
-/

namespace BasWar.VipTime

open Tables

structure VipCfg where
  cfgId : ℕ
  minMit : ℤ
  /-- -1 is no bound. -/
  maxMit : ℤ
  productId : String
  /-- Days. -/
  duration : ℕ

/-- What `refreshVipLevel` compares a pledge with. -/
def VipCfg.covers (row : VipCfg) (pledgeMit : ℤ) : Prop :=
  row.minMit ≤ pledgeMit ∧ (pledgeMit ≤ row.maxMit ∨ row.maxMit = -1)
  deriving Decidable

/-- The table has a row for each level, and no pledge is needed for level 0 only. -/
structure VipCfgs where
  rows : Keyed VipCfg.cfgId
  levels : ∀ level, (rows.get level).isSome = true ↔ level ≤ 9
  unpledged : ∀ row ∈ rows.objects, row.covers 0 → row.cfgId = 0

namespace VipCfgs

variable (cfgs : VipCfgs)

def seconds (level : ℕ) : ℕ :=
  ((cfgs.rows.get level).map VipCfg.duration).getD 0 * 86400

/-- The level that a product stands for, or 0. -/
def levelOf (productId : String) : ℕ :=
  cfgs.rows.objects.foldl
    (fun vipLevel row => if row.productId = productId then row.cfgId else vipLevel) 0

end VipCfgs

structure VipBag where
  pledgeMit : ℤ
  /-- When each level ends. -/
  vip : Dict ℕ ℕ

namespace VipBag

variable (cfgs : VipCfgs) (nowTick : ℕ)

def prolonged (vip : Dict ℕ ℕ) (vipLevel : ℕ) : ℕ :=
  match vip.lookup vipLevel with
  | none => nowTick + cfgs.seconds vipLevel
  | some endTime =>
      if endTime ≤ nowTick then nowTick + cfgs.seconds vipLevel
      else endTime + cfgs.seconds vipLevel

def move (vip : Dict ℕ ℕ) (level : ℕ) : Dict ℕ ℕ :=
  match vip.lookup level with
  | none => vip
  | some endTime =>
      if nowTick < endTime then vip.assign level (endTime + cfgs.seconds (level + 1)) else vip

def setVip (productId : String) (bag : VipBag) : VipBag :=
  let vipLevel := cfgs.levelOf productId
  if vipLevel = 0 then bag
  else
    let vip := bag.vip.assign vipLevel (prolonged cfgs nowTick bag.vip vipLevel)
    { bag with vip := (List.range' 1 (vipLevel - 1)).reverse.foldl (move cfgs nowTick) vip }

def checkBuyVipLevel (productId : String) (bag : VipBag) : VipBag :=
  if productId ≠ "0" ∧ productId ∈ cfgs.rows.objects.map VipCfg.productId then
    bag.setVip cfgs nowTick productId
  else bag

def active (bag : VipBag) (level : ℕ) : Bool :=
  (bag.vip.lookup level).any fun endTime => nowTick < endTime

def refreshVipLevel (bag : VipBag) : ℕ :=
  let pledgeVipLevel := cfgs.rows.objects.foldl
    (fun level row => if row.covers bag.pledgeMit then row.cfgId else level) 0
  let vipLevel := ((List.range' 1 9).reverse.find? (bag.active nowTick)).getD 0
  if vipLevel < pledgeVipLevel then pledgeVipLevel else vipLevel

end VipBag

structure State where
  now : ℕ
  bag : VipBag

inductive Event
  | tick
  | buy (productId : String)

/-- What is written down of a run. -/
inductive Entry
  /-- The level that was reported for a second. -/
  | second (level : ℕ)
  | bought (level seconds : ℕ)

def State.new (now : ℕ) : State := ⟨now, ⟨0, Keyed.empty⟩⟩

def boughtLevel (cfgs : VipCfgs) (productId : String) : ℕ :=
  if productId ≠ "0" ∧ productId ∈ cfgs.rows.objects.map VipCfg.productId then
    cfgs.levelOf productId
  else 0

def State.step (cfgs : VipCfgs) (state : State) : Event → State × List Entry
  | .tick =>
      ({ state with now := state.now + 1 },
        [.second (state.bag.refreshVipLevel cfgs state.now)])
  | .buy productId =>
      let level := boughtLevel cfgs productId
      ({ state with bag := state.bag.checkBuyVipLevel cfgs state.now productId },
        if level = 0 then [] else [.bought level (cfgs.seconds level)])

def machine (cfgs : VipCfgs) : Machine State Event Entry where
  step := State.step cfgs

def Entry.secondsAt (level : ℕ) : Entry → ℕ
  | .second reported => if level ≤ reported then 1 else 0
  | .bought _ _ => 0

/-- The seconds that were bought for a level or a higher one. -/
def Entry.boughtAt (level : ℕ) : Entry → ℕ
  | .second _ => 0
  | .bought other seconds => if level ≤ other then seconds else 0

/-- In the end each level was reported for as long as it or a higher one was bought. -/
def Conserved (cfgs : VipCfgs) (now : ℕ) (events : List Event) : Prop :=
  ∀ level, 1 ≤ level → ∃ enough, ∀ more, enough ≤ more →
    (((machine cfgs).run (.new now) (events ++ List.replicate more .tick)).2.map
        (Entry.secondsAt level)).sum =
      (((machine cfgs).run (.new now) events).2.map (Entry.boughtAt level)).sum

namespace State

def remaining (state : State) (level : ℕ) : ℕ :=
  (state.bag.vip.lookup level).getD 0 - state.now

/-- The seconds until all levels from one on have ended. -/
def remainingFrom (state : State) (level : ℕ) : ℕ :=
  (Finset.Icc level 9).sup state.remaining

end State

/-- Nothing above a bought level outlasts it, and each lower active level that outlasts those above
it is moved by the duration that was bought; one that does not is not made to. -/
def Adds (cfgs : VipCfgs) (state : State) (bought : ℕ) : Prop :=
  (state.remaining bought < state.remainingFrom (bought + 1) → cfgs.seconds bought = 0) ∧
  ∀ level < bought, 1 ≤ level → 0 < state.remaining level →
    (state.remainingFrom (level + 1) < state.remaining level →
      cfgs.seconds (level + 1) = cfgs.seconds bought) ∧
    (state.remaining level ≤ state.remainingFrom (level + 1) →
      state.remaining level + cfgs.seconds (level + 1) ≤
        state.remainingFrom (level + 1) + cfgs.seconds bought)

instance (cfgs : VipCfgs) (state : State) (bought : ℕ) : Decidable (Adds cfgs state bought) :=
  inferInstanceAs (Decidable (_ ∧ _))

/-- Every purchase adds its duration. -/
def Allowed (cfgs : VipCfgs) (state : State) : Event → Prop
  | .tick => True
  | .buy productId =>
      boughtLevel cfgs productId ≠ 0 → Adds cfgs state (boughtLevel cfgs productId)

instance (cfgs : VipCfgs) (state : State) (event : Event) :
    Decidable (Allowed cfgs state event) := by
  unfold Allowed
  induction event using Event.casesOn <;> dsimp only <;> infer_instance

/-! ## What is reported -/

section Reported

variable {cfgs : VipCfgs} {state : State} {level : ℕ}

theorem remainingFrom_eq (state : State) (level_le : level ≤ 9) :
    state.remainingFrom level = max (state.remaining level) (state.remainingFrom (level + 1)) := by
  unfold State.remainingFrom
  have levels_eq : Finset.Icc level 9 = insert level (Finset.Icc (level + 1) 9) := by
    ext other
    rw [Finset.mem_insert, Finset.mem_Icc, Finset.mem_Icc]
    omega
  rw [levels_eq, Finset.sup_insert]

theorem active_iff : state.bag.active state.now level = true ↔ 0 < state.remaining level := by
  unfold VipBag.active State.remaining
  cases state.bag.vip.lookup level with
  | none => simp
  | some endTime => simp

/-- The search from the top finds the highest level that is left. -/
theorem le_find_iff (left : ℕ → Bool) (level_pos : 1 ≤ level) :
    level ≤ ((List.range' 1 9).reverse.find? left).getD 0 ↔
      ∃ other ∈ Finset.Icc level 9, left other = true := by
  have falling : (List.range' 1 9).reverse.Pairwise (· > ·) := by decide
  have mem_levels : ∀ other, other ∈ (List.range' 1 9).reverse ↔ 1 ≤ other ∧ other ≤ 9 := by
    intro other
    rw [List.mem_reverse, List.mem_range'_1]
    omega
  cases found : (List.range' 1 9).reverse.find? left with
  | none =>
      rw [List.find?_eq_none] at found
      refine iff_of_false (by simp; omega) ?_
      rintro ⟨other, other_mem, other_left⟩
      rw [Finset.mem_Icc] at other_mem
      exact found other ((mem_levels other).mpr (by omega)) other_left
  | some top =>
      have top_mem := (mem_levels top).mp (List.mem_of_find?_eq_some found)
      rw [Option.getD_some]
      constructor
      · exact fun le => ⟨top, Finset.mem_Icc.mpr ⟨le, top_mem.2⟩, List.find?_some found⟩
      · rintro ⟨other, other_mem, other_left⟩
        rw [Finset.mem_Icc] at other_mem
        refine other_mem.1.trans ?_
        obtain ⟨-, before, after, levels_eq, unfit⟩ := List.find?_eq_some_iff_append.mp found
        have other_level := (mem_levels other).mpr (by omega)
        rw [levels_eq] at other_level falling
        rw [List.pairwise_append, List.pairwise_cons] at falling
        obtain earlier | ⟨-⟩ | ⟨_, later⟩ := List.mem_append.mp other_level
        · simpa [other_left] using unfit other earlier
        · exact le_rfl
        · exact (falling.2.1.1 other later).le

theorem pledgeLevel_eq_zero (cfgs : VipCfgs) (rows : List VipCfg)
    (rows_sub : ∀ row ∈ rows, row ∈ cfgs.rows.objects) :
    rows.foldl (fun level row => if row.covers 0 then row.cfgId else level) 0 = 0 := by
  induction rows with
  | nil => rfl
  | cons row rows ih =>
      have later := ih fun other other_mem => rows_sub other (List.mem_cons_of_mem row other_mem)
      rw [List.foldl_cons]
      split
      next covers => rwa [cfgs.unpledged row (rows_sub row List.mem_cons_self) covers]
      next => exact later

theorem le_refreshVipLevel_iff (unpledged : state.bag.pledgeMit = 0) (level_pos : 1 ≤ level) :
    level ≤ state.bag.refreshVipLevel cfgs state.now ↔ 0 < state.remainingFrom level := by
  unfold VipBag.refreshVipLevel State.remainingFrom
  rw [unpledged, pledgeLevel_eq_zero cfgs cfgs.rows.objects fun _ row_mem => row_mem]
  dsimp only
  rw [if_neg (Nat.not_lt_zero _), le_find_iff _ level_pos, Finset.lt_sup_iff]
  exact exists_congr fun other => and_congr_right fun _ => active_iff

theorem remainingFrom_tick (state : State) (level : ℕ) :
    State.remainingFrom { state with now := state.now + 1 } level =
      state.remainingFrom level - 1 := by
  unfold State.remainingFrom
  have less := Finset.apply_sup_eq_sup_comp (s := Finset.Icc level 9) (f := state.remaining)
    (fun seconds : ℕ => seconds - 1) (fun first second => by omega) rfl
  rw [less]
  refine congrArg _ (funext fun other => ?_)
  exact (Nat.sub_sub _ _ _).symm

end Reported

/-! ## What a purchase adds -/

section Bought

variable {cfgs : VipCfgs} {state : State} {level bought : ℕ} {productId : String}

theorem levelOf_le (cfgs : VipCfgs) (productId : String) : cfgs.levelOf productId ≤ 9 := by
  have fold_le : ∀ rows : List VipCfg, (∀ row ∈ rows, row ∈ cfgs.rows.objects) → ∀ start ≤ 9,
      rows.foldl (fun vipLevel row =>
        if row.productId = productId then row.cfgId else vipLevel) start ≤ 9 := by
    intro rows
    induction rows with
    | nil => exact fun _ start start_le => start_le
    | cons row rows ih =>
        intro rows_sub start start_le
        refine ih (fun other other_mem => rows_sub other (List.mem_cons_of_mem row other_mem)) _ ?_
        dsimp only
        split
        · refine (cfgs.levels row.cfgId).mp ?_
          rw [Keyed.get_of_mem (rows_sub row List.mem_cons_self)]
          rfl
        · exact start_le
  exact fold_le cfgs.rows.objects (fun _ row_mem => row_mem) 0 (Nat.zero_le 9)

theorem boughtLevel_le (cfgs : VipCfgs) (productId : String) : boughtLevel cfgs productId ≤ 9 := by
  unfold boughtLevel
  split
  · exact levelOf_le cfgs productId
  · exact Nat.zero_le 9

theorem lookup_move (vip : Dict ℕ ℕ) (now name : ℕ) :
    (VipBag.move cfgs now vip level).lookup name =
      if name = level then
        (vip.lookup name).map fun endTime =>
          if now < endTime then endTime + cfgs.seconds (level + 1) else endTime
      else vip.lookup name := by
  unfold VipBag.move
  split
  next absent =>
    split
    next same => rw [same, absent, Option.map_none]
    next => rfl
  next endTime found =>
    by_cases same : name = level
    · subst same
      rw [if_pos rfl, found, Option.map_some]
      split
      · rw [Dict.lookup_assign, if_pos rfl]
      · exact found
    · rw [if_neg same]
      split
      · rw [Dict.lookup_assign, if_neg same]
      · rfl

theorem lookup_foldl_move (now : ℕ) (levels : List ℕ) (nodup : levels.Nodup) (vip : Dict ℕ ℕ)
    (name : ℕ) :
    (levels.foldl (VipBag.move cfgs now) vip).lookup name =
      if name ∈ levels then
        (vip.lookup name).map fun endTime =>
          if now < endTime then endTime + cfgs.seconds (name + 1) else endTime
      else vip.lookup name := by
  induction levels generalizing vip with
  | nil => rfl
  | cons first levels ih =>
      rw [List.nodup_cons] at nodup
      rw [List.foldl_cons, ih nodup.2, lookup_move]
      by_cases same : name = first
      · subst same
        rw [if_neg nodup.1, if_pos rfl, if_pos List.mem_cons_self]
      · rw [if_neg same]
        simp only [List.mem_cons, same, false_or]

theorem remaining_buy (state : State) (level : ℕ) (bought_eq : boughtLevel cfgs productId = bought)
    (bought_pos : bought ≠ 0) :
    State.remaining (state.step cfgs (.buy productId)).1 level =
      if level = bought then state.remaining level + cfgs.seconds bought
      else if 1 ≤ level ∧ level < bought ∧ 0 < state.remaining level then
        state.remaining level + cfgs.seconds (level + 1)
      else state.remaining level := by
  have known : productId ≠ "0" ∧ productId ∈ cfgs.rows.objects.map VipCfg.productId := by
    by_contra unknown
    rw [boughtLevel, if_neg unknown] at bought_eq
    exact bought_pos bought_eq.symm
  rw [boughtLevel, if_pos known] at bought_eq
  have nodup : (List.range' 1 (bought - 1)).reverse.Nodup :=
    List.nodup_reverse.mpr List.nodup_range'
  unfold State.step VipBag.checkBuyVipLevel VipBag.setVip State.remaining
  dsimp only
  rw [if_pos known, bought_eq, if_neg bought_pos]
  dsimp only
  rw [lookup_foldl_move _ _ nodup, Dict.lookup_assign]
  simp only [List.mem_reverse, List.mem_range'_1]
  by_cases same : level = bought
  · subst same
    rw [if_neg (by omega), if_pos rfl, if_pos rfl, Option.getD_some]
    unfold VipBag.prolonged
    split
    next absent => simp [absent]
    next endTime found =>
      rw [found, Option.getD_some]
      split <;> omega
  · rw [if_neg same, if_neg same]
    by_cases below : 1 ≤ level ∧ level < 1 + (bought - 1)
    · rw [if_pos below]
      cases state.bag.vip.lookup level with
      | none => simp
      | some endTime =>
          rw [Option.map_some, Option.getD_some, Option.getD_some]
          split <;> split <;> omega
    · rw [if_neg below, if_neg (by omega)]

/-- A purchase adds its duration to what remains of every level up to its own. -/
def AddsUp (cfgs : VipCfgs) (bought : ℕ) (before after : State) : Prop :=
  ∀ level, 1 ≤ level → after.remainingFrom level =
    before.remainingFrom level + if level ≤ bought then cfgs.seconds bought else 0

theorem remainingFrom_buy_above (state : State) (bought_eq : boughtLevel cfgs productId = bought)
    (bought_pos : bought ≠ 0) (above : bought < level) :
    State.remainingFrom (state.step cfgs (.buy productId)).1 level =
      state.remainingFrom level := by
  refine Finset.sup_congr rfl fun other other_mem => ?_
  rw [Finset.mem_Icc] at other_mem
  rw [remaining_buy state other bought_eq bought_pos, if_neg (by omega), if_neg (by omega)]

/-- A purchase adds up just when it meets `Adds`. -/
theorem addsUp_buy_iff (bought_eq : boughtLevel cfgs productId = bought) (bought_pos : bought ≠ 0) :
    AddsUp cfgs bought state (state.step cfgs (.buy productId)).1 ↔ Adds cfgs state bought := by
  have bought_le : bought ≤ 9 := bought_eq ▸ boughtLevel_le cfgs productId
  have above := remainingFrom_buy_above state bought_eq bought_pos (Nat.lt_add_one bought)
  have own := remaining_buy state bought bought_eq bought_pos
  rw [if_pos rfl] at own
  have from_own := remainingFrom_eq (state.step cfgs (.buy productId)).1 bought_le
  have from_before := remainingFrom_eq state bought_le
  constructor
  · intro adds
    refine ⟨fun outlasted => ?_, fun level below level_pos active => ?_⟩
    · have at_own := adds bought (Nat.pos_of_ne_zero bought_pos)
      rw [if_pos le_rfl] at at_own
      omega
    · have at_level := adds level level_pos
      have at_next := adds (level + 1) (by omega)
      have moved := remaining_buy state level bought_eq bought_pos
      rw [if_neg below.ne, if_pos ⟨level_pos, below, active⟩] at moved
      have from_level := remainingFrom_eq (state.step cfgs (.buy productId)).1
        (show level ≤ 9 by omega)
      have from_level_before := remainingFrom_eq state (show level ≤ 9 by omega)
      rw [if_pos below.le] at at_level
      rw [if_pos (Nat.succ_le_of_lt below)] at at_next
      constructor <;> intro <;> omega
  · rintro ⟨own_adds, lower_adds⟩ level level_pos
    by_cases up_to : level ≤ bought
    · rw [if_pos up_to]
      -- From the bought level downwards.
      induction up_to using Nat.decreasingInduction with
      | self => omega
      | of_succ level below ih =>
          have at_next := ih (by omega)
          have lower := lower_adds level below level_pos
          have moved := remaining_buy state level bought_eq bought_pos
          rw [if_neg below.ne] at moved
          have from_level := remainingFrom_eq (state.step cfgs (.buy productId)).1
            (show level ≤ 9 by omega)
          have from_level_before := remainingFrom_eq state (show level ≤ 9 by omega)
          split at moved <;> omega
    · rw [if_neg up_to, Nat.add_zero]
      exact remainingFrom_buy_above state bought_eq bought_pos (not_le.mp up_to)

end Bought

section Runs

variable {cfgs : VipCfgs} {state : State} {level now : ℕ} {events : List Event}

/-- What is bought for a level is reported or remains. -/
def account (level : ℕ) : Machine.Account State Entry ℕ where
  paid := Entry.boughtAt level
  delivered := Entry.secondsAt level
  pending state := state.remainingFrom level

theorem remainingFrom_new (now level : ℕ) : (State.new now).remainingFrom level = 0 := by
  refine Nat.le_zero.mp (Finset.sup_le fun other _ => ?_)
  exact (Nat.zero_sub now).le

theorem step_pledgeMit (cfgs : VipCfgs) (state : State) (event : Event) :
    (state.step cfgs event).1.bag.pledgeMit = state.bag.pledgeMit := by
  cases event with
  | tick => rfl
  | buy productId =>
      simp only [State.step, VipBag.checkBuyVipLevel, VipBag.setVip]
      split
      · split <;> rfl
      · rfl

theorem tick_balances (unpledged : state.bag.pledgeMit = 0) (level_pos : 1 ≤ level) :
    (account level).Balances state (state.step cfgs .tick) := by
  have reported : level ≤ state.bag.refreshVipLevel cfgs state.now ↔
      0 < state.remainingFrom level := le_refreshVipLevel_iff unpledged level_pos
  have less := remainingFrom_tick state level
  simp only [Machine.Account.Balances, Machine.Account.paidIn, Machine.Account.deliveredBy,
    account, State.step, List.map_cons, List.map_nil, List.sum_cons, List.sum_nil, Entry.boughtAt,
    Entry.secondsAt, less]
  split <;> omega

theorem buy_balances_iff {productId : String} :
    (∀ level, 1 ≤ level →
        (account level).Balances state (state.step cfgs (.buy productId))) ↔
      Allowed cfgs state (.buy productId) := by
  unfold Allowed
  by_cases bought_pos : boughtLevel cfgs productId = 0
  · refine iff_of_true (fun level _ => ?_) (absurd bought_pos)
    have same : (state.step cfgs (.buy productId)).1.bag = state.bag := by
      unfold boughtLevel at bought_pos
      simp only [State.step, VipBag.checkBuyVipLevel, VipBag.setVip]
      split
      next known =>
        rw [if_pos known] at bought_pos
        rw [if_pos bought_pos]
      next => rfl
    simp only [State.step] at same ⊢
    rw [if_pos bought_pos, same]
    exact .of_silent rfl
  · refine Iff.trans ?_ ((addsUp_buy_iff rfl bought_pos).trans
      ⟨fun adds _ => adds, fun adds => adds bought_pos⟩)
    refine forall₂_congr fun level _ => ?_
    simp only [State.step]
    rw [if_neg bought_pos]
    simp only [Machine.Account.Balances, Machine.Account.paidIn, Machine.Account.deliveredBy,
      account, List.map_cons, List.map_nil, List.sum_cons, List.sum_nil, Entry.boughtAt,
      Entry.secondsAt, Nat.add_zero, Nat.zero_add]
    exact eq_comm

theorem step_balances (unpledged : state.bag.pledgeMit = 0) {event : Event}
    (allowed : Allowed cfgs state event) (level_pos : 1 ≤ level) :
    (account level).Balances state ((machine cfgs).step state event) := by
  cases event with
  | tick => exact tick_balances unpledged level_pos
  | buy productId => exact buy_balances_iff.mpr allowed level level_pos

/-- The balance after every allowed run. -/
theorem balances_run (unpledged : state.bag.pledgeMit = 0)
    (allowed : (machine cfgs).Allowed (Allowed cfgs) state events) (level_pos : 1 ≤ level) :
    (account level).Balances state ((machine cfgs).run state events) :=
  Machine.Account.balances_run (fun state => state.bag.pledgeMit = 0)
    (fun state event unpledged _ => (step_pledgeMit cfgs state event).trans unpledged)
    (fun _ _ unpledged allowed => step_balances unpledged allowed level_pos) unpledged allowed

section

variable (cfgs : VipCfgs) (state : State) (more : ℕ)

theorem allowed_ticks :
    (machine cfgs).Allowed (Allowed cfgs) state (List.replicate more .tick) := by
  induction more generalizing state with
  | zero => trivial
  | succ more ih => exact ⟨trivial, ih _⟩

theorem remainingFrom_ticks :
    ((machine cfgs).run state (List.replicate more .tick)).1.remainingFrom level =
      state.remainingFrom level - more := by
  induction more generalizing state with
  | zero => rfl
  | succ more ih =>
      rw [List.replicate_succ, Machine.run]
      refine (ih _).trans ?_
      change State.remainingFrom { state with now := state.now + 1 } level - more = _
      rw [remainingFrom_tick]
      omega

theorem boughtAt_ticks :
    (account level).paidIn ((machine cfgs).run state (List.replicate more .tick)).2 = 0 := by
  induction more generalizing state with
  | zero => rfl
  | succ more ih =>
      rw [List.replicate_succ, Machine.run]
      exact (Nat.zero_add _).trans (ih _)

end

theorem run_pledgeMit (cfgs : VipCfgs) (now : ℕ) (events : List Event) :
    ((machine cfgs).run (.new now) events).1.bag.pledgeMit = 0 :=
  Machine.holds_run (fun state : State => state.bag.pledgeMit = 0)
    (fun state event unpledged _ => (step_pledgeMit cfgs state event).trans unpledged) rfl
    (Machine.allowed_true _ events)

theorem conserved_iff : Conserved cfgs now events ↔ ∀ level, 1 ≤ level →
    (account level).Balances (.new now) ((machine cfgs).run (.new now) events) := by
  refine forall₂_congr fun level level_pos => ?_
  let last := ((machine cfgs).run (.new now) events).1
  have reported : ∀ more, last.remainingFrom level ≤ more →
      (((machine cfgs).run (.new now) (events ++ List.replicate more .tick)).2.map
          (Entry.secondsAt level)).sum =
        (account level).deliveredBy ((machine cfgs).run (.new now) events).2 +
          last.remainingFrom level := by
    intro more le
    have ticks := balances_run (run_pledgeMit cfgs now events) (allowed_ticks cfgs last more)
      level_pos
    have nothing : (account level).pending
        ((machine cfgs).run last (List.replicate more .tick)).1 = 0 :=
      (remainingFrom_ticks cfgs last more).trans (Nat.sub_eq_zero_of_le le)
    unfold Machine.Account.Balances at ticks
    rw [boughtAt_ticks, nothing, Nat.add_zero, Nat.add_zero] at ticks
    rw [Machine.run_append, List.map_append, List.sum_append]
    exact congrArg _ ticks.symm
  unfold Machine.Account.Balances
  have opening : (account level).pending (.new now) = 0 := remainingFrom_new now level
  rw [opening, Nat.zero_add]
  constructor
  · rintro ⟨enough, conserved⟩
    have at_end := conserved (max enough (last.remainingFrom level)) (le_max_left _ _)
    rw [reported _ (le_max_right _ _)] at at_end
    exact at_end.symm
  · intro balances
    exact ⟨last.remainingFrom level, fun more le => (reported more le).trans balances.symm⟩

/-- While every purchase adds its duration, no VIP time is lost. -/
theorem vipConserved_run (cfgs : VipCfgs) (now : ℕ) (events : List Event)
    (allowed : (machine cfgs).Allowed (Allowed cfgs) (.new now) events) :
    Conserved cfgs now events :=
  conserved_iff.mpr fun _ level_pos => balances_run rfl allowed level_pos

end Runs

/-! ## A lower level bought below a higher one -/

def sampleProducts : List String :=
  ["0", "gb.vip.6", "gb.vip.15", "gb.vip.30", "gb.vip.50", "gb.vip.80", "gb.vip.110", "gb.vip.150",
    "gb.vip.200", "gb.vip.250"]

def sampleRow (level : ℕ) : VipCfg where
  cfgId := level
  minMit := 200000 * level
  maxMit := if level = 9 then -1 else 200000 * level + 199999
  productId := sampleProducts.getD level "0"
  duration := if level = 0 then 0 else 30

theorem sampleRows_cfgId : ((List.range 10).map sampleRow).map VipCfg.cfgId = List.range 10 := by
  decide

theorem sampleRows_nodup : (((List.range 10).map sampleRow).map VipCfg.cfgId).Nodup := by
  rw [sampleRows_cfgId]
  exact List.nodup_range

def sampleRows : Keyed VipCfg.cfgId := ⟨(List.range 10).map sampleRow, sampleRows_nodup⟩

theorem sampleRows_levels (level : ℕ) : (sampleRows.get level).isSome = true ↔ level ≤ 9 := by
  rw [← Option.ne_none_iff_isSome, Ne, Keyed.get_none_iff, not_not]
  change level ∈ ((List.range 10).map sampleRow).map VipCfg.cfgId ↔ level ≤ 9
  rw [sampleRows_cfgId, List.mem_range, Nat.lt_succ_iff]

theorem sampleRows_unpledged (row : VipCfg) (row_mem : row ∈ sampleRows.objects)
    (covers : row.covers 0) : row.cfgId = 0 := by
  obtain ⟨level, -, rfl⟩ := List.mem_map.mp row_mem
  have min_le := covers.1
  dsimp only [sampleRow] at min_le ⊢
  omega

def sampleCfgs : VipCfgs := ⟨sampleRows, sampleRows_levels, sampleRows_unpledged⟩

/-- The first level, some seconds, and then the second level. -/
theorem conserved_upgrade :
    Conserved sampleCfgs 0 [.buy "gb.vip.6", .tick, .tick, .buy "gb.vip.15"] :=
  vipConserved_run sampleCfgs 0 _ (by decide)

/-- Sixty days are bought, and all is over after thirty. -/
theorem not_conserved_lowerBought :
    ¬ Conserved sampleCfgs 0 [.buy "gb.vip.15", .buy "gb.vip.6"] := by
  intro conserved
  exact absurd (conserved_iff.mp conserved 1 le_rfl) (by decide)

end BasWar.VipTime
