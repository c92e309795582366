import BasWar.Player.Upgrades

/-!
# Upgrades are worth their price

Every step that is charged is applied once or still pending, unless a request comes between the
end of a timer and the check of that second, names another slot while a skill is being raised, or
forgets the skill that is being raised.
-/

namespace BasWar.Upgrades

open Tables

namespace Upgradable

def pendingLevel (unit : Upgradable) : Multiset Step :=
  if 0 < unit.nextTick then {.level unit.level} else 0

def pendingSkill (unit : Upgradable) : Multiset Step :=
  if 0 < unit.skillUpNextTick then {.skill unit.skillUp (unit.skillAt unit.skillUp)} else 0

def pending (unit : Upgradable) : Multiset Step :=
  unit.pendingLevel + unit.pendingSkill

/-- The slot whose skill is being raised holds a skill. -/
def Sound (unit : Upgradable) : Prop :=
  0 < unit.skillUpNextTick → 0 < unit.skillAt unit.skillUp

/-- The timer of the level has run out and no check has seen it. -/
def LevelLapsed (now : Timestamp) (unit : Upgradable) : Prop :=
  0 < unit.nextTick ∧ unit.nextTick < now.val
  deriving Decidable

/-- The timer of the skills has run out and no check has seen it. -/
def SkillLapsed (now : Timestamp) (unit : Upgradable) : Prop :=
  0 < unit.skillUpNextTick ∧ unit.skillUpNextTick < now.val
  deriving Decidable

end Upgradable

/-- The steps that the entries charge and apply, and those that are pending. -/
def unitAccount : Machine.Account Upgradable Entry (Multiset Step) where
  paid
    | .charged step => {step}
    | _ => 0
  delivered
    | .raised step => {step}
    | _ => 0
  pending := Upgradable.pending

def account : Machine.Account State Entry (Multiset Step) where
  paid := unitAccount.paid
  delivered := unitAccount.delivered
  pending state := state.unit.pending

/-- What the price of each step is worth: all steps that were pending or were charged have been
applied or are pending, and the first check after the timers leaves none pending. -/
structure Worth (config : Config) (before : State) (after : State × List Entry) : Prop where
  balances : account.Balances before after
  due : ∀ now : Timestamp, after.1.unit.nextTick ≤ now.val →
    after.1.unit.skillUpNextTick ≤ now.val → (after.1.unit.onSecond config now).1.pending = 0

/-- The request does not meet a step that it would overwrite. -/
def Event.Clear (config : Config) (state : State) : Event → Prop
  | .levelUp now order =>
      levelUpAllowed config order state.unit ≠ none → order.affords → ¬ state.unit.LevelLapsed now
  | .skillUp now slot order =>
      skillUpAllowed config slot order state.unit ≠ none → order.affords →
        ¬ state.unit.SkillLapsed now ∧
          (state.unit.isSkillUp now → order.speedUp ≠ 0 → slot = state.unit.skillUp)
  | .credited index =>
      match state.waiting[index]? with
      | some (.forgetSkill slot) => ¬ (0 < state.unit.skillUpNextTick ∧ state.unit.skillUp = slot)
      | _ => True
  | _ => True

instance (config : Config) (state : State) (event : Event) :
    Decidable (event.Clear config state) := by
  cases event <;> unfold Event.Clear <;> dsimp only
  case credited => split <;> infer_instance
  all_goals infer_instance

section

variable {config : Config} {unit : Upgradable} {now : Timestamp}

variable {slot : ℤ} {after : Upgradable} {step : Step} {order : Order}

theorem refreshConfig_skillAt (held : 0 < unit.skillAt slot) :
    (unit.refreshConfig config).skillAt slot = unit.skillAt slot := by
  have not_empty : unit.skill slot ≠ some 0 := fun empty => by
    simp [Upgradable.skillAt, empty] at held
  simp [Upgradable.refreshConfig, Upgradable.skillAt, not_empty]

theorem refreshConfig_sound (sound : unit.Sound) : (unit.refreshConfig config).Sound := by
  intro raising
  have held := sound raising
  exact held.trans_eq (refreshConfig_skillAt held).symm

theorem refreshConfig_pending (sound : unit.Sound) :
    (unit.refreshConfig config).pending = unit.pending := by
  have skill_eq : (unit.refreshConfig config).pendingSkill = unit.pendingSkill := by
    unfold Upgradable.pendingSkill
    by_cases raising : 0 < unit.skillUpNextTick
    · rw [if_pos raising,
        if_pos (show 0 < (unit.refreshConfig config).skillUpNextTick from raising)]
      rw [show (unit.refreshConfig config).skillUp = unit.skillUp from rfl,
        refreshConfig_skillAt (sound raising)]
    · rw [if_neg raising,
        if_neg (show ¬ 0 < (unit.refreshConfig config).skillUpNextTick from raising)]
  rw [Upgradable.pending, Upgradable.pending, skill_eq]
  rfl

/-! ## The check of each second -/

theorem checkLevelUp_sound (sound : unit.Sound) : (unit.checkLevelUp config now).1.Sound := by
  unfold Upgradable.checkLevelUp
  split
  · exact sound
  · exact refreshConfig_sound sound

theorem checkSkillUp_sound (sound : unit.Sound) : (unit.checkSkillUp config now).1.Sound := by
  unfold Upgradable.checkSkillUp
  split
  · exact sound
  · exact refreshConfig_sound fun raising => absurd raising (lt_irrefl 0)

theorem balances_charged (added : after.pending = {step} + unit.pending) :
    unitAccount.Balances unit (after, [.charged step]) := by
  simp [Machine.Account.Balances, Machine.Account.paidIn, Machine.Account.deliveredBy,
    unitAccount, added, add_comm]

theorem balances_raised (removed : unit.pending = {step} + after.pending) :
    unitAccount.Balances unit (after, [.raised step]) := by
  simp [Machine.Account.Balances, Machine.Account.paidIn, Machine.Account.deliveredBy,
    unitAccount, removed]

theorem balances_hurried (same : after.pending = unit.pending) :
    unitAccount.Balances unit (after, [.hurried step]) := by
  simp [Machine.Account.Balances, Machine.Account.paidIn, Machine.Account.deliveredBy,
    unitAccount, same]

theorem checkLevelUp_balances (sound : unit.Sound) :
    unitAccount.Balances unit (unit.checkLevelUp config now) := by
  unfold Upgradable.checkLevelUp
  split
  · exact .of_silent rfl
  next due =>
    have under_way : 0 < unit.nextTick := by omega
    refine balances_raised ?_
    rw [refreshConfig_pending
      (show ({ unit with nextTick := 0, level := unit.level + 1 } : Upgradable).Sound from sound)]
    rw [Upgradable.pending, Upgradable.pendingLevel, if_pos under_way]
    exact congrArg ({Step.level unit.level} + ·) (zero_add unit.pendingSkill).symm

theorem checkSkillUp_balances : unitAccount.Balances unit (unit.checkSkillUp config now) := by
  unfold Upgradable.checkSkillUp
  split
  · exact .of_silent rfl
  next due =>
    have under_way : 0 < unit.skillUpNextTick := by omega
    refine balances_raised ?_
    rw [refreshConfig_pending fun raising => absurd raising (lt_irrefl 0)]
    rw [Upgradable.pending, Upgradable.pendingSkill, if_pos under_way, add_comm]
    exact congrArg ({Step.skill unit.skillUp (unit.skillAt unit.skillUp)} + ·)
      (add_zero unit.pendingLevel).symm

theorem onSecond_balances (sound : unit.Sound) :
    unitAccount.Balances unit (unit.onSecond config now) :=
  (checkLevelUp_balances sound).trans checkSkillUp_balances

theorem onSecond_sound (sound : unit.Sound) : (unit.onSecond config now).1.Sound :=
  checkSkillUp_sound (checkLevelUp_sound sound)

theorem pending_idle (no_level : ¬ 0 < unit.nextTick) (no_skill : ¬ 0 < unit.skillUpNextTick) :
    unit.pending = 0 := by
  rw [Upgradable.pending, Upgradable.pendingLevel, Upgradable.pendingSkill, if_neg no_level,
    if_neg no_skill, add_zero]

theorem onSecond_due (level_due : unit.nextTick ≤ now.val)
    (skill_due : unit.skillUpNextTick ≤ now.val) : (unit.onSecond config now).1.pending = 0 := by
  have leveled : ¬ 0 < (unit.checkLevelUp config now).1.nextTick ∧
      (unit.checkLevelUp config now).1.skillUpNextTick = unit.skillUpNextTick := by
    unfold Upgradable.checkLevelUp
    split
    · exact ⟨fun (running : 0 < unit.nextTick) => by omega, rfl⟩
    · exact ⟨lt_irrefl 0, rfl⟩
  have skilled {other : Upgradable} (idle : ¬ 0 < other.nextTick)
      (other_due : other.skillUpNextTick ≤ now.val) :
      ¬ 0 < (other.checkSkillUp config now).1.nextTick ∧
        ¬ 0 < (other.checkSkillUp config now).1.skillUpNextTick := by
    unfold Upgradable.checkSkillUp
    split
    · exact ⟨idle, fun (running : 0 < other.skillUpNextTick) => by omega⟩
    · exact ⟨idle, lt_irrefl 0⟩
  obtain ⟨no_level, no_skill⟩ := skilled leveled.1 (leveled.2.trans_le skill_due)
  exact pending_idle no_level no_skill

/-! ## Requests -/

theorem payment_cases {underWay : Bool} {entry : Step → Entry}
    (paid : payment underWay order = some entry) :
    order.affords = true ∧ (underWay = true ∧ order.speedUp ≠ 0 ∧ entry = .hurried ∨
      underWay = false ∧ entry = .charged) := by
  unfold payment at paid
  split at paid
  · cases paid
  next not_refused =>
    split at paid
    · cases paid
    next afforded =>
      obtain rfl := Option.some.inj paid
      refine ⟨by simpa using afforded, ?_⟩
      cases underWay
      · exact .inr ⟨rfl, rfl⟩
      · exact .inl ⟨rfl, by simpa using not_refused, rfl⟩

theorem setNextTick_pendingLevel (needTick : ℕ) :
    (unit.setNextTick now needTick).pendingLevel = {.level unit.level} := by
  have set : 0 < now.val + needTick := by
    have := now.property
    omega
  exact if_pos set

theorem setSkillUp_pendingSkill (slot : ℤ) (needTick : ℕ) :
    (unit.setSkillUp now slot needTick).pendingSkill = {.skill slot (unit.skillAt slot)} := by
  have set : 0 < now.val + needTick := by
    have := now.property
    omega
  exact if_pos set

theorem levelUp_balances
    (clear : levelUpAllowed config order unit ≠ none → order.affords → ¬ unit.LevelLapsed now) :
    unitAccount.Balances unit (levelUp config now order unit) := by
  unfold levelUp
  split
  next needTick entry allowed paid =>
    obtain ⟨affords, how⟩ := payment_cases paid
    have in_time := clear (by simp [allowed]) affords
    rcases how with ⟨under_way, -, rfl⟩ | ⟨idle, rfl⟩
    · refine balances_hurried ?_
      have running : 0 < unit.nextTick := by
        have := now.property
        have := of_decide_eq_true under_way
        omega
      rw [Upgradable.pending, setNextTick_pendingLevel, Upgradable.pending, Upgradable.pendingLevel,
        if_pos running]
      rfl
    · refine balances_charged ?_
      have none_running : ¬ 0 < unit.nextTick := by
        have := of_decide_eq_false idle
        intro running
        exact in_time ⟨running, by omega⟩
      rw [Upgradable.pending, setNextTick_pendingLevel, Upgradable.pending, Upgradable.pendingLevel,
        if_neg none_running, zero_add]
      rfl
  · exact .of_silent rfl

theorem skillUp_balances
    (clear : skillUpAllowed config slot order unit ≠ none → order.affords →
      ¬ unit.SkillLapsed now ∧ (unit.isSkillUp now → order.speedUp ≠ 0 → slot = unit.skillUp)) :
    unitAccount.Balances unit (skillUp config now slot order unit) := by
  unfold skillUp
  split
  next needTick entry allowed paid =>
    obtain ⟨affords, how⟩ := payment_cases paid
    obtain ⟨in_time, same_slot⟩ := clear (by simp [allowed]) affords
    rcases how with ⟨under_way, hurrying, rfl⟩ | ⟨idle, rfl⟩
    · refine balances_hurried ?_
      have running : 0 < unit.skillUpNextTick := by
        have := now.property
        have := of_decide_eq_true under_way
        omega
      rw [Upgradable.pending, setSkillUp_pendingSkill, Upgradable.pending, Upgradable.pendingSkill,
        if_pos running, same_slot under_way hurrying]
      rfl
    · refine balances_charged ?_
      have none_running : ¬ 0 < unit.skillUpNextTick := by
        have := of_decide_eq_false idle
        intro running
        exact in_time ⟨running, by omega⟩
      rw [Upgradable.pending, setSkillUp_pendingSkill, Upgradable.pending, Upgradable.pendingSkill,
        if_neg none_running, add_zero, add_comm]
      rfl
  · exact .of_silent rfl

theorem levelUp_sound (sound : unit.Sound) : (levelUp config now order unit).1.Sound := by
  unfold levelUp
  split
  · exact sound
  · exact sound

theorem skillUp_sound (sound : unit.Sound) : (skillUp config now slot order unit).1.Sound := by
  unfold skillUp
  split
  next allowed _ =>
    intro _
    unfold skillUpAllowed at allowed
    split at allowed
    · cases allowed
    next held => exact Nat.pos_of_ne_zero held
  · exact sound

theorem write_elsewhere (unit : Upgradable) (skill : ℤ → Option ℕ) (skillLevel : ℤ → ℕ)
    (same : 0 < unit.skillUpNextTick → skill unit.skillUp = unit.skill unit.skillUp) :
    ({ unit with skill, skillLevel } : Upgradable).pending = unit.pending ∧
      (unit.Sound → ({ unit with skill, skillLevel } : Upgradable).Sound) := by
  have held (raising : 0 < unit.skillUpNextTick) :
      ({ unit with skill, skillLevel } : Upgradable).skillAt unit.skillUp =
        unit.skillAt unit.skillUp :=
    congrArg (·.getD 0) (same raising)
  refine ⟨congrArg (unit.pendingLevel + ·) ?_, fun sound raising =>
    (sound raising).trans_eq (held raising).symm⟩
  by_cases raising : 0 < unit.skillUpNextTick
  · rw [Upgradable.pendingSkill, Upgradable.pendingSkill, if_pos raising, if_pos raising,
      held raising]
  · rw [Upgradable.pendingSkill, Upgradable.pendingSkill, if_neg raising, if_neg raising]

theorem putonSkill_kept {skillCfgId level : ℕ} {fits : Bool} (sound : unit.Sound) :
    (putonSkill slot skillCfgId level fits unit).pending = unit.pending ∧
      (putonSkill slot skillCfgId level fits unit).Sound := by
  unfold putonSkill
  split
  · exact ⟨rfl, sound⟩
  next empty =>
    have is_empty : unit.skillAt slot = 0 := by
      simp only [Bool.or_eq_true, decide_eq_true_eq, not_or] at empty
      omega
    have other_slot (raising : 0 < unit.skillUpNextTick) : unit.skillUp ≠ slot := fun same => by
      have := sound raising
      rw [same] at this
      omega
    have written := write_elsewhere unit (Function.update unit.skill slot (some skillCfgId))
      (Function.update unit.skillLevel slot level)
      fun raising => Function.update_of_ne (other_slot raising) ..
    exact ⟨written.1, written.2 sound⟩

/-- A waiting request writes a skill other than the one that is being raised, or its level only. -/
theorem Task.write_kept {task : Task} (sound : unit.Sound)
    (elsewhere : ∀ slot, task = .forgetSkill slot → 0 < unit.skillUpNextTick →
      unit.skillUp ≠ slot) :
    (task.write unit).pending = unit.pending ∧ (task.write unit).Sound := by
  cases task with
  | resetSkill slot => exact ⟨rfl, sound⟩
  | forgetSkill slot =>
      have written := write_elsewhere unit (Function.update unit.skill slot (some 0))
        (Function.update unit.skillLevel slot 0)
        fun raising => Function.update_of_ne (elsewhere slot rfl raising) ..
      exact ⟨written.1, written.2 sound⟩

theorem step_balances {state : State} {event : Event} (sound : state.unit.Sound)
    (clear : event.Clear config state) :
    account.Balances state ((machine config).step state event) ∧
      ((machine config).step state event).1.unit.Sound := by
  cases event with
  | levelUp now order => exact ⟨levelUp_balances clear, levelUp_sound sound⟩
  | skillUp now slot order => exact ⟨skillUp_balances clear, skillUp_sound sound⟩
  | putonSkill slot skillCfgId level fits =>
      exact ⟨.of_silent (putonSkill_kept sound).1, (putonSkill_kept sound).2⟩
  | resetSkill slot => exact ⟨.of_silent rfl, sound⟩
  | forgetSkill slot => exact ⟨.of_silent rfl, sound⟩
  | onSecond now => exact ⟨onSecond_balances sound, onSecond_sound sound⟩
  | credited index =>
      simp only [Event.Clear] at clear
      simp only [machine]
      cases found : state.waiting[index]? with
      | none => exact ⟨.of_silent rfl, sound⟩
      | some task =>
          have elsewhere : ∀ slot, task = .forgetSkill slot → 0 < state.unit.skillUpNextTick →
              state.unit.skillUp ≠ slot := by
            rintro slot rfl raising same
            rw [found] at clear
            exact clear ⟨raising, same⟩
          exact ⟨.of_silent (Task.write_kept sound elsewhere).1,
            (Task.write_kept sound elsewhere).2⟩

/-- Over every sequence of clear events the charged steps are the applied and pending ones. -/
theorem worth_run (config : Config) {state : State} (sound : state.unit.Sound)
    {events : List Event} (clear : (machine config).Allowed (fun state event =>
      event.Clear config state) state events) :
    Worth config state ((machine config).run state events) where
  balances := Machine.Account.balances_run (fun state => state.unit.Sound)
    (fun _ _ sound clear => (step_balances sound clear).2)
    (fun _ _ sound clear => (step_balances sound clear).1) sound clear
  due _ := onSecond_due

end

/-! ## An instant step ordered twice -/

def sampleConfig : Config where
  kind := .hero
  levelUpNeedTick level := if level ≤ 3 then some 60 else none
  skillUpNeedTick _ level := if level ≤ 3 then some 60 else none
  skillEquip _ _ := .variable
  initSkill _ slot := if slot = 1 then 101 else 0

def sampleHero : State where
  unit :=
    { level := 1
      nextTick := 0
      skill := fun slot => if slot = 1 then some 101 else some 0
      skillLevel := fun slot => if slot = 1 then 1 else 0
      skillUp := 0
      skillUpNextTick := 0 }
  waiting := []

def instantOrder : Order where
  ref := .none
  needBuilds := true
  affords := true
  speedUp := 1

def sampleTime (seconds : ℕ) : Timestamp :=
  ⟨1000 * seconds + 500, by omega⟩

/-- A level and a skill step, each applied before the next one is ordered. -/
def orderlyEvents : List Event :=
  [.levelUp (sampleTime 1) instantOrder,
    .skillUp (sampleTime 1) 1 { instantOrder with speedUp := 0 },
    .onSecond (sampleTime 2), .levelUp (sampleTime 3) instantOrder,
    .skillUp (sampleTime 4) 1 instantOrder, .onSecond (sampleTime 5), .forgetSkill 1, .credited 0]

theorem worth_run_sample :
    Worth sampleConfig sampleHero ((machine sampleConfig).run sampleHero orderlyEvents) :=
  worth_run sampleConfig (fun raising => absurd raising (by decide)) (by decide +kernel)

/-- Two orders within one second are charged twice and raise the level once. -/
theorem not_worth_sample :
    ¬ ∀ (config : Config) (state : State), state.unit.Sound → ∀ events : List Event,
      Worth config state ((machine config).run state events) := by
  intro worth
  have balances := (worth sampleConfig sampleHero (fun raising => absurd raising (by decide))
    [.levelUp (sampleTime 1) instantOrder, .levelUp (sampleTime 2) instantOrder,
      .onSecond (sampleTime 3)]).balances
  exact absurd balances (by decide +kernel)

end BasWar.Upgrades
