import BasWar.Player.Entity
import BasWar.Tables.Journal
import Mathlib.Algebra.Order.Group.Multiset

/-!
# Upgrades of heroes and warships

A hero or a warship raises its level and its skills one step at a time.  A step is charged when it
is ordered and applied by the check of each second once its timer has run out; one timer serves the
level and one serves all skills.  What other bags do to the reference of the unit is given with
each request.  Forgetting and resetting a skill first credit items, which may wait, and then write
the skill.
-/

namespace BasWar.Upgrades

open Tables

/-- Milliseconds since the epoch. -/
abbrev Timestamp :=
  {now : ℤ // 0 < now}

inductive Kind
  | hero
  | warShip

/-- References that allow a level up: `REF_CANLEVELUP`, or what `levelUpWarShip` asks for. -/
def Kind.canLevelUp : Kind → Ref → Bool
  | .hero, ref => ref ∈ [.none, .levelUp, .skillUp, .army]
  | .warShip, ref => ref ∈ [.none, .levelUp]

/-- References that allow a skill up: `REF_CANLEVELUP`, or what `warShipSkillUp` asks for. -/
def Kind.canSkillUp : Kind → Ref → Bool
  | .hero, ref => ref ∈ [.none, .levelUp, .skillUp, .army]
  | .warShip, ref => ref = .none

/-- `skillEquitType` of a skill. -/
inductive SkillEquip
  | fixed
  | variable
  | other
  deriving DecidableEq

/-- The configuration of one unit at its quality. -/
structure Config where
  kind : Kind
  /-- `levelUpNeedTick` in seconds by level; nothing above the last level. -/
  levelUpNeedTick : ℕ → Option ℕ
  /-- `levelUpNeedTick` in seconds by skill and level. -/
  skillUpNeedTick : ℕ → ℕ → Option ℕ
  /-- By skill and level. -/
  skillEquip : ℕ → ℕ → SkillEquip
  /-- `initSkill` by level and slot, 0 for none. -/
  initSkill : ℕ → ℤ → ℕ

structure Upgradable where
  level : ℕ
  nextTick : ℤ
  /-- The skill in each slot: missing, 0 for none, or its id. -/
  skill : ℤ → Option ℕ
  skillLevel : ℤ → ℕ
  /-- The slot of the skill that is being raised. -/
  skillUp : ℤ
  skillUpNextTick : ℤ

inductive Step
  | level (from' : ℕ)
  | skill (slot : ℤ) (skillCfgId : ℕ)
  deriving DecidableEq

inductive Entry
  | charged (step : Step)
  /-- The price of the remaining time was paid. -/
  | hurried (step : Step)
  | raised (step : Step)

/-- What comes with a request to raise something. -/
structure Order where
  /-- The reference of the unit at that time. -/
  ref : Ref
  needBuilds : Bool
  /-- The resources and items of the bill are there. -/
  affords : Bool
  speedUp : ℤ

namespace Upgradable

/-- `hero["skill" .. slot] or 0`. -/
def skillAt (unit : Upgradable) (slot : ℤ) : ℕ :=
  (unit.skill slot).getD 0

def isLevelUp (now : Timestamp) (unit : Upgradable) : Bool :=
  decide (now.val ≤ unit.nextTick)

def isSkillUp (now : Timestamp) (unit : Upgradable) : Bool :=
  decide (now.val ≤ unit.skillUpNextTick)

def setNextTick (now : Timestamp) (needTick : ℕ) (unit : Upgradable) : Upgradable :=
  { unit with nextTick := now.val + needTick }

/-- `setSkillUpNextTick`, after the slot is written. -/
def setSkillUp (now : Timestamp) (slot : ℤ) (needTick : ℕ) (unit : Upgradable) : Upgradable :=
  { unit with skillUp := slot, skillUpNextTick := now.val + needTick }

/-- `refreshConfig`: empty slots take the initial skills of the level. -/
def refreshConfig (config : Config) (unit : Upgradable) : Upgradable :=
  let empty (slot : ℤ) : Bool :=
    config.initSkill unit.level slot ≠ 0 ∧ unit.skill slot = some 0
  { unit with
    skill := fun slot =>
      if empty slot then some (config.initSkill unit.level slot) else unit.skill slot
    skillLevel := fun slot => if empty slot then 1 else unit.skillLevel slot }

def checkLevelUp (config : Config) (now : Timestamp) (unit : Upgradable) :
    Upgradable × List Entry :=
  if unit.nextTick ≤ 0 ∨ now.val < unit.nextTick then
    (unit, [])
  else
    (refreshConfig config { unit with nextTick := 0, level := unit.level + 1 },
      [.raised (.level unit.level)])

def checkSkillUp (config : Config) (now : Timestamp) (unit : Upgradable) :
    Upgradable × List Entry :=
  if unit.skillUpNextTick ≤ 0 ∨ now.val < unit.skillUpNextTick then
    (unit, [])
  else
    (refreshConfig config
      { unit with
        skillUpNextTick := 0
        skillLevel :=
          Function.update unit.skillLevel unit.skillUp (unit.skillLevel unit.skillUp + 1)
        skillUp := 0 },
      [.raised (.skill unit.skillUp (unit.skillAt unit.skillUp))])

/-- `checkHeros` for one unit. -/
def onSecond (config : Config) (now : Timestamp) (unit : Upgradable) : Upgradable × List Entry :=
  let (leveled, entries) := unit.checkLevelUp config now
  let (skilled, more) := leveled.checkSkillUp config now
  (skilled, entries ++ more)

end Upgradable

/-- How a request that passed its checks is paid: nothing if it is refused. -/
def payment (underWay : Bool) (order : Order) : Option (Step → Entry) :=
  if underWay && order.speedUp == 0 then
    none
  else if !order.affords then
    none
  else
    some (if underWay then .hurried else .charged)

/-- The time that a request sets, in milliseconds. -/
def orderedTick (needTick : ℕ) (order : Order) : ℕ :=
  if order.speedUp ≤ 0 then needTick * 1000 else 0

/-- The checks of `levelUpHero` and `levelUpWarShip` before the bill. -/
def levelUpAllowed (config : Config) (order : Order) (unit : Upgradable) : Option ℕ :=
  match config.levelUpNeedTick (unit.level + 1), config.levelUpNeedTick unit.level with
  | some _, some needTick =>
      if config.kind.canLevelUp order.ref && order.needBuilds then some needTick else none
  | _, _ => none

/-- `levelUpHero` and `levelUpWarShip`. -/
def levelUp (config : Config) (now : Timestamp) (order : Order) (unit : Upgradable) :
    Upgradable × List Entry :=
  match levelUpAllowed config order unit, payment (unit.isLevelUp now) order with
  | some needTick, some entry =>
      (unit.setNextTick now (orderedTick needTick order), [entry (.level unit.level)])
  | _, _ => (unit, [])

/-- The checks of `heroSkillUp` and `warShipSkillUp` before the bill. -/
def skillUpAllowed (config : Config) (slot : ℤ) (order : Order) (unit : Upgradable) : Option ℕ :=
  if unit.skillAt slot = 0 then
    none
  else
    match config.skillUpNeedTick (unit.skillAt slot) (unit.skillLevel slot + 1),
      config.skillUpNeedTick (unit.skillAt slot) (unit.skillLevel slot) with
    | some _, some needTick => if config.kind.canSkillUp order.ref then some needTick else none
    | _, _ => none

/-- `heroSkillUp` and `warShipSkillUp`. -/
def skillUp (config : Config) (now : Timestamp) (slot : ℤ) (order : Order) (unit : Upgradable) :
    Upgradable × List Entry :=
  match skillUpAllowed config slot order unit, payment (unit.isSkillUp now) order with
  | some needTick, some entry =>
      (unit.setSkillUp now slot (orderedTick needTick order),
        [entry (.skill slot (unit.skillAt slot))])
  | _, _ => (unit, [])

/-- `heroPutonSkill` and `warShipPutonSkill`; `fits` says that the item is there and is a skill for
this unit. -/
def putonSkill (slot : ℤ) (skillCfgId level : ℕ) (fits : Bool) (unit : Upgradable) : Upgradable :=
  if 0 < unit.skillAt slot || !fits then
    unit
  else
    { unit with
      skill := Function.update unit.skill slot (some skillCfgId)
      skillLevel := Function.update unit.skillLevel slot level }

/-- A request that credits items before it writes the skill. -/
inductive Task
  | resetSkill (slot : ℤ)
  | forgetSkill (slot : ℤ)

/-- The checks of `heroResetSkill` and `warShipResetSkill`. -/
def resetSkill (config : Config) (slot : ℤ) (unit : Upgradable) : List Task :=
  if unit.skillAt slot ≠ 0 ∧ 1 < unit.skillLevel slot ∧
      config.skillEquip (unit.skillAt slot) (unit.skillLevel slot) = .fixed then
    [.resetSkill slot]
  else
    []

/-- The checks of `heroForgetSkill` and `warShipForgetSkill`. -/
def forgetSkill (config : Config) (slot : ℤ) (unit : Upgradable) : List Task :=
  if unit.skillAt slot ≠ 0 ∧
      config.skillEquip (unit.skillAt slot) (unit.skillLevel slot) = .variable then
    [.forgetSkill slot]
  else
    []

/-- What a request writes once its items are credited. -/
def Task.write (unit : Upgradable) : Task → Upgradable
  | .resetSkill slot => { unit with skillLevel := Function.update unit.skillLevel slot 1 }
  | .forgetSkill slot =>
      { unit with
        skill := Function.update unit.skill slot (some 0)
        skillLevel := Function.update unit.skillLevel slot 0 }

/-- A unit and the requests that are crediting items. -/
structure State where
  unit : Upgradable
  waiting : List Task

inductive Event
  | levelUp (now : Timestamp) (order : Order)
  | skillUp (now : Timestamp) (slot : ℤ) (order : Order)
  | putonSkill (slot : ℤ) (skillCfgId level : ℕ) (fits : Bool)
  | resetSkill (slot : ℤ)
  | forgetSkill (slot : ℤ)
  /-- The items of a waiting request are credited. -/
  | credited (index : ℕ)
  | onSecond (now : Timestamp)

def machine (config : Config) : Machine State Event Entry where
  step state
    | .levelUp now order =>
        let (unit, entries) := levelUp config now order state.unit
        ({ state with unit }, entries)
    | .skillUp now slot order =>
        let (unit, entries) := skillUp config now slot order state.unit
        ({ state with unit }, entries)
    | .putonSkill slot skillCfgId level fits =>
        ({ state with unit := putonSkill slot skillCfgId level fits state.unit }, [])
    | .resetSkill slot =>
        ({ state with waiting := state.waiting ++ resetSkill config slot state.unit }, [])
    | .forgetSkill slot =>
        ({ state with waiting := state.waiting ++ forgetSkill config slot state.unit }, [])
    | .credited index =>
        match state.waiting[index]? with
        | none => (state, [])
        | some task =>
            ({ unit := task.write state.unit, waiting := state.waiting.eraseIdx index }, [])
    | .onSecond now =>
        let (unit, entries) := state.unit.onSecond config now
        ({ state with unit }, entries)

end BasWar.Upgrades
