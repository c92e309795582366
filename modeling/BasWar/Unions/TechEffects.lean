import BasWar.Tables.Journal
import BasWar.Tables.Mirrored
import Mathlib.Algebra.Order.Ring.Rat
import Mathlib.Algebra.BigOperators.Group.List.Basic
import Mathlib.Data.Finset.Insert
import Mathlib.Data.Fintype.Defs
import Mathlib.Logic.Function.Basic

/-!
# Effects of the technologies of a union

Technologies level and strengthen the buildings and soldiers of a union and raise its limits.  All
effects are reset and applied anew whenever a technology changes.  The effect on the buildings has
taken the reset that was written for the soldiers: what was added to a building stays, and so does
what was added to a soldier.
-/

namespace BasWar.UnionTechs

open Tables

/-- Resources whose limit a technology raises. -/
inductive LimitRes
  | starCoin
  | ice
  | carboxyl
  | titanium
  | gas
  deriving DecidableEq

instance : Fintype LimitRes where
  elems := {.starCoin, .ice, .carboxyl, .titanium, .gas}
  complete res := by cases res <;> decide

/-- `UNION_TECH_ATTRS` without the level, which no effect adds to. -/
inductive Attr
  | hpAddRatio
  | atkAddRatio
  | atkSpeedAddRatio
  deriving DecidableEq

instance : Fintype Attr where
  elems := {.hpAddRatio, .atkAddRatio, .atkSpeedAddRatio}
  complete attr := by cases attr <;> decide

/-- The classes of effects with their targets; 0 aims an addition at every unit. -/
inductive Target
  | defenseLevelUp (buildCfgId : ℕ)
  | defenseAttrAdd (buildCfgId : ℕ) (attr : Attr)
  | soliderLevelUp (soliderCfgId : ℕ)
  | soliderAttrAdd (soliderCfgId : ℕ) (attr : Attr)
  | resLimit (res : LimitRes)
  | soliderSpaceAdd
  deriving DecidableEq

/-- `UNION_TECH_KEYS` -/
inductive EffectType
  | defenseLevelUp
  | defenseAttrAdd
  | soliderLevelUp
  | soliderAttrAdd
  | resLimit
  | soliderSpaceAdd
  deriving DecidableEq

def Target.effectType : Target → EffectType
  | .defenseLevelUp _ => .defenseLevelUp
  | .defenseAttrAdd _ _ => .defenseAttrAdd
  | .soliderLevelUp _ => .soliderLevelUp
  | .soliderAttrAdd _ _ => .soliderAttrAdd
  | .resLimit _ => .resLimit
  | .soliderSpaceAdd => .soliderSpaceAdd

structure EffectCfg where
  cfgId : ℕ
  target : Target

/-- The key of a row of the table of technologies. -/
structure TechKey where
  cfgId : ℕ
  level : ℕ
  deriving DecidableEq

/-- A level of a technology, with the levels of others that it needs and its effects. -/
structure TechCfg where
  key : TechKey
  presetTechs : List (ℕ × ℕ)
  techEffects : List (ℕ × ℚ)

/-- The tables of technologies and of their effects.  An effect that gives a level names a unit. -/
structure TechCfgs where
  techs : Keyed TechCfg.key
  effects : Keyed EffectCfg.cfgId
  named : ∀ effect ∈ effects.objects,
    effect.target ≠ .defenseLevelUp 0 ∧ effect.target ≠ .soliderLevelUp 0
  /-- `UnionInitTechs` -/
  initTechs : List TechKey

structure UnionTech where
  cfgId : ℕ
  level : ℕ

structure UnionUnit where
  cfgId : ℕ
  level : ℚ
  attr : Attr → ℚ

@[ext]
structure Union where
  techs : Keyed UnionTech.cfgId
  builds : Keyed UnionUnit.cfgId
  soliders : Keyed UnionUnit.cfgId
  limitAdd : LimitRes → ℚ
  soliderSpaceAdd : ℚ

structure Effect where
  target : Target
  effectValue : ℚ
  deriving DecidableEq

def aims (target cfgId : ℕ) : Prop :=
  target = 0 ∨ cfgId = target
  deriving Decidable

namespace UnionUnit

/-- `unlockBuild` and `unlockSolider`. -/
def unlocked (cfgId : ℕ) (level : ℚ) : UnionUnit := ⟨cfgId, level, fun _ => 0⟩

def setLevel (target : ℕ) (level : ℚ) (unit : UnionUnit) : UnionUnit :=
  if aims target unit.cfgId then { unit with level } else unit

def resetAttr (target : ℕ) (attr : Attr) (unit : UnionUnit) : UnionUnit :=
  if aims target unit.cfgId then { unit with attr := Function.update unit.attr attr 0 } else unit

def addAttr (target : ℕ) (attr : Attr) (value : ℚ) (unit : UnionUnit) : UnionUnit :=
  if aims target unit.cfgId then
    { unit with attr := Function.update unit.attr attr (unit.attr attr + value) }
  else unit

theorem setLevel_cfgId (target : ℕ) (level : ℚ) (unit : UnionUnit) :
    (unit.setLevel target level).cfgId = unit.cfgId := by
  unfold setLevel
  split <;> rfl

theorem resetAttr_cfgId (target : ℕ) (attr : Attr) (unit : UnionUnit) :
    (unit.resetAttr target attr).cfgId = unit.cfgId := by
  unfold resetAttr
  split <;> rfl

theorem addAttr_cfgId (target : ℕ) (attr : Attr) (value : ℚ) (unit : UnionUnit) :
    (unit.addAttr target attr value).cfgId = unit.cfgId := by
  unfold addAttr
  split <;> rfl

end UnionUnit

/-- Give the units that an effect is aimed at a level, or unlock the unit that it names. -/
def levelUp (target : ℕ) (level : ℚ) (units : Keyed UnionUnit.cfgId) : Keyed UnionUnit.cfgId :=
  match units.get target with
  | none => units.set (.unlocked target level)
  | some _ => units.map (UnionUnit.setLevel target level) (UnionUnit.setLevel_cfgId target level)

def attrReset (target : ℕ) (attr : Attr) (units : Keyed UnionUnit.cfgId) : Keyed UnionUnit.cfgId :=
  units.map (UnionUnit.resetAttr target attr) (UnionUnit.resetAttr_cfgId target attr)

def attrAdd (target : ℕ) (attr : Attr) (value : ℚ) (units : Keyed UnionUnit.cfgId) :
    Keyed UnionUnit.cfgId :=
  units.map (UnionUnit.addAttr target attr value) (UnionUnit.addAttr_cfgId target attr value)

namespace Effect

/-- The classes that have no reset of their own do nothing. -/
def resetEffect (union : Union) (effect : Effect) : Union :=
  match effect.target with
  | .defenseLevelUp _ | .soliderLevelUp _ | .soliderAttrAdd _ _ => union
  -- The second method of this name, for the soldiers, replaces the one for the buildings.
  | .defenseAttrAdd soliderCfgId attr =>
      { union with soliders := attrReset soliderCfgId attr union.soliders }
  | .resLimit res =>
      { union with limitAdd := Function.update union.limitAdd res 0 }
  | .soliderSpaceAdd => { union with soliderSpaceAdd := 0 }

def apply (union : Union) (effect : Effect) : Union :=
  match effect.target with
  | .defenseLevelUp buildCfgId =>
      { union with builds := levelUp buildCfgId effect.effectValue union.builds }
  | .defenseAttrAdd buildCfgId attr =>
      { union with builds := attrAdd buildCfgId attr effect.effectValue union.builds }
  | .soliderLevelUp soliderCfgId =>
      { union with soliders := levelUp soliderCfgId effect.effectValue union.soliders }
  | .soliderAttrAdd soliderCfgId attr =>
      { union with soliders := attrAdd soliderCfgId attr effect.effectValue union.soliders }
  | .resLimit res =>
      { union with
        limitAdd := Function.update union.limitAdd res (union.limitAdd res + effect.effectValue) }
  | .soliderSpaceAdd => { union with soliderSpaceAdd := effect.effectValue }

end Effect

/-- The order in which a table of effects is iterated. -/
structure Iteration where
  visit : List Effect → List Effect
  perm : ∀ effects, (visit effects).Perm effects

/-- The orders of one call of `initTechEffects`. -/
structure Orders where
  reset : EffectType → Iteration
  apply : EffectType → Iteration

namespace TechCfgs

variable (cfgs : TechCfgs)

/-- The effects of a level of a technology; the last one of an effect counts. -/
def effectsAt (key : TechKey) : List Effect :=
  match cfgs.techs.get key with
  | none => []
  | some row =>
      (Dict.ofEntries Prod.fst Prod.snd row.techEffects).objects.filterMap fun entry =>
        (cfgs.effects.get entry.1).map fun effectCfg => ⟨effectCfg.target, entry.2⟩

def current (techs : Keyed UnionTech.cfgId) : List Effect :=
  techs.objects.flatMap fun tech => cfgs.effectsAt ⟨tech.cfgId, tech.level⟩

/-- The effects that a manager collects for a type. -/
def targetEffects (techs : Keyed UnionTech.cfgId) (effectType : EffectType) : List Effect :=
  (cfgs.current techs).filter fun effect => effect.target.effectType = effectType

def resetEffect (order : Iteration) (union : Union) (effectType : EffectType) : Union :=
  (order.visit (cfgs.targetEffects union.techs effectType)).foldl Effect.resetEffect union

def apply (order : Iteration) (union : Union) (effectType : EffectType) : Union :=
  (order.visit (cfgs.targetEffects union.techs effectType)).foldl Effect.apply union

end TechCfgs

/-- The types in the order of `initTechEffects`. -/
def effectTypes : List EffectType :=
  [.defenseLevelUp, .defenseAttrAdd, .soliderLevelUp, .soliderAttrAdd, .resLimit, .soliderSpaceAdd]

namespace Union

variable (cfgs : TechCfgs)

def initTechEffects (orders : Orders) (union : Union) : Union :=
  let union := effectTypes.foldl (fun union effectType =>
    cfgs.resetEffect (orders.reset effectType) union effectType) union
  effectTypes.foldl (fun union effectType =>
    cfgs.apply (orders.apply effectType) union effectType) union

def isEnoughPresetTechs (presetTechs : List (ℕ × ℕ)) (techs : Keyed UnionTech.cfgId) : Bool :=
  presetTechs.all fun preset => (techs.get preset.1).any fun tech => preset.2 ≤ tech.level

def refreshUnlockTechs (union : Union) : Union :=
  { union with
    techs := cfgs.techs.objects.foldl (fun techs row =>
      if 0 < row.key.cfgId ∧ row.key.level = 0 ∧ techs.get row.key.cfgId = none ∧
          isEnoughPresetTechs row.presetTechs techs then
        techs.set ⟨row.key.cfgId, row.key.level⟩
      else techs) union.techs }

/-- The first part of `doRefresh`. -/
def addInitTechs (union : Union) : Union :=
  { union with
    techs := cfgs.initTechs.foldl (fun techs init =>
      if techs.get init.cfgId = none then techs.set ⟨init.cfgId, init.level⟩ else techs)
      union.techs }

def levelUpTech (cfgId : ℕ) (union : Union) : Union :=
  match union.techs.get cfgId with
  | none => union
  | some tech => { union with techs := union.techs.set ⟨cfgId, tech.level + 1⟩ }

/-- `matchSeasonEndHandle` takes the units and the technologies. -/
def cleared (union : Union) : Union :=
  { union with soliders := Keyed.empty, builds := Keyed.empty, techs := Keyed.empty }

def new : Union := ⟨Keyed.empty, Keyed.empty, Keyed.empty, fun _ => 0, 0⟩

end Union

/-- What calls `initTechEffects`, with the orders of the call. -/
inductive Event
  | initTechEffects (orders : Orders)
  /-- `UnionTech:checkLevelUp` when the time has come. -/
  | checkLevelUp (cfgId : ℕ) (orders : Orders)
  | doRefresh (orders : Orders)
  | matchSeasonEndHandle (orders : Orders)

namespace Event

def orders : Event → Orders
  | .initTechEffects orders | .checkLevelUp _ orders | .doRefresh orders
  | .matchSeasonEndHandle orders => orders

/-- The union when `initTechEffects` is called. -/
def prepare (cfgs : TechCfgs) (union : Union) : Event → Union
  | .initTechEffects _ => union
  | .checkLevelUp cfgId _ => (union.levelUpTech cfgId).refreshUnlockTechs cfgs
  | .doRefresh _ => (union.addInitTechs cfgs).refreshUnlockTechs cfgs
  | .matchSeasonEndHandle _ => (union.cleared.addInitTechs cfgs).refreshUnlockTechs cfgs

end Event

def machine (cfgs : TechCfgs) : Machine Union Event Empty where
  step union event := ((event.prepare cfgs union).initTechEffects cfgs event.orders, [])

/-! ## Bonuses that the technologies give -/

inductive Side
  | build
  | solider
  deriving DecidableEq

def Union.units (union : Union) : Side → Keyed UnionUnit.cfgId
  | .build => union.builds
  | .solider => union.soliders

namespace Effect

def gives (side : Side) (effect : Effect) : Option (ℕ × ℚ) :=
  match side, effect.target with
  | .build, .defenseLevelUp target | .solider, .soliderLevelUp target =>
      some (target, effect.effectValue)
  | _, _ => none

def adds (side : Side) (effect : Effect) : Option (ℕ × Attr) :=
  match side, effect.target with
  | .build, .defenseAttrAdd target attr | .solider, .soliderAttrAdd target attr =>
      some (target, attr)
  | _, _ => none

/-- How much an effect adds to an attribute of a unit. -/
def bonus (side : Side) (cfgId : ℕ) (attr : Attr) (effect : Effect) : ℚ :=
  match effect.adds side with
  | some (target, other) => if other = attr ∧ aims target cfgId then effect.effectValue else 0
  | none => 0

def limitBonus (res : LimitRes) (effect : Effect) : ℚ :=
  if effect.target = .resLimit res then effect.effectValue else 0

end Effect

/-- The attributes of all units, the levels that the technologies give, the limits and the space are
those of the current levels of the technologies. -/
structure Right (cfgs : TechCfgs) (union : Union) : Prop where
  attrs : ∀ side, ∀ unit ∈ (union.units side).objects, ∀ attr,
    unit.attr attr = ((cfgs.current union.techs).map (Effect.bonus side unit.cfgId attr)).sum
  levels : ∀ side, ∀ unit ∈ (union.units side).objects, ∀ effect ∈ cfgs.current union.techs,
    ∀ given ∈ effect.gives side, given.1 = unit.cfgId → unit.level = given.2
  limits : ∀ res, union.limitAdd res =
    ((cfgs.current union.techs).map (Effect.limitBonus res)).sum
  space : ∀ effect ∈ cfgs.current union.techs, effect.target = .soliderSpaceAdd →
    union.soliderSpaceAdd = effect.effectValue
  noSpace : (∀ effect ∈ cfgs.current union.techs, effect.target ≠ .soliderSpaceAdd) →
    union.soliderSpaceAdd = 0

/-- The targets that are set and not added to. -/
def Target.sets : Target → Bool
  | .defenseLevelUp _ | .soliderLevelUp _ | .soliderSpaceAdd => true
  | _ => false

/-- Nothing that the call does not reset is left from the one before, and effects that set the same
value agree. -/
structure Clean (cfgs : TechCfgs) (union : Union) : Prop where
  builds : ∀ build ∈ union.builds.objects, ∀ attr, build.attr attr = 0
  soliders : ∀ solider ∈ union.soliders.objects, ∀ attr, solider.attr attr = 0 ∨
    ∃ effect ∈ cfgs.current union.techs, ∃ target ∈ effect.adds .build,
      target.2 = attr ∧ aims target.1 solider.cfgId
  limits : ∀ res, union.limitAdd res = 0 ∨
    ∃ effect ∈ cfgs.current union.techs, effect.target = .resLimit res
  space : union.soliderSpaceAdd = 0 ∨
    ∃ effect ∈ cfgs.current union.techs, effect.target = .soliderSpaceAdd
  agree : ∀ first ∈ cfgs.current union.techs, ∀ second ∈ cfgs.current union.techs,
    first.target = second.target → first.target.sets = true →
      first.effectValue = second.effectValue

instance (cfgs : TechCfgs) (union : Union) : Decidable (Clean cfgs union) :=
  decidable_of_iff
    ((∀ build ∈ union.builds.objects, ∀ attr, build.attr attr = 0) ∧
      (∀ solider ∈ union.soliders.objects, ∀ attr, solider.attr attr = 0 ∨
        ∃ effect ∈ cfgs.current union.techs, ∃ target ∈ effect.adds .build,
          target.2 = attr ∧ aims target.1 solider.cfgId) ∧
      (∀ res, union.limitAdd res = 0 ∨
        ∃ effect ∈ cfgs.current union.techs, effect.target = .resLimit res) ∧
      (union.soliderSpaceAdd = 0 ∨
        ∃ effect ∈ cfgs.current union.techs, effect.target = .soliderSpaceAdd) ∧
      ∀ first ∈ cfgs.current union.techs, ∀ second ∈ cfgs.current union.techs,
        first.target = second.target → first.target.sets = true →
          first.effectValue = second.effectValue)
    ⟨fun ⟨builds, soliders, limits, space, agree⟩ => ⟨builds, soliders, limits, space, agree⟩,
      fun ⟨builds, soliders, limits, space, agree⟩ => ⟨builds, soliders, limits, space, agree⟩⟩

/-- The condition of a call of `initTechEffects`. -/
def Allowed (cfgs : TechCfgs) (union : Union) (event : Event) : Prop :=
  Clean cfgs (event.prepare cfgs union)
  deriving Decidable

/-! ## One call of `initTechEffects` -/

section Passes

variable {cfgs : TechCfgs} {union : Union} {orders : Orders}

def passes (visits : EffectType → Iteration) (effects : List Effect) : List Effect :=
  effectTypes.flatMap fun effectType =>
    (visits effectType).visit (effects.filter fun effect => effect.target.effectType = effectType)

theorem mem_visit {order : Iteration} {effects : List Effect} {effectType : EffectType}
    {effect : Effect} :
    effect ∈ order.visit (effects.filter fun effect => effect.target.effectType = effectType) ↔
      effect ∈ effects ∧ effect.target.effectType = effectType := by
  rw [(order.perm _).mem_iff, List.mem_filter, decide_eq_true_eq]

theorem passes_perm (visits : EffectType → Iteration) (effects : List Effect) :
    (passes visits effects).Perm effects := by
  refine List.perm_iff_count.mpr fun effect => ?_
  have count_visit : ∀ effectType,
      ((visits effectType).visit
        (effects.filter fun effect => effect.target.effectType = effectType)).count effect =
      if effect.target.effectType = effectType then effects.count effect else 0 := by
    intro effectType
    rw [((visits effectType).perm _).count_eq]
    split
    next same => rw [List.count_filter (by simpa using same)]
    next different =>
      rw [List.count_eq_zero, List.mem_filter, decide_eq_true_eq]
      exact fun both => different both.2
  simp only [passes, effectTypes, List.flatMap_cons, List.flatMap_nil, List.append_nil,
    List.count_append, count_visit]
  cases effect.target.effectType <;> simp

theorem resetEffect_techs (union : Union) (effect : Effect) :
    (effect.resetEffect union).techs = union.techs := by
  unfold Effect.resetEffect
  split <;> rfl

theorem apply_techs (union : Union) (effect : Effect) :
    (effect.apply union).techs = union.techs := by
  unfold Effect.apply
  split <;> rfl

theorem foldl_techs {act : Union → Effect → Union}
    (same : ∀ union effect, (act union effect).techs = union.techs) (effects : List Effect)
    (union : Union) : (effects.foldl act union).techs = union.techs := by
  induction effects generalizing union with
  | nil => rfl
  | cons effect effects ih => exact (ih _).trans (same union effect)

theorem foldl_passes (cfgs : TechCfgs) {act : Union → Effect → Union}
    (same : ∀ union effect, (act union effect).techs = union.techs)
    (visits : EffectType → Iteration) (union : Union) :
    effectTypes.foldl (fun union effectType =>
        ((visits effectType).visit (cfgs.targetEffects union.techs effectType)).foldl act union)
      union =
      (passes visits (cfgs.current union.techs)).foldl act union := by
  unfold passes
  generalize effectTypes = types
  suffices all : ∀ start : Union, start.techs = union.techs →
      types.foldl (fun union effectType =>
          ((visits effectType).visit (cfgs.targetEffects union.techs effectType)).foldl act union)
        start =
      (types.flatMap fun effectType => (visits effectType).visit
        ((cfgs.current union.techs).filter fun effect =>
          effect.target.effectType = effectType)).foldl act start from all union rfl
  induction types with
  | nil => exact fun _ _ => rfl
  | cons effectType types ih =>
      intro start techs_eq
      rw [List.foldl_cons, List.flatMap_cons, List.foldl_append, techs_eq]
      exact ih _ ((foldl_techs same _ start).trans techs_eq)

theorem initTechEffects_eq (cfgs : TechCfgs) (orders : Orders) (union : Union) :
    union.initTechEffects cfgs orders =
      (passes orders.apply (cfgs.current union.techs)).foldl Effect.apply
        ((passes orders.reset (cfgs.current union.techs)).foldl Effect.resetEffect union) := by
  have resets := foldl_passes cfgs resetEffect_techs orders.reset union
  have applies := foldl_passes cfgs apply_techs orders.apply
    ((passes orders.reset (cfgs.current union.techs)).foldl Effect.resetEffect union)
  rw [foldl_techs resetEffect_techs] at applies
  unfold Union.initTechEffects TechCfgs.resetEffect TechCfgs.apply
  rw [resets]
  exact applies

theorem initTechEffects_techs (cfgs : TechCfgs) (orders : Orders) (union : Union) :
    (union.initTechEffects cfgs orders).techs = union.techs := by
  rw [initTechEffects_eq, foldl_techs apply_techs, foldl_techs resetEffect_techs]

theorem foldl_resets (value : Union → ℚ) (Resets : Effect → Prop) [DecidablePred Resets]
    (one : ∀ union effect, value (effect.resetEffect union) =
      if Resets effect then 0 else value union) (effects : List Effect) (union : Union) :
    value (effects.foldl Effect.resetEffect union) =
      if ∃ effect ∈ effects, Resets effect then 0 else value union := by
  induction effects generalizing union with
  | nil => simp
  | cons effect effects ih =>
      rw [List.foldl_cons, ih, one]
      by_cases here : Resets effect
      · simp [here]
      · simp [here]

theorem limitAdd_resets (res : LimitRes) (effects : List Effect) (union : Union) :
    (effects.foldl Effect.resetEffect union).limitAdd res =
      if ∃ effect ∈ effects, effect.target = .resLimit res then 0 else union.limitAdd res := by
  have one (union : Union) (effect : Effect) : (effect.resetEffect union).limitAdd res =
      if effect.target = .resLimit res then 0 else union.limitAdd res := by
    obtain ⟨target, effectValue⟩ := effect
    cases target with
    | resLimit other => simp [Effect.resetEffect, Function.update_apply, eq_comm]
    | _ => simp [Effect.resetEffect]
  exact foldl_resets (Union.limitAdd · res) (Effect.target · = .resLimit res) one effects union

theorem limitAdd_applies (res : LimitRes) (effects : List Effect) (union : Union) :
    (effects.foldl Effect.apply union).limitAdd res =
      union.limitAdd res + (effects.map (Effect.limitBonus res)).sum := by
  induction effects generalizing union with
  | nil => exact (add_zero _).symm
  | cons effect effects ih =>
      have one : (effect.apply union).limitAdd res =
          union.limitAdd res + effect.limitBonus res := by
        obtain ⟨target, effectValue⟩ := effect
        cases target with
        | resLimit other =>
            by_cases same : other = res
            · simp [Effect.apply, Effect.limitBonus, same]
            · simp [Effect.apply, Effect.limitBonus, same, Ne.symm same]
        | _ => simp [Effect.apply, Effect.limitBonus]
      rw [List.foldl_cons, ih, one, List.map_cons, List.sum_cons, add_assoc]

theorem limitAdd_init (cfgs : TechCfgs) (orders : Orders) (union : Union) (res : LimitRes) :
    (union.initTechEffects cfgs orders).limitAdd res =
      (if ∃ effect ∈ cfgs.current union.techs, effect.target = .resLimit res then 0
        else union.limitAdd res) +
      ((cfgs.current union.techs).map (Effect.limitBonus res)).sum := by
  rw [initTechEffects_eq, limitAdd_applies, limitAdd_resets,
    ((passes_perm orders.apply _).map _).sum_eq]
  simp only [(passes_perm orders.reset _).mem_iff]

theorem space_resets (effects : List Effect) (union : Union) :
    (effects.foldl Effect.resetEffect union).soliderSpaceAdd =
      if ∃ effect ∈ effects, effect.target = .soliderSpaceAdd then 0
      else union.soliderSpaceAdd := by
  have one (union : Union) (effect : Effect) : (effect.resetEffect union).soliderSpaceAdd =
      if effect.target = .soliderSpaceAdd then 0 else union.soliderSpaceAdd := by
    obtain ⟨target, effectValue⟩ := effect
    cases target <;> simp [Effect.resetEffect]
  exact foldl_resets Union.soliderSpaceAdd (Effect.target · = .soliderSpaceAdd) one effects union

theorem space_applies (effects : List Effect) (union : Union) :
    (∃ effect ∈ effects, effect.target = .soliderSpaceAdd ∧
      (effects.foldl Effect.apply union).soliderSpaceAdd = effect.effectValue) ∨
    (∀ effect ∈ effects, effect.target ≠ .soliderSpaceAdd) ∧
      (effects.foldl Effect.apply union).soliderSpaceAdd = union.soliderSpaceAdd := by
  induction effects generalizing union with
  | nil => exact .inr ⟨fun _ mem => absurd mem List.not_mem_nil, rfl⟩
  | cons effect effects ih =>
      obtain ⟨later, later_mem, target_eq, space_eq⟩ | ⟨none, space_eq⟩ := ih (effect.apply union)
      · exact .inl ⟨later, List.mem_cons_of_mem _ later_mem, target_eq, space_eq⟩
      · by_cases same : effect.target = .soliderSpaceAdd
        · refine .inl ⟨effect, List.mem_cons_self, same, space_eq.trans ?_⟩
          rw [Effect.apply, same]
        · refine .inr ⟨fun other other_mem => ?_, space_eq.trans ?_⟩
          · obtain rfl | rest := List.mem_cons.mp other_mem
            · exact same
            · exact none other rest
          · obtain ⟨target, effectValue⟩ := effect
            cases target <;> first | rfl | exact absurd rfl same

theorem space_init (cfgs : TechCfgs) (orders : Orders) (union : Union) :
    (∃ effect ∈ cfgs.current union.techs, effect.target = .soliderSpaceAdd ∧
      (union.initTechEffects cfgs orders).soliderSpaceAdd = effect.effectValue) ∨
    (∀ effect ∈ cfgs.current union.techs, effect.target ≠ .soliderSpaceAdd) ∧
      (union.initTechEffects cfgs orders).soliderSpaceAdd = union.soliderSpaceAdd := by
  rw [initTechEffects_eq]
  obtain ⟨effect, effect_mem, target_eq, space_eq⟩ | ⟨none, space_eq⟩ := space_applies
    (passes orders.apply (cfgs.current union.techs))
    ((passes orders.reset (cfgs.current union.techs)).foldl Effect.resetEffect union)
  · exact .inl ⟨effect, (passes_perm _ _).mem_iff.mp effect_mem, target_eq, space_eq⟩
  · have none_current : ∀ effect ∈ cfgs.current union.techs, effect.target ≠ .soliderSpaceAdd :=
      fun effect effect_mem => none effect ((passes_perm _ _).mem_iff.mpr effect_mem)
    refine .inr ⟨none_current, space_eq.trans ?_⟩
    rw [space_resets, if_neg]
    rintro ⟨effect, effect_mem, target_eq⟩
    exact none_current effect ((passes_perm _ _).mem_iff.mp effect_mem) target_eq

end Passes

namespace Effect

/-- What `resetEffect` does to a unit. -/
def resetUnit (side : Side) (effect : Effect) (unit : UnionUnit) : UnionUnit :=
  match side, effect.target with
  | .solider, .defenseAttrAdd target attr => unit.resetAttr target attr
  | _, _ => unit

def addUnit (side : Side) (effect : Effect) (unit : UnionUnit) : UnionUnit :=
  match effect.adds side with
  | some (target, attr) => unit.addAttr target attr effect.effectValue
  | none => unit

/-- A unit of the table after a level was given. -/
def giveLevel (side : Side) (name : ℕ) (old : Option UnionUnit) (effect : Effect) :
    Option UnionUnit :=
  match effect.gives side with
  | none => old
  | some (target, level) =>
      if target = name then
        some (old.elim (.unlocked name level) fun unit => { unit with level })
      else old

/-- The soldiers' attribute that `resetEffect` clears. -/
def Resets (side : Side) (cfgId : ℕ) (attr : Attr) (effect : Effect) : Prop :=
  side = .solider ∧ ∃ target ∈ effect.adds .build, target.2 = attr ∧ aims target.1 cfgId
  deriving Decidable

end Effect

section Units

variable {cfgs : TechCfgs} {union : Union} {side : Side} {name : ℕ}

theorem units_resetEffect (union : Union) (side : Side) (effect : Effect) :
    ((effect.resetEffect union).units side).objects =
      (union.units side).objects.map (effect.resetUnit side) := by
  obtain ⟨target, effectValue⟩ := effect
  cases side <;> cases target <;> first | rfl | exact (List.map_id _).symm

variable {effect : Effect}

theorem units_apply_add (union : Union) (gives_none : effect.gives side = none) :
    ((effect.apply union).units side).objects =
      (union.units side).objects.map (effect.addUnit side) := by
  obtain ⟨target, effectValue⟩ := effect
  cases side <;> cases target <;>
    first | rfl | exact (List.map_id _).symm | exact nomatch gives_none

theorem units_apply_give (union : Union) {given : ℕ × ℚ} (gives : effect.gives side = some given) :
    (effect.apply union).units side = levelUp given.1 given.2 (union.units side) := by
  obtain ⟨target, effectValue⟩ := effect
  cases side <;> cases target <;> cases gives <;> rfl

theorem units_foldl_reset (effects : List Effect) (union : Union) (side : Side) :
    ((effects.foldl Effect.resetEffect union).units side).objects =
      (union.units side).objects.map fun unit =>
        effects.foldl (fun unit effect => effect.resetUnit side unit) unit := by
  induction effects generalizing union with
  | nil => exact (List.map_id _).symm
  | cons effect effects ih =>
      rw [List.foldl_cons, ih, units_resetEffect, List.map_map]
      rfl

theorem units_foldl_add (effects : List Effect) (union : Union)
    (gives_none : ∀ effect ∈ effects, effect.gives side = none) :
    ((effects.foldl Effect.apply union).units side).objects =
      (union.units side).objects.map fun unit =>
        effects.foldl (fun unit effect => effect.addUnit side unit) unit := by
  induction effects generalizing union with
  | nil => exact (List.map_id _).symm
  | cons effect effects ih =>
      rw [List.foldl_cons, ih _ fun other mem => gives_none other (List.mem_cons_of_mem _ mem),
        units_apply_add union (gives_none effect List.mem_cons_self), List.map_map]
      rfl

theorem get_levelUp {target : ℕ} (named : target ≠ 0) (level : ℚ)
    (units : Keyed UnionUnit.cfgId) (name : ℕ) :
    (levelUp target level units).get name =
      if target = name then
        some ((units.get name).elim (.unlocked name level) fun unit => { unit with level })
      else units.get name := by
  unfold levelUp
  split
  next absent =>
    rw [Keyed.get_set]
    change (if name = target then some (.unlocked target level) else units.get name) = _
    by_cases same : target = name
    · subst same
      rw [if_pos rfl, if_pos rfl, absent]
      rfl
    · rw [if_neg (Ne.symm same), if_neg same]
  next other found =>
    rw [Keyed.get_map]
    by_cases same : target = name
    · subst same
      have aimed : aims target other.cfgId := .inr (Keyed.get_mem found).2
      rw [if_pos rfl, found, Option.map_some, UnionUnit.setLevel, if_pos aimed]
      rfl
    · rw [if_neg same]
      cases unit_found : units.get name with
      | none => rfl
      | some unit =>
          have unaimed : ¬ aims target unit.cfgId := by
            rintro (zero | cfgId_eq)
            · exact named zero
            · exact same (cfgId_eq.symm.trans (Keyed.get_mem unit_found).2)
          rw [Option.map_some, UnionUnit.setLevel, if_neg unaimed]

theorem get_foldl_give (effects : List Effect) (union : Union) (name : ℕ)
    (adds_none : ∀ effect ∈ effects, effect.adds side = none)
    (named : ∀ effect ∈ effects, ∀ given ∈ effect.gives side, given.1 ≠ 0) :
    ((effects.foldl Effect.apply union).units side).get name =
      effects.foldl (Effect.giveLevel side name) ((union.units side).get name) := by
  induction effects generalizing union with
  | nil => rfl
  | cons effect effects ih =>
      rw [List.foldl_cons, List.foldl_cons,
        ih _ (fun other mem => adds_none other (List.mem_cons_of_mem _ mem))
          fun other mem => named other (List.mem_cons_of_mem _ mem)]
      congr 1
      unfold Effect.giveLevel
      cases gives : effect.gives side with
      | none =>
          have same : (effect.apply union).units side = union.units side := by
            refine Keyed.ext ((units_apply_add union gives).trans ?_)
            unfold Effect.addUnit
            rw [adds_none effect List.mem_cons_self]
            exact List.map_id _
          rw [same]
      | some given =>
          rw [units_apply_give union gives,
            get_levelUp (named effect List.mem_cons_self given gives)]

theorem adds_none_of_ne (build : effect.target.effectType ≠ .defenseAttrAdd)
    (solider : effect.target.effectType ≠ .soliderAttrAdd) : effect.adds side = none := by
  obtain ⟨target, effectValue⟩ := effect
  cases side <;> cases target <;>
    first | rfl | exact absurd rfl build | exact absurd rfl solider

theorem split_passes (visits : EffectType → Iteration) (effects : List Effect) (side : Side) :
    ∃ first rest, passes visits effects = first ++ rest ∧
      (∀ effect ∈ first, effect.adds side = none) ∧ ∀ effect ∈ rest, effect.gives side = none := by
  let visit (effectType : EffectType) := (visits effectType).visit
    (effects.filter fun effect => effect.target.effectType = effectType)
  have type_of (effectType : EffectType) : ∀ effect ∈ visit effectType,
      effect.target.effectType = effectType := fun effect mem => (mem_visit.mp mem).2
  cases side with
  | build =>
      refine ⟨visit .defenseLevelUp, (effectTypes.tail.flatMap visit), rfl, ?_, ?_⟩
      · intro effect effect_mem
        have type_eq := type_of _ effect effect_mem
        exact adds_none_of_ne (by rw [type_eq]; decide) (by rw [type_eq]; decide)
      · intro effect effect_mem
        obtain ⟨effectType, type_mem, visited⟩ := List.mem_flatMap.mp effect_mem
        obtain rfl := type_of _ effect visited
        obtain ⟨target, effectValue⟩ := effect
        cases target <;> first | rfl | simp [effectTypes, Target.effectType] at type_mem
  | solider =>
      refine ⟨visit .defenseLevelUp ++ visit .defenseAttrAdd ++ visit .soliderLevelUp,
        (effectTypes.drop 3).flatMap visit, ?_, ?_, ?_⟩
      · simp only [passes, effectTypes, List.drop_succ_cons, List.drop_zero, List.flatMap_cons,
          List.append_assoc, visit]
      · intro effect effect_mem
        simp only [List.mem_append] at effect_mem
        obtain ⟨target, effectValue⟩ := effect
        obtain (mem | mem) | mem := effect_mem <;>
          · have type_eq := type_of _ _ mem
            cases target <;> first | rfl | exact nomatch type_eq
      · intro effect effect_mem
        obtain ⟨effectType, type_mem, visited⟩ := List.mem_flatMap.mp effect_mem
        obtain rfl := type_of _ effect visited
        obtain ⟨target, effectValue⟩ := effect
        cases target <;> first | rfl | simp [effectTypes, Target.effectType] at type_mem

theorem addUnit_cfgId (effect : Effect) (unit : UnionUnit) :
    (effect.addUnit side unit).cfgId = unit.cfgId := by
  unfold Effect.addUnit
  split
  · exact UnionUnit.addAttr_cfgId _ _ _ _
  · rfl

theorem addUnit_level (effect : Effect) (unit : UnionUnit) :
    (effect.addUnit side unit).level = unit.level := by
  unfold Effect.addUnit UnionUnit.addAttr
  split
  · split <;> rfl
  · rfl

theorem addUnit_attr (effect : Effect) (unit : UnionUnit) (attr : Attr) :
    (effect.addUnit side unit).attr attr = unit.attr attr + effect.bonus side unit.cfgId attr := by
  unfold Effect.addUnit Effect.bonus UnionUnit.addAttr
  cases effect.adds side with
  | none => exact (add_zero _).symm
  | some target =>
      dsimp only
      by_cases aimed : aims target.1 unit.cfgId
      · rw [if_pos aimed]
        by_cases same : target.2 = attr
        · rw [if_pos ⟨same, aimed⟩, same]
          exact Function.update_self _ _ _
        · rw [if_neg fun both => same both.1, add_zero]
          exact Function.update_of_ne (Ne.symm same) _ _
      · rw [if_neg aimed, if_neg fun both => aimed both.2, add_zero]

theorem foldl_addUnit (side : Side) (effects : List Effect) (unit : UnionUnit) :
    (effects.foldl (fun unit effect => effect.addUnit side unit) unit).cfgId = unit.cfgId ∧
    (effects.foldl (fun unit effect => effect.addUnit side unit) unit).level = unit.level ∧
    ∀ attr, (effects.foldl (fun unit effect => effect.addUnit side unit) unit).attr attr =
      unit.attr attr + (effects.map (Effect.bonus side unit.cfgId attr)).sum := by
  induction effects generalizing unit with
  | nil => exact ⟨rfl, rfl, fun _ => (add_zero _).symm⟩
  | cons effect effects ih =>
      obtain ⟨cfgId_eq, level_eq, attr_eq⟩ := ih (effect.addUnit side unit)
      refine ⟨cfgId_eq.trans (addUnit_cfgId effect unit),
        level_eq.trans (addUnit_level effect unit), fun attr => ?_⟩
      rw [List.foldl_cons, attr_eq, addUnit_attr, addUnit_cfgId, List.map_cons, List.sum_cons,
        add_assoc]

theorem resetUnit_frame (side : Side) (effect : Effect) (unit : UnionUnit) :
    (effect.resetUnit side unit).cfgId = unit.cfgId ∧
      (effect.resetUnit side unit).level = unit.level := by
  unfold Effect.resetUnit UnionUnit.resetAttr
  split
  · split <;> exact ⟨rfl, rfl⟩
  · exact ⟨rfl, rfl⟩

theorem resetUnit_attr (effect : Effect) (unit : UnionUnit) (attr : Attr) :
    (effect.resetUnit side unit).attr attr =
      if effect.Resets side unit.cfgId attr then 0 else unit.attr attr := by
  obtain ⟨target, effectValue⟩ := effect
  cases side with
  | build =>
      rw [if_neg fun resets => nomatch resets.1]
      rfl
  | solider =>
      cases target with
      | defenseAttrAdd soliderCfgId other =>
          have resets_iff : (Effect.mk (.defenseAttrAdd soliderCfgId other) effectValue).Resets
              .solider unit.cfgId attr ↔ other = attr ∧ aims soliderCfgId unit.cfgId := by
            simp [Effect.Resets, Effect.adds]
          unfold Effect.resetUnit UnionUnit.resetAttr
          dsimp only
          by_cases aimed : aims soliderCfgId unit.cfgId
          · rw [if_pos aimed]
            by_cases same : other = attr
            · rw [if_pos (resets_iff.mpr ⟨same, aimed⟩), same]
              exact Function.update_self _ _ _
            · rw [if_neg fun resets => same (resets_iff.mp resets).1]
              exact Function.update_of_ne (Ne.symm same) _ _
          · rw [if_neg aimed, if_neg fun resets => aimed (resets_iff.mp resets).2]
      | defenseLevelUp | soliderLevelUp | soliderAttrAdd | resLimit | soliderSpaceAdd =>
          rw [if_neg]
          · rfl
          · rintro ⟨-, given, adds, -⟩
            exact nomatch adds

theorem foldl_resetUnit (side : Side) (effects : List Effect) (unit : UnionUnit) :
    (effects.foldl (fun unit effect => effect.resetUnit side unit) unit).cfgId = unit.cfgId ∧
    (effects.foldl (fun unit effect => effect.resetUnit side unit) unit).level = unit.level ∧
    ∀ attr, (effects.foldl (fun unit effect => effect.resetUnit side unit) unit).attr attr =
      if ∃ effect ∈ effects, effect.Resets side unit.cfgId attr then 0 else unit.attr attr := by
  induction effects generalizing unit with
  | nil => exact ⟨rfl, rfl, fun attr => by simp⟩
  | cons effect effects ih =>
      obtain ⟨cfgId_eq, level_eq, attr_eq⟩ := ih (effect.resetUnit side unit)
      obtain ⟨frame_cfgId, frame_level⟩ := resetUnit_frame side effect unit
      refine ⟨cfgId_eq.trans frame_cfgId, level_eq.trans frame_level, fun attr => ?_⟩
      rw [List.foldl_cons, attr_eq, resetUnit_attr, frame_cfgId]
      simp only [List.mem_cons, exists_eq_or_imp]
      by_cases here : effect.Resets side unit.cfgId attr
      · simp [here]
      · simp [here]

/-- What a loop that gives levels leaves of a unit. -/
theorem foldl_giveLevel (effects : List Effect) (old : Option UnionUnit)
    (old_name : ∀ unit ∈ old, unit.cfgId = name) {unit : UnionUnit}
    (found : effects.foldl (Effect.giveLevel side name) old = some unit) :
    unit.cfgId = name ∧ unit.attr = old.elim (fun _ => 0) UnionUnit.attr ∧
      ((∃ effect ∈ effects, ∃ given ∈ effect.gives side,
          given.1 = name ∧ unit.level = given.2) ∨
        (∀ effect ∈ effects, ∀ given ∈ effect.gives side, given.1 ≠ name) ∧ old = some unit) := by
  induction effects generalizing old with
  | nil =>
      obtain rfl : old = some unit := found
      exact ⟨old_name unit rfl, rfl, .inr ⟨fun _ mem => absurd mem List.not_mem_nil, rfl⟩⟩
  | cons effect effects ih =>
      have next_name : ∀ unit ∈ Effect.giveLevel side name old effect, unit.cfgId = name := by
        intro unit unit_found
        unfold Effect.giveLevel at unit_found
        split at unit_found
        · exact old_name unit unit_found
        · split at unit_found
          · obtain rfl := Option.some.inj unit_found
            cases old with
            | none => rfl
            | some other => exact old_name other rfl
          · exact old_name unit unit_found
      have next_attr : (Effect.giveLevel side name old effect).elim (fun _ => 0) UnionUnit.attr =
          old.elim (fun _ => 0) UnionUnit.attr := by
        unfold Effect.giveLevel
        split
        · rfl
        · split
          · cases old <;> rfl
          · rfl
      obtain ⟨cfgId_eq, attr_eq, given | ⟨later, unit_eq⟩⟩ := ih _ next_name found
      · obtain ⟨other, other_mem, level_given⟩ := given
        exact ⟨cfgId_eq, attr_eq.trans next_attr,
          .inl ⟨other, List.mem_cons_of_mem _ other_mem, level_given⟩⟩
      · refine ⟨cfgId_eq, attr_eq.trans next_attr, ?_⟩
        unfold Effect.giveLevel at unit_eq
        split at unit_eq
        next gives_none =>
          refine .inr ⟨fun other other_mem given gives => ?_, unit_eq⟩
          obtain rfl | rest := List.mem_cons.mp other_mem
          · exact nomatch gives_none.symm.trans gives
          · exact later other rest given gives
        next target level gives =>
          by_cases same : target = name
          · rw [if_pos same] at unit_eq
            refine .inl ⟨effect, List.mem_cons_self, (target, level), gives, same, ?_⟩
            obtain rfl := Option.some.inj unit_eq
            cases old <;> rfl
          · rw [if_neg same] at unit_eq
            refine .inr ⟨fun other other_mem given other_gives => ?_, unit_eq⟩
            obtain rfl | rest := List.mem_cons.mp other_mem
            · obtain rfl := Option.some.inj (gives.symm.trans other_gives)
              exact same
            · exact later other rest given other_gives

theorem isSome_foldl_giveLevel (effects : List Effect) (old : Option UnionUnit) :
    (effects.foldl (Effect.giveLevel side name) old).isSome = true ↔
      old.isSome = true ∨ ∃ effect ∈ effects, ∃ given ∈ effect.gives side, given.1 = name := by
  induction effects generalizing old with
  | nil => simp
  | cons effect effects ih =>
      have here : (Effect.giveLevel side name old effect).isSome = true ↔
          old.isSome = true ∨ ∃ given ∈ effect.gives side, given.1 = name := by
        unfold Effect.giveLevel
        cases effect.gives side with
        | none => simp
        | some given =>
            dsimp only
            by_cases same : given.1 = name
            · simp [same]
            · simp [same]
      rw [List.foldl_cons, ih, here]
      simp only [List.mem_cons, exists_eq_or_imp, or_assoc]

theorem current_named (cfgs : TechCfgs) (techs : Keyed UnionTech.cfgId) (side : Side) :
    ∀ effect ∈ cfgs.current techs, ∀ given ∈ effect.gives side, given.1 ≠ 0 := by
  intro effect effect_mem given gives
  obtain ⟨tech, -, effect_mem⟩ := List.mem_flatMap.mp effect_mem
  unfold TechCfgs.effectsAt at effect_mem
  split at effect_mem
  · exact absurd effect_mem List.not_mem_nil
  · obtain ⟨entry, -, built⟩ := List.mem_filterMap.mp effect_mem
    obtain ⟨effectCfg, found, rfl⟩ := Option.map_eq_some_iff.mp built
    obtain ⟨not_build, not_solider⟩ := cfgs.named effectCfg (Keyed.get_mem found).1
    rintro zero
    generalize effectCfg.target = target at *
    obtain ⟨cfgId, level⟩ := given
    obtain rfl : cfgId = 0 := zero
    cases side <;> cases target <;> cases gives <;> contradiction

theorem get_init (cfgs : TechCfgs) (orders : Orders) (union : Union) (side : Side) :
    ∃ first rest : List Effect, (first ++ rest).Perm (cfgs.current union.techs) ∧
      (∀ effect ∈ first, effect.adds side = none) ∧ (∀ effect ∈ rest, effect.gives side = none) ∧
      ∀ name, ((union.initTechEffects cfgs orders).units side).get name =
        (first.foldl (Effect.giveLevel side name) (((union.units side).get name).map fun unit =>
            (passes orders.reset (cfgs.current union.techs)).foldl
              (fun unit effect => effect.resetUnit side unit) unit)).map fun unit =>
          rest.foldl (fun unit effect => effect.addUnit side unit) unit := by
  obtain ⟨first, rest, passes_eq, adds_none, gives_none⟩ :=
    split_passes orders.apply (cfgs.current union.techs) side
  have perm := passes_perm orders.apply (cfgs.current union.techs)
  rw [passes_eq] at perm
  refine ⟨first, rest, perm, adds_none, gives_none, fun name => ?_⟩
  let resets := passes orders.reset (cfgs.current union.techs)
  have named : ∀ effect ∈ first, ∀ given ∈ effect.gives side, given.1 ≠ 0 := fun effect mem =>
    current_named cfgs union.techs side effect (perm.mem_iff.mp (List.mem_append_left _ mem))
  have reset_eq : (resets.foldl Effect.resetEffect union).units side =
      (union.units side).map _ fun unit => (foldl_resetUnit side resets unit).1 :=
    Keyed.ext (units_foldl_reset resets union side)
  have added_eq : ((rest.foldl Effect.apply
        (first.foldl Effect.apply (resets.foldl Effect.resetEffect union))).units side) =
      ((first.foldl Effect.apply (resets.foldl Effect.resetEffect union)).units side).map _
        fun unit => (foldl_addUnit side rest unit).1 :=
    Keyed.ext (units_foldl_add rest _ gives_none)
  rw [initTechEffects_eq, passes_eq, List.foldl_append, added_eq, Keyed.get_map,
    get_foldl_give first _ name adds_none named, reset_eq, Keyed.get_map]

/-- The attribute of a unit that a call starts from. -/
def base (cfgs : TechCfgs) (union : Union) (side : Side) (name : ℕ) (attr : Attr) : ℚ :=
  ((union.units side).get name).elim 0 fun old =>
    if ∃ effect ∈ cfgs.current union.techs, effect.Resets side name attr then 0 else old.attr attr

/-- A unit after a call: its attributes, and its level. -/
theorem unit_init {orders : Orders} {unit : UnionUnit}
    (unit_mem : unit ∈ ((union.initTechEffects cfgs orders).units side).objects) :
    (∀ attr, unit.attr attr = base cfgs union side unit.cfgId attr +
      ((cfgs.current union.techs).map (Effect.bonus side unit.cfgId attr)).sum) ∧
    ((∃ effect ∈ cfgs.current union.techs, ∃ given ∈ effect.gives side,
        given.1 = unit.cfgId ∧ unit.level = given.2) ∨
      (∀ effect ∈ cfgs.current union.techs, ∀ given ∈ effect.gives side,
          given.1 ≠ unit.cfgId) ∧
        ∃ old ∈ (union.units side).get unit.cfgId, unit.level = old.level) := by
  obtain ⟨first, rest, perm, adds_none, gives_none, get_eq⟩ := get_init cfgs orders union side
  have found := get_eq unit.cfgId
  rw [Keyed.get_of_mem unit_mem] at found
  obtain ⟨given, given_found, unit_eq⟩ := Option.map_eq_some_iff.mp found.symm
  have old_name : ∀ old ∈ ((union.units side).get unit.cfgId).map fun unit =>
      (passes orders.reset (cfgs.current union.techs)).foldl
        (fun unit effect => effect.resetUnit side unit) unit, old.cfgId = unit.cfgId := by
    intro old old_found
    obtain ⟨before, before_found, rfl⟩ := Option.map_eq_some_iff.mp old_found
    exact (foldl_resetUnit side _ before).1.trans (Keyed.get_mem before_found).2
  obtain ⟨given_name, given_attr, given_level⟩ := foldl_giveLevel first _ old_name given_found
  obtain ⟨-, added_level, added_attr⟩ := foldl_addUnit side rest given
  rw [unit_eq] at added_level added_attr
  have first_bonus : ∀ attr, (first.map (Effect.bonus side unit.cfgId attr)).sum = 0 := by
    intro attr
    refine List.sum_eq_zero fun value value_mem => ?_
    obtain ⟨effect, effect_mem, rfl⟩ := List.mem_map.mp value_mem
    rw [Effect.bonus, adds_none effect effect_mem]
  refine ⟨fun attr => ?_, ?_⟩
  · rw [added_attr, given_name, ← (perm.map _).sum_eq, List.map_append, List.sum_append,
      first_bonus, zero_add, given_attr]
    refine congrArg (· + _) ?_
    unfold base
    cases old_found : (union.units side).get unit.cfgId with
    | none => rfl
    | some old =>
        refine ((foldl_resetUnit side _ old).2.2 attr).trans ?_
        rw [(Keyed.get_mem old_found).2]
        simp only [(passes_perm orders.reset _).mem_iff]
        rfl
  · obtain ⟨effect, effect_mem, level, gives, name_eq, level_eq⟩ | ⟨unnamed, old_found⟩ :=
      given_level
    · exact .inl ⟨effect, perm.mem_iff.mp (List.mem_append_left _ effect_mem), level, gives,
        name_eq, added_level.trans level_eq⟩
    · refine .inr ⟨fun effect effect_mem level gives => ?_, ?_⟩
      · obtain in_first | in_rest := List.mem_append.mp (perm.mem_iff.mpr effect_mem)
        · exact unnamed effect in_first level gives
        · exact nomatch (gives_none effect in_rest).symm.trans gives
      · obtain ⟨before, before_found, rfl⟩ := Option.map_eq_some_iff.mp old_found
        exact ⟨before, before_found, added_level.trans (foldl_resetUnit side _ before).2.1⟩

theorem isSome_get_init (cfgs : TechCfgs) (orders : Orders) (union : Union) (side : Side)
    (name : ℕ) :
    (((union.initTechEffects cfgs orders).units side).get name).isSome = true ↔
      ((union.units side).get name).isSome = true ∨
        ∃ effect ∈ cfgs.current union.techs, ∃ given ∈ effect.gives side, given.1 = name := by
  obtain ⟨first, rest, perm, -, gives_none, get_eq⟩ := get_init cfgs orders union side
  rw [get_eq, Option.isSome_map, isSome_foldl_giveLevel, Option.isSome_map]
  refine or_congr_right ⟨fun ⟨effect, effect_mem, named⟩ =>
    ⟨effect, perm.mem_iff.mp (List.mem_append_left _ effect_mem), named⟩, ?_⟩
  rintro ⟨effect, effect_mem, given, gives, name_eq⟩
  obtain in_first | in_rest := List.mem_append.mp (perm.mem_iff.mpr effect_mem)
  · exact ⟨effect, in_first, given, gives, name_eq⟩
  · exact nomatch (gives_none effect in_rest).symm.trans gives

end Units

/-! ## When a call is right -/

section Calls

variable {cfgs : TechCfgs} {union : Union}

/-- The target of an effect that gives a unit a level. -/
def Target.levelOf (side : Side) (cfgId : ℕ) : Target :=
  match side with
  | .build => .defenseLevelUp cfgId
  | .solider => .soliderLevelUp cfgId

theorem gives_iff {effect : Effect} {side : Side} {given : ℕ × ℚ} :
    effect.gives side = some given ↔
      effect.target = .levelOf side given.1 ∧ effect.effectValue = given.2 := by
  obtain ⟨target, effectValue⟩ := effect
  obtain ⟨cfgId, level⟩ := given
  cases side <;> cases target <;> simp [Effect.gives, Target.levelOf]

theorem base_eq {side : Side} {unit : UnionUnit} (unit_mem : unit ∈ (union.units side).objects)
    (attr : Attr) : base cfgs union side unit.cfgId attr =
      if ∃ effect ∈ cfgs.current union.techs, effect.Resets side unit.cfgId attr then 0
      else unit.attr attr := by
  rw [base, Keyed.get_of_mem unit_mem, Option.elim_some]

theorem Clean.base_eq_zero (clean : Clean cfgs union) (side : Side) (name : ℕ) (attr : Attr) :
    base cfgs union side name attr = 0 := by
  cases found : (union.units side).get name with
  | none => rw [base, found, Option.elim_none]
  | some unit =>
      obtain ⟨unit_mem, rfl⟩ := Keyed.get_mem found
      rw [base_eq unit_mem]
      split
      · rfl
      next kept =>
        cases side with
        | build => exact clean.builds unit unit_mem attr
        | solider =>
            refine (clean.soliders unit unit_mem attr).resolve_right ?_
            rintro ⟨effect, effect_mem, resets⟩
            exact kept ⟨effect, effect_mem, rfl, resets⟩

theorem right_of_clean (orders : Orders) (clean : Clean cfgs union) :
    Right cfgs (union.initTechEffects cfgs orders) where
  attrs side unit unit_mem attr := by
    rw [(unit_init unit_mem).1 attr, clean.base_eq_zero, zero_add, initTechEffects_techs]
  levels side unit unit_mem effect effect_mem given gives name_eq := by
    rw [initTechEffects_techs] at effect_mem
    obtain ⟨other, other_mem, level, other_gives, other_name, level_eq⟩ | ⟨unnamed, -⟩ :=
      (unit_init unit_mem).2
    · obtain ⟨target_eq, value_eq⟩ := gives_iff.mp gives
      obtain ⟨other_target, other_value⟩ := gives_iff.mp other_gives
      have agree := clean.agree other other_mem effect effect_mem
        (by rw [other_target, target_eq, other_name, name_eq])
        (by rw [other_target]; cases side <;> rfl)
      rw [level_eq, ← other_value, agree, value_eq]
    · exact absurd name_eq (unnamed effect effect_mem given gives)
  limits res := by
    rw [limitAdd_init, initTechEffects_techs]
    split
    · exact zero_add _
    next none => rw [(clean.limits res).resolve_right none, zero_add]
  space effect effect_mem target_eq := by
    rw [initTechEffects_techs] at effect_mem
    obtain ⟨other, other_mem, other_target, space_eq⟩ | ⟨none, -⟩ := space_init cfgs orders union
    · rw [space_eq]
      exact clean.agree other other_mem effect effect_mem (other_target.trans target_eq.symm)
        (by rw [other_target]; rfl)
    · exact absurd target_eq (none effect effect_mem)
  noSpace none := by
    rw [initTechEffects_techs] at none
    obtain ⟨effect, effect_mem, target_eq, -⟩ | ⟨-, space_eq⟩ := space_init cfgs orders union
    · exact absurd target_eq (none effect effect_mem)
    · rw [space_eq]
      refine clean.space.resolve_right ?_
      rintro ⟨effect, effect_mem, target_eq⟩
      exact none effect effect_mem target_eq

theorem clean_of_right {orders : Orders} (right : Right cfgs (union.initTechEffects cfgs orders)) :
    Clean cfgs union := by
  have techs_eq := initTechEffects_techs cfgs orders union
  -- A unit of the union is there after the call, with what the call started from.
  have base_zero : ∀ side, ∀ unit ∈ (union.units side).objects, ∀ attr,
      base cfgs union side unit.cfgId attr = 0 := by
    intro side unit unit_mem attr
    have there := (isSome_get_init cfgs orders union side unit.cfgId).mpr
      (.inl (by rw [Keyed.get_of_mem unit_mem]; rfl))
    obtain ⟨after, after_found⟩ := Option.isSome_iff_exists.mp there
    obtain ⟨after_mem, name_eq⟩ := Keyed.get_mem after_found
    have attr_eq := (unit_init after_mem).1 attr
    rw [right.attrs side after after_mem attr, techs_eq, name_eq] at attr_eq
    exact left_eq_add.mp (attr_eq.trans (add_comm _ _))
  refine ⟨fun build build_mem attr => ?_, fun solider solider_mem attr => ?_, fun res => ?_, ?_,
    fun first first_mem second second_mem same sets => ?_⟩
  · have zero := base_zero .build build build_mem attr
    rwa [base_eq build_mem, if_neg] at zero
    rintro ⟨effect, -, side_eq, -⟩
    exact nomatch side_eq
  · have zero := base_zero .solider solider solider_mem attr
    rw [base_eq solider_mem] at zero
    split at zero
    next resets =>
      obtain ⟨effect, effect_mem, -, target⟩ := resets
      exact .inr ⟨effect, effect_mem, target⟩
    next => exact .inl zero
  · have limit_eq := limitAdd_init cfgs orders union res
    rw [right.limits res, techs_eq] at limit_eq
    have zero := left_eq_add.mp (limit_eq.trans (add_comm _ _))
    split at zero
    next aimed => exact .inr aimed
    next => exact .inl zero
  · obtain ⟨effect, effect_mem, target_eq, -⟩ | ⟨none, space_eq⟩ := space_init cfgs orders union
    · exact .inr ⟨effect, effect_mem, target_eq⟩
    · rw [← techs_eq] at none
      exact .inl (space_eq.symm.trans (right.noSpace none))
  · have unit_agree : ∀ side cfgId, first.target = .levelOf side cfgId →
        first.effectValue = second.effectValue := by
      intro side cfgId target_eq
      have first_gives : first.gives side = some (cfgId, first.effectValue) :=
        gives_iff.mpr ⟨target_eq, rfl⟩
      have second_gives : second.gives side = some (cfgId, second.effectValue) :=
        gives_iff.mpr ⟨same ▸ target_eq, rfl⟩
      have there := (isSome_get_init cfgs orders union side cfgId).mpr
        (.inr ⟨first, first_mem, _, first_gives, rfl⟩)
      obtain ⟨after, after_found⟩ := Option.isSome_iff_exists.mp there
      obtain ⟨after_mem, rfl⟩ := Keyed.get_mem after_found
      rw [← techs_eq] at first_mem second_mem
      exact (right.levels side after after_mem first first_mem _ first_gives rfl).symm.trans
        (right.levels side after after_mem second second_mem _ second_gives rfl)
    cases target_eq : first.target with
    | defenseLevelUp cfgId => exact unit_agree .build cfgId target_eq
    | soliderLevelUp cfgId => exact unit_agree .solider cfgId target_eq
    | soliderSpaceAdd =>
        rw [← techs_eq] at first_mem second_mem
        exact (right.space first first_mem target_eq).symm.trans
          (right.space second second_mem (same.symm.trans target_eq))
    | defenseAttrAdd | soliderAttrAdd | resLimit => exact nomatch (target_eq ▸ sets :)

/-- What a call makes of a union is right just when nothing is left and the effects agree. -/
theorem right_init_iff (orders : Orders) :
    Right cfgs (union.initTechEffects cfgs orders) ↔ Clean cfgs union :=
  ⟨clean_of_right, right_of_clean orders⟩

end Calls

section Twice

variable {cfgs : TechCfgs} {union : Union} {side : Side}

/-- Every unit that the technologies name is there. -/
def Unlocked (cfgs : TechCfgs) (union : Union) : Prop :=
  ∀ side, ∀ effect ∈ cfgs.current union.techs, ∀ given ∈ effect.gives side,
    ((union.units side).get given.1).isSome = true

theorem unlocked_init (cfgs : TechCfgs) (orders : Orders) (union : Union) :
    Unlocked cfgs (union.initTechEffects cfgs orders) := by
  intro side effect effect_mem given gives
  rw [initTechEffects_techs] at effect_mem
  exact (isSome_get_init cfgs orders union side given.1).mpr
    (.inr ⟨effect, effect_mem, given, gives, rfl⟩)

theorem map_map_cfgId (units : List UnionUnit) {change : UnionUnit → UnionUnit}
    (same : ∀ unit, (change unit).cfgId = unit.cfgId) :
    (units.map change).map UnionUnit.cfgId = units.map UnionUnit.cfgId := by
  rw [List.map_map]
  exact List.map_congr_left fun unit _ => same unit

theorem keys_apply (union : Union) (effect : Effect)
    (unlocked : ∀ given ∈ effect.gives side, ((union.units side).get given.1).isSome = true) :
    ((effect.apply union).units side).objects.map UnionUnit.cfgId =
      (union.units side).objects.map UnionUnit.cfgId := by
  cases gives : effect.gives side with
  | none =>
      rw [units_apply_add union gives]
      exact map_map_cfgId _ (addUnit_cfgId effect)
  | some given =>
      obtain ⟨unit, found⟩ := Option.isSome_iff_exists.mp (unlocked given gives)
      rw [units_apply_give union gives, levelUp, found]
      exact map_map_cfgId _ (UnionUnit.setLevel_cfgId given.1 given.2)

theorem keys_foldl_apply (effects : List Effect) (union : Union)
    (unlocked : ∀ effect ∈ effects, ∀ given ∈ effect.gives side,
      ((union.units side).get given.1).isSome = true) :
    ((effects.foldl Effect.apply union).units side).objects.map UnionUnit.cfgId =
      (union.units side).objects.map UnionUnit.cfgId := by
  induction effects generalizing union with
  | nil => rfl
  | cons effect effects ih =>
      have keys_eq := keys_apply union effect (unlocked effect List.mem_cons_self)
      refine (ih _ fun other other_mem given gives => ?_).trans keys_eq
      rw [Keyed.isSome_get_iff, keys_eq, ← Keyed.isSome_get_iff]
      exact unlocked other (List.mem_cons_of_mem _ other_mem) given gives

theorem keys_init (orders : Orders) (unlocked : Unlocked cfgs union) (side : Side) :
    ((union.initTechEffects cfgs orders).units side).objects.map UnionUnit.cfgId =
      (union.units side).objects.map UnionUnit.cfgId := by
  have keys_reset (effects : List Effect) :
      ((effects.foldl Effect.resetEffect union).units side).objects.map UnionUnit.cfgId =
        (union.units side).objects.map UnionUnit.cfgId := by
    rw [units_foldl_reset]
    exact map_map_cfgId _ fun unit => (foldl_resetUnit side effects unit).1
  rw [initTechEffects_eq, keys_foldl_apply, keys_reset]
  intro effect effect_mem given gives
  rw [Keyed.isSome_get_iff, keys_reset, ← Keyed.isSome_get_iff]
  exact unlocked side effect ((passes_perm _ _).mem_iff.mp effect_mem) given gives

theorem units_init (orders : Orders) (right : Right cfgs union) (clean : Clean cfgs union)
    (unlocked : Unlocked cfgs union) (side : Side) :
    (union.initTechEffects cfgs orders).units side = union.units side := by
  have after := right_of_clean orders clean
  refine Keyed.ext_get (keys_init orders unlocked side) fun name => ?_
  have there : (((union.initTechEffects cfgs orders).units side).get name).isSome =
      ((union.units side).get name).isSome := by
    rw [Bool.eq_iff_iff, Keyed.isSome_get_iff, keys_init orders unlocked, ← Keyed.isSome_get_iff]
  cases before_found : (union.units side).get name with
  | none => rwa [before_found, Option.isSome_none, Option.isSome_eq_false_iff,
      Option.isNone_iff_eq_none] at there
  | some before =>
      rw [before_found] at there
      obtain ⟨unit, found⟩ := Option.isSome_iff_exists.mp there
      rw [found]
      obtain ⟨unit_mem, name_eq⟩ := Keyed.get_mem found
      obtain ⟨before_mem, rfl⟩ := Keyed.get_mem before_found
      have level_eq : unit.level = before.level := by
        obtain ⟨effect, effect_mem, given, gives, given_name, level_eq⟩ |
          ⟨-, old, old_found, level_eq⟩ := (unit_init unit_mem).2
        · rw [level_eq]
          exact (right.levels side before before_mem effect effect_mem given gives
            (given_name.trans name_eq)).symm
        · rw [name_eq] at old_found
          rw [level_eq, Option.some.inj (before_found.symm.trans old_found)]
      have attr_eq : unit.attr = before.attr := by
        funext attr
        rw [after.attrs side unit unit_mem attr, right.attrs side before before_mem attr, name_eq,
          initTechEffects_techs]
      obtain ⟨cfgId, level, attr⟩ := unit
      obtain rfl : cfgId = before.cfgId := name_eq
      obtain rfl : level = before.level := level_eq
      obtain rfl : attr = before.attr := attr_eq
      rfl

theorem steady (orders : Orders) (right : Right cfgs union) (clean : Clean cfgs union)
    (unlocked : Unlocked cfgs union) : union.initTechEffects cfgs orders = union := by
  have after := right_of_clean orders clean
  have techs_eq := initTechEffects_techs cfgs orders union
  refine Union.ext techs_eq (units_init orders right clean unlocked .build)
    (units_init orders right clean unlocked .solider) (funext fun res => ?_) ?_
  · rw [after.limits res, right.limits res, techs_eq]
  · obtain ⟨effect, effect_mem, target_eq, space_eq⟩ | ⟨-, space_eq⟩ := space_init cfgs orders union
    · exact space_eq.trans (right.space effect effect_mem target_eq).symm
    · exact space_eq

end Twice

section Runs

variable {cfgs : TechCfgs}

theorem right_new (cfgs : TechCfgs) : Right cfgs .new where
  attrs side _ unit_mem := by cases side <;> exact absurd unit_mem List.not_mem_nil
  levels side _ unit_mem := by cases side <;> exact absurd unit_mem List.not_mem_nil
  limits _ := rfl
  space _ effect_mem := absurd effect_mem List.not_mem_nil
  noSpace _ := rfl

theorem right_step (union : Union) (event : Event) (allowed : Allowed cfgs union event) :
    Right cfgs ((machine cfgs).step union event).1 :=
  right_of_clean event.orders allowed

/-- While nothing is left and the effects agree, the effects are those of the current levels, and a
second call changes nothing. -/
theorem effectsRight_run (cfgs : TechCfgs) (events : List Event)
    (allowed : (machine cfgs).Allowed (Allowed cfgs) .new events) :
    Right cfgs ((machine cfgs).run .new events).1 ∧
      ∀ before first second, events = before ++ [.initTechEffects first, .initTechEffects second] →
        ((machine cfgs).run .new events).1 =
          ((machine cfgs).run .new (before ++ [.initTechEffects first])).1 := by
  refine ⟨Machine.holds_run (Right cfgs) (fun union event _ => right_step union event)
    (right_new cfgs) allowed, ?_⟩
  rintro before first second rfl
  obtain ⟨-, clean, again, -⟩ := Machine.allowed_append.mp allowed
  rw [Machine.run_append, Machine.run_append]
  exact steady second (right_of_clean first clean) again (unlocked_init cfgs first _)

def Iteration.listed : Iteration := ⟨id, List.Perm.refl⟩

def Orders.listed : Orders := ⟨fun _ => .listed, fun _ => .listed⟩

/-- A technology with one level, which has these effects. -/
def sampleCfgs (techEffects : List (ℕ × ℚ)) : TechCfgs where
  techs := Keyed.ofList [⟨⟨101, 1⟩, [], techEffects⟩]
  effects := Keyed.ofList [⟨1, .defenseLevelUp 6031001⟩, ⟨2, .defenseAttrAdd 6031001 .hpAddRatio⟩,
    ⟨3, .resLimit .starCoin⟩, ⟨4, .soliderSpaceAdd⟩]
  named := by decide
  initTechs := [⟨101, 1⟩]

def sampleRun : List Event :=
  [.doRefresh .listed, .initTechEffects .listed, .initTechEffects .listed]

theorem effectsRight_sampleRun :
    Right (sampleCfgs [(1, 5), (3, 200), (4, 10)])
      ((machine (sampleCfgs [(1, 5), (3, 200), (4, 10)])).run .new sampleRun).1 :=
  (effectsRight_run _ sampleRun (by decide +kernel)).1

/-- A building keeps what was added to it, and gets it again. -/
theorem not_right_sampleRun :
    ¬ Right (sampleCfgs [(1, 5), (2, 1)])
      ((machine (sampleCfgs [(1, 5), (2, 1)])).run .new sampleRun).1 := by
  intro right
  have attrs := right.attrs .build
  revert attrs
  decide +kernel

end Runs

end BasWar.UnionTechs
