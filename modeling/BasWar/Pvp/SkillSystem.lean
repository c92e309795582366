import BasWar.Tables.Following
import BasWar.Tables.Keyed

/-!
# The skill system of a battle

A battle is described to the client with all that its skills can lead to.  A skill refers to a skill
effect, a skill effect to a buff, to another skill effect and to a skill, and a buff to a skill
effect.  A skill effect may also summon soldiers, which bring skills of their own.  The lists that
are extended are the lists that are asked whether an entry is there.
-/

namespace BasWar.Pvp.SkillSystem

open Tables

/-- A row of `skillConfig`. -/
structure SkillCfg where
  cfgId : ℤ
  level : ℤ
  skillEffectCfgId : ℤ

/-- A row of `skillEffect`. -/
structure SkillEffectCfg where
  cfgId : ℤ
  buffCfgId : ℤ
  skillEffectCfgId : ℤ
  skillCfgId : ℤ
  /-- The soldiers it summons. -/
  entityCfgId : ℤ
  /-- The level and the number of the soldiers; `none` if they cannot be decoded. -/
  args : Option (List ℤ)

/-- A row of `buff`. -/
structure BuffCfg where
  cfgId : ℤ
  skillEffectCfgId : ℤ

/-- What a soldier or a hero does. -/
structure Fighter where
  atkSkillId : ℤ
  deadSkillId : ℤ
  bornSkillId : ℤ

/-- A row of `soliderConfig`. -/
structure SoliderCfg extends Fighter where
  cfgId : ℤ
  level : ℤ

structure Build where
  atkSkillId : ℤ
  atkSkill1Id : ℤ
  deadSkillId : ℤ
  bornSkillId : ℤ

/-- A summoned soldier. -/
structure Solider extends SoliderCfg where
  amount : Option ℤ

def Fighter.skillIds (fighter : Fighter) : List ℤ :=
  [fighter.atkSkillId, fighter.deadSkillId, fighter.bornSkillId]

def Build.skillIds (build : Build) : List ℤ :=
  [build.atkSkillId, build.atkSkill1Id, build.deadSkillId, build.bornSkillId]

structure BattleCfg where
  skills : Keyed fun row : SkillCfg => (row.cfgId, row.level)
  skillEffects : Keyed SkillEffectCfg.cfgId
  buffs : Keyed BuffCfg.cfgId
  soliders : Keyed fun row : SoliderCfg => (row.cfgId, row.level)

/-- The key of an entry. -/
inductive Ref
  | skill (cfgId : ℤ)
  | skillEffect (cfgId : ℤ)
  | buff (cfgId : ℤ)

inductive Item
  | skill (cfg : SkillCfg)
  | skillEffect (cfg : SkillEffectCfg)
  | buff (cfg : BuffCfg)

def Item.ref : Item → Ref
  | .skill cfg => .skill cfg.cfgId
  | .skillEffect cfg => .skillEffect cfg.cfgId
  | .buff cfg => .buff cfg.cfgId

/-- The references that `getBuffAndSkillEffect` follows, in its order. -/
def Item.refs : Item → List Ref
  | .skill cfg => [.skillEffect cfg.skillEffectCfgId]
  | .skillEffect cfg =>
      [.buff cfg.buffCfgId, .skillEffect cfg.skillEffectCfgId, .skill cfg.skillCfgId]
  | .buff cfg => [.skillEffect cfg.skillEffectCfgId]

namespace BattleCfg

/-- Without a level it is the first one. -/
def getSkillCfg (cfg : BattleCfg) (cfgId : ℤ) (level : ℤ := 1) : Option SkillCfg :=
  cfg.skills.get (cfgId, level)

def getSoliderCfg (cfg : BattleCfg) (cfgId : ℤ) (level : Option ℤ) : Option SoliderCfg :=
  level.bind fun level => cfg.soliders.get (cfgId, level)

def get (cfg : BattleCfg) : Ref → Option Item
  | .skill cfgId => if cfgId = 0 then none else (cfg.getSkillCfg cfgId).map .skill
  | .skillEffect cfgId =>
      if cfgId = 0 then none else (cfg.skillEffects.get cfgId).map .skillEffect
  | .buff cfgId => if cfgId = 0 then none else (cfg.buffs.get cfgId).map .buff

end BattleCfg

structure Lists where
  skills : List SkillCfg
  skillEffects : List SkillEffectCfg
  buffs : List BuffCfg
  summonSoliders : List Solider

namespace Lists

def repeatCfgId (lists : Lists) : Ref → Bool
  | .skill cfgId => lists.skills.any fun entry => entry.cfgId = cfgId
  | .skillEffect cfgId => lists.skillEffects.any fun entry => entry.cfgId = cfgId
  | .buff cfgId => lists.buffs.any fun entry => entry.cfgId = cfgId

def repeatSolider (lists : Lists) (cfgId : ℤ) : Bool :=
  lists.summonSoliders.any fun entry => entry.cfgId = cfgId

def insert (lists : Lists) : Item → Lists
  | .skill cfg => { lists with skills := lists.skills ++ [cfg] }
  | .skillEffect cfg => { lists with skillEffects := lists.skillEffects ++ [cfg] }
  | .buff cfg => { lists with buffs := lists.buffs ++ [cfg] }

def summon (lists : Lists) (solider : Solider) : Lists :=
  { lists with summonSoliders := lists.summonSoliders ++ [solider] }

end Lists

def BattleCfg.Row (cfg : BattleCfg) : Item → Prop
  | .skill row => row ∈ cfg.skills.objects
  | .skillEffect row => row ∈ cfg.skillEffects.objects
  | .buff row => row ∈ cfg.buffs.objects

variable {item : Item}

theorem get_row {cfg : BattleCfg} {ref : Ref} (found : cfg.get ref = some item) :
    item.ref = ref ∧ cfg.Row item := by
  cases ref with
  | skill cfgId =>
      simp only [BattleCfg.get] at found
      split at found
      · cases found
      · obtain ⟨row, row_eq, rfl⟩ := Option.map_eq_some_iff.mp found
        obtain ⟨row_mem, key_eq⟩ := Keyed.get_mem row_eq
        rw [Prod.mk.injEq] at key_eq
        exact ⟨congrArg Ref.skill key_eq.1, row_mem⟩
  | skillEffect cfgId =>
      simp only [BattleCfg.get] at found
      split at found
      · cases found
      · obtain ⟨row, row_eq, rfl⟩ := Option.map_eq_some_iff.mp found
        obtain ⟨row_mem, key_eq⟩ := Keyed.get_mem row_eq
        exact ⟨congrArg Ref.skillEffect key_eq, row_mem⟩
  | buff cfgId =>
      simp only [BattleCfg.get] at found
      split at found
      · cases found
      · obtain ⟨row, row_eq, rfl⟩ := Option.map_eq_some_iff.mp found
        obtain ⟨row_mem, key_eq⟩ := Keyed.get_mem row_eq
        exact ⟨congrArg Ref.buff key_eq, row_mem⟩

theorem get_ref {cfg : BattleCfg} {ref : Ref} (found : cfg.get ref = some item) : item.ref = ref :=
  (get_row found).1

theorem repeatCfgId_insert {lists : Lists} {ref : Ref} :
    (lists.insert item).repeatCfgId ref = true ↔
      ref = item.ref ∨ lists.repeatCfgId ref = true := by
  have swap : ∀ (first second : ℤ) (old : Prop), (old ∨ first = second) ↔ second = first ∨ old :=
    fun first second old => by rw [or_comm, eq_comm]
  cases item <;> cases ref <;> simp [Lists.insert, Lists.repeatCfgId, Item.ref, swap]

/-- The entries refer to each other. -/
def following (cfg : BattleCfg) : Following Ref Item Lists where
  get := cfg.get
  key := Item.ref
  refs := Item.refs
  listed := Lists.repeatCfgId
  insert := fun item lists => lists.insert item
  key_get := get_ref
  listed_insert := repeatCfgId_insert

/-- Why there are no lists. -/
inductive Stop
  | raise
  | rounds

section Collect

variable (cfg : BattleCfg)

def getBuffAndSkillEffect (fuel : ℕ) (item : Item) (lists : Lists) : Except Stop Lists :=
  match (following cfg).follow fuel item lists with
  | none => .error .rounds
  | some after => .ok after

/-- A skill of a building, a soldier or a hero. -/
def addSkill (lists : Lists) (cfgId : ℤ) : Except Stop Lists :=
  if cfgId = 0 ∨ lists.repeatCfgId (.skill cfgId) = true then .ok lists
  else
    match cfg.getSkillCfg cfgId with
    | none => .error .raise
    | some skill => .ok (lists.insert (.skill skill))

def addSkillEffect (lists : Lists) (skill : SkillCfg) : Lists :=
  if lists.repeatCfgId (.skillEffect skill.skillEffectCfgId) = true then lists
  else
    match cfg.get (.skillEffect skill.skillEffectCfgId) with
    | none => lists
    | some item => lists.insert item

/-- The loop over the skill effects from an index on; it meets what it appends. -/
def followAll (fuel : ℕ) : ℕ → ℕ → Lists → Except Stop Lists
  | 0, _, _ => .error .rounds
  | rounds + 1, index, lists =>
      match lists.skillEffects[index]? with
      | none => .ok lists
      | some skillEffect => do
          let after ← getBuffAndSkillEffect cfg fuel (.skillEffect skillEffect) lists
          followAll fuel rounds (index + 1) after

/-- The soldiers of a skill effect; `nested` collects with new ones. -/
def summonBy (nested : Lists → Except Stop Lists) (skillEffect : SkillEffectCfg) (lists : Lists) :
    Except Stop Lists :=
  if skillEffect.entityCfgId = 0 then .ok lists
  else
    match skillEffect.args with
    | none => .error .raise
    | some args =>
        if lists.repeatSolider skillEffect.entityCfgId = true then .ok lists
        else
          match cfg.getSoliderCfg skillEffect.entityCfgId args[0]? with
          | none => .error .raise
          | some solider => nested (lists.summon ⟨solider, args[1]?⟩)

/-- The last loop over the skill effects. -/
def summonAll (nested : Lists → Except Stop Lists) : ℕ → ℕ → Lists → Except Stop Lists
  | 0, _, _ => .error .rounds
  | rounds + 1, index, lists =>
      match lists.skillEffects[index]? with
      | none => .ok lists
      | some skillEffect => do
          let after ← summonBy cfg nested skillEffect lists
          summonAll nested rounds (index + 1) after

/-- `getSkillSystem`, for the skill ids of buildings, soldiers and heroes. -/
def getSkillSystem (heroSkills : List SkillCfg) : ℕ → List ℤ → Lists → Except Stop Lists
  | 0, _, _ => .error .rounds
  | fuel + 1, skillIds, lists => do
      let withSkills ← skillIds.foldlM (addSkill cfg) lists
      let withEffects := (withSkills.skills ++ heroSkills).foldl (addSkillEffect cfg) withSkills
      let followed ← followAll cfg fuel fuel 0 withEffects
      summonAll cfg
        (fun lists =>
          getSkillSystem heroSkills fuel (lists.summonSoliders.flatMap fun solider =>
            solider.skillIds) lists)
        fuel 0 followed

end Collect

structure Battle where
  builds : List Build
  soliders : List Fighter
  heros : List Fighter
  skills : List SkillCfg
  heroSkills : List SkillCfg

def Battle.skillIds (battle : Battle) : List ℤ :=
  battle.builds.flatMap Build.skillIds ++ battle.soliders.flatMap Fighter.skillIds ++
    battle.heros.flatMap Fighter.skillIds

/-- `getSkillSystem` as `getBattleInfo` calls it. -/
def collect (cfg : BattleCfg) (battle : Battle) (fuel : ℕ) : Except Stop Lists :=
  getSkillSystem cfg battle.heroSkills fuel battle.skillIds ⟨battle.skills, [], [], []⟩

end BasWar.Pvp.SkillSystem
