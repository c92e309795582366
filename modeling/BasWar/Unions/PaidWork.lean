import BasWar.Player.Upgrades
import BasWar.Tables.Keyed
import BasWar.Unions.Treasury
import Mathlib.Data.PNat.Basic

/-!
# Paid work of a union

A union pays for the next level of a tech and for batches of defence builds.  A tech is raised, and
one build of each batch after the other is made, by the check of each second once its timer has run
out.  The function that reports the remaining time stops a timer that has run out; the lists sent to
clients and the count of running techs call it.  Whether a member may give the order is given with
each request.
-/

namespace BasWar.Unions.PaidWork

open Tables
open Upgrades (Timestamp)

structure UnionTech where
  cfgId : ℕ
  level : ℕ
  levelUpTick : ℤ

structure UnionBuild where
  cfgId : ℕ
  level : ℕ
  count : ℤ
  genCount : ℤ
  genTick : ℤ

/-- A row of `unionTechConfig`. -/
structure TechCfg where
  mod : ℕ
  /-- In seconds. -/
  levelUpNeedTime : ℕ
  cost : Treasury.Res → ℤ
  presetTechs : List (ℕ × ℕ)
  /-- Builds and levels of the effects `UNION_TECH_DEFENSE_LEVEL_UP`. -/
  defenseLevels : List (ℕ × ℕ)

/-- A row of `buildConfig`. -/
structure BuildCfg where
  /-- In seconds. -/
  trainNeedTick : ℕ+
  unionLimit : ℤ
  /-- `levelUpNeedStarCoin` and its siblings, for one build. -/
  cost : Treasury.Res → ℤ

structure Config where
  /-- `getUnionTechCfg`. -/
  tech : ℕ → ℕ → Option TechCfg
  /-- `getBuildCfg`; every level that a tech gives has a row. -/
  build : ℕ → ℕ → BuildCfg
  /-- The rows of `unionTech` for level 0, with their preset techs. -/
  unlocks : List (ℕ × List (ℕ × ℕ))
  /-- The global value `UnionInitTechs`. -/
  initTechs : List (ℕ × ℕ)
  techLevelUpMaxCnt : ℕ
  modTechLevelUpMaxCnt : ℕ

namespace UnionTech

/-- `getLessTick`: the tech it leaves, and what it returns. -/
def getLessTick (now : Timestamp) (tech : UnionTech) : UnionTech × ℤ :=
  if tech.levelUpTick = 0 ∨ tech.levelUpTick < now.val then
    ({ tech with levelUpTick := 0 }, 0)
  else
    (tech, (tech.levelUpTick - now.val) / 1000)

/-- What `checkLevelUp` does once the timer has run out. -/
def raise (tech : UnionTech) : UnionTech :=
  { tech with levelUpTick := 0, level := tech.level + 1 }

end UnionTech

namespace UnionBuild

/-- `getLessTick`: the build it leaves, and what it returns. -/
def getLessTick (now : Timestamp) (build : UnionBuild) : UnionBuild × ℤ :=
  if build.genTick = 0 ∨ build.genTick < now.val then
    ({ build with genTick := 0 }, 0)
  else
    (build, (build.genTick - now.val) / 1000)

def setGenTick (config : Config) (now : Timestamp) (build : UnionBuild) : UnionBuild :=
  { build with
    genTick := now.val + (config.build build.cfgId build.level).trainNeedTick.val * 1000 }

def addGenBuilds (config : Config) (now : Timestamp) (buildCount : ℤ) (build : UnionBuild) :
    UnionBuild :=
  let timed := if build.genCount = 0 then build.setGenTick config now else build
  { timed with genCount := timed.genCount + buildCount }

def make (build : UnionBuild) : UnionBuild :=
  { build with genCount := build.genCount - 1, count := build.count + 1 }

/-- What `checkGenBuilds` does once the timer has run out. -/
def finish (config : Config) (now : Timestamp) (build : UnionBuild) : UnionBuild :=
  if 0 < build.make.genCount then
    build.make.setGenTick config now
  else
    { build.make with genTick := 0 }

end UnionBuild

structure Union where
  techs : Keyed UnionTech.cfgId
  builds : Keyed UnionBuild.cfgId
  treasury : Treasury.Union

/-- The two kinds of paid work, by the tech or the build. -/
inductive Work
  | tech (cfgId : ℕ)
  | build (cfgId : ℕ)
  deriving DecidableEq

inductive Entry
  /-- So many level-ups or builds were paid for. -/
  | paid (work : Work) (count : ℤ)
  /-- The timer of a tech or a build was set. -/
  | timed (work : Work) (due : ℤ)
  /-- One level-up or build was done, at the end of this timer. -/
  | applied (work : Work) (due now : ℤ)
  /-- The check of a second has ended. -/
  | checked (now : ℤ)

namespace Union

def isEnoughPresetTechs (union : Union) (presetTechs : List (ℕ × ℕ)) : Bool :=
  presetTechs.all fun preset =>
    match union.techs.get preset.1 with
    | none => false
    | some tech => preset.2 ≤ tech.level

/-- One row of `refreshUnlockTechs`. -/
def unlockTech (union : Union) (row : ℕ × List (ℕ × ℕ)) : Union :=
  if 0 < row.1 ∧ union.isEnoughPresetTechs row.2 then
    { union with techs := union.techs.add ⟨row.1, 0, 0⟩ }
  else
    union

def refreshUnlockTechs (config : Config) (union : Union) : Union :=
  config.unlocks.foldl unlockTech union

/-- `apply` of one effect `UNION_TECH_DEFENSE_LEVEL_UP`, with `unlockBuild`. -/
def applyDefenseLevel (union : Union) (effect : ℕ × ℕ) : Union :=
  match union.builds.get effect.1 with
  | none => { union with builds := union.builds.add ⟨effect.1, effect.2, 0, 0, 0⟩ }
  | some _ =>
      let raise (build : UnionBuild) : UnionBuild :=
        if effect.1 = 0 ∨ build.cfgId = effect.1 then { build with level := effect.2 } else build
      { union with builds := union.builds.map raise fun build => by unfold raise; split <;> rfl }

/-- `initTechEffects`, as far as it touches builds and their levels. -/
def initTechEffects (config : Config) (union : Union) : Union :=
  (union.techs.objects.flatMap fun tech =>
    ((config.tech tech.cfgId tech.level).map TechCfg.defenseLevels).getD []).foldl
      applyDefenseLevel union

def onUnionTechLevelUp (config : Config) (union : Union) : Union :=
  (union.refreshUnlockTechs config).initTechEffects config

/-- `doRefresh` of a union that was just founded. -/
def new (config : Config) : Union :=
  let techs := config.initTechs.foldl (fun techs init => techs.add ⟨init.1, init.2, 0⟩)
    (⟨[], List.nodup_nil⟩ : Keyed UnionTech.cfgId)
  onUnionTechLevelUp config ⟨techs, ⟨[], List.nodup_nil⟩, .new⟩

/-- What calling `getLessTick` of every tech leaves: `packUnionTechs`, `getTechCurLevelUpCnt`. -/
def packUnionTechs (now : Timestamp) (union : Union) : Union :=
  { union with
    techs := union.techs.map (fun tech => (tech.getLessTick now).1) fun tech => by
      unfold UnionTech.getLessTick
      split <;> rfl }

/-- What `packUnionBuilds` leaves. -/
def packUnionBuilds (now : Timestamp) (union : Union) : Union :=
  { union with
    builds := union.builds.map (fun build => (build.getLessTick now).1) fun build => by
      unfold UnionBuild.getLessTick
      split <;> rfl }

def getMod (config : Config) (tech : UnionTech) : ℕ :=
  ((config.tech tech.cfgId tech.level).map TechCfg.mod).getD 0

/-- The techs that `getTechCurLevelUpCnt` counts. -/
def levelUps (now : Timestamp) (union : Union) : List UnionTech :=
  union.techs.objects.filter fun tech => 0 < (tech.getLessTick now).2

/-- The two limits of `levelUpTech` leave room for this tech. -/
def queueFree (config : Config) (now : Timestamp) (union : Union) (tech : UnionTech) : Bool :=
  ((union.levelUps now).countP fun other => getMod config other = getMod config tech) <
      config.modTechLevelUpMaxCnt ∧
    (union.levelUps now).length < config.techLevelUpMaxCnt

/-- `levelUpTech`; `authorized` if the sender is a member whose job may research. -/
def levelUpTech (config : Config) (now : Timestamp) (union : Union) (cfgId : ℕ)
    (authorized : Bool) : Union × List Entry :=
  if authorized then
    match union.techs.get cfgId with
    | none => (union, [])
    | some tech =>
        if (config.tech cfgId (tech.level + 1)).isNone then
          (union, [])
        else
          let free := union.queueFree config now tech
          -- from here on the timers that have run out are stopped
          let counted := union.packUnionTechs now
          match config.tech cfgId tech.level with
          | none => (counted, [])
          | some cfg =>
              if free ∧ counted.isEnoughPresetTechs cfg.presetTechs then
                match counted.treasury.pay Treasury.Res.stored cfg.cost with
                | none => (counted, [])
                | some treasury =>
                    let due := now.val + cfg.levelUpNeedTime * 1000
                    ({ counted with
                        techs := counted.techs.put { tech with levelUpTick := due }
                        treasury },
                      [.paid (.tech cfgId) 1, .timed (.tech cfgId) due])
              else
                (counted, [])
  else
    (union, [])

/-- `genDefenseBuild`; `defenseCount` is whatever the client sends. -/
def genDefenseBuild (config : Config) (now : Timestamp) (union : Union) (cfgId : ℕ)
    (defenseCount : ℤ) (isMember : Bool) : Union × List Entry :=
  if isMember then
    match union.builds.get cfgId with
    | none => (union, [])
    | some build =>
        let cfg := config.build cfgId build.level
        if cfg.unionLimit < build.count + build.genCount + defenseCount then
          (union, [])
        else
          match union.treasury.pay Treasury.Res.stored fun res => cfg.cost res * defenseCount with
          | none => (union, [])
          | some treasury =>
              let added := build.addGenBuilds config now defenseCount
              ({ union with builds := union.builds.put added, treasury },
                .paid (.build cfgId) defenseCount ::
                  if build.genCount = 0 then [.timed (.build cfgId) added.genTick] else [])
  else
    (union, [])

/-- `onSecond` of one build: `checkGenBuilds`. -/
def checkGenBuilds (config : Config) (now : Timestamp) (union : Union) (cfgId : ℕ) :
    Union × List Entry :=
  match union.builds.get cfgId with
  | none => (union, [])
  | some build =>
      if build.genCount = 0 ∨ build.genTick = 0 ∨ now.val < build.genTick then
        (union, [])
      else
        let made := build.finish config now
        ({ union with builds := union.builds.put made },
          .applied (.build cfgId) build.genTick now.val ::
            if 0 < made.genCount then [.timed (.build cfgId) made.genTick] else [])

/-- `onSecond` of one tech: `checkLevelUp`. -/
def checkLevelUp (config : Config) (now : Timestamp) (union : Union) (cfgId : ℕ) :
    Union × List Entry :=
  match union.techs.get cfgId with
  | none => (union, [])
  | some tech =>
      if tech.levelUpTick = 0 ∨ now.val < tech.levelUpTick then
        (union, [])
      else
        (onUnionTechLevelUp config { union with techs := union.techs.put tech.raise },
          [.applied (.tech cfgId) tech.levelUpTick now.val])

def checkAll (check : Union → ℕ → Union × List Entry) (union : Union) :
    List ℕ → Union × List Entry
  | [] => (union, [])
  | cfgId :: cfgIds =>
      let (next, entries) := check union cfgId
      let (last, rest) := checkAll check next cfgIds
      (last, entries ++ rest)

/-- `onSecond`: first the builds, then the techs. -/
def onSecond (config : Config) (now : Timestamp) (union : Union) : Union × List Entry :=
  let (made, entries) :=
    checkAll (checkGenBuilds config now) union (union.builds.objects.map UnionBuild.cfgId)
  let (raised, rest) :=
    checkAll (checkLevelUp config now) made (made.techs.objects.map UnionTech.cfgId)
  (raised, entries ++ (rest ++ [.checked now.val]))

end Union

inductive Event
  | levelUpTech (now : Timestamp) (cfgId : ℕ) (authorized : Bool)
  | genDefenseBuild (now : Timestamp) (cfgId : ℕ) (defenseCount : ℤ) (isMember : Bool)
  | onSecond (now : Timestamp)
  | packUnionTechs (now : Timestamp)
  | packUnionBuilds (now : Timestamp)
  | serialize
  | setTreasury (treasury : Treasury.Union)
  /-- A defence build is taken to a grid. -/
  | getDefenseBuildInfo (cfgId : ℕ)

def machine (config : Config) : Machine Union Event Entry where
  step union
    | .levelUpTech now cfgId authorized => union.levelUpTech config now cfgId authorized
    | .genDefenseBuild now cfgId defenseCount isMember =>
        union.genDefenseBuild config now cfgId defenseCount isMember
    | .onSecond now => union.onSecond config now
    | .packUnionTechs now => (union.packUnionTechs now, [])
    | .packUnionBuilds now => (union.packUnionBuilds now, [])
    | .serialize => (union, [])
    | .setTreasury treasury => ({ union with treasury }, [])
    | .getDefenseBuildInfo cfgId =>
        match union.builds.get cfgId with
        | none => (union, [])
        | some build =>
            if build.count ≤ 0 then
              (union, [])
            else
              ({ union with builds := union.builds.put { build with count := build.count - 1 } },
                [])

end BasWar.Unions.PaidWork
