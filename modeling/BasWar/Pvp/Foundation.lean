import Mathlib.Data.Rat.Floor
import Mathlib.Logic.Function.Basic

/-!
# The base of a defender

The foundation bag of a player whose base is attacked: the lock that `startAttacked` puts on it,
what `endAttacked` plunders and pays, and the document of the bag.  Times are milliseconds, and
ratios are exact.  `endAttacked` asks the match service in the middle, so it has two parts.
-/

namespace BasWar.Pvp

/-- Resources that are plundered or paid. -/
inductive BaseRes
  | starCoin
  | ice
  | carboxyl
  | titanium
  | gas
  | tesseract
  deriving DecidableEq

/-- `BATTLE_RESULT_LOSE`. -/
def battleLose : ℤ := 0

/-- `BATTLE_RESULT_WIN`. -/
def battleWin : ℤ := 1

/-- `BATTLE_RESULT_OFFLINE`. -/
def battleOffline : ℤ := 2

/-- A row of `NewHandPvpProtectRatio`. -/
structure ProtectRow where
  minBaseLevel : ℤ
  maxBaseLevel : ℤ
  ratio : ℚ

structure DefenceCfg where
  /-- Seconds. -/
  fightMaxCostTime : ℕ
  pvpPlunderRatio : ℚ
  newHandPvpProtectRatio : List ProtectRow
  pvpFailCostGunLife : ℤ
  pvpDefenceFailGainPoint : ℤ
  pvpDefenceWinGainPoint : ℤ
  pvpDefenceWinGainRes : List (BaseRes × ℤ)
  pvpFailGainPoint : ℤ
  /-- Seconds. -/
  foundationBattleProtectTime : ℕ

structure Build where
  cannon : Bool
  isMakeResBuild : Bool
  /-- The position is not zero. -/
  placed : Bool
  /-- Row `store..` of its configuration. -/
  store : BaseRes → ℤ
  /-- Row `cur..` of its configuration. -/
  curStore : BaseRes → ℤ
  cur : BaseRes → ℤ
  curLife : ℤ
  fightTick : ℕ
  /-- Only a black hole has a ratio. -/
  resProtectRatio : Option ℚ

/-- The foundation bag of a player, and what it uses of the other bags. -/
structure Foundation where
  isGmRobotPlayer : Bool
  baseLevel : ℤ
  attackedTick : ℕ
  protectTick : ℕ
  freeBeFight : Bool
  res : BaseRes → ℤ
  builds : List Build
  /-- Sum of the score changes that were sent to the rank service. -/
  rankScore : ℤ

structure FoundationData where
  protectTick : Option ℕ
  attackedTick : Option ℕ
  attackTick : Option ℕ

/-- The answer of `getFoundationInfo`. -/
structure FoundationInfo where
  playerLevel : ℤ
  builds : List Build
  plunderInfo : BaseRes → ℤ

/-- The answer of `endAttacked`. -/
structure EndInfo where
  amount : BaseRes → ℤ
  badge : ℤ
  defenBadge : ℤ
  atkBadge : ℤ

def EndInfo.zero : EndInfo :=
  ⟨fun _ => 0, 0, 0, 0⟩

namespace Build

def setFightTick (tick : ℕ) (build : Build) : Build :=
  { build with fightTick := tick }

/-- `plunderBuildRes` for one build and one resource. -/
def plunder (plunderRatio : ℚ) (res : BaseRes) (build : Build) : Build :=
  if 0 < plunderRatio ∧ plunderRatio ≤ 1 ∧ build.isMakeResBuild ∧ 0 < build.cur res then
    { build with
      cur := Function.update build.cur res ⌊(1 - plunderRatio) * build.cur res⌋ }
  else build

end Build

namespace Foundation

def isAttaced (now : ℕ) (base : Foundation) : Bool :=
  !base.isGmRobotPlayer && decide (0 < base.attackedTick ∧ now < base.attackedTick)

def isInProtect (now : ℕ) (base : Foundation) : Bool :=
  !base.isGmRobotPlayer && decide (base.protectTick ≠ 0 ∧ now ≤ base.protectTick)

def getNewHandProtectRatio (cfg : DefenceCfg) (base : Foundation) : ℚ :=
  match cfg.newHandPvpProtectRatio.find? fun row =>
      row.minBaseLevel ≤ base.baseLevel &&
        (base.baseLevel ≤ row.maxBaseLevel || row.maxBaseLevel == -1) with
  | some row => row.ratio
  | none => 0

def getBuildResProtectRatio (base : Foundation) : ℚ :=
  ((base.builds.filterMap Build.resProtectRatio).head?).getD 0

def getStorePlunderable (res : BaseRes) (buildProtectRatio : ℚ) (base : Foundation) : ℚ :=
  let resLowLimit := (base.builds.map fun build => build.store res).sum * buildProtectRatio
  if 0 < base.res res - resLowLimit then base.res res - resLowLimit else 0

/-- Resources that `endAttacked` plunders from the bag, and the ratio. -/
def storeTotalPlunderRatio (cfg : DefenceCfg) (base : Foundation) : ℚ :=
  (1 - base.getNewHandProtectRatio cfg) * cfg.pvpPlunderRatio

/-- `plunderInfo.res..` of `getPlunderableResInfo`. -/
def plunderRes (cfg : DefenceCfg) (base : Foundation) : BaseRes → ℤ
  | .carboxyl | .tesseract => 0
  | res =>
      ⌊base.getStorePlunderable res base.getBuildResProtectRatio *
        base.storeTotalPlunderRatio cfg⌋

/-- `plunderInfo.store..` of `getPlunderableResInfo`. -/
def plunderStore (cfg : DefenceCfg) (base : Foundation) : BaseRes → ℤ
  | .carboxyl | .tesseract => 0
  | res =>
      ⌊(base.builds.map fun build => build.curStore res).sum * base.storeTotalPlunderRatio cfg⌋

/-- `totalPlunderInfo` of `getPlunderableResInfo`. -/
def getPlunderableResInfo (cfg : DefenceCfg) (base : Foundation) (res : BaseRes) : ℤ :=
  base.plunderRes cfg res + base.plunderStore cfg res

def getFoundationInfo (cfg : DefenceCfg) (base : Foundation) : FoundationInfo where
  playerLevel := base.baseLevel
  builds := base.builds.filter Build.placed
  plunderInfo := base.getPlunderableResInfo cfg

def serialize (base : Foundation) : FoundationData where
  protectTick := some base.protectTick
  attackedTick := some base.attackedTick
  attackTick := none

def deserialize (data : FoundationData) (base : Foundation) : Foundation :=
  { base with
    protectTick := data.protectTick.getD 0
    attackedTick := data.attackTick.getD 0 }

/-- `startAttacked`; the caller gets nothing if the base is protected or locked. -/
def startAttacked (cfg : DefenceCfg) (now : ℕ) (inner isFreeFight : Bool) (base : Foundation) :
    Option Foundation :=
  if !inner && base.isInProtect now then none
  else if !inner && base.isAttaced now then none
  else
    let fightTime := cfg.fightMaxCostTime * 1000 + now
    some { base with
      freeBeFight := isFreeFight
      attackedTick := fightTime
      builds := base.builds.map fun build =>
        if build.cannon then build.setFightTick fightTime else build }

/-- `unlockAttackedCannons`; `checkAttackedEnd` passes no result. -/
def unlockAttackedCannons (cfg : DefenceCfg) (result : Option ℤ) (base : Foundation) :
    Foundation :=
  let costLife := cfg.pvpFailCostGunLife
  { base with
    builds := base.builds.map fun build =>
      if build.cannon then
        (if result = some battleWin ∧ 0 < costLife ∧ 0 < build.curLife - costLife then
          { build with curLife := build.curLife - costLife }
        else build).setFightTick 0
      else build }

def costRes (res : BaseRes) (value : ℤ) (base : Foundation) : Foundation :=
  if value ≤ 0 then base
  else { base with res := Function.update base.res res (max (base.res res - value) 0) }

/-- The attacker has won against a player who is no robot. -/
def Plundered (result : ℤ) (base : Foundation) : Prop :=
  result = battleWin ∧ base.isGmRobotPlayer = false
  deriving Decidable

/-- Plunder the bag and the builds. -/
def plunder (cfg : DefenceCfg) (base : Foundation) : Foundation :=
  let plunderInfo := base.plunderRes cfg
  let plunderRatio := base.storeTotalPlunderRatio cfg
  let base := [BaseRes.starCoin, .ice, .carboxyl, .titanium, .gas].foldl
    (fun base res => base.costRes res (plunderInfo res)) base
  { base with
    builds := base.builds.map fun build =>
      [BaseRes.starCoin, .ice, .titanium, .gas].foldl
        (fun build res => build.plunder plunderRatio res) build }

/-- The resources that a defender gets for a battle that was not lost. -/
def winRes (cfg : DefenceCfg) : BaseRes → ℤ :=
  cfg.pvpDefenceWinGainRes.foldl (fun resDict row => Function.update resDict row.1 row.2)
    fun _ => 0

/-- The score change that `endAttacked` asks for, unless the attack is free. -/
def defenceScore (cfg : DefenceCfg) (result : ℤ) (base : Foundation) : ℤ :=
  if base.Plundered result then cfg.pvpDefenceFailGainPoint else cfg.pvpDefenceWinGainPoint

/-- `endAttacked` up to the question whether a match runs. -/
def endAttacked (cfg : DefenceCfg) (result : ℤ) (base : Foundation) : Foundation × EndInfo :=
  if base.freeBeFight then (base, .zero)
  else if base.Plundered result then
    (base.plunder cfg, { EndInfo.zero with amount := base.getPlunderableResInfo cfg })
  else
    (base,
      { EndInfo.zero with badge := if base.isGmRobotPlayer then 0 else cfg.pvpFailGainPoint })

/-- The score and the resources that `endAttacked` pays after the answer. -/
def paid (cfg : DefenceCfg) (result : ℤ) (isFreeBeFight inStart : Bool) (base : Foundation) :
    Foundation :=
  if isFreeBeFight then base
  else
    let score := if inStart then base.defenceScore cfg result else 0
    let base := { base with rankScore := base.rankScore + score }
    if base.Plundered result then base
    else { base with res := fun res => base.res res + max (winRes cfg res) 0 }

/-- `resInfo` with what the second part of `endAttacked` writes to it. -/
def resInfo (cfg : DefenceCfg) (result : ℤ) (isFreeBeFight : Bool) (info : EndInfo)
    (base : Foundation) : EndInfo :=
  if isFreeBeFight then info
  else if base.Plundered result then { info with defenBadge := cfg.pvpDefenceFailGainPoint }
  else
    { info with
      defenBadge := cfg.pvpDefenceWinGainPoint
      amount := Function.update info.amount .tesseract (winRes cfg .tesseract) }

/-- `endAttacked` after the payment: the lock is taken off. -/
def unlocked (cfg : DefenceCfg) (now : ℕ) (result : ℤ) (base : Foundation) : Foundation :=
  let base := { base with attackedTick := 0 }.unlockAttackedCannons cfg (some result)
  { base with
    protectTick :=
      if result = battleWin then now + cfg.foundationBattleProtectTime * 1000
      else base.protectTick
    freeBeFight := false }

/-- `endAttacked` from the answer on. -/
def endAttackedRest (cfg : DefenceCfg) (now : ℕ) (result : ℤ) (isFreeBeFight inStart : Bool)
    (info : EndInfo) (base : Foundation) : Foundation × EndInfo :=
  ((base.paid cfg result isFreeBeFight inStart).unlocked cfg now result,
    base.resInfo cfg result isFreeBeFight info)

def checkAttackedEnd (cfg : DefenceCfg) (now : ℕ) (base : Foundation) : Foundation :=
  if base.attackedTick = 0 then base
  else if now < base.attackedTick then base
  else { base with attackedTick := 0 }.unlockAttackedCannons cfg none

def checkProtectEnd (now : ℕ) (base : Foundation) : Foundation :=
  if base.protectTick = 0 then base
  else if now < base.protectTick then base
  else { base with protectTick := 0 }

def onSecond (cfg : DefenceCfg) (now : ℕ) (base : Foundation) : Foundation :=
  (base.checkAttackedEnd cfg now).checkProtectEnd now

@[simp]
theorem costRes_attackedTick (res : BaseRes) (value : ℤ) (base : Foundation) :
    (base.costRes res value).attackedTick = base.attackedTick := by
  unfold costRes
  split <;> rfl

@[simp]
theorem plunder_attackedTick (cfg : DefenceCfg) (base : Foundation) :
    (base.plunder cfg).attackedTick = base.attackedTick := by
  simp [plunder]

@[simp]
theorem endAttacked_attackedTick (cfg : DefenceCfg) (result : ℤ) (base : Foundation) :
    (base.endAttacked cfg result).1.attackedTick = base.attackedTick := by
  unfold endAttacked
  split_ifs <;> simp

@[simp]
theorem checkProtectEnd_attackedTick (now : ℕ) (base : Foundation) :
    (base.checkProtectEnd now).attackedTick = base.attackedTick := by
  unfold checkProtectEnd
  split_ifs <;> rfl

variable {cfg : DefenceCfg} {now : ℕ} {base : Foundation}

theorem onSecond_attackedTick (locked : now < base.attackedTick) :
    (base.onSecond cfg now).attackedTick = base.attackedTick := by
  rw [onSecond, checkProtectEnd_attackedTick, checkAttackedEnd, if_neg (by omega), if_pos locked]

theorem unlocked_of_startAttacked {isFreeFight : Bool} {next : Foundation}
    (player : base.isGmRobotPlayer = false)
    (started : base.startAttacked cfg now false isFreeFight = some next) :
    base.attackedTick ≤ now := by
  unfold startAttacked at started
  split_ifs at started with shielded attaced
  simp only [isAttaced, player, Bool.not_false, Bool.true_and, decide_eq_true_eq] at attaced
  omega

theorem startAttacked_attackedTick {inner isFreeFight : Bool} {next : Foundation}
    (started : base.startAttacked cfg now inner isFreeFight = some next) :
    next.attackedTick = cfg.fightMaxCostTime * 1000 + now := by
  unfold startAttacked at started
  split_ifs at started
  cases started
  rfl

end Foundation

end BasWar.Pvp
