import BasWar.ChainBridge.Withdraw
import Mathlib.Data.List.AList
import Mathlib.Logic.Function.Basic

/-!
# The bags of a player who donates NFTs

Ids are uuids or token ids of NFTs, so the warships, heroes and buildings of a player are one table.
An army, a level-up, a sale and a withdrawal each look at the reference of an entity before they
take it, and a donation makes the reference `REF_UNION`.
-/

namespace BasWar.Unions.Donations

/-- What `packToDonate` tells of a warship, hero or building. -/
structure Nft where
  id : ℕ
  bag : EntityBag
  cfgId : ℕ
  chain : ℤ
  life : ℤ
  curLife : ℤ
  level : ℕ
  /-- `skillLevel1` to `skillLevel3`. -/
  skillLevel : ℕ → ℕ
  ref : Ref
  refBy : ℕ
  donateTime : ℤ
  ownerPid : ℕ
  fightTick : ℤ
  nextTick : ℤ
  skillUp : ℕ
  skillUpNextTick : ℤ

namespace Nft

def isLevelUp (now : ℤ) (nft : Nft) : Bool :=
  now ≤ nft.nextTick

def isSkillUp (now : ℤ) (nft : Nft) : Bool :=
  now ≤ nft.skillUpNextTick

/-- A building has no skills. -/
def isUpgrade (now : ℤ) (nft : Nft) : Bool :=
  nft.isLevelUp now || nft.bag ≠ .buildBag && nft.isSkillUp now

def entity (now : ℤ) (nft : Nft) : Entity :=
  ⟨nft.id, nft.cfgId, nft.chain, nft.life, nft.curLife, nft.ref, nft.isUpgrade now⟩

/-- Only a hero can be in an army. -/
def checkLevelUp (now : ℤ) (inArmy : Bool) (nft : Nft) : Nft :=
  if nft.nextTick ≤ 0 ∨ now < nft.nextTick then nft
  else
    { nft with
      nextTick := 0
      level := nft.level + 1
      ref :=
        if nft.ref ≠ .levelUp then nft.ref
        else if nft.bag = .heroBag ∧ inArmy then .army
        else .none }

/-- With `checkInArmy` for a hero. -/
def checkSkillUp (now : ℤ) (inArmy : Bool) (nft : Nft) : Nft :=
  if nft.skillUpNextTick ≤ 0 ∨ now < nft.skillUpNextTick then nft
  else
    { nft with
      skillUpNextTick := 0
      skillUp := 0
      skillLevel :=
        Function.update nft.skillLevel nft.skillUp (nft.skillLevel nft.skillUp + 1)
      ref := if nft.bag = .heroBag ∧ inArmy then .army else nft.ref }

/-- `checkHeros`, `checkWarShips` and `checkBuilds` for one entity. -/
def onSecond (now : ℤ) (inArmy : Bool) (nft : Nft) : Nft :=
  if nft.bag = .buildBag then nft.checkLevelUp now inArmy
  else (nft.checkLevelUp now inArmy).checkSkillUp now inArmy

/-- The entity has only the skill that it was made with. -/
def unskilled (nft : Nft) : Bool :=
  nft.skillLevel 1 ≤ 1 && nft.skillLevel 2 = 0 && nft.skillLevel 3 = 0

section Second

variable {now : ℤ} {inArmy : Bool} {nft : Nft}

@[simp]
theorem checkLevelUp_bag : (nft.checkLevelUp now inArmy).bag = nft.bag := by
  unfold checkLevelUp
  split <;> rfl

@[simp]
theorem checkSkillUp_bag : (nft.checkSkillUp now inArmy).bag = nft.bag := by
  unfold checkSkillUp
  split <;> rfl

@[simp]
theorem onSecond_bag : (nft.onSecond now inArmy).bag = nft.bag := by
  unfold onSecond
  split <;> simp

theorem checkLevelUp_ref : (nft.checkLevelUp now inArmy).ref = .union ↔ nft.ref = .union := by
  unfold checkLevelUp
  split
  · rfl
  · by_cases leveling : nft.ref = .levelUp
    · by_cases hero : nft.bag = .heroBag ∧ inArmy = true <;> simp [leveling, hero]
    · simp [leveling]

theorem checkSkillUp_ref (mark : (nft.checkSkillUp now inArmy).ref = .union) :
    nft.ref = .union := by
  unfold checkSkillUp at mark
  split at mark
  · exact mark
  · by_cases hero : nft.bag = .heroBag ∧ inArmy = true
    · simp [hero] at mark
    · simpa [hero] using mark

theorem onSecond_ref (mark : (nft.onSecond now inArmy).ref = .union) : nft.ref = .union := by
  unfold onSecond at mark
  split at mark
  · exact checkLevelUp_ref.mp mark
  · exact checkLevelUp_ref.mp (checkSkillUp_ref mark)

theorem onSecond_keeps (mark : nft.ref = .union) : (nft.onSecond now false).ref = .union := by
  have leveled : (nft.checkLevelUp now false).ref = .union := checkLevelUp_ref.mpr mark
  unfold onSecond
  split
  · exact leveled
  · unfold checkSkillUp
    split
    · exact leveled
    · simpa using leveled

theorem isLevelUp_checkLevelUp (raising : (nft.checkLevelUp now inArmy).isLevelUp now) :
    nft.isLevelUp now := by
  unfold checkLevelUp at raising
  split at raising
  · exact raising
  · simp only [isLevelUp, decide_eq_true_eq] at raising
    omega

theorem isUpgrade_onSecond (raising : (nft.onSecond now inArmy).isUpgrade now) :
    nft.isUpgrade now := by
  unfold onSecond at raising
  split at raising
  · rename_i build
    have leveling : (nft.checkLevelUp now inArmy).isLevelUp now := by
      simpa [isUpgrade, build] using raising
    simp [isUpgrade, isLevelUp_checkLevelUp leveling]
  · have leveled : (nft.checkLevelUp now inArmy).isUpgrade now := by
      unfold checkSkillUp at raising
      split at raising
      · exact raising
      · simp only [isUpgrade, isLevelUp, isSkillUp, Bool.or_eq_true, Bool.and_eq_true,
          decide_eq_true_eq] at raising ⊢
        omega
    have skill_same : (nft.checkLevelUp now inArmy).isSkillUp now = nft.isSkillUp now := by
      unfold checkLevelUp
      split <;> rfl
    simp only [isUpgrade, checkLevelUp_bag, skill_same, Bool.or_eq_true] at leveled ⊢
    exact leveled.imp_left isLevelUp_checkLevelUp

end Second

end Nft

/-- A hero with the soldiers it leads; the id 0 stands for no hero. -/
structure Team where
  heroId : ℕ
  soliderCfgId : ℕ
  soliderCount : ℤ

def getTeam (index : ℕ) (teams : List Team) : Option Team :=
  if index = 0 then none else teams[index - 1]?

/-- `teams[index] = team` -/
def setTeam (index : ℕ) (team : Team) (teams : List Team) : List Team :=
  if 0 < index ∧ index ≤ teams.length then teams.set (index - 1) team else teams ++ [team]

/-- `putInOrderArmyTeams` -/
def putInOrder (teams : List Team) : List Team :=
  teams.filter (·.heroId ≠ 0)

structure Bill where
  /-- The next level is configured, and the player has the buildings and resources for it. -/
  affordable : Bool
  speedUp : ℤ
  /-- `levelUpNeedTick`, in seconds. -/
  levelUpNeedTick : ℕ

/-- What is passed to `setNextTick`. -/
def Bill.needTick (bill : Bill) : ℤ :=
  if bill.speedUp ≤ 0 then bill.levelUpNeedTick * 1000 else 0

/-- A level-up that is under way can only be sped up. -/
def Bill.Pays (bill : Bill) (underWay : Bool) : Prop :=
  bill.affordable ∧ ¬ (underWay ∧ bill.speedUp = 0)
  deriving Decidable

/-- The table `REF_CANLEVELUP`. -/
def canLevelUp : Ref → Bool
  | .none | .levelUp | .skillUp | .army => true
  | _ => false

/-- A player together with the unions that take its donations. -/
structure State where
  /-- `warShips`, `heros` and `builds`. -/
  entities : ℕ → Option Nft
  useId : Option ℕ
  armys : AList fun _ : ℕ => List Team
  /-- The `token_ids` of each withdraw order. -/
  orders : List (List ℕ)
  /-- `skynet.timestamp()` -/
  clock : ℤ
  /-- The unions with the player among their members. -/
  members : List ℕ
  /-- The items of each union that the player has donated. -/
  items : ℕ → AList fun _ : ℕ => Nft
  /-- The lock `"union_" .. unionId` is taken. -/
  locked : ℕ → Bool

structure Settings where
  pid : ℕ
  isInnerServer : Bool
  nftTakeBackCD : ℤ

namespace State

/-- `getWarShip`, `getHero` and `getBuild`. -/
def getEntity (bag : EntityBag) (id : ℕ) (state : State) : Option Nft :=
  (state.entities id).filter (·.bag = bag)

def modify (id : ℕ) (change : Nft → Nft) (state : State) : State :=
  { state with
    entities := Function.update state.entities id ((state.entities id).map change) }

/-- Change the entity with an id if it is in a bag. -/
def modifyIn (bag : EntityBag) (id : ℕ) (change : Nft → Nft) (state : State) : State :=
  if (state.getEntity bag id).isSome then state.modify id change else state

/-- `delWarShip`, `delHero` and `delBuild`. -/
def delete (ids : List ℕ) (state : State) : State :=
  { state with entities := fun id => if id ∈ ids then none else state.entities id }

/-- `getInArmyFormationHeros` -/
def armyHeros (state : State) : List ℕ :=
  ((state.armys.entries.flatMap (·.2)).map (·.heroId)).filter (· ≠ 0)

def currentWarShip (state : State) : Option Nft :=
  state.useId.bind fun id => state.getEntity .warShipBag id

/-! ## Level-ups -/

def setNextTick (id : ℕ) (bill : Bill) (state : State) : State :=
  state.modify id fun nft => { nft with nextTick := state.clock + bill.needTick }

/-- What `levelUpHero` and `levelUpWarShip` share. -/
def startLevelUp (bag : EntityBag) (allowed : Ref → Bool) (id : ℕ) (bill : Bill)
    (state : State) : State :=
  match state.getEntity bag id with
  | none => state
  | some nft =>
      if allowed nft.ref ∧ bill.Pays (nft.isLevelUp state.clock) then state.setNextTick id bill
      else state

/-- What `heroSkillUp` and `warShipSkillUp` share. -/
def startSkillUp (bag : EntityBag) (allowed : Ref → Bool) (id skillUp : ℕ) (bill : Bill)
    (state : State) : State :=
  match state.getEntity bag id with
  | none => state
  | some nft =>
      if allowed nft.ref ∧ bill.Pays (nft.isSkillUp state.clock) then
        state.modify id fun nft =>
          { nft with skillUp := skillUp, skillUpNextTick := state.clock + bill.needTick }
      else state

def levelUpHero : ℕ → Bill → State → State :=
  startLevelUp .heroBag canLevelUp

def heroSkillUp : ℕ → ℕ → Bill → State → State :=
  startSkillUp .heroBag canLevelUp

def levelUpWarShip : ℕ → Bill → State → State :=
  startLevelUp .warShipBag fun ref => ref = .none || ref = .levelUp

def warShipSkillUp : ℕ → ℕ → Bill → State → State :=
  startSkillUp .warShipBag (· = .none)

/-- `minObj:setNextTick(0)` and `minObj:checkLevelUp()`, if a building leaves the work queue. -/
def finishBuild (minObj : Option ℕ) (state : State) : State :=
  match minObj with
  | none => state
  | some id =>
      state.modifyIn .buildBag id fun build =>
        { build with nextTick := state.clock }.checkLevelUp state.clock false

/-- A building that is no NFT may need the place of another one in the work queue. -/
def levelUpBuild (id : ℕ) (bill : Bill) (minObj : Option ℕ) (state : State) : State :=
  match state.getEntity .buildBag id with
  | none => state
  | some build =>
      if build.ref ∈ [.none, .grid, .levelUp, .union] ∧
          bill.Pays (build.isLevelUp state.clock) then
        if build.chain ≤ 0 ∧ bill.speedUp ≠ 1 then (state.finishBuild minObj).setNextTick id bill
        else state.setNextTick id bill
      else state

/-- The level-ups and skills whose time has come are raised. -/
def onSecond (state : State) : State :=
  { state with
    entities := fun id =>
      (state.entities id).map (·.onSecond state.clock (id ∈ state.armyHeros)) }

/-! ## Sales -/

/-- What `sellHero`, `sellWarShip` and `sellBuild` share. -/
def sell (bag : EntityBag) (sellable : Nft → Bool) (ids : List ℕ) (state : State) : State :=
  if ids.all fun id => (state.getEntity bag id).any fun nft =>
      sellable nft && !nft.isUpgrade state.clock && nft.ref = .none then
    state.delete ids
  else state

def sellHero (ids : List ℕ) (state : State) : State :=
  state.sell .heroBag (fun hero => hero.chain ≤ 0 && hero.unskilled) ids

def sellWarShip (ids : List ℕ) (state : State) : State :=
  state.sell .warShipBag
    (fun ship => ship.chain ≤ 0 && ship.unskilled && state.useId ≠ some ship.id) ids

def sellBuild (ids : List ℕ) (state : State) : State :=
  state.sell .buildBag
    (fun build => build.chain ≤ 0 || build.chain = ChainBridge.Withdraw.buildChainTower) ids

/-! ## Armies -/

def setUseWarShip (id : ℕ) (state : State) : State :=
  match state.getEntity .warShipBag id with
  | none => state
  | some ship => if ship.ref = .union then state else { state with useId := some id }

def setHeroRef (heroId : ℕ) (ref : Ref) (state : State) : State :=
  if heroId = 0 then state
  else state.modifyIn .heroBag heroId fun hero => { hero with ref := ref }

def heroReady (heroId : ℕ) (state : State) : Bool :=
  (state.getEntity .heroBag heroId).any fun hero => hero.ref = .none || hero.ref = .army

/-- `verifyArmyTeam`, where `fits` tells about the soldiers. -/
def verifyArmyTeam (fits : Bool) (team : Team) (state : State) : Bool :=
  if team.heroId = 0 then team.soliderCfgId = 0 && fits
  else state.heroReady team.heroId && fits

/-- The loop of `addArmys`, after a team and with the heroes that are in an army by then. -/
def checkTeams (fits : Bool) (state : State) : Option Team → List ℕ → List Team → Bool
  | _, _, [] => true
  | before, inArmy, team :: rest =>
      (match before with
        | none => team.heroId ≠ 0 || team.soliderCfgId ≠ 0
        | some cur =>
            cur.heroId ≠ 0 || cur.soliderCfgId ≠ 0 || team.heroId = 0 && team.soliderCfgId = 0) &&
        state.verifyArmyTeam fits team &&
        (team.heroId = 0 || team.heroId ∉ inArmy) &&
        checkTeams fits state (some team) (team.heroId :: inArmy) rest

/-- Only five teams are checked. -/
def addArmys (armyId : ℕ) (teams : List Team) (fits : Bool) (state : State) : State :=
  if armyId ∉ state.armys ∧ state.checkTeams fits none state.armyHeros (teams.take 5) then
    { state with armys := state.armys.insert armyId teams }
  else state

def otherHeros (old : Option Team) (state : State) : List ℕ :=
  state.armyHeros.filter fun heroId => heroId ∉ old.map (·.heroId)

/-- With a new team; a new name alone changes nothing here. -/
def updateArmy (armyId index : ℕ) (team : Team) (fits : Bool) (state : State) : State :=
  match state.armys.lookup armyId with
  | none => state
  | some teams =>
      let old := getTeam index teams
      if (team.heroId = 0 ∨ team.heroId ∉ state.otherHeros old) ∧
          state.verifyArmyTeam fits team then
        let freed := state.setHeroRef ((old.map (·.heroId)).getD 0) .none
        { freed.setHeroRef team.heroId .army with
          armys := state.armys.insert armyId (putInOrder (setTeam index team teams)) }
      else state

def freeHeros (teams : List Team) (state : State) : State :=
  teams.foldl (fun state team => state.setHeroRef team.heroId .none) state

/-- The heroes are free even if the soldiers find no place. -/
def deleteArmys (armyId : ℕ) (fits : Bool) (state : State) : State :=
  match state.armys.lookup armyId with
  | none => state
  | some teams =>
      let freed := state.freeHeros teams
      if fits then { freed with armys := state.armys.erase armyId } else freed

def cleanAllArmy (state : State) : State :=
  { state.freeHeros (state.armys.entries.flatMap (·.2)) with armys := ∅ }

/-- The editor of an inner server. -/
def editedArmy (settings : Settings) (armyId index : ℕ) (team : Team) (fits : Bool)
    (state : State) : State :=
  match settings.isInnerServer, state.armys.lookup armyId with
  | true, some teams =>
      let edited (state : State) : State :=
        if fits then { state with armys := state.armys.insert armyId (setTeam index team teams) }
        else state
      if team.heroId = 0 then edited state
      else if (state.getEntity .heroBag team.heroId).isNone then state
      else
        match getTeam index teams with
        | none => state.setHeroRef team.heroId .army
        | some old => edited ((state.setHeroRef team.heroId .army).setHeroRef old.heroId .none)
  | _, _ => state

end State

end BasWar.Unions.Donations
