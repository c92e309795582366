import BasWar.Player.Entity
import BasWar.Tables.Journal
import BasWar.Tables.Keyed
import Mathlib.Algebra.BigOperators.Group.Multiset.Basic
import Mathlib.Data.PNat.Basic

/-!
# The armies of a player

An army is a table of teams, each a hero with the soldiers it leads.  The soldiers are paid from the
reserves that buildings train, `trainSpace` for one soldier, and are paid back when they leave.  A
hero in an army has the reference `REF_ARMY`; a sale, a withdrawal and a donation only look at the
reference.  What other checks say is given with each request.
-/

namespace BasWar.Armies

open Tables

/-- A hero and the soldiers it leads; 0 stands for no hero and for no soldiers. -/
structure Team where
  heroId : ℤ
  soliderCfgId : ℤ
  soliderCount : ℤ

/-- A team at its place in the table `teams`. -/
structure Slot where
  index : ℤ
  team : Team

structure Army where
  armyId : ℤ
  teams : Keyed Slot.index

/-- What an army sees of a warship, a hero or a building. -/
structure Entity where
  ref : Ref
  /-- `heroSoldierSpace` at its level. -/
  soldierSpace : ℕ

abbrev EntityId : Type := EntityBag × ℤ

structure Reserve where
  buildId : ℤ
  trainCfgId : ℤ
  trainCount : ℤ
  trainTick : ℤ
  startTime : ℤ
  count : ℤ

/-- A row of `soliderConfig`. -/
structure SoliderCfg where
  trainSpace : Option ℕ+

structure Config where
  /-- By kind and level. -/
  soliders : ℤ → ℕ → Option SoliderCfg
  /-- The table gives a kind of soldiers the same space at each level. -/
  soliders_same : ∀ {cfgId : ℤ} {level other : ℕ} {first second : SoliderCfg},
    soliders cfgId level = some first → soliders cfgId other = some second → first = second
  /-- The global value `RecruitsTrainCD`. -/
  trainNeedTick : ℕ+
  isInnerServer : Bool

structure State where
  entities : EntityId → Option Entity
  armys : Keyed Army.armyId
  autoStatus : ℤ
  reserveArmy : Keyed Reserve.buildId
  /-- `maxTrainSpace` of a building at its level; 0 if there is none. -/
  maxTrainSpace : ℤ → ℕ
  /-- `getSoliderLevel`. -/
  soliderLevels : ℤ → ℕ
  /-- `getArmyTeamBaseSpace`. -/
  baseSpace : ℕ
  /-- What was checked for withdrawals that still wait for their orders. -/
  withdrawing : List (List EntityId)
  /-- What was checked for donations that the union has not confirmed. -/
  donating : List (List EntityId)

/-- A team that a player sends to a campaign; `buildId` is the id of its army. -/
structure BattleTeam where
  buildId : ℤ
  index : ℤ
  soliderCfgId : ℤ
  soliderCount : ℤ

structure Loss where
  id : ℤ
  index : ℤ
  dieCount : ℤ

inductive Entry
  | trained (count : ℤ)
  /-- What the reported dead are worth, and what the team has lost. -/
  | died (dead removed : ℤ)

namespace Team

def members (team : Team) : Multiset EntityId :=
  if team.heroId = 0 then 0 else {(.heroBag, team.heroId)}

end Team

namespace Config

def trainSpace (config : Config) (cfgId : ℤ) (level : ℕ) : Option ℕ+ :=
  (config.soliders cfgId level).bind SoliderCfg.trainSpace

def getNeedReserveSolider (config : Config) (num cfgId : ℤ) (level : ℕ) : Option ℤ :=
  (config.trainSpace cfgId level).map fun space => space.val * num

end Config

namespace Army

/-- A table of teams at the places 1, 2 and so on. -/
def ofTeams (teams : List Team) : Keyed Slot.index where
  objects := teams.zipIdx.map fun entry => ⟨entry.2 + 1, entry.1⟩
  nodup := by
    rw [List.map_map]
    have indices : (Slot.index ∘ fun entry : Team × ℕ => (⟨entry.2 + 1, entry.1⟩ : Slot)) =
        (fun index : ℕ => (index : ℤ) + 1) ∘ Prod.snd := rfl
    rw [indices, ← List.map_map, List.zipIdx_map_snd]
    refine List.Nodup.map (fun first second same => ?_) List.nodup_range'
    simpa using same

def teamList (army : Army) : List Team :=
  army.teams.objects.map Slot.team

/-- `putInOrderArmyTeams`. -/
def putInOrder (army : Army) : Army :=
  { army with teams := ofTeams (army.teamList.filter fun team => team.heroId ≠ 0) }

/-- `army.teams[index] = team` -/
def setTeam (army : Army) (index : ℤ) (team : Team) : Army :=
  { army with teams := army.teams.set ⟨index, team⟩ }

def sum {Amount : Type*} [AddCommMonoid Amount] (amount : Team → Amount) (army : Army) : Amount :=
  (army.teamList.map amount).sum

end Army

namespace Reserve

/-- `doReserveArmyTrain` starts with it. -/
def new (buildId : ℤ) : Reserve :=
  ⟨buildId, 0, 0, 0, 0, 0⟩

/-- The loop of `costReserveArmyCount`. -/
def cost : ℤ → List Reserve → List Reserve
  | _, [] => []
  | num, val :: rest =>
      if val.trainCfgId = 0 then
        if val.count < num then { val with count := 0 } :: cost (num - val.count) rest
        else { val with count := val.count - num } :: rest
      else val :: cost num rest

/-- The loop of `addReserveArmyCount`. -/
def add (maxTrainSpace : ℤ → ℕ) : ℤ → List Reserve → List Reserve
  | _, [] => []
  | num, val :: rest =>
      if val.trainCfgId = 0 then
        let space := maxTrainSpace val.buildId - val.count
        if space < num then
          { val with count := val.count + space } :: add maxTrainSpace (num - space) rest
        else { val with count := val.count + num } :: rest
      else val :: add maxTrainSpace num rest

/-- `updateReserveArmy` of one building, and how many it has trained. -/
def update (config : Config) (now : ℤ) (val : Reserve) : Reserve × ℤ :=
  let trainCount := max val.trainCount 0
  let addCount := (now - val.startTime) / config.trainNeedTick
  if 0 < val.trainTick ∧ 0 < val.startTime ∧ 0 < trainCount ∧ 0 < addCount then
    if trainCount ≤ addCount then
      ({ val with
          trainCount := 0, trainTick := 0, startTime := 0, count := val.count + trainCount },
        trainCount)
    else
      ({ val with
          trainCount := trainCount - addCount
          trainTick := val.trainTick + addCount * config.trainNeedTick
          startTime := val.startTime + addCount * config.trainNeedTick
          count := val.count + addCount },
        addCount)
  else
    ({ val with trainCount }, 0)

theorem cost_keys (num : ℤ) (reserves : List Reserve) :
    (cost num reserves).map buildId = reserves.map buildId := by
  induction reserves generalizing num with
  | nil => rfl
  | cons val rest ih =>
      unfold cost
      split
      · split
        · simp [ih]
        · simp
      · simp [ih]

theorem add_keys (maxTrainSpace : ℤ → ℕ) (num : ℤ) (reserves : List Reserve) :
    (add maxTrainSpace num reserves).map buildId = reserves.map buildId := by
  induction reserves generalizing num with
  | nil => rfl
  | cons val rest ih =>
      unfold add
      dsimp only
      split
      · split
        · simp [ih]
        · simp
      · simp [ih]

theorem update_buildId (config : Config) (now : ℤ) (val : Reserve) :
    (val.update config now).1.buildId = val.buildId := by
  unfold update
  dsimp only
  split
  · split <;> rfl
  · rfl

end Reserve

namespace State

def sum {Amount : Type*} [AddCommMonoid Amount] (amount : Team → Amount) (state : State) :
    Amount :=
  (state.armys.objects.map (Army.sum amount)).sum

def positions (state : State) : Multiset EntityId :=
  state.sum Team.members

/-- `getInArmyFormationHeros`. -/
def inArmy (state : State) (heroId : ℤ) : Bool :=
  ((.heroBag, heroId) : EntityId) ∈ state.positions

/-- `constant.setRef`, if there is such an entity. -/
def setRef (id : EntityId) (ref : Ref) (state : State) : State :=
  { state with
    entities := Function.update state.entities id
      ((state.entities id).map fun entity => { entity with ref }) }

def setHeroRef (heroId : ℤ) (ref : Ref) (state : State) : State :=
  if heroId = 0 then state else state.setRef (.heroBag, heroId) ref

/-- `delWarShip`, `delHero` and `delBuild`. -/
def delete (ids : List EntityId) (state : State) : State :=
  { state with entities := fun id => if id ∈ ids then none else state.entities id }

def queryArmys (state : State) : State :=
  { state with autoStatus := 1 }

/-! ## Reserves -/

/-- With the arguments that the armies use. -/
def getReserveArmyCount (state : State) : ℤ :=
  ((state.reserveArmy.objects.filter fun val => val.trainCfgId = 0).map Reserve.count).sum

/-- `none` stands for the result `false`. -/
def costReserveArmyCount (num : ℤ) (state : State) : Option State :=
  if num = 0 ∨ state.getReserveArmyCount < num then none
  else
    some { state with
      reserveArmy := state.reserveArmy.rewrite (Reserve.cost num) (Reserve.cost_keys num) }

/-- What finds no place is lost. -/
def addReserveArmyCount (num : ℤ) (state : State) : Option State :=
  if num = 0 then none
  else
    some { state with
      reserveArmy := state.reserveArmy.rewrite (Reserve.add state.maxTrainSpace num)
        (Reserve.add_keys state.maxTrainSpace num) }

def teamNeed (config : Config) (team : Team) (state : State) : Option ℤ :=
  if team.soliderCfgId = 0 then some 0
  else
    config.getNeedReserveSolider team.soliderCount team.soliderCfgId
      (state.soliderLevels team.soliderCfgId)

/-! ## Teams -/

/-- It fails for a hero that is not there. -/
def getArmyTeamSpace (heroId : ℤ) (state : State) : Option ℕ :=
  if heroId = 0 then some state.baseSpace
  else (state.entities (.heroBag, heroId)).map fun hero => hero.soldierSpace + state.baseSpace

def heroReady (heroId : ℤ) (state : State) : Bool :=
  (state.entities (.heroBag, heroId)).any fun hero => hero.ref = .none || hero.ref = .army

/-- The soldiers are unlocked and have room. -/
def soldiersReady (config : Config) (team : Team) (state : State) : Bool :=
  0 ≤ team.soliderCount && 0 < state.soliderLevels team.soliderCfgId &&
    match state.teamNeed config team, state.getArmyTeamSpace team.heroId with
    | some need, some space => need ≤ space
    | _, _ => false

def verifyArmyTeam (config : Config) (team : Team) (state : State) : Bool :=
  (if team.heroId = 0 then team.soliderCfgId = 0 else state.heroReady team.heroId) &&
    (team.soliderCfgId = 0 || state.soldiersReady config team)

/-- No team comes after an empty one, and the first one is not empty. -/
def follows (before : Option Team) (team : Team) : Bool :=
  match before with
  | none => team.heroId ≠ 0 || team.soliderCfgId ≠ 0
  | some cur =>
      cur.heroId ≠ 0 || cur.soliderCfgId ≠ 0 || team.heroId = 0 && team.soliderCfgId = 0

/-- The loop of `addArmys`, after a team and with the heroes of the teams so far: what the soldiers
need. -/
def checkTeams (config : Config) (state : State) : Option Team → List ℤ → List Team → Option ℤ
  | _, _, [] => some 0
  | before, used, team :: rest =>
      if follows before team && state.verifyArmyTeam config team &&
          (team.heroId = 0 || team.heroId ∉ used && !state.inArmy team.heroId) then
        match state.teamNeed config team,
          checkTeams config state (some team) (team.heroId :: used) rest with
        | some need, some others => some (need + others)
        | _, _ => none
      else none

/-- What is to be paid for a new army, unless it is refused.  The loop ends after the fifth team. -/
def newArmyNeed (config : Config) (armyId : ℤ) (nameOk : Bool) (teams : List Team)
    (state : State) : Option ℤ :=
  if (state.armys.get armyId).isNone ∧ nameOk then
    checkTeams config state none [] (teams.take 5)
  else none

def addArmys (config : Config) (armyId : ℤ) (nameOk : Bool) (teams : List Team)
    (state : State) : State :=
  match state.newArmyNeed config armyId nameOk teams with
  | none => state
  | some need =>
      match if 0 < need then state.costReserveArmyCount need else some state with
      | none => state
      | some paid =>
          { paid with armys := paid.armys.add ⟨armyId, Army.ofTeams teams⟩ }.queryArmys

/-- The old soldiers are paid back and the new ones are paid for. -/
def exchange (config : Config) (old : Option Team) (newTeam : Team) (state : State) :
    Option State :=
  match state.teamNeed config newTeam,
    (old.map fun team => state.teamNeed config team).getD (some 0) with
  | some newNeed, some oldNeed =>
      if newNeed < oldNeed then state.addReserveArmyCount (oldNeed - newNeed)
      else if oldNeed < newNeed then state.costReserveArmyCount (newNeed - oldNeed)
      else some state
  | _, _ => none

/-- What `updateArmy` does with a team that it has checked and paid for. -/
def placeTeam (army : Army) (index : ℤ) (newTeam : Team) (state : State) : State :=
  let oldHero := ((army.teams.get index).map fun slot => slot.team.heroId).getD 0
  let marked := (state.setHeroRef oldHero .none).setHeroRef newTeam.heroId .army
  { marked with armys := marked.armys.put (army.setTeam index newTeam).putInOrder }.queryArmys

/-- The hero of a new team stands in no other place. -/
def heroFree (army : Army) (index heroId : ℤ) (state : State) : Bool :=
  heroId = 0 || (army.teams.get index).any (fun slot => slot.team.heroId = heroId) ||
    !state.inArmy heroId

/-- Only the first team counts; without a team the army gets a new name. -/
def updateArmy (config : Config) (armyId index : ℤ) (nameOk : Bool) (teams : List Team)
    (state : State) : State :=
  match state.armys.get armyId, teams with
  | none, _ => state
  | some _, [] => if nameOk then state.queryArmys else state
  | some army, newTeam :: _ =>
      if state.heroFree army index newTeam.heroId && state.verifyArmyTeam config newTeam then
        match state.exchange config ((army.teams.get index).map Slot.team) newTeam with
        | none => state
        | some paid => paid.placeTeam army index newTeam
      else state

/-- The loop of `deleteArmys`: the heroes are freed; what the soldiers need, unless it fails. -/
def freeTeams (config : Config) : List Team → State → State × Option ℤ
  | [], state => (state, some 0)
  | team :: rest, state =>
      match if team.soliderCount = 0 then some 0 else state.teamNeed config team with
      | none => (state, none)
      | some need =>
          let (freed, others) := freeTeams config rest (state.setHeroRef team.heroId .none)
          (freed, others.map (need + ·))

def deleteArmys (config : Config) (armyId : ℤ) (state : State) : State :=
  match state.armys.get armyId with
  | none => state
  | some army =>
      match state.freeTeams config army.teamList with
      | (freed, none) => freed
      | (freed, some need) =>
          match if need = 0 then some freed else freed.addReserveArmyCount need with
          | none => freed
          | some repaid => { repaid with armys := repaid.armys.erase armyId }.queryArmys

/-- The loop of `cleanAllArmy`; `false` if it fails. -/
def cleanTeams (config : Config) : List Team → State → State × Bool
  | [], state => (state, true)
  | team :: rest, state =>
      let freed := state.setHeroRef team.heroId .none
      match freed.teamNeed config team with
      | none => (freed, false)
      | some need => cleanTeams config rest ((freed.addReserveArmyCount need).getD freed)

def cleanAllArmy (config : Config) (state : State) : State :=
  match state.cleanTeams config (state.armys.objects.flatMap Army.teamList) with
  | (cleaned, false) => cleaned
  | (cleaned, true) => { cleaned with armys := ⟨[], List.nodup_nil⟩ }.queryArmys

/-- The soldiers of the editor are there and are not too many. -/
def editable (config : Config) (team : Team) : Bool :=
  team.soliderCfgId = 0 ||
    (config.soliders team.soliderCfgId 0).isSome && 0 ≤ team.soliderCount && team.soliderCount ≤ 99

/-- The editor of an inner server, once the references are set. -/
def writeTeam (config : Config) (army : Army) (index : ℤ) (team : Team) (state : State) : State :=
  if editable config team then
    { state with armys := state.armys.put (army.setTeam index team) }.queryArmys
  else state

/-- The editor of an inner server.  It fails for a hero at a place that is not there. -/
def editedArmy (config : Config) (armyId index : ℤ) (team : Team) (state : State) : State :=
  match config.isInnerServer, state.armys.get armyId with
  | true, some army =>
      if team.heroId = 0 then state.writeTeam config army index team
      else if (state.entities (.heroBag, team.heroId)).isNone then state
      else
        let marked := state.setHeroRef team.heroId .army
        match army.teams.get index with
        | none => marked
        | some old => (marked.setHeroRef old.team.heroId .none).writeTeam config army index team
  | _, _ => state

/-! ## Soldiers -/

/-- How many soldiers more a team gets: it is filled up as far as the reserves reach. -/
def fillCount (teamSpace soliderCount trainSpace reserves : ℤ) : ℤ :=
  let num := (teamSpace - soliderCount * trainSpace) / trainSpace
  if max reserves 0 < trainSpace * num then max reserves 0 / trainSpace else num

def fillTeam (army : Army) (index : ℤ) (team : Team) (trainSpace num : ℤ) (state : State) :
    State :=
  let filled :=
    { state with
      armys := state.armys.put
        (army.setTeam index { team with soliderCount := team.soliderCount + num }) }
  (filled.costReserveArmyCount (trainSpace * num)).getD filled

/-- `none` if it fails. -/
def fillUpSoliders (config : Config) (armyId index : ℤ) (state : State) : Option State :=
  (state.armys.get armyId).bind fun army =>
    (army.teams.get index).bind fun slot =>
      match state.getArmyTeamSpace slot.team.heroId,
        config.trainSpace slot.team.soliderCfgId
          (state.soliderLevels slot.team.soliderCfgId) with
      | some teamSpace, some trainSpace =>
          some (state.fillTeam army index slot.team trainSpace
            (fillCount teamSpace slot.team.soliderCount trainSpace state.getReserveArmyCount))
      | _, _ => none

/-- A place without soldiers is left out. -/
def fillPlace (config : Config) (place : ℤ × ℤ) (state : State) : Option State :=
  (state.armys.get place.1).bind fun army =>
    (army.teams.get place.2).bind fun slot =>
      if slot.team.soliderCfgId = 0 then some state
      else state.fillUpSoliders config place.1 place.2

/-- One place after the other; `false` if one fails. -/
def fillAll (config : Config) : List (ℤ × ℤ) → State → State × Bool
  | [], state => (state, true)
  | place :: places, state =>
      match state.fillPlace config place with
      | none => (state, false)
      | some filled => fillAll config places filled

def places (army : Army) : List (ℤ × ℤ) :=
  army.teams.objects.map fun slot => (army.armyId, slot.index)

/-- Without ids all armies are filled up. -/
def oneKeyFillUpSoliders (config : Config) (armyIds : List ℤ) (state : State) : State :=
  let armys := if armyIds = [] then state.armys.objects else armyIds.filterMap state.armys.get
  match state.fillAll config (armys.flatMap places) with
  | (filled, false) => filled
  | (filled, true) => filled.queryArmys

def battleMaxSoliderTeam : ℕ := 8

/-- What a battle with an army fills up. -/
def getFightSoliders (config : Config) (armyId : ℤ) (state : State) : State :=
  match state.armys.get armyId with
  | none => state
  | some army =>
      let slots := (army.teams.objects.filter fun slot =>
        0 < slot.team.soliderCfgId ∧ 0 ≤ slot.team.soliderCount).take battleMaxSoliderTeam
      if state.autoStatus = 1 then
        (state.fillAll config (slots.map fun slot => (armyId, slot.index))).1
      else state

/-- `_getStarmapCampaignSoldier`; `none` if it fails. -/
def getStarmapCampaignSoldier (config : Config) (team : BattleTeam) (state : State) :
    Option State :=
  if team.buildId = 0 ∨ team.soliderCfgId = 0 then some state
  else
    match state.armys.get team.buildId with
    | none => some state
    | some army =>
        (army.teams.get team.index).bind fun slot =>
          if slot.team.soliderCfgId ≠ team.soliderCfgId ∨
              slot.team.soliderCount < team.soliderCount ∨ state.autoStatus ≠ 1 then some state
          else state.fillUpSoliders config team.buildId team.index

/-- What a campaign fills up, with the teams up to the one that another check stops at. -/
def takeStarmapCampaignArmy (config : Config) : List BattleTeam → State → State
  | [], state => state
  | team :: teams, state =>
      match state.getStarmapCampaignSoldier config team with
      | none => state
      | some filled => takeStarmapCampaignArmy config teams filled

def putInOrderArmyTeams (armyId : ℤ) (state : State) : State :=
  match state.armys.get armyId with
  | none => state
  | some army => { state with armys := state.armys.put army.putInOrder }

/-- What so many soldiers of the kind of a team are worth. -/
def worthOf (config : Config) (team : Team) (count : ℤ) (state : State) : ℤ :=
  (state.teamNeed config { team with soliderCount := count }).getD 0

def loseSoldiers (config : Config) (army : Army) (slot : Slot) (dieCount : ℤ) (state : State) :
    State × Entry :=
  let left := max (slot.team.soliderCount - dieCount) 0
  ({ state with
      armys := state.armys.put
        (army.setTeam slot.index { slot.team with soliderCount := left }) },
    .died (state.worthOf config slot.team dieCount)
      (state.worthOf config slot.team (slot.team.soliderCount - left)))

/-- The loop of `_costSolidersLife`, and the army that is put in order after it; `none` if it
fails. -/
def loseAll (config : Config) : ℤ → List Loss → State → State × List Entry × Option ℤ
  | armyId, [], state => (state, [], some armyId)
  | armyId, loss :: rest, state =>
      if loss.index = 0 then loseAll config armyId rest state
      else
        match state.armys.get (loss.id - loss.index) with
        | none => loseAll config (loss.id - loss.index) rest state
        | some army =>
            match army.teams.get loss.index with
            | none => (state, [], none)
            | some slot =>
                let (less, entry) := state.loseSoldiers config army slot loss.dieCount
                let (last, entries, ordered) := loseAll config (loss.id - loss.index) rest less
                (last, entry :: entries, ordered)

def costSolidersLife (config : Config) (soliders : List Loss) (state : State) :
    State × List Entry :=
  match state.loseAll config 0 soliders with
  | (last, entries, none) => (last, entries)
  | (last, entries, some armyId) =>
      (if armyId = 0 then last else last.putInOrderArmyTeams armyId, entries)

/-- A campaign gives its soldiers ten times the id of their army, plus their index. -/
def starmapCampaignCostArmyLife (config : Config) (dieSoliders : List Loss) (state : State) :
    State × List Entry :=
  state.costSolidersLife config
    (dieSoliders.map fun loss => { loss with id := loss.id / 10 + loss.index })

/-! ## Training -/

/-- `doReserveArmyTrain`, where `affords` tells about the resources. -/
def doReserveArmyTrain (id soliderCfgId soliderCount : ℤ) (speedup affords : Bool) (now : ℤ)
    (state : State) : State × List Entry :=
  let val := (state.reserveArmy.get id).getD (.new id)
  let opened := { state with reserveArmy := state.reserveArmy.add val }
  if (val.trainCount = 0 ∧ soliderCount = 0) ∨
      state.maxTrainSpace id < val.count + soliderCount ∨ affords = false then
    (opened, [])
  else
    let total := val.trainCount + soliderCount
    if speedup then
      ({ opened with
          reserveArmy := opened.reserveArmy.put
            ⟨val.buildId, soliderCfgId, 0, 0, 0, val.count + total⟩ },
        [.trained total])
    else
      let trainTick := if val.trainTick = 0 then now else val.trainTick
      let startTime := if val.trainTick = 0 then now else val.startTime
      ({ opened with
          reserveArmy := opened.reserveArmy.put
            ⟨val.buildId, soliderCfgId, total, trainTick, startTime, val.count⟩ },
        [])

/-- `free` if the building is not being raised. -/
def reserveArmyTrain (id soliderCfgId soliderCount : ℤ) (free affords : Bool) (now : ℤ)
    (state : State) : State × List Entry :=
  if 0 < soliderCount ∧ 0 < state.maxTrainSpace id ∧ free then
    state.doReserveArmyTrain id soliderCfgId soliderCount false affords now
  else (state, [])

def speedupReserveArmy (id soliderCfgId soliderCount : ℤ) (free affords : Bool) (now : ℤ)
    (state : State) : State × List Entry :=
  if 0 ≤ soliderCount ∧ 0 < state.maxTrainSpace id ∧ free then
    state.doReserveArmyTrain id soliderCfgId soliderCount true affords now
  else (state, [])

def updateReserveArmy (config : Config) (now : ℤ) (state : State) : State × List Entry :=
  ({ state with
      reserveArmy := state.reserveArmy.map (fun val => (val.update config now).1)
        (Reserve.update_buildId config now) },
    [.trained ((state.reserveArmy.objects.map fun val => (val.update config now).2).sum)])

/-- A kind of soldiers is raised, if it has another level. -/
def levelUpSolider (config : Config) (cfgId : ℤ) (state : State) : State :=
  let level := state.soliderLevels cfgId
  if (config.soliders cfgId level).isSome ∧ (config.soliders cfgId (level + 1)).isSome then
    { state with soliderLevels := Function.update state.soliderLevels cfgId (level + 1) }
  else state

/-! ## The bags -/

def idle (id : EntityId) (state : State) : Bool :=
  (state.entities id).any fun entity => entity.ref = .none

/-- `sellHero`, `sellWarShip` and `sellBuild`; each id with what its other checks say. -/
def sell (bag : EntityBag) (ids : List (ℤ × Bool)) (state : State) : State :=
  if ids.all fun entry => state.idle (bag, entry.1) && entry.2 then
    state.delete (ids.map fun entry => (bag, entry.1))
  else state

/-- `dismantleHero` and `dismantleWarShip`: one after the other, up to the first refusal. -/
def dismantle (bag : EntityBag) : List (ℤ × Bool) → State → State
  | [], state => state
  | (id, allowed) :: rest, state =>
      if state.idle (bag, id) && allowed then dismantle bag rest (state.delete [(bag, id)])
      else state

/-- The checks of `doWithdrawNFT`; then it waits for its orders. -/
def withdrawNFT (ids : List (EntityId × Bool)) (state : State) : State :=
  if ids.all fun entry => state.idle entry.1 && entry.2 then
    { state with withdrawing := state.withdrawing ++ [ids.map Prod.fst] }
  else state

/-- The end of `doWithdrawNFT`. -/
def withdrawn (turn : ℕ) (state : State) : State :=
  match state.withdrawing[turn]? with
  | none => state
  | some ids => { state.delete ids with withdrawing := state.withdrawing.eraseIdx turn }

/-- `canDonateNft`. -/
def donateNft (ids : List (EntityId × Bool)) (state : State) : State :=
  if ids.all fun entry => state.idle entry.1 && !state.inArmy entry.1.2 && entry.2 then
    { state with donating := state.donating ++ [ids.map Prod.fst] }
  else state

/-- What the union takes of a donation is marked. -/
def onUnionDonateNft (turn : ℕ) (taken : EntityId → Bool) (state : State) : State :=
  match state.donating[turn]? with
  | none => state
  | some ids =>
      { (ids.filter taken).foldl (fun state id => state.setRef id .union) state with
        donating := state.donating.eraseIdx turn }

def returnFromUnion (bag : EntityBag) (idList : List ℤ) (state : State) : State :=
  idList.foldl (fun state id => state.setRef (bag, id) .none) state

def addEntity (id : EntityId) (soldierSpace : ℕ) (state : State) : State :=
  { state with entities := Function.update state.entities id (some ⟨.none, soldierSpace⟩) }

/-- `hero:checkLevelUp`, once its time has come. -/
def checkLevelUp (heroId : ℤ) (soldierSpace : ℕ) (state : State) : State :=
  match state.entities (.heroBag, heroId) with
  | none => state
  | some hero =>
      let ref :=
        if hero.ref = .levelUp then if state.inArmy heroId then .army else .none else hero.ref
      { state with
        entities := Function.update state.entities (.heroBag, heroId) (some ⟨ref, soldierSpace⟩) }

/-- `checkInArmy`, at the end of `hero:checkSkillUp`. -/
def checkInArmy (heroId : ℤ) (state : State) : State :=
  if state.inArmy heroId then state.setHeroRef heroId .army else state

/-- Whatever else refers to a warship or a building, it is no army. -/
def setOtherRef (id : EntityId) (ref : {ref : Ref // ref ≠ .army}) (state : State) : State :=
  if id.1 = .heroBag then state else state.setRef id ref

end State

inductive Event
  | addArmys (armyId : ℤ) (nameOk : Bool) (teams : List Team)
  | updateArmy (armyId index : ℤ) (nameOk : Bool) (teams : List Team)
  | deleteArmys (armyId : ℤ)
  | cleanAllArmy
  | editedArmy (armyId index : ℤ) (team : Team)
  | updateAutomatic (autoStatus : ℤ)
  | oneKeyFillUpSoliders (armyIds : List ℤ)
  | getFightSoliders (armyId : ℤ)
  | takeStarmapCampaignArmy (teams : List BattleTeam)
  | costSolidersLife (soliders : List Loss)
  | starmapCampaignCostArmyLife (dieSoliders : List Loss)
  | reserveArmyTrain (id soliderCfgId soliderCount : ℤ) (free affords : Bool) (now : ℤ)
  | speedupReserveArmy (id soliderCfgId soliderCount : ℤ) (free affords : Bool) (now : ℤ)
  | updateReserveArmy (now : ℤ)
  | levelUpSolider (cfgId : ℤ)
  | levelUpBuild (id : ℤ) (maxTrainSpace : ℕ)
  | levelUpBase (baseSpace : ℕ)
  | sell (bag : EntityBag) (ids : List (ℤ × Bool))
  | dismantle (bag : EntityBag) (ids : List (ℤ × Bool))
  | withdrawNFT (ids : List (EntityId × Bool))
  | withdrawn (turn : ℕ)
  | donateNft (ids : List (EntityId × Bool))
  | onUnionDonateNft (turn : ℕ) (taken : EntityId → Bool)
  | returnFromUnion (bag : EntityBag) (idList : List ℤ)
  | addEntity (id : EntityId) (soldierSpace : ℕ)
  | checkLevelUp (heroId : ℤ) (soldierSpace : ℕ)
  | checkSkillUp (heroId : ℤ)
  | setOtherRef (id : EntityId) (ref : {ref : Ref // ref ≠ .army})

/-- The armies, reserves and bags of one player. -/
def machine (config : Config) : Machine State Event Entry where
  step state
    | .addArmys armyId nameOk teams => (state.addArmys config armyId nameOk teams, [])
    | .updateArmy armyId index nameOk teams =>
        (state.updateArmy config armyId index nameOk teams, [])
    | .deleteArmys armyId => (state.deleteArmys config armyId, [])
    | .cleanAllArmy => (state.cleanAllArmy config, [])
    | .editedArmy armyId index team => (state.editedArmy config armyId index team, [])
    | .updateAutomatic autoStatus => ({ state with autoStatus }, [])
    | .oneKeyFillUpSoliders armyIds => (state.oneKeyFillUpSoliders config armyIds, [])
    | .getFightSoliders armyId => (state.getFightSoliders config armyId, [])
    | .takeStarmapCampaignArmy teams => (state.takeStarmapCampaignArmy config teams, [])
    | .costSolidersLife soliders => state.costSolidersLife config soliders
    | .starmapCampaignCostArmyLife dieSoliders =>
        state.starmapCampaignCostArmyLife config dieSoliders
    | .reserveArmyTrain id soliderCfgId soliderCount free affords now =>
        state.reserveArmyTrain id soliderCfgId soliderCount free affords now
    | .speedupReserveArmy id soliderCfgId soliderCount free affords now =>
        state.speedupReserveArmy id soliderCfgId soliderCount free affords now
    | .updateReserveArmy now => state.updateReserveArmy config now
    | .levelUpSolider cfgId => (state.levelUpSolider config cfgId, [])
    | .levelUpBuild id maxTrainSpace =>
        ({ state with maxTrainSpace := Function.update state.maxTrainSpace id maxTrainSpace }, [])
    | .levelUpBase baseSpace => ({ state with baseSpace }, [])
    | .sell bag ids => (state.sell bag ids, [])
    | .dismantle bag ids => (state.dismantle bag ids, [])
    | .withdrawNFT ids => (state.withdrawNFT ids, [])
    | .withdrawn turn => (state.withdrawn turn, [])
    | .donateNft ids => (state.donateNft ids, [])
    | .onUnionDonateNft turn taken => (state.onUnionDonateNft turn taken, [])
    | .returnFromUnion bag idList => (state.returnFromUnion bag idList, [])
    | .addEntity id soldierSpace => (state.addEntity id soldierSpace, [])
    | .checkLevelUp heroId soldierSpace => (state.checkLevelUp heroId soldierSpace, [])
    | .checkSkillUp heroId => (state.checkInArmy heroId, [])
    | .setOtherRef id ref => (state.setOtherRef id ref, [])

end BasWar.Armies
