import BasWar.Starmap.GridService
import Mathlib.Data.Rat.Defs
import Mathlib.Data.List.Sort

/-!
# Campaigns on a grid

Armies join the battle queue of a campaign.  Every second a new tick pops the armies whose time has
come and fights them one after the other under the lock of the campaign.  A tick is suspended while
it waits for the lock, for the result of a battle, and for the hand-backs of the grid when the
campaign ends.  A later tick may run in between.
-/

namespace BasWar.Starmap.Campaigns

open Cooperative

/-- `armyType` of a battle. -/
inductive ArmyType
  | self
  | union
  deriving DecidableEq

structure BattleBuild where
  id : ℕ
  hp : ℤ
  maxHp : ℤ

structure Solider where
  id : ℕ
  count : ℤ
  deriving DecidableEq

structure DieSolider where
  id : ℕ
  cfgId : ℕ
  dieCount : ℤ

structure FightArmy where
  /-- `curLife` of the warship, if there is one. -/
  mainWarShip : Option ℤ
  /-- `curLife` of the heroes. -/
  heros : List ℤ
  soliders : List Solider
  deriving DecidableEq

/-- An entry of the battle queue; `serial` stands for the identity of the entry and `attack` for
that of the call of `startBattle`. -/
structure Info where
  serial : ℕ
  armyType : ArmyType
  battleTick : ℤ
  attacker : Owner
  fightArmy : FightArmy
  attack : ℕ
  battleNum : ℕ
  deriving DecidableEq

/-- What `calcBattleResult` answers, and what the star map says about the limits of the attacker
if that ends the campaign. -/
structure BattleEnd where
  result : BattleResult
  /-- Id and `hp` of the buildings. -/
  builds : List (ℕ × ℤ)
  soliders : List DieSolider
  hasRoom : Bool

structure Report where
  playerId : ℕ
  result : BattleResult
  leftHp : ℤ
  loseHp : ℤ

structure Statistics where
  atkCnt : ℕ
  atkHp : ℤ

/-- Messages about armies. -/
inductive Message
  | onGridCampaignBattleErr (playerId : ℕ)
  /-- `returnBackCampaignArmy`, sent to the union. -/
  | returnBackCampaignArmy (info : Info)
  /-- `starmapCampaignCostArmyLife`, sent to the player. -/
  | playerCostArmyLife (info : Info) (dieSoliders : List DieSolider)
  /-- `starmapCampaignCostArmyLife`, sent to the union. -/
  | unionCostArmyLife (info : Info) (leftSoliders : List Solider)

structure Settings where
  grid : Starmap.Settings
  /-- `LeagueBattleTime` or `LeaguePersonBattleTime`. -/
  campaignTime : ℤ
  /-- `CampaignBattleInterval`. -/
  battleInterval : ℤ
  damageToPerConquest : ℤ
  winCostWarshipLife : ℤ
  failCostWarshipLife : ℤ
  winCostHeroLife : ℤ
  failCostHeroLife : ℤ
  /-- `table.sort` by `battleTick`, which may reorder entries with the same tick. -/
  sort : List Info → List Info
  sort_perm : ∀ queue, (sort queue).Perm queue
  sort_sorted : ∀ queue, (sort queue).Pairwise (·.battleTick ≤ ·.battleTick)

/-- Suspended ticks.  A tick goes on with `left` rounds of its loop. -/
inductive Task
  /-- Waits for the lock of the campaign. -/
  | lock (tick : ℕ) (info : Info) (left : ℕ)
  /-- `battleMgr:startBattle` waits for `calcBattleResult`. -/
  | calcBattleResult (tick : ℕ) (info : Info) (left : ℕ)
  /-- `Grid:onCampaignEnd` waits for a hand-back; a tick that has timed out has no loop. -/
  | onCampaignEnd (loop : Option (ℕ × ℕ)) (task : Starmap.Task)

inductive Reply
  /-- The lock wakes the first thread of its queue. -/
  | wakeup
  | battle (battle : BattleEnd)
  | failed
  | done
  | raise

inductive Request
  | startBattle (attacker : Owner) (armyType : ArmyType) (armyInfos : List FightArmy)
  | onSecond
  | elapse (seconds : ℕ)

/-- A campaign with its grid and the messages it has sent. -/
structure Campaign where
  campaignEndTick : ℤ
  isEnd : Bool
  builds : List BattleBuild
  maxHp : ℤ
  maxLoseHp : ℤ
  battleQueue : List Info
  reports : List Report
  attackContriDegree : ℕ → ℚ
  attackerStatistics : ℕ → Option Statistics
  grid : Grid
  /-- `current_thread` of the lock, and then its `thread_queue`. -/
  threads : List ℕ
  nextTick : ℕ
  nextSerial : ℕ
  /-- Every entry that was put in the queue. -/
  joined : List Info
  sent : List Message
  /-- Calls of `Starmap:onCampaignEnd`. -/
  campaignEnds : List BattleResult
  /-- Players told `CAMPAIGN_TIMEOUT`. -/
  refused : List ℕ

def warShipCostLife (settings : Settings) (result : BattleResult) (curLife : ℤ) : ℤ :=
  let costLife :=
    match result with
    | .win => settings.winCostWarshipLife
    | .lose => settings.failCostWarshipLife
    | _ => 0
  if costLife = 0 ∨ curLife = 0 then curLife else max (curLife - costLife) 0

/-- `Campaign:_herosCostLife` for one hero. -/
def heroCostLife (settings : Settings) (result : BattleResult) (curLife : ℤ) : ℤ :=
  let costLife :=
    match result with
    | .win => settings.winCostHeroLife
    | .lose => settings.failCostHeroLife
    | _ => 0
  if costLife ≠ 0 ∧ 0 < curLife then curLife - min curLife costLife else curLife

def getLeftSoliders (soliders : List Solider) (dieSoliders : List DieSolider) : List Solider :=
  soliders.map fun solider =>
    { solider with
      count := solider.count -
        ((dieSoliders.filter (·.id = solider.id)).map (·.dieCount)).sum }

def FightArmy.fought (settings : Settings) (battle : BattleEnd) (army : FightArmy) : FightArmy where
  mainWarShip := army.mainWarShip.map (warShipCostLife settings battle.result)
  heros := army.heros.map (heroCostLife settings battle.result)
  soliders := getLeftSoliders army.soliders battle.soliders

/-- The inner loop of `updateBuilds`: the `hp` that one building loses, and what is left of it.  A
building that is named twice is inserted twice. -/
def hitBuild (build : BattleBuild) (hits : List (ℕ × ℤ)) : ℤ × List BattleBuild :=
  hits.foldl
    (fun (hit : ℤ × List BattleBuild) (result : ℕ × ℤ) =>
      let current := hit.2.head?.getD build
      let diffHp := hit.1 + (current.hp - result.2)
      if 0 < result.2 then
        (diffHp, List.replicate (hit.2.length + 1) { current with hp := result.2 })
      else (diffHp, hit.2))
    (0, [])

/-- The message `starmapCampaignCostArmyLife`. -/
def costArmyLife (settings : Settings) (info : Info) (battle : BattleEnd) : Message :=
  let fought := { info with fightArmy := info.fightArmy.fought settings battle }
  match info.armyType with
  | .self => .playerCostArmyLife fought battle.soliders
  | .union => .unionCostArmyLife fought fought.fightArmy.soliders

namespace Campaign

/-- `skynet.timestamp()`. -/
def clock (campaign : Campaign) : ℤ :=
  campaign.grid.clock

def send (message : Message) (campaign : Campaign) : Campaign :=
  { campaign with sent := message :: campaign.sent }

/-- The entries that `startBattle` makes. -/
def newInfos (settings : Settings) (attacker : Owner) (armyType : ArmyType)
    (armyInfos : List FightArmy) (campaign : Campaign) : List Info :=
  armyInfos.mapIdx fun index army =>
    { serial := campaign.nextSerial + index
      armyType := armyType
      battleTick := campaign.clock + index * (settings.battleInterval * 1000)
      attacker := attacker
      fightArmy := army
      attack := campaign.nextSerial
      battleNum := armyInfos.length }

def startBattle (settings : Settings) (attacker : Owner) (armyType : ArmyType)
    (armyInfos : List FightArmy) (campaign : Campaign) : Campaign :=
  if campaign.campaignEndTick ≤ campaign.clock then
    { campaign with refused := attacker.playerId :: campaign.refused }
  else
    let infos := campaign.newInfos settings attacker armyType armyInfos
    { campaign with
      battleQueue := settings.sort (campaign.battleQueue ++ infos)
      nextSerial := campaign.nextSerial + armyInfos.length
      joined := campaign.joined ++ infos }

def addAttackContriDegree (settings : Settings) (attacker : Owner) (diffHp : ℤ)
    (campaign : Campaign) : Campaign :=
  if settings.grid.belongType = .union ∧ 0 < campaign.maxHp then
    { campaign with
      attackContriDegree := fun pid =>
        if pid = attacker.playerId then
          campaign.attackContriDegree pid + diffHp / max settings.damageToPerConquest 1
        else campaign.attackContriDegree pid }
  else campaign

/-- `Campaign:updateBuilds`, with the `hp` that was lost. -/
def updateBuilds (settings : Settings) (results : List (ℕ × ℤ)) (attacker : Owner)
    (campaign : Campaign) : Campaign × ℤ :=
  if results = [] then (campaign, 0)
  else
    let hit := campaign.builds.map fun build =>
      hitBuild build (results.filter (·.1 = build.id))
    let diffHp := (hit.map (·.1)).sum
    let updated : Campaign := { campaign with builds := hit.flatMap (·.2) }
    (updated.addAttackContriDegree settings attacker diffHp, diffHp)

def getBuildsLeftHp (campaign : Campaign) : ℤ :=
  (campaign.builds.map (·.hp)).sum

/-- `Campaign:_addAttackerAtkCnt` and `_addAttackerAtkHp`. -/
def addStatistics (attacker : Owner) (atkCnt : ℕ) (atkHp : ℤ) (campaign : Campaign) : Campaign :=
  { campaign with
    attackerStatistics := fun pid =>
      if pid = attacker.playerId then
        let statistics := (campaign.attackerStatistics pid).getD ⟨0, 0⟩
        some ⟨statistics.atkCnt + atkCnt, statistics.atkHp + atkHp⟩
      else campaign.attackerStatistics pid }

/-- `Campaign:cancelBattle`: the armies of unions go back. -/
def cancelBattle (campaign : Campaign) : Campaign :=
  { campaign with
    battleQueue := []
    sent := ((campaign.battleQueue.filter (·.armyType = .union)).map
      Message.returnBackCampaignArmy).reverse ++ campaign.sent }

/-- The part of `endBattle` that ends the campaign, with the calls of `Grid:onCampaignEnd`. -/
def endCampaign (settings : Settings) (result : BattleResult) (winner : Option Owner)
    (hasRoom : Bool) (campaign : Campaign) : Campaign × List Starmap.Task :=
  let cancelled : Campaign :=
    { campaign with isEnd := true, campaignEndTick := campaign.clock }.cancelBattle
  let ended := cancelled.grid.onCampaignEnd settings.grid
    ⟨result, winner, cancelled.builds.map (·.id), hasRoom⟩
  ({ cancelled with grid := ended.1, campaignEnds := result :: cancelled.campaignEnds }, ended.2)

/-- `endBattle` counts the attack; nobody has attacked when the campaign times out. -/
def countAttack (attacker : Option Owner) (campaign : Campaign) : Campaign :=
  match attacker with
  | some attacker => campaign.addStatistics attacker 1 0
  | none => campaign

def endBattle (settings : Settings) (result : BattleResult) (attacker : Option Owner)
    (hasRoom : Bool) (campaign : Campaign) : Campaign × List Starmap.Task :=
  match result with
  | .win => (campaign.countAttack attacker).endCampaign settings .win attacker hasRoom
  | .unknow => (campaign.countAttack attacker).endCampaign settings .unknow none hasRoom
  | .lose | .offline => (campaign.countAttack attacker, [])

def unlock (campaign : Campaign) : Campaign :=
  { campaign with threads := campaign.threads.tail }

/-- `Campaign:doBattle`, up to the calculation; `next` is what the tick does afterwards. -/
def doBattle (tick : ℕ) (info : Info) (left : ℕ) (next : Campaign → Campaign × List Task)
    (campaign : Campaign) : Campaign × List Task :=
  if campaign.isEnd then next campaign.unlock
  else (campaign, [.calcBattleResult tick info left])

/-- The loop of `checkBattleStart`. -/
def checkQueue (tick : ℕ) : ℕ → Campaign → Campaign × List Task
  | 0, campaign => (campaign, [])
  | left + 1, campaign =>
      match campaign.battleQueue with
      | [] => (campaign, [])
      | info :: queue =>
          if info.battleTick < campaign.clock then
            let popped : Campaign :=
              { campaign with battleQueue := queue, threads := campaign.threads ++ [tick] }
            if campaign.threads = [] then popped.doBattle tick info left (checkQueue tick left)
            else (popped, [.lock tick info left])
          else (campaign, [])

/-- What a tick does when `doBattle` has returned. -/
def leaveBattle (loop : Option (ℕ × ℕ)) (campaign : Campaign) : Campaign × List Task :=
  match loop with
  | some (tick, left) => checkQueue tick left campaign.unlock
  | none => (campaign, [])

/-- Wait for the hand-backs of the grid, if there are any. -/
def awaitGrid (loop : Option (ℕ × ℕ)) (result : Campaign × List Starmap.Task) :
    Campaign × List Task :=
  if result.2 = [] then result.1.leaveBattle loop
  else (result.1, result.2.map (.onCampaignEnd loop))

/-- The part of `doBattle` between the calculation and `endBattle`. -/
def battleDone (settings : Settings) (info : Info) (battle : BattleEnd) (campaign : Campaign) :
    Campaign :=
  let (updated, loseHp) := campaign.updateBuilds settings battle.builds info.attacker
  let counted : Campaign :=
    { updated with maxLoseHp := max updated.maxLoseHp loseHp }.addStatistics info.attacker 0 loseHp
  let told := counted.send (costArmyLife settings info battle)
  { told with
    reports := told.reports ++
      [⟨info.attacker.playerId, battle.result, told.getBuildsLeftHp, loseHp⟩] }

/-- The part of `doBattle` after a calculation without a result. -/
def battleFailed (info : Info) (campaign : Campaign) : Campaign :=
  let told := campaign.send (.onGridCampaignBattleErr info.attacker.playerId)
  match info.armyType with
  | .union => told.send (.returnBackCampaignArmy info)
  | .self => told

def checkBattleStart (settings : Settings) (campaign : Campaign) : Campaign × List Task :=
  if campaign.isEnd then (campaign, [])
  else if campaign.campaignEndTick < campaign.clock then
    awaitGrid none (campaign.endBattle settings .unknow none false)
  else
    checkQueue campaign.nextTick campaign.battleQueue.length
      { campaign with nextTick := campaign.nextTick + 1 }

def accept (settings : Settings) (request : Request) (campaign : Campaign) :
    Campaign × List Task :=
  match request with
  | .startBattle attacker armyType armyInfos =>
      (campaign.startBattle settings attacker armyType armyInfos, [])
  | .onSecond => campaign.checkBattleStart settings
  | .elapse seconds => ({ campaign with grid := campaign.grid.elapse seconds }, [])

/-- A call of a tick raises: the tick ends, and the lock is free again if the tick has it. -/
def raised (task : Task) (campaign : Campaign) : Campaign :=
  match task with
  | .lock _ _ _ | .onCampaignEnd none _ => campaign
  | .calcBattleResult _ _ _ | .onCampaignEnd (some _) _ => campaign.unlock

def resume (settings : Settings) (task : Task) (reply : Reply) (campaign : Campaign) :
    Campaign × List Task :=
  match task, reply with
  | .lock tick info left, .wakeup =>
      if campaign.threads.head? = some tick then
        campaign.doBattle tick info left (checkQueue tick left)
      else (campaign, [.lock tick info left])
  | .calcBattleResult tick info left, .battle battle =>
      awaitGrid (some (tick, left)) ((campaign.battleDone settings info battle).endBattle settings
        battle.result (some info.attacker) battle.hasRoom)
  | .calcBattleResult tick info left, .failed =>
      (campaign.battleFailed info).leaveBattle (some (tick, left))
  | .onCampaignEnd loop task, .done =>
      let ended := campaign.grid.proceed settings.grid task .done
      awaitGrid loop ({ campaign with grid := ended.1 }, ended.2)
  | .calcBattleResult tick info left, .raise =>
      (campaign.raised (.calcBattleResult tick info left), [])
  | .onCampaignEnd loop task, .raise => (campaign.raised (.onCampaignEnd loop task), [])
  | task, _ => (campaign, [task])

end Campaign

def campaignService (settings : Settings) : Service Campaign Request Task Reply where
  accept := Campaign.accept settings
  resume := Campaign.resume settings

/-- `Campaign:init`, which tells the grid. -/
def Campaign.init (settings : Settings) (builds : List BattleBuild) (grid : Grid) : Campaign where
  campaignEndTick := grid.clock + settings.campaignTime * 1000
  isEnd := false
  builds := builds
  maxHp := (builds.map (·.maxHp)).sum
  maxLoseHp := 0
  battleQueue := []
  reports := []
  attackContriDegree _ := 0
  attackerStatistics _ := none
  grid := (grid.start settings.grid .onCampaignBegin).1
  threads := []
  nextTick := 0
  nextSerial := 0
  joined := []
  sent := []
  campaignEnds := []
  refused := []

def campaignStart (settings : Settings) (builds : List BattleBuild) (grid : Grid) :
    Config Campaign Task :=
  ⟨Campaign.init settings builds grid, []⟩

end BasWar.Starmap.Campaigns
