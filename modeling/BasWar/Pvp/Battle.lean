import BasWar.Cooperative.Pool
import BasWar.Pvp.Foundation

/-!
# Base battles of an attacker

One attacker, the bases that it attacks, and the requests that start and end its battles.  Battles
are numbered in the order in which they are created.  Other players, the timers and the other
requests of the attacker change its bags and the bases between any two segments.
-/

namespace BasWar.Pvp.Battles

open Cooperative

/-- `BATTLE_RESULT_UNKNOW`. -/
def battleUnknow : ℤ := -1

def fightReportMax : ℕ := 30

/-- The players from `ROBOT_PVE_MIN_PLAYERID` to `ROBOT_PVE_MAX_PLAYERID`. -/
def isGmRobotPlayer (pid : ℕ) : Bool :=
  decide (1 ≤ pid ∧ pid ≤ 20)

structure AttackCfg extends DefenceCfg where
  /-- `fightCost` by the level of the attacked base. -/
  pvpCost : ℤ → Option ℤ
  vipHydroxylAward : ℤ
  pvpWinGainPoint : ℤ
  pvpWinCostHeroLife : ℤ
  pvpFailCostHeroLife : ℤ
  pvpWinCostWarShipLife : ℤ
  pvpFailCostWarShipLife : ℤ
  /-- Room of the stores, for the resources that have one. -/
  store : BaseRes → Option ℤ
  checkBattleValid : Bool

structure WarShip where
  curLife : ℤ
  busy : Bool

structure Hero where
  curLife : ℤ
  busy : Bool

structure Team where
  heroId : ℕ
  soliderCount : ℤ

structure Army where
  /-- The current warship. -/
  warShip : Option WarShip
  heros : ℕ → Option Hero
  armys : ℤ → Option (List Team)
  isUseGuildArmy : Bool

structure Die where
  id : ℤ
  index : ℤ
  dieCount : ℤ

structure BattleResult where
  ret : ℤ
  soliders : List Die
  heroIds : List ℕ

namespace Army

def getFightWarShip (army : Army) : Option WarShip :=
  army.warShip.filter fun warShip => decide (0 < warShip.curLife) && !warShip.busy

def getFightHeros (armyId : ℤ) (army : Army) : List ℕ :=
  ((army.armys armyId).getD []).filterMap fun team =>
    match army.heros team.heroId with
    | some hero =>
        if team.heroId ≠ 0 ∧ hero.busy = false ∧ 0 < hero.curLife then some team.heroId else none
    | none => none

def costLife (result win lose : ℤ) : ℤ :=
  if result = battleWin then win else if result = battleLose then lose else 0

/-- `_getWarShipCostLife`; it raises if there is a cost and no warship that can fight. -/
def getWarShipCostLife (cfg : AttackCfg) (result : ℤ) (army : Army) : Option ℤ :=
  let cost := costLife result cfg.pvpWinCostWarShipLife cfg.pvpFailCostWarShipLife
  if cost = 0 then some 0
  else army.getFightWarShip.map fun warShip => min warShip.curLife cost

def getHerosCostLife (cfg : AttackCfg) (result : ℤ) (heroIds : List ℕ) (army : Army) :
    List (ℕ × ℤ) :=
  let cost := costLife result cfg.pvpWinCostHeroLife cfg.pvpFailCostHeroLife
  if cost = 0 then []
  else
    heroIds.filterMap fun id =>
      match army.heros id with
      | some hero => if 0 < hero.curLife then some (id, min hero.curLife cost) else none
      | none => none

def costWarShipsLife (cost : ℤ) (army : Army) : Army :=
  { army with
    warShip := army.warShip.map fun warShip =>
      { warShip with curLife := max (warShip.curLife - cost) 0 } }

def costHeroLife (army : Army) (cost : ℕ × ℤ) : Army :=
  { army with
    heros := Function.update army.heros cost.1
      ((army.heros cost.1).map fun hero => { hero with curLife := max (hero.curLife - cost.2) 0 }) }

/-- `teams[index]` -/
def team (teams : List Team) (index : ℤ) : Option Team :=
  if 0 < index then teams[(index - 1).toNat]? else none

/-- One entry of `_costSolidersLife`; a team that the army does not have raises. -/
def costSolider (state : Army × Bool) (die : Die) : Army × Bool :=
  if state.2 = false ∨ die.index = 0 then state
  else
    match state.1.armys (die.id - die.index) with
    | none => state
    | some teams =>
        match team teams die.index with
        | none => (state.1, false)
        | some team =>
            let count := max (team.soliderCount - die.dieCount) 0
            ({ state.1 with
                armys := Function.update state.1.armys (die.id - die.index)
                  (some (teams.set (die.index - 1).toNat
                    { team with soliderCount := count })) }, true)

def putInOrderArmyTeams (armyId : ℤ) (army : Army) : Army :=
  { army with
    armys := Function.update army.armys armyId
      ((army.armys armyId).map fun teams => teams.filter fun team => team.heroId ≠ 0) }

/-- `_costSolidersLife`, and whether it returned.  The entries have no `cfgId`, which an army of
the guild asks for. -/
def costSolidersLife (soliders : List Die) (army : Army) : Army × Bool :=
  let named := soliders.filter fun die => die.index ≠ 0
  if army.isUseGuildArmy then (army, named.isEmpty)
  else
    let cost := soliders.foldl costSolider (army, true)
    match cost.2, named.getLast? with
    | true, some die => (cost.1.putInOrderArmyTeams (die.id - die.index), true)
    | _, _ => cost

/-- `costArmyLife`, and whether it returned. -/
def costArmyLife (warShip : ℤ) (soliders : List Die) (heros : List (ℕ × ℤ)) (army : Army) :
    Army × Bool :=
  let cost := (army.costWarShipsLife warShip).costSolidersLife soliders
  if cost.2 then (heros.foldl costHeroLife cost.1, true) else cost

end Army

/-- A report of a battle; `none` for a battle that another player has started. -/
structure Report where
  fightId : Option ℕ
  enemyPlayerId : ℕ
  result : ℤ
  atkBadge : ℤ
  currencies : List (BaseRes × ℤ)

structure Battle where
  enemy : ℕ
  heroIds : List ℕ
  /-- There was no battle number left when the battle was created. -/
  free : Bool

/-- What `endAttacked` took from a defender, and what it gave. -/
structure Defence where
  battle : ℕ
  plunder : BaseRes → ℤ
  score : ℤ
  res : BaseRes → ℤ

/-- What a victory gave to the attacker, and the score it asked for. -/
structure Reward where
  battle : ℕ
  amount : BaseRes → ℤ
  score : ℤ

/-- The resources that a victory brings. -/
def spoils : List BaseRes :=
  [.starCoin, .ice, .carboxyl, .titanium, .gas]

structure Attacker where
  pid : ℕ
  now : ℕ
  bases : ℕ → Foundation
  battleNum : ℤ
  freeFight : Bool
  res : BaseRes → ℤ
  rankScore : ℤ
  army : Army
  reports : List Report
  battles : List Battle
  /-- `incompletes` of the battle manager. -/
  incomplete : Option ℕ
  /-- Battles of the requests that have passed the checks of `endBattle` and have not written
  their result to the report. -/
  pending : List ℕ
  /-- Battles for which `decrPlayerBattleNum` has lowered the battle number. -/
  decrs : List ℕ
  defences : List Defence
  rewards : List Reward
  /-- Score changes that were sent to the rank service. -/
  scores : List (ℕ × ℤ)
  /-- Battles for which `costArmyLife` ran. -/
  losses : List ℕ

inductive Task
  /-- Calls of `startBattle`. -/
  | getFoundationInfo (enemy : ℕ) (heroIds : List ℕ)
  | foundationInfo (enemy : ℕ) (heroIds : List ℕ) (info : Option FoundationInfo)
  | startAttacked (enemy : ℕ) (heroIds : List ℕ) (cost : ℤ) (isFreeFight : Bool)
  | startedAttacked (enemy : ℕ) (heroIds : List ℕ) (cost : ℤ) (info : Option FoundationInfo)
  | getSelfRank (enemy : ℕ) (heroIds : List ℕ)
  /-- The battle may have to be read from the database. -/
  | getBattle (battle : ℕ) (ret : ℤ) (soliders : List Die)
  | getUploadBattle (battle : ℕ)
  | execIncompleteBattle (battle : ℕ)
  /-- Calls of `endBattle`; `ret` is the result that the request came with. -/
  | checkBattleValid (battle enemy : ℕ) (result : BattleResult)
  | endAttacked (battle enemy : ℕ) (ret : ℤ) (result : BattleResult)
  /-- `endAttacked` waits for the running matches. -/
  | getInStartMatchs (battle enemy : ℕ) (ret : ℤ) (result : BattleResult) (info : EndInfo)
  | endInfo (battle enemy : ℕ) (ret : ℤ) (result : BattleResult) (info : Option EndInfo)
  | updateMatchRankScore (battle : ℕ) (ret score : ℤ) (result : BattleResult)
      (info : Option EndInfo)
  | endGetBattle
  | autoChangePlayers

inductive Reply
  | go
  /-- The player or the battle does not exist, or the battle is not valid. -/
  | refused
  /-- The battle was calculated again. -/
  | recalculated (ret : ℤ) (soliders : List Die)
  | matchs (inStart : Bool)
  | raise

inductive Request
  | startBattle (enemy : ℕ) (armyId : ℤ)
  /-- `startBattle` of a battle against oneself, which only test servers allow. -/
  | startSelfBattle
  | endBattle (battle : ℕ) (ret : ℤ) (soliders : List Die)
  | uploadBattle (battle : ℕ)
  /-- The base of an enemy has changed. -/
  | foundation (enemy : ℕ) (base : Foundation)
  /-- The bags of the attacker have changed. -/
  | bags (battleNum : ℤ) (res : BaseRes → ℤ) (army : Army)
  /-- The report of a battle that another player has started. -/
  | addFightPvpReport (enemy : ℕ)
  | elapse (time : ℕ)

namespace Attacker

def enoughBattleNum (enemy : ℕ) (attacker : Attacker) : Bool :=
  isGmRobotPlayer enemy || decide (0 < attacker.battleNum)

def decrPlayerBattleNum (battle enemy : ℕ) (attacker : Attacker) : Attacker :=
  if attacker.freeFight ∧ attacker.battleNum ≤ 0 then attacker
  else if isGmRobotPlayer enemy then attacker
  else
    { attacker with
      battleNum := attacker.battleNum - 1
      decrs := attacker.decrs ++ [battle] }

def addFightPvpReport (report : Report) (attacker : Attacker) : Attacker :=
  let reports := attacker.reports ++ [report]
  { attacker with reports := reports.drop (reports.length - fightReportMax) }

def getReportByReportId (battle : ℕ) (attacker : Attacker) : Option Report :=
  attacker.reports.find? fun report => report.fightId = some battle

/-- `safeAddRes`; a free space of `-1` stands for a resource without a store. -/
def safeAddRes (cfg : AttackCfg) (res : BaseRes) (count : ℤ) (attacker : Attacker) : Attacker :=
  let freespace := match cfg.store res with
    | some store => store - attacker.res res
    | none => -1
  let succCount := if freespace = -1 then count
    else if freespace ≤ count then freespace else count
  if 0 < succCount then
    { attacker with res := Function.update attacker.res res (attacker.res res + succCount) }
  else attacker

def startBattle (enemy : ℕ) (armyId : ℤ) (attacker : Attacker) : Attacker × List Task :=
  let next := { attacker with freeFight := false }
  if enemy = attacker.pid then (next, [])
  else
    match attacker.army.getFightWarShip, attacker.army.getFightHeros armyId with
    | some _, hero :: heroIds => (next, [.getFoundationInfo enemy (hero :: heroIds)])
    | _, _ => (next, [])

def foundationInfo (cfg : AttackCfg) (enemy : ℕ) (heroIds : List ℕ) (info : Option FoundationInfo)
    (attacker : Attacker) : Attacker × List Task :=
  match info.bind fun info => cfg.pvpCost info.playerLevel with
  | none => (attacker, [])
  | some cost =>
      if attacker.res .starCoin < cost then (attacker, [])
      else (attacker, [.startAttacked enemy heroIds cost (!attacker.enoughBattleNum enemy)])

/-- `startAttacked` runs on the base of the enemy. -/
def startAttacked (cfg : AttackCfg) (enemy : ℕ) (heroIds : List ℕ) (cost : ℤ) (isFreeFight : Bool)
    (attacker : Attacker) : Attacker × List Task :=
  match (attacker.bases enemy).startAttacked cfg.toDefenceCfg attacker.now false isFreeFight with
  | none => (attacker, [.startedAttacked enemy heroIds cost none])
  | some base =>
      ({ attacker with bases := Function.update attacker.bases enemy base },
        [.startedAttacked enemy heroIds cost (some (base.getFoundationInfo cfg.toDefenceCfg))])

def startedAttacked (enemy : ℕ) (heroIds : List ℕ) (cost : ℤ) (info : Option FoundationInfo)
    (attacker : Attacker) : Attacker × List Task :=
  match info with
  | none => (attacker, [])
  | some info =>
      if info.builds.isEmpty then (attacker, [])
      else if cost ≤ 0 then (attacker, [.getSelfRank enemy heroIds])
      else
        ({ attacker with
            res := Function.update attacker.res .starCoin
              (max (attacker.res .starCoin - cost) 0) },
          [.getSelfRank enemy heroIds])

/-- The battle is created, and the battle number is read again. -/
def createBattle (enemy : ℕ) (heroIds : List ℕ) (attacker : Attacker) : Attacker :=
  let battle := attacker.battles.length
  let free := !attacker.enoughBattleNum enemy
  let next := addFightPvpReport ⟨some battle, enemy, battleUnknow, 0, []⟩
    { attacker with
      battles := attacker.battles ++ [⟨enemy, heroIds, free⟩]
      incomplete := some battle }
  if free then { next with freeFight := true } else next.decrPlayerBattleNum battle enemy

def endBattle (battle : ℕ) (result : BattleResult) (attacker : Attacker) : Attacker × List Task :=
  match attacker.getReportByReportId battle with
  | none => (attacker, [])
  | some report =>
      if result.ret < battleLose ∨ battleOffline < result.ret then (attacker, [])
      else (attacker, [.checkBattleValid battle report.enemyPlayerId result])

/-- The checks are passed; `result` may have been calculated again. -/
def battleValid (battle enemy : ℕ) (ret : ℤ) (result : BattleResult) (attacker : Attacker) :
    Attacker × List Task :=
  ({ attacker with pending := attacker.pending ++ [battle] },
    [.endAttacked battle enemy ret result])

/-- The record of a run of `endAttacked`. -/
def defence (cfg : AttackCfg) (battle : ℕ) (ret : ℤ) (base : Foundation) : Defence :=
  if base.freeBeFight then ⟨battle, fun _ => 0, 0, fun _ => 0⟩
  else if base.Plundered ret then
    ⟨battle, base.getPlunderableResInfo cfg.toDefenceCfg, cfg.pvpDefenceFailGainPoint, fun _ => 0⟩
  else
    ⟨battle, fun _ => 0, cfg.pvpDefenceWinGainPoint,
      fun res => max (Foundation.winRes cfg.toDefenceCfg res) 0⟩

/-- The second part of `endAttacked` on the base of the enemy. -/
def endAttackedRest (cfg : AttackCfg) (battle enemy : ℕ) (ret : ℤ) (result : BattleResult)
    (isFreeBeFight inStart : Bool) (info : EndInfo) (attacker : Attacker) :
    Attacker × List Task :=
  let rest := (attacker.bases enemy).endAttackedRest cfg.toDefenceCfg attacker.now ret
    isFreeBeFight inStart info
  ({ attacker with bases := Function.update attacker.bases enemy rest.1 },
    [.endInfo battle enemy ret result (some rest.2)])

/-- `endAttacked` runs on the base of the enemy. -/
def endAttacked (cfg : AttackCfg) (battle enemy : ℕ) (ret : ℤ) (result : BattleResult)
    (attacker : Attacker) : Attacker × List Task :=
  let base := attacker.bases enemy
  let plundered := base.endAttacked cfg.toDefenceCfg ret
  let next := { attacker with
    bases := Function.update attacker.bases enemy plundered.1
    defences := attacker.defences ++ [defence cfg battle ret base] }
  if base.freeBeFight then next.endAttackedRest cfg battle enemy ret result true false plundered.2
  else if base.defenceScore cfg.toDefenceCfg ret = 0 then
    next.endAttackedRest cfg battle enemy ret result false false plundered.2
  else (next, [.getInStartMatchs battle enemy ret result plundered.2])

/-- `updatePvpFightReport` for a report of the attacker. -/
def updateReport (battle : ℕ) (result : BattleResult) (info : Option EndInfo) (report : Report) :
    Report :=
  if report.fightId = some battle then
    { report with
      result := result.ret
      atkBadge := (info.map EndInfo.atkBadge).getD report.atkBadge
      currencies := report.currencies ++
        ([BaseRes.starCoin, .ice, .titanium, .gas, .carboxyl].map fun res =>
          (res, (info.map fun info => info.amount res).getD 0)).filter fun entry => 0 < entry.2 }
  else report

/-- `endBattle` after the rewards: the losses of the army and the report.  It raises if the
warship cannot fight, if the soldiers are not found and if the report is not listed any more. -/
def settle (cfg : AttackCfg) (battle : ℕ) (ret : ℤ) (result : BattleResult)
    (info : Option EndInfo) (attacker : Attacker) : Attacker × List Task :=
  match attacker.army.getWarShipCostLife cfg ret with
  | none => (attacker, [])
  | some warShip =>
      let cost := attacker.army.costArmyLife warShip result.soliders
        (attacker.army.getHerosCostLife cfg ret result.heroIds)
      let next := { attacker with army := cost.1, losses := attacker.losses ++ [battle] }
      if cost.2 = true ∧ (attacker.getReportByReportId battle).isSome then
        ({ next with
            reports := attacker.reports.map (updateReport battle result info)
            pending := attacker.pending.filter (· ≠ battle) }, [.endGetBattle])
      else (next, [])

/-- `updateMatchRankScore`, which asks for the running matches, and what follows it. -/
def askScore (cfg : AttackCfg) (battle : ℕ) (ret score : ℤ) (result : BattleResult)
    (info : Option EndInfo) (attacker : Attacker) : Attacker × List Task :=
  if score = 0 then
    match info with
    | none => (attacker, [])
    | some info => attacker.settle cfg battle ret result (some { info with atkBadge := 0 })
  else (attacker, [.updateMatchRankScore battle ret score result info])

/-- `endInfo` of a free fight. -/
def freeInfo (info : EndInfo) : EndInfo :=
  { info with amount := fun _ => 0, atkBadge := 0 }

/-- `endInfo` of a victory. -/
def winInfo (cfg : AttackCfg) (freeFight : Bool) (info : EndInfo) : EndInfo :=
  if freeFight then freeInfo info
  else { info with amount := Function.update info.amount .carboxyl cfg.vipHydroxylAward }

def addRewards (cfg : AttackCfg) (battle : ℕ) (info : EndInfo) (score : ℤ) (attacker : Attacker) :
    Attacker :=
  { spoils.foldl (fun attacker res => attacker.safeAddRes cfg res (info.amount res)) attacker with
    rewards := attacker.rewards ++ [⟨battle, info.amount, score⟩] }

/-- `endBattle` from the answer of `endAttacked` on. -/
def endInfo (cfg : AttackCfg) (battle enemy : ℕ) (ret : ℤ) (result : BattleResult)
    (info : Option EndInfo) (attacker : Attacker) : Attacker × List Task :=
  if isGmRobotPlayer enemy then attacker.settle cfg battle ret result info
  else if ret = battleWin then
    match info with
    | none => (attacker, [])
    | some info =>
        let info := winInfo cfg attacker.freeFight info
        if attacker.freeFight then
          (attacker.addRewards cfg battle info 0).settle cfg battle ret result (some info)
        else
          (attacker.addRewards cfg battle info cfg.pvpWinGainPoint).askScore cfg battle ret
            cfg.pvpWinGainPoint result (some info)
  else if ret = battleLose then
    if attacker.freeFight then
      match info with
      | none => (attacker, [])
      | some info => attacker.settle cfg battle ret result (some (freeInfo info))
    else attacker.askScore cfg battle ret cfg.pvpFailGainPoint result info
  else attacker.settle cfg battle ret result info

/-- `updateMatchRankScore` from the answer on. -/
def scored (cfg : AttackCfg) (battle : ℕ) (ret score : ℤ) (inStart : Bool) (result : BattleResult)
    (info : Option EndInfo) (attacker : Attacker) : Attacker × List Task :=
  let next := if inStart then
      { attacker with
        rankScore := attacker.rankScore + score
        scores := attacker.scores ++ [(battle, score)] }
    else attacker
  match info with
  | none => (next, [])
  | some info => next.settle cfg battle ret result (some { info with atkBadge := score })

def accept (request : Request) (attacker : Attacker) : Attacker × List Task :=
  match request with
  | .startBattle enemy armyId => attacker.startBattle enemy armyId
  | .startSelfBattle => ({ attacker with freeFight := false }, [])
  | .endBattle battle ret soliders => (attacker, [.getBattle battle ret soliders])
  | .uploadBattle battle => (attacker, [.getUploadBattle battle])
  | .foundation enemy base =>
      ({ attacker with
          bases := Function.update attacker.bases enemy
            { base with isGmRobotPlayer := (attacker.bases enemy).isGmRobotPlayer } }, [])
  | .bags battleNum res army =>
      ({ attacker with battleNum := battleNum, res := res, army := army }, [])
  | .addFightPvpReport enemy =>
      (attacker.addFightPvpReport ⟨none, enemy, battleUnknow, 0, []⟩, [])
  | .elapse time => ({ attacker with now := attacker.now + time }, [])

def resume (cfg : AttackCfg) (task : Task) (reply : Reply) (attacker : Attacker) :
    Attacker × List Task :=
  match task, reply with
  | .getFoundationInfo enemy heroIds, .go =>
      (attacker, [.foundationInfo enemy heroIds
        (some ((attacker.bases enemy).getFoundationInfo cfg.toDefenceCfg))])
  | .getFoundationInfo enemy heroIds, .refused =>
      (attacker, [.foundationInfo enemy heroIds none])
  | .foundationInfo enemy heroIds info, .go => attacker.foundationInfo cfg enemy heroIds info
  | .startAttacked enemy heroIds cost isFreeFight, .go =>
      attacker.startAttacked cfg enemy heroIds cost isFreeFight
  | .startAttacked enemy heroIds cost _, .refused =>
      (attacker, [.startedAttacked enemy heroIds cost none])
  | .startedAttacked enemy heroIds cost info, .go =>
      attacker.startedAttacked enemy heroIds cost info
  | .getSelfRank enemy heroIds, .go => (attacker.createBattle enemy heroIds, [])
  | .getBattle battle ret soliders, .go =>
      match attacker.battles[battle]? with
      | none => (attacker, [])
      | some stored => attacker.endBattle battle ⟨ret, soliders, stored.heroIds⟩
  | .getUploadBattle battle, .go =>
      if attacker.incomplete = some battle then (attacker, [.execIncompleteBattle battle])
      else (attacker, [])
  -- The request has no `heroIds`; they are written to `args`.
  | .execIncompleteBattle battle, .recalculated ret soliders =>
      attacker.endBattle battle ⟨ret, soliders, []⟩
  | .checkBattleValid battle enemy result, .go =>
      attacker.battleValid battle enemy result.ret result
  | .checkBattleValid battle enemy result, .recalculated ret soliders =>
      if cfg.checkBattleValid then
        attacker.battleValid battle enemy result.ret
          { result with ret := ret, soliders := soliders }
      else attacker.battleValid battle enemy result.ret result
  | .checkBattleValid _ _ _, .refused => ({ attacker with incomplete := none }, [])
  | .endAttacked battle enemy ret result, .go =>
      attacker.endAttacked cfg battle enemy ret result
  | .endAttacked battle enemy ret result, .refused =>
      (attacker, [.endInfo battle enemy ret result none])
  | .getInStartMatchs battle enemy ret result info, .matchs inStart =>
      attacker.endAttackedRest cfg battle enemy ret result false inStart info
  | .endInfo battle enemy ret result info, .go =>
      attacker.endInfo cfg battle enemy ret result info
  | .updateMatchRankScore battle ret score result info, .matchs inStart =>
      attacker.scored cfg battle ret score inStart result info
  | .endGetBattle, .go => ({ attacker with incomplete := none }, [.autoChangePlayers])
  | .endGetBattle, .refused => (attacker, [.autoChangePlayers])
  | .autoChangePlayers, .go => ({ attacker with freeFight := false }, [])
  | .getBattle _ _ _, .refused | .getUploadBattle _, .refused | .execIncompleteBattle _, .refused =>
      (attacker, [])
  | _, .raise => (attacker, [])
  | task, _ => (attacker, [task])

end Attacker

def battles (cfg : AttackCfg) : Service Attacker Request Task Reply where
  accept := Attacker.accept
  resume := Attacker.resume cfg

def attackerStart (pid now : ℕ) (bases : ℕ → Foundation) (battleNum : ℤ) (res : BaseRes → ℤ)
    (army : Army) : Config Attacker Task :=
  ⟨{ pid := pid
     now := now
     bases := bases
     battleNum := battleNum
     freeFight := false
     res := res
     rankScore := 0
     army := army
     reports := []
     battles := []
     incomplete := none
     pending := []
     decrs := []
     defences := []
     rewards := []
     scores := []
     losses := [] }, []⟩

end BasWar.Pvp.Battles
