import BasWar.Starmap.Campaign
import Mathlib.Data.Finset.Card

/-!
# Owners on the star map

The star map keeps all grids, the campaigns on them, and two indexes from players and unions to the
grids they own.  A grid changes its owner when a campaign is won, when it is given up or given away,
and when a season or a union ends.  All of these wait for hand-backs, and for the node of a player
whom the star map has not written to before.
-/

namespace BasWar.Starmap

/-- `Grid:isPrivate`. -/
def Owner.ownsPrivately (owner : Owner) : Bool :=
  decide (owner.playerId ≠ 0) && owner.isPrivate

namespace Owners

open Cooperative
open Campaigns (ArmyType)

/-- A player, as an attacker or as a member of a union. -/
structure Player where
  playerId : ℕ
  unionId : ℕ
  playerId_ne : playerId ≠ 0

/-- `createOwner`; the information of a union says nothing about `isPrivate`. -/
structure NewOwner where
  player : Player
  isPrivate : Bool

def NewOwner.owner (newOwner : NewOwner) : Owner :=
  ⟨newOwner.player.playerId, newOwner.player.unionId, newOwner.isPrivate⟩

/-- What a player brings to `startBattle`. -/
structure Attack where
  attacker : Player
  armyType : ArmyType
  vipLevel : ℕ

structure Doc where
  cfgId : ℕ
  owner : Owner
  builds : List Build
  status : GridStatus
  protectEndTick : ℤ
  canGiveUpTick : ℤ

/-- The documents that are found at the start; `IDX_CFGID` is a unique index. -/
structure Docs where
  docs : List Doc
  unique : (docs.map (·.cfgId)).Nodup

structure MapSettings where
  /-- There is a row of `starmapConfig`. -/
  isGrid : ℕ → Bool
  row : ℕ → Settings
  protectTime_nonneg : ∀ cfgId, 0 ≤ (row cfgId).protectTime
  /-- `LeagueBattleTime` and `LeaguePersonBattleTime`. -/
  campaignTime : BelongType → ℕ
  gridUnionMax : ℕ
  /-- `Grid:getGridPlayerMax`, by VIP level. -/
  gridPlayerMax : ℕ → ℕ

/-- A campaign; its queue holds the attacks in the order of their ticks. -/
structure Campaign where
  campaignId : ℕ
  gridCfgId : ℕ
  campaignEndTick : ℤ
  isEnd : Bool
  battleQueue : List Attack
  /-- The lock of the campaign is taken by a battle. -/
  fighting : Bool

/-- `CampaignMgr:onFiveMinuteUpdate` forgets the campaign. -/
def Campaign.outdated (clock : ℤ) (campaign : Campaign) : Bool :=
  decide (campaign.campaignEndTick + 600 * 1000 < clock)

inductive Runner
  /-- The lock `"Grid:" .. cfgId`. -/
  | lock
  | campaign (campaignId : ℕ)
  | free
  deriving DecidableEq

structure Handler where
  cfgId : ℕ
  runner : Runner

/-- What a handler does once everything is handed back. -/
inductive Drop
  | giveUpMyGrid (pid : ℕ)
  | doMatchSeasonEndClear
  | dissolveUnionHandle
  | campaignWin (attack : Attack) (ownerPid : ℕ)
  | campaignUnknow (delBuilds : List ℕ)

/-- What a handler does after `changeOwner`. -/
inductive After
  | leave
  /-- `setProtectTick`. -/
  | protect
  /-- Messages to these players. -/
  | tell (pids : List ℕ)
  deriving DecidableEq

/-- Where a handler goes on after a message. -/
inductive Next
  /-- `giveUpMyGrid` resets the grid. -/
  | giveUp
  | changeOwner (newOwner : Option NewOwner) (after : After)
  /-- In `changeOwner`, after `delGridOwnerCache`. -/
  | setOwner (newOwner : Option NewOwner) (after : After)
  /-- In `changeOwner`, after `addGridOwnerCache`. -/
  | resetGrid (after : After)
  /-- `onCampaignEnd` looks at `getPlayerGridCount`. -/
  | checkRoom (attack : Attack)
  | tell (pids : List ℕ)
  /-- `doBattle` calls `endBattle`. -/
  | endBattle (attack : Attack) (result : BattleResult) (remainBuilds : List ℕ)

inductive Call
  /-- `initGrid` looks for a document. -/
  | findOne (attack : Attack)
  /-- `initGrid` saves the new grid. -/
  | update (attack : Attack)
  | takeStarmapCampaignArmy (attack : Attack)
  | calcBattleResult (attack : Attack)
  | getUnionIdByPid (pid : ℕ)
  | checkUnionJobCanPutBuild (pid : ℕ)
  | getUnionMember (pid toPid : ℕ)
  /-- A hand-back is on its way, and `rest` comes after it. -/
  | handBack (drop : Drop) (rest : List HandBack)
  | getPlayerNodeByPid (pid : ℕ) (next : Next)

structure Task where
  handler : Handler
  call : Call

inductive Reply
  | done
  | found (yes : Bool)
  | allowed (yes : Bool)
  | unionId (unionId : ℕ)
  | member (member : Option Player)
  | node (known : Bool)
  /-- The result of a battle, with the ids of the buildings that are left. -/
  | battle (result : BattleResult) (remainBuilds : List ℕ)
  | raise

inductive Request
  /-- `startBattle`, when `canBattle` agrees. -/
  | startBattle (cfgId : ℕ) (attack : Attack)
  /-- The next round of `checkBattleStart`; a campaign that has timed out leaves these buildings. -/
  | checkBattleStart (campaignId : ℕ) (remainBuilds : List ℕ)
  | giveUpMyGrid (pid cfgId : ℕ)
  | giftWithMyGrid (pid cfgId toPid : ℕ)
  /-- One round of `matchSeasonEndHandle`. -/
  | doMatchSeasonEndClear (cfgId : ℕ)
  /-- One round of `dissolveUnionHandle`. -/
  | dissolveUnionHandle (cfgId unionId : ℕ)
  | enterStarmap (pid unionId : ℕ) (gridCfgIds : List ℕ)
  | updatePersonalGrids (pid unionId : ℕ)
  /-- Placing and storing leave these buildings on a grid. -/
  | setBuilds (cfgId : ℕ) (builds : List Build)
  | checkProtectTimeout (cfgId : ℕ)
  /-- `onFiveMinuteUpdate` of the campaigns. -/
  | clearCampaigns
  | elapse (seconds : ℕ)

structure StarMap where
  grids : ℕ → Option Grid
  playerGridIds : ℕ → Finset ℕ
  unionGridIds : ℕ → Finset ℕ
  campaigns : List Campaign
  /-- Next value of `snowflake.uuid()`. -/
  uuid : ℕ
  pidToNode : Finset ℕ
  locked : Finset ℕ
  /-- `skynet.timestamp()`. -/
  clock : ℤ

/-! ## One grid -/

def isPrivate (grid : Grid) : Bool :=
  grid.owner.ownsPrivately

/-- The end of `Grid:changeOwner`. -/
def resetGrid (settings : Settings) (captured : Bool) (grid : Grid) : Grid :=
  let layout := if captured then settings.captureLayout else settings.presetLayout
  { grid with
    builds := Grid.createLayout layout grid.uuid
    uuid := grid.uuid + layout.length
    status := .idle }

theorem changeOwner_eq (settings : Settings) (newOwner : Option NewOwner) (grid : Grid) :
    grid.changeOwner settings (newOwner.map (·.owner)) =
      resetGrid settings newOwner.isSome
        { grid with owner := (newOwner.map (·.owner)).getD initOwner } := by
  cases newOwner <;> rfl

def checkProtectTimeout (grid : Grid) : Grid :=
  if grid.protectEndTick = 0 ∨ grid.clock < grid.protectEndTick then grid
  else { grid with protectEndTick := 0, status := .idle }

def updateOwnerInfo (pid unionId : ℕ) (grid : Grid) : Grid :=
  if grid.owner.playerId = pid ∧ isPrivate grid ∧ grid.owner.unionId ≠ unionId then
    { grid with owner := { grid.owner with unionId := 0 } }
  else grid

/-- The loop of `updatePersonalGrids`, for one grid. -/
def updatePersonalGrid (unionId : ℕ) (grid : Grid) : Grid :=
  if isPrivate grid then { grid with owner := { grid.owner with unionId := unionId } } else grid

def deserialize (settings : Settings) (clock : ℤ) (doc : Doc) : Grid :=
  { Grid.init settings clock with
    owner := doc.owner
    builds := doc.builds
    status := doc.status
    protectEndTick := doc.protectEndTick
    canGiveUpTick := doc.canGiveUpTick }

namespace StarMap

/-! ## Grids and indexes -/

/-- `self.grids[cfgId] = grid`. -/
def setGrid (cfgId : ℕ) (grid : Grid) (map : StarMap) : StarMap :=
  { map with grids := fun id => if id = cfgId then some grid else map.grids id }

def modifyGrid (cfgId : ℕ) (change : Grid → Grid) (map : StarMap) : StarMap :=
  { map with
    grids := fun id => if id = cfgId then (map.grids id).map change else map.grids id }

def addPlayerGridId (pid cfgId : ℕ) (map : StarMap) : StarMap :=
  { map with
    playerGridIds := fun id =>
      if id = pid then insert cfgId (map.playerGridIds id) else map.playerGridIds id }

def delPlayerGridId (pid cfgId : ℕ) (map : StarMap) : StarMap :=
  { map with
    playerGridIds := fun id =>
      if id = pid then (map.playerGridIds id).erase cfgId else map.playerGridIds id }

def addUnionGridId (unionId cfgId : ℕ) (map : StarMap) : StarMap :=
  { map with
    unionGridIds := fun id =>
      if id = unionId then insert cfgId (map.unionGridIds id) else map.unionGridIds id }

def delUnionGridId (unionId cfgId : ℕ) (map : StarMap) : StarMap :=
  { map with
    unionGridIds := fun id =>
      if id = unionId then (map.unionGridIds id).erase cfgId else map.unionGridIds id }

/-- `Starmap:addGridOwnerCache`, up to its message. -/
def addGridOwnerCache (owner : Owner) (cfgId : ℕ) (map : StarMap) : StarMap :=
  let map := map.addPlayerGridId owner.playerId cfgId
  if owner.unionId ≠ 0 ∧ !owner.isPrivate then map.addUnionGridId owner.unionId cfgId else map

/-- `Starmap:delGridOwnerCache`, up to its message. -/
def delGridOwnerCache (owner : Owner) (cfgId : ℕ) (map : StarMap) : StarMap :=
  let map := map.delPlayerGridId owner.playerId cfgId
  if owner.unionId ≠ 0 ∧ !owner.isPrivate then map.delUnionGridId owner.unionId cfgId else map

def holdsPrivate (cfgId : ℕ) (map : StarMap) : Bool :=
  (map.grids cfgId).any isPrivate

def getPlayerGridCount (pid : ℕ) (map : StarMap) : ℕ :=
  ((map.playerGridIds pid).filter fun cfgId => map.holdsPrivate cfgId).card

def getUnionGridCount (unionId : ℕ) (map : StarMap) : ℕ :=
  (map.unionGridIds unionId).card

def done (handler : Handler) (map : StarMap) : StarMap × List Task :=
  match handler.runner with
  | .lock => ({ map with locked := map.locked.erase handler.cfgId }, [])
  | .campaign campaignId =>
      ({ map with
          campaigns := map.campaigns.map fun campaign =>
            if campaign.campaignId = campaignId then { campaign with fighting := false }
            else campaign }, [])
  | .free => (map, [])

def wait (handler : Handler) (call : Call) (map : StarMap) : StarMap × List Task :=
  (map, [⟨handler, call⟩])

/-- `PlayerProxy:send` and `sendOnline`; `go` is what `next` does. -/
def send (handler : Handler) (pid : ℕ) (next : Next) (go : StarMap → StarMap × List Task)
    (map : StarMap) : StarMap × List Task :=
  if pid = 0 ∨ pid ∈ map.pidToNode then go map
  else map.wait handler (.getPlayerNodeByPid pid next)

/-- The messages at the end of `giftWithMyGrid`. -/
def tell (handler : Handler) : List ℕ → StarMap → StarMap × List Task
  | [], map => map.done handler
  | pid :: pids, map => map.send handler pid (.tell pids) (tell handler pids)

/-- What follows `changeOwner`. -/
def afterwards (settings : MapSettings) (handler : Handler) (after : After) (map : StarMap) :
    StarMap × List Task :=
  match after with
  | .leave => map.done handler
  | .protect =>
      (map.modifyGrid handler.cfgId
        (·.setProtectTick (settings.row handler.cfgId))).done handler
  | .tell pids => tell handler pids map

/-- The end of `changeOwner`. -/
def leaveOwner (settings : MapSettings) (handler : Handler) (captured : Bool) (after : After)
    (map : StarMap) : StarMap × List Task :=
  (map.modifyGrid handler.cfgId
    (resetGrid (settings.row handler.cfgId) captured)).afterwards settings handler after

/-- The grid gets its new owner, who is put into the indexes. -/
def takeOwner (cfgId : ℕ) (newOwner : Option NewOwner) (map : StarMap) : StarMap :=
  match newOwner with
  | some newOwner =>
      (map.modifyGrid cfgId ({ · with owner := newOwner.owner })).addGridOwnerCache
        newOwner.owner cfgId
  | none => map.modifyGrid cfgId ({ · with owner := initOwner })

/-- `changeOwner` sets the new owner. -/
def setOwner (settings : MapSettings) (handler : Handler) (newOwner : Option NewOwner)
    (after : After) (map : StarMap) : StarMap × List Task :=
  let taken := map.takeOwner handler.cfgId newOwner
  match newOwner with
  | some newOwner =>
      taken.send handler newOwner.player.playerId (.resetGrid after)
        (leaveOwner settings handler true after)
  | none => taken.leaveOwner settings handler false after

def changeOwner (settings : MapSettings) (handler : Handler) (newOwner : Option NewOwner)
    (after : After) (map : StarMap) : StarMap × List Task :=
  match map.grids handler.cfgId with
  | none => map.done handler
  | some grid =>
      if grid.owner.playerId ≠ 0 then
        (map.delGridOwnerCache grid.owner handler.cfgId).send handler grid.owner.playerId
          (.setOwner newOwner after) (setOwner settings handler newOwner after)
      else map.setOwner settings handler newOwner after

/-- The end of `giveUpMyGrid`. -/
def giveUp (settings : MapSettings) (handler : Handler) (map : StarMap) : StarMap × List Task :=
  (map.modifyGrid handler.cfgId ({ · with status := .idle })).changeOwner settings handler none
    .leave

/-- `onCampaignEnd` looks for room, after a personal grid is won. -/
def checkRoom (settings : MapSettings) (handler : Handler) (attack : Attack) (map : StarMap) :
    StarMap × List Task :=
  if map.getPlayerGridCount attack.attacker.playerId < settings.gridPlayerMax attack.vipLevel then
    map.send handler attack.attacker.playerId
      (.changeOwner (some ⟨attack.attacker, true⟩) .protect)
      (changeOwner settings handler (some ⟨attack.attacker, true⟩) .protect)
  else map.changeOwner settings handler none .leave

/-- `onCampaignEnd` after a win, once everything is handed back. -/
def campaignWin (settings : MapSettings) (handler : Handler) (attack : Attack) (ownerPid : ℕ)
    (map : StarMap) : StarMap × List Task :=
  match (settings.row handler.cfgId).belongType with
  | .self =>
      if map.holdsPrivate handler.cfgId then
        map.send handler ownerPid (.checkRoom attack) (checkRoom settings handler attack)
      else map.checkRoom settings handler attack
  | .union =>
      if map.getUnionGridCount attack.attacker.unionId < settings.gridUnionMax then
        map.changeOwner settings handler (some ⟨attack.attacker, false⟩) .protect
      else map.changeOwner settings handler none .leave

/-- `onCampaignEnd` without a winner, once everything is handed back. -/
def campaignUnknow (settings : MapSettings) (handler : Handler) (delBuilds : List ℕ)
    (map : StarMap) : StarMap × List Task :=
  let cleared := map.modifyGrid handler.cfgId fun grid =>
    { grid with builds := grid.builds.filter (·.id ∉ delBuilds), status := .idle }
  if (cleared.grids handler.cfgId).any (·.owner.isNatural) then
    cleared.changeOwner settings handler none .leave
  else cleared.done handler

/-- What follows the hand-backs. -/
def finish (settings : MapSettings) (handler : Handler) (drop : Drop) (map : StarMap) :
    StarMap × List Task :=
  match drop with
  | .giveUpMyGrid pid => map.send handler pid .giveUp (giveUp settings handler)
  | .doMatchSeasonEndClear =>
      match map.grids handler.cfgId with
      | none => map.done handler
      | some grid =>
          if isPrivate grid then
            map.send handler grid.owner.playerId (.changeOwner none .leave)
              (changeOwner settings handler none .leave)
          else map.changeOwner settings handler none .leave
  | .dissolveUnionHandle => map.changeOwner settings handler none .leave
  | .campaignWin attack ownerPid => map.campaignWin settings handler attack ownerPid
  | .campaignUnknow delBuilds => map.campaignUnknow settings handler delBuilds

/-- Send the next hand-back, or finish. -/
def handBackAll (settings : MapSettings) (handler : Handler) (drop : Drop)
    (rest : List HandBack) (map : StarMap) : StarMap × List Task :=
  match rest with
  | [] => map.finish settings handler drop
  | _ :: rest => map.wait handler (.handBack drop rest)

/-- `Grid:_storeNftBuilds`, with what its caller does next. -/
def storeNftBuilds (settings : MapSettings) (handler : Handler) (drop : Drop) (map : StarMap) :
    StarMap × List Task :=
  match map.grids handler.cfgId with
  | none => map.done handler
  | some grid => map.handBackAll settings handler drop grid.storePlan

/-- `Grid:_handleNftsLife`, with what `onCampaignEnd` does next. -/
def handleNftsLife (settings : MapSettings) (handler : Handler) (remainBuilds : List ℕ)
    (map : StarMap) : StarMap × List Task :=
  match map.grids handler.cfgId with
  | none => map.done handler
  | some grid =>
      let row := settings.row handler.cfgId
      if grid.owner.isNatural ∨ row.costLife = 0 then
        map.finish settings handler (.campaignUnknow [])
      else
        let cost := grid.costLife row remainBuilds
        (map.setGrid handler.cfgId cost).handBackAll settings handler
          (.campaignUnknow ((cost.delBuilds remainBuilds).map (·.id))) (cost.lifePlan remainBuilds)

def onCampaignEnd (settings : MapSettings) (handler : Handler) (result : BattleResult)
    (attack : Option Attack) (remainBuilds : List ℕ) (map : StarMap) : StarMap × List Task :=
  match map.grids handler.cfgId with
  | none => map.done handler
  | some grid =>
      match result, attack with
      | .win, some attack =>
          (map.setGrid handler.cfgId
            (grid.costDefenceBuildLife (settings.row handler.cfgId) remainBuilds)).storeNftBuilds
              settings handler (.campaignWin attack grid.owner.playerId)
      | .unknow, _ => map.handleNftsLife settings handler remainBuilds
      | _, _ => map.done handler

/-! ## Campaigns -/

def getCampaign (campaignId : ℕ) (map : StarMap) : Option Campaign :=
  map.campaigns.find? (·.campaignId = campaignId)

def getGridOnGoingCampaign (gridCfgId : ℕ) (map : StarMap) : Option Campaign :=
  map.campaigns.find? fun campaign => campaign.gridCfgId = gridCfgId ∧ campaign.isEnd = false

def modifyCampaign (campaignId : ℕ) (change : Campaign → Campaign) (map : StarMap) : StarMap :=
  { map with
    campaigns := map.campaigns.map fun campaign =>
      if campaign.campaignId = campaignId then change campaign else campaign }

/-- `CampaignMgr:createCampaign`; the campaign tells its grid. -/
def createCampaign (settings : MapSettings) (gridCfgId : ℕ) (map : StarMap) : StarMap :=
  let campaign : Campaign :=
    { campaignId := map.uuid
      gridCfgId := gridCfgId
      campaignEndTick :=
        map.clock + settings.campaignTime (settings.row gridCfgId).belongType * 1000
      isEnd := false
      battleQueue := []
      fighting := false }
  { map.modifyGrid gridCfgId ({ · with status := .battle }) with
    campaigns := map.campaigns ++ [campaign]
    uuid := map.uuid + 1 }

/-- `Campaign:startBattle`. -/
def joinCampaign (attack : Attack) (campaign : Campaign) (map : StarMap) : StarMap :=
  if campaign.campaignEndTick ≤ map.clock then map
  else
    map.modifyCampaign campaign.campaignId fun campaign =>
      { campaign with battleQueue := campaign.battleQueue ++ [attack] }

/-- `Grid:startBattle`. -/
def fight (settings : MapSettings) (handler : Handler) (attack : Attack) (map : StarMap) :
    StarMap × List Task :=
  let begun :=
    if (map.getGridOnGoingCampaign handler.cfgId).isNone then
      map.createCampaign settings handler.cfgId
    else map
  match begun.getGridOnGoingCampaign handler.cfgId with
  | some campaign => (begun.joinCampaign attack campaign).done handler
  | none => begun.done handler

/-- `Starmap:startBattle`, once the grid is there. -/
def checkStart (settings : MapSettings) (handler : Handler) (attack : Attack) (map : StarMap) :
    StarMap × List Task :=
  match map.grids handler.cfgId with
  | none => map.done handler
  | some grid =>
      if grid.status = .protect then map.done handler
      else if (settings.row handler.cfgId).belongType = .self ∧
          grid.owner.playerId = attack.attacker.playerId then map.done handler
      else
        match attack.armyType with
        | .union => map.wait handler (.takeStarmapCampaignArmy attack)
        | .self => map.fight settings handler attack

/-- `Starmap:initGrid`.  `Starmap:init` has loaded every document with a row, so that a document
found here was saved by an earlier `initGrid`, and it is the one of a new grid. -/
def registerGrid (settings : MapSettings) (cfgId : ℕ) (map : StarMap) : StarMap :=
  map.setGrid cfgId (Grid.init (settings.row cfgId) map.clock)

def startBattle (settings : MapSettings) (cfgId : ℕ) (attack : Attack) (map : StarMap) :
    StarMap × List Task :=
  if cfgId ∈ map.locked ∨ !settings.isGrid cfgId ∨
      ((settings.row cfgId).belongType = .self ∧ attack.armyType ≠ .self) then (map, [])
  else
    let taken : StarMap := { map with locked := insert cfgId map.locked }
    match map.grids cfgId with
    | none => taken.wait ⟨cfgId, .lock⟩ (.findOne attack)
    | some _ => taken.checkStart settings ⟨cfgId, .lock⟩ attack

/-- The part of `Campaign:endBattle` that ends the campaign. -/
def endCampaign (campaignId : ℕ) (map : StarMap) : StarMap :=
  map.modifyCampaign campaignId fun campaign =>
    { campaign with isEnd := true, campaignEndTick := map.clock, battleQueue := [] }

def endBattle (settings : MapSettings) (handler : Handler) (campaignId : ℕ)
    (result : BattleResult) (attack : Option Attack) (remainBuilds : List ℕ) (map : StarMap) :
    StarMap × List Task :=
  match result with
  | .win | .unknow =>
      (map.endCampaign campaignId).onCampaignEnd settings handler result attack remainBuilds
  | .lose | .offline => map.done handler

/-- `Campaign:checkBattleStart`; a battle has to wait while another one has the lock. -/
def checkBattleStart (settings : MapSettings) (campaignId : ℕ) (remainBuilds : List ℕ)
    (map : StarMap) : StarMap × List Task :=
  match map.getCampaign campaignId with
  | none => (map, [])
  | some campaign =>
      if campaign.isEnd then (map, [])
      else if campaign.campaignEndTick < map.clock then
        map.endBattle settings ⟨campaign.gridCfgId, .free⟩ campaignId .unknow none remainBuilds
      else if campaign.fighting then (map, [])
      else
        match campaign.battleQueue with
        | [] => (map, [])
        | attack :: queue =>
            (map.modifyCampaign campaignId fun campaign =>
              { campaign with battleQueue := queue, fighting := true }).wait
                ⟨campaign.gridCfgId, .campaign campaignId⟩ (.calcBattleResult attack)

/-- `doBattle` calls `endBattle`. -/
def battleDone (settings : MapSettings) (handler : Handler) (attack : Attack)
    (result : BattleResult) (remainBuilds : List ℕ) (map : StarMap) : StarMap × List Task :=
  match handler.runner with
  | .campaign campaignId =>
      map.endBattle settings handler campaignId result (some attack) remainBuilds
  | .lock | .free => map.done handler

/-- The end of `doBattle`; a player is told what the battle has cost. -/
def battled (settings : MapSettings) (handler : Handler) (attack : Attack)
    (result : BattleResult) (remainBuilds : List ℕ) (map : StarMap) : StarMap × List Task :=
  match attack.armyType with
  | .self =>
      map.send handler attack.attacker.playerId (.endBattle attack result remainBuilds)
        (battleDone settings handler attack result remainBuilds)
  | .union => map.battleDone settings handler attack result remainBuilds

/-! ## Giving up and giving away -/

/-- `Grid:giveUpMyGrid`, up to its first call. -/
def giveUpMyGrid (settings : MapSettings) (pid cfgId : ℕ) (map : StarMap) :
    StarMap × List Task :=
  match map.grids cfgId with
  | none => (map, [])
  | some grid =>
      if cfgId ∈ map.locked ∨ grid.owner.isNatural ∨ grid.status ≠ .idle ∨
          grid.clock < grid.canGiveUpTick then (map, [])
      else
        let taken : StarMap := { map with locked := insert cfgId map.locked }
        if isPrivate grid then
          if grid.owner.playerId ≠ pid then (map, [])
          else taken.storeNftBuilds settings ⟨cfgId, .lock⟩ (.giveUpMyGrid pid)
        else if grid.owner.unionId ≠ 0 then taken.wait ⟨cfgId, .lock⟩ (.getUnionIdByPid pid)
        else (map, [])

/-- `giveUpMyGrid` compares the union of the player. -/
def askedUnion (handler : Handler) (pid unionId : ℕ) (map : StarMap) : StarMap × List Task :=
  match map.grids handler.cfgId with
  | none => map.done handler
  | some grid =>
      if unionId ≠ grid.owner.unionId then map.done handler
      else map.wait handler (.checkUnionJobCanPutBuild pid)

/-- `Grid:giftWithMyGrid`, up to its call. -/
def giftWithMyGrid (pid cfgId toPid : ℕ) (map : StarMap) : StarMap × List Task :=
  match map.grids cfgId with
  | none => (map, [])
  | some grid =>
      if cfgId ∈ map.locked ∨ grid.owner.playerId ≠ pid ∨ grid.owner.unionId = 0 ∨
          grid.status = .battle then (map, [])
      else
        { map with locked := insert cfgId map.locked }.wait ⟨cfgId, .lock⟩
          (.getUnionMember pid toPid)

/-- `giftWithMyGrid`, once the member is known. -/
def gift (settings : MapSettings) (handler : Handler) (pid toPid : ℕ) (member : Player)
    (map : StarMap) : StarMap × List Task :=
  (map.modifyGrid handler.cfgId ({ · with status := .idle })).changeOwner settings handler
    (some ⟨member, false⟩) (.tell [pid, toPid])

def accept (settings : MapSettings) (request : Request) (map : StarMap) : StarMap × List Task :=
  match request with
  | .startBattle cfgId attack => map.startBattle settings cfgId attack
  | .checkBattleStart campaignId remainBuilds =>
      map.checkBattleStart settings campaignId remainBuilds
  | .giveUpMyGrid pid cfgId => map.giveUpMyGrid settings pid cfgId
  | .giftWithMyGrid pid cfgId toPid => map.giftWithMyGrid pid cfgId toPid
  | .doMatchSeasonEndClear cfgId =>
      map.storeNftBuilds settings ⟨cfgId, .free⟩ .doMatchSeasonEndClear
  | .dissolveUnionHandle cfgId unionId =>
      if (map.grids cfgId).any (·.owner.unionId = unionId) then
        map.storeNftBuilds settings ⟨cfgId, .free⟩ .dissolveUnionHandle
      else (map, [])
  | .enterStarmap pid unionId gridCfgIds =>
      (gridCfgIds.foldl (fun map cfgId => map.modifyGrid cfgId (updateOwnerInfo pid unionId)) map,
        [])
  | .updatePersonalGrids pid unionId =>
      ({ map with
          grids := fun cfgId =>
            if cfgId ∈ map.playerGridIds pid then
              (map.grids cfgId).map (updatePersonalGrid unionId)
            else map.grids cfgId }, [])
  | .setBuilds cfgId builds => (map.modifyGrid cfgId ({ · with builds := builds }), [])
  | .checkProtectTimeout cfgId => (map.modifyGrid cfgId Owners.checkProtectTimeout, [])
  | .clearCampaigns =>
      ({ map with campaigns := map.campaigns.filter (!·.outdated map.clock) }, [])
  | .elapse seconds =>
      ({ map with
          clock := map.clock + 1000 * seconds
          grids := fun cfgId => (map.grids cfgId).map fun grid =>
            { grid with clock := grid.clock + 1000 * seconds } }, [])

/-- `PlayerProxy:getPlayerProxy` remembers the node of the player, if there is one. -/
def setNode (pid : ℕ) (known : Bool) (map : StarMap) : StarMap :=
  if known then { map with pidToNode := insert pid map.pidToNode } else map

def goOn (settings : MapSettings) (handler : Handler) (next : Next) (map : StarMap) :
    StarMap × List Task :=
  match next with
  | .giveUp => map.giveUp settings handler
  | .changeOwner newOwner after => map.changeOwner settings handler newOwner after
  | .setOwner newOwner after => map.setOwner settings handler newOwner after
  | .resetGrid after => map.leaveOwner settings handler true after
  | .checkRoom attack => map.checkRoom settings handler attack
  | .tell pids => tell handler pids map
  | .endBattle attack result remainBuilds =>
      map.battleDone settings handler attack result remainBuilds

def resume (settings : MapSettings) (task : Task) (reply : Reply) (map : StarMap) :
    StarMap × List Task :=
  match task.call, reply with
  | _, .raise => map.done task.handler
  | .findOne attack, .found yes =>
      if yes then
        (map.registerGrid settings task.handler.cfgId).checkStart settings task.handler attack
      else map.wait task.handler (.update attack)
  | .update attack, .done =>
      (map.registerGrid settings task.handler.cfgId).checkStart settings task.handler attack
  | .takeStarmapCampaignArmy attack, .allowed yes =>
      if yes then map.fight settings task.handler attack else map.done task.handler
  | .calcBattleResult attack, .battle result remainBuilds =>
      map.battled settings task.handler attack result remainBuilds
  | .getUnionIdByPid pid, .unionId unionId => map.askedUnion task.handler pid unionId
  | .checkUnionJobCanPutBuild pid, .allowed yes =>
      if yes then map.storeNftBuilds settings task.handler (.giveUpMyGrid pid)
      else map.done task.handler
  | .getUnionMember _ _, .member none => map.done task.handler
  | .getUnionMember pid toPid, .member (some member) =>
      map.gift settings task.handler pid toPid member
  | .handBack drop rest, .done => map.handBackAll settings task.handler drop rest
  | .getPlayerNodeByPid pid next, .node known =>
      (map.setNode pid known).goOn settings task.handler next
  | _, _ => (map, [task])

/-- `Starmap:ctor`. -/
def empty (clock : ℤ) : StarMap where
  grids _ := none
  playerGridIds _ := ∅
  unionGridIds _ := ∅
  campaigns := []
  uuid := 0
  pidToNode := ∅
  locked := ∅
  clock := clock

/-- One round of `Starmap:init`. -/
def initDoc (settings : MapSettings) (map : StarMap) (doc : Doc) : StarMap :=
  if settings.isGrid doc.cfgId then
    let map :=
      map.setGrid doc.cfgId (deserialize (settings.row doc.cfgId) map.clock doc)
    let map :=
      if doc.owner.playerId ≠ 0 then map.addPlayerGridId doc.owner.playerId doc.cfgId else map
    if doc.owner.unionId ≠ 0 ∧ !doc.owner.isPrivate then
      map.addUnionGridId doc.owner.unionId doc.cfgId
    else map
  else map

def init (settings : MapSettings) (docs : Docs) (clock : ℤ) : StarMap :=
  docs.docs.foldl (initDoc settings) (empty clock)

end StarMap

def starmapService (settings : MapSettings) : Service StarMap Request Task Reply where
  accept := StarMap.accept settings
  resume := StarMap.resume settings

def starmapStart (settings : MapSettings) (docs : Docs) (clock : ℤ) : Config StarMap Task :=
  ⟨StarMap.init settings docs clock, []⟩

end Owners
end BasWar.Starmap
