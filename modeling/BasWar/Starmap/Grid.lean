import BasWar.Cooperative.Pool
import Mathlib.Data.Int.Notation

/-!
# Grids of the star map

A grid has an owner and a table of buildings, some of which are NFTs lent by a player or a union.
Placing, storing and giving away take the grid's lock; the end of a campaign, the end of a season
and the dissolution of a union do not.  Every handler is cut at its calls to the player and union
services.
-/

namespace BasWar.Starmap

/-- Owner of a grid; `initOwner` is the owner with both ids `0`. -/
structure Owner where
  playerId : ℕ
  unionId : ℕ
  isPrivate : Bool
  deriving DecidableEq

/-- Who a grid belongs to, or who lends an NFT to it. -/
inductive Party
  | player (pid : ℕ)
  | union (unionId : ℕ)
  | nobody
  deriving DecidableEq

def initOwner : Owner := ⟨0, 0, false⟩

/-- The branches `isPrivate`, `isUnion` and neither of them. -/
def Owner.party (owner : Owner) : Party :=
  if owner.playerId ≠ 0 ∧ owner.isPrivate then .player owner.playerId
  else if owner.unionId ≠ 0 then .union owner.unionId
  else .nobody

def Owner.isNatural (owner : Owner) : Bool :=
  decide (owner.playerId = 0)

/-- `belongType` of a grid. -/
inductive BelongType
  | self
  | union
  deriving DecidableEq

/-- `status` of a grid. -/
inductive GridStatus
  | idle
  | battle
  | protect
  deriving DecidableEq

inductive BattleResult
  | unknow
  | lose
  | win
  | offline
  deriving DecidableEq

structure Pos where
  x : ℤ
  z : ℤ
  deriving DecidableEq

structure Rect where
  pos : Pos
  length : ℤ
  width : ℤ

def isRectOverlap (first second : Rect) : Bool :=
  decide (second.pos.x < first.pos.x + first.length ∧ first.pos.x < second.pos.x + second.length ∧
    second.pos.z < first.pos.z + first.width ∧ first.pos.z < second.pos.z + second.width)

structure Build where
  id : ℕ
  cfgId : ℕ
  quality : ℕ
  level : ℕ
  pos : Pos
  length : ℤ
  width : ℤ
  life : ℤ
  curLife : ℤ
  chain : ℤ
  /-- `0` when no player is named. -/
  ownerPid : ℕ
  isNormal : Bool
  deriving DecidableEq

def Build.rect (build : Build) : Rect :=
  ⟨build.pos, build.length, build.width⟩

/-- The test `build.chain > 0`. -/
def Build.isNFT (build : Build) : Bool :=
  decide (0 < build.chain)

/-- A building as another service sends it; `0` stands for a player that is not named. -/
structure BuildData where
  id : Option ℕ
  cfgId : ℕ
  quality : ℕ
  level : ℕ
  life : ℤ
  curLife : ℤ
  chain : ℤ
  ownerPid : ℕ

/-- One row of `buildConfig`. -/
structure BuildCfg where
  length : ℤ
  width : ℤ
  /-- `belong` is `BUILD_BELONG_UNION`. -/
  belongUnion : Bool
  gridBuildCostRes : List (ℕ × ℤ)

/-- One building of a layout, with the size that its row of `buildConfig` gives it. -/
structure LayoutBuild where
  cfgId : ℕ
  quality : ℕ
  level : ℕ
  pos : Pos
  length : ℤ
  width : ℤ
  life : ℤ
  curLife : ℤ

/-- Tables and global values that the handlers of one grid read. -/
structure Settings where
  buildCfg : ℕ → ℕ → ℕ → Option BuildCfg
  belongType : BelongType
  towerCount : ℕ
  presetLayout : List LayoutBuild
  captureLayout : List LayoutBuild
  maxPos : Pos
  /-- `LeagueDefenceCostLife`. -/
  costLife : ℤ
  abandonGridCD : ℤ
  protectTime : ℤ

def buildBase : ℕ := 6010001

def mapGridMin : ℤ := 6

def Settings.isPosValid (settings : Settings) (pos : Pos) : Bool :=
  decide (mapGridMin ≤ pos.x ∧ pos.x ≤ settings.maxPos.x ∧ mapGridMin ≤ pos.z ∧
    pos.z ≤ settings.maxPos.z)

inductive GridError
  | gridOwnerNotYou
  | gridPlyBuildLimit
  | gridMustPutExclusiveDefense
  | gridToGridBuildTypeErr
  | gridStatusBattle
  | gridStatusProtect
  | gridCanNotGiveUp (needTime : ℤ)
  | gridNotJoinUnion
  | gridNumLimit
  | unionNftNotAvaliable
  | unionNotMember
  | unionNoAuthority
  | unionNormalNotAvaliable
  | unionBuildBelongErr
  | posErr
  | buildCreateErr
  | buildNotExist
  | buildIsNotNft
  | buildBaseCannotDelete
  | buildCannotDelete

/-- Who gets an NFT back. -/
inductive Keeper
  /-- `storeNftItemInBag`. -/
  | bag (pid : ℕ)
  /-- `starMapBackNfts`. -/
  | union (unionId : ℕ)
  /-- The caller of `storeUnionNft`. -/
  | caller
  deriving DecidableEq

/-- One call of `storeNftItemInBag` or `starMapBackNfts`. -/
structure HandBack where
  keeper : Keeper
  builds : List Build

/-- A building that was handed back, with the owner of the grid at that time. -/
structure Handed where
  build : Build
  keeper : Keeper
  owner : Owner

/-- End of a call that may have marked buildings as used. -/
structure PlaceEnd where
  supplier : Party
  /-- Ids that the supplier marked for this call. -/
  used : List ℕ
  released : List ℕ
  /-- Owner of the grid when the call ended. -/
  owner : Party
  /-- Ids of the buildings on the grid when the call ended. -/
  standing : List ℕ
  deriving DecidableEq

/-- End of a call of `addDefenselBuild` that reached its charge. -/
structure ChargeEnd where
  charged : Bool
  /-- The new building stood on the grid when the call ended. -/
  stands : Bool

/-- Arguments of `putBuild` and `addDefenselBuild`. -/
structure Put where
  pid : ℕ
  buildId : ℕ
  pos : Pos
  unionId : ℕ

/-- The argument `from` of `putBuildList`. -/
inductive ToGridBuild
  | person
  | union
  | other
  deriving DecidableEq

/-- Arguments of `putBuildList`; after the room was counted, `buildList` has only what fits. -/
structure PutList where
  pid : ℕ
  buildList : List (ℕ × Pos)
  unionId : ℕ
  fromType : ToGridBuild

/-- `getBuildDict[id]`: of repeated ids the last one counts. -/
def PutList.pos? (list : PutList) (id : ℕ) : Option Pos :=
  (list.buildList.reverse.find? (·.1 = id)).map Prod.snd

/-- Arguments of `onCampaignEnd`. -/
structure CampaignEnd where
  result : BattleResult
  attacker : Option Owner
  remainBuilds : List ℕ
  /-- Answer of the grid limits of the attacker, which the star map reads from other grids. -/
  hasRoom : Bool

/-- What a handler on a union grid does once its player may do it. -/
inductive Permitted
  | storeBuild (build : Build)
  | giveUpMyGrid
  | delBuild (buildId : ℕ)
  | moveBuild (build : Build) (pos : Pos)

/-- What a handler does once everything is handed back. -/
inductive Drop
  | storeBuild (buildId : ℕ)
  | giveUpMyGrid
  | campaignWin (attacker : Owner) (hasRoom : Bool)
  | campaignUnknow (delBuilds : List ℕ)
  /-- `doMatchSeasonEndClear` and `dissolveUnionHandle`. -/
  | clear

/-- Suspended handlers, named after the call that they wait for. -/
inductive Task
  | getNftItemOnGrid (put : Put)
  | useNftItemOnGrid (put : Put)
  | checkPutBuild (put : Put)
  | getNftInfo (put : Put)
  | chainExclusive (put : Put) (data : BuildData)
  /-- `starMapTakeNft`, sent to the union that owned the grid then. -/
  | starMapTakeNft (put : Put) (unionId : ℕ)
  | getBuildListToGrid (list : PutList)
  | useBuildListToGrid (list : PutList) (objs : List BuildData)
  | checkPutBuildList (list : PutList)
  | getNftList (list : PutList)
  | chainExclusiveList (list : PutList) (objs : List BuildData)
  | starMapUseNftListToGrid (list : PutList) (objs : List BuildData) (unionId : ℕ)
  /-- `notUseBuildListToGrid` and `starMapNotUseNftListToGrid`, sent to `asked`. -/
  | notUse (supplier asked : Party) (used failed : List ℕ)
  | getUnionDefenseBuild (put : Put)
  | isResDictEnough (put : Put) (data : BuildData)
  | costResDict (put : Put) (build : Build)
  | checkDefense (put : Put) (data : BuildData)
  | isUnionResDictEnough (put : Put) (data : BuildData)
  | costUnionResDict (put : Put) (build : Build)
  | getUnionIdByPid (pid : ℕ) (next : Permitted)
  | checkPermitted (pid : ℕ) (next : Permitted)
  | getUnionMember (pid toPid unionId : ℕ)
  /-- A hand-back is on its way; `sent` has all buildings handed back so far. -/
  | handBack (drop : Drop) (sent : List Build) (rest : List HandBack)

inductive Reply
  | build (data : Option BuildData)
  | builds (list : Option (List BuildData))
  /-- Ids that were marked as used. -/
  | ids (list : List ℕ)
  | allowed (yes : Bool)
  /-- The chain that this grid is reserved for. -/
  | exclusive (chain : Option ℤ)
  | unionId (unionId : ℕ)
  | member (found : Bool)
  | done
  /-- The call raises; it may have had its effect. -/
  | raise (stored : Bool)

inductive Request
  | putBuild (put : Put)
  | putBuildList (list : PutList)
  | addDefenselBuild (put : Put)
  | moveBuild (pid buildId : ℕ) (pos : Pos)
  | delBuild (pid buildId : ℕ)
  | storeBuild (pid buildId : ℕ)
  | storeUnionNft (buildId : ℕ)
  | giveUpMyGrid (pid : ℕ)
  | giftWithMyGrid (pid toPid : ℕ)
  | onCampaignBegin
  | onCampaignEnd (campaign : CampaignEnd)
  | doMatchSeasonEndClear
  | dissolveUnionHandle (unionId : ℕ)
  /-- `updateOwnerInfo` and `updatePersonalGrids` for the owner of a private grid. -/
  | updateOwnerInfo (unionId : ℕ)
  /-- Time passes, and `checkProtectTimeout` runs. -/
  | elapse (seconds : ℕ)

/-- The grid with what its handlers have handed back and left behind. -/
structure Grid where
  owner : Owner
  builds : List Build
  status : GridStatus
  protectEndTick : ℤ
  canGiveUpTick : ℤ
  /-- `skynet.timestamp()`. -/
  clock : ℤ
  /-- Next value of `snowflake.uuid()`. -/
  uuid : ℕ
  locked : Bool
  /-- Buildings of players and unions, each time one is placed. -/
  placed : List Build
  handed : List Handed
  ended : List PlaceEnd
  charges : List ChargeEnd
  said : List GridError

namespace Grid

def say (error : GridError) (grid : Grid) : Grid :=
  { grid with said := error :: grid.said }

/-- `self.builds[id]`. -/
def getBuild (id : ℕ) (grid : Grid) : Option Build :=
  grid.builds.find? (·.id = id)

/-- `self.builds[build.id] = build`. -/
def setBuild (build : Build) (grid : Grid) : Grid :=
  { grid with builds := build :: grid.builds.filter (·.id ≠ build.id) }

/-- `self.builds[id] = nil`. -/
def dropBuild (id : ℕ) (grid : Grid) : Grid :=
  { grid with builds := grid.builds.filter (·.id ≠ id) }

def getPlyBuildCount (grid : Grid) : ℕ :=
  grid.builds.countP (·.isNormal) + grid.builds.countP (·.isNFT)

/-- `Build.create`; there is no building without a row of `buildConfig`. -/
def createBuild (settings : Settings) (data : BuildData) (pos : Pos) (ownerPid : ℕ)
    (grid : Grid) : Option Build :=
  (settings.buildCfg data.cfgId data.quality data.level).map fun cfg =>
    { id := data.id.getD grid.uuid
      cfgId := data.cfgId
      quality := data.quality
      level := data.level
      pos := pos
      length := cfg.length
      width := cfg.width
      life := data.life
      curLife := data.curLife
      chain := data.chain
      ownerPid := ownerPid
      isNormal := false }

def layoutBuild (layout : LayoutBuild) (id : ℕ) : Build where
  id := id
  cfgId := layout.cfgId
  quality := layout.quality
  level := layout.level
  pos := layout.pos
  length := layout.length
  width := layout.width
  life := layout.life
  curLife := layout.curLife
  chain := 0
  ownerPid := 0
  isNormal := false

/-- `createPresetBuilds` and `createCaptureBuilds`. -/
def createLayout (layout : List LayoutBuild) (uuid : ℕ) : List Build :=
  layout.mapIdx fun index build => layoutBuild build (uuid + index)

/-- `Grid:canPutdown`: whether the building may stand there, and the one it changes places with. -/
def canPutdown (settings : Settings) (buildId : ℕ) (oldPos : Option Pos) (rect : Rect)
    (grid : Grid) : Option (Option Build) :=
  if !settings.isPosValid rect.pos then none
  else
    match grid.builds.filter fun build => build.id ≠ buildId ∧ isRectOverlap rect build.rect,
      oldPos with
    | [], _ => some none
    | [overlap], some old =>
        let moved : Rect := { overlap.rect with pos := old }
        if 0 < old.x ∧ 0 < old.z ∧ grid.builds.all fun build => build.id = overlap.id ∨
            !isRectOverlap moved (if build.id = buildId then rect else build.rect) then
          some (some overlap)
        else none
    | _, _ => none

def changeOwner (settings : Settings) (newOwner : Option Owner) (grid : Grid) : Grid :=
  let layout := if newOwner.isSome then settings.captureLayout else settings.presetLayout
  { grid with
    owner := newOwner.getD initOwner
    builds := createLayout layout grid.uuid
    uuid := grid.uuid + layout.length
    status := .idle }

def setProtectTick (settings : Settings) (grid : Grid) : Grid :=
  { grid with
    protectEndTick := grid.clock + settings.protectTime * 1000
    canGiveUpTick := grid.clock + settings.abandonGridCD * 1000
    status := .protect }

/-- The lives that `_costDefenceBuildLife` and `_handleNftsLife` take. -/
def costLife (settings : Settings) (remainBuilds : List ℕ) (grid : Grid) : Grid :=
  { grid with
    builds := grid.builds.map fun build =>
      if build.id ∈ remainBuilds then build
      else { build with curLife := max (build.curLife - settings.costLife) 0 } }

def costDefenceBuildLife (settings : Settings) (remainBuilds : List ℕ) (grid : Grid) : Grid :=
  if grid.owner.isNatural ∨ settings.costLife = 0 then grid
  else grid.costLife settings remainBuilds

end Grid

/-- Add a building to those that go back to its player. -/
def addToGroup (build : Build) : List HandBack → List HandBack
  | [] => [⟨.bag build.ownerPid, [build]⟩]
  | group :: groups =>
      if group.keeper = .bag build.ownerPid then
        { group with builds := build :: group.builds } :: groups
      else group :: addToGroup build groups

/-- The buildings of a private grid, by the players that get them back. -/
def groupByOwner (builds : List Build) : List HandBack :=
  (builds.filter (·.ownerPid ≠ 0)).foldr addToGroup []

namespace Grid

/-- The calls of `_storeNftBuilds`. -/
def storePlan (grid : Grid) : List HandBack :=
  match grid.owner.party with
  | .player _ => groupByOwner grid.builds
  | .union unionId => [⟨.union unionId, grid.builds.filter (·.isNFT)⟩]
  | .nobody => []

/-- The buildings that `_handleNftsLife` finds without a life. -/
def lifeless (remainBuilds : List ℕ) (grid : Grid) : List Build :=
  grid.builds.filter fun build => build.id ∉ remainBuilds ∧ build.curLife = 0 ∧ build.chain ≠ 0

/-- The buildings that `_handleNftsLife` takes away. -/
def delBuilds (remainBuilds : List ℕ) (grid : Grid) : List Build :=
  match grid.owner.party with
  | .player _ => (grid.lifeless remainBuilds).filter (·.ownerPid ≠ 0)
  | .union _ => grid.lifeless remainBuilds
  | .nobody => []

/-- The calls of `_handleNftsLife`; the union is called in any case. -/
def lifePlan (remainBuilds : List ℕ) (grid : Grid) : List HandBack :=
  match grid.owner.party with
  | .player _ =>
      groupByOwner (grid.lifeless remainBuilds) ++ [⟨.union grid.owner.unionId, []⟩]
  | .union unionId => [⟨.union unionId, grid.lifeless remainBuilds⟩]
  | .nobody => [⟨.union grid.owner.unionId, []⟩]

def handOver (back : HandBack) (grid : Grid) : Grid :=
  { grid with
    handed := back.builds.map (fun build => ⟨build, back.keeper, grid.owner⟩) ++ grid.handed }

def winner (settings : Settings) (attacker : Owner) (hasRoom : Bool) : Option Owner :=
  if !hasRoom then none
  else
    match settings.belongType with
    | .self => some { attacker with isPrivate := true }
    | .union => some attacker

/-- The last segment of a handler, after its hand-backs. -/
def finish (settings : Settings) (drop : Drop) (grid : Grid) : Grid :=
  match drop with
  | .storeBuild buildId => grid.dropBuild buildId
  | .giveUpMyGrid | .clear => grid.changeOwner settings none
  | .campaignWin attacker hasRoom =>
      match winner settings attacker hasRoom with
      | some newOwner => (grid.changeOwner settings (some newOwner)).setProtectTick settings
      | none =>
          match settings.belongType with
          | .self => (grid.say .gridNumLimit).changeOwner settings none
          | .union => grid.changeOwner settings none
  | .campaignUnknow delBuilds =>
      let cleared : Grid :=
        { grid with
          builds := grid.builds.filter (·.id ∉ delBuilds)
          status := .idle }
      if cleared.owner.isNatural then cleared.changeOwner settings none else cleared

/-- Send the next hand-back, or finish. -/
def handBackAll (settings : Settings) (drop : Drop) (sent : List Build) (rest : List HandBack)
    (grid : Grid) : Grid × List Task :=
  match rest with
  | [] => (grid.finish settings drop, [])
  | back :: rest => (grid.handOver back, [.handBack drop (back.builds ++ sent) rest])

/-- `Grid:_storeNftBuilds`, with what its caller does next. -/
def storeNftBuilds (settings : Settings) (drop : Drop) (grid : Grid) : Grid × List Task :=
  grid.handBackAll settings drop [] grid.storePlan

/-- `Grid:_handleNftsLife`, with what `onCampaignEnd` does next. -/
def handleNftsLife (settings : Settings) (remainBuilds : List ℕ) (grid : Grid) :
    Grid × List Task :=
  if grid.owner.isNatural ∨ settings.costLife = 0 then
    grid.handBackAll settings (.campaignUnknow []) [] []
  else
    let cost := grid.costLife settings remainBuilds
    cost.handBackAll settings
      (.campaignUnknow ((cost.delBuilds remainBuilds).map (·.id))) [] (cost.lifePlan remainBuilds)

def onCampaignEnd (settings : Settings) (campaign : CampaignEnd) (grid : Grid) :
    Grid × List Task :=
  match campaign.result, campaign.attacker with
  | .win, some attacker =>
      (grid.costDefenceBuildLife settings campaign.remainBuilds).storeNftBuilds settings
        (.campaignWin attacker campaign.hasRoom)
  | .unknow, _ => grid.handleNftsLife settings campaign.remainBuilds
  | _, _ => (grid, [])

end Grid
end BasWar.Starmap
