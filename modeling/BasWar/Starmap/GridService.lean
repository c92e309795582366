import BasWar.Starmap.Grid

/-!
# Handlers of a grid

The handlers are cut at their calls.  A handler that takes the lock `"Grid:" .. cfgId` does not
start before the lock is free; a request that comes earlier has no effect yet.  A handler that
raises ends there, and the lock is free again.
-/

namespace BasWar
namespace Starmap
namespace Grid

def useUuid (data : BuildData) (grid : Grid) : Grid :=
  if data.id.isNone then { grid with uuid := grid.uuid + 1 } else grid

def endPlacing (supplier : Party) (used released : List ℕ) (grid : Grid) : Grid × List Task :=
  ({ grid with
      ended := ⟨supplier, used, released, grid.owner.party, grid.builds.map (·.id)⟩ :: grid.ended },
    [])

def place (build : Build) (grid : Grid) : Grid :=
  { grid.setBuild build with placed := build :: grid.placed }

/-- The test that a new building fits, after its record is known. -/
def fits (settings : Settings) (data : BuildData) (pos : Pos) (grid : Grid) :
    Except GridError Unit :=
  match settings.buildCfg data.cfgId data.quality data.level with
  | none => .error .unionNftNotAvaliable
  | some cfg =>
      if (grid.canPutdown settings 0 none ⟨pos, cfg.length, cfg.width⟩).isSome then .ok ()
      else .error .posErr

/-! ## `putBuild` -/

/-- `Grid:putBuild`, up to its first call. -/
def putBuild (settings : Settings) (put : Put) (grid : Grid) : Grid × List Task :=
  if grid.owner.isNatural then (grid.say .gridOwnerNotYou, [])
  else if settings.towerCount ≤ grid.getPlyBuildCount then (grid.say .gridPlyBuildLimit, [])
  else
    match grid.owner.party with
    | .player _ =>
        if grid.owner.playerId ≠ put.pid then (grid.say .gridOwnerNotYou, [])
        else (grid, [.getNftItemOnGrid put])
    | .union unionId =>
        if put.unionId ≠ unionId then (grid.say .unionNotMember, [])
        else (grid, [.checkPutBuild put])
    | .nobody => (grid, [])

/-- After `getNftItemOnGrid`. -/
def putNftItem (settings : Settings) (put : Put) (data : Option BuildData) (grid : Grid) :
    Grid × List Task :=
  match data with
  | none => (grid.say .unionNftNotAvaliable, [])
  | some data =>
      match grid.fits settings data put.pos with
      | .error error => (grid.say error, [])
      | .ok () => (grid, [.useNftItemOnGrid put])

/-- After `getNftInfo` and `getChainExclusiveGrids`. -/
def putNftInfo (settings : Settings) (put : Put) (data : BuildData) (exclusive : Option ℤ)
    (grid : Grid) : Grid × List Task :=
  if ∃ chain ∈ exclusive, data.chain ≠ chain then (grid.say .gridMustPutExclusiveDefense, [])
  else
    match grid.fits settings data put.pos with
    | .error error => (grid.say error, [])
    | .ok () => (grid, [.starMapTakeNft put grid.owner.unionId])

/-- The last segment of `putBuild`: nothing is checked again. -/
def putTaken (settings : Settings) (supplier : Party) (put : Put) (data : BuildData)
    (ownerPid : ℕ) (grid : Grid) : Grid × List Task :=
  match grid.createBuild settings data put.pos ownerPid with
  | none => (grid.say .buildCreateErr).endPlacing supplier [put.buildId] []
  | some build => ((grid.useUuid data).place build).endPlacing supplier [put.buildId] []

/-- After `useNftItemOnGrid`; without an item `itemInfo.ownerPid` raises. -/
def putUsed (settings : Settings) (put : Put) (data : Option BuildData) (grid : Grid) :
    Grid × List Task :=
  match data with
  | none => grid.endPlacing (.player put.pid) [] []
  | some data =>
      grid.putTaken settings (.player put.pid) put data
        (if data.ownerPid = 0 then put.pid else data.ownerPid)

/-- After `starMapTakeNft`. -/
def putTakenNft (settings : Settings) (put : Put) (unionId : ℕ) (data : Option BuildData)
    (grid : Grid) : Grid × List Task :=
  match data with
  | none => (grid.say .unionNftNotAvaliable).endPlacing (.union unionId) [] []
  | some data => grid.putTaken settings (.union unionId) put data data.ownerPid

/-! ## `putBuildList` -/

/-- `Grid:putBuildList`, up to its first call. -/
def putBuildList (settings : Settings) (list : PutList) (grid : Grid) : Grid × List Task :=
  if grid.owner.isNatural then (grid.say .gridOwnerNotYou, [])
  else if settings.towerCount ≤ grid.getPlyBuildCount then (grid.say .gridPlyBuildLimit, [])
  else
    let freeSpace := settings.towerCount - grid.getPlyBuildCount
    let list := { list with buildList := list.buildList.take freeSpace }
    match grid.owner.party with
    | .player _ =>
        if list.fromType ≠ .person then (grid.say .gridToGridBuildTypeErr, [])
        else if grid.owner.playerId ≠ list.pid then (grid.say .gridOwnerNotYou, [])
        else (grid, [.getBuildListToGrid list])
    | .union unionId =>
        if list.fromType ≠ .union then (grid.say .gridToGridBuildTypeErr, [])
        else if list.unionId ≠ unionId then (grid.say .unionNotMember, [])
        else (grid, [.checkPutBuildList list])
    | .nobody => (grid, [])

/-- One round of the loops of `putBuildList`; nothing when the building joins the failed ones. -/
def placeListed (settings : Settings) (list : PutList) (objs : List BuildData)
    (ownerPid : BuildData → ℕ) (id : ℕ) (grid : Grid) : Option Grid := do
  let obj ← objs.reverse.find? (·.id = some id)
  let cfg ← settings.buildCfg obj.cfgId obj.quality obj.level
  let pos ← list.pos? id
  let _ ← grid.canPutdown settings 0 none ⟨pos, cfg.length, cfg.width⟩
  let build ← grid.createBuild settings obj pos (ownerPid obj)
  some (grid.place build)

/-- The loops of `putBuildList`, with the ids that failed. -/
def placeList (settings : Settings) (list : PutList) (objs : List BuildData)
    (ownerPid : BuildData → ℕ) : List ℕ → Grid → Grid × List ℕ
  | [], grid => (grid, [])
  | id :: ids, grid =>
      match grid.placeListed settings list objs ownerPid id with
      | some grid => placeList settings list objs ownerPid ids grid
      | none =>
          let (grid, failed) := placeList settings list objs ownerPid ids grid
          (grid, id :: failed)

def releaseFailed (supplier asked : Party) (used : List ℕ) (result : Grid × List ℕ) :
    Grid × List Task :=
  if result.2 = [] then result.1.endPlacing supplier used []
  else (result.1, [.notUse supplier asked used result.2])

/-- After `getBuildListToGrid`. -/
def putListObjs (list : PutList) (objs : Option (List BuildData)) (grid : Grid) :
    Grid × List Task :=
  match objs with
  | none | some [] => (grid.say .unionNftNotAvaliable, [])
  | some objs => (grid, [.useBuildListToGrid list objs])

/-- After `useBuildListToGrid`. -/
def putListUsed (settings : Settings) (list : PutList) (objs : List BuildData) (used : List ℕ)
    (grid : Grid) : Grid × List Task :=
  releaseFailed (.player list.pid) (.player list.pid) used
    (grid.placeList settings list objs
      (fun obj => if obj.ownerPid = 0 then list.pid else obj.ownerPid) used)

/-- After `getNftList`. -/
def putListNfts (list : PutList) (objs : Option (List BuildData)) (grid : Grid) :
    Grid × List Task :=
  match objs with
  | none | some [] => (grid.say .unionNftNotAvaliable, [])
  | some objs => (grid, [.chainExclusiveList list objs])

/-- After `getChainExclusiveGrids`. -/
def putListExclusive (list : PutList) (objs : List BuildData) (exclusive : Option ℤ)
    (grid : Grid) : Grid × List Task :=
  (grid, [.starMapUseNftListToGrid list
    (objs.filter fun obj => ∀ chain ∈ exclusive, obj.chain = chain) grid.owner.unionId])

/-- After `starMapUseNftListToGrid`; the owner of the grid may be another one by now. -/
def putListTaken (settings : Settings) (list : PutList) (objs : List BuildData) (unionId : ℕ)
    (used : List ℕ) (grid : Grid) : Grid × List Task :=
  releaseFailed (.union unionId) (.union grid.owner.unionId) used
    (grid.placeList settings list objs (·.ownerPid) used)

/-! ## `addDefenselBuild` -/

/-- Write down how a call that reached its charge ended. -/
def endCharge (charged stands : Bool) (grid : Grid) : Grid × List Task :=
  ({ grid with charges := ⟨charged, stands⟩ :: grid.charges }, [])

/-- `Grid:addDefenselBuild`, up to its first call. -/
def addDefenselBuild (settings : Settings) (put : Put) (grid : Grid) : Grid × List Task :=
  if grid.owner.isNatural then (grid.say .gridOwnerNotYou, [])
  else if settings.towerCount ≤ grid.getPlyBuildCount then (grid.say .gridPlyBuildLimit, [])
  else (grid, [.getUnionDefenseBuild put])

/-- After `getUnionDefenseBuild`. -/
def defenseBuild (settings : Settings) (put : Put) (data : Option BuildData) (grid : Grid) :
    Grid × List Task :=
  match data with
  | none => (grid, [])
  | some data =>
      match settings.buildCfg put.buildId 0 data.level with
      | none => (grid.say .unionNormalNotAvaliable, [])
      | some cfg =>
          if !cfg.belongUnion then (grid.say .unionBuildBelongErr, [])
          else if (grid.canPutdown settings 0 none ⟨put.pos, cfg.length, cfg.width⟩).isNone then
            (grid.say .posErr, [])
          else
            match grid.owner.party with
            | .player _ =>
                if grid.owner.playerId ≠ put.pid then (grid.say .gridOwnerNotYou, [])
                else (grid, [.isResDictEnough put data])
            | .union unionId =>
                if put.unionId ≠ unionId then (grid.say .unionNotMember, [])
                else (grid, [.checkDefense put data])
            | .nobody => (grid, [])

/-- After `isResDictEnough` and `isUnionResDictEnough`. -/
def defenseEnough (settings : Settings) (cost : Put → Build → Task) (put : Put)
    (data : BuildData) (grid : Grid) : Grid × List Task :=
  match grid.createBuild settings data put.pos data.ownerPid with
  | none => (grid.say .buildCreateErr, [])
  | some build => (grid.useUuid data, [cost put { build with isNormal := true }])

/-- After `costResDict` and `costUnionResDict`. -/
def defensePaid (build : Build) (charged : Bool) (grid : Grid) : Grid × List Task :=
  if charged then
    (grid.setBuild build).endCharge true ((grid.setBuild build).getBuild build.id = some build)
  else grid.endCharge false false

/-! ## Moving, deleting, storing and giving up -/

/-- The last segment of `moveBuild`. -/
def move (settings : Settings) (build : Build) (pos : Pos) (grid : Grid) : Grid :=
  let build := (grid.getBuild build.id).getD build
  match grid.canPutdown settings build.id (some build.pos) ⟨pos, build.length, build.width⟩ with
  | none => grid.say .posErr
  | some overlap =>
      { grid with
        builds := grid.builds.map fun other =>
          if other.id = build.id then { other with pos := pos }
          else if overlap.map (·.id) = some other.id then { other with pos := build.pos }
          else other }

def permitted (settings : Settings) (next : Permitted) (keeper : Keeper) (grid : Grid) :
    Grid × List Task :=
  match next with
  | .storeBuild build =>
      grid.handBackAll settings (.storeBuild build.id) []
        [⟨keeper, [(grid.getBuild build.id).getD build]⟩]
  | .giveUpMyGrid => grid.storeNftBuilds settings .giveUpMyGrid
  | .delBuild buildId => (grid.dropBuild buildId, [])
  | .moveBuild build pos => (grid.move settings build pos, [])

/-- The branches on the owner that storing, giving up, deleting and moving have in common. -/
def askOwner (settings : Settings) (pid : ℕ) (next : Permitted) (grid : Grid) :
    Grid × List Task :=
  match grid.owner.party with
  | .player _ =>
      if grid.owner.playerId ≠ pid then (grid.say .gridOwnerNotYou, [])
      else grid.permitted settings next (.bag pid)
  | .union _ => (grid, [.getUnionIdByPid pid next])
  | .nobody => (grid, [])

def moveBuild (settings : Settings) (pid buildId : ℕ) (pos : Pos) (grid : Grid) :
    Grid × List Task :=
  if grid.owner.isNatural then (grid.say .gridOwnerNotYou, [])
  else
    match grid.getBuild buildId with
    | none => (grid.say .buildNotExist, [])
    | some build => grid.askOwner settings pid (.moveBuild build pos)

def delBuild (settings : Settings) (pid buildId : ℕ) (grid : Grid) : Grid × List Task :=
  if grid.owner.isNatural then (grid.say .gridOwnerNotYou, [])
  else
    match grid.getBuild buildId with
    | none => (grid.say .buildNotExist, [])
    | some build =>
        if build.cfgId = buildBase then (grid.say .buildBaseCannotDelete, [])
        else if build.isNFT then (grid.say .buildCannotDelete, [])
        else grid.askOwner settings pid (.delBuild buildId)

def storeBuild (settings : Settings) (pid buildId : ℕ) (grid : Grid) : Grid × List Task :=
  if grid.owner.isNatural then (grid.say .gridOwnerNotYou, [])
  else
    match grid.getBuild buildId with
    | none => (grid.say .buildNotExist, [])
    | some build =>
        if !build.isNFT then (grid.say .buildIsNotNft, [])
        else grid.askOwner settings pid (.storeBuild build)

def storeUnionNft (buildId : ℕ) (grid : Grid) : Grid × List Task :=
  match grid.getBuild buildId with
  | none => (grid, [])
  | some build =>
      if !build.isNFT then (grid, [])
      else ((grid.handOver ⟨.caller, [build]⟩).dropBuild buildId, [])

def giveUpMyGrid (settings : Settings) (pid : ℕ) (grid : Grid) : Grid × List Task :=
  if grid.owner.isNatural then (grid.say .gridOwnerNotYou, [])
  else if grid.status = .battle then (grid.say .gridStatusBattle, [])
  else if grid.status = .protect then (grid.say .gridStatusProtect, [])
  else if grid.clock < grid.canGiveUpTick then
    (grid.say (.gridCanNotGiveUp ((grid.canGiveUpTick - grid.clock) / 1000)), [])
  else grid.askOwner settings pid .giveUpMyGrid

/-- After `getUnionIdByPid`. -/
def askedUnion (pid unionId : ℕ) (next : Permitted) (grid : Grid) : Grid × List Task :=
  if unionId ≠ grid.owner.unionId then (grid.say .unionNotMember, [])
  else (grid, [.checkPermitted pid next])

def giftWithMyGrid (pid toPid : ℕ) (grid : Grid) : Grid × List Task :=
  if grid.owner.playerId ≠ pid then (grid.say .gridOwnerNotYou, [])
  else if grid.owner.unionId = 0 then (grid.say .gridNotJoinUnion, [])
  else if grid.status = .battle then (grid.say .gridStatusBattle, [])
  else (grid, [.getUnionMember pid toPid grid.owner.unionId])

/-- After `getUnionMember`; `getNftBuilds` is called, but its result is not used. -/
def gift (settings : Settings) (toPid unionId : ℕ) (found : Bool) (grid : Grid) :
    Grid × List Task :=
  if !found then (grid.say .gridNotJoinUnion, [])
  else (grid.changeOwner settings (some ⟨toPid, unionId, false⟩), [])

/-- `Starmap:dissolveUnionHandle`; the handler asserts that the union owns the grid. -/
def dissolveUnionHandle (settings : Settings) (unionId : ℕ) (grid : Grid) : Grid × List Task :=
  if grid.owner.unionId ≠ unionId then (grid, [])
  else grid.storeNftBuilds settings .clear

/-- `Starmap:updatePersonalGrids`. -/
def updateOwnerInfo (unionId : ℕ) (grid : Grid) : Grid :=
  match grid.owner.party with
  | .player _ => { grid with owner := { grid.owner with unionId := unionId } }
  | _ => grid

/-- Time passes; then `checkProtectTimeout`. -/
def elapse (seconds : ℕ) (grid : Grid) : Grid :=
  let clock := grid.clock + 1000 * seconds
  if grid.protectEndTick = 0 ∨ clock < grid.protectEndTick then { grid with clock := clock }
  else { grid with clock := clock, protectEndTick := 0, status := .idle }

def start (settings : Settings) (request : Request) (grid : Grid) : Grid × List Task :=
  match request with
  | .putBuild put => grid.putBuild settings put
  | .putBuildList list => grid.putBuildList settings list
  | .addDefenselBuild put => grid.addDefenselBuild settings put
  | .moveBuild pid buildId pos => grid.moveBuild settings pid buildId pos
  | .delBuild pid buildId => grid.delBuild settings pid buildId
  | .storeBuild pid buildId => grid.storeBuild settings pid buildId
  | .storeUnionNft buildId => grid.storeUnionNft buildId
  | .giveUpMyGrid pid => grid.giveUpMyGrid settings pid
  | .giftWithMyGrid pid toPid => grid.giftWithMyGrid pid toPid
  | .onCampaignBegin => ({ grid with status := .battle }, [])
  | .onCampaignEnd campaign => grid.onCampaignEnd settings campaign
  | .doMatchSeasonEndClear => grid.storeNftBuilds settings .clear
  | .dissolveUnionHandle unionId => grid.dissolveUnionHandle settings unionId
  | .updateOwnerInfo unionId => (grid.updateOwnerInfo unionId, [])
  | .elapse seconds => (grid.elapse seconds, [])

/-- A call of the handler raises. -/
def raised (task : Task) (stored : Bool) (grid : Grid) : Grid × List Task :=
  match task with
  | .useNftItemOnGrid put =>
      grid.endPlacing (.player put.pid) (if stored then [put.buildId] else []) []
  | .starMapTakeNft put unionId =>
      grid.endPlacing (.union unionId) (if stored then [put.buildId] else []) []
  | .useBuildListToGrid list objs =>
      grid.endPlacing (.player list.pid) (if stored then objs.filterMap (·.id) else []) []
  | .starMapUseNftListToGrid _ objs unionId =>
      grid.endPlacing (.union unionId) (if stored then objs.filterMap (·.id) else []) []
  | .notUse supplier asked used failed =>
      grid.endPlacing supplier used (if stored ∧ asked = supplier then failed else [])
  | .costResDict _ _ | .costUnionResDict _ _ => grid.endCharge stored false
  | _ => (grid, [])

def proceed (settings : Settings) (task : Task) (reply : Reply) (grid : Grid) :
    Grid × List Task :=
  match task, reply with
  | task, .raise stored => grid.raised task stored
  | .getNftItemOnGrid put, .build data => grid.putNftItem settings put data
  | .useNftItemOnGrid put, .build data => grid.putUsed settings put data
  | .checkPutBuild put, .allowed yes =>
      if yes then (grid, [.getNftInfo put]) else (grid.say .unionNoAuthority, [])
  | .getNftInfo _, .build none => (grid.say .unionNftNotAvaliable, [])
  | .getNftInfo put, .build (some data) => (grid, [.chainExclusive put data])
  | .chainExclusive put data, .exclusive chain => grid.putNftInfo settings put data chain
  | .starMapTakeNft put unionId, .build data => grid.putTakenNft settings put unionId data
  | .getBuildListToGrid list, .builds objs => grid.putListObjs list objs
  | .useBuildListToGrid list objs, .ids used => grid.putListUsed settings list objs used
  | .checkPutBuildList list, .allowed yes =>
      if yes then (grid, [.getNftList list]) else (grid.say .unionNoAuthority, [])
  | .getNftList list, .builds objs => grid.putListNfts list objs
  | .chainExclusiveList list objs, .exclusive chain => grid.putListExclusive list objs chain
  | .starMapUseNftListToGrid list objs unionId, .ids used =>
      grid.putListTaken settings list objs unionId used
  | .notUse supplier asked used failed, .done =>
      grid.endPlacing supplier used (if asked = supplier then failed else [])
  | .getUnionDefenseBuild put, .build data => grid.defenseBuild settings put data
  | .isResDictEnough put data, .allowed yes =>
      if yes then grid.defenseEnough settings .costResDict put data else (grid, [])
  | .checkDefense put data, .allowed yes =>
      if yes then (grid, [.isUnionResDictEnough put data]) else (grid.say .unionNoAuthority, [])
  | .isUnionResDictEnough put data, .allowed yes =>
      if yes then grid.defenseEnough settings .costUnionResDict put data else (grid, [])
  | .costResDict _ build, .allowed yes | .costUnionResDict _ build, .allowed yes =>
      grid.defensePaid build yes
  | .getUnionIdByPid pid next, .unionId unionId => grid.askedUnion pid unionId next
  | .checkPermitted _ next, .allowed yes =>
      if yes then grid.permitted settings next (.union grid.owner.unionId)
      else (grid.say .unionNoAuthority, [])
  | .getUnionMember _ toPid unionId, .member found => grid.gift settings toPid unionId found
  | .handBack drop sent rest, .done => grid.handBackAll settings drop sent rest
  | task, _ => (grid, [task])

/-- A handler with the lock keeps it while it is suspended. -/
def lockFor (result : Grid × List Task) : Grid × List Task :=
  ({ result.1 with locked := !result.2.isEmpty }, result.2)

end Grid

/-- The request goes through `gg.sync:once_do("Grid:" .. cfgId, ...)`. -/
def Request.takesLock : Request → Bool
  | .onCampaignBegin | .onCampaignEnd _ | .doMatchSeasonEndClear | .dissolveUnionHandle _
  | .updateOwnerInfo _ | .elapse _ => false
  | _ => true

def Drop.holdsLock : Drop → Bool
  | .storeBuild _ | .giveUpMyGrid => true
  | _ => false

def Task.holdsLock : Task → Bool
  | .handBack drop _ _ => drop.holdsLock
  | _ => true

namespace Grid

def accept (settings : Settings) (request : Request) (grid : Grid) : Grid × List Task :=
  if !request.takesLock then grid.start settings request
  else if grid.locked then (grid, [])
  else lockFor (grid.start settings request)

def resume (settings : Settings) (task : Task) (reply : Reply) (grid : Grid) :
    Grid × List Task :=
  if task.holdsLock then lockFor (grid.proceed settings task reply)
  else grid.proceed settings task reply

end Grid

open Cooperative

def gridService (settings : Settings) : Service Grid Request Task Reply where
  accept := Grid.accept settings
  resume := Grid.resume settings

/-- `Grid:init` for a grid that is not in the database. -/
def Grid.init (settings : Settings) (clock : ℤ) : Grid where
  owner := initOwner
  builds := Grid.createLayout settings.presetLayout 0
  status := .idle
  protectEndTick := 0
  canGiveUpTick := 0
  clock := clock
  uuid := settings.presetLayout.length
  locked := false
  placed := []
  handed := []
  ended := []
  charges := []
  said := []

def gridStart (settings : Settings) (clock : ℤ) : Config Grid Task :=
  ⟨Grid.init settings clock, []⟩

def sampleSettings : Settings where
  buildCfg cfgId _ _ := if cfgId = 1 then some ⟨2, 2, false, []⟩ else none
  belongType := .self
  towerCount := 5
  presetLayout := []
  captureLayout := []
  maxPos := ⟨40, 40⟩
  costLife := 1
  abandonGridCD := 0
  protectTime := 0

def sampleNft : BuildData := ⟨some 7, 1, 1, 1, 10, 10, 1, 0⟩

/-- Player 1 wins the grid and puts an NFT on it. -/
def placedRun : List (Event Request Reply) :=
  [.request (.onCampaignEnd ⟨.win, some ⟨1, 9, false⟩, [], true⟩),
    .request (.putBuild ⟨1, 7, ⟨10, 10⟩, 9⟩), .reply 0 (.build (some sampleNft)),
    .reply 0 (.build (some sampleNft))]

end Starmap
end BasWar
