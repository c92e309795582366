import BasWar.Player.MapGrids
import Mathlib.Data.List.Pairwise

/-!
# The base map

The buildings of a player and the grids of the base, as the build bag keeps them: a building is
created on free cells, moved, swapped with another one, deleted, and the whole base is set back to
the preset layout at the end of a season.  Buildings that came from the chain stay where they are
then, and bring no position with them when they arrive.
-/

namespace BasWar.BaseMap

open MapGrids

def posOutOfBounds : String :=
  "pos is out of bunds"

def buildNotExist : String :=
  "This facility does not exist"

def buildCantMove : String :=
  "build can't move"

def baseBuildRepeat : String :=
  "Main Base already exists"

def buildCountLimit : String :=
  "Number built has reached to its limit"

def posErr : String :=
  "Cannot be placed here"

def buildDegreeNotEnough : String :=
  "build degree not enough"

def buildBase : ℕ :=
  6010001

def buildLiberatorShip : ℕ :=
  0

/-- `BUILD_TYPE_CAN_MOVE`: economy, development and defence. -/
def buildTypeCanMove (type : ℕ) : Bool :=
  type ∈ [1, 2, 3]

def buildSubTypeLiberatorShip : ℕ :=
  4

/-- The part of a row of the building configuration that the map uses. -/
structure BuildCfg where
  type : ℕ
  subType : ℕ
  length : ℕ
  width : ℕ

structure PresetBuild where
  cfgId : ℕ
  quality : ℕ
  level : ℕ
  pos : Pos

structure Config where
  /-- `getBuildCfg` by id, quality and level. -/
  getBuildCfg : ℕ → ℕ → ℕ → Option BuildCfg
  /-- The landing ships have no row; `refreshConfig` loads none for their id. -/
  noShip : ∀ quality level, getBuildCfg buildLiberatorShip quality level = none
  /-- The layout that `InitBuildLayout` names. -/
  presetBuilds : List PresetBuild
  isInnerServer : Bool

structure Build where
  id : ℕ
  cfgId : ℕ
  type : ℕ
  subType : ℕ
  length : ℕ
  width : ℕ
  /-- Positive for a building from the chain. -/
  chain : ℤ
  pos : Pos
  deriving DecidableEq

def Build.cells (build : Build) : List Pos :=
  coveredCells build.pos build.length build.width

/-- The build bag, as far as the map is concerned. -/
structure Bag where
  builds : List Build
  grids : Grids

/-- The bag of `ctor`. -/
def Bag.new : Bag where
  builds := []
  grids := fun _ => 0

/-- `self.builds[id]`. -/
def getBuild (builds : List Build) (id : ℕ) : Option Build :=
  builds.find? fun build => build.id = id

/-- `self.builds[build.id] = build`. -/
def putBuild (builds : List Build) (build : Build) : List Build :=
  builds.filter (fun other => other.id ≠ build.id) ++ [build]

/-- `self.builds[id] = nil`. -/
def dropBuild (builds : List Build) (id : ℕ) : List Build :=
  builds.filter fun build => build.id ≠ id

/-- `setNewPos` on the building with an id. -/
def setNewPos (builds : List Build) (id : ℕ) (pos : Pos) : List Build :=
  builds.map fun build => if build.id = id then { build with pos } else build

/-- The assertions of `initMapGrids` on one building. -/
def endsInMap (build : Build) : Bool :=
  (List.range build.length).all fun (i : ℕ) =>
    decide (build.pos.x + i ≤ mapGridMax) &&
      (List.range build.width).all fun (j : ℕ) => decide (build.pos.z + j ≤ mapGridMax)

/-- `initMapGrids`; nothing if an assertion fails. -/
def initMapGrids (grids : Grids) (builds : List Build) : Option Grids :=
  let placed := builds.filter fun build => 0 < build.pos.x ∧ 0 < build.pos.z
  if placed.all endsInMap then
    some (placed.foldl
      (fun grids build => fill build.id (areaCells build.pos build.length build.width) grids)
      fun cell => if cell.InMap then 0 else grids cell)
  else
    none

/-- `deserialize`; nothing if the layout ends outside of the map. -/
def deserialize (bag : Bag) (data : List Build) : Option Bag :=
  let builds := data.foldl putBuild bag.builds
  (initMapGrids bag.grids builds).map fun grids => ⟨builds, grids⟩

/-- `newBuild` without a position; nothing if the configuration has no row. -/
def newBuild (config : Config) (uuid cfgId quality level : ℕ) (pos : Pos) : Option Build :=
  (config.getBuildCfg cfgId quality level).map fun cfg =>
    { id := uuid, cfgId, type := cfg.type, subType := cfg.subType, length := cfg.length,
      width := cfg.width, chain := 0, pos }

/-- `setBuildPos` on the grids. -/
def setBuildPos (grids : Grids) (build : Build) : Grids :=
  setMapGrids grids build.id build.pos build.length build.width

def addBuild (bag : Bag) (build : Build) : Bag where
  builds := putBuild bag.builds build
  grids := setBuildPos bag.grids build

/-- What `createBuild` finds about a new building apart from its place. -/
structure Checks where
  countFull : Bool
  /-- The text about a building that is missing, if any. -/
  needBuild : Option String
  constructionEnough : Bool
  enoughRes : Bool

/-- `createBuild`.  A landing ship has no row, so the branches for its berths are not reached. -/
def createBuild (config : Config) (bag : Bag) (cfgId : ℕ) (pos : Pos) (opType uuid : ℕ)
    (checks : Checks) : Except (Option String) Bag :=
  match config.getBuildCfg cfgId 0 0 with
  | none => .error (some buildNotExist)
  | some cfg =>
      if cfgId = buildBase then
        .error (some baseBuildRepeat)
      else if checks.countFull then
        .error (some buildCountLimit)
      else if !canPlaceMapGrids bag.grids pos cfg.length cfg.width then
        .error (some posErr)
      else if checks.needBuild.isSome then
        .error checks.needBuild
      else if !checks.constructionEnough then
        .error (some buildDegreeNotEnough)
      else if opType = 1 || !checks.enoughRes then
        .error none
      else
        match newBuild config uuid cfgId 0 0 pos with
        | none => .error none
        | some build => .ok (addBuild { bag with grids := setBuildPos bag.grids build } build)

def delBuild (bag : Bag) (id : ℕ) : Except (Option String) Bag :=
  match getBuild bag.builds id with
  | none => .error (some buildNotExist)
  | some build => .ok
      { builds := dropBuild bag.builds id
        grids := resetMapGrids bag.grids build.pos build.length build.width }

def isBuildCanMove (build : Build) : Bool :=
  buildTypeCanMove build.type && build.subType != buildSubTypeLiberatorShip

def canMoveMapGrids (bag : Bag) (src : Build) (fromPos toPos : Pos) : Except (Option String) Unit :=
  if ¬ toPos.InMap then
    .error none
  else
    match getIdFromMapGrids bag.grids toPos src.length src.width [src.id] with
    | none => .error (some "can not exchange more then one build")
    | some dstId =>
        if !isEnoughSpaceMapGrids bag.grids toPos src.length src.width [src.id, dstId] then
          .error (some "not enough space")
        else if dstId = 0 then
          .ok ()
        else
          match getBuild bag.builds dstId with
          | none => .error (some "no build")
          | some dst =>
              if !buildTypeCanMove dst.type then
                .error (some "mess cant not move")
              else if !isEnoughSpaceMapGrids bag.grids fromPos dst.length dst.width
                  [src.id, dstId] then
                .error (some "not enough space")
              else
                .ok ()

/-- The end of `swapMapGrids`: the moved building takes its new place. -/
def takePlace (bag : Bag) (src : Build) (toPos : Pos) : Bag where
  builds := setNewPos bag.builds src.id toPos
  grids := setMapGrids bag.grids src.id toPos src.length src.width

def swapMapGrids (bag : Bag) (src : Build) (fromPos toPos : Pos) : Bag :=
  let grids := resetMapGrids bag.grids fromPos src.length src.width
  match getIdFromMapGrids grids toPos src.length src.width [src.id] with
  | none | some 0 => takePlace { bag with grids } src toPos
  | some dstId =>
      match getBuild bag.builds dstId with
      -- the source raises here, after the old place was cleared
      | none => { bag with grids }
      | some dst =>
          let grids := resetMapGrids grids dst.pos dst.length dst.width
          let grids := setMapGrids grids dstId fromPos dst.length dst.width
          takePlace { builds := setNewPos bag.builds dstId fromPos, grids } src toPos

/-- `moveBuild`; `edit` is set by the editor of the inner servers. -/
def moveBuild (config : Config) (bag : Bag) (id : ℕ) (pos : Pos) (edit : Bool) :
    Except (Option String) Bag :=
  if edit && !config.isInnerServer then
    .error none
  else if ¬ pos.InMap then
    .error (some posOutOfBounds)
  else
    match getBuild bag.builds id with
    | none => .error (some buildNotExist)
    | some build =>
        if !isBuildCanMove build && !edit then
          .error (some buildCantMove)
        else
          match canMoveMapGrids bag build build.pos pos with
          | .error message => .error message
          | .ok () => .ok (swapMapGrids bag build build.pos pos)

/-- The new buildings of `_initPresetBuilds`. -/
def presetBuilds (config : Config) (uuids : List ℕ) : List Build :=
  (config.presetBuilds.zip uuids).filterMap fun (preset, uuid) =>
    newBuild config uuid preset.cfgId preset.quality preset.level preset.pos

def resetData (config : Config) (bag : Bag) (uuids : List ℕ) : Bag :=
  let deleted := bag.builds.filter fun build => build.chain ≤ 0
  let grids := deleted.foldl
    (fun grids build => resetMapGrids grids build.pos build.length build.width) bag.grids
  (presetBuilds config uuids).foldl addBuild
    { builds := bag.builds.filter fun build => 0 < build.chain, grids }

/-- The operations of the bag that touch the map. -/
inductive Op
  | deserialize (data : List Build)
  | createBuild (cfgId : ℕ) (pos : Pos) (opType uuid : ℕ) (checks : Checks)
  | addBuild (build : Build)
  | moveBuild (id : ℕ) (pos : Pos) (edit : Bool)
  | delBuild (id : ℕ)
  | resetData (uuids : List ℕ)

/-- The bag after an operation; a refusal changes nothing. -/
def Op.run (config : Config) (bag : Bag) : Op → Bag
  | .deserialize data => (BaseMap.deserialize bag data).getD bag
  | .createBuild cfgId pos opType uuid checks =>
      ((BaseMap.createBuild config bag cfgId pos opType uuid checks).toOption).getD bag
  | .addBuild build => BaseMap.addBuild bag build
  | .moveBuild id pos edit => ((BaseMap.moveBuild config bag id pos edit).toOption).getD bag
  | .delBuild id => ((BaseMap.delBuild bag id).toOption).getD bag
  | .resetData uuids => BaseMap.resetData config bag uuids

end BasWar.BaseMap
