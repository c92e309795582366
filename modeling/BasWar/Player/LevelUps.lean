import BasWar.Player.Upgrades
import BasWar.Tables.Keyed

/-!
# Level-ups of buildings and soldiers

Buildings and kinds of soldiers are raised by requests of the client, whose `speedUp` is any
integer, and by the check of each second.  Buildings from the chain pay as heroes do.  The others
share working queues: a request that finds its queue full pays for the rest of the time of the
level-up that would end first and finishes it.  Whether the other requirements hold and whether the
resources cover a bill is given with each request.
-/

namespace BasWar.LevelUps

open Tables
open Upgrades (Timestamp)

/-- `BUILD_HYPERSPACERESEARCH`, the building in which soldiers are raised. -/
def buildHyperspaceResearch : ℕ :=
  6020002

/-- A building, or the level of a kind of soldiers, whose id is its `cfgId`. -/
structure Work where
  id : ℕ
  cfgId : ℕ
  quality : ℕ
  chain : ℤ
  level : ℕ
  nextTick : ℤ

namespace Work

/-- `getLessTick`, in whole seconds. -/
def getLessTick (now : Timestamp) (work : Work) : ℤ :=
  if work.nextTick ≤ 0 then
    0
  else
    let lessTick := (work.nextTick - now.val) / 1000
    if lessTick ≤ 0 then 0 else lessTick

def isLevelUp (now : Timestamp) (work : Work) : Bool :=
  decide (now.val ≤ work.nextTick)

def setNextTick (now : Timestamp) (needTick : ℕ) (work : Work) : Work :=
  { work with nextTick := now.val + needTick }

/-- What `checkLevelUp` writes. -/
def raise (work : Work) : Work :=
  { work with nextTick := 0, level := work.level + 1 }

end Work

/-- `buildBag.builds` or `buildBag.soliderLevels`. -/
abbrev Table :=
  Keyed Work.id

/-- One round of the search for the work that would end first. -/
def earlier (now : Timestamp) (best : Option Work) (work : Work) : Option Work :=
  if 0 < work.getLessTick now then
    match best with
    | none => some work
    | some least => if work.getLessTick now < least.getLessTick now then some work else some least
  else
    best

/-- The work that would end first, in the order of `pairs`. -/
def earliest (now : Timestamp) (works : List Work) : Option Work :=
  works.foldl (earlier now) none

inductive Side
  | builds
  | soliderLevels
  deriving DecidableEq

abbrev Bag :=
  Side → Table

/-- Which work of a bag. -/
abbrev Target :=
  Side × ℕ

namespace Bag

def put (bag : Bag) (side : Side) (work : Work) : Bag :=
  Function.update bag side ((bag side).put work)

/-- The buildings that the working queue counts. -/
def ownBuilds (bag : Bag) : List Work :=
  (bag .builds).objects.filter fun build => build.chain ≤ 0

def getBuildWorkingQueueCount (now : Timestamp) (bag : Bag) : ℕ :=
  bag.ownBuilds.countP fun build => 0 < build.getLessTick now

/-- `getResearchWorkingQueueCount`; a kind that is not unlocked would count twice. -/
def getResearchWorkingQueueCount (now : Timestamp) (bag : Bag) : ℕ :=
  (bag .soliderLevels).objects.countP (fun work => 0 < work.getLessTick now) +
    (bag .soliderLevels).objects.countP fun work => work.level = 0 ∧ 0 < work.getLessTick now

end Bag

inductive Entry
  /-- The full price of the step from this level was paid; `instant` if it held the price of the
  whole time. -/
  | charged (target : Target) (level : ℕ) (now : Timestamp) (needTick : ℕ) (instant : Bool)
  /-- The price of the remaining time was paid. -/
  | hurried (target : Target) (level : ℕ)
  | raised (target : Target) (level : ℕ) (now : Timestamp)

structure Config where
  /-- `levelUpNeedTick` in seconds of a building by id, quality and level. -/
  buildNeedTick : ℕ → ℕ → ℕ → Option ℕ
  /-- `levelUpNeedTick` in seconds of a kind of soldiers by id and level. -/
  soliderNeedTick : ℕ → ℕ → Option ℕ

structure Request where
  speedUp : ℤ
  /-- Training, reference, required buildings and construction degree allow it. -/
  allowed : Bool
  affords : Bool
  queueLimit : ℕ

/-- The time that a request sets, in milliseconds. -/
def orderedTick (needTick : ℕ) (request : Request) : ℕ :=
  if request.speedUp ≤ 0 then needTick * 1000 else 0

/-- `checkLevelUp` of one work. -/
def checkLevelUp (now : Timestamp) (bag : Bag) (target : Target) : Bag × List Entry :=
  match (bag target.1).get target.2 with
  | none => (bag, [])
  | some work =>
      if work.nextTick ≤ 0 ∨ now.val < work.nextTick then
        (bag, [])
      else
        (bag.put target.1 work.raise, [.raised target work.level now])

/-- `setNextTick` on the work as it is now. -/
def setNextTick (now : Timestamp) (needTick : ℕ) (bag : Bag) (target : Target) : Bag :=
  match (bag target.1).get target.2 with
  | none => bag
  | some work => bag.put target.1 (work.setNextTick now needTick)

/-- The payment of a building from the chain. -/
def payChain (now : Timestamp) (request : Request) (needTick : ℕ) (bag : Bag) (side : Side)
    (work : Work) : Bag × List Entry :=
  if !request.affords then
    (bag, [])
  else
    (setNextTick now (orderedTick needTick request) bag (side, work.id),
      [if work.isLevelUp now then
        .hurried (side, work.id) work.level
      else
        .charged (side, work.id) work.level now needTick (request.speedUp != 0)])

/-- Pay for the rest of the time of the level-up that ends first, and finish it. -/
def finishEarliest (now : Timestamp) (side : Side) (bag : Bag) : Option Work → Bag × List Entry
  | none => (bag, [])
  | some least =>
      let (next, entries) := checkLevelUp now (setNextTick now 0 bag (side, least.id))
        (side, least.id)
      (next, .hurried (side, least.id) least.level :: entries)

/-- The payment of any other work; `minObj` ends first in a full queue. -/
def payOwn (now : Timestamp) (request : Request) (needTick : ℕ) (bag : Bag) (side : Side)
    (work : Work) (minObj : Option Work) : Bag × List Entry :=
  if !request.affords then
    (bag, [])
  else if request.speedUp = 1 then
    (setNextTick now (orderedTick needTick request) bag (side, work.id),
      [if 0 < work.getLessTick now then
        .hurried (side, work.id) work.level
      else
        .charged (side, work.id) work.level now needTick true])
  else
    let (next, entries) := finishEarliest now side bag minObj
    (setNextTick now (orderedTick needTick request) next (side, work.id),
      .charged (side, work.id) work.level now needTick false :: entries)

/-- The building of `levelUpBuild` and its time, if the request passes the checks before the
bill. -/
def buildAllowed (config : Config) (now : Timestamp) (id : ℕ) (request : Request) (bag : Bag) :
    Option (Work × ℕ) :=
  match (bag .builds).get id with
  | none => none
  | some build =>
      match config.buildNeedTick build.cfgId build.quality (build.level + 1),
        config.buildNeedTick build.cfgId build.quality build.level with
      | some _, some needTick =>
          if !request.allowed || (build.isLevelUp now && request.speedUp == 0) then
            none
          else if build.cfgId = buildHyperspaceResearch ∧
              0 < bag.getResearchWorkingQueueCount now then
            none
          else
            some (build, needTick)
      | _, _ => none

def levelUpBuild (config : Config) (now : Timestamp) (id : ℕ) (request : Request) (bag : Bag) :
    Bag × List Entry :=
  match buildAllowed config now id request bag with
  | none => (bag, [])
  | some (build, needTick) =>
      if 0 < build.chain then
        payChain now request needTick bag .builds build
      else
        let isFull := request.queueLimit ≤ bag.getBuildWorkingQueueCount now
        payOwn now request needTick bag .builds build
          (if isFull then earliest now bag.ownBuilds else none)

/-- The kind of soldiers of `soliderLevelUp` and its time, if the request passes the checks before
the bill. -/
def soliderAllowed (config : Config) (now : Timestamp) (cfgId : ℕ) (request : Request)
    (bag : Bag) : Option (Work × ℕ) :=
  match (bag .soliderLevels).get cfgId with
  | none => none
  | some work =>
      if work.level = 0 then
        none
      else if (bag .builds).objects.any fun build =>
          build.cfgId == buildHyperspaceResearch && build.isLevelUp now then
        none
      else
        match config.soliderNeedTick work.cfgId (work.level + 1),
          config.soliderNeedTick work.cfgId work.level with
        | some _, some needTick => if request.allowed then some (work, needTick) else none
        | _, _ => none

def soliderLevelUp (config : Config) (now : Timestamp) (cfgId : ℕ) (request : Request)
    (bag : Bag) : Bag × List Entry :=
  match soliderAllowed config now cfgId request bag with
  | none => (bag, [])
  | some (work, needTick) =>
      let isFull := request.queueLimit ≤ bag.getResearchWorkingQueueCount now
      payOwn now request needTick bag .soliderLevels work
        (if isFull then earliest now (bag .soliderLevels).objects else none)

def speedUpSoliderLevelUp (now : Timestamp) (cfgId : ℕ) (affords : Bool) (bag : Bag) :
    Bag × List Entry :=
  match (bag .soliderLevels).get cfgId with
  | none => (bag, [])
  | some work =>
      if work.getLessTick now ≤ 0 || !affords then
        (bag, [])
      else
        (setNextTick now 0 bag (.soliderLevels, cfgId),
          [.hurried (.soliderLevels, cfgId) work.level])

/-- The loop of `checkBuilds` and `checkSoliderLevelsUp`. -/
def checkLevelUps (now : Timestamp) : List Target → Bag → Bag × List Entry
  | [], bag => (bag, [])
  | target :: targets, bag =>
      let (next, entries) := checkLevelUp now bag target
      let (last, rest) := checkLevelUps now targets next
      (last, entries ++ rest)

/-- All works, buildings first. -/
def Bag.targets (bag : Bag) : List Target :=
  (bag .builds).objects.map (fun work => (.builds, work.id)) ++
    (bag .soliderLevels).objects.map fun work => (.soliderLevels, work.id)

def onSecond (now : Timestamp) (bag : Bag) : Bag × List Entry :=
  checkLevelUps now bag.targets bag

inductive Event
  | levelUpBuild (now : Timestamp) (id : ℕ) (request : Request)
  | soliderLevelUp (now : Timestamp) (cfgId : ℕ) (request : Request)
  | speedUpSoliderLevelUp (now : Timestamp) (cfgId : ℕ) (affords : Bool)
  | onSecond (now : Timestamp)

/-- The bag under its requests and checks. -/
def machine (config : Config) : Machine Bag Event Entry where
  step bag
    | .levelUpBuild now id request => levelUpBuild config now id request bag
    | .soliderLevelUp now cfgId request => soliderLevelUp config now cfgId request bag
    | .speedUpSoliderLevelUp now cfgId affords => speedUpSoliderLevelUp now cfgId affords bag
    | .onSecond now => onSecond now bag

end BasWar.LevelUps
