import BasWar.Player.Armies
import BasWar.Player.Prices
import BasWar.Tables.Spread

/-!
# Reserve armies

The buildings that train reserve soldiers.  Soldiers are paid when they are queued, come out of the
queue one after the other, and are taken for the armies and given back.  A kind of soldiers and a
building select the records that a request may use.
-/

namespace BasWar.ReserveArmies

open Tables
open Armies (Reserve)

structure Build where
  buildId : ℤ
  cfgId : ℤ
  quality : ℤ
  level : ℕ
  /-- `getLessTick() > 0`. -/
  levelingUp : Bool

structure Config where
  /-- Of `buildConfig` by kind, quality and level. -/
  maxTrainSpace : ℤ → ℤ → ℕ → ℕ
  /-- `RecruitsTrainRes` of `baseLevel`, if it has the row. -/
  recruitsTrainRes : ℕ → Option (List (Resources.ResId × ℚ))
  armies : Armies.Config
  prices : Resources.PriceCfg

/-- The part of `BuildBag` that trains, and the balances that pay for it. -/
structure State where
  builds : Keyed Build.buildId
  reserveArmy : Keyed Reserve.buildId
  /-- A record leaves with its building. -/
  housed : ∀ id ∈ reserveArmy.objects.map Reserve.buildId, (builds.get id).isSome
  resBag : Resources.ResBag
  /-- `getBuildLevelByCfgId(BUILD_BASE)`. -/
  baseLevel : ℕ

/-- The records that a request may use. -/
def matching (soliderCfgId : ℤ) (buildId : Option ℤ) (val : Reserve) : Bool :=
  val.trainCfgId = soliderCfgId && buildId.all (· = val.buildId)

namespace Build

def maxTrainSpace (config : Config) (build : Build) : ℕ :=
  config.maxTrainSpace build.cfgId build.quality build.level

end Build

namespace State

/-- At the building's level; every record has its building. -/
def maxTrainSpace (config : Config) (state : State) (id : ℤ) : ℕ :=
  match state.builds.get id with
  | some build => build.maxTrainSpace config
  | none => 0

def getReserveArmyCount (soliderCfgId : ℤ) (buildId : Option ℤ) (state : State) : ℤ :=
  ((state.reserveArmy.objects.filter (matching soliderCfgId buildId)).map Reserve.count).sum

end State

/-- What `costReserveArmyCount` can take from a record. -/
def held (soliderCfgId : ℤ) (buildId : Option ℤ) (val : Reserve) : Option ℤ :=
  if matching soliderCfgId buildId val then some val.count else none

/-- The `space` that `addReserveArmyCount` finds in a record. -/
def space (maxTrainSpace : ℤ → ℕ) (soliderCfgId : ℤ) (buildId : Option ℤ) (val : Reserve) :
    Option ℤ :=
  if matching soliderCfgId buildId val then some (maxTrainSpace val.buildId - val.count) else none

def take (part : ℤ) (val : Reserve) : Reserve :=
  { val with count := val.count - part }

def put (part : ℤ) (val : Reserve) : Reserve :=
  { val with count := val.count + part }

theorem take_buildId (part : ℤ) (val : Reserve) : (take part val).buildId = val.buildId := rfl

theorem put_buildId (part : ℤ) (val : Reserve) : (put part val).buildId = val.buildId := rfl

theorem handOut_keys (room : Reserve → Option ℤ) {give : ℤ → Reserve → Reserve}
    (give_key : ∀ part val, (give part val).buildId = val.buildId) (num : ℤ)
    (reserves : List Reserve) :
    (Spread.handOut room give num reserves).map Reserve.buildId =
      reserves.map Reserve.buildId := by
  induction reserves generalizing num with
  | nil => rfl
  | cons val rest ih =>
      unfold Spread.handOut
      split
      · rw [List.map_cons, ih, List.map_cons]
      · split
        · rw [List.map_cons, ih, give_key, List.map_cons]
        · rw [List.map_cons, give_key, List.map_cons]

theorem cost_eq_handOut (num : ℤ) (reserves : List Reserve) :
    Reserve.cost num reserves = Spread.handOut (held 0 none) take num reserves := by
  induction reserves generalizing num with
  | nil => rfl
  | cons val rest ih =>
      unfold Reserve.cost Spread.handOut
      by_cases zero : val.trainCfgId = 0
      · have room : held 0 none val = some val.count := by simp [held, matching, zero]
        simp only [room, zero, if_true, ih, take, sub_self]
      · have room : held 0 none val = none := by simp [held, matching, zero]
        simp only [room, zero, if_false, ih]

theorem add_eq_handOut (maxTrainSpace : ℤ → ℕ) (num : ℤ) (reserves : List Reserve) :
    Reserve.add maxTrainSpace num reserves =
      Spread.handOut (space maxTrainSpace 0 none) put num reserves := by
  induction reserves generalizing num with
  | nil => rfl
  | cons val rest ih =>
      unfold Reserve.add Spread.handOut
      by_cases zero : val.trainCfgId = 0
      · have room : space maxTrainSpace 0 none val =
            some (maxTrainSpace val.buildId - val.count) := by
          simp [space, matching, zero]
        simp only [room, zero, if_true, ih, put]
      · have room : space maxTrainSpace 0 none val = none := by simp [space, matching, zero]
        simp only [room, zero, if_false, ih]

namespace State

def rewrite (state : State) (change : List Reserve → List Reserve)
    (same : ∀ reserves, (change reserves).map Reserve.buildId = reserves.map Reserve.buildId) :
    State :=
  { state with
    reserveArmy := state.reserveArmy.rewrite change same
    housed := fun id id_mem => state.housed id (same state.reserveArmy.objects ▸ id_mem) }

/-- `none` stands for the result `false`. -/
def costReserveArmyCount (num soliderCfgId : ℤ) (buildId : Option ℤ) (state : State) :
    Option State :=
  if num = 0 then none
  else if state.getReserveArmyCount soliderCfgId buildId < num then none
  else
    some (state.rewrite (Spread.handOut (held soliderCfgId buildId) take num)
      (handOut_keys _ take_buildId num))

/-- `none` stands for the result `false`. -/
def addReserveArmyCount (config : Config) (num soliderCfgId : ℤ) (buildId : Option ℤ)
    (state : State) : Option State :=
  if num = 0 then none
  else
    some (state.rewrite
      (Spread.handOut (space (state.maxTrainSpace config) soliderCfgId buildId) put num)
      (handOut_keys _ put_buildId num))

def updateReserveArmy (config : Config) (now : ℤ) (state : State) : State :=
  state.rewrite (List.map fun val => (val.update config.armies now).1) fun reserves => by
    rw [List.map_map]
    exact List.map_congr_left fun val _ => Reserve.update_buildId config.armies now val

def setReserve (val : Reserve) (state : State) : State :=
  if home : (state.builds.get val.buildId).isSome then
    { state with
      reserveArmy := state.reserveArmy.set val
      housed := fun id id_mem => by
        obtain ⟨other, other_mem, rfl⟩ := List.mem_map.mp id_mem
        obtain rfl | old_mem := Keyed.mem_set other_mem
        · exact home
        · exact state.housed _ (List.mem_map_of_mem old_mem) }
  else state

/-- The record of a building, or a new one. -/
def reserve (id : ℤ) (state : State) : Reserve :=
  (state.reserveArmy.get id).getD (Reserve.new id)

end State

/-- The price of queued soldiers, one row of `RecruitsTrainRes` after the other. -/
def trainRes (needRes : List (Resources.ResId × ℚ)) (soliderCount : ℤ) : Resources.ResDict :=
  needRes.foldl (fun resDict row => Dict.assign row.1 (row.2 * soliderCount) resDict) Keyed.empty

/-- The price of having all soldiers of a queue at once; a queue is never negative. -/
def speedupRes (config : Config) (resDict : Resources.ResDict) (count : ℤ) :
    Resources.ResDict :=
  let resTesseract := config.prices.resCostTesseract resDict
  let timeTesseract :=
    config.prices.timeCostTesseract (some (config.armies.trainNeedTick * count).toNat)
  Dict.assign Resources.resTesseract
    (resDict.amount Resources.resTesseract + timeTesseract + resTesseract)
    (Dict.assign Resources.resMit (resDict.amount Resources.resMit) Keyed.empty)

/-- The checks of `doReserveArmyTrain` from the record on: what an accepted request pays. -/
def checkTrain (config : Config) (build : Build) (soliderCount : ℤ) (speedup : Bool)
    (state : State) : Option Resources.ResDict :=
  let val := state.reserve build.buildId
  if val.trainCount = 0 ∧ soliderCount = 0 then none
  else if build.maxTrainSpace config < val.count + soliderCount then none
  else
    (config.recruitsTrainRes state.baseLevel).bind fun needRes =>
      let resDict := trainRes needRes soliderCount
      let price := if speedup then speedupRes config resDict (val.trainCount + soliderCount)
        else resDict
      if state.resBag.enoughResDict price then some price else none

/-- What an accepted request makes of the record. -/
def train (now soliderCfgId soliderCount : ℤ) (speedup : Bool) (val : Reserve) : Reserve :=
  let trainCount := val.trainCount + soliderCount
  if speedup then
    { val with
      trainCfgId := soliderCfgId
      count := val.count + trainCount
      trainCount := 0
      trainTick := 0
      startTime := 0 }
  else if val.trainTick = 0 then
    { val with trainCfgId := soliderCfgId, trainCount, trainTick := now, startTime := now }
  else { val with trainCfgId := soliderCfgId, trainCount }

namespace State

/-- A refused request leaves a new record behind. -/
def doReserveArmyTrain (config : Config) (now id soliderCfgId soliderCount : ℤ) (speedup : Bool)
    (state : State) : State :=
  if soliderCount < 0 then state
  else
    match state.builds.get id with
    | none => state
    | some build =>
        let opened := state.setReserve (state.reserve build.buildId)
        match checkTrain config build soliderCount speedup opened with
        | none => opened
        | some price =>
            ({ opened with resBag := opened.resBag.costResDict price }).setReserve
              (train now soliderCfgId soliderCount speedup (state.reserve build.buildId))

/-- The building is there, trains, and is not levelling up. -/
def ready (config : Config) (id : ℤ) (state : State) : Bool :=
  (state.builds.get id).any fun build => 0 < build.maxTrainSpace config && !build.levelingUp

def reserveArmyTrain (config : Config) (now id soliderCfgId soliderCount : ℤ) (state : State) :
    State :=
  if 0 < soliderCount ∧ state.ready config id then
    state.doReserveArmyTrain config now id soliderCfgId soliderCount false
  else state

def speedupReserveArmy (config : Config) (now id soliderCfgId soliderCount : ℤ) (state : State) :
    State :=
  if 0 ≤ soliderCount ∧ state.ready config id then
    state.doReserveArmyTrain config now id soliderCfgId soliderCount true
  else state

/-- A building is changed by another request. -/
def setBuild (build : Build) (state : State) : State :=
  { state with
    builds := state.builds.put build
    housed := fun id id_mem => by
      rw [Keyed.isSome_get_put]
      exact state.housed id id_mem }

end State

/-- Requests about the reserves, with the times that they read. -/
inductive Event
  | reserveArmyTrain (now id soliderCfgId soliderCount : ℤ)
  | speedupReserveArmy (now id soliderCfgId soliderCount : ℤ)
  | updateReserveArmy (now : ℤ)
  | costReserveArmyCount (num : ℕ) (soliderCfgId : ℤ) (buildId : Option ℤ)
  | addReserveArmyCount (num : ℕ) (soliderCfgId : ℤ) (buildId : Option ℤ)
  /-- A level-up starts or ends. -/
  | setBuild (build : Build)
  /-- Other requests earn and spend, and the base grows. -/
  | others (resBag : Resources.ResBag) (baseLevel : ℕ)

/-- The reserves under their requests; they keep no journal. -/
def machine (config : Config) : Machine State Event Empty where
  step state
    | .reserveArmyTrain now id soliderCfgId soliderCount =>
        (state.reserveArmyTrain config now id soliderCfgId soliderCount, [])
    | .speedupReserveArmy now id soliderCfgId soliderCount =>
        (state.speedupReserveArmy config now id soliderCfgId soliderCount, [])
    | .updateReserveArmy now => (state.updateReserveArmy config now, [])
    | .costReserveArmyCount num soliderCfgId buildId =>
        ((state.costReserveArmyCount num soliderCfgId buildId).getD state, [])
    | .addReserveArmyCount num soliderCfgId buildId =>
        ((state.addReserveArmyCount config num soliderCfgId buildId).getD state, [])
    | .setBuild build => (state.setBuild build, [])
    | .others resBag baseLevel => ({ state with resBag, baseLevel }, [])

end BasWar.ReserveArmies
