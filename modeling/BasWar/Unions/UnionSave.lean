import BasWar.Tables.Documents
import Mathlib

/-!
# Saved unions

A union is saved as a document and loaded again when the union service starts.  Its tables are
listed or spelled out, and its soldiers, defences and techs are saved one by one.  Nobody is online
in a union that has just been loaded.
-/

namespace BasWar.Unions.SavedUnions

open Tables

structure Member where
  playerId : ℕ
  playerName : String
  playerHead : String
  playerScore : ℤ
  matchScore : Option ℤ
  unionJob : ℤ
  fightPower : ℤ
  starCoin : ℤ
  ice : ℤ
  titanium : ℤ
  gas : ℤ
  carboxyl : ℤ
  chain : Option ℕ
  online : ℕ
  offline : Option ℤ
  deriving DecidableEq

structure Apply where
  playerId : ℕ
  playerName : String
  playerHead : String
  playerScore : ℤ
  baseLevel : ℕ
  applyTime : ℤ
  answer : ℕ

structure Item where
  id : ℕ
  itemType : ℕ
  race : ℕ
  style : ℕ
  quality : ℕ
  level : ℕ
  life : ℤ
  curLife : ℤ
  ref : ℕ
  /-- Grid that has taken the NFT, or `0`. -/
  refBy : ℕ
  battleCd : Option ℤ
  donateTime : ℤ
  ownerPid : ℕ

/-- The fields of `UnionSolider` and of `UnionBuild`; ids of the configuration are positive. -/
structure Troop where
  cfgId : ℕ
  count : ℤ
  genCount : ℤ
  genTick : ℤ
  level : ℕ
  hpAddRatio : ℤ
  atkAddRatio : ℤ
  atkSpeedAddRatio : ℤ
  cfgId_pos : 0 < cfgId

/-- The document of a soldier or of a defence. -/
structure TroopData where
  cfgId : ℕ
  count : Option ℤ
  genCount : Option ℤ
  genTick : Option ℤ
  level : Option ℕ
  hpAddRatio : Option ℤ
  atkAddRatio : Option ℤ
  atkSpeedAddRatio : Option ℤ

structure UnionTech where
  cfgId : ℕ
  level : ℕ
  /-- When the level-up that has begun ends, or `0`. -/
  levelUpTick : ℤ

structure TechData where
  cfgId : Option ℕ
  level : Option ℕ
  levelUpTick : Option ℤ

namespace Troop

def serialize (troop : Troop) : TroopData where
  cfgId := troop.cfgId
  count := some troop.count
  genCount := some troop.genCount
  genTick := some troop.genTick
  level := some troop.level
  hpAddRatio := some troop.hpAddRatio
  atkAddRatio := some troop.atkAddRatio
  atkSpeedAddRatio := some troop.atkSpeedAddRatio

/-- It fails for the id 0. -/
def deserialize (data : TroopData) : Option Troop :=
  if cfgId_pos : 0 < data.cfgId then
    some {
      cfgId := data.cfgId
      count := data.count.getD 0
      genCount := data.genCount.getD 0
      genTick := data.genTick.getD 0
      level := data.level.getD 0
      hpAddRatio := data.hpAddRatio.getD 0
      atkAddRatio := data.atkAddRatio.getD 0
      atkSpeedAddRatio := data.atkSpeedAddRatio.getD 0
      cfgId_pos := cfgId_pos }
  else none

theorem deserialize_serialize (troop : Troop) : deserialize troop.serialize = some troop :=
  dif_pos troop.cfgId_pos

end Troop

namespace UnionTech

def serialize (tech : UnionTech) : TechData where
  cfgId := some tech.cfgId
  level := some tech.level
  levelUpTick := some tech.levelUpTick

/-- It fails without an id. -/
def deserialize (data : TechData) : Option UnionTech :=
  data.cfgId.map fun cfgId =>
    { cfgId := cfgId, level := data.level.getD 1, levelUpTick := data.levelUpTick.getD 0 }

theorem deserialize_serialize (tech : UnionTech) : deserialize tech.serialize = some tech :=
  rfl

end UnionTech

/-- Each object is found under its own id. -/
structure Union where
  unionId : ℕ
  unionName : String
  unionFlag : ℕ
  unionNotice : String
  unionSharing : ℤ
  unionChain : ℕ
  enterType : ℕ
  enterScore : ℤ
  exp : ℤ
  unionLevel : ℕ
  memberMax : ℕ
  starCoin : ℤ
  ice : ℤ
  titanium : ℤ
  gas : ℤ
  carboxyl : ℤ
  /-- What the rewards of grids have added, if they give any. -/
  mit : Option ℤ
  tesseract : Option ℤ
  members : Keyed Member.playerId
  applys : Keyed Apply.playerId
  applyVersion : ℕ
  ownerGrids : Dict ℕ ℕ
  gridsScoreCount : Dict ℕ ℤ
  favoriteGrids : Dict ℕ ℤ
  items : Keyed Item.id
  soliders : Keyed Troop.cfgId
  builds : Keyed Troop.cfgId
  techs : Keyed UnionTech.cfgId
  starCoinLimitAdd : ℤ
  iceLimitAdd : ℤ
  titaniumLimitAdd : ℤ
  gasLimitAdd : ℤ
  carboxylLimitAdd : ℤ
  soliderSpaceAdd : ℤ
  editArmyPid : ℕ
  editArmyTick : ℤ
  campaignIdList : List ℕ
  campaignIdDict : Keyed (id : ℕ → ℕ)
  contriDegree : Dict ℕ ℚ
  nftsContriTick : Dict ℕ ℤ
  jobContriTick : Dict ℕ ℤ
  /-- The star map may have found no begin grid for a new union. -/
  beginGridId : Option ℕ
  transferBeginGridTime : ℤ
  modifyNameTime : ℤ
  combatDict : Dict ℕ ℚ

structure UnionData where
  unionId : Option ℕ
  unionName : Option String
  unionFlag : Option ℕ
  unionNotice : Option String
  unionSharing : Option ℤ
  unionChain : Option ℕ
  enterType : Option ℕ
  enterScore : Option ℤ
  memberMax : Option ℕ
  starCoin : Option ℤ
  ice : Option ℤ
  titanium : Option ℤ
  gas : Option ℤ
  carboxyl : Option ℤ
  starCoinLimitAdd : Option ℤ
  iceLimitAdd : Option ℤ
  titaniumLimitAdd : Option ℤ
  gasLimitAdd : Option ℤ
  carboxylLimitAdd : Option ℤ
  soliderSpaceAdd : Option ℤ
  editArmyPid : Option ℕ
  editArmyTick : Option ℤ
  beginGridId : Option ℕ
  transferBeginGridTime : Option ℤ
  modifyNameTime : Option ℤ
  unionLevel : Option ℕ
  exp : Option ℤ
  items : List Item
  members : List Member
  applys : List Apply
  applyVersion : Option ℕ
  ownerGrids : Dict String ℕ
  gridsScoreCount : Dict String ℤ
  soliders : List TroopData
  techs : List TechData
  builds : List TroopData
  campaignIdList : List ℕ
  campaignIdDict : List ℕ
  contriDegree : Dict String ℚ
  nftsContriTick : Dict String ℤ
  jobContriTick : Dict String ℤ
  favoriteGrids : Dict String ℤ
  combatDict : Dict String ℚ

/-- `v.online = 0`. -/
def Member.logOut (member : Member) : Member :=
  { member with online := 0 }

namespace Union

/-- `Union:ctor`. -/
def new : Union where
  unionId := 0
  unionName := ""
  unionFlag := 0
  unionNotice := ""
  unionSharing := 100
  unionChain := 0
  enterType := 0
  enterScore := 0
  exp := 0
  unionLevel := 1
  memberMax := 0
  starCoin := 0
  ice := 0
  titanium := 0
  gas := 0
  carboxyl := 0
  mit := none
  tesseract := none
  members := .empty
  applys := .empty
  applyVersion := 0
  ownerGrids := .empty
  gridsScoreCount := .empty
  favoriteGrids := .empty
  items := .empty
  soliders := .empty
  builds := .empty
  techs := .empty
  starCoinLimitAdd := 0
  iceLimitAdd := 0
  titaniumLimitAdd := 0
  gasLimitAdd := 0
  carboxylLimitAdd := 0
  soliderSpaceAdd := 0
  editArmyPid := 0
  editArmyTick := 0
  campaignIdList := []
  campaignIdDict := .empty
  contriDegree := .empty
  nftsContriTick := .empty
  jobContriTick := .empty
  beginGridId := some 0
  transferBeginGridTime := 0
  modifyNameTime := 0
  combatDict := .empty

def serialize (union : Union) : UnionData where
  unionId := some union.unionId
  unionName := some union.unionName
  unionFlag := some union.unionFlag
  unionNotice := some union.unionNotice
  unionSharing := some union.unionSharing
  unionChain := some union.unionChain
  enterType := some union.enterType
  enterScore := some union.enterScore
  memberMax := some union.memberMax
  starCoin := some union.starCoin
  ice := some union.ice
  titanium := some union.titanium
  gas := some union.gas
  carboxyl := some union.carboxyl
  starCoinLimitAdd := some union.starCoinLimitAdd
  iceLimitAdd := some union.iceLimitAdd
  titaniumLimitAdd := some union.titaniumLimitAdd
  gasLimitAdd := some union.gasLimitAdd
  carboxylLimitAdd := some union.carboxylLimitAdd
  soliderSpaceAdd := some union.soliderSpaceAdd
  editArmyPid := some union.editArmyPid
  editArmyTick := some union.editArmyTick
  beginGridId := union.beginGridId
  transferBeginGridTime := some union.transferBeginGridTime
  modifyNameTime := some union.modifyNameTime
  unionLevel := some union.unionLevel
  exp := some union.exp
  items := union.items.objects
  members := union.members.objects
  applys := union.applys.objects
  applyVersion := some union.applyVersion
  ownerGrids := Spelling.nat.toDoc union.ownerGrids
  gridsScoreCount := Spelling.nat.toDoc union.gridsScoreCount
  soliders := union.soliders.objects.map Troop.serialize
  techs := union.techs.objects.map UnionTech.serialize
  builds := union.builds.objects.map Troop.serialize
  campaignIdList := union.campaignIdList
  campaignIdDict := union.campaignIdDict.objects
  contriDegree := Spelling.nat.toDoc union.contriDegree
  nftsContriTick := Spelling.nat.toDoc union.nftsContriTick
  jobContriTick := Spelling.nat.toDoc union.jobContriTick
  favoriteGrids := Spelling.nat.toDoc union.favoriteGrids
  combatDict := Spelling.nat.toDoc union.combatDict

/-- Fill a new union from a document. -/
def deserialize (data : UnionData) : Option Union := do
  let unionId ← data.unionId
  let ownerGrids ← Spelling.nat.ofDoc data.ownerGrids
  let gridsScoreCount ← Spelling.nat.ofDoc data.gridsScoreCount
  let soliders ← data.soliders.mapM Troop.deserialize
  let techs ← data.techs.mapM UnionTech.deserialize
  let builds ← data.builds.mapM Troop.deserialize
  let contriDegree ← Spelling.nat.ofDoc data.contriDegree
  let nftsContriTick ← Spelling.nat.ofDoc data.nftsContriTick
  let jobContriTick ← Spelling.nat.ofDoc data.jobContriTick
  let favoriteGrids ← Spelling.nat.ofDoc data.favoriteGrids
  let combatDict ← Spelling.nat.ofDoc data.combatDict
  return { new with
    unionId := unionId
    unionName := data.unionName.getD ""
    unionFlag := data.unionFlag.getD 0
    unionNotice := data.unionNotice.getD ""
    unionSharing := data.unionSharing.getD 0
    unionChain := data.unionChain.getD 0
    enterType := data.enterType.getD 0
    enterScore := data.enterScore.getD 0
    memberMax := data.memberMax.getD 0
    starCoin := data.starCoin.getD 0
    ice := data.ice.getD 0
    titanium := data.titanium.getD 0
    gas := data.gas.getD 0
    carboxyl := data.carboxyl.getD 0
    starCoinLimitAdd := data.starCoinLimitAdd.getD 0
    iceLimitAdd := data.iceLimitAdd.getD 0
    titaniumLimitAdd := data.titaniumLimitAdd.getD 0
    gasLimitAdd := data.gasLimitAdd.getD 0
    carboxylLimitAdd := data.carboxylLimitAdd.getD 0
    soliderSpaceAdd := data.soliderSpaceAdd.getD 0
    editArmyPid := data.editArmyPid.getD 0
    editArmyTick := data.editArmyTick.getD 0
    beginGridId := some (data.beginGridId.getD 0)
    transferBeginGridTime := data.transferBeginGridTime.getD 0
    modifyNameTime := data.modifyNameTime.getD 0
    unionLevel := data.unionLevel.getD 1
    exp := data.exp.getD 0
    members := .ofList (data.members.map Member.logOut)
    applys := .ofList data.applys
    applyVersion := data.applyVersion.getD 0
    ownerGrids := ownerGrids
    gridsScoreCount := gridsScoreCount
    items := .ofList data.items
    soliders := .ofList soliders
    techs := .ofList techs
    builds := .ofList builds
    campaignIdList := data.campaignIdList
    campaignIdDict := .ofList data.campaignIdDict
    contriDegree := contriDegree
    nftsContriTick := nftsContriTick
    jobContriTick := jobContriTick
    favoriteGrids := favoriteGrids
    combatDict := combatDict }

structure Founding where
  unionName : String
  unionFlag : ℕ
  unionNotice : String
  unionSharing : ℤ
  enterType : ℕ
  enterScore : ℤ

/-- `setJobMakeContributeTick`, with the tick of a job that earns. -/
def setJobMakeContributeTick (pid : ℕ) (tick : Option ℤ) (union : Union) : Union :=
  match tick with
  | none => union
  | some tick => { union with jobContriTick := union.jobContriTick.assign pid tick }

/-- `doCreate`; `doRefresh` brings the techs of the configuration and their effects. -/
def doCreate (doRefresh : Union → Union) (unionId : ℕ) (data : Founding) (player : Member)
    (tick : Option ℤ) (beginGridId : Option ℕ) : Union :=
  let founded : Union :=
    { new with
      unionId := unionId
      unionName := data.unionName
      unionFlag := data.unionFlag
      unionNotice := data.unionNotice
      unionSharing := data.unionSharing
      enterType := data.enterType
      enterScore := data.enterScore
      unionChain := player.chain.getD 0
      members := new.members.set { player with gas := player.starCoin, online := 1 } }
  { doRefresh (founded.setJobMakeContributeTick player.playerId tick) with
    beginGridId := beginGridId }

/-- The same as another union, apart from its members. -/
structure Same (loaded union : Union) : Prop where
  unionId : loaded.unionId = union.unionId
  unionName : loaded.unionName = union.unionName
  unionFlag : loaded.unionFlag = union.unionFlag
  unionNotice : loaded.unionNotice = union.unionNotice
  unionSharing : loaded.unionSharing = union.unionSharing
  unionChain : loaded.unionChain = union.unionChain
  enterType : loaded.enterType = union.enterType
  enterScore : loaded.enterScore = union.enterScore
  exp : loaded.exp = union.exp
  unionLevel : loaded.unionLevel = union.unionLevel
  memberMax : loaded.memberMax = union.memberMax
  starCoin : loaded.starCoin = union.starCoin
  ice : loaded.ice = union.ice
  titanium : loaded.titanium = union.titanium
  gas : loaded.gas = union.gas
  carboxyl : loaded.carboxyl = union.carboxyl
  applys : ∀ pid, loaded.applys.get pid = union.applys.get pid
  applyVersion : loaded.applyVersion = union.applyVersion
  ownerGrids : ∀ cfgId, loaded.ownerGrids.lookup cfgId = union.ownerGrids.lookup cfgId
  gridsScoreCount : ∀ cfgId,
    loaded.gridsScoreCount.lookup cfgId = union.gridsScoreCount.lookup cfgId
  favoriteGrids : ∀ cfgId, loaded.favoriteGrids.lookup cfgId = union.favoriteGrids.lookup cfgId
  items : ∀ id, loaded.items.get id = union.items.get id
  soliders : ∀ cfgId, loaded.soliders.get cfgId = union.soliders.get cfgId
  builds : ∀ cfgId, loaded.builds.get cfgId = union.builds.get cfgId
  techs : ∀ cfgId, loaded.techs.get cfgId = union.techs.get cfgId
  starCoinLimitAdd : loaded.starCoinLimitAdd = union.starCoinLimitAdd
  iceLimitAdd : loaded.iceLimitAdd = union.iceLimitAdd
  titaniumLimitAdd : loaded.titaniumLimitAdd = union.titaniumLimitAdd
  gasLimitAdd : loaded.gasLimitAdd = union.gasLimitAdd
  carboxylLimitAdd : loaded.carboxylLimitAdd = union.carboxylLimitAdd
  soliderSpaceAdd : loaded.soliderSpaceAdd = union.soliderSpaceAdd
  editArmyPid : loaded.editArmyPid = union.editArmyPid
  editArmyTick : loaded.editArmyTick = union.editArmyTick
  campaignIdList : loaded.campaignIdList = union.campaignIdList
  campaignIdDict : ∀ campaignId,
    campaignId ∈ loaded.campaignIdDict.objects ↔ campaignId ∈ union.campaignIdDict.objects
  contriDegree : ∀ pid, loaded.contriDegree.lookup pid = union.contriDegree.lookup pid
  nftsContriTick : ∀ id, loaded.nftsContriTick.lookup id = union.nftsContriTick.lookup id
  jobContriTick : ∀ pid, loaded.jobContriTick.lookup pid = union.jobContriTick.lookup pid
  /-- No begin grid is the begin grid 0. -/
  beginGridId : loaded.beginGridId.getD 0 = union.beginGridId.getD 0
  transferBeginGridTime : loaded.transferBeginGridTime = union.transferBeginGridTime
  modifyNameTime : loaded.modifyNameTime = union.modifyNameTime
  combatDict : ∀ pid, loaded.combatDict.lookup pid = union.combatDict.lookup pid

/-- Everybody goes offline, and what no document keeps is gone. -/
def restarted (union : Union) : Union :=
  { union with
    members :=
      ⟨union.members.objects.map Member.logOut, by
        rw [List.map_map]
        exact union.members.nodup⟩
    beginGridId := some (union.beginGridId.getD 0)
    mit := none
    tesseract := none }

end Union

section Loading

theorem deserialize_serialize (union : Union) :
    Union.deserialize union.serialize = some union.restarted := by
  have members_eq : (Keyed.ofList (union.members.objects.map Member.logOut) :
      Keyed Member.playerId) = union.restarted.members :=
    Keyed.ofList_objects union.restarted.members
  simp only [Union.deserialize, Union.serialize, Spelling.ofDoc_toDoc,
    mapM_map Troop.deserialize_serialize, mapM_map UnionTech.deserialize_serialize,
    Option.bind_eq_bind, Option.bind_some, Keyed.ofList_objects, members_eq]
  rfl

theorem get_restarted (union : Union) (pid : ℕ) :
    union.restarted.members.get pid = (union.members.get pid).map Member.logOut := by
  rw [Keyed.get, Keyed.get, Union.restarted, List.find?_map]
  rfl

end Loading

/-- A union is the same after it is saved and loaded, but for its members, who are all offline. -/
theorem union_loaded (union : Union) :
    ∃ loaded, Union.deserialize union.serialize = some loaded ∧ loaded.Same union ∧
      ∀ pid, loaded.members.get pid = (union.members.get pid).map Member.logOut := by
  refine ⟨_, deserialize_serialize union, ?_, get_restarted union⟩
  constructor <;> intros <;> rfl

/-- The founder of a union is online, and offline after it is loaded. -/
theorem founder_not_loaded :
    ¬ ∀ (doRefresh : Union → Union) (unionId : ℕ) (data : Union.Founding) (player : Member)
      (tick : Option ℤ) (beginGridId : Option ℕ), ∃ loaded,
        Union.deserialize
          (Union.doCreate doRefresh unionId data player tick beginGridId).serialize =
            some loaded ∧
        loaded.Same (Union.doCreate doRefresh unionId data player tick beginGridId) ∧
        ∀ pid, loaded.members.get pid =
          (Union.doCreate doRefresh unionId data player tick beginGridId).members.get pid := by
  intro always
  obtain ⟨loaded, loaded_eq, -, members⟩ := always id 1 ⟨"", 0, "", 100, 0, 0⟩
    ⟨7, "", "", 0, none, 9, 0, 0, 0, 0, 0, 0, none, 0, none⟩ none (some 12)
  rw [deserialize_serialize] at loaded_eq
  cases loaded_eq
  exact absurd (members 7) (by decide +kernel)

end BasWar.Unions.SavedUnions
