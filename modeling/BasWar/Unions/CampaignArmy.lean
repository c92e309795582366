import BasWar.Player.Entity
import Mathlib

/-!
# Union armies for a campaign

`takeStarmapCampaignArmy` checks a list of armies, takes their NFTs army by army and charges the
soldiers of all armies at the end.  The reserve of the player is part of the state, as the calls
that test and charge it change nothing else.
-/

namespace BasWar.Unions

/-- `itemType` of an item of a union. -/
inductive ItemType
  | warShip
  | hero
  | build
  deriving DecidableEq

structure Item where
  itemType : ItemType
  ref : Ref
  /-- Grid that has taken the NFT, or `0`. -/
  refBy : ℕ
  battleCd : ℤ
  /-- `unionSoldierSpace` of its row of the NFT table. -/
  unionSoldierSpace : ℤ

/-- An item in a battle on a grid. -/
def Item.taken (gridCfgId : ℕ) (battleCd : ℤ) (item : Item) : Item :=
  { item with refBy := gridCfgId, battleCd := battleCd }

def Item.returned (item : Item) : Item :=
  { item with refBy := 0, battleCd := 0 }

inductive UnionError
  | heroInBattleCd
  | unionNftNotAvaliable
  | unionSoliderBattleNum
  | unionNftHeroRepeat
  | unionSoliderNotEnough
  | armyNoWarship
  | armyNoHero
  | unionBattleNumLess
  | unionSoliderCostErr

structure Settings where
  /-- `trainSpace` of a row of `soliderConfig`. -/
  trainSpace : ℕ → ℤ → ℤ
  /-- `LeagueHeroBattleCD`. -/
  heroBattleCD : ℤ
  unionBattleMaxSpace : ℤ

/-- A union with the guild reserve of the player who asks. -/
structure UnionState where
  items : ℕ → Option Item
  soliders : ℕ → Option ℤ
  soldierSpace : ℤ
  soliderSpaceAdd : ℤ
  /-- `guildReserveCount` of the player. -/
  guildReserveCount : ℤ
  /-- `gg.time.time()`. -/
  clock : ℤ
  /-- Next value of `snowflake.uuid()`. -/
  uuid : ℕ
  said : List UnionError

/-- One team of an army; an id that is missing is `0`. -/
structure Team where
  heroId : ℕ
  soliderCfgId : ℕ
  soliderCount : ℤ

structure UnionArmy where
  warShipId : ℕ
  teams : List Team

/-- Id of a warship: an item of the union, or one made for the battle. -/
inductive WarShipId
  | item (id : ℕ)
  | made (uuid : ℕ)
  deriving DecidableEq

structure Hero where
  id : ℕ
  index : ℕ

structure Solider where
  cfgId : ℕ
  count : ℤ
  level : ℤ
  index : ℕ

/-- `armyInfo`. -/
structure FightArmy where
  mainWarShip : Option WarShipId
  heros : List Hero
  soliders : List Solider

/-- `needSoliders[cfgId] = (needSoliders[cfgId] or 0) + count`. -/
def addNeed (cfgId : ℕ) (count : ℤ) : List (ℕ × ℤ) → List (ℕ × ℤ)
  | [] => [(cfgId, count)]
  | need :: needs =>
      if need.1 = cfgId then (cfgId, need.2 + count) :: needs else need :: addNeed cfgId count needs

/-- `needSoliders` after the first loop. -/
def needSoliders (armys : List UnionArmy) : List (ℕ × ℤ) :=
  ((armys.flatMap (·.teams)).filter (·.soliderCfgId ≠ 0)).foldl
    (fun needs team => addNeed team.soliderCfgId team.soliderCount needs) []

def UnionArmy.heroIds (army : UnionArmy) : List ℕ :=
  (army.teams.map (·.heroId)).filter (· ≠ 0)

/-- The ids that an army counts in `needItems`. -/
def UnionArmy.needItems (army : UnionArmy) : List ℕ :=
  if army.warShipId ≠ 0 then army.warShipId :: army.heroIds else army.heroIds

/-- `fightArmys[id] = armyInfo`. -/
def putArmy (army : FightArmy) (fightArmys : List FightArmy) : List FightArmy :=
  fightArmys.filter (·.mainWarShip ≠ army.mainWarShip) ++ [army]

namespace UnionState

def say (error : UnionError) (state : UnionState) : UnionState :=
  { state with said := error :: state.said }

/-- What `Union:canTakeNft` finds wrong with an item. -/
def takeErrors (id : ℕ) (itemType : ItemType) (state : UnionState) : List UnionError :=
  match state.items id with
  | none => [.unionNftNotAvaliable]
  | some item =>
      if item.itemType ≠ itemType ∨ item.ref ≠ .union ∨ 0 < item.refBy then
        [.unionNftNotAvaliable]
      else if item.itemType = .hero ∧ state.clock < item.battleCd then
        [.unionNftNotAvaliable, .heroInBattleCd]
      else []

def getStarmapBattleSoliderCount (settings : Settings) (heroId : ℕ) (state : UnionState) : ℤ :=
  let heroCount := ((state.items heroId).map (·.unionSoldierSpace)).getD 0
  min (state.soldierSpace + state.soliderSpaceAdd + heroCount) settings.unionBattleMaxSpace

def teamErrors (settings : Settings) (team : Team) (state : UnionState) : List UnionError :=
  let heroErrors := if team.heroId ≠ 0 then state.takeErrors team.heroId .hero else []
  if heroErrors ≠ [] then heroErrors
  else if state.getStarmapBattleSoliderCount settings team.heroId < team.soliderCount then
    [.unionSoliderBattleNum]
  else []

def armyErrors (settings : Settings) (army : UnionArmy) (state : UnionState) : List UnionError :=
  let warShipErrors :=
    if army.warShipId ≠ 0 then state.takeErrors army.warShipId .warShip else []
  if warShipErrors ≠ [] then warShipErrors
  else ((army.teams.map fun team => state.teamErrors settings team).find? (· ≠ [])).getD []

/-- `getNeedReserveSolider` for one kind of soldier. -/
def needReserve (settings : Settings) (cfgId : ℕ) (count : ℤ) (state : UnionState) : ℤ :=
  settings.trainSpace cfgId ((state.soliders cfgId).getD 0) * count

/-- The reserve that `isPersonalUnionSoldierEnough` and `costPersonalUnionSoldier` ask for. -/
def need (settings : Settings) (needs : List (ℕ × ℤ)) (state : UnionState) : ℤ :=
  (needs.map fun need => state.needReserve settings need.1 need.2).sum

/-- The union knows the soldiers. -/
def trained (needs : List (ℕ × ℤ)) (state : UnionState) : Bool :=
  needs.all fun need => (state.soliders need.1).any (1 ≤ ·)

def isPersonalUnionSoldierEnough (settings : Settings) (needs : List (ℕ × ℤ))
    (state : UnionState) : Bool :=
  state.trained needs && decide (state.need settings needs ≤ state.guildReserveCount)

/-- The checks of `takeStarmapCampaignArmy`; nothing has been taken yet. -/
def refusal (settings : Settings) (armys : List UnionArmy) (state : UnionState) :
    List UnionError :=
  let errors := ((armys.map fun army => state.armyErrors settings army).find? (· ≠ [])).getD []
  if errors ≠ [] then errors
  else if ¬ (armys.flatMap (·.needItems)).Nodup then [.unionNftHeroRepeat]
  else if !state.isPersonalUnionSoldierEnough settings (needSoliders armys) then
    [.unionSoliderNotEnough]
  else []

def takeNftForBattle (settings : Settings) (gridCfgId id : ℕ) (state : UnionState) : UnionState :=
  { state with
    items := fun other =>
      if other = id then
        (state.items id).map (Item.taken gridCfgId (state.clock + settings.heroBattleCD))
      else state.items other }

def returnBackNft (id : ℕ) (state : UnionState) : UnionState :=
  { state with
    items := fun other =>
      if other = id then (state.items id).map Item.returned else state.items other }

def takeSoliderForBattle (cfgId : ℕ) (count : ℤ) (index : ℕ) (state : UnionState) :
    Option Solider :=
  if cfgId = 0 ∨ count = 0 then none
  else (state.soliders cfgId).map fun level => ⟨cfgId, count, level, index⟩

/-- The warship of an army; one is made for an army that names none. -/
def takeWarShip (settings : Settings) (gridCfgId warShipId : ℕ) (state : UnionState) :
    Option WarShipId × UnionState :=
  if warShipId ≠ 0 then
    ((state.items warShipId).map fun _ => .item warShipId,
      state.takeNftForBattle settings gridCfgId warShipId)
  else (some (.made state.uuid), { state with uuid := state.uuid + 1 })

/-- One round of the loop over the teams of an army. -/
def takeTeam (settings : Settings) (gridCfgId : ℕ) (team : Team) (index : ℕ) (info : FightArmy)
    (state : UnionState) : FightArmy × UnionState :=
  let hero := if team.heroId ≠ 0 ∧ (state.items team.heroId).isSome then
      [⟨team.heroId, index⟩] else []
  let state :=
    if team.heroId ≠ 0 then state.takeNftForBattle settings gridCfgId team.heroId else state
  let solider := state.takeSoliderForBattle team.soliderCfgId team.soliderCount index
  ({ info with heros := info.heros ++ hero, soliders := info.soliders ++ solider.toList }, state)

/-- The loop over the teams of an army. -/
def takeTeams (settings : Settings) (gridCfgId : ℕ) :
    List Team → ℕ → FightArmy → UnionState → FightArmy × UnionState
  | [], _, info, state => (info, state)
  | team :: teams, index, info, state =>
      let (info, state) := state.takeTeam settings gridCfgId team index info
      takeTeams settings gridCfgId teams (index + 1) info state

/-- One round of the loop over the armies, up to its checks. -/
def takeArmy (settings : Settings) (gridCfgId : ℕ) (army : UnionArmy) (state : UnionState) :
    FightArmy × UnionState :=
  let (mainWarShip, state) := state.takeWarShip settings gridCfgId army.warShipId
  takeTeams settings gridCfgId army.teams 1 ⟨mainWarShip, [], []⟩ state

/-- `Union:returnBackNftArmy`; a warship that was made is no item. -/
def returnBackNftArmy (info : FightArmy) (state : UnionState) : UnionState :=
  let state :=
    match info.mainWarShip with
    | some (.item id) => state.returnBackNft id
    | some (.made _) | none => state
  info.heros.foldl (fun state hero => state.returnBackNft hero.id) state

def returnBackPersonalUnionSoldier (settings : Settings) (soliders : List Solider)
    (state : UnionState) : UnionState :=
  { state with
    guildReserveCount := state.guildReserveCount +
      (soliders.map fun solider =>
        settings.trainSpace solider.cfgId solider.level * solider.count).sum }

def returnBackCampaignArmy (settings : Settings) (info : FightArmy) (state : UnionState) :
    UnionState :=
  (state.returnBackNftArmy info).returnBackPersonalUnionSoldier settings info.soliders

/-- The loop over the armies; each early exit undoes the army it has stopped at. -/
def takeArmys (settings : Settings) (gridCfgId : ℕ) :
    List UnionArmy → List FightArmy → UnionState → Option (List FightArmy) × UnionState
  | [], fightArmys, state => (some fightArmys, state)
  | army :: armys, fightArmys, state =>
      let (info, state) := state.takeArmy settings gridCfgId army
      if info.mainWarShip = none then
        (none, (state.returnBackCampaignArmy settings info).say .armyNoWarship)
      else if info.heros = [] then
        (none, (state.returnBackCampaignArmy settings info).say .armyNoHero)
      else if info.heros.length + info.soliders.length = 0 then
        (none, (state.returnBackNftArmy info).say .unionBattleNumLess)
      else takeArmys settings gridCfgId armys (putArmy info fightArmys) state

def reduceGuildReserveCount (num : ℤ) (state : UnionState) : Option UnionState :=
  if num < 0 then none
  else if state.guildReserveCount < num then none
  else some { state with guildReserveCount := state.guildReserveCount - num }

def costPersonalUnionSoldier (settings : Settings) (needs : List (ℕ × ℤ)) (state : UnionState) :
    Option UnionState :=
  if state.trained needs then state.reduceGuildReserveCount (state.need settings needs) else none

def takeStarmapCampaignArmy (settings : Settings) (gridCfgId : ℕ) (armys : List UnionArmy)
    (state : UnionState) : Option (List FightArmy) × UnionState :=
  match state.refusal settings armys with
  | error :: errors => (none, { state with said := error :: errors ++ state.said })
  | [] =>
      match state.takeArmys settings gridCfgId armys [] with
      | (none, state) => (none, state)
      | (some fightArmys, state) =>
          match state.costPersonalUnionSoldier settings (needSoliders armys) with
          | some state => (some fightArmys, state)
          | none =>
              (none, (fightArmys.foldl (fun state info => state.returnBackNftArmy info) state).say
                .unionSoliderCostErr)

end UnionState
end BasWar.Unions
