import BasWar.Cooperative.Pool
import BasWar.Unions.DonorBags

/-!
# Donating NFTs to a union

The player checks its NFTs and sends them to the union.  The union calls the player back, who marks
them, and then lists them among its items.  A take-back goes the same way: the player frees the NFTs
first, then the union forgets them.  A withdrawal from the game checks its NFTs, calls out, and
deletes them when the order is written.
-/

namespace BasWar.Unions.Donations

open Cooperative

/-- What `doReturnNfts` was called with, and whether the player leaves the union afterwards. -/
structure Return where
  unionId : ℕ
  idList : List ℕ
  quits : Bool

inductive Request
  | donateNft (unionId : ℕ) (idList : List ℕ)
  | takeBackNft (unionId : ℕ) (idList : List ℕ)
  /-- The player quits or is kicked out. -/
  | quitUnion (unionId : ℕ)
  /-- A union has made the player a member. -/
  | joined (unionId : ℕ)
  | doWithdrawNFT (entityNfts : List (ℕ × NFTKind))
  | levelUpHero (id : ℕ) (bill : Bill)
  | heroSkillUp (id skillUp : ℕ) (bill : Bill)
  | levelUpWarShip (id : ℕ) (bill : Bill)
  | warShipSkillUp (id skillUp : ℕ) (bill : Bill)
  | levelUpBuild (id : ℕ) (bill : Bill) (minObj : Option ℕ)
  | sellHero (ids : List ℕ)
  | sellWarShip (ids : List ℕ)
  | sellBuild (ids : List ℕ)
  | setUseWarShip (id : ℕ)
  | addArmys (armyId : ℕ) (teams : List Team) (fits : Bool)
  | updateArmy (armyId index : ℕ) (team : Team) (fits : Bool)
  | deleteArmys (armyId : ℕ) (fits : Bool)
  | cleanAllArmy
  | editedArmy (armyId index : ℕ) (team : Team) (fits : Bool)
  | onSecond
  | elapse (milliseconds : ℕ)

/-- A message or call on its way, or a handler that waits for an answer. -/
inductive Task
  /-- On its way to the union. -/
  | donateNft (unionId : ℕ) (nftList : List Nft)
  /-- On its way to the player. -/
  | onUnionDonateNft (unionId : ℕ) (nftList : List Nft)
  /-- The answer of `onUnionDonateNft` on its way to the union. -/
  | donated (unionId : ℕ) (nftList : List Nft) (donateTime : ℤ)
  | takeBackNft (unionId : ℕ) (idList : List ℕ)
  /-- On its way to the union. -/
  | quitUnion (unionId : ℕ)
  /-- On its way to the star map. -/
  | storeUnionNftsOnGrid (back : Return)
  /-- On its way to the player. -/
  | onUnionTakeBackNft (back : Return) (nftLifeDict : List (ℕ × ℤ))
  /-- The answer of `onUnionTakeBackNft` on its way to the union. -/
  | takenBack (back : Return)
  /-- Of the star map, for a player who leaves. -/
  | updatePersonalGrids (unionId : ℕ)
  /-- A withdrawal in its loop over the NFTs. -/
  | syncNFTInfo (checked : List ℕ) (rest : List (ℕ × NFTKind))
  | genWithdrawId (checked : List ℕ)
  /-- The insert of a withdraw order. -/
  | insert (checked : List ℕ)

inductive Reply
  /-- The message arrives, or the call is answered. -/
  | arrive
  /-- The lives of the buildings that the star map has stored. -/
  | lives (result : List (ℕ × ℤ))
  | none
  /-- The message gets lost or the call raises; an insert may have `stored` its document. -/
  | raise (stored : Bool)

namespace State

def getNftList (idList : List ℕ) (state : State) : List Nft :=
  idList.filterMap state.entities

/-- Without a warship in use the last check raises. -/
def canDonateNft (settings : Settings) (nftList : List Nft) (state : State) : Bool :=
  nftList.all fun nft =>
    !nft.isUpgrade state.clock && nft.ref = .none &&
      (nft.bag = .buildBag || settings.isInnerServer) &&
      nft.fightTick ≤ 0 && 0 < nft.chain && 0 < nft.curLife && nft.id ∉ state.armyHeros &&
      state.currentWarShip.any fun warShip => nft.id ≠ warShip.id

def donateNft (settings : Settings) (unionId : ℕ) (idList : List ℕ) (state : State) :
    State × List Task :=
  let nftList := state.getNftList idList
  if nftList.length = idList.length ∧ state.canDonateNft settings nftList then
    (state, [.donateNft unionId nftList])
  else (state, [])

/-- `math.floor(skynet.timestamp() / 1000)` -/
def now (state : State) : ℤ :=
  state.clock / 1000

def markDonated (settings : Settings) (donateTime : ℤ) (nft : Nft) : Nft :=
  { nft with ref := .union, donateTime := donateTime, ownerPid := settings.pid }

/-- The loop of `onUnionDonateNft`. -/
def onUnionDonateNft (settings : Settings) (nftList : List Nft) (state : State) : State :=
  nftList.foldl
    (fun player nft => player.modify nft.id (markDonated settings state.now)) state

def canTakeBackNft (settings : Settings) (nftList : List Nft) (state : State) : Bool :=
  nftList.all fun nft =>
    nft.ref = .union && nft.donateTime ≠ 0 &&
      nft.donateTime + settings.nftTakeBackCD ≤ state.now

def takeBackNft (settings : Settings) (unionId : ℕ) (idList : List ℕ) (state : State) :
    State × List Task :=
  let nftList := state.getNftList idList
  if nftList.length = idList.length ∧ state.canTakeBackNft settings nftList then
    (state, [.takeBackNft unionId idList])
  else (state, [])

/-- `returnFromUnion` for one entity. -/
def returned (curLife : Option ℤ) (nft : Nft) : Nft :=
  { nft with
    ref := .none
    refBy := 0
    donateTime := 0
    ownerPid := 0
    curLife := curLife.getD nft.curLife }

def onUnionTakeBackNft (idList : List ℕ) (nftLifeDict : List (ℕ × ℤ)) (state : State) : State :=
  idList.foldl (fun state id => state.modify id (returned (nftLifeDict.lookup id))) state

/-- The check of one NFT in `doWithdrawNFT`. -/
def checkNFT (nft : ℕ × NFTKind) (state : State) : Bool :=
  (nft.2.bag?.bind fun bag => state.getEntity bag nft.1).any fun found =>
    0 < found.chain ∧ ChainBridge.Withdraw.withdrawError (found.entity state.clock) = none

/-- The loop over the NFTs, up to its next call. -/
def checkNFTs (checked : List ℕ) (rest : List (ℕ × NFTKind)) (state : State) :
    State × List Task :=
  match rest with
  | [] => (state, if checked = [] then [] else [.genWithdrawId checked])
  | nft :: rest =>
      if state.checkNFT nft then (state, [.syncNFTInfo (checked ++ [nft.1]) rest]) else (state, [])

def lock (unionId : ℕ) (state : State) : State :=
  { state with locked := Function.update state.locked unionId true }

def unlock (unionId : ℕ) (state : State) : State :=
  { state with locked := Function.update state.locked unionId false }

def setItems (unionId : ℕ) (items : AList fun _ : ℕ => Nft) (state : State) : State :=
  { state with items := Function.update state.items unionId items }

/-- The loop of `donateNft` after the call. -/
def listItems (settings : Settings) (unionId : ℕ) (nftList : List Nft) (donateTime : ℤ)
    (state : State) : State :=
  state.setItems unionId <| nftList.foldl
    (fun items nft => items.insert nft.id (markDonated settings donateTime nft))
    (state.items unionId)

/-- The item of `doReturnNfts` after its first call. -/
def storeItem (curLife : Option ℤ) (item : Nft) : Nft :=
  { item with refBy := 0, curLife := curLife.getD item.curLife }

/-- `doReturnNfts` up to its second call. -/
def askPlayer (back : Return) (result : List (ℕ × ℤ)) (state : State) : State × List Task :=
  let items := back.idList.foldl
    (fun items id => match items.lookup id with
      | none => items
      | some item => items.insert id (storeItem (result.lookup id) item)) (state.items back.unionId)
  (state.setItems back.unionId items,
    [.onUnionTakeBackNft back (back.idList.filterMap fun id =>
      (items.lookup id).map fun item => (id, item.curLife))])

/-- What the caller of `doReturnNfts` does afterwards. -/
def finishReturn (back : Return) (state : State) : State × List Task :=
  if back.quits then (state, [.updatePersonalGrids back.unionId])
  else (state.unlock back.unionId, [])

/-- `doReturnNfts` up to its first call. -/
def doReturnNfts (back : Return) (state : State) : State × List Task :=
  if back.idList = [] then state.finishReturn back
  else if back.idList.any fun id =>
      ((state.items back.unionId).lookup id).any fun item => 0 < item.refBy then
    (state, [.storeUnionNftsOnGrid back])
  else state.askPlayer back []

def dropItems (back : Return) (state : State) : State :=
  state.setItems back.unionId
    (back.idList.foldl (fun items id => items.erase id) (state.items back.unionId))

/-- A handler that takes the lock of the union first; it waits while another one has it. -/
def locking (unionId : ℕ) (task : Task) (handler : State → State × List Task) (state : State) :
    State × List Task :=
  if state.locked unionId then (state, [task])
  else if unionId ∉ state.members then (state, [])
  else handler (state.lock unionId)

end State

section Service

variable (settings : Settings)

def accept : Request → State → State × List Task
  | .donateNft unionId idList, state => state.donateNft settings unionId idList
  | .takeBackNft unionId idList, state => state.takeBackNft settings unionId idList
  | .quitUnion unionId, state => (state, [.quitUnion unionId])
  | .joined unionId, state => ({ state with members := unionId :: state.members }, [])
  | .doWithdrawNFT entityNfts, state => state.checkNFTs [] entityNfts
  | .levelUpHero id bill, state => (state.levelUpHero id bill, [])
  | .heroSkillUp id skillUp bill, state => (state.heroSkillUp id skillUp bill, [])
  | .levelUpWarShip id bill, state => (state.levelUpWarShip id bill, [])
  | .warShipSkillUp id skillUp bill, state => (state.warShipSkillUp id skillUp bill, [])
  | .levelUpBuild id bill minObj, state => (state.levelUpBuild id bill minObj, [])
  | .sellHero ids, state => (state.sellHero ids, [])
  | .sellWarShip ids, state => (state.sellWarShip ids, [])
  | .sellBuild ids, state => (state.sellBuild ids, [])
  | .setUseWarShip id, state => (state.setUseWarShip id, [])
  | .addArmys armyId teams fits, state => (state.addArmys armyId teams fits, [])
  | .updateArmy armyId index team fits, state => (state.updateArmy armyId index team fits, [])
  | .deleteArmys armyId fits, state => (state.deleteArmys armyId fits, [])
  | .cleanAllArmy, state => (state.cleanAllArmy, [])
  | .editedArmy armyId index team fits, state =>
      (state.editedArmy settings armyId index team fits, [])
  | .onSecond, state => (state.onSecond, [])
  | .elapse milliseconds, state => ({ state with clock := state.clock + milliseconds }, [])

/-- A reply that does not fit leaves the task waiting. -/
def resume : Task → Reply → State → State × List Task
  | .donateNft unionId nftList, .arrive, state =>
      state.locking unionId (.donateNft unionId nftList) fun state =>
        (state, [.onUnionDonateNft unionId nftList])
  | .onUnionDonateNft unionId nftList, .arrive, state =>
      (state.onUnionDonateNft settings nftList, [.donated unionId nftList state.now])
  | .donated unionId nftList donateTime, .arrive, state =>
      ((state.listItems settings unionId nftList donateTime).unlock unionId, [])
  | .onUnionDonateNft unionId _, .none, state | .onUnionDonateNft unionId _, .raise _, state
  | .donated unionId _ _, .none, state | .donated unionId _ _, .raise _, state =>
      (state.unlock unionId, [])
  | .takeBackNft unionId idList, .arrive, state =>
      state.locking unionId (.takeBackNft unionId idList)
        (State.doReturnNfts ⟨unionId, idList, false⟩)
  | .quitUnion unionId, .arrive, state =>
      state.locking unionId (.quitUnion unionId) fun state =>
        state.doReturnNfts ⟨unionId, (state.items unionId).keys, true⟩
  | .storeUnionNftsOnGrid back, .lives result, state => state.askPlayer back result
  | .storeUnionNftsOnGrid back, .none, state | .storeUnionNftsOnGrid back, .raise _, state =>
      (state.unlock back.unionId, [])
  | .onUnionTakeBackNft back nftLifeDict, .arrive, state =>
      (state.onUnionTakeBackNft back.idList nftLifeDict, [.takenBack back])
  | .onUnionTakeBackNft back _, .none, state | .takenBack back, .none, state =>
      state.finishReturn back
  | .onUnionTakeBackNft back _, .raise _, state | .takenBack back, .raise _, state =>
      (state.unlock back.unionId, [])
  | .takenBack back, .arrive, state => (state.dropItems back).finishReturn back
  | .updatePersonalGrids unionId, .arrive, state =>
      ({ state with members := state.members.filter (· ≠ unionId) }.unlock unionId, [])
  | .updatePersonalGrids unionId, .raise _, state => (state.unlock unionId, [])
  | .syncNFTInfo checked rest, .arrive, state => state.checkNFTs checked rest
  | .genWithdrawId checked, .arrive, state => (state, [.insert checked])
  | .insert checked, .arrive, state =>
      ({ state with orders := checked :: state.orders }.delete checked, [])
  | .insert checked, .raise true, state =>
      ({ state with orders := checked :: state.orders }, [])
  | .donateNft _ _, .raise _, state | .takeBackNft _ _, .raise _, state
  | .quitUnion _, .raise _, state | .syncNFTInfo _ _, .raise _, state
  | .genWithdrawId _, .raise _, state | .insert _, .raise false, state => (state, [])
  | task, _, state => (state, [task])

def unionService : Service State Request Task Reply where
  accept := accept settings
  resume := resume settings

end Service

def start (entities : ℕ → Option Nft) (useId : Option ℕ) (armys : AList fun _ : ℕ => List Team)
    (orders : List (List ℕ)) (clock : ℤ) (union : Option ℕ) : Config State Task :=
  ⟨⟨entities, useId, armys, orders, clock, union.toList, fun _ => ∅, fun _ => false⟩, []⟩

end BasWar.Unions.Donations
