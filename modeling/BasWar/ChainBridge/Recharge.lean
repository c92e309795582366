import BasWar.Cooperative.Pool
import BasWar.Player.Entity
import BasWar.Player.ResBag
import Mathlib.Data.PNat.Basic

/-!
# Recharge orders of the chain bridge

`RechargeMgr` sends every confirmed order to the player's service again and again until the service
reports it finished.  The player's service keeps one mark per settled order.  The handlers are cut
at their calls: `rebateToInviter`, the reward helpers of a pay order, `loadNFTInfo`, `isNewGet` and
`syncNFTInfo`.
-/

namespace BasWar.ChainBridge

/-- Payment channel of a pay order. -/
inductive PayChannel
  | payLocal
  | xsolla
  | internation
  | appstore
  | googleplay
  /-- A name that `dealPayOrder` has no branch for. -/
  | other
  deriving DecidableEq

/-- Products, as far as `dealPayOrder` tells them apart. -/
inductive ProductId
  | tesseract99
  | tesseract499
  | tesseract999
  | tesseract2999
  | tesseract4999
  | tesseract9999
  | other (number : ℕ)
  deriving DecidableEq

/-- The table `IS_RECHARGE`. -/
def ProductId.isRecharge : ProductId → Bool
  | .other _ => false
  | _ => true

def doubleRechargeValue : ℤ := 2

/-- A token order of the collection `rechargeToken`. -/
structure TokenOrder where
  orderNum : ℕ
  token : Token
  value : ℤ

/-- A pay order of the collection `order_settle`. -/
structure PayOrder where
  orderId : ℕ
  payChannel : PayChannel
  productId : ProductId
  value : ℤ

/-- An NFT order of the collection `rechargeNft`. -/
structure NFTOrder where
  orderNum : ℕ
  tokenIds : List ℕ

/-- A document of the collection `nftInfo`. -/
structure NFTInfo where
  kind : NFTKind
  race : ℕ
  style : ℕ
  quality : ℕ
  level : ℕ
  mintType : ℤ
  life : ℤ
  cfgId : ℕ

structure Item where
  id : ℕ
  cfgId : ℕ
  num : ℕ
  /-- An empty stack is removed from the bag. -/
  num_pos : 0 < num

/-- Tables read while an NFT is turned into an entity or an item. -/
structure NFTTables where
  /-- `getNFTWarShipCfg`, `getNFTHeroCfg` or `getNFTBuildCfg`: the configuration of an entity. -/
  getNFTCfg : EntityBag → (race style quality level : ℕ) → Option ℕ
  /-- The field `maxNum` of `getItemCfg`. -/
  getItemMaxNum : ℕ → Option ℕ+

/-- What the order that a credit belongs to is called. -/
inductive OrderKey
  | token (orderNum : ℕ)
  | pay (orderId : ℕ)
  deriving DecidableEq

/-- One `addRes` made for an order. -/
structure Credit where
  key : OrderKey
  res : Res
  value : ℤ

structure Creation where
  tokenId : ℕ
  /-- An entity with this id stood in the bag and was overwritten. -/
  replaced : Bool

/-- One `rechargeNFTFinish` report. -/
structure NFTReport where
  orderNum : ℕ
  successIds : List ℕ
  failIds : List ℕ

inductive OrderState
  | confirm
  | success
  deriving DecidableEq

/-- The orders known to `RechargeMgr`, with their states. -/
structure RechargeMgr where
  rechargeToken : List (TokenOrder × OrderState)
  rechargeNft : List (NFTOrder × OrderState)
  orderSettle : List (PayOrder × OrderState)

/-- The player's side of the recharge orders. -/
structure Player where
  resBag : ResBag
  /-- Settled token orders. -/
  rechargeToken : List ℕ
  /-- Settled pay orders. -/
  payOrder : List ℕ
  /-- Settled pairs of an NFT order and one of its token ids. -/
  rechargeNFT : List (ℕ × ℕ)
  doubRecstat : List ProductId
  /-- Warships, heroes and buildings. -/
  bags : EntityBag → List Entity
  items : List Item
  /-- Credits made for orders, latest first. -/
  credits : List Credit
  /-- NFTs put in a bag, latest first. -/
  creations : List Creation
  /-- Reports sent to `RechargeMgr`, latest first. -/
  reports : List NFTReport

/-- `RechargeMgr` and the player's service. -/
structure State where
  mgr : RechargeMgr
  player : Player

/-- The locals of `dealRechargeNFT` while it works on one token id. -/
structure NFTJob where
  orderNum : ℕ
  tokenId : ℕ
  /-- Token ids still to come. -/
  rest : List ℕ
  successIds : List ℕ
  failIds : List ℕ

/-- Messages in flight and suspended handlers. -/
inductive Task
  | dealRechargeToken (data : TokenOrder)
  | dealPayOrder (data : PayOrder)
  | dealRechargeNFT (data : NFTOrder)
  /-- `dealPayOrder` suspended in `rebateToInviter`. -/
  | rebateToInviter (data : PayOrder)
  /-- `dealPayOrder` suspended in `checkActProduct`, `checkBuyGoodsByUsd` or `checkBuyVipLevel`. -/
  | productRewards (data : PayOrder)
  /-- `dealRechargeNFT` suspended in `loadNFTInfo`. -/
  | loadNFTInfo (job : NFTJob)
  /-- `dealRechargeNFT` suspended in the `isNewGet` of `addHero`. -/
  | isNewGet (job : NFTJob)
  /-- `dealRechargeNFT` suspended in `syncNFTInfo`. -/
  | syncNFTInfo (job : NFTJob)
  | rechargeTokenFinish (orderNum : ℕ)
  | payOrderFinish (orderId : ℕ)
  | rechargeNFTFinish (report : NFTReport)

/-- What the player's activity bags say when a segment of `dealPayOrder` runs. -/
structure Activity where
  /-- `isValid(DOUBLE_RECHARGE)`. -/
  doubleRecharge : Bool
  /-- The reward helpers of the product call other services. -/
  rewardsCall : Bool

/-- What a suspended task waits for. -/
inductive Reply
  /-- A message arrives, or the last call of a helper returns. -/
  | done (activity : Activity)
  /-- A call returns and its helper makes another one. -/
  | again
  /-- `loadNFTInfo` returns; `randomLife` is what the random life tables would give. -/
  | nftInfo (info : Option NFTInfo) (randomLife : ℤ)
  /-- The call raises and ends the handler. -/
  | raise

/-- The timers of `RechargeMgr:onSecond`. -/
inductive Request
  | checkRechargeToken
  | checkRechargeNFT
  | checkPayOrder

/-! ## RechargeMgr -/

/-- `checkRechargeTokenCnt`, `checkRechargeNFTCnt` and `checkPayOrderCnt`. -/
def checkCnt : ℕ := 300

/-- The confirmed orders that one timer reads, oldest first. -/
def confirmed {Order : Type} (docs : List (Order × OrderState)) : List Order :=
  ((docs.filter (·.2 = .confirm)).take checkCnt).map Prod.fst

/-- Set the state of the first order that matches. -/
def updateState {Order : Type} (same : Order → Bool) :
    List (Order × OrderState) → List (Order × OrderState)
  | [] => []
  | doc :: docs =>
      if same doc.1 then (doc.1, .success) :: docs else doc :: updateState same docs

def RechargeMgr.rechargeTokenFinish (orderNum : ℕ) (mgr : RechargeMgr) : RechargeMgr :=
  { mgr with rechargeToken := updateState (·.orderNum = orderNum) mgr.rechargeToken }

def RechargeMgr.payOrderFinish (orderId : ℕ) (mgr : RechargeMgr) : RechargeMgr :=
  { mgr with orderSettle := updateState (·.orderId = orderId) mgr.orderSettle }

def RechargeMgr.rechargeNFTFinish (report : NFTReport) (mgr : RechargeMgr) : RechargeMgr :=
  { mgr with rechargeNft := updateState (·.orderNum = report.orderNum) mgr.rechargeNft }

namespace Player

/-- `addRes` made for an order. -/
def addRes (key : OrderKey) (res : Res) (value : ℤ) (player : Player) : Player :=
  { player with
    resBag := player.resBag.addRes res value
    credits := if value ≤ 0 then player.credits else ⟨key, res, value⟩ :: player.credits }

def dealRechargeToken (data : TokenOrder) (player : Player) : Player × List Task :=
  let player :=
    if data.orderNum ∈ player.rechargeToken then player
    else
      let player := { player with rechargeToken := data.orderNum :: player.rechargeToken }
      match data.token with
      | .mit => player.addRes (.token data.orderNum) .mit data.value
      | .hyt => player.addRes (.token data.orderNum) .carboxyl data.value
      | .other => player
  (player, [.rechargeTokenFinish data.orderNum])

/-! ## Pay orders -/

/-- Use up the doubled recharge of a product; the flag says whether it was still there. -/
def setDoubleRe (productId : ProductId) (valid : Bool) (player : Player) : Player × Bool :=
  if valid && productId ∉ player.doubRecstat then
    ({ player with doubRecstat := productId :: player.doubRecstat }, true)
  else (player, false)

/-- The last segment of `dealPayOrder`, from `addRes` on. -/
def payCredit (data : PayOrder) (activity : Activity) (player : Player) : Player × List Task :=
  let player := player.addRes (.pay data.orderId) .tesseract data.value
  ((player.setDoubleRe data.productId activity.doubleRecharge).1, [.payOrderFinish data.orderId])

/-- The reward helpers of the product, which may call other services. -/
def payRewards (data : PayOrder) (activity : Activity) (player : Player) : Player × List Task :=
  if activity.rewardsCall then (player, [.productRewards data])
  else player.payCredit data activity

/-- The segment of `dealPayOrder` after `rebateToInviter`. -/
def payRebated (data : PayOrder) (activity : Activity) (player : Player) : Player × List Task :=
  match player.setDoubleRe data.productId activity.doubleRecharge with
  | (player, true) =>
      player.payRewards { data with value := data.value * doubleRechargeValue } activity
  | (player, false) => player.payRewards data activity

def dealPayOrder (data : PayOrder) (activity : Activity) (player : Player) :
    Player × List Task :=
  if data.orderId ∈ player.payOrder then (player, [.payOrderFinish data.orderId])
  else
    let player := { player with payOrder := data.orderId :: player.payOrder }
    match data.payChannel with
    | .other => (player, [.payOrderFinish data.orderId])
    | _ =>
        if data.productId.isRecharge then (player, [.rebateToInviter data])
        else player.payRewards data activity

/-! ## NFT orders -/

/-- The loop of `dealRechargeNFT`, up to its next call. -/
def nextNFT (orderNum : ℕ) (successIds failIds : List ℕ) (player : Player) :
    List ℕ → Player × List Task
  | [] =>
      let report := ⟨orderNum, successIds, failIds⟩
      ({ player with reports := report :: player.reports }, [.rechargeNFTFinish report])
  | tokenId :: rest =>
      if (orderNum, tokenId) ∈ player.rechargeNFT then
        player.nextNFT orderNum successIds failIds rest
      else (player, [.loadNFTInfo ⟨orderNum, tokenId, rest, successIds, failIds⟩])

def dealRechargeNFT (data : NFTOrder) (player : Player) : Player × List Task :=
  player.nextNFT data.orderNum [] [] data.tokenIds

/-- The end of one round of the loop with `success = true`. -/
def succeedNFT (job : NFTJob) (player : Player) : Player × List Task :=
  nextNFT job.orderNum (job.successIds ++ [job.tokenId]) job.failIds
    { player with rechargeNFT := (job.orderNum, job.tokenId) :: player.rechargeNFT } job.rest

/-- The end of one round of the loop with `success = false`. -/
def failNFT (job : NFTJob) (player : Player) : Player × List Task :=
  player.nextNFT job.orderNum job.successIds (job.failIds ++ [job.tokenId]) job.rest

/-- `addWarShip`, `addHero` and `addBuild`. -/
def addEntity (bag : EntityBag) (entity : Entity) (player : Player) : Player :=
  { player with
    bags := Function.update player.bags bag (putEntity entity (player.bags bag))
    creations := ⟨entity.id, entity.id ∈ entityIds (player.bags bag)⟩ :: player.creations }

/-- `initialWarShipNFT`, `initialHeroNFT` and `initialBuildNFT`. -/
def initialNFT (tables : NFTTables) (bag : EntityBag) (info : NFTInfo) (randomLife : ℤ)
    (tokenId : ℕ) : Option Entity :=
  (tables.getNFTCfg bag info.race info.style info.quality info.level).map fun cfgId =>
    let life := if info.life ≤ 0 then randomLife else info.life
    { id := tokenId
      cfgId := cfgId
      chain := info.mintType
      life := life
      curLife := life
      ref := .none
      upgrading := false }

/-- One more item on the first stack of `cfgId` that has room. -/
def overlayItem (cfgId : ℕ) (maxNum : ℕ+) : List Item → Option (List Item)
  | [] => none
  | item :: items =>
      if item.cfgId = cfgId ∧ item.num < maxNum then
        some ({ item with num := item.num + 1, num_pos := Nat.succ_pos _ } :: items)
      else (overlayItem cfgId maxNum items).map (item :: ·)

/-- `addItem` of one item with a given id; the flag is `ret == 1`. -/
def addItem (tables : NFTTables) (cfgId tokenId : ℕ) (player : Player) : Player × Bool :=
  match tables.getItemMaxNum cfgId with
  | none => (player, false)
  | some maxNum =>
      match overlayItem cfgId maxNum player.items with
      | some items => ({ player with items := items }, true)
      | none =>
          if tokenId ∈ player.items.map Item.id then (player, false)
          else
            ({ player with
                items := ⟨tokenId, cfgId, 1, Nat.one_pos⟩ :: player.items
                creations := ⟨tokenId, false⟩ :: player.creations }, true)

/-- A new warship, hero or building; only `addHero` makes a call of its own. -/
def rechargeEntity (tables : NFTTables) (bag : EntityBag) (info : NFTInfo) (randomLife : ℤ)
    (job : NFTJob) (player : Player) : Player × List Task :=
  match initialNFT tables bag info randomLife job.tokenId with
  | none => player.failNFT job
  | some entity =>
      (player.addEntity bag entity,
        [match bag with
          | .heroBag => .isNewGet job
          | _ => .syncNFTInfo job])

def rechargeItem (tables : NFTTables) (info : NFTInfo) (job : NFTJob) (player : Player) :
    Player × List Task :=
  match player.addItem tables info.cfgId job.tokenId with
  | (player, true) => player.succeedNFT job
  | (player, false) => player.failNFT job

/-- The segment of `dealRechargeNFT` after `loadNFTInfo`. -/
def loadedNFT (tables : NFTTables) (job : NFTJob) (info : Option NFTInfo) (randomLife : ℤ)
    (player : Player) : Player × List Task :=
  match info with
  | none => player.failNFT job
  | some info =>
      match info.kind with
      | .spaceship => player.rechargeEntity tables .warShipBag info randomLife job
      | .hero => player.rechargeEntity tables .heroBag info randomLife job
      | .defensive => player.rechargeEntity tables .buildBag info randomLife job
      | .itemNft => player.rechargeItem tables info job
      | .itemArtifact => player.rechargeItem tables info job
      | .other => player.failNFT job

end Player

/-- A timer of `RechargeMgr` sends every confirmed order that it reads. -/
def accept (request : Request) (state : State) : State × List Task :=
  match request with
  | .checkRechargeToken => (state, (confirmed state.mgr.rechargeToken).map .dealRechargeToken)
  | .checkRechargeNFT => (state, (confirmed state.mgr.rechargeNft).map .dealRechargeNFT)
  | .checkPayOrder => (state, (confirmed state.mgr.orderSettle).map .dealPayOrder)

/-- Put the player's half of a segment back in the state. -/
def State.withPlayer (state : State) (result : Player × List Task) : State × List Task :=
  ({ state with player := result.1 }, result.2)

/-- Put the half of `RechargeMgr` back in the state. -/
def State.withMgr (state : State) (mgr : RechargeMgr) : State × List Task :=
  ({ state with mgr := mgr }, [])

/-- An answer that a task does not wait for leaves it waiting. -/
def resume (tables : NFTTables) (task : Task) (reply : Reply) (state : State) :
    State × List Task :=
  match task, reply with
  | .dealRechargeToken data, .done _ => state.withPlayer (state.player.dealRechargeToken data)
  | .dealPayOrder data, .done activity =>
      state.withPlayer (state.player.dealPayOrder data activity)
  | .dealRechargeNFT data, .done _ => state.withPlayer (state.player.dealRechargeNFT data)
  | .rebateToInviter _, .raise => (state, [])
  | .rebateToInviter data, .done activity =>
      state.withPlayer (state.player.payRebated data activity)
  | .productRewards _, .raise => (state, [])
  | .productRewards data, .done activity =>
      state.withPlayer (state.player.payCredit data activity)
  | .loadNFTInfo _, .raise => (state, [])
  | .loadNFTInfo job, .nftInfo info randomLife =>
      state.withPlayer (state.player.loadedNFT tables job info randomLife)
  | .isNewGet _, .raise => (state, [])
  | .isNewGet job, .done _ => (state, [.syncNFTInfo job])
  | .syncNFTInfo _, .raise => (state, [])
  | .syncNFTInfo job, .done _ => state.withPlayer (state.player.succeedNFT job)
  | .rechargeTokenFinish orderNum, .done _ =>
      state.withMgr (state.mgr.rechargeTokenFinish orderNum)
  | .payOrderFinish orderId, .done _ => state.withMgr (state.mgr.payOrderFinish orderId)
  | .rechargeNFTFinish report, .done _ => state.withMgr (state.mgr.rechargeNFTFinish report)
  | task, _ => (state, [task])

def rechargeService (tables : NFTTables) : Cooperative.Service State Request Task Reply where
  accept := accept
  resume := resume tables

end BasWar.ChainBridge
