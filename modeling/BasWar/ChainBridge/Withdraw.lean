import BasWar.Cooperative.Pool
import BasWar.Player.Entity
import BasWar.Player.ResBag

/-!
# Withdrawals to the chain

`launchToBridge` takes tokens or NFTs from a player and writes withdraw orders for them.  Requests
of one player are not queued, so a request is cut at each of its calls.  `dynamicCfg:get` calls out
only when its value is not cached; otherwise its answer is there at once.
-/

namespace BasWar.ChainBridge.Withdraw

/-- What a refused request is told. -/
inductive BridgeError
  | chainPauseUse
  | argErr
  | mitMin (least : ℤ)
  | hytMin (least : ℤ)
  | chainBanTransport
  | noBindWallet
  | chainIdNotExist
  | ownNftWarship
  | chainCooling (left : ℤ)
  | resNotEnough (res : Res)
  | launchHytLessFee
  | warshipRefBusy
  | itemNotExist
  | notNft
  | levelOrSkillUp
  | entityBusy
  | needMaxLife
  | tokenNotExist

/-- Global configuration read by `launchToBridge`. -/
structure Settings where
  withdrawMinMIT : ℤ
  withdrawMinHYT : ℤ
  withdrawCD : ℤ
  /-- The table `getValidChain`. -/
  validChain : ℤ → Bool

/-- One row of `CHAIN_BRIDGE_LAUNCH_FEE`; a `max` of `-1` means no upper end. -/
structure FeeBand where
  min : ℤ
  max : ℤ
  fee : ℤ

/-- The table `CHAIN_BRIDGE_LAUNCH_FEE`. -/
def launchFees : List FeeBand :=
  [⟨0, 5000 * 1000, 2000⟩, ⟨5000 * 1000, 30000 * 1000, 2000⟩,
    ⟨30000 * 1000, 100000 * 1000, 2000⟩, ⟨100000 * 1000, -1, 2000⟩]

/-- Rate of the first band that holds the amount. -/
def launchRate (hyt : ℤ) : ℤ :=
  match launchFees.find? fun band =>
    band.min ≤ hyt ∧ (0 < band.max ∧ hyt < band.max ∨ band.max = -1) with
  | some band => band.fee
  | none => 2000

def launchFee (hyt : ℤ) : ℤ :=
  max ((hyt * launchRate hyt + 9999) / 10000) (1000 * 1000)

/-- The share `FEE_FOR_LP_RATE` of a fee, rounded down. -/
def feeForLp (fee : ℤ) : ℤ :=
  fee * 3 / 4

def buildChainTower : ℤ := 63023

/-- The arguments of `launchToBridge`, as `C2S_Player_LaunchToBridge` collects them. -/
structure LaunchRequest where
  mit : ℤ
  hyt : ℤ
  /-- Token ids with their kinds; a Lua table has each key once. -/
  entityNfts : List (ℕ × NFTKind)
  itemNfts : List ℕ
  nodup : (entityNfts.map Prod.fst).Nodup
  deriving DecidableEq

def LaunchRequest.tokens (request : LaunchRequest) : Bool :=
  decide (0 < request.mit) || decide (0 < request.hyt)

structure Launch where
  request : LaunchRequest
  /-- Fee of its HYT withdrawal. -/
  fee : ℤ
  flightNo : ℕ
  deriving DecidableEq

/-- A document of the collection `withdrawToken`, with the fee that was kept back. -/
structure TokenOrder where
  orderNum : ℕ
  token : Token
  amount : ℤ
  fee : ℤ
  chainId : ℤ
  flightNo : ℕ

/-- A document of the collection `withdrawNft`, with the bags that its NFTs came from. -/
structure NFTOrder where
  orderNum : ℕ
  tokenIds : List (ℕ × EntityBag)
  chainId : ℤ
  flightNo : ℕ

/-- A document of the collection `withdrawRecord`. -/
structure Record where
  mit : ℤ
  hyt : ℤ
  fee : ℤ
  /-- Nothing when `doWithdrawNFT` returned early. -/
  tokenIds : Option (List ℕ)
  deriving DecidableEq

/-- A withdrawal of tokens that passed the cooldown. -/
structure Acceptance where
  /-- The new `lastLaunchTick`. -/
  tick : ℤ
  /-- The cooldown that the request was tested against. -/
  cooldown : ℤ

/-- A player and the collections that its withdrawals are written to. -/
structure State where
  resBag : ResBag
  bags : EntityBag → List Entity
  useId : Option ℕ
  /-- Chain of the bound wallet. -/
  chainId : ℤ
  lastLaunchTick : ℤ
  /-- `gg.time.time()`. -/
  clock : ℤ
  tokenOrders : List TokenOrder
  nftOrders : List NFTOrder
  records : List Record
  /-- Fees booked with `incrby` on `REDIS_FEE_FOR_LP`. -/
  lpFees : List ℤ
  /-- The counter `REDIS_FEE_FOR_LP`. -/
  redisFeeForLp : ℤ
  /-- Amounts sent with `setPvpMatchJackpot`. -/
  pvpJackpot : List ℤ
  /-- Amounts sent with `setStarmapMatchJackpot`. -/
  starmapJackpot : List ℤ
  accepted : List Acceptance
  said : List BridgeError

inductive Task
  | getChainBridgeStatus (request : LaunchRequest)
  | isBanTransport (request : LaunchRequest)
  | getChainBridgeNeedShip (request : LaunchRequest)
  | getWalletAddress (request : LaunchRequest) (cooldown : ℤ)
  | genFlightId (request : LaunchRequest) (fee : ℤ)
  /-- `addJackpotPly` reads `REDIS_PVP_JACKPOT_PLAYER_RATIO`. -/
  | pvpRatio (launch : Launch)
  /-- `addJackpotPly` reads `REDIS_STARMAP_JACKPOT_PLAYER_RATIO`. -/
  | starmapRatio (launch : Launch)
  | genTokenOrder (launch : Launch) (token : Token)
  | insertToken (launch : Launch) (token : Token) (orderNum : ℕ)
  | incrFeeForLp (launch : Launch)
  /-- The loop of `doWithdrawNFT`, with the token ids checked so far and those to come. -/
  | syncNFTInfo (launch : Launch) (checked : List (ℕ × EntityBag)) (rest : List (ℕ × NFTKind))
  | genNFTOrder (launch : Launch) (checked : List (ℕ × EntityBag))
  | insertNFT (launch : Launch) (checked : List (ℕ × EntityBag)) (orderNum : ℕ)
  | insertRecord (record : Record)
  | synchInfo
  deriving DecidableEq

inductive Reply
  /-- `getChainBridgeStatus`. -/
  | status (opened : Bool)
  /-- `isBanTransport`. -/
  | ban (banned : Bool)
  /-- `getChainBridgeNeedShip`, with the reductions of the cooldown at that time. -/
  | needShip (needed : Bool) (vipReduce buildReduce : ℤ)
  /-- `getWalletAddressByAccount`. -/
  | wallet (found : Bool)
  /-- `genFlightId` and `genWithdrawId`. -/
  | id (number : ℕ)
  | done
  /-- The call raises; it may have had its effect. -/
  | raise (stored : Bool)
  deriving DecidableEq

inductive Request
  | launchToBridge (request : LaunchRequest)
  | second

def LaunchRequest.amount (request : LaunchRequest) : Token → ℤ
  | .mit => request.mit
  | .hyt => request.hyt
  | .other => 0

/-- The fee that `doWithdrawToken` is called with. -/
def Launch.feeOf (launch : Launch) : Token → ℤ
  | .hyt => launch.fee
  | _ => 0

def Launch.record (launch : Launch) (tokenIds : Option (List ℕ)) : Record where
  mit := if 0 < launch.request.mit then launch.request.mit else 0
  hyt := if 0 < launch.request.hyt then launch.request.hyt else 0
  fee := if 0 < launch.request.hyt then launch.fee else 0
  tokenIds := tokenIds

/-- What the entity of an NFT must not be for a withdrawal. -/
def withdrawError (entity : Entity) : Option BridgeError :=
  if entity.upgrading then some .levelOrSkillUp
  else if entity.ref ≠ .none then some .entityBusy
  else if entity.curLife < entity.life then some .needMaxLife
  else none

namespace State

def say (error : BridgeError) (state : State) : State :=
  { state with said := error :: state.said }

/-- The check of one NFT in `launchToBridge`. -/
def launchError (state : State) (nft : ℕ × NFTKind) : Option BridgeError :=
  match nft.2.bag? with
  | none => some .argErr
  | some bag =>
      match getEntity nft.1 (state.bags bag) with
      | none => some .itemNotExist
      | some entity =>
          if bag = .warShipBag ∧ state.useId = some entity.id then some .warshipRefBusy
          else if entity.chain ≤ 0 ∨ entity.chain = buildChainTower then some .notNft
          else withdrawError entity

/-- The check of one NFT in `doWithdrawNFT`: the bag it was found in, or an error. -/
def checkNFT (state : State) (nft : ℕ × NFTKind) : Except BridgeError EntityBag :=
  match nft.2.bag? with
  | none => .error .argErr
  | some bag =>
      match getEntity nft.1 (state.bags bag) with
      | none => .error .itemNotExist
      | some entity =>
          if entity.chain ≤ 0 then .error .notNft
          else
            match withdrawError entity with
            | some error => .error error
            | none => .ok bag

def getLaunchLess (state : State) (cooldown : ℤ) : ℤ :=
  max 0 (state.lastLaunchTick + cooldown - state.clock)

def checkNFTs (launch : Launch) (checked : List (ℕ × EntityBag)) (rest : List (ℕ × NFTKind))
    (state : State) : State × List Task :=
  match rest with
  | [] => (state, [.genNFTOrder launch checked])
  | nft :: rest =>
      match state.checkNFT nft with
      | .error error => (state.say error, [.insertRecord (launch.record none)])
      | .ok bag => (state, [.syncNFTInfo launch (checked ++ [(nft.1, bag)]) rest])

/-- The order document of `doWithdrawNFT`. -/
def insertNFTOrder (launch : Launch) (checked : List (ℕ × EntityBag)) (orderNum : ℕ)
    (state : State) : State :=
  { state with
    nftOrders := ⟨orderNum, checked, state.chainId, launch.flightNo⟩ :: state.nftOrders }

/-- `delWarShip`, `delHero` and `delBuild` for the NFTs of an order. -/
def deleteNFTs (checked : List (ℕ × EntityBag)) (state : State) : State :=
  { state with bags := fun bag => (state.bags bag).filter fun entity => (entity.id, bag) ∉ checked }

/-- The checks and `costRes`; the flag says whether the amount was taken. -/
def chargeToken (launch : Launch) (token : Token) (state : State) : State × Bool :=
  let amount := launch.request.amount token
  if amount ≤ 0 then (state, false)
  else
    match token.res? with
    | none => (state.say .tokenNotExist, false)
    | some res =>
        if state.resBag.enoughRes res amount then
          ({ state with resBag := state.resBag.costRes res amount }, true)
        else (state.say (.resNotEnough res), false)

/-- The order document of `doWithdrawToken`. -/
def insertTokenOrder (launch : Launch) (token : Token) (orderNum : ℕ) (state : State) : State :=
  let fee := launch.feeOf token
  let order : TokenOrder :=
    { orderNum := orderNum
      token := token
      amount := launch.request.amount token - fee
      fee := fee
      chainId := state.chainId
      flightNo := launch.flightNo }
  { state with tokenOrders := order :: state.tokenOrders }

/-- `incrby` on `REDIS_FEE_FOR_LP`. -/
def bookFeeForLp (launch : Launch) (state : State) : State :=
  { state with
    lpFees := launch.fee :: state.lpFees
    redisFeeForLp := state.redisFeeForLp + feeForLp launch.fee }

/-- From the NFT part on. -/
def launchNFTs (launch : Launch) (state : State) : State × List Task :=
  if launch.request.entityNfts = [] then (state, [.insertRecord (launch.record (some []))])
  else state.checkNFTs launch [] launch.request.entityNfts

def launchHyt (launch : Launch) (state : State) : State × List Task :=
  if 0 < launch.request.hyt then
    match state.chargeToken launch .hyt with
    | (state, true) => (state, [.pvpRatio launch])
    | (state, false) => (state, [.incrFeeForLp launch])
  else state.launchNFTs launch

def launchMit (launch : Launch) (state : State) : State × List Task :=
  if 0 < launch.request.mit then
    match state.chargeToken launch .mit with
    | (state, true) => (state, [.genTokenOrder launch .mit])
    | (state, false) => state.launchHyt launch
  else state.launchHyt launch

/-- After the insert of a token order. -/
def launchInserted (launch : Launch) (token : Token) (state : State) : State × List Task :=
  match token with
  | .hyt => (state, [.incrFeeForLp launch])
  | _ => state.launchHyt launch

/-- After `getChainBridgeStatus`. -/
def launchOpened (settings : Settings) (request : LaunchRequest) (opened : Bool) (state : State) :
    State × List Task :=
  if !opened then (state.say .chainPauseUse, [])
  else if request.itemNfts ≠ [] then (state.say .argErr, [])
  else if request.tokens ∧ request.entityNfts ≠ [] then (state.say .argErr, [])
  else if 0 < request.mit ∧ request.mit < settings.withdrawMinMIT then
    (state.say (.mitMin (settings.withdrawMinMIT / 1000)), [])
  else if 0 < request.hyt ∧ request.hyt < settings.withdrawMinHYT then
    (state.say (.hytMin (settings.withdrawMinHYT / 1000)), [])
  else (state, [.isBanTransport request])

/-- After `isBanTransport`. -/
def launchAllowed (settings : Settings) (request : LaunchRequest) (banned : Bool)
    (state : State) : State × List Task :=
  if banned then (state.say .chainBanTransport, [])
  else if state.chainId ≤ 0 then (state.say .noBindWallet, [])
  else if !settings.validChain state.chainId then (state.say .chainIdNotExist, [])
  else if request.mit ≤ 0 ∧ request.hyt ≤ 0 ∧ request.entityNfts = [] ∧ request.itemNfts = [] then
    (state.say .argErr, [])
  else (state, [.getChainBridgeNeedShip request])

/-- After `getChainBridgeNeedShip`. -/
def launchShip (settings : Settings) (request : LaunchRequest) (needed : Bool)
    (vipReduce buildReduce : ℤ) (state : State) : State × List Task :=
  let cooldown := max (settings.withdrawCD - vipReduce - buildReduce) 0
  if needed ∧ ¬ (state.bags .warShipBag).any (0 < ·.chain) then (state.say .ownNftWarship, [])
  else if request.tokens ∧ 0 < state.getLaunchLess cooldown then
    (state.say (.chainCooling (state.getLaunchLess cooldown)), [])
  else (state, [.getWalletAddress request cooldown])

/-- The checks of the resources after `getWalletAddressByAccount`. -/
def resError (request : LaunchRequest) (state : State) : Option BridgeError :=
  if 0 < request.mit ∧ ¬ state.resBag.enoughRes .mit request.mit then some (.resNotEnough .mit)
  else if 0 < request.hyt ∧ request.hyt ≤ launchFee request.hyt then some .launchHytLessFee
  else if 0 < request.hyt ∧ ¬ state.resBag.enoughRes .carboxyl request.hyt then
    some (.resNotEnough .carboxyl)
  else none

/-- A withdrawal of tokens sets the tick. -/
def acceptLaunch (request : LaunchRequest) (cooldown : ℤ) (state : State) : State :=
  if request.tokens then
    { state with
      lastLaunchTick := state.clock
      accepted := ⟨state.clock, cooldown⟩ :: state.accepted }
  else state

/-- After `getWalletAddressByAccount`. -/
def launchWallet (request : LaunchRequest) (cooldown : ℤ) (found : Bool) (state : State) :
    State × List Task :=
  if !found then (state.say .noBindWallet, [])
  else
    match state.resError request with
    | some error => (state.say error, [])
    | none =>
        match request.entityNfts.findSome? state.launchError with
        | some error => (state.say error, [])
        | none =>
            (state.acceptLaunch request cooldown,
              [.genFlightId request
                (if 0 < request.hyt then launchFee request.hyt else 1000 * 1000)])

end State

def accept (request : Request) (state : State) : State × List Task :=
  match request with
  | .launchToBridge request => (state, [.getChainBridgeStatus request])
  | .second => ({ state with clock := state.clock + 1 }, [])

/-- An answer that a task does not wait for leaves it waiting. -/
def resume (settings : Settings) (task : Task) (reply : Reply) (state : State) :
    State × List Task :=
  match task, reply with
  | .insertToken launch token orderNum, .raise true =>
      (state.insertTokenOrder launch token orderNum, [])
  | .incrFeeForLp launch, .raise true => (state.bookFeeForLp launch, [])
  | .insertNFT launch checked orderNum, .raise true =>
      (state.insertNFTOrder launch checked orderNum, [])
  | .insertRecord record, .raise true => ({ state with records := record :: state.records }, [])
  | _, .raise _ => (state, [])
  | .getChainBridgeStatus request, .status opened => state.launchOpened settings request opened
  | .isBanTransport request, .ban banned => state.launchAllowed settings request banned
  | .getChainBridgeNeedShip request, .needShip needed vipReduce buildReduce =>
      state.launchShip settings request needed vipReduce buildReduce
  | .getWalletAddress request cooldown, .wallet found => state.launchWallet request cooldown found
  | .genFlightId request fee, .id number => state.launchMit ⟨request, fee, number⟩
  | .pvpRatio launch, .done =>
      ({ state with pvpJackpot := launch.request.hyt :: state.pvpJackpot }, [.starmapRatio launch])
  | .starmapRatio launch, .done =>
      ({ state with starmapJackpot := launch.request.hyt :: state.starmapJackpot },
        [.genTokenOrder launch .hyt])
  | .genTokenOrder launch token, .id number => (state, [.insertToken launch token number])
  | .insertToken launch token orderNum, .done =>
      (state.insertTokenOrder launch token orderNum).launchInserted launch token
  | .incrFeeForLp launch, .done => (state.bookFeeForLp launch).launchNFTs launch
  | .syncNFTInfo launch checked rest, .done => state.checkNFTs launch checked rest
  | .genNFTOrder launch checked, .id number => (state, [.insertNFT launch checked number])
  | .insertNFT launch checked orderNum, .done =>
      ((state.insertNFTOrder launch checked orderNum).deleteNFTs checked,
        [.insertRecord (launch.record (some (checked.map Prod.fst)))])
  | .insertRecord record, .done => ({ state with records := record :: state.records }, [.synchInfo])
  | .synchInfo, .done => (state, [])
  | task, _ => (state, [task])

def withdrawService (settings : Settings) : Cooperative.Service State Request Task Reply where
  accept := accept
  resume := resume settings

/-- A player none of whose requests has been accepted yet, with nothing suspended. -/
def start (resBag : ResBag) (bags : EntityBag → List Entity) (useId : Option ℕ)
    (chainId lastLaunchTick clock : ℤ) : Cooperative.Config State Task where
  state :=
    { resBag := resBag
      bags := bags
      useId := useId
      chainId := chainId
      lastLaunchTick := lastLaunchTick
      clock := clock
      tokenOrders := []
      nftOrders := []
      records := []
      lpFees := []
      redisFeeForLp := 0
      pvpJackpot := []
      starmapJackpot := []
      accepted := []
      said := [] }
  waiting := []

end BasWar.ChainBridge.Withdraw
