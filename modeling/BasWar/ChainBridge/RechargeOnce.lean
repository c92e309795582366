import BasWar.ChainBridge.Recharge
import Mathlib

/-!
# Every recharge order is credited once

Token and pay orders are marked before their handlers call anything, NFT orders only after
`loadNFTInfo` and `syncNFTInfo`.  Two deliveries of one NFT order that overlap between the test and
the mark therefore create its entities twice.  Without such an overlap every order is credited
once, whatever the number and the interleaving of its deliveries.
-/

namespace BasWar.ChainBridge

open Cooperative

/-- A set of confirmed orders, with one document for each order number. -/
structure Orders where
  tokens : List TokenOrder
  pays : List PayOrder
  nfts : List NFTOrder
  tokens_nodup : (tokens.map TokenOrder.orderNum).Nodup
  pays_nodup : (pays.map PayOrder.orderId).Nodup
  nfts_nodup : (nfts.map NFTOrder.orderNum).Nodup

/-- A player with no order settled yet, and all orders confirmed. -/
def Orders.start (orders : Orders) (resBag : ResBag) (bags : EntityBag → List Entity)
    (items : List Item) : Config State Task where
  state :=
    { mgr :=
        { rechargeToken := orders.tokens.map (·, .confirm)
          rechargeNft := orders.nfts.map (·, .confirm)
          orderSettle := orders.pays.map (·, .confirm) }
      player :=
        { resBag := resBag
          rechargeToken := []
          payOrder := []
          rechargeNFT := []
          doubRecstat := []
          bags := bags
          items := items
          credits := []
          creations := []
          reports := [] } }
  waiting := []

/-- The credit is the one that its order asks for; a pay order may be doubled. -/
def Credit.For (orders : Orders) (credit : Credit) : Prop :=
  (∃ order ∈ orders.tokens, credit.key = .token order.orderNum ∧
    order.token.res? = some credit.res ∧ credit.value = order.value) ∨
  ∃ order ∈ orders.pays, credit.key = .pay order.orderId ∧ credit.res = .tesseract ∧
    (credit.value = order.value ∨ credit.value = order.value * doubleRechargeValue)

namespace Player

def timesCredited (player : Player) (key : OrderKey) : ℕ :=
  player.credits.countP (·.key = key)

/-- Number of times an NFT was put in a bag as a new entity or item. -/
def timesCreated (player : Player) (tokenId : ℕ) : ℕ :=
  player.creations.countP (·.tokenId = tokenId)

def heldIds (player : Player) : List ℕ :=
  entityIds (player.bags .warShipBag) ++ entityIds (player.bags .heroBag) ++
    entityIds (player.bags .buildBag) ++ player.items.map Item.id

def credited (player : Player) (res : Res) : ℤ :=
  ((player.credits.filter (·.res = res)).map Credit.value).sum

end Player

def Task.paying : Task → Option ℕ
  | .rebateToInviter data => some data.orderId
  | .productRewards data => some data.orderId
  | _ => none

/-- The NFT that a suspended `dealRechargeNFT` works on. -/
def Task.worksOn : Task → Option ℕ
  | .loadNFTInfo job => some job.tokenId
  | .isNewGet job => some job.tokenId
  | .syncNFTInfo job => some job.tokenId
  | _ => none

/-- Every order is credited once, and every NFT is created once and replaces nothing. -/
structure RechargedOnce (orders : Orders) (before : ResBag) (config : Config State Task) :
    Prop where
  token_once : ∀ order ∈ orders.tokens,
    config.state.player.timesCredited (.token order.orderNum) ≤ 1
  token_settled : ∀ order, (order, OrderState.success) ∈ config.state.mgr.rechargeToken →
    config.state.player.timesCredited (.token order.orderNum) = 1
  pay_once : ∀ order ∈ orders.pays, config.state.player.timesCredited (.pay order.orderId) ≤ 1
  pay_settled : ∀ order, (order, OrderState.success) ∈ config.state.mgr.orderSettle →
    (∀ task ∈ config.waiting, task.paying ≠ some order.orderId) →
      config.state.player.timesCredited (.pay order.orderId) = 1
  credit_for : ∀ credit ∈ config.state.player.credits, credit.For orders
  balances : ∀ res, config.state.player.resBag.getRes res =
    before.getRes res + config.state.player.credited res
  nft_once : ∀ tokenId, config.state.player.timesCreated tokenId ≤ 1
  nft_settled : ∀ order, (order, OrderState.success) ∈ config.state.mgr.rechargeNft →
    ∀ tokenId ∈ order.tokenIds, config.state.player.timesCreated tokenId = 1
  no_replacement : ∀ creation ∈ config.state.player.creations, creation.replaced = false
  reported : ∀ report ∈ config.state.player.reports, ∀ tokenId ∈ report.successIds,
    config.state.player.timesCreated tokenId = 1 ∧ tokenId ∈ config.state.player.heldIds

private local instance lawfulMark : LawfulBEq (ℕ × ℕ) := inferInstance

/-- The token id that the loop of `dealRechargeNFT` stops at. -/
def nextToken (marks : List (ℕ × ℕ)) (orderNum : ℕ) (tokenIds : List ℕ) : Option ℕ :=
  tokenIds.find? fun tokenId => (orderNum, tokenId) ∉ marks

/-- The loop turns only to a token id that no bag holds and no other delivery works on. -/
def TurnsFree (player : Player) (others : List Task) (marks : List (ℕ × ℕ)) (orderNum : ℕ)
    (tokenIds : List ℕ) : Prop :=
  ∀ tokenId ∈ nextToken marks orderNum tokenIds,
    tokenId ∉ player.heldIds ∧ ∀ other ∈ others, other.worksOn ≠ some tokenId
  deriving Decidable

/-- The record of an NFT is there and the tables know what to make of it. -/
def Loadable (tables : NFTTables) : Option NFTInfo → Prop
  | none => False
  | some info =>
      match info.kind with
      | .spaceship =>
          tables.getNFTCfg .warShipBag info.race info.style info.quality info.level ≠ none
      | .hero => tables.getNFTCfg .heroBag info.race info.style info.quality info.level ≠ none
      | .defensive =>
          tables.getNFTCfg .buildBag info.race info.style info.quality info.level ≠ none
      | .itemNft => tables.getItemMaxNum info.cfgId = some 1
      | .itemArtifact => tables.getItemMaxNum info.cfgId = some 1
      | .other => False

/-- Known tokens and channels, positive amounts, no failing call inside a pay order, loadable NFTs,
and no two deliveries that overlap on one NFT. -/
def rechargeGuard (tables : NFTTables) : Guard State Request Task Reply where
  onRequest _ _ _ := True
  onReply task reply state others :=
    match task, reply with
    | .dealRechargeToken data, .done _ => data.token ≠ .other ∧ 0 < data.value
    | .dealPayOrder data, .done _ => data.payChannel ≠ .other ∧ 0 < data.value
    | .rebateToInviter _, .raise => False
    | .productRewards _, .raise => False
    | .dealRechargeNFT data, .done _ =>
        TurnsFree state.player others state.player.rechargeNFT data.orderNum data.tokenIds
    | .loadNFTInfo job, .nftInfo info _ =>
        Loadable tables info ∧ ((∃ doc ∈ info, doc.kind.isItem) →
          TurnsFree state.player others
            ((job.orderNum, job.tokenId) :: state.player.rechargeNFT) job.orderNum job.rest)
    | .syncNFTInfo job, .done _ =>
        TurnsFree state.player others
          ((job.orderNum, job.tokenId) :: state.player.rechargeNFT) job.orderNum job.rest
    | _, _ => True

instance (tables : NFTTables) : ∀ info, Decidable (Loadable tables info)
  | none => isFalse id
  | some info => by
      unfold Loadable
      dsimp only
      split <;> infer_instance

instance (tables : NFTTables) (request state others) :
    Decidable ((rechargeGuard tables).onRequest request state others) :=
  inferInstanceAs (Decidable True)

instance (tables : NFTTables) (task reply state others) :
    Decidable ((rechargeGuard tables).onReply task reply state others) := by
  unfold rechargeGuard
  dsimp only
  split <;> infer_instance

/-! ## Credits -/

namespace Player

variable {value : ℤ} {player : Player}

theorem timesCredited_addRes (player : Player) (key : OrderKey) (res : Res) (value_pos : 0 < value)
    (other : OrderKey) :
    (player.addRes key res value).timesCredited other =
      player.timesCredited other + if key = other then 1 else 0 := by
  simp [timesCredited, addRes, not_le.mpr value_pos, List.countP_cons]

/-- Every credit is owed to an order and the balances are the credits. -/
structure Books (orders : Orders) (before : ResBag) (player : Player) : Prop where
  credit_for : ∀ credit ∈ player.credits, credit.For orders
  balances : ∀ res, player.resBag.getRes res = before.getRes res + player.credited res

theorem Books.addRes {orders : Orders} {before : ResBag} (books : player.Books orders before)
    {key : OrderKey} {res : Res} (value_pos : 0 < value)
    (owed : Credit.For orders ⟨key, res, value⟩) :
    (player.addRes key res value).Books orders before where
  credit_for := by
    simpa [Player.addRes, not_le.mpr value_pos] using ⟨owed, books.credit_for⟩
  balances other := by
    have credited_eq : (player.addRes key res value).credited other =
        player.credited other + if other = res then value else 0 := by
      by_cases same : res = other
      · simp [credited, Player.addRes, not_le.mpr value_pos, same, add_comm]
      · simp [credited, Player.addRes, not_le.mpr value_pos, same, Ne.symm same]
    rw [credited_eq, ← add_assoc, ← books.balances other]
    exact player.resBag.getRes_addRes res other value_pos

/-- Each settled token order was credited once, and no other. -/
def TokenMarks (player : Player) : Prop :=
  ∀ orderNum, player.timesCredited (.token orderNum) =
    if orderNum ∈ player.rechargeToken then 1 else 0

theorem TokenMarks.addRes_pay (marks : player.TokenMarks) (orderId : ℕ) (res : Res)
    (value_pos : 0 < value) : (player.addRes (.pay orderId) res value).TokenMarks := by
  intro orderNum
  rw [timesCredited_addRes player _ res value_pos, if_neg (by simp), add_zero]
  exact marks orderNum

theorem dealRechargeToken_eq (player : Player) {data : TokenOrder} {res : Res}
    (res_eq : data.token.res? = some res) :
    player.dealRechargeToken data =
      (if data.orderNum ∈ player.rechargeToken then player
        else ({ player with rechargeToken := data.orderNum :: player.rechargeToken }).addRes
          (.token data.orderNum) res data.value, [.rechargeTokenFinish data.orderNum]) := by
  cases token_eq : data.token <;>
    simp only [token_eq, Token.res?, Option.some.injEq, reduceCtorEq] at res_eq <;>
    subst res_eq <;> simp [dealRechargeToken, token_eq]

theorem TokenMarks.dealRechargeToken (marks : player.TokenMarks) {data : TokenOrder}
    (known : data.token ≠ .other) (value_pos : 0 < data.value) :
    (player.dealRechargeToken data).1.TokenMarks ∧
      data.orderNum ∈ (player.dealRechargeToken data).1.rechargeToken := by
  obtain ⟨res, res_eq⟩ : ∃ res, data.token.res? = some res := by
    cases token_eq : data.token <;> simp [Token.res?, token_eq] at known ⊢
  rw [dealRechargeToken_eq player res_eq]
  dsimp only
  split
  next settled => exact ⟨marks, settled⟩
  next fresh =>
    refine ⟨fun orderNum => ?_, by simp [addRes]⟩
    rw [timesCredited_addRes _ _ res value_pos]
    have unchanged : timesCredited
        { player with rechargeToken := data.orderNum :: player.rechargeToken } (.token orderNum) =
          if orderNum ∈ player.rechargeToken then 1 else 0 := marks orderNum
    rw [unchanged]
    by_cases same : data.orderNum = orderNum
    · subst same
      simp [addRes, fresh]
    · simp [addRes, same, Ne.symm same]

end Player

/-! ## NFTs -/

namespace Player

/-- The NFT was put in a bag once and is still there. -/
def Has (player : Player) (tokenId : ℕ) : Prop :=
  player.timesCreated tokenId = 1 ∧ tokenId ∈ player.heldIds

/-- The NFT was never put in a bag and none holds its id. -/
def Lacks (player : Player) (tokenId : ℕ) : Prop :=
  player.timesCreated tokenId = 0 ∧ tokenId ∉ player.heldIds

/-- No NFT was created twice or replaced anything, and marks and reports tell the truth. -/
structure NFTBooks (player : Player) : Prop where
  once : ∀ tokenId, player.timesCreated tokenId ≤ 1
  created_held : ∀ creation ∈ player.creations, creation.tokenId ∈ player.heldIds
  no_replacement : ∀ creation ∈ player.creations, creation.replaced = false
  marked : ∀ pair ∈ player.rechargeNFT, player.Has pair.2
  reported : ∀ report ∈ player.reports, ∀ tokenId ∈ report.successIds, player.Has tokenId

variable {tokenId : ℕ} {after : Player}

theorem NFTBooks.lacks {player : Player} (books : player.NFTBooks)
    (not_held : tokenId ∉ player.heldIds) : player.Lacks tokenId := by
  refine ⟨List.countP_eq_zero.mpr fun creation creation_mem same => not_held ?_, not_held⟩
  have id_eq : creation.tokenId = tokenId := by simpa using same
  exact id_eq ▸ books.created_held creation creation_mem

/-- The second player has the bags of the first, with one NFT more. -/
structure Gained (before after : Player) (tokenId : ℕ) : Prop where
  creations : after.creations = ⟨tokenId, false⟩ :: before.creations
  held : ∀ id, id ∈ after.heldIds ↔ id = tokenId ∨ id ∈ before.heldIds
  rechargeNFT : after.rechargeNFT = before.rechargeNFT
  reports : after.reports = before.reports
  credits : after.credits = before.credits
  resBag : after.resBag = before.resBag
  rechargeToken : after.rechargeToken = before.rechargeToken
  payOrder : after.payOrder = before.payOrder

section

variable {before : Player} (gained : before.Gained after tokenId)
include gained

theorem Gained.timesCreated (id : ℕ) :
    after.timesCreated id = before.timesCreated id + if tokenId = id then 1 else 0 := by
  simp [Player.timesCreated, gained.creations, List.countP_cons]

theorem Gained.has_self (lacks : before.Lacks tokenId) : after.Has tokenId := by
  refine ⟨?_, (gained.held tokenId).mpr (.inl rfl)⟩
  rw [gained.timesCreated, lacks.1, if_pos rfl]

theorem Gained.has {id : ℕ} (lacks : before.Lacks tokenId) (has : before.Has id) :
    after.Has id := by
  have different : tokenId ≠ id := by
    rintro rfl
    exact lacks.2 has.2
  refine ⟨?_, (gained.held id).mpr (.inr has.2)⟩
  rw [gained.timesCreated, has.1, if_neg different]

theorem Gained.lacks {id : ℕ} (different : tokenId ≠ id)
    (lacks : before.Lacks id) : after.Lacks id := by
  refine ⟨?_, fun held => ?_⟩
  · rw [gained.timesCreated, lacks.1, if_neg different]
  · rcases (gained.held id).mp held with same | old
    · exact different same.symm
    · exact lacks.2 old

theorem Gained.books (lacks : before.Lacks tokenId) (books : before.NFTBooks) :
    after.NFTBooks where
  once id := by
    rw [gained.timesCreated]
    split
    next same => rw [← same, lacks.1]
    next different => exact books.once id
  created_held creation creation_mem := by
    rw [gained.creations] at creation_mem
    rw [gained.held]
    rcases List.mem_cons.mp creation_mem with rfl | old
    · exact .inl rfl
    · exact .inr (books.created_held creation old)
  no_replacement creation creation_mem := by
    rw [gained.creations] at creation_mem
    rcases List.mem_cons.mp creation_mem with rfl | old
    · rfl
    · exact books.no_replacement creation old
  marked pair pair_mem :=
    gained.has lacks (books.marked pair (gained.rechargeNFT ▸ pair_mem))
  reported report report_mem id id_mem :=
    gained.has lacks (books.reported report (gained.reports ▸ report_mem) id id_mem)

end

theorem mem_heldIds (player : Player) (id : ℕ) :
    id ∈ player.heldIds ↔
      (∃ bag, id ∈ entityIds (player.bags bag)) ∨ id ∈ player.items.map Item.id := by
  simp only [heldIds, List.mem_append]
  constructor
  · rintro (((ship | hero) | build) | item)
    · exact .inl ⟨_, ship⟩
    · exact .inl ⟨_, hero⟩
    · exact .inl ⟨_, build⟩
    · exact .inr item
  · rintro (⟨bag, in_bag⟩ | item)
    · cases bag <;> simp [in_bag]
    · exact .inr item

theorem gained_addEntity (player : Player) (bag : EntityBag) (entity : Entity)
    (lacks : player.Lacks entity.id) :
    player.Gained (player.addEntity bag entity) entity.id where
  creations := by
    have not_in_bag : entity.id ∉ entityIds (player.bags bag) := fun in_bag =>
      lacks.2 ((player.mem_heldIds _).mpr (.inl ⟨bag, in_bag⟩))
    simp [addEntity, not_in_bag]
  held id := by
    simp only [mem_heldIds, addEntity, or_assoc.symm]
    refine or_congr ⟨?_, ?_⟩ Iff.rfl
    · rintro ⟨other, in_bag⟩
      by_cases same : other = bag
      · subst same
        rw [Function.update_self, mem_entityIds_putEntity] at in_bag
        exact in_bag.imp_right fun old => ⟨_, old⟩
      · rw [Function.update_of_ne same] at in_bag
        exact .inr ⟨other, in_bag⟩
    · rintro (rfl | ⟨other, in_bag⟩)
      · exact ⟨bag, by simp⟩
      · refine ⟨other, ?_⟩
        by_cases same : other = bag
        · subst same
          simp [in_bag]
        · rwa [Function.update_of_ne same]
  rechargeNFT := rfl
  reports := rfl
  credits := rfl
  resBag := rfl
  rechargeToken := rfl
  payOrder := rfl

theorem overlayItem_one (cfgId : ℕ) (items : List Item) : overlayItem cfgId 1 items = none := by
  induction items with
  | nil => rfl
  | cons item items ih =>
      have full : ¬ (item.cfgId = cfgId ∧ item.num < ((1 : ℕ+) : ℕ)) := by
        rintro ⟨-, below⟩
        have num_pos := item.num_pos
        rw [PNat.one_coe] at below
        omega
      rw [overlayItem, if_neg full, ih]
      rfl

theorem gained_addItem (tables : NFTTables) (player : Player) {cfgId : ℕ}
    (single : tables.getItemMaxNum cfgId = some 1) (lacks : player.Lacks tokenId) :
    ∃ after, player.addItem tables cfgId tokenId = (after, true) ∧
      player.Gained after tokenId := by
  have not_item : tokenId ∉ player.items.map Item.id := fun item =>
    lacks.2 ((player.mem_heldIds _).mpr (.inr item))
  refine ⟨_, by rw [addItem, single]; dsimp only; rw [overlayItem_one, if_neg not_item], ?_⟩
  refine ⟨rfl, fun id => ?_, rfl, rfl, rfl, rfl, rfl, rfl⟩
  simp only [mem_heldIds, List.map_cons, List.mem_cons]
  tauto

end Player

/-! ## Order documents -/

theorem map_updateState {Order : Type} (same : Order → Bool) (docs : List (Order × OrderState)) :
    (updateState same docs).map Prod.fst = docs.map Prod.fst := by
  induction docs with
  | nil => rfl
  | cons doc docs ih =>
      rw [updateState]
      split <;> simp [ih]

theorem success_of_mem_updateState {Order : Type} {same : Order → Bool}
    {docs : List (Order × OrderState)} {order : Order}
    (settled : (order, OrderState.success) ∈ updateState same docs) :
    (order, OrderState.success) ∈ docs ∨ same order := by
  induction docs with
  | nil => simp [updateState] at settled
  | cons doc docs ih =>
      rw [updateState] at settled
      split at settled
      next matched =>
        rcases List.mem_cons.mp settled with here | later
        · have order_eq : order = doc.1 := congrArg Prod.fst here
          exact .inr (order_eq ▸ matched)
        · exact .inl (List.mem_cons_of_mem _ later)
      next unmatched =>
        rcases List.mem_cons.mp settled with here | later
        · exact .inl (here ▸ List.mem_cons_self)
        · exact (ih later).imp_left (List.mem_cons_of_mem _)

theorem mem_of_mem_confirmed {Order : Type} {docs : List (Order × OrderState)} {order : Order}
    (order_mem : order ∈ confirmed docs) : order ∈ docs.map Prod.fst := by
  obtain ⟨doc, doc_mem, rfl⟩ := List.mem_map.mp order_mem
  exact List.mem_map_of_mem (List.mem_of_mem_filter (List.mem_of_mem_take doc_mem))

/-- The documents are those of the orders, and a settled order carries its marks. -/
structure RechargeMgr.Sound (orders : Orders) (player : Player) (mgr : RechargeMgr) : Prop where
  token_docs : mgr.rechargeToken.map Prod.fst = orders.tokens
  nft_docs : mgr.rechargeNft.map Prod.fst = orders.nfts
  pay_docs : mgr.orderSettle.map Prod.fst = orders.pays
  token_success : ∀ order, (order, OrderState.success) ∈ mgr.rechargeToken →
    order.orderNum ∈ player.rechargeToken
  nft_success : ∀ order, (order, OrderState.success) ∈ mgr.rechargeNft →
    ∀ tokenId ∈ order.tokenIds, (order.orderNum, tokenId) ∈ player.rechargeNFT
  pay_success : ∀ order, (order, OrderState.success) ∈ mgr.orderSettle →
    order.orderId ∈ player.payOrder

/-- Marks and created NFTs are never taken back. -/
structure Player.Later (before after : Player) : Prop where
  rechargeToken : before.rechargeToken ⊆ after.rechargeToken
  payOrder : before.payOrder ⊆ after.payOrder
  rechargeNFT : before.rechargeNFT ⊆ after.rechargeNFT
  has : ∀ tokenId, before.Has tokenId → after.Has tokenId

variable {after : Player}

theorem RechargeMgr.Sound.later {orders : Orders} {before : Player} {mgr : RechargeMgr}
    (sound : mgr.Sound orders before) (later : before.Later after) : mgr.Sound orders after where
  token_docs := sound.token_docs
  nft_docs := sound.nft_docs
  pay_docs := sound.pay_docs
  token_success order settled := later.rechargeToken (sound.token_success order settled)
  nft_success order settled id id_mem :=
    later.rechargeNFT (sound.nft_success order settled id id_mem)
  pay_success order settled := later.payOrder (sound.pay_success order settled)

/-- The tokens of the order are settled, being worked on, or still to come. -/
structure NFTJob.Sound (orders : Orders) (player : Player) (job : NFTJob) : Prop where
  covers : ∀ order ∈ orders.nfts, order.orderNum = job.orderNum → ∀ tokenId ∈ order.tokenIds,
    (job.orderNum, tokenId) ∈ player.rechargeNFT ∨ tokenId = job.tokenId ∨ tokenId ∈ job.rest
  succeeded : ∀ tokenId ∈ job.successIds, player.Has tokenId

/-- A pay order in work is one of the orders, doubled or not. -/
def PayOrder.Of (orders : Orders) (data : PayOrder) : Prop :=
  0 < data.value ∧ ∃ order ∈ orders.pays, data.orderId = order.orderId ∧
    (data.value = order.value ∨ data.value = order.value * doubleRechargeValue)

def Task.Sound (orders : Orders) (player : Player) : Task → Prop
  | .dealRechargeToken data => data ∈ orders.tokens
  | .dealPayOrder data => data ∈ orders.pays
  | .dealRechargeNFT data => data ∈ orders.nfts
  | .rebateToInviter data =>
      (0 < data.value ∧ data ∈ orders.pays) ∧ data.orderId ∈ player.payOrder
  | .productRewards data => data.Of orders ∧ data.orderId ∈ player.payOrder
  | .loadNFTInfo job => job.Sound orders player ∧ player.Lacks job.tokenId
  | .isNewGet job => job.Sound orders player ∧ player.Has job.tokenId
  | .syncNFTInfo job => job.Sound orders player ∧ player.Has job.tokenId
  | .rechargeTokenFinish orderNum => orderNum ∈ player.rechargeToken
  | .payOrderFinish orderId => orderId ∈ player.payOrder
  | .rechargeNFTFinish report => ∀ order ∈ orders.nfts, order.orderNum = report.orderNum →
      ∀ tokenId ∈ order.tokenIds, (order.orderNum, tokenId) ∈ player.rechargeNFT

/-- What holds of the orders and the player between any two segments. -/
structure State.Sound (orders : Orders) (before : ResBag) (state : State) : Prop where
  mgr : state.mgr.Sound orders state.player
  tokenMarks : state.player.TokenMarks
  books : state.player.Books orders before
  nftBooks : state.player.NFTBooks

def rechargePool (orders : Orders) (before : ResBag) : Pool State Task where
  shared := State.Sound orders before
  own state task := task.Sound orders state.player
  apart first second := ∀ tokenId, first.worksOn = some tokenId → second.worksOn ≠ some tokenId
  apart_symm apart tokenId second_eq first_eq := apart tokenId first_eq second_eq

theorem NFTJob.Sound.later {orders : Orders} {before : Player} {job : NFTJob}
    (sound : job.Sound orders before) (later : before.Later after) : job.Sound orders after where
  covers order order_mem same id id_mem :=
    (sound.covers order order_mem same id id_mem).imp_left fun marked => later.rechargeNFT marked
  succeeded id id_mem := later.has id (sound.succeeded id id_mem)

theorem Task.Sound.later {orders : Orders} {before : Player} {task : Task}
    (sound : task.Sound orders before) (later : before.Later after)
    (lacks : ∀ tokenId, task.worksOn = some tokenId → before.Lacks tokenId → after.Lacks tokenId) :
    task.Sound orders after := by
  cases task with
  | dealRechargeToken data => exact sound
  | dealPayOrder data => exact sound
  | dealRechargeNFT data => exact sound
  | rebateToInviter data => exact ⟨sound.1, later.payOrder sound.2⟩
  | productRewards data => exact ⟨sound.1, later.payOrder sound.2⟩
  | loadNFTInfo job => exact ⟨sound.1.later later, lacks job.tokenId rfl sound.2⟩
  | isNewGet job => exact ⟨sound.1.later later, later.has _ sound.2⟩
  | syncNFTInfo job => exact ⟨sound.1.later later, later.has _ sound.2⟩
  | rechargeTokenFinish orderNum => exact later.rechargeToken sound
  | payOrderFinish orderId => exact later.payOrder sound
  | rechargeNFTFinish report =>
      exact fun order order_mem same id id_mem =>
        later.rechargeNFT (sound order order_mem same id id_mem)

section Segments

variable {orders : Orders} {before : ResBag} {state : State} {others : List Task}

variable {player : Player} {tokenId : ℕ} {job : NFTJob} {mgr : RechargeMgr}

section

variable (holds : (rechargePool orders before).Holds ⟨state, others⟩)
include holds

theorem holds_withPlayer (later : state.player.Later player) (tokenMarks : player.TokenMarks)
    (books : player.Books orders before) (nftBooks : player.NFTBooks)
    (lacks : ∀ other ∈ others, ∀ tokenId, other.worksOn = some tokenId →
      state.player.Lacks tokenId → player.Lacks tokenId) :
    (rechargePool orders before).Holds ⟨{ state with player := player }, others⟩ where
  shared := ⟨holds.shared.mgr.later later, tokenMarks, books, nftBooks⟩
  own other other_mem :=
    Task.Sound.later (holds.own other other_mem) later (lacks other other_mem)
  apart := holds.apart

theorem keeps_single {task : Task} (sound : task.Sound orders state.player)
    (works_on : task.worksOn = none) :
    (rechargePool orders before).Keeps others (state, [task]) where
  shared := holds.shared
  stable := holds.own
  fresh fresh fresh_mem := by
    rw [List.mem_singleton.mp fresh_mem]
    exact sound
  apart other _ fresh fresh_mem tokenId _ := by
    rw [List.mem_singleton.mp fresh_mem, works_on]
    simp
  fresh_apart := List.pairwise_singleton _ _

theorem keeps_messages {Order : Type} (sent : List Order) (message : Order → Task)
    (sound : ∀ order ∈ sent, (message order).Sound orders state.player)
    (works_on : ∀ order, (message order).worksOn = none) :
    (rechargePool orders before).Keeps others (state, sent.map message) where
  shared := holds.shared
  stable := holds.own
  fresh task task_mem := by
    obtain ⟨order, order_mem, rfl⟩ := List.mem_map.mp task_mem
    exact sound order order_mem
  apart other _ task task_mem tokenId _ := by
    obtain ⟨order, -, rfl⟩ := List.mem_map.mp task_mem
    simp [works_on]
  fresh_apart := List.pairwise_map.mpr (List.pairwise_of_forall fun first second tokenId works => by
    simp [works_on] at works)

theorem keeps_working {task : Task} (works_on : task.worksOn = some tokenId)
    (sound : task.Sound orders state.player)
    (alone : ∀ other ∈ others, other.worksOn ≠ some tokenId) :
    (rechargePool orders before).Keeps others (state, [task]) where
  shared := holds.shared
  stable := holds.own
  fresh fresh fresh_mem := by
    rw [List.mem_singleton.mp fresh_mem]
    exact sound
  apart other other_mem fresh fresh_mem id other_works fresh_works := by
    rw [List.mem_singleton.mp fresh_mem, works_on] at fresh_works
    exact alone other other_mem (fresh_works ▸ other_works)
  fresh_apart := List.pairwise_singleton _ _

theorem keeps_dealRechargeToken {data : TokenOrder} (data_mem : data ∈ orders.tokens)
    (known : data.token ≠ .other) (value_pos : 0 < data.value) :
    (rechargePool orders before).Keeps others
      (state.withPlayer (state.player.dealRechargeToken data)) := by
  obtain ⟨res, res_eq⟩ : ∃ res, data.token.res? = some res := by
    cases token_eq : data.token <;> simp [Token.res?, token_eq] at known ⊢
  obtain ⟨marks, marked⟩ := holds.shared.tokenMarks.dealRechargeToken known value_pos
  have owed : Credit.For orders ⟨.token data.orderNum, res, data.value⟩ :=
    .inl ⟨data, data_mem, rfl, res_eq, rfl⟩
  rw [Player.dealRechargeToken_eq _ res_eq] at marks marked ⊢
  refine keeps_single (holds_withPlayer holds ?_ marks ?_ ?_ ?_) marked rfl
  · split
    · exact ⟨fun _ => id, fun _ => id, fun _ => id, fun _ => id⟩
    · exact ⟨List.subset_cons_self _ _, fun _ => id, fun _ => id, fun _ => id⟩
  · split
    · exact holds.shared.books
    · have marked_books : ({ state.player with
          rechargeToken := data.orderNum :: state.player.rechargeToken }).Books orders before :=
        ⟨holds.shared.books.credit_for, holds.shared.books.balances⟩
      exact marked_books.addRes value_pos owed
  · split
    · exact holds.shared.nftBooks
    · obtain ⟨once, created_held, no_replacement, marked, reported⟩ := holds.shared.nftBooks
      exact ⟨once, created_held, no_replacement, marked, reported⟩
  · intro other _ tokenId _ lacks
    split <;> exact lacks

theorem holds_setDoubleRe (productId : ProductId) (valid : Bool) :
    (rechargePool orders before).Holds
      ⟨{ state with player := (state.player.setDoubleRe productId valid).1 }, others⟩ := by
  obtain ⟨mgr, tokenMarks, ⟨credit_for, balances⟩, once, created_held, no_replacement, marked,
    reported⟩ := holds.shared
  rw [Player.setDoubleRe]
  split
  · exact holds_withPlayer holds ⟨fun _ => id, fun _ => id, fun _ => id, fun _ => id⟩ tokenMarks
      ⟨credit_for, balances⟩ ⟨once, created_held, no_replacement, marked, reported⟩
      fun _ _ _ _ lacks => lacks
  · exact holds

end

theorem setDoubleRe_payOrder (player : Player) (productId : ProductId) (valid : Bool) :
    (player.setDoubleRe productId valid).1.payOrder = player.payOrder := by
  rw [Player.setDoubleRe]
  split <;> rfl

section

variable (holds : (rechargePool orders before).Holds ⟨state, others⟩)
include holds

theorem keeps_payCredit {data : PayOrder} (data_of : data.Of orders)
    (marked : data.orderId ∈ state.player.payOrder) (activity : Activity) :
    (rechargePool orders before).Keeps others
      (state.withPlayer (state.player.payCredit data activity)) := by
  obtain ⟨value_pos, order, order_mem, id_eq, value_eq⟩ := data_of
  have owed : Credit.For orders ⟨.pay data.orderId, .tesseract, data.value⟩ :=
    .inr ⟨order, order_mem, by rw [id_eq], rfl, value_eq⟩
  have credited : (rechargePool orders before).Holds
      ⟨{ state with player := state.player.addRes (.pay data.orderId) .tesseract data.value },
        others⟩ := by
    obtain ⟨mgr, tokenMarks, books, once, created_held, no_replacement, marked, reported⟩ :=
      holds.shared
    exact holds_withPlayer holds ⟨fun _ => id, fun _ => id, fun _ => id, fun _ => id⟩
      (tokenMarks.addRes_pay _ _ value_pos) (books.addRes value_pos owed)
      ⟨once, created_held, no_replacement, marked, reported⟩ fun _ _ _ _ lacks => lacks
  refine keeps_single (holds_setDoubleRe credited data.productId activity.doubleRecharge) ?_ rfl
  rw [Task.Sound, setDoubleRe_payOrder]
  exact marked

theorem keeps_payRewards {data : PayOrder} (data_of : data.Of orders)
    (marked : data.orderId ∈ state.player.payOrder) (activity : Activity) :
    (rechargePool orders before).Keeps others
      (state.withPlayer (state.player.payRewards data activity)) := by
  rw [Player.payRewards]
  split
  · exact keeps_single holds ⟨data_of, marked⟩ rfl
  · exact keeps_payCredit holds data_of marked activity

theorem keeps_payRebated {data : PayOrder} (value_pos : 0 < data.value)
    (data_mem : data ∈ orders.pays) (marked : data.orderId ∈ state.player.payOrder)
    (activity : Activity) :
    (rechargePool orders before).Keeps others
      (state.withPlayer (state.player.payRebated data activity)) := by
  have doubled := holds_setDoubleRe holds data.productId activity.doubleRecharge
  have still_marked : data.orderId ∈
      (state.player.setDoubleRe data.productId activity.doubleRecharge).1.payOrder := by
    rwa [setDoubleRe_payOrder]
  rw [Player.payRebated]
  split
  next player result_eq =>
    rw [result_eq] at doubled still_marked
    have doubled_of :
        PayOrder.Of orders { data with value := data.value * doubleRechargeValue } :=
      ⟨Int.mul_pos value_pos (by decide), data, data_mem, rfl, .inr rfl⟩
    exact keeps_payRewards doubled doubled_of still_marked activity
  next player result_eq =>
    rw [result_eq] at doubled still_marked
    exact keeps_payRewards doubled ⟨value_pos, data, data_mem, rfl, .inl rfl⟩ still_marked activity

theorem keeps_dealPayOrder {data : PayOrder} (data_mem : data ∈ orders.pays)
    (known : data.payChannel ≠ .other) (value_pos : 0 < data.value) (activity : Activity) :
    (rechargePool orders before).Keeps others
      (state.withPlayer (state.player.dealPayOrder data activity)) := by
  rw [Player.dealPayOrder]
  split
  next settled => exact keeps_single holds settled rfl
  next fresh =>
    have marked : (rechargePool orders before).Holds
        ⟨{ state with player := { state.player with
            payOrder := data.orderId :: state.player.payOrder } }, others⟩ := by
      obtain ⟨mgr, tokenMarks, ⟨credit_for, balances⟩, once, created_held, no_replacement, marked,
        reported⟩ := holds.shared
      exact holds_withPlayer holds
        ⟨fun _ => id, List.subset_cons_self _ _, fun _ => id, fun _ => id⟩ tokenMarks
        ⟨credit_for, balances⟩ ⟨once, created_held, no_replacement, marked, reported⟩
        fun _ _ _ _ lacks => lacks
    dsimp only
    split
    next unknown => exact absurd unknown known
    next =>
      split
      · exact keeps_single marked ⟨⟨value_pos, data_mem⟩, List.mem_cons_self⟩ rfl
      · exact keeps_payRewards marked ⟨value_pos, data, data_mem, rfl, .inl rfl⟩
          List.mem_cons_self activity

end

theorem nextNFT_cases (player : Player) (orderNum : ℕ) (successIds failIds tokenIds : List ℕ) :
    ((∀ tokenId ∈ tokenIds, (orderNum, tokenId) ∈ player.rechargeNFT) ∧
      player.nextNFT orderNum successIds failIds tokenIds =
        ({ player with reports := ⟨orderNum, successIds, failIds⟩ :: player.reports },
          [.rechargeNFTFinish ⟨orderNum, successIds, failIds⟩])) ∨
    ∃ tokenId rest, nextToken player.rechargeNFT orderNum tokenIds = some tokenId ∧
      (∀ other ∈ tokenIds, (orderNum, other) ∈ player.rechargeNFT ∨ other = tokenId ∨
        other ∈ rest) ∧
      player.nextNFT orderNum successIds failIds tokenIds =
        (player, [.loadNFTInfo ⟨orderNum, tokenId, rest, successIds, failIds⟩]) := by
  induction tokenIds with
  | nil => exact .inl ⟨by simp, rfl⟩
  | cons tokenId rest ih =>
      by_cases marked : (orderNum, tokenId) ∈ player.rechargeNFT
      · rw [Player.nextNFT, if_pos marked]
        rcases ih with ⟨all_marked, result_eq⟩ | ⟨next, later, next_eq, covers, result_eq⟩
        · refine .inl ⟨?_, result_eq⟩
          simpa using ⟨marked, all_marked⟩
        · refine .inr ⟨next, later, ?_, ?_, result_eq⟩
          · simpa [nextToken, marked] using next_eq
          · simpa using ⟨.inl marked, covers⟩
      · rw [Player.nextNFT, if_neg marked]
        refine .inr ⟨tokenId, rest, by simp [nextToken, marked], fun other other_mem => ?_, rfl⟩
        exact .inr (List.mem_cons.mp other_mem)

section

variable (holds : (rechargePool orders before).Holds ⟨state, others⟩)
include holds

theorem keeps_nextNFT {orderNum : ℕ} {successIds failIds tokenIds : List ℕ}
    (covers : ∀ order ∈ orders.nfts, order.orderNum = orderNum → ∀ tokenId ∈ order.tokenIds,
      (orderNum, tokenId) ∈ state.player.rechargeNFT ∨ tokenId ∈ tokenIds)
    (succeeded : ∀ tokenId ∈ successIds, state.player.Has tokenId)
    (turns : TurnsFree state.player others state.player.rechargeNFT orderNum tokenIds) :
    (rechargePool orders before).Keeps others
      (state.withPlayer (state.player.nextNFT orderNum successIds failIds tokenIds)) := by
  obtain ⟨mgr, tokenMarks, ⟨credit_for, balances⟩, nftBooks⟩ := holds.shared
  obtain ⟨once, created_held, no_replacement, marked, reported⟩ := nftBooks
  rcases nextNFT_cases state.player orderNum successIds failIds tokenIds with
    ⟨all_marked, result_eq⟩ | ⟨tokenId, rest, next_eq, later_covers, result_eq⟩
  · rw [result_eq]
    have reported_after : (rechargePool orders before).Holds
        ⟨{ state with player := { state.player with
            reports := ⟨orderNum, successIds, failIds⟩ :: state.player.reports } }, others⟩ := by
      refine holds_withPlayer holds ⟨fun _ => id, fun _ => id, fun _ => id, fun _ => id⟩
        tokenMarks ⟨credit_for, balances⟩ ⟨once, created_held, no_replacement, marked, ?_⟩
        fun _ _ _ _ lacks => lacks
      rintro report report_mem id id_mem
      rcases List.mem_cons.mp report_mem with rfl | old
      · exact succeeded id id_mem
      · exact reported report old id id_mem
    refine keeps_single reported_after ?_ rfl
    rintro order order_mem same id id_mem
    rw [same]
    rcases covers order order_mem same id id_mem with done | to_come
    · exact done
    · exact all_marked id to_come
  · obtain ⟨not_held, not_worked⟩ := turns tokenId next_eq
    rw [result_eq]
    refine keeps_working holds rfl ⟨⟨fun order order_mem same id id_mem => ?_, succeeded⟩,
      holds.shared.nftBooks.lacks not_held⟩ not_worked
    rcases covers order order_mem same id id_mem with done | to_come
    · exact .inl done
    · exact later_covers id to_come

theorem holds_marked (has : state.player.Has job.tokenId) :
    (rechargePool orders before).Holds
      ⟨{ state with player := { state.player with
          rechargeNFT := (job.orderNum, job.tokenId) :: state.player.rechargeNFT } },
        others⟩ := by
  obtain ⟨mgr, tokenMarks, ⟨credit_for, balances⟩, once, created_held, no_replacement, marked,
    reported⟩ := holds.shared
  refine holds_withPlayer holds
    ⟨fun _ => id, fun _ => id, List.subset_cons_self _ _, fun _ => id⟩ tokenMarks
    ⟨credit_for, balances⟩ ⟨once, created_held, no_replacement, ?_, reported⟩
    fun _ _ _ _ lacks => lacks
  rintro pair pair_mem
  rcases List.mem_cons.mp pair_mem with rfl | old
  · exact has
  · exact marked pair old

theorem keeps_succeedNFT (sound : job.Sound orders state.player)
    (has : state.player.Has job.tokenId)
    (turns : TurnsFree state.player others
      ((job.orderNum, job.tokenId) :: state.player.rechargeNFT) job.orderNum job.rest) :
    (rechargePool orders before).Keeps others
      (state.withPlayer (state.player.succeedNFT job)) := by
  refine keeps_nextNFT (holds_marked holds has) ?_ ?_ turns
  · intro order order_mem same id id_mem
    rcases sound.covers order order_mem same id id_mem with done | rfl | to_come
    · exact .inl (List.mem_cons_of_mem _ done)
    · exact .inl List.mem_cons_self
    · exact .inr to_come
  · intro id id_mem
    rcases List.mem_append.mp id_mem with old | new
    · exact sound.succeeded id old
    · rw [List.mem_singleton.mp new]
      exact has

end

theorem Gained.later {after : Player} (gained : player.Gained after tokenId)
    (lacks : player.Lacks tokenId) : player.Later after where
  rechargeToken := gained.rechargeToken ▸ fun _ => id
  payOrder := gained.payOrder ▸ fun _ => id
  rechargeNFT := gained.rechargeNFT ▸ fun _ => id
  has _ has := gained.has lacks has

theorem holds_gained (holds : (rechargePool orders before).Holds ⟨state, others⟩) {after : Player}
    (gained : state.player.Gained after tokenId) (lacks : state.player.Lacks tokenId)
    (alone : ∀ other ∈ others, other.worksOn ≠ some tokenId) :
    (rechargePool orders before).Holds ⟨{ state with player := after }, others⟩ := by
  refine holds_withPlayer holds (Gained.later gained lacks) ?_ ⟨?_, ?_⟩
    (gained.books lacks holds.shared.nftBooks) ?_
  · intro orderNum
    rw [Player.timesCredited, gained.credits, gained.rechargeToken]
    exact holds.shared.tokenMarks orderNum
  · rw [gained.credits]
    exact holds.shared.books.credit_for
  · intro res
    rw [Player.credited, gained.credits, gained.resBag]
    exact holds.shared.books.balances res
  · intro other other_mem id works lacks_id
    refine gained.lacks ?_ lacks_id
    rintro rfl
    exact alone other other_mem works

section

variable (tables : NFTTables) (holds : (rechargePool orders before).Holds ⟨state, others⟩)
include holds

theorem keeps_rechargeEntity {bag : EntityBag} {info : NFTInfo} (randomLife : ℤ)
    (found : tables.getNFTCfg bag info.race info.style info.quality info.level ≠ none)
    (sound : job.Sound orders state.player) (lacks : state.player.Lacks job.tokenId)
    (alone : ∀ other ∈ others, other.worksOn ≠ some job.tokenId) :
    (rechargePool orders before).Keeps others
      (state.withPlayer (state.player.rechargeEntity tables bag info randomLife job)) := by
  obtain ⟨cfgId, cfg_eq⟩ := Option.ne_none_iff_exists'.mp found
  obtain ⟨entity, entity_eq, id_eq⟩ : ∃ entity : Entity,
      Player.initialNFT tables bag info randomLife job.tokenId = some entity ∧
        entity.id = job.tokenId := by
    rw [Player.initialNFT, cfg_eq]
    exact ⟨_, rfl, rfl⟩
  have gained := state.player.gained_addEntity bag entity (id_eq ▸ lacks)
  rw [id_eq] at gained
  have holds_after := holds_gained holds gained lacks alone
  have sound_after := sound.later (Gained.later gained lacks)
  have has_after := gained.has_self lacks
  obtain ⟨task, result_eq, works_on, task_sound⟩ : ∃ task : Task,
      state.player.rechargeEntity tables bag info randomLife job =
        (state.player.addEntity bag entity, [task]) ∧ task.worksOn = some job.tokenId ∧
          task.Sound orders (state.player.addEntity bag entity) := by
    simp only [Player.rechargeEntity, entity_eq]
    cases bag <;> exact ⟨_, rfl, rfl, sound_after, has_after⟩
  rw [result_eq]
  exact keeps_working holds_after works_on task_sound alone

theorem keeps_rechargeItem {info : NFTInfo} (single : tables.getItemMaxNum info.cfgId = some 1)
    (sound : job.Sound orders state.player) (lacks : state.player.Lacks job.tokenId)
    (alone : ∀ other ∈ others, other.worksOn ≠ some job.tokenId)
    (turns : TurnsFree state.player others
      ((job.orderNum, job.tokenId) :: state.player.rechargeNFT) job.orderNum job.rest) :
    (rechargePool orders before).Keeps others
      (state.withPlayer (state.player.rechargeItem tables info job)) := by
  obtain ⟨after, add_eq, gained⟩ := state.player.gained_addItem tables single lacks
  rw [Player.rechargeItem, add_eq]
  refine keeps_succeedNFT (holds_gained holds gained lacks alone)
    (sound.later (Gained.later gained lacks)) (gained.has_self lacks) ?_
  rw [gained.rechargeNFT]
  intro tokenId next_eq
  obtain ⟨not_held, not_worked⟩ := turns tokenId next_eq
  refine ⟨fun held => ?_, not_worked⟩
  rcases (gained.held tokenId).mp held with rfl | old
  · simpa using List.find?_some next_eq
  · exact not_held old

theorem keeps_loadedNFT {info : Option NFTInfo} (randomLife : ℤ) (loadable : Loadable tables info)
    (sound : job.Sound orders state.player) (lacks : state.player.Lacks job.tokenId)
    (alone : ∀ other ∈ others, other.worksOn ≠ some job.tokenId)
    (turns : (∃ doc ∈ info, doc.kind.isItem) → TurnsFree state.player others
      ((job.orderNum, job.tokenId) :: state.player.rechargeNFT) job.orderNum job.rest) :
    (rechargePool orders before).Keeps others
      (state.withPlayer (state.player.loadedNFT tables job info randomLife)) := by
  cases info with
  | none => exact loadable.elim
  | some doc =>
      simp only [Loadable] at loadable
      simp only [Player.loadedNFT]
      cases kind_eq : doc.kind <;> simp only [kind_eq] at loadable ⊢
      case spaceship =>
        exact keeps_rechargeEntity tables holds randomLife loadable sound lacks alone
      case hero => exact keeps_rechargeEntity tables holds randomLife loadable sound lacks alone
      case defensive =>
        exact keeps_rechargeEntity tables holds randomLife loadable sound lacks alone
      case itemNft =>
        exact keeps_rechargeItem tables holds loadable sound lacks alone
          (turns ⟨doc, rfl, by simp [NFTKind.isItem, kind_eq]⟩)
      case itemArtifact =>
        exact keeps_rechargeItem tables holds loadable sound lacks alone
          (turns ⟨doc, rfl, by simp [NFTKind.isItem, kind_eq]⟩)

end

theorem keeps_withMgr (holds : (rechargePool orders before).Holds ⟨state, others⟩)
    (sound : mgr.Sound orders state.player) :
    (rechargePool orders before).Keeps others (state.withMgr mgr) where
  shared := ⟨sound, holds.shared.tokenMarks, holds.shared.books, holds.shared.nftBooks⟩
  stable := holds.own
  fresh := by simp [State.withMgr]
  apart := by simp [State.withMgr]
  fresh_apart := .nil

theorem sound_rechargeTokenFinish (sound : mgr.Sound orders player) {orderNum : ℕ}
    (marked : orderNum ∈ player.rechargeToken) :
    (mgr.rechargeTokenFinish orderNum).Sound orders player where
  token_docs := (map_updateState _ _).trans sound.token_docs
  nft_docs := sound.nft_docs
  pay_docs := sound.pay_docs
  token_success order settled := by
    rcases success_of_mem_updateState settled with old | same
    · exact sound.token_success order old
    · rwa [of_decide_eq_true same]
  nft_success := sound.nft_success
  pay_success := sound.pay_success

theorem sound_payOrderFinish (sound : mgr.Sound orders player) {orderId : ℕ}
    (marked : orderId ∈ player.payOrder) :
    (mgr.payOrderFinish orderId).Sound orders player where
  token_docs := sound.token_docs
  nft_docs := sound.nft_docs
  pay_docs := (map_updateState _ _).trans sound.pay_docs
  token_success := sound.token_success
  nft_success := sound.nft_success
  pay_success order settled := by
    rcases success_of_mem_updateState settled with old | same
    · exact sound.pay_success order old
    · rwa [of_decide_eq_true same]

theorem sound_rechargeNFTFinish (sound : mgr.Sound orders player) {report : NFTReport}
    (marked : ∀ order ∈ orders.nfts, order.orderNum = report.orderNum →
      ∀ tokenId ∈ order.tokenIds, (order.orderNum, tokenId) ∈ player.rechargeNFT) :
    (mgr.rechargeNFTFinish report).Sound orders player where
  token_docs := sound.token_docs
  nft_docs := (map_updateState _ _).trans sound.nft_docs
  pay_docs := sound.pay_docs
  token_success := sound.token_success
  nft_success order settled := by
    rcases success_of_mem_updateState settled with old | same
    · exact sound.nft_success order old
    · have order_mem : order ∈ orders.nfts := by
        rw [← sound.nft_docs, ← map_updateState (·.orderNum = report.orderNum)]
        exact List.mem_map_of_mem settled
      exact marked order order_mem (of_decide_eq_true same)
  pay_success := sound.pay_success

end Segments

theorem rechargePool_kept (tables : NFTTables) (orders : Orders) (before : ResBag) :
    (rechargePool orders before).KeptBy (rechargeService tables) (rechargeGuard tables) where
  accept request state others holds _ := by
    obtain ⟨token_docs, nft_docs, pay_docs, -, -, -⟩ := holds.shared.mgr
    cases request with
    | checkRechargeToken =>
        exact keeps_messages holds _ _ (fun order order_mem =>
          (token_docs ▸ mem_of_mem_confirmed order_mem : order ∈ orders.tokens)) fun _ => rfl
    | checkRechargeNFT =>
        exact keeps_messages holds _ _ (fun order order_mem =>
          (nft_docs ▸ mem_of_mem_confirmed order_mem : order ∈ orders.nfts)) fun _ => rfl
    | checkPayOrder =>
        exact keeps_messages holds _ _ (fun order order_mem =>
          (pay_docs ▸ mem_of_mem_confirmed order_mem : order ∈ orders.pays)) fun _ => rfl
  resume task reply state others holds own apart allowed := by
    have alone : ∀ tokenId, task.worksOn = some tokenId →
        ∀ other ∈ others, other.worksOn ≠ some tokenId :=
      fun tokenId works other other_mem => apart other other_mem tokenId works
    have waits : (rechargePool orders before).Keeps others (state, [task]) :=
      Pool.Keeps.unchanged holds own apart
    have ends : (rechargePool orders before).Keeps others (state, []) := Pool.Keeps.ended holds
    simp only [rechargeService]
    unfold resume
    split
    case h_1 data activity => exact keeps_dealRechargeToken holds own allowed.1 allowed.2
    case h_2 data activity => exact keeps_dealPayOrder holds own allowed.1 allowed.2 activity
    case h_3 data activity =>
      refine keeps_nextNFT holds (fun order order_mem same id id_mem => ?_) (by simp) allowed
      have order_eq : order = data :=
        List.inj_on_of_nodup_map orders.nfts_nodup order_mem own same
      exact .inr (order_eq ▸ id_mem)
    case h_4 data => exact ends
    case h_5 data activity => exact keeps_payRebated holds own.1.1 own.1.2 own.2 activity
    case h_6 data => exact ends
    case h_7 data activity => exact keeps_payCredit holds own.1 own.2 activity
    case h_8 job => exact ends
    case h_9 job info randomLife =>
      exact keeps_loadedNFT tables holds randomLife allowed.1 own.1 own.2 (alone _ rfl) allowed.2
    case h_10 job => exact ends
    case h_11 job activity =>
      exact keeps_working holds rfl own (alone _ rfl)
    case h_12 job => exact ends
    case h_13 job activity => exact keeps_succeedNFT holds own.1 own.2 allowed
    case h_14 orderNum activity =>
      exact keeps_withMgr holds (sound_rechargeTokenFinish holds.shared.mgr own)
    case h_15 orderId activity =>
      exact keeps_withMgr holds (sound_payOrderFinish holds.shared.mgr own)
    case h_16 report activity =>
      exact keeps_withMgr holds (sound_rechargeNFTFinish holds.shared.mgr own)
    case h_17 => exact waits

/-! ## Pay orders between mark and credit -/

/-- A settled pay order was credited or its handler still carries the credit. -/
def payLedger (orderId : ℕ) : Ledger State Task ℕ where
  book state := state.player.timesCredited (.pay orderId) +
    if orderId ∈ state.player.payOrder then 0 else 1
  carry task := if task.paying = some orderId then 1 else 0

/-- The credit that the handler of a pay order carries. -/
def PayOrder.carries (data : PayOrder) (orderId : ℕ) : ℕ :=
  if data.orderId = orderId then 1 else 0

theorem carry_rebateToInviter (data : PayOrder) (orderId : ℕ) :
    (payLedger orderId).carry (.rebateToInviter data) = data.carries orderId := by
  simp [payLedger, Task.paying, PayOrder.carries]

theorem carry_productRewards (data : PayOrder) (orderId : ℕ) :
    (payLedger orderId).carry (.productRewards data) = data.carries orderId := by
  simp [payLedger, Task.paying, PayOrder.carries]

structure NoPay (player : Player) (result : Player × List Task) : Prop where
  credits : ∀ orderId, result.1.timesCredited (.pay orderId) = player.timesCredited (.pay orderId)
  payOrder : result.1.payOrder = player.payOrder
  paying : ∀ task ∈ result.2, task.paying = none

theorem NoPay.balances {state : State} {result : Player × List Task}
    (noPay : NoPay state.player result) (orderId : ℕ) :
    (payLedger orderId).Balances state 0 (state.withPlayer result) := by
  have no_carry : ∀ task ∈ result.2, (payLedger orderId).carry task = 0 := by
    intro task task_mem
    simp [payLedger, noPay.paying task task_mem]
  have carried : (result.2.map (payLedger orderId).carry).sum = 0 :=
    List.sum_eq_zero (by simpa using no_carry)
  have booked : (payLedger orderId).book (state.withPlayer result).1 =
      (payLedger orderId).book state := by
    simp only [payLedger, State.withPlayer, noPay.credits, noPay.payOrder]
  rw [Ledger.Balances, booked, State.withPlayer]
  exact congrArg _ carried

theorem noPay_dealRechargeToken (player : Player) (data : TokenOrder) :
    NoPay player (player.dealRechargeToken data) := by
  refine ⟨fun orderId => ?_, ?_, by simp [Player.dealRechargeToken, Task.paying]⟩
  · simp only [Player.dealRechargeToken]
    split
    · rfl
    · cases data.token <;> simp only [Player.addRes, Player.timesCredited] <;> split <;> simp
  · simp only [Player.dealRechargeToken]
    split
    · rfl
    · cases data.token <;> rfl

theorem noPay_nextNFT {before player : Player} (credits : player.credits = before.credits)
    (payOrder : player.payOrder = before.payOrder) (orderNum : ℕ)
    (successIds failIds tokenIds : List ℕ) :
    NoPay before (player.nextNFT orderNum successIds failIds tokenIds) := by
  have credited : ∀ orderId, player.timesCredited (.pay orderId) =
      before.timesCredited (.pay orderId) := fun orderId => by
    simp only [Player.timesCredited, credits]
  rcases nextNFT_cases player orderNum successIds failIds tokenIds with
    ⟨-, result_eq⟩ | ⟨tokenId, rest, -, -, result_eq⟩
  · rw [result_eq]
    exact ⟨credited, payOrder, by simp [Task.paying]⟩
  · rw [result_eq]
    exact ⟨credited, payOrder, by simp [Task.paying]⟩

theorem noPay_succeedNFT {before player : Player} (credits : player.credits = before.credits)
    (payOrder : player.payOrder = before.payOrder) (job : NFTJob) :
    NoPay before (player.succeedNFT job) := by
  rw [Player.succeedNFT]
  apply noPay_nextNFT
  · exact credits
  · exact payOrder

theorem noPay_rechargeItem (tables : NFTTables) (info : NFTInfo) (job : NFTJob)
    (player : Player) : NoPay player (player.rechargeItem tables info job) := by
  have unchanged : (player.addItem tables info.cfgId job.tokenId).1.credits = player.credits ∧
      (player.addItem tables info.cfgId job.tokenId).1.payOrder = player.payOrder := by
    fun_cases Player.addItem tables info.cfgId job.tokenId player <;> exact ⟨rfl, rfl⟩
  rw [Player.rechargeItem]
  split
  next after result_eq =>
    obtain ⟨credits, payOrder⟩ := result_eq ▸ unchanged
    exact noPay_succeedNFT credits payOrder job
  next after result_eq =>
    obtain ⟨credits, payOrder⟩ := result_eq ▸ unchanged
    exact noPay_nextNFT credits payOrder _ _ _ _

theorem noPay_rechargeEntity (tables : NFTTables) (bag : EntityBag) (info : NFTInfo)
    (randomLife : ℤ) (job : NFTJob) (player : Player) :
    NoPay player (player.rechargeEntity tables bag info randomLife job) := by
  unfold Player.rechargeEntity
  split
  · exact noPay_nextNFT rfl rfl _ _ _ _
  · refine ⟨fun _ => rfl, rfl, ?_⟩
    cases bag <;> simp [Task.paying]

theorem noPay_loadedNFT (tables : NFTTables) (job : NFTJob) (info : Option NFTInfo)
    (randomLife : ℤ) (player : Player) :
    NoPay player (player.loadedNFT tables job info randomLife) := by
  cases info with
  | none => exact noPay_nextNFT rfl rfl _ _ _ _
  | some doc =>
      simp only [Player.loadedNFT]
      cases doc.kind with
      | spaceship => exact noPay_rechargeEntity tables _ doc randomLife job player
      | hero => exact noPay_rechargeEntity tables _ doc randomLife job player
      | defensive => exact noPay_rechargeEntity tables _ doc randomLife job player
      | itemNft => exact noPay_rechargeItem tables doc job player
      | itemArtifact => exact noPay_rechargeItem tables doc job player
      | other => exact noPay_nextNFT rfl rfl _ _ _ _

theorem timesCredited_setDoubleRe (player : Player) (productId : ProductId) (valid : Bool)
    (key : OrderKey) :
    (player.setDoubleRe productId valid).1.timesCredited key = player.timesCredited key := by
  rw [Player.setDoubleRe]
  split <;> rfl

section Pays

variable (state : State) (data : PayOrder) (orderId : ℕ)

theorem balances_payCredit (value_pos : 0 < data.value) (activity : Activity) :
    (payLedger orderId).Balances state (data.carries orderId)
      (state.withPlayer (state.player.payCredit data activity)) := by
  have credited := Player.timesCredited_addRes state.player (.pay data.orderId) .tesseract
    value_pos (.pay orderId)
  have marks : (state.player.addRes (.pay data.orderId) .tesseract data.value).payOrder =
    state.player.payOrder := rfl
  simp only [Ledger.Balances, payLedger, State.withPlayer, Player.payCredit,
    timesCredited_setDoubleRe, setDoubleRe_payOrder, credited, marks, OrderKey.pay.injEq]
  simp only [List.map_cons, List.map_nil, Task.paying, reduceCtorEq, if_false, List.sum_cons,
    List.sum_nil, PayOrder.carries]
  omega

theorem balances_payRewards (value_pos : 0 < data.value) (activity : Activity) :
    (payLedger orderId).Balances state (data.carries orderId)
      (state.withPlayer (state.player.payRewards data activity)) := by
  rw [Player.payRewards]
  split
  · simp [Ledger.Balances, State.withPlayer, carry_productRewards]
  · exact balances_payCredit state data orderId value_pos activity

theorem balances_payRebated (value_pos : 0 < data.value) (activity : Activity) :
    (payLedger orderId).Balances state (data.carries orderId)
      (state.withPlayer (state.player.payRebated data activity)) := by
  have booked : (payLedger orderId).book { state with
      player := (state.player.setDoubleRe data.productId activity.doubleRecharge).1 } =
        (payLedger orderId).book state := by
    simp only [payLedger, timesCredited_setDoubleRe, setDoubleRe_payOrder]
  rw [Player.payRebated]
  split
  next player result_eq =>
    have doubled_pos : 0 < data.value * doubleRechargeValue :=
      Int.mul_pos value_pos (by decide)
    rw [result_eq] at booked
    rw [Ledger.Balances, ← booked]
    exact balances_payRewards { state with player := player }
      { data with value := data.value * doubleRechargeValue } orderId doubled_pos activity
  next player result_eq =>
    rw [result_eq] at booked
    rw [Ledger.Balances, ← booked]
    exact balances_payRewards { state with player := player } data orderId value_pos activity

theorem balances_dealPayOrder (known : data.payChannel ≠ .other) (value_pos : 0 < data.value)
    (activity : Activity) :
    (payLedger orderId).Balances state 0
      (state.withPlayer (state.player.dealPayOrder data activity)) := by
  rw [Player.dealPayOrder]
  split
  next settled => simp [Ledger.Balances, payLedger, State.withPlayer, Task.paying]
  next fresh =>
    have marked : (payLedger orderId).book { state with player := { state.player with
        payOrder := data.orderId :: state.player.payOrder } } + data.carries orderId =
          (payLedger orderId).book state := by
      simp only [payLedger, Player.timesCredited, List.mem_cons, PayOrder.carries]
      by_cases same : data.orderId = orderId
      · subst same
        simp [fresh]
      · simp [same, Ne.symm same]
    dsimp only
    rw [Ledger.Balances, add_zero, ← marked]
    split
    next unknown => exact absurd unknown known
    next =>
      split
      · simp [State.withPlayer, carry_rebateToInviter]
      · exact balances_payRewards { state with player := { state.player with
          payOrder := data.orderId :: state.player.payOrder } } data orderId value_pos activity

end Pays

theorem payLedger_balanced (tables : NFTTables) (orders : Orders) (before : ResBag)
    (orderId : ℕ) :
    (payLedger orderId).BalancedBy (rechargePool orders before) (rechargeService tables)
      (rechargeGuard tables) where
  accept request state others _ _ := by
    cases request <;>
      simp [Ledger.Balances, rechargeService, accept, payLedger, Task.paying, Function.comp_def]
  resume task reply state others holds own apart allowed := by
    have waits : (payLedger orderId).Balances state ((payLedger orderId).carry task)
        (state, [task]) := by
      simp [Ledger.Balances]
    simp only [rechargeService]
    unfold resume
    split
    case h_1 data activity => exact (noPay_dealRechargeToken _ data).balances orderId
    case h_2 data activity =>
      exact balances_dealPayOrder state data orderId allowed.1 allowed.2 activity
    case h_3 data activity => exact (noPay_nextNFT rfl rfl _ _ _ _).balances orderId
    case h_4 data => exact allowed.elim
    case h_5 data activity =>
      rw [carry_rebateToInviter]
      exact balances_payRebated state data orderId own.1.1 activity
    case h_6 data => exact allowed.elim
    case h_7 data activity =>
      rw [carry_productRewards]
      exact balances_payCredit state data orderId own.1.1 activity
    case h_8 job => simp [Ledger.Balances, payLedger, Task.paying]
    case h_9 job info randomLife =>
      exact (noPay_loadedNFT tables job info randomLife _).balances orderId
    case h_10 job => simp [Ledger.Balances, payLedger, Task.paying]
    case h_11 job activity => simp [Ledger.Balances, payLedger, Task.paying]
    case h_12 job => simp [Ledger.Balances, payLedger, Task.paying]
    case h_13 job activity => exact (noPay_succeedNFT rfl rfl job).balances orderId
    case h_14 number activity => simp [Ledger.Balances, payLedger, Task.paying, State.withMgr]
    case h_15 number activity => simp [Ledger.Balances, payLedger, Task.paying, State.withMgr]
    case h_16 report activity => simp [Ledger.Balances, payLedger, Task.paying, State.withMgr]
    case h_17 => exact waits

/-! ## Recharged once -/

theorem holds_start (orders : Orders) (resBag : ResBag) (bags : EntityBag → List Entity)
    (items : List Item) :
    (rechargePool orders resBag).Holds (orders.start resBag bags items) where
  shared :=
    { mgr :=
        { token_docs := by simp [Orders.start, Function.comp_def]
          nft_docs := by simp [Orders.start, Function.comp_def]
          pay_docs := by simp [Orders.start, Function.comp_def]
          token_success := by simp [Orders.start]
          nft_success := by simp [Orders.start]
          pay_success := by simp [Orders.start] }
      tokenMarks := fun _ => rfl
      books := ⟨by simp [Orders.start], by simp [Orders.start, Player.credited]⟩
      nftBooks :=
        { once := by simp [Orders.start, Player.timesCreated]
          created_held := by simp [Orders.start]
          no_replacement := by simp [Orders.start]
          marked := by simp [Orders.start]
          reported := by simp [Orders.start] } }
  own := by simp [Orders.start]
  apart := .nil

theorem carried_eq_zero {config : Config State Task} {orderId : ℕ}
    (none_paying : ∀ task ∈ config.waiting, task.paying ≠ some orderId) :
    (config.waiting.map (payLedger orderId).carry).sum = 0 := by
  refine List.sum_eq_zero fun carried carried_mem => ?_
  obtain ⟨task, task_mem, rfl⟩ := List.mem_map.mp carried_mem
  simp [payLedger, none_paying task task_mem]

/-- Along every schedule without overlapping deliveries of an NFT, orders are credited once. -/
theorem rechargedOnce_run (tables : NFTTables) (orders : Orders) (resBag : ResBag)
    (bags : EntityBag → List Entity) (items : List Item) (events : List (Event Request Reply))
    (admits : (rechargeGuard tables).Admits (rechargeService tables)
      (orders.start resBag bags items) events) :
    RechargedOnce orders resBag
      ((rechargeService tables).run (orders.start resBag bags items) events) := by
  have kept := rechargePool_kept tables orders resBag
  have holds := kept.holds_run admits (holds_start orders resBag bags items)
  have pay_total : ∀ orderId, (payLedger orderId).total
      ((rechargeService tables).run (orders.start resBag bags items) events) = 1 := fun orderId =>
    (payLedger_balanced tables orders resBag orderId).total_run kept admits
      (holds_start orders resBag bags items)
  obtain ⟨mgr, tokenMarks, books, nftBooks⟩ := holds.shared
  refine
    { token_once := fun order _ => ?_
      token_settled := fun order settled => ?_
      pay_once := fun order _ => ?_
      pay_settled := fun order settled none_paying => ?_
      credit_for := books.credit_for
      balances := books.balances
      nft_once := nftBooks.once
      nft_settled := fun order settled tokenId tokenId_mem => ?_
      no_replacement := nftBooks.no_replacement
      reported := nftBooks.reported }
  · rw [tokenMarks]
    split <;> decide
  · rw [tokenMarks, if_pos (mgr.token_success order settled)]
  · have total_eq := pay_total order.orderId
    simp only [Ledger.total, payLedger] at total_eq
    omega
  · have total_eq := pay_total order.orderId
    rw [Ledger.total, carried_eq_zero none_paying] at total_eq
    simpa [payLedger, mgr.pay_success order settled] using total_eq
  · exact (nftBooks.marked _ (mgr.nft_success order settled tokenId tokenId_mem)).1

def sampleTables : NFTTables where
  getNFTCfg _ _ _ _ _ := some 1
  getItemMaxNum _ := some 1

/-- One token order and one NFT order for a hero. -/
def sampleOrders : Orders where
  tokens := [⟨1, .mit, 5⟩]
  pays := []
  nfts := [⟨2, [7]⟩]
  tokens_nodup := by decide
  pays_nodup := by decide
  nfts_nodup := by decide

def sampleStart : Config State Task :=
  sampleOrders.start ⟨fun _ => 0⟩ (fun _ => []) []

def sampleHero : NFTInfo where
  kind := .hero
  race := 1
  style := 1
  quality := 1
  level := 1
  mintType := 1
  life := 10
  cfgId := 0

/-- Every order is sent twice, and the second delivery arrives after the first is done. -/
def sampleRun : List (Event Request Reply) :=
  [.request .checkRechargeToken, .request .checkRechargeToken, .reply 0 (.done ⟨false, false⟩),
    .reply 0 (.done ⟨false, false⟩), .request .checkRechargeNFT,
    .reply 2 (.done ⟨false, false⟩), .request .checkRechargeNFT,
    .reply 2 (.nftInfo (some sampleHero) 5), .reply 3 (.done ⟨false, false⟩),
    .reply 3 (.done ⟨false, false⟩), .reply 2 (.done ⟨false, false⟩)]

theorem rechargedOnce_sampleRun :
    RechargedOnce sampleOrders ⟨fun _ => 0⟩
      ((rechargeService sampleTables).run sampleStart sampleRun) :=
  rechargedOnce_run sampleTables sampleOrders ⟨fun _ => 0⟩ (fun _ => []) [] sampleRun (by decide)

/-- Two deliveries of one NFT order arrive before the first one has loaded its record. -/
def overlappingRun : List (Event Request Reply) :=
  [.request .checkRechargeNFT, .request .checkRechargeNFT, .reply 0 (.done ⟨false, false⟩),
    .reply 0 (.done ⟨false, false⟩), .reply 0 (.nftInfo (some sampleHero) 5),
    .reply 0 (.nftInfo (some sampleHero) 5)]

/-- The hero of an overlapping delivery is created twice and replaces itself. -/
theorem not_rechargedOnce_overlappingRun :
    ¬ RechargedOnce sampleOrders ⟨fun _ => 0⟩
      ((rechargeService sampleTables).run sampleStart overlappingRun) := by
  intro recharged
  have created_twice : ((rechargeService sampleTables).run sampleStart
      overlappingRun).state.player.timesCreated 7 = 2 := by decide
  have created_once := recharged.nft_once 7
  omega

end BasWar.ChainBridge
