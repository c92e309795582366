import BasWar.ChainBridge.Withdraw
import Mathlib.Data.List.Nodup

/-!
# NFT withdrawals

`doWithdrawNFT` checks its NFTs one after the other, calls out three times and deletes them only
after the order is written.  A second withdrawal that checks an NFT in between orders it again.
Without such an overlap every NFT is either in its bag or in exactly one order.
-/

namespace BasWar.ChainBridge.Withdraw

open Cooperative

/-- The NFTs that a suspended withdrawal has checked and not yet deleted. -/
def Task.checked : Task → List (ℕ × EntityBag)
  | .syncNFTInfo _ checked _ => checked
  | .genNFTOrder _ checked => checked
  | .insertNFT _ checked _ => checked
  | _ => []

def State.orderedNFTs (state : State) : List (ℕ × EntityBag) :=
  state.nftOrders.flatMap NFTOrder.tokenIds

/-- The bags of a player; no two entities share an id. -/
structure Holdings where
  bags : EntityBag → List Entity
  nodup : (entityIds (bags .warShipBag) ++ entityIds (bags .heroBag) ++
    entityIds (bags .buildBag)).Nodup

/-- Every NFT is in its bag, unchanged, or in exactly one order. -/
structure NFTsConserved (before : Holdings) (config : Config State Task) : Prop where
  once : (config.state.orderedNFTs.map Prod.fst).Nodup
  removed : ∀ bag, config.state.bags bag =
    (before.bags bag).filter fun entity => (entity.id, bag) ∉ config.state.orderedNFTs
  owned : ∀ nft ∈ config.state.orderedNFTs, nft.1 ∈ entityIds (before.bags nft.2)
  free : ∀ task ∈ config.waiting, ∀ nft ∈ task.checked,
    ∃ entity ∈ config.state.bags nft.2, entity.id = nft.1 ∧ entity.ref = .none

/-- The NFT that the next segment of a withdrawal checks first. -/
def Task.nextNFT : Task → Option (ℕ × NFTKind)
  | .genFlightId request _ => request.entityNfts.head?
  | .insertToken launch _ _ => launch.request.entityNfts.head?
  | .incrFeeForLp launch => launch.request.entityNfts.head?
  | .syncNFTInfo _ _ rest => rest.head?
  | _ => none

/-- No suspended withdrawal has checked the NFT already. -/
def Unclaimed (others : List Task) (nft : ℕ × NFTKind) : Prop :=
  ∀ bag ∈ nft.2.bag?, ∀ other ∈ others, (nft.1, bag) ∉ other.checked
  deriving Decidable

/-- Withdrawals do not overlap on an NFT, and an insert that raises has stored nothing. -/
def nftGuard : Guard State Request Task Reply where
  onRequest _ _ _ := True
  onReply task reply _ others :=
    match task, reply with
    | .insertNFT _ _ _, .raise stored => stored = false
    | _, .raise _ => True
    | task, _ => ∀ nft ∈ task.nextNFT, Unclaimed others nft

instance (request state others) : Decidable (nftGuard.onRequest request state others) :=
  inferInstanceAs (Decidable True)

instance (task reply state others) : Decidable (nftGuard.onReply task reply state others) := by
  unfold nftGuard
  dsimp only
  split <;> infer_instance

/-- The NFTs stand in their bags with a free reference. -/
def State.HasFree (state : State) (nfts : List (ℕ × EntityBag)) : Prop :=
  ∀ nft ∈ nfts, ∃ entity ∈ state.bags nft.2, entity.id = nft.1 ∧ entity.ref = .none

def Task.ids : Task → List ℕ
  | .syncNFTInfo _ checked rest => checked.map Prod.fst ++ rest.map Prod.fst
  | task => task.checked.map Prod.fst

/-- The orders and the bags add up to the bags at the beginning. -/
structure State.NFTsSound (before : Holdings) (state : State) : Prop where
  nodup : state.orderedNFTs.Nodup
  removed : ∀ bag, state.bags bag =
    (before.bags bag).filter fun entity => (entity.id, bag) ∉ state.orderedNFTs
  owned : ∀ nft ∈ state.orderedNFTs, nft.1 ∈ entityIds (before.bags nft.2)

def nftPool (before : Holdings) : Pool State Task where
  shared := State.NFTsSound before
  own state task := state.HasFree task.checked ∧ task.ids.Nodup
  apart first second := first.checked.Disjoint second.checked
  apart_symm := List.disjoint_symm

theorem State.NFTsSound.not_ordered {before : Holdings} {state : State}
    (sound : state.NFTsSound before) {bag : EntityBag} {entity : Entity}
    (entity_mem : entity ∈ state.bags bag) : (entity.id, bag) ∉ state.orderedNFTs := by
  rw [sound.removed bag] at entity_mem
  simpa using (List.mem_filter.mp entity_mem).2

theorem checked_eq_nil {task : Task} (ids_eq : task.ids = []) : task.checked = [] := by
  cases task <;> simp_all [Task.ids, Task.checked]

/-- The segment moves no NFT and leaves none checked. -/
structure Quiet (state : State) (result : State × List Task) : Prop where
  bags : result.1.bags = state.bags
  nftOrders : result.1.nftOrders = state.nftOrders
  ids : ∀ task ∈ result.2, task.ids = []

section Segments

variable {before : Holdings} {state : State} {others : List Task}

theorem holds_congr (holds : (nftPool before).Holds ⟨state, others⟩) {after : State}
    (bags_eq : after.bags = state.bags) (orders_eq : after.nftOrders = state.nftOrders) :
    (nftPool before).Holds ⟨after, others⟩ := by
  obtain ⟨⟨nodup, removed, owned⟩, own, apart⟩ := holds
  have ordered_eq : after.orderedNFTs = state.orderedNFTs := by
    simp only [State.orderedNFTs, orders_eq]
  refine ⟨⟨?_, ?_, ?_⟩, fun other other_mem => ⟨?_, (own other other_mem).2⟩, apart⟩
  · rwa [ordered_eq]
  · rwa [ordered_eq, bags_eq]
  · rwa [ordered_eq]
  · simpa only [State.HasFree, bags_eq] using (own other other_mem).1

theorem Quiet.keeps {result : State × List Task} (quiet : Quiet state result)
    (holds : (nftPool before).Holds ⟨state, others⟩) : (nftPool before).Keeps others result := by
  have holds_after := holds_congr holds quiet.bags quiet.nftOrders
  have unchecked : ∀ task ∈ result.2, task.checked = [] := fun task task_mem =>
    checked_eq_nil (quiet.ids task task_mem)
  refine ⟨holds_after.shared, holds_after.own, fun task task_mem => ⟨?_, ?_⟩, ?_, ?_⟩
  · simp [unchecked task task_mem, State.HasFree]
  · simp [quiet.ids task task_mem]
  · intro other _ task task_mem
    simp [nftPool, unchecked task task_mem]
  · refine List.pairwise_of_forall_mem_list fun first _ second second_mem => ?_
    simp [nftPool, unchecked second second_mem]

theorem keeps_checked (holds : (nftPool before).Holds ⟨state, others⟩) {task : Task}
    (has : state.HasFree task.checked) (nodup : task.ids.Nodup)
    (apart : ∀ other ∈ others, task.checked.Disjoint other.checked) :
    (nftPool before).Keeps others (state, [task]) where
  shared := holds.shared
  stable := holds.own
  fresh := by simpa [nftPool] using ⟨has, nodup⟩
  apart other other_mem fresh fresh_mem := by
    rw [List.mem_singleton.mp fresh_mem]
    exact List.disjoint_symm (apart other other_mem)
  fresh_apart := List.pairwise_singleton _ _

theorem ref_of_withdrawError {entity : Entity} (passed : withdrawError entity = none) :
    entity.ref = .none := by
  unfold withdrawError at passed
  split at passed
  · cases passed
  · split at passed
    · cases passed
    · next free => simpa using free

theorem free_of_checkNFT {nft : ℕ × NFTKind} {bag : EntityBag}
    (passed : state.checkNFT nft = .ok bag) :
    nft.2.bag? = some bag ∧
      ∃ entity ∈ state.bags bag, entity.id = nft.1 ∧ entity.ref = .none := by
  unfold State.checkNFT at passed
  split at passed
  next => cases passed
  next found kind_eq =>
    split at passed
    next => cases passed
    next entity entity_eq =>
      obtain ⟨entity_mem, id_eq⟩ := getEntity_eq_some entity_eq
      split at passed
      next => cases passed
      next =>
        split at passed
        next => cases passed
        next error_eq =>
          cases passed
          refine ⟨kind_eq, entity, entity_mem, id_eq, ?_⟩
          exact ref_of_withdrawError error_eq

theorem keeps_checkNFTs (holds : (nftPool before).Holds ⟨state, others⟩) (launch : Launch)
    {checked : List (ℕ × EntityBag)} {rest : List (ℕ × NFTKind)}
    (has : state.HasFree checked)
    (nodup : (checked.map Prod.fst ++ rest.map Prod.fst).Nodup)
    (apart : ∀ other ∈ others, checked.Disjoint other.checked)
    (unclaimed : ∀ nft ∈ rest.head?, Unclaimed others nft) :
    (nftPool before).Keeps others (state.checkNFTs launch checked rest) := by
  cases rest with
  | nil =>
      exact keeps_checked holds has (by simpa [Task.ids, Task.checked] using nodup) apart
  | cons nft rest =>
      rw [State.checkNFTs]
      split
      next error _ =>
        have quiet : Quiet state (state.say error, [.insertRecord (launch.record none)]) :=
          ⟨rfl, rfl, by simp [Task.ids, Task.checked]⟩
        exact quiet.keeps holds
      next bag passed =>
        obtain ⟨kind_eq, free⟩ := free_of_checkNFT passed
        refine keeps_checked holds ?_ ?_ ?_
        · rintro other other_mem
          rcases List.mem_append.mp other_mem with old | new
          · exact has other old
          · rw [List.mem_singleton.mp new]
            exact free
        · simpa [Task.ids, List.append_assoc] using nodup
        · rintro other other_mem claimed claimed_mem other_claims
          rcases List.mem_append.mp claimed_mem with old | new
          · exact apart other other_mem old other_claims
          · rw [List.mem_singleton.mp new] at other_claims
            exact unclaimed nft rfl bag kind_eq other other_mem other_claims

theorem keeps_launchNFTs (holds : (nftPool before).Holds ⟨state, others⟩) (launch : Launch)
    (unclaimed : ∀ nft ∈ launch.request.entityNfts.head?, Unclaimed others nft) :
    (nftPool before).Keeps others (state.launchNFTs launch) := by
  rw [State.launchNFTs]
  split
  · have quiet : Quiet state (state, [.insertRecord (launch.record (some []))]) :=
      ⟨rfl, rfl, by simp [Task.ids, Task.checked]⟩
    exact quiet.keeps holds
  · exact keeps_checkNFTs holds launch (by simp [State.HasFree])
      (by simpa using launch.request.nodup) (by simp) unclaimed

theorem chargeToken_frame (launch : Launch) (token : Token) {result : State × Bool}
    (result_eq : state.chargeToken launch token = result) :
    result.1.bags = state.bags ∧ result.1.nftOrders = state.nftOrders := by
  subst result_eq
  fun_cases State.chargeToken launch token state <;> exact ⟨rfl, rfl⟩

section

variable (holds : (nftPool before).Holds ⟨state, others⟩)
include holds

theorem keeps_launchHyt (launch : Launch)
    (unclaimed : ∀ nft ∈ launch.request.entityNfts.head?, Unclaimed others nft) :
    (nftPool before).Keeps others (state.launchHyt launch) := by
  rw [State.launchHyt]
  split
  · split
    next charged charged_eq =>
      obtain ⟨bags_eq, orders_eq⟩ := chargeToken_frame launch .hyt charged_eq
      have quiet : Quiet state (charged, [.pvpRatio launch]) :=
        ⟨bags_eq, orders_eq, by simp [Task.ids, Task.checked]⟩
      exact quiet.keeps holds
    next refused refused_eq =>
      obtain ⟨bags_eq, orders_eq⟩ := chargeToken_frame launch .hyt refused_eq
      have quiet : Quiet state (refused, [.incrFeeForLp launch]) :=
        ⟨bags_eq, orders_eq, by simp [Task.ids, Task.checked]⟩
      exact quiet.keeps holds
  · exact keeps_launchNFTs holds launch unclaimed

theorem keeps_launchMit (launch : Launch)
    (unclaimed : ∀ nft ∈ launch.request.entityNfts.head?, Unclaimed others nft) :
    (nftPool before).Keeps others (state.launchMit launch) := by
  rw [State.launchMit]
  split
  · split
    next charged charged_eq =>
      obtain ⟨bags_eq, orders_eq⟩ := chargeToken_frame launch .mit charged_eq
      have quiet : Quiet state (charged, [.genTokenOrder launch .mit]) :=
        ⟨bags_eq, orders_eq, by simp [Task.ids, Task.checked]⟩
      exact quiet.keeps holds
    next refused refused_eq =>
      obtain ⟨bags_eq, orders_eq⟩ := chargeToken_frame launch .mit refused_eq
      exact keeps_launchHyt (holds_congr holds bags_eq orders_eq) launch unclaimed
  · exact keeps_launchHyt holds launch unclaimed

theorem keeps_launchInserted (launch : Launch) (token : Token)
    (unclaimed : ∀ nft ∈ launch.request.entityNfts.head?, Unclaimed others nft) :
    (nftPool before).Keeps others (state.launchInserted launch token) := by
  have quiet : Quiet state (state, [.incrFeeForLp launch]) :=
    ⟨rfl, rfl, by simp [Task.ids, Task.checked]⟩
  cases token with
  | mit => exact keeps_launchHyt holds launch unclaimed
  | hyt => exact quiet.keeps holds
  | other => exact keeps_launchHyt holds launch unclaimed

theorem holds_ordered (launch : Launch) {checked : List (ℕ × EntityBag)} (orderNum : ℕ)
    (has : state.HasFree checked) (nodup_ids : (checked.map Prod.fst).Nodup)
    (apart : ∀ other ∈ others, checked.Disjoint other.checked) :
    (nftPool before).Holds
      ⟨(state.insertNFTOrder launch checked orderNum).deleteNFTs checked, others⟩ := by
  obtain ⟨sound, own, pairwise⟩ := holds
  have ordered_eq : ((state.insertNFTOrder launch checked orderNum).deleteNFTs
      checked).orderedNFTs = checked ++ state.orderedNFTs := by
    simp [State.orderedNFTs, State.insertNFTOrder, State.deleteNFTs]
  have fresh : checked.Disjoint state.orderedNFTs := by
    rintro nft claimed ordered
    obtain ⟨entity, entity_mem, id_eq, -⟩ := has nft claimed
    refine sound.not_ordered entity_mem ?_
    rw [id_eq]
    exact ordered
  refine ⟨⟨?_, fun bag => ?_, ?_⟩, fun other other_mem => ⟨?_, (own other other_mem).2⟩, pairwise⟩
  · rw [ordered_eq]
    exact (List.Nodup.of_map _ nodup_ids).append sound.nodup fresh
  · have deleted : ((state.insertNFTOrder launch checked orderNum).deleteNFTs checked).bags bag =
        (state.bags bag).filter fun entity => (entity.id, bag) ∉ checked := rfl
    have bag_eq : state.bags bag =
        (before.bags bag).filter fun entity => (entity.id, bag) ∉ state.orderedNFTs :=
      sound.removed bag
    rw [deleted, bag_eq, List.filter_filter, ordered_eq]
    exact List.filter_congr fun entity _ => by simp
  · intro nft nft_mem
    rw [ordered_eq] at nft_mem
    rcases List.mem_append.mp nft_mem with claimed | ordered
    · obtain ⟨entity, entity_mem, id_eq, -⟩ := has nft claimed
      rw [sound.removed] at entity_mem
      exact List.mem_map.mpr ⟨entity, List.mem_of_mem_filter entity_mem, id_eq⟩
    · exact sound.owned nft ordered
  · rintro nft other_claims
    obtain ⟨entity, entity_mem, id_eq, free⟩ := (own other other_mem).1 nft other_claims
    refine ⟨entity, List.mem_filter.mpr ⟨entity_mem, ?_⟩, id_eq, free⟩
    have not_claimed : nft ∉ checked := fun claimed => apart other other_mem claimed other_claims
    simpa [id_eq] using not_claimed

end

end Segments

section Checks

variable (settings : Settings) (request : LaunchRequest) (state : State)

theorem quiet_launchOpened (opened : Bool) :
    Quiet state (state.launchOpened settings request opened) := by
  fun_cases State.launchOpened settings request opened state <;>
    exact ⟨rfl, rfl, by simp [Task.ids, Task.checked]⟩

theorem quiet_launchAllowed (banned : Bool) :
    Quiet state (state.launchAllowed settings request banned) := by
  fun_cases State.launchAllowed settings request banned state <;>
    exact ⟨rfl, rfl, by simp [Task.ids, Task.checked]⟩

theorem quiet_launchShip (needed : Bool) (vipReduce buildReduce : ℤ) :
    Quiet state (state.launchShip settings request needed vipReduce buildReduce) := by
  fun_cases State.launchShip settings request needed vipReduce buildReduce state <;>
    exact ⟨rfl, rfl, by simp [Task.ids, Task.checked]⟩

theorem quiet_launchWallet (cooldown : ℤ) (found : Bool) :
    Quiet state (state.launchWallet request cooldown found) := by
  fun_cases State.launchWallet request cooldown found state
  case case4 =>
    refine ⟨?_, ?_, by simp [Task.ids, Task.checked]⟩ <;>
      · rw [State.acceptLaunch]
        split <;> rfl
  all_goals exact ⟨rfl, rfl, by simp [Task.ids, Task.checked]⟩

end Checks

theorem nftPool_kept (settings : Settings) (before : Holdings) :
    (nftPool before).KeptBy (withdrawService settings) nftGuard where
  accept request state others holds _ := by
    have quiet : Quiet state (accept request state) := by
      cases request <;> exact ⟨rfl, rfl, by simp [accept, Task.ids, Task.checked]⟩
    exact quiet.keeps holds
  resume task reply state others holds own apart allowed := by
    have waits : (nftPool before).Keeps others (state, [task]) :=
      Pool.Keeps.unchanged holds own apart
    have quiet : ∀ result, Quiet state result → (nftPool before).Keeps others result :=
      fun result quiet => quiet.keeps holds
    simp only [withdrawService]
    unfold resume
    split
    case h_1 launch token orderNum => exact quiet _ ⟨rfl, rfl, by simp⟩
    case h_2 launch => exact quiet _ ⟨rfl, rfl, by simp⟩
    case h_3 launch checked orderNum => exact absurd allowed (by simp [nftGuard])
    case h_4 record => exact quiet _ ⟨rfl, rfl, by simp⟩
    case h_5 => exact Pool.Keeps.ended holds
    case h_6 request opened => exact quiet _ (quiet_launchOpened settings request state opened)
    case h_7 request banned => exact quiet _ (quiet_launchAllowed settings request state banned)
    case h_8 request needed vipReduce buildReduce =>
      exact quiet _ (quiet_launchShip settings request state needed vipReduce buildReduce)
    case h_9 request cooldown found =>
      exact quiet _ (quiet_launchWallet request state cooldown found)
    case h_10 request fee number => exact keeps_launchMit holds _ allowed
    case h_11 launch => exact quiet _ ⟨rfl, rfl, by simp [Task.ids, Task.checked]⟩
    case h_12 launch => exact quiet _ ⟨rfl, rfl, by simp [Task.ids, Task.checked]⟩
    case h_13 launch token number =>
      exact quiet _ ⟨rfl, rfl, by simp [Task.ids, Task.checked]⟩
    case h_14 launch token orderNum =>
      have holds_after : (nftPool before).Holds
          ⟨state.insertTokenOrder launch token orderNum, others⟩ := holds_congr holds rfl rfl
      exact keeps_launchInserted holds_after launch token allowed
    case h_15 launch =>
      have holds_after : (nftPool before).Holds ⟨state.bookFeeForLp launch, others⟩ :=
        holds_congr holds rfl rfl
      exact keeps_launchNFTs holds_after launch allowed
    case h_16 launch checked rest => exact keeps_checkNFTs holds launch own.1 own.2 apart allowed
    case h_17 launch checked number => exact keeps_checked holds own.1 own.2 apart
    case h_18 launch checked orderNum =>
      have ordered := holds_ordered holds launch orderNum own.1 own.2 apart
      have recorded : Quiet ((state.insertNFTOrder launch checked orderNum).deleteNFTs checked)
          ((state.insertNFTOrder launch checked orderNum).deleteNFTs checked,
            [.insertRecord (launch.record (some (checked.map Prod.fst)))]) :=
        ⟨rfl, rfl, by simp [Task.ids, Task.checked]⟩
      exact recorded.keeps ordered
    case h_19 record => exact quiet _ ⟨rfl, rfl, by simp [Task.ids, Task.checked]⟩
    case h_20 => exact Pool.Keeps.ended holds
    case h_21 => exact waits

theorem nftPool_start (resBag : ResBag) (before : Holdings) (useId : Option ℕ)
    (chainId lastLaunchTick clock : ℤ) :
    (nftPool before).Holds (start resBag before.bags useId chainId lastLaunchTick clock) where
  shared := ⟨.nil, fun bag => by simp [start, State.orderedNFTs],
    by simp [start, State.orderedNFTs]⟩
  own := by simp [start]
  apart := .nil

theorem Holdings.bag_unique (before : Holdings) {id : ℕ} {first second : EntityBag}
    (in_first : id ∈ entityIds (before.bags first))
    (in_second : id ∈ entityIds (before.bags second)) : first = second := by
  obtain ⟨ships_heros, -, builds_apart⟩ := List.nodup_append'.mp before.nodup
  obtain ⟨-, -, heros_apart⟩ := List.nodup_append'.mp ships_heros
  have ship_hero : id ∈ entityIds (before.bags .warShipBag) →
      id ∉ entityIds (before.bags .heroBag) := fun ship hero => heros_apart ship hero
  have ship_build : id ∈ entityIds (before.bags .warShipBag) →
      id ∉ entityIds (before.bags .buildBag) := fun ship build =>
    builds_apart (List.mem_append_left _ ship) build
  have hero_build : id ∈ entityIds (before.bags .heroBag) →
      id ∉ entityIds (before.bags .buildBag) := fun hero build =>
    builds_apart (List.mem_append_right _ hero) build
  cases first <;> cases second <;> first | rfl | exact absurd in_second (by tauto)

theorem State.NFTsSound.once {before : Holdings} {state : State}
    (sound : state.NFTsSound before) : (state.orderedNFTs.map Prod.fst).Nodup := by
  refine List.Nodup.map_on (fun first first_mem second second_mem same => ?_) sound.nodup
  have in_second := sound.owned second second_mem
  rw [← same] at in_second
  exact Prod.ext same (before.bag_unique (sound.owned first first_mem) in_second)

/-- Along every schedule without overlapping withdrawals of an NFT, NFTs are conserved. -/
theorem nftsConserved_run (settings : Settings) (resBag : ResBag) (before : Holdings)
    (useId : Option ℕ) (chainId lastLaunchTick clock : ℤ) (events : List (Event Request Reply))
    (admits : nftGuard.Admits (withdrawService settings)
      (start resBag before.bags useId chainId lastLaunchTick clock) events) :
    NFTsConserved before ((withdrawService settings).run
      (start resBag before.bags useId chainId lastLaunchTick clock) events) := by
  have holds := (nftPool_kept settings before).holds_run admits
    (nftPool_start resBag before useId chainId lastLaunchTick clock)
  exact
    { once := holds.shared.once
      removed := holds.shared.removed
      owned := holds.shared.owned
      free := fun task task_mem => (holds.own task task_mem).1 }

def sampleSettings : Settings where
  withdrawMinMIT := 10000
  withdrawMinHYT := 3000000
  withdrawCD := 2592000
  validChain chainId := chainId = 56

def sampleHoldings : Holdings where
  bags bag :=
    match bag with
    | .heroBag => [⟨7, 1, 1, 10, 10, .none, false⟩]
    | _ => []
  nodup := by decide

def heroRequest : LaunchRequest where
  mit := 0
  hyt := 0
  entityNfts := [(7, .hero)]
  itemNfts := []
  nodup := by decide

def heroStart : Config State Task :=
  start ⟨fun _ => 0⟩ sampleHoldings.bags none 56 0 0

/-- The answers that take a suspended request to the first call of `doWithdrawNFT`. -/
def heroAnswers (index : ℕ) : List (Event Request Reply) :=
  [.reply index (.status true), .reply index (.ban false), .reply index (.needShip false 0 0),
    .reply index (.wallet true), .reply index (.id 1)]

/-- The hero is withdrawn and then asked for again. -/
def repeatedRun : List (Event Request Reply) :=
  .request (.launchToBridge heroRequest) :: heroAnswers 0 ++
    [.reply 0 .done, .reply 0 (.id 1), .reply 0 .done, .request (.launchToBridge heroRequest),
      .reply 1 (.status true)]

theorem nftsConserved_repeatedRun :
    NFTsConserved sampleHoldings
      ((withdrawService sampleSettings).run heroStart repeatedRun) := by
  exact nftsConserved_run sampleSettings ⟨fun _ => 0⟩ sampleHoldings none 56 0 0 repeatedRun
    (by decide)

/-- A second withdrawal checks the hero while the first one waits for its order number. -/
def overlappingRun : List (Event Request Reply) :=
  .request (.launchToBridge heroRequest) :: heroAnswers 0 ++
    .request (.launchToBridge heroRequest) :: heroAnswers 1 ++
      [.reply 0 .done, .reply 0 .done, .reply 0 (.id 1), .reply 0 (.id 2), .reply 0 .done,
        .reply 0 .done]

theorem not_nftsConserved_overlappingRun :
    ¬ NFTsConserved sampleHoldings
      ((withdrawService sampleSettings).run heroStart overlappingRun) := by
  intro conserved
  exact absurd conserved.once (by decide)

end BasWar.ChainBridge.Withdraw
