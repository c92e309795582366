import BasWar.ChainBridge.Withdraw
import Mathlib

/-!
# Token withdrawals

`doWithdrawToken` takes the tokens first and writes the order two calls later; `launchToBridge`
tests the cooldown one call before it sets the tick, and books the fee even when
`doWithdrawToken` returned early.  Each of the three goes wrong under a failing call or a second
request in between, and under nothing else.
-/

namespace BasWar.ChainBridge.Withdraw

open Cooperative

/-! ## What is conserved -/

/-- The token that a suspended withdrawal has taken and not yet ordered. -/
def Task.taken : Task → Option Token
  | .pvpRatio _ => some .hyt
  | .starmapRatio _ => some .hyt
  | .genTokenOrder _ token => some token
  | .insertToken _ token _ => some token
  | _ => none

namespace State

def ordered (state : State) (res : Res) : ℤ :=
  ((state.tokenOrders.filter fun order => order.token.res? = some res).map fun order =>
    order.amount + order.fee).sum

def orderFees (state : State) : List ℤ :=
  (state.tokenOrders.filter (·.token = .hyt)).map TokenOrder.fee

/-- Amounts of the HYT orders, fees included. -/
def orderTotals (state : State) : List ℤ :=
  (state.tokenOrders.filter (·.token = .hyt)).map fun order => order.amount + order.fee

end State

/-- Taken tokens are ordered, booked fees belong to orders, and cooldowns are kept. -/
structure TokensConserved (before : ResBag) (config : Config State Task) : Prop where
  conserved : ∀ token res, token.res? = some res →
    (∀ task ∈ config.waiting, task.taken ≠ some token) →
      before.getRes res - config.state.resBag.getRes res = config.state.ordered res
  lp_booked : ∀ fee, config.state.lpFees.count fee ≤ config.state.orderFees.count fee
  jackpot_booked : (∀ task ∈ config.waiting, task.taken ≠ some .hyt) → ∀ value,
    config.state.pvpJackpot.count value = config.state.orderTotals.count value ∧
      config.state.starmapJackpot.count value = config.state.orderTotals.count value
  cooldown : config.state.accepted.Pairwise fun later earlier =>
    earlier.tick + later.cooldown ≤ later.tick

/-- A request for tokens waits between the test of the cooldown and the new tick. -/
def Task.cooling : Task → Bool
  | .getWalletAddress request _ => request.tokens
  | _ => false

/-- Between taking tokens and ordering them no call fails, no other request has the cooldown tested
in the meantime, and the HYT that passed the first check are still there at the second. -/
def tokenGuard : Guard State Request Task Reply where
  onRequest _ _ _ := True
  onReply task reply state others :=
    match task, reply with
    | .pvpRatio _, .raise _ => False
    | .starmapRatio _, .raise _ => False
    | .genTokenOrder _ _, .raise _ => False
    | .insertToken _ _ _, .raise stored => stored = true
    | .getChainBridgeNeedShip request, .needShip _ _ _ =>
        request.tokens = true → ∀ other ∈ others, other.cooling = false
    | .genFlightId request _, .id _ =>
        ¬ (0 < request.mit ∧ state.resBag.enoughRes .mit request.mit = true) →
          0 < request.hyt → state.resBag.enoughRes .carboxyl request.hyt = true
    | .insertToken launch token _, .done =>
        token ≠ .hyt → 0 < launch.request.hyt →
          state.resBag.enoughRes .carboxyl launch.request.hyt = true
    | _, _ => True

instance (request state others) : Decidable (tokenGuard.onRequest request state others) :=
  inferInstanceAs (Decidable True)

instance (task reply state others) : Decidable (tokenGuard.onReply task reply state others) := by
  unfold tokenGuard
  induction task using Task.casesOn <;> induction reply using Reply.casesOn <;> dsimp only <;>
    infer_instance

/-! ## The way of a withdrawn amount -/

inductive Stage
  /-- Nothing taken, or everything booked. -/
  | plain
  /-- HYT are taken, and neither jackpot has been told. -/
  | pvpDue (launch : Launch)
  /-- HYT are taken, and the star map jackpot has not been told. -/
  | starmapDue (launch : Launch)
  /-- Tokens are taken and the jackpots told, and the order is missing. -/
  | orderDue (launch : Launch) (token : Token)
  /-- HYT are ordered, and the fee is not booked. -/
  | feeDue (launch : Launch)

def Task.stage : Task → Stage
  | .pvpRatio launch => .pvpDue launch
  | .starmapRatio launch => .starmapDue launch
  | .genTokenOrder launch token => .orderDue launch token
  | .insertToken launch token _ => .orderDue launch token
  | .incrFeeForLp launch => .feeDue launch
  | _ => .plain

def stageOf : List Task → Stage
  | [task] => task.stage
  | _ => .plain

def Stage.ordered (launch : Launch) : Token → Stage
  | .hyt => .feeDue launch
  | _ => .plain

/-- Two states with the same balances, orders and bookings. -/
structure SameMoney (state after : State) : Prop where
  resBag : after.resBag = state.resBag
  tokenOrders : after.tokenOrders = state.tokenOrders
  lpFees : after.lpFees = state.lpFees
  pvpJackpot : after.pvpJackpot = state.pvpJackpot
  starmapJackpot : after.starmapJackpot = state.starmapJackpot

/-- One booking on the way of a withdrawn amount. -/
inductive Move : State × Stage → State × Stage → Prop
  | same {state after : State} {stage : Stage} (same : SameMoney state after) :
      Move (state, stage) (after, stage)
  | chargeMit {state : State} {launch : Launch} (positive : 0 < launch.request.mit)
      (covered : launch.request.mit ≤ state.resBag.getRes .mit) :
      Move (state, .plain)
        ({ state with resBag := state.resBag.costRes .mit launch.request.mit },
          .orderDue launch .mit)
  | chargeHyt {state : State} {launch : Launch} (positive : 0 < launch.request.hyt)
      (covered : launch.request.hyt ≤ state.resBag.getRes .carboxyl) :
      Move (state, .plain)
        ({ state with resBag := state.resBag.costRes .carboxyl launch.request.hyt },
          .pvpDue launch)
  | bookPvp {state : State} {launch : Launch} :
      Move (state, .pvpDue launch)
        ({ state with pvpJackpot := launch.request.hyt :: state.pvpJackpot }, .starmapDue launch)
  | bookStarmap {state : State} {launch : Launch} :
      Move (state, .starmapDue launch)
        ({ state with starmapJackpot := launch.request.hyt :: state.starmapJackpot },
          .orderDue launch .hyt)
  | order {state : State} {launch : Launch} {token : Token} (orderNum : ℕ) :
      Move (state, .orderDue launch token)
        (state.insertTokenOrder launch token orderNum, .ordered launch token)
  | bookFee {state : State} {launch : Launch} :
      Move (state, .feeDue launch) (state.bookFeeForLp launch, .plain)
  | dropFee {state : State} {launch : Launch} : Move (state, .feeDue launch) (state, .plain)

/-- The segment makes bookings only, and leaves at most one task suspended. -/
structure Moves (state : State) (stage : Stage) (result : State × List Task) : Prop where
  path : Relation.ReflTransGen Move (state, stage) (result.1, stageOf result.2)
  single : result.2 = [] ∨ ∃ task, result.2 = [task]

variable {result : State × List Task} {task : Task} {before after : State × Stage}

theorem Moves.of_same {state : State} {stage : Stage} (same : SameMoney state result.1)
    (stage_eq : stageOf result.2 = stage) (single : result.2 = [] ∨ ∃ task, result.2 = [task]) :
    Moves state stage result :=
  ⟨stage_eq ▸ .single (.same same), single⟩

theorem Moves.of_move {state mid : State} {stage next : Stage}
    (move : Move (state, stage) (mid, next)) (moves : Moves mid next result) :
    Moves state stage result :=
  ⟨.head move moves.path, moves.single⟩

section Segments

variable (state : State) (launch : Launch)

theorem moves_checkNFTs (checked : List (ℕ × EntityBag)) (rest : List (ℕ × NFTKind)) :
    Moves state .plain (state.checkNFTs launch checked rest) := by
  fun_cases State.checkNFTs launch checked rest state <;>
    exact .of_same ⟨rfl, rfl, rfl, rfl, rfl⟩ rfl (.inr ⟨_, rfl⟩)

theorem moves_launchNFTs : Moves state .plain (state.launchNFTs launch) := by
  rw [State.launchNFTs]
  split
  · exact .of_same ⟨rfl, rfl, rfl, rfl, rfl⟩ rfl (.inr ⟨_, rfl⟩)
  · exact moves_checkNFTs state launch _ _

theorem chargeToken_eq (token : Token) {res : Res} (res_eq : token.res? = some res)
    (positive : 0 < launch.request.amount token)
    (covered : state.resBag.enoughRes res (launch.request.amount token) = true) :
    state.chargeToken launch token =
      ({ state with resBag := state.resBag.costRes res (launch.request.amount token) }, true) := by
  simp [State.chargeToken, not_le.mpr positive, res_eq, covered]

theorem chargeToken_refused (token : Token) {res : Res} (res_eq : token.res? = some res)
    (short : state.resBag.enoughRes res (launch.request.amount token) = false) :
    ∃ after, state.chargeToken launch token = (after, false) ∧ SameMoney state after := by
  by_cases positive : launch.request.amount token ≤ 0
  · exact ⟨state, by simp [State.chargeToken, positive], rfl, rfl, rfl, rfl, rfl⟩
  · refine ⟨state.say (.resNotEnough res), ?_, rfl, rfl, rfl, rfl, rfl⟩
    simp [State.chargeToken, positive, res_eq, short]

theorem moves_launchHyt (covered : 0 < launch.request.hyt →
    state.resBag.enoughRes .carboxyl launch.request.hyt = true) :
    Moves state .plain (state.launchHyt launch) := by
  rw [State.launchHyt]
  split
  next positive =>
    rw [chargeToken_eq state launch .hyt rfl positive (covered positive)]
    exact ⟨.single (.chargeHyt positive (of_decide_eq_true (covered positive))), .inr ⟨_, rfl⟩⟩
  next => exact moves_launchNFTs state launch

theorem moves_launchMit
    (covered : ¬ (0 < launch.request.mit ∧
        state.resBag.enoughRes .mit launch.request.mit = true) →
      0 < launch.request.hyt → state.resBag.enoughRes .carboxyl launch.request.hyt = true) :
    Moves state .plain (state.launchMit launch) := by
  rw [State.launchMit]
  split
  next positive =>
    cases enough : state.resBag.enoughRes .mit launch.request.mit with
    | true =>
        rw [chargeToken_eq state launch .mit rfl positive enough]
        exact ⟨.single (.chargeMit positive (of_decide_eq_true enough)), .inr ⟨_, rfl⟩⟩
    | false =>
        obtain ⟨after, after_eq, same⟩ :=
          chargeToken_refused state launch .mit rfl enough
        rw [after_eq]
        refine .of_move (.same same) (moves_launchHyt after launch ?_)
        rw [same.resBag]
        exact covered (by simp [enough])
  next not_positive =>
    exact moves_launchHyt state launch (covered fun both => not_positive both.1)

theorem moves_launchInserted (token : Token)
    (covered : token ≠ .hyt → 0 < launch.request.hyt →
      state.resBag.enoughRes .carboxyl launch.request.hyt = true) :
    Moves state (.ordered launch token) (state.launchInserted launch token) := by
  cases token with
  | mit => exact moves_launchHyt state launch (covered (by decide))
  | hyt => exact ⟨.refl, .inr ⟨_, rfl⟩⟩
  | other => exact moves_launchHyt state launch (covered (by decide))

end Segments

section Checks

variable (settings : Settings) (request : LaunchRequest) (state : State)

theorem moves_launchOpened (opened : Bool) :
    Moves state .plain (state.launchOpened settings request opened) := by
  fun_cases State.launchOpened settings request opened state <;>
    exact .of_same ⟨rfl, rfl, rfl, rfl, rfl⟩ rfl (by simp)

theorem moves_launchAllowed (banned : Bool) :
    Moves state .plain (state.launchAllowed settings request banned) := by
  fun_cases State.launchAllowed settings request banned state <;>
    exact .of_same ⟨rfl, rfl, rfl, rfl, rfl⟩ rfl (by simp)

theorem moves_launchShip (needed : Bool) (vipReduce buildReduce : ℤ) :
    Moves state .plain (state.launchShip settings request needed vipReduce buildReduce) := by
  fun_cases State.launchShip settings request needed vipReduce buildReduce state <;>
    exact .of_same ⟨rfl, rfl, rfl, rfl, rfl⟩ rfl (by simp)

theorem sameMoney_acceptLaunch (cooldown : ℤ) :
    SameMoney state (state.acceptLaunch request cooldown) := by
  rw [State.acceptLaunch]
  split <;> exact ⟨rfl, rfl, rfl, rfl, rfl⟩

theorem moves_launchWallet (cooldown : ℤ) (found : Bool) :
    Moves state .plain (state.launchWallet request cooldown found) := by
  fun_cases State.launchWallet request cooldown found state
  case case4 => exact .of_same (sameMoney_acceptLaunch request state cooldown) rfl (by simp)
  all_goals exact .of_same ⟨rfl, rfl, rfl, rfl, rfl⟩ rfl (by simp)

end Checks

theorem Moves.stays {state : State} {stage : Stage} (stage_eq : task.stage = stage) :
    Moves state stage (state, [task]) :=
  .of_same ⟨rfl, rfl, rfl, rfl, rfl⟩ stage_eq (.inr ⟨_, rfl⟩)

theorem moves_raise {stored : Bool} {state : State} {others : List Task}
    (allowed : tokenGuard.onReply task (.raise stored) state others)
    (not_insert : ∀ launch token orderNum, task = .insertToken launch token orderNum →
      stored = false) : Moves state task.stage (state, []) := by
  have ends : Moves state .plain (state, []) :=
    .of_same ⟨rfl, rfl, rfl, rfl, rfl⟩ rfl (.inl rfl)
  cases task
  case pvpRatio launch => exact allowed.elim
  case starmapRatio launch => exact allowed.elim
  case genTokenOrder launch token => exact allowed.elim
  case insertToken launch token orderNum =>
    have not_stored := not_insert launch token orderNum rfl
    have was_stored : stored = true := allowed
    simp [not_stored] at was_stored
  case incrFeeForLp launch => exact .of_move .dropFee ends
  all_goals exact ends

theorem moves_resume (settings : Settings) {reply : Reply} {state : State} {others : List Task}
    (allowed : tokenGuard.onReply task reply state others) :
    Moves state task.stage (resume settings task reply state) := by
  have same : SameMoney state state := ⟨rfl, rfl, rfl, rfl, rfl⟩
  unfold resume
  split
  case h_1 launch token orderNum =>
    refine .of_move (.order orderNum) ?_
    cases token
    case hyt => exact .of_move .dropFee (.of_same ⟨rfl, rfl, rfl, rfl, rfl⟩ rfl (.inl rfl))
    all_goals exact .of_same ⟨rfl, rfl, rfl, rfl, rfl⟩ rfl (.inl rfl)
  case h_2 launch =>
    exact .of_move .bookFee (.of_same ⟨rfl, rfl, rfl, rfl, rfl⟩ rfl (.inl rfl))
  case h_3 launch checked orderNum =>
    exact .of_same ⟨rfl, rfl, rfl, rfl, rfl⟩ rfl (.inl rfl)
  case h_4 record => exact .of_same ⟨rfl, rfl, rfl, rfl, rfl⟩ rfl (.inl rfl)
  case h_5 stored not_stored _ _ _ =>
    refine moves_raise allowed fun launch token orderNum task_eq => ?_
    cases stored with
    | false => rfl
    | true => exact absurd rfl (not_stored launch token orderNum task_eq)
  case h_6 request opened => exact moves_launchOpened settings request state opened
  case h_7 request banned => exact moves_launchAllowed settings request state banned
  case h_8 request needed vipReduce buildReduce =>
    exact moves_launchShip settings request state needed vipReduce buildReduce
  case h_9 request cooldown found => exact moves_launchWallet request state cooldown found
  case h_10 request fee number => exact moves_launchMit state ⟨request, fee, number⟩ allowed
  case h_11 launch => exact ⟨.single .bookPvp, .inr ⟨_, rfl⟩⟩
  case h_12 launch => exact ⟨.single .bookStarmap, .inr ⟨_, rfl⟩⟩
  case h_13 launch token number => exact .stays rfl
  case h_14 launch token orderNum =>
    exact .of_move (.order orderNum) (moves_launchInserted _ launch token allowed)
  case h_15 launch => exact .of_move .bookFee (moves_launchNFTs _ launch)
  case h_16 launch checked rest => exact moves_checkNFTs state launch checked rest
  case h_17 launch checked number => exact .stays rfl
  case h_18 launch checked orderNum =>
    exact .of_same ⟨rfl, rfl, rfl, rfl, rfl⟩ rfl (.inr ⟨_, rfl⟩)
  case h_19 record => exact .of_same ⟨rfl, rfl, rfl, rfl, rfl⟩ rfl (.inr ⟨_, rfl⟩)
  case h_20 => exact .of_same same rfl (.inl rfl)
  case h_21 => exact .stays rfl

/-! ## Ledgers over the stages -/

/-- A ledger that reads a task through its stage. -/
def stageLedger (ledger : Ledger State Stage ℤ) : Ledger State Task ℤ where
  book := ledger.book
  carry task := ledger.carry task.stage

/-- What a state has booked and a stage carries. -/
def potential (ledger : Ledger State Stage ℤ) (point : State × Stage) : ℤ :=
  ledger.book point.1 + ledger.carry point.2

theorem potential_stageOf {ledger : Ledger State Stage ℤ} (plain : ledger.carry .plain = 0)
    (single : result.2 = [] ∨ ∃ task, result.2 = [task]) :
    potential ledger (result.1, stageOf result.2) =
      (stageLedger ledger).book result.1 + (result.2.map (stageLedger ledger).carry).sum := by
  rcases single with none_left | ⟨task, one_left⟩
  · simp [potential, none_left, stageOf, plain, stageLedger]
  · simp [potential, one_left, stageOf, stageLedger]

theorem potential_path {ledger : Ledger State Stage ℤ} (related : ℤ → ℤ → Prop)
    (refl : ∀ amount, related amount amount)
    (trans : ∀ {first second third}, related first second → related second third →
      related first third)
    (moves : ∀ {before after}, Move before after →
      related (potential ledger after) (potential ledger before))
    (path : Relation.ReflTransGen Move before after) :
    related (potential ledger after) (potential ledger before) := by
  induction path with
  | refl => exact refl _
  | tail _ move ih => exact trans (moves move) ih

section Ledgers

variable {ledger : Ledger State Stage ℤ} {pool : Pool State Task} {settings : Settings}

section

variable (plain : ledger.carry .plain = 0)
  (clock : ∀ state : State, ledger.book { state with clock := state.clock + 1 } = ledger.book state)
include plain clock

theorem book_accept (request : Request) (state : State) :
    (stageLedger ledger).Balances state 0 ((withdrawService settings).accept request state) := by
  cases request with
  | launchToBridge request =>
      simp [Ledger.Balances, withdrawService, accept, stageLedger, Task.stage, plain]
  | second => simp [Ledger.Balances, withdrawService, accept, stageLedger, clock]

/-- A ledger whose moves all balance is balanced by the service. -/
theorem stageLedger_balanced
    (moves : ∀ {before after}, Move before after →
      potential ledger after = potential ledger before) :
    (stageLedger ledger).BalancedBy pool (withdrawService settings) tokenGuard where
  accept request state others _ _ := book_accept plain clock request state
  resume task reply state others _ _ _ allowed := by
    obtain ⟨path, single⟩ := moves_resume settings allowed
    rw [Ledger.Balances, withdrawService, ← potential_stageOf plain single]
    exact potential_path Eq (fun _ => rfl) Eq.trans moves path

/-- A ledger that no move raises is not raised by the service. -/
theorem stageLedger_falling
    (moves : ∀ {before after}, Move before after →
      potential ledger after ≤ potential ledger before) :
    (stageLedger ledger).FallingBy pool (withdrawService settings) tokenGuard where
  accept request state others _ _ := (book_accept plain clock request state).le
  resume task reply state others _ _ _ allowed := by
    obtain ⟨path, single⟩ := moves_resume settings allowed
    rw [Ledger.Falls, withdrawService, ← potential_stageOf plain single]
    exact potential_path (· ≤ ·) le_refl le_trans moves path

end

end Ledgers

/-- Balance and orders of one resource. -/
def resLedger (res : Res) : Ledger State Stage ℤ where
  book state := state.resBag.getRes res + state.ordered res
  carry
    | .pvpDue launch => if res = .carboxyl then launch.request.hyt else 0
    | .starmapDue launch => if res = .carboxyl then launch.request.hyt else 0
    | .orderDue launch token =>
        if token.res? = some res then launch.request.amount token else 0
    | _ => 0

/-- Bookings of a fee for the liquidity providers, against the orders with this fee. -/
def lpLedger (fee : ℤ) : Ledger State Stage ℤ where
  book state := state.lpFees.count fee - state.orderFees.count fee
  carry
    | .feeDue launch => if launch.fee = fee then 1 else 0
    | _ => 0

/-- Bookings of an amount in the PVP jackpot, against the orders with this amount. -/
def pvpLedger (value : ℤ) : Ledger State Stage ℤ where
  book state := state.pvpJackpot.count value - state.orderTotals.count value
  carry
    | .starmapDue launch => if launch.request.hyt = value then -1 else 0
    | .orderDue launch .hyt => if launch.request.hyt = value then -1 else 0
    | _ => 0

/-- Bookings of an amount in the star map jackpot, against the orders with this amount. -/
def starmapLedger (value : ℤ) : Ledger State Stage ℤ where
  book state := state.starmapJackpot.count value - state.orderTotals.count value
  carry
    | .orderDue launch .hyt => if launch.request.hyt = value then -1 else 0
    | _ => 0

theorem ordered_insertTokenOrder (state : State) (launch : Launch) (token : Token) (orderNum : ℕ)
    (res : Res) :
    (state.insertTokenOrder launch token orderNum).ordered res =
      state.ordered res + if token.res? = some res then launch.request.amount token else 0 := by
  by_cases same : token.res? = some res
  · simp [State.ordered, State.insertTokenOrder, same, add_comm]
  · simp [State.ordered, State.insertTokenOrder, same]

theorem resLedger_move (res : Res) (move : Move before after) :
    potential (resLedger res) after = potential (resLedger res) before := by
  cases move with
  | same same =>
      simp only [potential, resLedger, State.ordered, same.resBag, same.tokenOrders]
  | @chargeMit state launch positive covered =>
      have charged := state.resBag.getRes_costRes .mit res positive covered
      simp only [potential, resLedger, State.ordered, charged, Token.res?, Option.some.injEq,
        LaunchRequest.amount, eq_comm]
      ring
  | @chargeHyt state launch positive covered =>
      have charged := state.resBag.getRes_costRes .carboxyl res positive covered
      simp only [potential, resLedger, State.ordered, charged]
      ring
  | bookPvp => rfl
  | bookStarmap =>
      simp only [potential, resLedger, State.ordered, Token.res?, Option.some.injEq,
        LaunchRequest.amount, eq_comm]
  | @order state launch token orderNum =>
      have stage_carry : (resLedger res).carry (.ordered launch token) = 0 := by
        cases token <;> rfl
      have balance : (state.insertTokenOrder launch token orderNum).resBag = state.resBag := rfl
      simp only [potential, stage_carry]
      simp only [resLedger, ordered_insertTokenOrder, balance]
      ring
  | bookFee => rfl
  | dropFee => rfl

theorem lpLedger_move (fee : ℤ) (move : Move before after) :
    potential (lpLedger fee) after ≤ potential (lpLedger fee) before := by
  cases move with
  | same same =>
      simp only [potential, lpLedger, State.orderFees, same.lpFees, same.tokenOrders, le_refl]
  | chargeMit positive covered => exact le_rfl
  | chargeHyt positive covered => exact le_rfl
  | bookPvp => exact le_rfl
  | bookStarmap => exact le_rfl
  | @order state launch token orderNum =>
      cases token with
      | hyt =>
          simp [potential, lpLedger, State.orderFees, State.insertTokenOrder, Stage.ordered,
            Launch.feeOf, List.count_cons]
          split <;> omega
      | mit => simp [potential, lpLedger, State.orderFees, State.insertTokenOrder, Stage.ordered]
      | other => simp [potential, lpLedger, State.orderFees, State.insertTokenOrder, Stage.ordered]
  | @bookFee state launch =>
      simp [potential, lpLedger, State.orderFees, State.bookFeeForLp, List.count_cons]
      split <;> omega
  | @dropFee state launch =>
      simp only [potential, lpLedger]
      split <;> omega

theorem orderTotals_insert (state : State) (launch : Launch) (token : Token) (orderNum : ℕ) :
    (state.insertTokenOrder launch token orderNum).orderTotals =
      (if token = .hyt then [launch.request.hyt] else []) ++ state.orderTotals := by
  cases token <;>
    simp [State.orderTotals, State.insertTokenOrder, LaunchRequest.amount]

theorem pvpLedger_move (value : ℤ) (move : Move before after) :
    potential (pvpLedger value) after = potential (pvpLedger value) before := by
  cases move with
  | same same =>
      simp only [potential, pvpLedger, State.orderTotals, same.pvpJackpot, same.tokenOrders]
  | chargeMit positive covered => rfl
  | chargeHyt positive covered => rfl
  | @bookPvp state launch =>
      have totals : ({ state with
        pvpJackpot := launch.request.hyt :: state.pvpJackpot } : State).orderTotals =
          state.orderTotals := rfl
      simp only [potential, pvpLedger, totals, List.count_cons, beq_iff_eq]
      split <;> push_cast <;> ring
  | bookStarmap => rfl
  | @order state launch token orderNum =>
      have jackpot : (state.insertTokenOrder launch token orderNum).pvpJackpot =
        state.pvpJackpot := rfl
      simp only [potential, pvpLedger, jackpot, orderTotals_insert, List.count_append]
      cases token with
      | hyt =>
          simp only [if_true, List.count_singleton, beq_iff_eq, Stage.ordered]
          split <;> push_cast <;> ring
      | mit => simp [Stage.ordered]
      | other => simp [Stage.ordered]
  | bookFee => rfl
  | dropFee => rfl

theorem starmapLedger_move (value : ℤ) (move : Move before after) :
    potential (starmapLedger value) after = potential (starmapLedger value) before := by
  cases move with
  | same same =>
      simp only [potential, starmapLedger, State.orderTotals, same.starmapJackpot,
        same.tokenOrders]
  | chargeMit positive covered => rfl
  | chargeHyt positive covered => rfl
  | bookPvp => rfl
  | @bookStarmap state launch =>
      have totals : ({ state with
        starmapJackpot := launch.request.hyt :: state.starmapJackpot } : State).orderTotals =
          state.orderTotals := rfl
      simp only [potential, starmapLedger, totals, List.count_cons, beq_iff_eq]
      split <;> push_cast <;> ring
  | @order state launch token orderNum =>
      have jackpot : (state.insertTokenOrder launch token orderNum).starmapJackpot =
        state.starmapJackpot := rfl
      simp only [potential, starmapLedger, jackpot, orderTotals_insert, List.count_append]
      cases token with
      | hyt =>
          simp only [if_true, List.count_singleton, beq_iff_eq, Stage.ordered]
          split <;> push_cast <;> ring
      | mit => simp [Stage.ordered]
      | other => simp [Stage.ordered]
  | bookFee => rfl
  | dropFee => rfl

theorem carried_eq_zero {ledger : Ledger State Stage ℤ} {config : Config State Task}
    (nothing : ∀ task ∈ config.waiting, ledger.carry task.stage = 0) :
    (config.waiting.map (stageLedger ledger).carry).sum = 0 := by
  refine List.sum_eq_zero fun carried carried_mem => ?_
  obtain ⟨task, task_mem, rfl⟩ := List.mem_map.mp carried_mem
  exact nothing task task_mem

/-! ## The cooldown -/

/-- The segment accepts nothing and has no cooldown tested. -/
structure Untested (state : State) (result : State × List Task) : Prop where
  accepted : result.1.accepted = state.accepted
  lastLaunchTick : result.1.lastLaunchTick = state.lastLaunchTick
  clock : result.1.clock = state.clock
  cooling : ∀ task ∈ result.2, task.cooling = false

/-- A tested cooldown is over and accepted withdrawals are apart. -/
def cooldownPool : Pool State Task where
  shared state :=
    state.accepted.Pairwise (fun later earlier => earlier.tick + later.cooldown ≤ later.tick) ∧
      ∀ acceptance ∈ state.accepted, acceptance.tick ≤ state.lastLaunchTick
  own state task := ∀ request cooldown, task = .getWalletAddress request cooldown →
    request.tokens = true → 0 ≤ cooldown ∧ state.lastLaunchTick + cooldown ≤ state.clock
  apart first second := first.cooling = true → second.cooling = false
  apart_symm apart second_cooling := by
    by_contra first_cooling
    exact absurd (apart (by simpa using first_cooling)) (by simp [second_cooling])

section Cooldown

variable {state : State} {others : List Task}

theorem own_of_not_cooling {task : Task} (not_cooling : task.cooling = false) :
    cooldownPool.own state task := by
  rintro request cooldown rfl tokens
  have cooling : request.tokens = false := not_cooling
  simp [tokens] at cooling

theorem Untested.keeps {result : State × List Task} (untested : Untested state result)
    (holds : cooldownPool.Holds ⟨state, others⟩) : cooldownPool.Keeps others result where
  shared := by
    obtain ⟨apart, before_tick⟩ := holds.shared
    exact ⟨untested.accepted ▸ apart, untested.accepted ▸ untested.lastLaunchTick ▸ before_tick⟩
  stable other other_mem request cooldown task_eq tokens := by
    rw [untested.lastLaunchTick, untested.clock]
    exact holds.own other other_mem request cooldown task_eq tokens
  fresh task task_mem := own_of_not_cooling (untested.cooling task task_mem)
  apart other _ task task_mem _ := untested.cooling task task_mem
  fresh_apart := List.pairwise_of_forall_mem_list fun _ _ second second_mem _ =>
    untested.cooling second second_mem

end Cooldown

section Segments

variable (state : State) (launch : Launch)

theorem untested_checkNFTs (checked : List (ℕ × EntityBag)) (rest : List (ℕ × NFTKind)) :
    Untested state (state.checkNFTs launch checked rest) := by
  fun_cases State.checkNFTs launch checked rest state <;>
    exact ⟨rfl, rfl, rfl, by simp [Task.cooling]⟩

theorem untested_launchNFTs : Untested state (state.launchNFTs launch) := by
  rw [State.launchNFTs]
  split
  · exact ⟨rfl, rfl, rfl, by simp [Task.cooling]⟩
  · exact untested_checkNFTs state launch _ _

theorem untested_chargeToken (token : Token) {result : State × Bool}
    (result_eq : state.chargeToken launch token = result) : Untested state (result.1, []) := by
  subst result_eq
  fun_cases State.chargeToken launch token state <;> exact ⟨rfl, rfl, rfl, by simp⟩

theorem Untested.trans {mid : State} {result : State × List Task} {tasks : List Task}
    (first : Untested state (mid, tasks)) (second : Untested mid result) :
    Untested state result where
  accepted := second.accepted.trans first.accepted
  lastLaunchTick := second.lastLaunchTick.trans first.lastLaunchTick
  clock := second.clock.trans first.clock
  cooling := second.cooling

theorem untested_launchHyt : Untested state (state.launchHyt launch) := by
  rw [State.launchHyt]
  split
  · split
    next charged charged_eq =>
      exact (untested_chargeToken state launch .hyt charged_eq).trans state
        ⟨rfl, rfl, rfl, by simp [Task.cooling]⟩
    next refused refused_eq =>
      exact (untested_chargeToken state launch .hyt refused_eq).trans state
        ⟨rfl, rfl, rfl, by simp [Task.cooling]⟩
  · exact untested_launchNFTs state launch

theorem untested_launchMit : Untested state (state.launchMit launch) := by
  rw [State.launchMit]
  split
  · split
    next charged charged_eq =>
      exact (untested_chargeToken state launch .mit charged_eq).trans state
        ⟨rfl, rfl, rfl, by simp [Task.cooling]⟩
    next refused refused_eq =>
      exact (untested_chargeToken state launch .mit refused_eq).trans state
        (untested_launchHyt refused launch)
  · exact untested_launchHyt state launch

theorem untested_launchInserted (token : Token) :
    Untested state (state.launchInserted launch token) := by
  cases token with
  | mit => exact untested_launchHyt state launch
  | hyt => exact ⟨rfl, rfl, rfl, by simp [State.launchInserted, Task.cooling]⟩
  | other => exact untested_launchHyt state launch

end Segments

section Checks

variable (settings : Settings) (request : LaunchRequest) {state : State} {others : List Task}

theorem untested_launchOpened (opened : Bool) :
    Untested state (state.launchOpened settings request opened) := by
  fun_cases State.launchOpened settings request opened state <;>
    exact ⟨rfl, rfl, rfl, by simp [Task.cooling]⟩

theorem untested_launchAllowed (banned : Bool) :
    Untested state (state.launchAllowed settings request banned) := by
  fun_cases State.launchAllowed settings request banned state <;>
    exact ⟨rfl, rfl, rfl, by simp [Task.cooling]⟩

theorem keeps_launchShip (holds : cooldownPool.Holds ⟨state, others⟩)
    (alone : request.tokens = true → ∀ other ∈ others, other.cooling = false)
    (needed : Bool) (vipReduce buildReduce : ℤ) :
    cooldownPool.Keeps others
      (state.launchShip settings request needed vipReduce buildReduce) := by
  have refused : ∀ error, cooldownPool.Keeps others (state.say error, []) := fun error =>
    have untested : Untested state (state.say error, []) := ⟨rfl, rfl, rfl, by simp⟩
    untested.keeps holds
  unfold State.launchShip
  dsimp only
  split
  · exact refused _
  · split
    · exact refused _
    next passed =>
      refine ⟨holds.shared, holds.own, ?_, ?_, List.pairwise_singleton _ _⟩
      · rintro task task_mem tested cooldown rfl tokens
        cases List.mem_singleton.mp task_mem
        have elapsed := not_and.mp passed tokens
        simp only [State.getLaunchLess] at elapsed
        refine ⟨le_max_right _ _, ?_⟩
        dsimp only
        omega
      · rintro other other_mem task task_mem other_cooling
        rw [List.mem_singleton.mp task_mem]
        by_contra cooling
        have tokens : request.tokens = true := by simpa [Task.cooling] using cooling
        simp [alone tokens other other_mem] at other_cooling

theorem keeps_launchWallet (holds : cooldownPool.Holds ⟨state, others⟩) {cooldown : ℤ}
    (elapsed : request.tokens = true →
      0 ≤ cooldown ∧ state.lastLaunchTick + cooldown ≤ state.clock)
    (alone : request.tokens = true → ∀ other ∈ others, other.cooling = false) (found : Bool) :
    cooldownPool.Keeps others (state.launchWallet request cooldown found) := by
  have refused : ∀ error, cooldownPool.Keeps others (state.say error, []) := fun error =>
    have untested : Untested state (state.say error, []) := ⟨rfl, rfl, rfl, by simp⟩
    untested.keeps holds
  fun_cases State.launchWallet request cooldown found state
  case case4 =>
    rw [State.acceptLaunch]
    split
    next tokens =>
      obtain ⟨apart, before_tick⟩ := holds.shared
      refine ⟨⟨?_, ?_⟩, ?_, ?_, ?_, List.pairwise_singleton _ _⟩
      · refine List.pairwise_cons.mpr ⟨fun earlier earlier_mem => ?_, apart⟩
        have earlier_tick := before_tick earlier earlier_mem
        obtain ⟨-, cooldown_over⟩ := elapsed tokens
        dsimp only at earlier_tick ⊢
        omega
      · rintro acceptance acceptance_mem
        rcases List.mem_cons.mp acceptance_mem with rfl | old
        · exact le_rfl
        · have earlier_tick := before_tick acceptance old
          obtain ⟨cooldown_nonneg, cooldown_over⟩ := elapsed tokens
          dsimp only at earlier_tick ⊢
          omega
      · exact fun other other_mem => own_of_not_cooling (alone tokens other other_mem)
      · rintro task task_mem
        rw [List.mem_singleton.mp task_mem]
        exact own_of_not_cooling rfl
      · rintro other _ task task_mem _
        rw [List.mem_singleton.mp task_mem]
        rfl
    next => exact Untested.keeps ⟨rfl, rfl, rfl, by simp [Task.cooling]⟩ holds
  all_goals exact refused _

end Checks

theorem cooldownPool_kept (settings : Settings) :
    cooldownPool.KeptBy (withdrawService settings) tokenGuard where
  accept request state others holds _ := by
    cases request with
    | launchToBridge request =>
        have untested : Untested state (accept (.launchToBridge request) state) :=
          ⟨rfl, rfl, rfl, by simp [accept, Task.cooling]⟩
        exact untested.keeps holds
    | second =>
        refine ⟨holds.shared, fun other other_mem request cooldown task_eq tokens => ?_,
          by simp [withdrawService, accept], by simp [withdrawService, accept], .nil⟩
        obtain ⟨cooldown_nonneg, elapsed⟩ :=
          holds.own other other_mem request cooldown task_eq tokens
        refine ⟨cooldown_nonneg, ?_⟩
        simp only [withdrawService, accept]
        dsimp only at elapsed
        omega
  resume task reply state others holds own apart allowed := by
    have untested : ∀ result, Untested state result → cooldownPool.Keeps others result :=
      fun result untested => untested.keeps holds
    simp only [withdrawService]
    unfold resume
    split
    case h_1 launch token orderNum => exact untested _ ⟨rfl, rfl, rfl, by simp⟩
    case h_2 launch => exact untested _ ⟨rfl, rfl, rfl, by simp⟩
    case h_3 launch checked orderNum => exact untested _ ⟨rfl, rfl, rfl, by simp⟩
    case h_4 record => exact untested _ ⟨rfl, rfl, rfl, by simp⟩
    case h_5 => exact Pool.Keeps.ended holds
    case h_6 request opened => exact untested _ (untested_launchOpened settings request opened)
    case h_7 request banned => exact untested _ (untested_launchAllowed settings request banned)
    case h_8 request needed vipReduce buildReduce =>
      exact keeps_launchShip settings request holds allowed needed vipReduce buildReduce
    case h_9 request cooldown found =>
      exact keeps_launchWallet request holds (own request cooldown rfl)
        (fun tokens other other_mem => apart other other_mem tokens) found
    case h_10 request fee number => exact untested _ (untested_launchMit state _)
    case h_11 launch => exact untested _ ⟨rfl, rfl, rfl, by simp [Task.cooling]⟩
    case h_12 launch => exact untested _ ⟨rfl, rfl, rfl, by simp [Task.cooling]⟩
    case h_13 launch token number => exact untested _ ⟨rfl, rfl, rfl, by simp [Task.cooling]⟩
    case h_14 launch token orderNum =>
      have inserted : Untested state (state.insertTokenOrder launch token orderNum, []) :=
        ⟨rfl, rfl, rfl, by simp⟩
      exact untested _ (inserted.trans state (untested_launchInserted _ launch token))
    case h_15 launch =>
      have booked : Untested state (state.bookFeeForLp launch, []) := ⟨rfl, rfl, rfl, by simp⟩
      exact untested _ (booked.trans state (untested_launchNFTs _ launch))
    case h_16 launch checked rest => exact untested _ (untested_checkNFTs state launch checked rest)
    case h_17 launch checked number => exact untested _ ⟨rfl, rfl, rfl, by simp [Task.cooling]⟩
    case h_18 launch checked orderNum =>
      exact untested _ ⟨rfl, rfl, rfl, by simp [Task.cooling]⟩
    case h_19 record => exact untested _ ⟨rfl, rfl, rfl, by simp [Task.cooling]⟩
    case h_20 => exact Pool.Keeps.ended holds
    case h_21 => exact Pool.Keeps.unchanged holds own apart

/-! ## Tokens are conserved -/

theorem cooldownPool_start (resBag : ResBag) (bags : EntityBag → List Entity) (useId : Option ℕ)
    (chainId lastLaunchTick clock : ℤ) :
    cooldownPool.Holds (start resBag bags useId chainId lastLaunchTick clock) where
  shared := ⟨.nil, by simp [start]⟩
  own := by simp [start]
  apart := .nil

theorem token_unique {token second : Token} {res : Res} (res_eq : token.res? = some res)
    (second_eq : second.res? = some res) : second = token := by
  rw [← res_eq] at second_eq
  cases token <;> cases second <;> simp [Token.res?] at res_eq second_eq ⊢

theorem resLedger_carry_eq_zero {token : Token} {res : Res} (res_eq : token.res? = some res)
    (not_taken : task.taken ≠ some token) : (resLedger res).carry task.stage = 0 := by
  have not_hyt : task.taken = some .hyt → res ≠ .carboxyl := by
    rintro taken rfl
    exact not_taken (taken.trans (congrArg some (token_unique res_eq rfl)))
  cases task
  case pvpRatio launch => exact if_neg (not_hyt rfl)
  case starmapRatio launch => exact if_neg (not_hyt rfl)
  case genTokenOrder launch second =>
    exact if_neg fun second_eq => not_taken (congrArg some (token_unique res_eq second_eq))
  case insertToken launch second orderNum =>
    exact if_neg fun second_eq => not_taken (congrArg some (token_unique res_eq second_eq))
  all_goals rfl

theorem pvpLedger_carry_eq_zero (not_taken : task.taken ≠ some .hyt) (value : ℤ) :
    (pvpLedger value).carry task.stage = 0 := by
  cases task
  case starmapRatio launch => exact absurd rfl not_taken
  case genTokenOrder launch token =>
    cases token <;> first | rfl | exact absurd rfl not_taken
  case insertToken launch token orderNum =>
    cases token <;> first | rfl | exact absurd rfl not_taken
  all_goals rfl

theorem starmapLedger_carry_eq_zero (not_taken : task.taken ≠ some .hyt) (value : ℤ) :
    (starmapLedger value).carry task.stage = 0 := by
  cases task
  case genTokenOrder launch token =>
    cases token <;> first | rfl | exact absurd rfl not_taken
  case insertToken launch token orderNum =>
    cases token <;> first | rfl | exact absurd rfl not_taken
  all_goals rfl

theorem lpLedger_carry_nonneg (task : Task) (fee : ℤ) : 0 ≤ (lpLedger fee).carry task.stage := by
  cases task
  case incrFeeForLp launch =>
    simp only [lpLedger, Task.stage]
    split <;> decide
  all_goals exact le_rfl

theorem total_of_nothing_carried {ledger : Ledger State Stage ℤ} {config : Config State Task}
    (nothing : ∀ task ∈ config.waiting, ledger.carry task.stage = 0) :
    (stageLedger ledger).total config = ledger.book config.state := by
  rw [Ledger.total, carried_eq_zero nothing, add_zero]
  rfl

theorem book_le_total_lpLedger (fee : ℤ) (config : Config State Task) :
    (lpLedger fee).book config.state ≤ (stageLedger (lpLedger fee)).total config := by
  refine le_add_of_nonneg_right (List.sum_nonneg fun carried carried_mem => ?_)
  obtain ⟨task, -, rfl⟩ := List.mem_map.mp carried_mem
  exact lpLedger_carry_nonneg task fee

/-- Along every guarded schedule tokens are conserved. -/
theorem tokensConserved_run (settings : Settings) (resBag : ResBag)
    (bags : EntityBag → List Entity) (useId : Option ℕ) (chainId lastLaunchTick clock : ℤ)
    (events : List (Event Request Reply))
    (admits : tokenGuard.Admits (withdrawService settings)
      (start resBag bags useId chainId lastLaunchTick clock) events) :
    TokensConserved resBag ((withdrawService settings).run
      (start resBag bags useId chainId lastLaunchTick clock) events) := by
  have kept := cooldownPool_kept settings
  have started := cooldownPool_start resBag bags useId chainId lastLaunchTick clock
  have nothing_taken : ∀ ledger : Ledger State Stage ℤ, (stageLedger ledger).total
      (start resBag bags useId chainId lastLaunchTick clock) =
        ledger.book (start resBag bags useId chainId lastLaunchTick clock).state := fun ledger =>
    total_of_nothing_carried (by simp [start])
  refine ⟨fun token res res_eq none_taken => ?_, fun fee => ?_, fun none_taken value => ⟨?_, ?_⟩,
    (kept.holds_run admits started).shared.1⟩
  · have total_eq := (stageLedger_balanced rfl (fun _ => rfl)
      (resLedger_move res)).total_run kept admits started
    rw [nothing_taken, total_of_nothing_carried fun task task_mem =>
      resLedger_carry_eq_zero res_eq (none_taken task task_mem)] at total_eq
    have nothing_ordered :
        (start resBag bags useId chainId lastLaunchTick clock).state.ordered res = 0 := rfl
    simp only [resLedger, nothing_ordered] at total_eq
    have balance : (start resBag bags useId chainId lastLaunchTick clock).state.resBag =
      resBag := rfl
    rw [balance] at total_eq
    omega
  · have total_le := (stageLedger_falling rfl (fun _ => rfl)
      (lpLedger_move fee)).total_run kept admits started
    have book_le := (book_le_total_lpLedger fee _).trans total_le
    have nothing_booked :
        (lpLedger fee).book (start resBag bags useId chainId lastLaunchTick clock).state = 0 := rfl
    rw [nothing_taken, nothing_booked] at book_le
    simp only [lpLedger] at book_le
    omega
  · have total_eq := (stageLedger_balanced rfl (fun _ => rfl)
      (pvpLedger_move value)).total_run kept admits started
    have nothing_booked :
        (pvpLedger value).book (start resBag bags useId chainId lastLaunchTick clock).state = 0 :=
      rfl
    rw [nothing_taken, nothing_booked, total_of_nothing_carried fun task task_mem =>
      pvpLedger_carry_eq_zero (none_taken task task_mem) value] at total_eq
    simp only [pvpLedger] at total_eq
    omega
  · have total_eq := (stageLedger_balanced rfl (fun _ => rfl)
      (starmapLedger_move value)).total_run kept admits started
    have nothing_booked : (starmapLedger value).book
        (start resBag bags useId chainId lastLaunchTick clock).state = 0 := rfl
    rw [nothing_taken, nothing_booked, total_of_nothing_carried fun task task_mem =>
      starmapLedger_carry_eq_zero (none_taken task task_mem) value] at total_eq
    simp only [starmapLedger] at total_eq
    omega

/-- The limits of the source, with one chain and a cooldown of a day. -/
def daySettings : Settings where
  withdrawMinMIT := 10000
  withdrawMinHYT := 3000000
  withdrawCD := 86400
  validChain chainId := chainId = 56

def hytRequest : LaunchRequest where
  mit := 0
  hyt := 6000000
  entityNfts := []
  itemNfts := []
  nodup := by decide

def hytStart : Config State Task :=
  start ⟨fun res => if res = .carboxyl then 8000000 else 0⟩ (fun _ => []) none 56 0 100000

/-- The answers that take the request at a position past the test of the cooldown. -/
def untilWallet (index : ℕ) : List (Event Request Reply) :=
  [.reply index (.status true), .reply index (.ban false), .reply index (.needShip false 0 0)]

/-- A withdrawal of HYT, and a second request that is still cooling. -/
def singleRun : List (Event Request Reply) :=
  .request (.launchToBridge hytRequest) :: untilWallet 0 ++
    [.reply 0 (.wallet true), .reply 0 (.id 1), .reply 0 .done, .reply 0 .done, .reply 0 (.id 2),
      .reply 0 .done, .reply 0 .done, .request (.launchToBridge hytRequest)] ++ untilWallet 1

theorem tokensConserved_singleRun :
    TokensConserved ⟨fun res => if res = .carboxyl then 8000000 else 0⟩
      ((withdrawService daySettings).run hytStart singleRun) :=
  tokensConserved_run daySettings ⟨fun res => if res = .carboxyl then 8000000 else 0⟩
    (fun _ => []) none 56 0 100000 singleRun (by decide)

/-- Two requests pass the test of the cooldown before either sets the tick. -/
def hastyRun : List (Event Request Reply) :=
  .request (.launchToBridge hytRequest) :: untilWallet 0 ++
    .request (.launchToBridge hytRequest) :: untilWallet 1 ++
      [.reply 0 (.wallet true), .reply 0 (.wallet true), .reply 0 (.id 1), .reply 0 (.id 2),
        .reply 1 .done]

/-- Both requests are accepted in one second, and the fee of the second is booked without HYT. -/
theorem not_tokensConserved_hastyRun :
    ¬ TokensConserved ⟨fun res => if res = .carboxyl then 8000000 else 0⟩
      ((withdrawService daySettings).run hytStart hastyRun) := by
  intro conserved
  exact absurd conserved.cooldown (by decide)

end BasWar.ChainBridge.Withdraw
