import BasWar.Cooperative.Pool
import BasWar.Player.Selling
import Mathlib.Tactic.Linarith

/-!
# Heroes and warships that are dismantled

A hero or warship gives the card of its skill.  A card of a new stack is noted by another service
while the hero is still there, and it is removed afterwards without a second look.
-/

namespace BasWar.Dismantling

open Cooperative
open Selling (refNone sellingPrice)

inductive Kind
  | hero
  | warShip
  deriving DecidableEq

structure Entity where
  quality : ℤ
  chain : ℤ
  isUpgrade : Bool
  ref : ℤ
  skill1 : ℕ
  skillLevel1 : ℤ
  skillLevel2 : ℤ
  skillLevel3 : ℤ

structure ItemCfg where
  maxNum : ℕ
  /-- The type is `ITEM_SKILL`. -/
  skill : Bool

structure Cfgs where
  /-- `itemCfgId` of a skill with its quality and level. -/
  card : Kind → ℕ → ℤ → ℤ → Option ℕ
  item : ℕ → Option ItemCfg

structure Item where
  cfgId : ℕ
  num : ℕ

abbrev Key := Kind × ℤ

/-- What was removed, and whether it was in use then. -/
structure Removal where
  key : Key
  entity : Entity
  inUse : Bool

structure State where
  bags : Key → Option Entity
  useId : Kind → ℤ
  items : List Item
  dismantled : List Removal
  sold : List Removal

namespace State

/-- The checks of an entry; only a warship may not be in use. -/
def accepts (state : State) (key : Key) (entity : Entity) : Prop :=
  entity.chain ≤ 0 ∧ entity.isUpgrade = false ∧ entity.ref = refNone ∧
    (key.1 = .warShip → state.useId .warShip ≠ key.2) ∧
    entity.skillLevel1 ≤ 1 ∧ entity.skillLevel2 ≤ 0 ∧ entity.skillLevel3 ≤ 0
  deriving Decidable

def removal (state : State) (key : Key) (entity : Entity) : Removal :=
  ⟨key, entity, decide (state.useId key.1 = key.2)⟩

/-- `delHero` and `delWarShip` for a dismantled entity. -/
def dismantle (key : Key) (state : State) : State :=
  match state.bags key with
  | none => state
  | some entity =>
      { state with
        bags := Function.update state.bags key none
        dismantled := state.removal key entity :: state.dismantled }

/-- `delHero` and `delWarShip` for a sold entity. -/
def sell (key : Key) (state : State) : State :=
  match state.bags key with
  | none => state
  | some entity =>
      { state with
        bags := Function.update state.bags key none
        sold := state.removal key entity :: state.sold }

end State

/-- One more item on a stack that is not full, if there is one. -/
def addItemNum (cfgId maxNum : ℕ) : List Item → Option (List Item)
  | [] => none
  | item :: items =>
      if item.cfgId = cfgId ∧ item.num < maxNum then
        some ({ item with num := item.num + 1 } :: items)
      else (addItemNum cfgId maxNum items).map (item :: ·)

/-- `addItem` of one item; the flag tells that a new skill card has to be noted. -/
def addItem (cfgs : Cfgs) (cfgId : ℕ) (items : List Item) : Option (List Item × Bool) :=
  (cfgs.item cfgId).map fun cfg =>
    match addItemNum cfgId cfg.maxNum items with
    | some added => (added, false)
    | none => (items ++ [⟨cfgId, 1⟩], cfg.skill)

/-- A dismantle that waits for the note of its card, with the entries that come after. -/
structure Task where
  key : Key
  rest : List ℤ

/-- The loop of `dismantleHero` and `dismantleWarShip`. -/
def dismantle (cfgs : Cfgs) (kind : Kind) : List ℤ → State → State × List Task
  | [], state => (state, [])
  | id :: ids, state =>
      match state.bags (kind, id) with
      | none => (state, [])
      | some entity =>
          if state.accepts (kind, id) entity then
            match (cfgs.card kind entity.skill1 entity.quality entity.skillLevel1).bind
                (addItem cfgs · state.items) with
            | none => (state, [])
            | some (items, false) =>
                dismantle cfgs kind ids (State.dismantle (kind, id) { state with items })
            | some (items, true) => ({ state with items }, [⟨(kind, id), ids⟩])
          else (state, [])

/-- `sellHero` and `sellWarShip` without the star coins. -/
def sell (kind : Kind) (ids : List ℤ) (state : State) : State :=
  if ids.all fun id => (state.bags (kind, id)).any fun entity =>
      state.accepts (kind, id) entity && (sellingPrice entity.quality).isSome then
    ids.foldl (fun state id => state.sell (kind, id)) state
  else state

inductive Request
  | dismantle (kind : Kind) (ids : List ℤ)
  | sell (kind : Kind) (ids : List ℤ)
  /-- An army, a donation, an upgrade or a mint changes an entity. -/
  | change (key : Key) (entity : Entity)
  | setUse (kind : Kind) (id : ℤ)

inductive Reply
  | deliver
  /-- The card is new to the player, and a second call writes its note. -/
  | isNew
  | raise

def accept (cfgs : Cfgs) (request : Request) (state : State) : State × List Task :=
  match request with
  | .dismantle kind ids => dismantle cfgs kind ids state
  | .sell kind ids => (sell kind ids state, [])
  | .change key entity =>
      let bags := Function.update state.bags key ((state.bags key).map fun _ => entity)
      ({ state with bags }, [])
  | .setUse kind id =>
      if (state.bags (kind, id)).isSome then
        ({ state with useId := Function.update state.useId kind id }, [])
      else (state, [])

def resume (cfgs : Cfgs) (task : Task) (reply : Reply) (state : State) : State × List Task :=
  match reply with
  | .deliver => dismantle cfgs task.key.1 task.rest (state.dismantle task.key)
  | .isNew => (state, [task])
  | .raise => (state, [])

def service (cfgs : Cfgs) : Service State Request Task Reply where
  accept := accept cfgs
  resume := resume cfgs

/-- No dismantle waits for an entity. -/
def Untouched (others : List Task) (key : Key) : Prop :=
  ∀ task ∈ others, task.key ≠ key
  deriving Decidable

/-- The listed entities are no heroes in use, and no dismantle waits for them. -/
def Clear (state : State) (others : List Task) (kind : Kind) (ids : List ℤ) : Prop :=
  ∀ id ∈ ids, Untouched others (kind, id) ∧ (kind = .hero → state.useId .hero ≠ id)
  deriving Decidable

/-- What a dismantle waits for is left alone until it goes on, heroes in use are not listed, and no
note fails. -/
def alone : Guard State Request Task Reply where
  onRequest request state others :=
    match request with
    | .dismantle kind ids | .sell kind ids => Clear state others kind ids
    | .change key _ => Untouched others key
    | .setUse kind id => Untouched others (kind, id)
  onReply task reply state others :=
    match reply with
    | .deliver => Clear state others task.key.1 task.rest
    | .isNew => True
    | .raise => False

instance (request state others) : Decidable (alone.onRequest request state others) := by
  cases request <;> unfold alone <;> infer_instance

instance (task reply state others) : Decidable (alone.onReply task reply state others) := by
  cases reply <;> unfold alone <;> infer_instance

structure Removal.Free (removal : Removal) : Prop where
  chain : removal.entity.chain ≤ 0
  isUpgrade : removal.entity.isUpgrade = false
  ref : removal.entity.ref = refNone
  unused : removal.inUse = false

def total (items : List Item) : ℤ :=
  (items.map fun item => (item.num : ℤ)).sum

/-- There is a card for each dismantled entity and for each that is about to be removed, nothing is
both sold and dismantled, and what was removed was free. -/
structure DismantledOnce (start : State) (config : Config State Task) : Prop where
  cards : total config.state.items =
    total start.items + config.state.dismantled.length + config.waiting.length
  once : ∀ removal ∈ config.state.dismantled, ∀ sale ∈ config.state.sold, removal.key ≠ sale.key
  free : ∀ removal ∈ config.state.dismantled ++ config.state.sold, removal.Free

/-- What was removed was free and is gone, once. -/
structure State.Settled (state : State) : Prop where
  free : ∀ removal ∈ state.dismantled ++ state.sold, removal.Free
  gone : ∀ removal ∈ state.dismantled ++ state.sold, state.bags removal.key = none
  once : ∀ removal ∈ state.dismantled, ∀ sale ∈ state.sold, removal.key ≠ sale.key

def State.Ready (state : State) (key : Key) : Prop :=
  ∃ entity, state.bags key = some entity ∧ (state.removal key entity).Free

def removalPool : Pool State Task where
  shared := State.Settled
  own state task := state.Ready task.key
  apart first second := first.key ≠ second.key
  apart_symm apart := apart.symm

section Removals

variable {cfgs : Cfgs} {state : State} {others : List Task} {key : Key} {entity : Entity}
  {kind : Kind} {ids : List ℤ}

theorem State.accepts.free (accepted : state.accepts key entity)
    (unused : key.1 = .hero → state.useId .hero ≠ key.2) : (state.removal key entity).Free := by
  obtain ⟨chain, isUpgrade, ref, warShip, -⟩ := accepted
  refine ⟨chain, isUpgrade, ref, decide_eq_false fun same => ?_⟩
  obtain ⟨kind, id⟩ := key
  cases kind with
  | hero => exact unused rfl same
  | warShip => exact warShip rfl same

theorem State.Ready.of_update {value : Option Entity} {next : State} {other : Key}
    (ready : state.Ready other) (different : other ≠ key)
    (bags : next.bags = Function.update state.bags key value) (useId : next.useId = state.useId) :
    next.Ready other := by
  obtain ⟨entity, found, free⟩ := ready
  refine ⟨entity, ?_, ?_⟩
  · rwa [bags, Function.update_of_ne different]
  · rwa [State.removal, useId]

theorem holds_removed {next : State} (holds : removalPool.Holds ⟨state, others⟩)
    (free : (state.removal key entity).Free) (found : state.bags key = some entity)
    (untouched : Untouched others key) (bags : next.bags = Function.update state.bags key none)
    (useId : next.useId = state.useId)
    (lists : next.dismantled = state.removal key entity :: state.dismantled ∧
        next.sold = state.sold ∨
      next.dismantled = state.dismantled ∧ next.sold = state.removal key entity :: state.sold) :
    removalPool.Holds ⟨next, others⟩ := by
  have members : ∀ removal ∈ next.dismantled ++ next.sold,
      removal = state.removal key entity ∨ removal ∈ state.dismantled ++ state.sold := by
    intro removal mem
    obtain ⟨dismantled, sold⟩ | ⟨dismantled, sold⟩ := lists <;>
      simp only [dismantled, sold, List.mem_append, List.mem_cons] at mem ⊢ <;> tauto
  have old_ne : ∀ removal ∈ state.dismantled ++ state.sold, removal.key ≠ key := by
    rintro removal mem rfl
    exact Option.some_ne_none _ (found.symm.trans (holds.shared.gone removal mem))
  refine ⟨⟨fun removal mem => ?_, fun removal mem => ?_, fun removal mem sale sale_mem => ?_⟩,
    fun task mem => ?_, holds.apart⟩
  · obtain rfl | old := members removal mem
    · exact free
    · exact holds.shared.free removal old
  · change next.bags removal.key = none
    rw [bags]
    obtain rfl | old := members removal mem
    · exact Function.update_self _ _ _
    · rw [Function.update_of_ne (old_ne removal old)]
      exact holds.shared.gone removal old
  · obtain ⟨dismantled, sold⟩ | ⟨dismantled, sold⟩ := lists
    · change removal ∈ next.dismantled at mem
      change sale ∈ next.sold at sale_mem
      rw [sold] at sale_mem
      obtain rfl | old := List.mem_cons.mp (dismantled ▸ mem)
      · exact (old_ne sale (List.mem_append_right _ sale_mem)).symm
      · exact holds.shared.once removal old sale sale_mem
    · change removal ∈ next.dismantled at mem
      change sale ∈ next.sold at sale_mem
      rw [dismantled] at mem
      obtain rfl | old := List.mem_cons.mp (sold ▸ sale_mem)
      · exact old_ne removal (List.mem_append_left _ mem)
      · exact holds.shared.once removal mem sale old
  · have ready : state.Ready task.key := holds.own task mem
    exact ready.of_update (untouched task mem) bags useId

theorem holds_items (holds : removalPool.Holds ⟨state, others⟩) (items : List Item) :
    removalPool.Holds ⟨{ state with items }, others⟩ :=
  ⟨⟨holds.shared.free, holds.shared.gone, holds.shared.once⟩, holds.own, holds.apart⟩

theorem dismantle_of_found (found : state.bags key = some entity) :
    state.dismantle key = { state with
      bags := Function.update state.bags key none
      dismantled := state.removal key entity :: state.dismantled } := by
  rw [State.dismantle, found]

theorem holds_dismantle (holds : removalPool.Holds ⟨state, others⟩) (ready : state.Ready key)
    (untouched : Untouched others key) : removalPool.Holds ⟨state.dismantle key, others⟩ := by
  obtain ⟨entity, found, free⟩ := ready
  rw [dismantle_of_found found]
  exact holds_removed holds free found untouched rfl rfl (.inl ⟨rfl, rfl⟩)

theorem useId_dismantle (state : State) (key : Key) :
    (state.dismantle key).useId = state.useId := by
  unfold State.dismantle
  split <;> rfl

theorem useId_sell (state : State) (key : Key) : (state.sell key).useId = state.useId := by
  unfold State.sell
  split <;> rfl

theorem dismantle_keeps (cfgs : Cfgs) (holds : removalPool.Holds ⟨state, others⟩)
    (clear : Clear state others kind ids) :
    removalPool.Keeps others (dismantle cfgs kind ids state) := by
  induction ids generalizing state with
  | nil => exact .ended holds
  | cons id ids ih =>
      obtain ⟨untouched, unused⟩ := clear id List.mem_cons_self
      have rest : Clear state others kind ids := fun other mem =>
        clear other (List.mem_cons_of_mem _ mem)
      unfold dismantle
      split
      · exact .ended holds
      next entity found =>
        split
        next accepted =>
          have free : (state.removal (kind, id) entity).Free := accepted.free unused
          split
          · exact .ended holds
          next items _ =>
            refine ih (holds_dismantle (holds_items holds items) ⟨entity, found, free⟩ untouched) ?_
            intro other mem
            rw [useId_dismantle]
            exact rest other mem
          next items _ =>
            have kept := holds_items holds items
            exact ⟨kept.shared, kept.own, List.forall_mem_singleton.mpr ⟨entity, found, free⟩,
              fun task mem => List.forall_mem_singleton.mpr (untouched task mem),
              List.pairwise_singleton _ _⟩
        · exact .ended holds

theorem holds_sell (holds : removalPool.Holds ⟨state, others⟩)
    (clear : Clear state others kind ids) : removalPool.Holds ⟨sell kind ids state, others⟩ := by
  unfold sell
  split
  next offered =>
    have free_of : ∀ id ∈ ids, ∀ entity, state.bags (kind, id) = some entity →
        (state.removal (kind, id) entity).Free := by
      intro id mem entity found
      have accepted := List.all_eq_true.mp offered id mem
      rw [found, Option.any_some, Bool.and_eq_true, decide_eq_true_eq] at accepted
      exact accepted.1.free (clear id mem).2
    clear offered
    induction ids generalizing state with
    | nil => exact holds
    | cons id ids ih =>
        obtain ⟨untouched, -⟩ := clear id List.mem_cons_self
        have bags_of : ∀ key entity, (state.sell (kind, id)).bags key = some entity →
            state.bags key = some entity := by
          intro key entity found
          unfold State.sell at found
          split at found
          · exact found
          · dsimp only at found
            by_cases same : key = (kind, id)
            · rw [same, Function.update_self] at found
              contradiction
            · rwa [Function.update_of_ne same] at found
        refine ih ?_ (fun other mem => ?_) fun other mem entity found => ?_
        · change removalPool.Holds ⟨state.sell (kind, id), others⟩
          cases found : state.bags (kind, id) with
          | none => rwa [State.sell, found]
          | some entity =>
              rw [State.sell, found]
              exact holds_removed holds (free_of id List.mem_cons_self entity found) found untouched
                rfl rfl (.inr ⟨rfl, rfl⟩)
        · rw [useId_sell]
          exact clear other (List.mem_cons_of_mem _ mem)
        · rw [State.removal, useId_sell]
          exact free_of other (List.mem_cons_of_mem _ mem) entity (bags_of _ _ found)
  · exact holds

theorem removalPool_kept (cfgs : Cfgs) : removalPool.KeptBy (service cfgs) alone where
  accept request state others holds allows := by
    cases request with
    | dismantle kind ids => exact dismantle_keeps cfgs holds allows
    | sell kind ids => exact .ended (holds_sell holds allows)
    | change key entity =>
        have ready : ∀ task ∈ others, state.Ready task.key := holds.own
        refine .ended ⟨⟨holds.shared.free, fun removal mem => ?_, holds.shared.once⟩,
          fun task mem => (ready task mem).of_update (allows task mem) rfl rfl, holds.apart⟩
        have gone := holds.shared.gone removal mem
        by_cases same : removal.key = key
        · change Function.update state.bags key _ removal.key = none
          rw [same, Function.update_self, ← same, gone, Option.map_none]
        · change Function.update state.bags key _ removal.key = none
          rwa [Function.update_of_ne same]
    | setUse kind id =>
        dsimp only [service, accept]
        split
        case isFalse => exact .ended holds
        refine .ended ⟨⟨holds.shared.free, holds.shared.gone, holds.shared.once⟩,
          fun task mem => ?_, holds.apart⟩
        obtain ⟨entity, found, chain, isUpgrade, ref, unused⟩ := holds.own task mem
        refine ⟨entity, found, chain, isUpgrade, ref, decide_eq_false fun same => ?_⟩
        dsimp only at same
        by_cases kind_eq : task.key.1 = kind
        · rw [kind_eq, Function.update_self] at same
          exact allows task mem (Prod.ext kind_eq same.symm)
        · rw [Function.update_of_ne kind_eq] at same
          exact of_decide_eq_false unused same
  resume task reply state others holds ready apart allows := by
    cases reply with
    | deliver =>
        have untouched : Untouched others task.key := fun other mem => (apart other mem).symm
        refine dismantle_keeps cfgs (holds_dismantle holds ready untouched) fun id mem => ?_
        rw [useId_dismantle]
        exact allows id mem
    | isNew => exact .unchanged holds ready apart
    | raise => exact allows.elim

end Removals

section Cards

variable {cfgs : Cfgs} {state start : State} {items added : List Item}

theorem total_addItemNum {cfgId maxNum : ℕ}
    (some_added : addItemNum cfgId maxNum items = some added) : total added = total items + 1 := by
  induction items generalizing added with
  | nil => cases some_added
  | cons item items ih =>
      unfold addItemNum at some_added
      split at some_added
      · obtain rfl := Option.some.inj some_added
        simp only [total, List.map_cons, List.sum_cons]
        push_cast
        ring
      · obtain ⟨rest, rest_added, rfl⟩ := Option.map_eq_some_iff.mp some_added
        have rest_total := ih rest_added
        simp only [total, List.map_cons, List.sum_cons] at rest_total ⊢
        rw [rest_total, add_assoc]

theorem total_addItem {cfgId : ℕ} {note : Bool}
    (some_added : addItem cfgs cfgId items = some (added, note)) :
    total added = total items + 1 := by
  obtain ⟨cfg, -, added_eq⟩ := Option.map_eq_some_iff.mp some_added
  split at added_eq
  next found =>
    cases added_eq
    exact total_addItemNum found
  · cases added_eq
    simp [total]

/-- The cards without those of dismantled entities; what waits still has to be removed. -/
def cardLedger : Ledger State Task ℤ where
  book state := total state.items - state.dismantled.length
  carry _ := -1

theorem book_dismantle {key : Key} (found : (state.bags key).isSome = true) :
    cardLedger.book (state.dismantle key) = cardLedger.book state - 1 := by
  obtain ⟨entity, found⟩ := Option.isSome_iff_exists.mp found
  rw [dismantle_of_found found]
  simp only [cardLedger, List.length_cons]
  push_cast
  ring

theorem dismantle_balances (cfgs : Cfgs) (kind : Kind) (ids : List ℤ) (state : State) :
    cardLedger.Balances state 0 (dismantle cfgs kind ids state) := by
  induction ids generalizing state with
  | nil => simp [dismantle, Ledger.Balances]
  | cons id ids ih =>
      unfold dismantle
      split
      · simp [Ledger.Balances]
      next entity found =>
        split
        · split
          · simp [Ledger.Balances]
          next items carded =>
            obtain ⟨cfgId, -, some_added⟩ := Option.bind_eq_some_iff.mp carded
            have there : (({ state with items } : State).bags (kind, id)).isSome = true := by
              rw [found]
              rfl
            have later := ih (State.dismantle (kind, id) { state with items })
            rw [Ledger.Balances, add_zero, book_dismantle there] at later
            have grown : total items = total state.items + 1 := total_addItem some_added
            rw [Ledger.Balances, later]
            simp only [cardLedger, grown]
            ring
          next items carded =>
            obtain ⟨cfgId, -, some_added⟩ := Option.bind_eq_some_iff.mp carded
            have grown : total items = total state.items + 1 := total_addItem some_added
            simp only [Ledger.Balances, cardLedger, grown, List.map_cons, List.map_nil,
              List.sum_cons, List.sum_nil]
            ring
        · simp [Ledger.Balances]

theorem book_sell (kind : Kind) (ids : List ℤ) (state : State) :
    cardLedger.book (sell kind ids state) = cardLedger.book state := by
  unfold sell
  split
  · clear * -
    induction ids generalizing state with
    | nil => rfl
    | cons id ids ih =>
        rw [List.foldl_cons, ih]
        unfold State.sell
        split <;> rfl
  · rfl

theorem cardLedger_balanced (cfgs : Cfgs) :
    cardLedger.BalancedBy removalPool (service cfgs) alone where
  accept request state others _ _ := by
    cases request with
    | dismantle kind ids => exact dismantle_balances cfgs kind ids state
    | sell kind ids =>
        exact (add_zero _).trans ((book_sell kind ids state).trans (add_zero _).symm)
    | change => rfl
    | setUse =>
        dsimp only [service, accept]
        split <;> rfl
  resume task reply state others _ ready _ allows := by
    cases reply with
    | deliver =>
        obtain ⟨entity, found, -⟩ := ready
        have later := dismantle_balances cfgs task.key.1 task.rest (state.dismantle task.key)
        rw [Ledger.Balances, book_dismantle (by rw [found]; rfl), add_zero] at later
        exact later.trans (sub_eq_add_neg _ _)
    | isNew => simp [service, resume, Ledger.Balances]
    | raise => exact allows.elim

/-- While nothing touches an entity that a dismantle waits for, each dismantled entity gives one
card, and nothing is removed that may not be. -/
theorem dismantledOnce_run (cfgs : Cfgs) (start : State) (events : List (Event Request Reply))
    (fresh : start.dismantled = [] ∧ start.sold = [])
    (admits : alone.Admits (service cfgs) ⟨start, []⟩ events) :
    DismantledOnce start ((service cfgs).run ⟨start, []⟩ events) := by
  have begins : removalPool.Holds ⟨start, []⟩ := by
    refine ⟨⟨?_, ?_, ?_⟩, fun _ mem => absurd mem List.not_mem_nil, .nil⟩ <;>
      simp [fresh.1, fresh.2]
  have settled := ((removalPool_kept cfgs).holds_run admits begins).shared
  have total_eq := (cardLedger_balanced cfgs).total_run (removalPool_kept cfgs) admits begins
  refine ⟨?_, settled.once, settled.free⟩
  simp only [Ledger.total, cardLedger, List.map_const', List.sum_replicate, fresh.1,
    List.length_nil, List.map_nil, List.sum_nil, nsmul_eq_mul] at total_eq
  push_cast at total_eq
  linarith

def sampleCfgs : Cfgs where
  card _ skill1 _ _ := some skill1
  item _ := some ⟨99, true⟩

/-- Heroes and warships that nothing keeps busy, without any card. -/
def sampleState : State where
  bags _ := some ⟨1, 0, false, refNone, 7001, 1, 0, 0⟩
  useId _ := 9
  items := []
  dismantled := []
  sold := []

theorem dismantledOnce_sampleRun : DismantledOnce sampleState ((service sampleCfgs).run
    ⟨sampleState, []⟩ [.request (.dismantle .hero [1, 2]), .request (.sell .hero [3]),
      .request (.dismantle .warShip [1]), .reply 0 .isNew, .reply 0 .deliver]) :=
  dismantledOnce_run sampleCfgs sampleState _ ⟨rfl, rfl⟩ (by decide)

/-- A second request gives a second card for a hero that waits for its first one. -/
theorem not_dismantledOnce_again : ¬ DismantledOnce sampleState ((service sampleCfgs).run
    ⟨sampleState, []⟩ [.request (.dismantle .hero [1]), .request (.dismantle .hero [1]),
      .reply 0 .deliver]) :=
  fun dismantled => absurd dismantled.cards (by decide)

end Cards

end BasWar.Dismantling
