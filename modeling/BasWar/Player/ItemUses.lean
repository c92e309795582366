import BasWar.Cooperative.Service
import BasWar.Player.ItemStacks

/-!
# Items that are used

A handler that uses items of a stack runs their effects first and takes the items from the stack
afterwards; for a unique item it asks the share service before and tells it at the end.  Effects may
add items, some of which are used on their own.  A handler is a list of acts, and other handlers may
run after each act.  The server switches only at calls, so that its schedules are among these.
-/

namespace BasWar.ItemUses

open Tables Cooperative
open Selling (Item Loose ItemData)

/-- What one row of `itemEffect` gives. -/
inductive Effect
  | res (resCfgId value : ℤ)
  | hero (cfgId quality level : ℤ)
  | warShip (cfgId quality level : ℤ)
  | card (cfgId : ℤ) (num : ℕ+)
  | buildQueue (time : ℤ)
  | build (cfgId quality level : ℤ)

/-- A row of the item table, with the rows of its effects. -/
structure UseCfg extends Items.ItemCfg where
  canUse : Bool
  canResolve : Bool
  unique : Bool
  useNeedBaseLevel : Option ℕ
  effect : List Effect
  resolveItem : List (ℤ × ℕ+)

structure ItemTables where
  cfgs : ℤ → Option UseCfg
  /-- `RES_KEYS`. -/
  isRes : ℤ → Bool
  cards : Selling.CardCfg
  resolve_rows : ∀ cfgId cfg, cfgs cfgId = some cfg → ∀ entry ∈ cfg.resolveItem,
    isRes entry.1 = true ∨ (cfgs entry.1).isSome

/-- The id of an item that a handler holds. -/
def looseId (loose : Loose) : ℤ :=
  loose.item.id

/-- A player's items and what their uses have done. -/
structure State where
  /-- With items that handlers may still hold, although they have left the bag. -/
  items : Keyed looseId
  /-- The next `snowflake.uuid`. -/
  nextId : ℤ
  /-- `REDIS_USED_UNIQUE_ITEMS`. -/
  used : ℤ → Bool
  /-- What effects, sales and resolving have given. -/
  credited : List Effect
  /-- How often the effects of a stack have been applied. -/
  applied : ℤ → ℤ
  /-- How often the effects of a kind have been applied. -/
  appliedOf : ℤ → ℤ
  /-- How many items of a stack have been removed because they were used. -/
  removed : ℤ → ℤ

inductive Act
  | useItem (id count : ℤ)
  | autoUseItem (id count : ℤ)
  /-- `getUsedItem` at the share service. -/
  | getUsedItem (auto : Bool) (id count cfgId : ℤ)
  | answered (auto : Bool) (id count cfgId : ℤ) (used : Bool)
  /-- A round of `useItemEffect`. -/
  | round (id cfgId : ℤ)
  | effect (effect : Effect)
  /-- `costItemNum`, for a use or for resolving. -/
  | costItemNum (id count : ℤ) (byUse : Bool)
  | setUsedItem (cfgId : ℤ)
  | addItem (cfgId : ℤ) (num : ℕ+)
  /-- The first loop of `addItem`. -/
  | overlay (cfgId : ℤ) (ids : List ℤ) (left : ℤ)
  /-- The second loop of `addItem`. -/
  | newItems (cfgId left : ℤ)
  | resolveItem (id count : ℤ)
  | sellSkillCard (itemData : List ItemData)

/-- What an act leaves: the acts to do next, or nothing if an assertion ends the handler, and the
`setUsedItem` messages. -/
structure Outcome where
  state : State
  acts : Option (List Act)
  sent : List ℤ

/-- An act that goes on with other acts. -/
def Outcome.go (state : State) (acts : List Act) : Outcome :=
  ⟨state, some acts, []⟩

namespace State

def object (id : ℤ) (state : State) : Option Item :=
  (state.items.get id).map Loose.item

/-- `items[id]`. -/
def getItem (id : ℤ) (state : State) : Option Item :=
  ((state.items.get id).filter Loose.inBag).map Loose.item

def numOf (id : ℤ) (state : State) : ℤ :=
  ((state.object id).map Item.num).getD 0

/-- Write the number of an item; an item in the bag leaves it without a number. -/
def setNum (id num : ℤ) (state : State) : State :=
  match state.items.get id with
  | none => state
  | some loose =>
      { state with
        items := state.items.put
          ⟨{ loose.item with num }, loose.inBag && decide (0 < num)⟩ }

def getItemsByCfgId (cfgId : ℤ) (state : State) : List Item :=
  (Selling.inBag state.items.objects).filter fun item => item.cfgId = cfgId

def getItemNumByCfgId (cfgId : ℤ) (state : State) : ℤ :=
  ((state.getItemsByCfgId cfgId).map Item.num).sum

def credit (effect : Effect) (state : State) : State :=
  { state with credited := state.credited ++ [effect] }

end State

/-- `useItemEffect` with what follows it. -/
def useActs (cfg : UseCfg) (id count cfgId : ℤ) : List Act :=
  (List.replicate count.toNat (.round id cfgId :: cfg.effect.map .effect)).flatten ++
    .costItemNum id count true :: if cfg.unique then [.setUsedItem cfgId] else []

/-- The base level and the number allow a use. -/
def mayUse (cfg : UseCfg) (baseLevel : ℕ) (count num : ℤ) : Bool :=
  cfg.useNeedBaseLevel.all (· ≤ baseLevel) && decide (0 < count ∧ count ≤ num)

def useItem (tables : ItemTables) (baseLevel : ℕ) (id count : ℤ) (state : State) : List Act :=
  match state.getItem id with
  | none => []
  | some item =>
      match tables.cfgs item.cfgId with
      | none => []
      | some cfg =>
          if cfg.canUse then
            if cfg.unique then [.getUsedItem false id count item.cfgId]
            else if mayUse cfg baseLevel count item.num then useActs cfg id count item.cfgId
            else []
          else []

def autoUseItem (tables : ItemTables) (id count : ℤ) (state : State) : List Act :=
  match state.getItem id with
  | none => []
  | some item =>
      match tables.cfgs item.cfgId with
      | none => []
      | some cfg =>
          if 0 < count ∧ count ≤ item.num then
            if cfg.unique then [.getUsedItem true id count item.cfgId]
            else useActs cfg id count item.cfgId
          else []

/-- The rest of both after `getUsedItem`. -/
def afterUsed (tables : ItemTables) (baseLevel : ℕ) (auto : Bool) (id count cfgId : ℤ)
    (used : Bool) (state : State) : List Act :=
  match tables.cfgs cfgId with
  | none => []
  | some cfg =>
      if used then []
      else if auto || mayUse cfg baseLevel count (state.numOf id) then useActs cfg id count cfgId
      else []

/-- The assertion fails for an item that has too few. -/
def costItemNum (id count : ℤ) (byUse : Bool) (state : State) : Outcome :=
  if state.numOf id - count < 0 then ⟨state, none, []⟩
  else
    let cost := state.setNum id (state.numOf id - count)
    .go (if byUse then
      { cost with removed := Function.update cost.removed id (cost.removed id + count) }
      else cost) []

/-- What follows an item that has got a number. -/
def placed (cfg : UseCfg) (id num : ℤ) (rest : List Act) : List Act :=
  (if cfg.isAutoUse then [.autoUseItem id num] else []) ++ rest

/-- One item of the first loop; the loop ends when nothing is left. -/
def overlay (cfg : UseCfg) (cfgId : ℤ) (ids : List ℤ) (left : ℤ) (state : State) : Outcome :=
  match ids with
  | [] => .go state [.newItems cfgId left]
  | id :: ids =>
      if state.numOf id < cfg.maxNum then
        let addNum := min left (cfg.maxNum - state.numOf id)
        .go (state.setNum id (state.numOf id + addNum))
          (placed cfg id addNum
            (if left - addNum ≤ 0 then [] else [.overlay cfgId ids (left - addNum)]))
      else .go state [.overlay cfgId ids left]

/-- One item of the second loop; an id that is taken ends the loop. -/
def newItems (cfg : UseCfg) (cfgId left : ℤ) (state : State) : Outcome :=
  if left ≤ 0 then .go state []
  else
    match state.items.get state.nextId with
    | some _ => .go state []
    | none =>
        let itemNum := min left cfg.maxNum
        .go
          { state with
            items := state.items.add ⟨⟨state.nextId, cfgId, itemNum⟩, true⟩
            nextId := state.nextId + 1 }
          (placed cfg state.nextId itemNum [.newItems cfgId (left - itemNum)])

/-- The items of `itemDict` after all rounds; `count` is positive. -/
def resolvedItems (tables : ItemTables) (cfg : UseCfg) (count : ℤ) : Dict ℤ ℕ+ :=
  cfg.resolveItem.foldl (fun itemDict entry =>
    if tables.isRes entry.1 then itemDict
    else
      let value := entry.2 * count.toNat.toPNat'
      itemDict.assign entry.1 (((itemDict.lookup entry.1).map (· + value)).getD value)) Keyed.empty

/-- `resDict` after any number of rounds. -/
def resolvedRes (tables : ItemTables) (cfg : UseCfg) : Dict ℤ ℕ+ :=
  cfg.resolveItem.foldl (fun resDict entry =>
    if tables.isRes entry.1 then resDict.assign entry.1 entry.2 else resDict) Keyed.empty

def resolveItem (tables : ItemTables) (id count : ℤ) (state : State) : List Act :=
  match state.getItem id with
  | none => []
  | some item =>
      match tables.cfgs item.cfgId with
      | none => []
      | some cfg =>
          if cfg.canResolve ∧ 0 < count ∧ count ≤ item.num then
            (resolvedItems tables cfg count).objects.map (fun entry => .addItem entry.1 entry.2) ++
              (resolvedRes tables cfg).objects.map (fun entry => .effect (.res entry.1 entry.2)) ++
              [.costItemNum id count false]
          else []

/-- The price of an entry, unless the first loop refuses it. -/
def offer (tables : ItemTables) (state : State) (data : ItemData) : Option ℤ :=
  (state.getItem data.id).bind fun item =>
    if state.getItemNumByCfgId item.cfgId < data.num then none
    else (tables.cards.resNum item.cfgId).toOption.map (· * data.num)

/-- Nothing follows the second loop in its handler, also if an assertion ends it. -/
def sellSkillCard (tables : ItemTables) (itemData : List ItemData) (state : State) : State :=
  match itemData.mapM (offer tables state) with
  | none => state
  | some prices =>
      let sold := { state with
        items := state.items.rewrite (fun objects => (Selling.costItems itemData objects).1)
          (Selling.ids_costItems itemData) }
      if (Selling.costItems itemData state.items.objects).2 then
        sold.credit (.res Resources.resStarCoin prices.sum)
      else sold

def perform (tables : ItemTables) (baseLevel : ℕ) (act : Act) (state : State) : Outcome :=
  match act with
  | .useItem id count => .go state (useItem tables baseLevel id count state)
  | .autoUseItem id count => .go state (autoUseItem tables id count state)
  | .getUsedItem auto id count cfgId =>
      .go state [.answered auto id count cfgId (state.used cfgId)]
  | .answered auto id count cfgId used =>
      .go state (afterUsed tables baseLevel auto id count cfgId used state)
  | .round id cfgId =>
      .go
        { state with
          applied := Function.update state.applied id (state.applied id + 1)
          appliedOf := Function.update state.appliedOf cfgId (state.appliedOf cfgId + 1) }
        []
  | .effect (.card cfgId num) => .go (state.credit (.card cfgId num)) [.addItem cfgId num]
  | .effect effect => .go (state.credit effect) []
  | .costItemNum id count byUse => costItemNum id count byUse state
  | .setUsedItem cfgId => ⟨state, some [], [cfgId]⟩
  | .addItem cfgId num =>
      .go state (if (tables.cfgs cfgId).isSome then
        [.overlay cfgId ((state.getItemsByCfgId cfgId).map Item.id) num] else [])
  | .overlay cfgId ids left =>
      match tables.cfgs cfgId with
      | none => .go state []
      | some cfg => overlay cfg cfgId ids left state
  | .newItems cfgId left =>
      match tables.cfgs cfgId with
      | none => .go state []
      | some cfg => newItems cfg cfgId left state
  | .resolveItem id count => .go state (resolveItem tables id count state)
  | .sellSkillCard itemData => .go (sellSkillCard tables itemData state) []

/-- A suspended handler, or a `setUsedItem` message on its way. -/
inductive Task
  | handler (acts : List Act)
  | marking (cfgId : ℤ)

/-- A request of the player, or items that another request adds. -/
inductive Request
  | useItem (id count : ℤ)
  | autoUseItem (id count : ℤ)
  | resolveItem (id count : ℤ)
  | sellSkillCard (itemData : List ItemData)
  | addItem (cfgId : ℤ) (num : ℕ+)

def Request.act : Request → Act
  | .useItem id count => .useItem id count
  | .autoUseItem id count => .autoUseItem id count
  | .resolveItem id count => .resolveItem id count
  | .sellSkillCard itemData => .sellSkillCard itemData
  | .addItem cfgId num => .addItem cfgId num

/-- The item bag; an answer carries the level of the base. -/
def service (tables : ItemTables) : Service State Request Task ℕ where
  accept request state := (state, [.handler [request.act]])
  resume
    | .handler [], _, state => (state, [])
    | .handler (act :: acts), baseLevel, state =>
        let outcome := perform tables baseLevel act state
        (outcome.state,
          (outcome.acts.map fun more => Task.handler (more ++ acts)).toList ++
            outcome.sent.map .marking)
    | .marking cfgId, _, state =>
        ({ state with used := Function.update state.used cfgId true }, [])

end BasWar.ItemUses
