import BasWar.Player.ItemStock
import BasWar.Player.Resources

/-!
# Card pools

A draw is paid with resources, with items, with both, or with the free time of the pool.  Every pool
counts the draws since the last good one, and gives a card of its `minimumGroup` in time.
-/

namespace BasWar.DrawCards

open Items Resources

inductive ItemType
  | hero
  | build
  | warShip
  | other
  deriving DecidableEq

structure ItemRow extends ItemCfg where
  itemType : ItemType
  quality : ℤ
  unique : Bool
  /-- `skillCfgID`: a skill and its level. -/
  skill : Option (ℤ × ℤ)

structure Price where
  id : ℤ
  num : ℤ
  num_pos : 0 < num

structure PoolCfg where
  available : Bool
  commonGroup : List (ℤ × ℕ)
  minimumCount : ℤ
  minQuality : ℤ
  minimumGroup : List (ℤ × ℕ)
  freeTime : ℤ
  costItem : Option Price
  costRes : Option Price
  costItemInMuilt : Option Price
  costResInMuilt : Option Price
  firstReward : List ℤ

/-- `total` in `table.chooseByValue`. -/
def total (group : List (ℤ × ℕ)) : ℕ :=
  (group.map (·.2)).sum

/-- The second loop of `table.chooseByValue`. -/
def chosen : List (ℤ × ℕ) → ℕ → Option ℤ
  | [], _ => none
  | entry :: rest, num => if num ≤ entry.2 then some entry.1 else chosen rest (num - entry.2)

/-- `table.chooseByValue`; `math.random(1, 0)` raises. -/
def chooseByValue (group : List (ℤ × ℕ)) (dice : ℕ) : Option ℤ :=
  if total group = 0 then none else chosen group (dice % total group + 1)

variable {group : List (ℤ × ℕ)}

theorem chosen_mem {num : ℕ} {cfgId : ℤ} (found : chosen group num = some cfgId) :
    ∃ entry ∈ group, entry.1 = cfgId := by
  induction group generalizing num with
  | nil => contradiction
  | cons entry rest ih =>
      unfold chosen at found
      split at found
      · exact ⟨entry, List.mem_cons_self, Option.some.inj found⟩
      · obtain ⟨other, other_mem, same⟩ := ih found
        exact ⟨other, List.mem_cons_of_mem entry other_mem, same⟩

theorem chosen_isSome {num : ℕ} (num_pos : 0 < num) (le : num ≤ total group) :
    (chosen group num).isSome := by
  induction group generalizing num with
  | nil =>
      have : num ≤ 0 := le
      omega
  | cons entry rest ih =>
      have total_eq : total (entry :: rest) = entry.2 + total rest := rfl
      unfold chosen
      split
      · rfl
      · exact ih (by omega) (by omega)

theorem chooseByValue_spec (total_pos : 0 < total group) (dice : ℕ) :
    ∃ entry ∈ group, chooseByValue group dice = some entry.1 := by
  unfold chooseByValue
  rw [if_neg total_pos.ne']
  have num_le : dice % total group + 1 ≤ total group := Nat.mod_lt dice total_pos
  obtain ⟨cfgId, found⟩ := Option.isSome_iff_exists.mp (chosen_isSome (Nat.succ_pos _) num_le)
  obtain ⟨entry, entry_mem, rfl⟩ := chosen_mem found
  exact ⟨entry, entry_mem, found⟩

def PoolCfg.cards (pool : PoolCfg) : List ℤ :=
  pool.commonGroup.map (·.1) ++ pool.minimumGroup.map (·.1) ++ pool.firstReward

structure CardTables where
  items : ℤ → Option ItemRow
  cardPool : ℤ → Option PoolCfg
  /-- The hero of an id and a quality, at level 1. -/
  heroConfig : ℤ → ℤ → Bool
  skillConfig : ℤ → ℤ → Bool
  /-- The bounds of a hero's life by its quality. -/
  life : ℤ → Option (ℕ × ℕ)
  drawCardDiscount : ℚ
  discount_nonneg : 0 ≤ drawCardDiscount

namespace CardTables

def cfgs (tables : CardTables) : ItemCfgs :=
  fun cfgId => (tables.items cfgId).map ItemRow.toItemCfg

def complete (tables : CardTables) (cfgId : ℤ) (row : ItemRow) : Bool :=
  match row.itemType with
  | .hero => tables.heroConfig cfgId row.quality
  | .build | .warShip => true
  | .other => row.skill.any fun skill => tables.skillConfig skill.1 skill.2

/-- Every pool that is available has cards to choose from, and all rows of its cards. -/
structure Filled (tables : CardTables) : Prop where
  common : ∀ cfgId pool, tables.cardPool cfgId = some pool → pool.available →
    0 < total pool.commonGroup
  minimum : ∀ cfgId pool, tables.cardPool cfgId = some pool → pool.available →
    0 < pool.minimumCount → 0 < total pool.minimumGroup
  rows : ∀ cfgId pool, tables.cardPool cfgId = some pool → pool.available →
    ∀ card ∈ pool.cards, ∃ row, tables.items card = some row ∧ tables.complete card row

end CardTables

/-- `cardPool[cfgId]` of a player. -/
structure CardData where
  count : ℤ
  drawTime : ℤ
  first : Bool

/-- `_initOne` makes this. -/
def CardData.new : CardData where
  count := 0
  drawTime := 0
  first := true

structure Hero where
  cfgId : ℤ
  quality : ℤ
  level : ℤ
  life : ℤ
  curLife : ℤ

structure Record where
  drawTime : ℤ
  cfgId : ℤ
  itemCfgId : ℤ

/-- A card, and whether it was chosen from `minimumGroup`. -/
structure Drawn where
  itemCfgId : ℤ
  guaranteed : Bool
  deriving DecidableEq

/-- A player's bags as far as draws touch them. -/
structure Player (tables : CardTables) where
  resBag : Resources.ResBag
  stock : Stock tables.cfgs
  heros : List Hero
  /-- The kinds whose items were used on their own, with their effects. -/
  autoUsed : List ℤ
  /-- `REDIS_USED_UNIQUE_ITEMS`. -/
  used : ℤ → Bool
  cardPool : ℤ → Option CardData
  cardGetRecords : List Record

/-- What a call finds outside the bags. -/
structure World where
  now : ℤ
  inner : Bool
  /-- `checkHeroTotal`, `checkBuildTotal` or `checkWarShipTotal`. -/
  noSpace : Bool
  /-- `checkDrawCardDiscount`. -/
  discounted : Bool
  /-- The random numbers of each round: one for the card, one for the life of a hero. -/
  dice : ℕ → ℕ × ℕ

structure Request where
  cfgId : ℤ
  drawCount : ℤ
  isGm : Bool

inductive Refusal
  | notInner
  | argErr
  | cfgNotExist
  | drawNotExist
  | hqNoSpace
  | resNotEnough (resCfgId : ℤ)
  | itemNotEnough
  deriving DecidableEq

inductive Answer
  | refused (refusal : Refusal)
  | drawn (drawn : List Drawn)
  deriving DecidableEq

def drawCardRecSize : ℕ :=
  200

/-- `DEFAULT_LIFT`. -/
def defaultLife : ℤ :=
  50

variable {tables : CardTables}

def randomHeroLife (tables : CardTables) (quality : ℤ) (dice : ℕ) : ℤ :=
  match tables.life quality with
  | none => defaultLife
  | some (minLife, maxLife) => minLife + dice % (maxLife - minLife + 1)

namespace PoolCfg

/-- The guarantee of `minimumCount` is due. -/
def guarantee (pool : PoolCfg) (data : CardData) : Bool :=
  decide (0 < pool.minimumCount ∧ pool.minimumCount ≤ data.count + 1)

/-- The first reward of a pool that has not been drawn from. -/
def firstItem (pool : PoolCfg) (data : CardData) : Option ℤ :=
  if data.first then pool.firstReward.head? else none

def choose (pool : PoolCfg) (dice : ℕ) (data : CardData) : Option Drawn :=
  match pool.firstItem data with
  | some cfgId => some ⟨cfgId, false⟩
  | none =>
      (chooseByValue (if pool.guarantee data then pool.minimumGroup else pool.commonGroup) dice).map
        fun cfgId => ⟨cfgId, pool.guarantee data⟩

def counted (pool : PoolCfg) (quality : ℤ) (data : CardData) : CardData :=
  { data with
    first := false
    count := if pool.guarantee data ∨ pool.minQuality ≤ quality then 0 else data.count + 1 }

end PoolCfg

namespace Player

/-- A card goes to the heroes or to the items.  An item that is used on its own leaves the stacks as
they were. -/
def give (cfgId : ℤ) (row : ItemRow) (dice : ℕ) (player : Player tables) : Player tables :=
  if row.itemType = .hero then
    let life := randomHeroLife tables row.quality dice
    { player with heros := player.heros ++ [⟨cfgId, row.quality, 1, life, life⟩] }
  else if row.isAutoUse ∧ ¬ (row.unique ∧ player.used cfgId) then
    { player with
      autoUsed := player.autoUsed ++ [cfgId]
      used := if row.unique then Function.update player.used cfgId true else player.used }
  else { player with stock := player.stock.addItem cfgId 1 }

/-- Append a record; the oldest ones go when there are too many. -/
def addRecord (record : Record) (player : Player tables) : Player tables :=
  let records := player.cardGetRecords
  { player with
    cardGetRecords := records.drop (records.length - drawCardRecSize) ++ [record] }

def setCardData (cfgId : ℤ) (data : CardData) (player : Player tables) : Player tables :=
  { player with cardPool := Function.update player.cardPool cfgId (some data) }

/-- One round of the loop of `drawCard`; `none` stands for an error. -/
def drawOne (cfgId : ℤ) (pool : PoolCfg) (now : ℤ) (dice : ℕ × ℕ) (data : CardData)
    (player : Player tables) : Option (Player tables × CardData × Drawn) :=
  (pool.choose dice.1 data).bind fun drawn =>
    ((tables.items drawn.itemCfgId).filter (tables.complete drawn.itemCfgId)).map fun row =>
      let data := pool.counted row.quality data
      let given := player.give drawn.itemCfgId row dice.2
      ((given.addRecord ⟨now, cfgId, drawn.itemCfgId⟩).setCardData cfgId data, data, drawn)

/-- The loop of `drawCard`. -/
def drawLoop (cfgId : ℤ) (pool : PoolCfg) (now : ℤ) : List (ℕ × ℕ) → CardData → Player tables →
    Option (Player tables × CardData × List Drawn)
  | [], data, player => some (player, data, [])
  | dice :: rolls, data, player =>
      (player.drawOne cfgId pool now dice data).bind fun first =>
        (drawLoop cfgId pool now rolls first.2.1 first.1).map fun rest =>
          (rest.1, rest.2.1, first.2.2 :: rest.2.2)

end Player

def costCount (pool : PoolCfg) (now drawCount : ℤ) (data : CardData) : ℤ :=
  if drawCount = 1 then
    if 0 < pool.freeTime then
      if 0 < data.drawTime ∧ now < data.drawTime + pool.freeTime then 1 else 0
    else 1
  else drawCount

/-- The resource and what it costs. -/
def resPrice (tables : CardTables) (discounted : Bool) (pool : PoolCfg) (costCount : ℤ) :
    Option (ResId × ℚ) :=
  if 0 < costCount then
    (if costCount = 1 then pool.costRes else pool.costResInMuilt).map fun price =>
      (price.id, price.num * costCount *
        if price.id = resTesseract ∧ discounted then tables.drawCardDiscount else 1)
  else none

def itemPrice (pool : PoolCfg) (costCount : ℤ) : Option (ℤ × ℤ) :=
  if 0 < costCount then
    (if costCount = 1 then pool.costItem else pool.costItemInMuilt).map fun price =>
      (price.id, price.num * costCount)
  else none

namespace Player

def payRes (price : Option (ResId × ℚ)) (player : Player tables) :
    Player tables × Option Refusal :=
  match price with
  | none => (player, none)
  | some (resCfgId, resCount) =>
      if player.resBag.enoughRes resCfgId resCount then
        ({ player with resBag := player.resBag.costRes resCfgId resCount }, none)
      else (player, some (.resNotEnough resCfgId))

def payItem (price : Option (ℤ × ℤ)) (player : Player tables) : Player tables × Option Refusal :=
  match price with
  | none => (player, none)
  | some (itemCfgId, itemCount) =>
      if player.stock.count itemCfgId < itemCount then (player, some .itemNotEnough)
      else ({ player with stock := player.stock.costItem itemCfgId itemCount }, none)

/-- The cost part of `drawCard`: the resource is taken before the items are looked at. -/
def pay (world : World) (pool : PoolCfg) (costCount : ℤ) (player : Player tables) :
    Player tables × Option Refusal :=
  let paidRes := player.payRes (resPrice tables world.discounted pool costCount)
  match paidRes.2 with
  | some refusal => (paidRes.1, some refusal)
  | none => paidRes.1.payItem (itemPrice pool costCount)

/-- The loop of `drawCard` and the stamp of a free draw. -/
def draws (world : World) (request : Request) (pool : PoolCfg) (data : CardData)
    (player : Player tables) : Option (Player tables × Answer) :=
  (player.drawLoop request.cfgId pool world.now
    ((List.range request.drawCount.toNat).map world.dice) data).map fun drawn =>
      let data := drawn.2.1
      (if 0 < pool.freeTime ∧ request.drawCount = 1 ∧
          data.drawTime + pool.freeTime ≤ world.now then
        drawn.1.setCardData request.cfgId { data with drawTime := world.now }
      else drawn.1, .drawn drawn.2.2)

/-- `DrawCardBag:drawCard`; `none` stands for an error. -/
def drawCard (world : World) (request : Request) (player : Player tables) :
    Option (Player tables × Answer) :=
  if request.isGm ∧ ¬ world.inner then some (player, .refused .notInner)
  else if request.drawCount < 1 then some (player, .refused .argErr)
  else
    match tables.cardPool request.cfgId with
    | none => some (player, .refused .cfgNotExist)
    | some pool =>
        match player.cardPool request.cfgId with
        | none => some (player, .refused .drawNotExist)
        | some data =>
            if world.noSpace then some (player, .refused .hqNoSpace)
            else
              let paid := player.pay world pool (costCount pool world.now request.drawCount data)
              match paid.2 with
              | some refusal => some (paid.1, .refused refusal)
              | none => paid.1.draws world request pool data

def initOne (cfgId : ℤ) (player : Player tables) : Player tables :=
  match tables.cardPool cfgId, player.cardPool cfgId with
  | some pool, none => if pool.available then player.setCardData cfgId .new else player
  | _, _ => player

end Player

end BasWar.DrawCards
