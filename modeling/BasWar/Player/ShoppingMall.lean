import BasWar.Player.Rewards
import BasWar.Tables.Journal
import BasWar.Tables.Keyed

/-!
# Purchases with a limit

The shopping mall of a player shows six goods, each with the number that may still be bought.  A
paid refresh or the next day brings new goods; the paid refreshes are counted until the mall starts
over.  Daily gifts are counted by product until they are flushed.  The recharge bag is built anew
when a player is loaded and then takes over what was saved: the mall is not.  Which goods are drawn
and whether the resources cover a price is given with each event.
-/

namespace BasWar.ShoppingMall

open Tables

structure GoodsCfg where
  item : ℕ
  price : ℕ
  productId : String
  buyNum : ℕ

structure Config where
  shoppingMall : ℕ → GoodsCfg
  /-- `startTime`, `duration` and `interval` of the activity `SHOPING_MALL`. -/
  startTime : ℤ
  duration : ℕ
  interval : ℕ
  flushShoppingMallNum : ℕ
  flushShoppingMallCost : List (ℕ × ℕ)
  isGiftBag : List String
  dailyGiftBag : String → Option Rewards.DailyGift
  /-- The activity `DAILYGIFT`. -/
  dailyGiftActivity : Option Rewards.GiftActivity
  /-- `gg.time.dayzerotime` of a time. -/
  dayzerotime : ℤ → ℤ

/-- `TIME_ONE_DAY_TO_SECONE`. -/
def timeOneDay : ℤ :=
  86400

structure Goods where
  index : ℕ
  cfgId : ℕ
  num : ℕ

structure Mall where
  startTimes : ℤ
  overTimes : ℤ
  data : Keyed Goods.index
  fresh : ℕ

/-- `newShoppingMall`; `picks` are the rows that `chooseByValue` draws. -/
def newShoppingMall (config : Config) (picks : ℕ → ℕ) : Keyed Goods.index where
  objects := (List.range' 1 6).map fun (i : ℕ) =>
    ⟨i, picks i, (config.shoppingMall (picks i)).buyNum⟩
  nodup := by simp [Function.comp_def, List.nodup_range']

def initShoppingMallStartime (config : Config) (now : ℤ) : ℤ :=
  if 0 < now - config.startTime then
    let period := timeOneDay * config.duration + timeOneDay * config.interval
    if 0 < (now - config.startTime) / period then
      now - (now - config.startTime) % period
    else
      config.startTime
  else
    config.startTime

/-- The mall as `ctor` and `setShoppingMall` build it. -/
def Mall.start (config : Config) (now : ℤ) (picks : ℕ → ℕ) : Mall where
  startTimes := initShoppingMallStartime config now
  overTimes := initShoppingMallStartime config now + timeOneDay * config.duration
  data := newShoppingMall config picks
  fresh := 1

/-- `dailyGiftBag`, in the bag and as it is saved. -/
structure DailyGiftBag where
  nextTime : ℤ
  data : String → ℕ

/-- `isValid` of the activity `DAILYGIFT`. -/
def dailyGiftValid (config : Config) (now : ℤ) : Bool :=
  match config.dailyGiftActivity with
  | none => false
  | some row => row.status ≠ 0 ∧ row.startTime ≤ now ∧ now ≤ row.endTime

/-- The recharge bag and the part of it that was last saved. -/
structure Bag where
  mall : Mall
  dailyGiftBag : DailyGiftBag
  saved : DailyGiftBag

inductive Entry
  /-- Goods at a place of the mall were bought. -/
  | bought (index cfgId : ℕ)
  | paidRefresh
  | freeRefresh
  | startedOver
  | giftBought (productId : String)
  | giftsFlushed
  deriving DecidableEq

namespace Bag

def create (config : Config) (now : ℤ) (picks : ℕ → ℕ) : Bag :=
  let gifts := ⟨config.dayzerotime now + timeOneDay, fun _ => 0⟩
  ⟨.start config now picks, gifts, gifts⟩

def take (bag : Bag) (goods : Goods) : Bag :=
  { bag with
    mall := { bag.mall with data := bag.mall.data.put { goods with num := goods.num - 1 } } }

def buyGoodsByTesseract (bag : Bag) (index : ℕ) (enoughRes : Bool) : Bag × List Entry :=
  match bag.mall.data.get index with
  | none => (bag, [])
  | some goods =>
      if 1 ≤ goods.num ∧ enoughRes then
        (bag.take goods, [.bought goods.index goods.cfgId])
      else
        (bag, [])

/-- `checkBuyGoodsByUsd`, which sells the last goods shown for the product; a payment for goods that
are sold out is compensated by mail. -/
def checkBuyGoodsByUsd (config : Config) (bag : Bag) (productId : String) : Bag × List Entry :=
  let shown (goods : Goods) : Bool :=
    productId ≠ "" ∧ (config.shoppingMall goods.cfgId).productId = productId
  match (bag.mall.data.objects.filter shown).getLast? with
  | none => (bag, [])
  | some goods =>
      if goods.num < 1 then (bag, []) else (bag.take goods, [.bought goods.index goods.cfgId])

/-- `freshShoppingMall`, unless it is free. -/
def freshShoppingMall (config : Config) (bag : Bag) (picks : ℕ → ℕ) (enoughRes : Bool) :
    Bag × List Entry :=
  if config.flushShoppingMallNum < bag.mall.fresh then
    (bag, [])
  else
    -- the last price holds for all further refreshes
    let freshCount := min bag.mall.fresh config.flushShoppingMallCost.length
    if freshCount = 0 ∨ enoughRes = false then
      (bag, [])
    else
      ({ bag with
          mall := { bag.mall with
            data := newShoppingMall config picks
            fresh := bag.mall.fresh + 1 } }, [.paidRefresh])

def setShoppingMall (config : Config) (now : ℤ) (bag : Bag) (picks : ℕ → ℕ) : Bag × List Entry :=
  if bag.mall.overTimes ≤ now then
    ({ bag with mall := .start config now picks }, [.startedOver])
  else
    (bag, [])

/-- `onDayUpdate`: `setShoppingMall` and a free `freshShoppingMall`. -/
def onDayUpdate (config : Config) (now : ℤ) (bag : Bag) (picks again : ℕ → ℕ) :
    Bag × List Entry :=
  let (bag, entries) := bag.setShoppingMall config now picks
  ({ bag with mall := { bag.mall with data := newShoppingMall config again } },
    entries ++ [.freeRefresh])

/-- `checkActProduct` for daily gifts, with `getGiftReward`. -/
def checkActProduct (config : Config) (bag : Bag) (productId : String) : Bag × List Entry :=
  if productId ∈ config.isGiftBag then
    match config.dailyGiftBag productId with
    | none => (bag, [])
    | some cfg =>
        let count := bag.dailyGiftBag.data productId
        if 0 < count ∧ count = cfg.num then
          (bag, [])
        else
          ({ bag with
              dailyGiftBag := { bag.dailyGiftBag with
                data := Function.update bag.dailyGiftBag.data productId (count + 1) } },
            [.giftBought productId])
  else
    (bag, [])

def flushBuyGiftBagNum (config : Config) (now : ℤ) (bag : Bag) : Bag × List Entry :=
  if dailyGiftValid config now ∧ bag.dailyGiftBag.nextTime ≤ now then
    ({ bag with dailyGiftBag := ⟨config.dayzerotime now + timeOneDay, fun _ => 0⟩ },
      [.giftsFlushed])
  else
    (bag, [])

/-- `serialize`, of what is limited. -/
def save (bag : Bag) : Bag :=
  { bag with saved := bag.dailyGiftBag }

/-- `ctor` and `deserialize`: the gifts are taken from the document, the mall is new. -/
def load (config : Config) (now : ℤ) (bag : Bag) (picks : ℕ → ℕ) : Bag :=
  { bag with
    mall := .start config now picks
    dailyGiftBag := bag.saved }

end Bag

inductive Event
  | buyGoodsByTesseract (index : ℕ) (enoughRes : Bool)
  | checkBuyGoodsByUsd (productId : String)
  | freshShoppingMall (picks : ℕ → ℕ) (enoughRes : Bool)
  /-- `setShoppingMall` at a login. -/
  | onlogin (now : ℤ) (picks : ℕ → ℕ)
  | onDayUpdate (now : ℤ) (picks again : ℕ → ℕ)
  | checkActProduct (productId : String)
  | flushBuyGiftBagNum (now : ℤ)
  | save
  /-- The player is loaded from the last save. -/
  | load (now : ℤ) (picks : ℕ → ℕ)

def machine (config : Config) : Machine Bag Event Entry where
  step bag
    | .buyGoodsByTesseract index enoughRes => bag.buyGoodsByTesseract index enoughRes
    | .checkBuyGoodsByUsd productId => bag.checkBuyGoodsByUsd config productId
    | .freshShoppingMall picks enoughRes => bag.freshShoppingMall config picks enoughRes
    | .onlogin now picks => bag.setShoppingMall config now picks
    | .onDayUpdate now picks again => bag.onDayUpdate config now picks again
    | .checkActProduct productId => bag.checkActProduct config productId
    | .flushBuyGiftBagNum now => bag.flushBuyGiftBagNum config now
    | .save => (bag.save, [])
    | .load now picks => (bag.load config now picks, [])

end BasWar.ShoppingMall
