import BasWar.Player.ShoppingMall
import BasWar.Tables.Periods

/-!
# Purchase limits and reloads

Within one period no goods, no paid refreshes and no daily gifts go beyond their limits, as long as
a player is loaded only while the mall is untouched and the last save holds the daily gifts bought
since.  A reload after a purchase brings the mall back to full.
-/

namespace BasWar.ShoppingMall

open Tables

namespace Entry

/-- The mall shows new goods. -/
def restocks : Entry → Bool
  | .paidRefresh | .freeRefresh | .startedOver => true
  | _ => false

def startsOver (entry : Entry) : Bool :=
  entry = .startedOver

def flushesGifts (entry : Entry) : Bool :=
  entry = .giftsFlushed

end Entry

/-- How often a daily gift may be bought before the gifts are flushed. -/
def giftLimit (config : Config) (productId : String) : ℕ :=
  ((config.dailyGiftBag productId).map fun cfg => cfg.num.val).getD 0

/-- No period of the journal has more purchases than the tables allow. -/
structure WithinLimits (config : Config) (journal : List Entry) : Prop where
  goods : ∀ index cfgId, Limited Entry.restocks (· = .bought index cfgId)
    (config.shoppingMall cfgId).buyNum journal
  refreshes : Limited Entry.startsOver (· = .paidRefresh) config.flushShoppingMallNum journal
  gifts : ∀ productId, Limited Entry.flushesGifts (· = .giftBought productId)
    (giftLimit config productId) journal

/-- Nothing was bought from the goods shown, and the mall was not refreshed for a price. -/
def Mall.Untouched (config : Config) (mall : Mall) : Prop :=
  mall.fresh = 1 ∧
    ∀ goods ∈ mall.data.objects, goods.num = (config.shoppingMall goods.cfgId).buyNum
  deriving Decidable

/-- A player is loaded while the mall is untouched and the last save holds the daily gifts. -/
def Event.Clear (config : Config) (bag : Bag) : Event → Prop
  | .load _ _ => bag.mall.Untouched config ∧
      ∀ productId ∈ config.isGiftBag,
        bag.saved.data productId = bag.dailyGiftBag.data productId
  | _ => True

instance (config : Config) (bag : Bag) (event : Event) : Decidable (event.Clear config bag) := by
  cases event <;> unfold Event.Clear <;> dsimp only <;> infer_instance

/-- How many of these goods may still be bought at this place. -/
def stock (config : Config) (data : Keyed Goods.index) (index cfgId : ℕ) : ℕ :=
  match data.get index with
  | none => (config.shoppingMall cfgId).buyNum
  | some goods => if goods.cfgId = cfgId then goods.num else (config.shoppingMall cfgId).buyNum

/-- The counters of the bag agree with what the journal says of the current periods. -/
structure Counted (config : Config) (journal : List Entry) (bag : Bag) : Prop where
  goods : ∀ index cfgId, sinceReset Entry.restocks (· = .bought index cfgId) journal +
    stock config bag.mall.data index cfgId = (config.shoppingMall cfgId).buyNum
  refreshes : sinceReset Entry.startsOver (· = .paidRefresh) journal + 1 = bag.mall.fresh
  fresh_le : bag.mall.fresh ≤ config.flushShoppingMallNum + 1
  gifts : ∀ productId, sinceReset Entry.flushesGifts (· = .giftBought productId) journal =
    bag.dailyGiftBag.data productId
  gifts_le : ∀ productId, bag.dailyGiftBag.data productId ≤ giftLimit config productId
  none_other : ∀ productId ∉ config.isGiftBag,
    bag.dailyGiftBag.data productId = 0 ∧ bag.saved.data productId = 0

theorem WithinLimits.concat {config : Config} {journal : List Entry} {entry : Entry} {bag : Bag}
    (within : WithinLimits config journal) (counted : Counted config (journal ++ [entry]) bag) :
    WithinLimits config (journal ++ [entry]) where
  goods index cfgId := (within.goods index cfgId).concat
    (le_of_le_of_eq (Nat.le_add_right _ _) (counted.goods index cfgId))
  refreshes := within.refreshes.concat (by
    have refreshes := counted.refreshes
    have fresh_le := counted.fresh_le
    omega)
  gifts productId := (within.gifts productId).concat
    (counted.gifts productId ▸ counted.gifts_le productId)

section Stock

variable {config : Config} {data : Keyed Goods.index} {goods : Goods}

theorem stock_full
    (full : ∀ goods ∈ data.objects, goods.num = (config.shoppingMall goods.cfgId).buyNum)
    (index cfgId : ℕ) : stock config data index cfgId = (config.shoppingMall cfgId).buyNum := by
  unfold stock
  cases found : data.get index with
  | none => rfl
  | some goods =>
      dsimp only
      split
      next same => rw [full goods (Keyed.get_mem found).1, same]
      · rfl

theorem newShoppingMall_full (picks : ℕ → ℕ) : ∀ goods ∈ (newShoppingMall config picks).objects,
    goods.num = (config.shoppingMall goods.cfgId).buyNum := by
  intro goods goods_mem
  obtain ⟨index, _, rfl⟩ := List.mem_map.mp goods_mem
  rfl

theorem stock_take (found : data.get goods.index = some goods) (left : 1 ≤ goods.num)
    (index cfgId : ℕ) :
    (if Entry.bought goods.index goods.cfgId = .bought index cfgId then 1 else 0) +
        stock config (data.put { goods with num := goods.num - 1 }) index cfgId =
      stock config data index cfgId := by
  by_cases same_index : index = goods.index
  · subst same_index
    have after : (data.put { goods with num := goods.num - 1 }).get goods.index =
        some { goods with num := goods.num - 1 } := Keyed.get_put_self found
    simp only [stock, found, after, Entry.bought.injEq, true_and]
    by_cases same : goods.cfgId = cfgId
    · simp only [same, if_true]
      omega
    · simp [same]
  · have after : (data.put { goods with num := goods.num - 1 }).get index = data.get index :=
      Keyed.get_put_of_ne same_index
    simp [stock, after, Ne.symm same_index]

end Stock

namespace Counted

variable {config : Config} {journal : List Entry} {bag : Bag}

section

variable (counted : Counted config journal bag)
include counted

theorem take {goods : Goods} (found : bag.mall.data.get goods.index = some goods)
    (left : 1 ≤ goods.num) :
    Counted config (journal ++ [.bought goods.index goods.cfgId]) (bag.take goods) where
  goods index cfgId := by
    have before := counted.goods index cfgId
    rw [← stock_take found left index cfgId, ← add_assoc] at before
    simpa [Entry.restocks, Bag.take] using before
  refreshes := by simpa [Entry.startsOver, Bag.take] using counted.refreshes
  fresh_le := counted.fresh_le
  gifts productId := by simpa [Entry.flushesGifts, Bag.take] using counted.gifts productId
  gifts_le := counted.gifts_le
  none_other := counted.none_other

theorem paidRefresh (below : bag.mall.fresh ≤ config.flushShoppingMallNum) (picks : ℕ → ℕ) :
    Counted config (journal ++ [.paidRefresh])
      { bag with
        mall := { bag.mall with
          data := newShoppingMall config picks
          fresh := bag.mall.fresh + 1 } } where
  goods index cfgId := by
    simp [Entry.restocks, stock_full (newShoppingMall_full picks)]
  refreshes := by
    have refreshes := counted.refreshes
    simpa [Entry.startsOver] using refreshes
  fresh_le := by
    dsimp only
    omega
  gifts productId := by simpa [Entry.flushesGifts] using counted.gifts productId
  gifts_le := counted.gifts_le
  none_other := counted.none_other

theorem freeRefresh (picks : ℕ → ℕ) :
    Counted config (journal ++ [.freeRefresh])
      { bag with mall := { bag.mall with data := newShoppingMall config picks } } where
  goods index cfgId := by
    simp [Entry.restocks, stock_full (newShoppingMall_full picks)]
  refreshes := by simpa [Entry.startsOver] using counted.refreshes
  fresh_le := counted.fresh_le
  gifts productId := by simpa [Entry.flushesGifts] using counted.gifts productId
  gifts_le := counted.gifts_le
  none_other := counted.none_other

theorem startedOver (now : ℤ) (picks : ℕ → ℕ) :
    Counted config (journal ++ [.startedOver]) { bag with mall := .start config now picks } where
  goods index cfgId := by
    simp [Entry.restocks, Mall.start, stock_full (newShoppingMall_full picks)]
  refreshes := by simp [Entry.startsOver, Mall.start]
  fresh_le := by simp [Mall.start]
  gifts productId := by simpa [Entry.flushesGifts] using counted.gifts productId
  gifts_le := counted.gifts_le
  none_other := counted.none_other

theorem giftBought {productId : String} (listed : productId ∈ config.isGiftBag)
    (below : bag.dailyGiftBag.data productId < giftLimit config productId) :
    Counted config (journal ++ [.giftBought productId])
      { bag with
        dailyGiftBag := { bag.dailyGiftBag with
          data := Function.update bag.dailyGiftBag.data productId
            (bag.dailyGiftBag.data productId + 1) } } where
  goods index cfgId := by simpa [Entry.restocks] using counted.goods index cfgId
  refreshes := by simpa [Entry.startsOver] using counted.refreshes
  fresh_le := counted.fresh_le
  gifts other := by
    have before := counted.gifts other
    by_cases same : other = productId
    · subst same
      simpa [Entry.flushesGifts] using before
    · simpa [Entry.flushesGifts, same, Ne.symm same] using before
  gifts_le other := by
    by_cases same : other = productId
    · subst same
      simpa using Nat.succ_le_of_lt below
    · simpa [same] using counted.gifts_le other
  none_other other unlisted := by
    have different : other ≠ productId := fun same => unlisted (same ▸ listed)
    simpa [different] using counted.none_other other unlisted

theorem giftsFlushed (nextTime : ℤ) :
    Counted config (journal ++ [.giftsFlushed])
      { bag with dailyGiftBag := ⟨nextTime, fun _ => 0⟩ } where
  goods index cfgId := by simpa [Entry.restocks] using counted.goods index cfgId
  refreshes := by simpa [Entry.startsOver] using counted.refreshes
  fresh_le := counted.fresh_le
  gifts productId := by simp [Entry.flushesGifts]
  gifts_le productId := Nat.zero_le _
  none_other productId unlisted := ⟨rfl, (counted.none_other productId unlisted).2⟩

theorem save : Counted config journal bag.save :=
  { counted with
    none_other := fun productId unlisted =>
      ⟨(counted.none_other productId unlisted).1, (counted.none_other productId unlisted).1⟩ }

theorem load (untouched : bag.mall.Untouched config)
    (saved : ∀ productId ∈ config.isGiftBag,
      bag.saved.data productId = bag.dailyGiftBag.data productId) (now : ℤ) (picks : ℕ → ℕ) :
    Counted config journal (bag.load config now picks) := by
  have saved_eq (productId : String) :
      bag.saved.data productId = bag.dailyGiftBag.data productId := by
    by_cases listed : productId ∈ config.isGiftBag
    · exact saved productId listed
    · rw [(counted.none_other productId listed).1, (counted.none_other productId listed).2]
  constructor
  case goods =>
    intro index cfgId
    have before := counted.goods index cfgId
    rw [stock_full untouched.2] at before
    simpa [Bag.load, Mall.start, stock_full (newShoppingMall_full picks)] using before
  case refreshes =>
    have before := counted.refreshes
    rwa [untouched.1] at before
  case fresh_le => simp [Bag.load, Mall.start]
  case gifts => exact fun productId => (counted.gifts productId).trans (saved_eq productId).symm
  case gifts_le => exact fun productId => saved_eq productId ▸ counted.gifts_le productId
  case none_other =>
    exact fun productId unlisted =>
      ⟨(counted.none_other productId unlisted).2, (counted.none_other productId unlisted).2⟩

end

end Counted

/-- The limits hold so far, and the counters agree with the journal. -/
structure Sound (config : Config) (journal : List Entry) (bag : Bag) : Prop where
  within : WithinLimits config journal
  counted : Counted config journal bag

namespace Sound

variable {config : Config} {journal : List Entry} {bag : Bag}

section

variable (sound : Sound config journal bag)
include sound

theorem concat {entry : Entry} {after : Bag} (counted : Counted config (journal ++ [entry]) after) :
    Sound config (journal ++ [entry]) after :=
  ⟨sound.within.concat counted, counted⟩

theorem silent {after : Bag} (counted : Counted config journal after) :
    Sound config (journal ++ []) after := by
  rw [List.append_nil]
  exact ⟨sound.within, counted⟩

theorem buyGoodsByTesseract (index : ℕ) (enoughRes : Bool) :
    Sound config (journal ++ (bag.buyGoodsByTesseract index enoughRes).2)
      (bag.buyGoodsByTesseract index enoughRes).1 := by
  unfold Bag.buyGoodsByTesseract
  split
  · exact sound.silent sound.counted
  next goods found =>
    split
    next tested =>
      have index_eq := (Keyed.get_mem found).2
      exact sound.concat (sound.counted.take (index_eq ▸ found) tested.1)
    · exact sound.silent sound.counted

theorem checkBuyGoodsByUsd (productId : String) :
    Sound config (journal ++ (bag.checkBuyGoodsByUsd config productId).2)
      (bag.checkBuyGoodsByUsd config productId).1 := by
  unfold Bag.checkBuyGoodsByUsd
  dsimp only
  split
  · exact sound.silent sound.counted
  next goods found =>
    split
    · exact sound.silent sound.counted
    next left =>
      have goods_mem := List.mem_of_mem_filter (List.mem_of_getLast? found)
      exact sound.concat (sound.counted.take (Keyed.get_of_mem goods_mem) (not_lt.mp left))

theorem freshShoppingMall (picks : ℕ → ℕ) (enoughRes : Bool) :
    Sound config (journal ++ (bag.freshShoppingMall config picks enoughRes).2)
      (bag.freshShoppingMall config picks enoughRes).1 := by
  unfold Bag.freshShoppingMall
  dsimp only
  split
  · exact sound.silent sound.counted
  next below =>
    split
    · exact sound.silent sound.counted
    · exact sound.concat (sound.counted.paidRefresh (not_lt.mp below) picks)

theorem setShoppingMall (now : ℤ) (picks : ℕ → ℕ) :
    Sound config (journal ++ (bag.setShoppingMall config now picks).2)
      (bag.setShoppingMall config now picks).1 := by
  unfold Bag.setShoppingMall
  split
  · exact sound.concat (sound.counted.startedOver now picks)
  · exact sound.silent sound.counted

theorem onDayUpdate (now : ℤ) (picks again : ℕ → ℕ) :
    Sound config (journal ++ (bag.onDayUpdate config now picks again).2)
      (bag.onDayUpdate config now picks again).1 := by
  have started := sound.setShoppingMall now picks
  have refreshed := started.concat (started.counted.freeRefresh again)
  rwa [List.append_assoc] at refreshed

theorem checkActProduct (productId : String) :
    Sound config (journal ++ (bag.checkActProduct config productId).2)
      (bag.checkActProduct config productId).1 := by
  unfold Bag.checkActProduct
  split
  next listed =>
    split
    · exact sound.silent sound.counted
    next cfg found =>
      dsimp only
      split
      · exact sound.silent sound.counted
      next not_reached =>
        refine sound.concat (sound.counted.giftBought listed ?_)
        have count_le := sound.counted.gifts_le productId
        have num_pos := cfg.num.pos
        simp only [giftLimit, found, Option.map_some, Option.getD_some] at count_le ⊢
        omega
  · exact sound.silent sound.counted

theorem flushBuyGiftBagNum (now : ℤ) :
    Sound config (journal ++ (bag.flushBuyGiftBagNum config now).2)
      (bag.flushBuyGiftBagNum config now).1 := by
  unfold Bag.flushBuyGiftBagNum
  split
  · exact sound.concat (sound.counted.giftsFlushed _)
  · exact sound.silent sound.counted

theorem step {event : Event} (clear : event.Clear config bag) :
    Sound config (journal ++ ((machine config).step bag event).2)
      ((machine config).step bag event).1 := by
  cases event with
  | buyGoodsByTesseract index enoughRes => exact sound.buyGoodsByTesseract index enoughRes
  | checkBuyGoodsByUsd productId => exact sound.checkBuyGoodsByUsd productId
  | freshShoppingMall picks enoughRes => exact sound.freshShoppingMall picks enoughRes
  | onlogin now picks => exact sound.setShoppingMall now picks
  | onDayUpdate now picks again => exact sound.onDayUpdate now picks again
  | checkActProduct productId => exact sound.checkActProduct productId
  | flushBuyGiftBagNum now => exact sound.flushBuyGiftBagNum now
  | save => exact sound.silent sound.counted.save
  | load now picks => exact sound.silent (sound.counted.load clear.1 clear.2 now picks)

end

end Sound

theorem sound_create (config : Config) (now : ℤ) (picks : ℕ → ℕ) :
    Sound config [] (Bag.create config now picks) where
  within := ⟨fun _ _ => limited_nil, limited_nil, fun _ => limited_nil⟩
  counted :=
    { goods := fun index cfgId => by
        simp [Bag.create, Mall.start, stock_full (newShoppingMall_full picks)]
      refreshes := rfl
      fresh_le := by simp [Bag.create, Mall.start]
      gifts := fun _ => rfl
      gifts_le := fun _ => Nat.zero_le _
      none_other := fun _ _ => ⟨rfl, rfl⟩ }

/-- As long as players are loaded only while their mall is untouched and their gifts are saved, no
period has more purchases than the tables allow, reloads included. -/
theorem withinLimits_run (config : Config) (now : ℤ) (picks : ℕ → ℕ) (events : List Event)
    (clear : (machine config).Allowed (fun bag event => event.Clear config bag)
      (Bag.create config now picks) events) :
    WithinLimits config ((machine config).run (Bag.create config now picks) events).2 :=
  (Machine.journal_run (Sound config) (fun _ _ _ sound clear => sound.step clear)
    (sound_create config now picks) clear).within

/-- Goods that may be bought once, five paid refreshes and one daily gift. -/
def sampleConfig : Config where
  shoppingMall _ := ⟨7110009, 150000, "", 1⟩
  startTime := 1679616000
  duration := 1
  interval := 0
  flushShoppingMallNum := 5
  flushShoppingMallCost := [(107, 100000)]
  isGiftBag := ["gb.skill.999"]
  dailyGiftBag productId := if productId = "gb.skill.999" then some ⟨5, 8910001⟩ else none
  dailyGiftActivity := some ⟨1, 1679616000, 4000000000⟩
  dayzerotime now := now - now % 86400

/-- The player buys the first goods, is saved and loaded on the same day, finds the same goods at
the first place and buys them again. -/
def boughtTwice : List Event :=
  [.buyGoodsByTesseract 1 true, .save, .load 1680000600 id, .onlogin 1680000600 id,
    .buyGoodsByTesseract 1 true]

theorem not_withinLimits_boughtTwice : ¬ WithinLimits sampleConfig
    ((machine sampleConfig).run (Bag.create sampleConfig 1680000000 id) boughtTwice).2 := by
  intro within
  have journal_eq : ((machine sampleConfig).run (Bag.create sampleConfig 1680000000 id)
      boughtTwice).2 = [.bought 1 1, .bought 1 1] := by decide +kernel
  have twice := within.goods 1 1 [.bought 1 1, .bought 1 1] (journal_eq ▸ List.infix_rfl)
    (by decide)
  exact absurd twice (by decide)

/-- A purchase, a refresh and a daily gift, then a new day, a save and a reload. -/
theorem withinLimits_run_sample : WithinLimits sampleConfig
    ((machine sampleConfig).run (Bag.create sampleConfig 1680000000 id)
      [.buyGoodsByTesseract 1 true, .buyGoodsByTesseract 1 true,
        .freshShoppingMall (fun place => place + 6) true, .buyGoodsByTesseract 1 true,
        .checkActProduct "gb.skill.999", .onDayUpdate 1680048000 id id, .save,
        .load 1680048100 id, .onlogin 1680048100 id, .buyGoodsByTesseract 1 true,
        .checkActProduct "gb.skill.999"]).2 :=
  withinLimits_run sampleConfig 1680000000 id _ (by decide +kernel)

end BasWar.ShoppingMall
