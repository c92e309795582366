import BasWar.Player.Selling
import Mathlib.Data.List.Infix

/-!
# Skill cards that a player sells

The request names stacks of the item bag, with a number for each.  The first loop compares a number
with all cards of the same kind; the second one takes from the named stacks, until one of them has
too few cards.
-/

namespace BasWar.Selling

open Tables Resources

structure Item where
  id : ℤ
  cfgId : ℤ
  num : ℤ
  deriving DecidableEq

/-- A bag has no empty stacks. -/
structure ItemBag where
  items : Keyed Item.id
  stocked : ∀ item ∈ items.objects, 0 < item.num

structure ItemData where
  id : ℤ
  num : ℤ

structure CardCfg where
  /-- The row of an item, with its column `skillCfgID`. -/
  itemCfg : ℤ → Option (Option (ℤ × ℤ))
  /-- The quality in the row of `skillConfig`. -/
  quality : ℤ × ℤ → Option ℤ

namespace CardCfg

def resNum (cfg : CardCfg) (cfgId : ℤ) : Except Refusal ℤ :=
  match cfg.itemCfg cfgId with
  | none => .error .itemCfgNotExist
  | some skillCfgID =>
      (((skillCfgID.bind cfg.quality).bind sellingPrice).map .ok).getD (.error .raised)

def price (cfg : CardCfg) (cfgId : ℤ) : ℤ :=
  (cfg.resNum cfgId).toOption.getD 0

theorem resNum_ok {cfg : CardCfg} {cfgId resNum : ℤ} (priced : cfg.resNum cfgId = .ok resNum) :
    cfg.price cfgId = resNum ∧ 0 < resNum := by
  refine ⟨by rw [price, priced]; rfl, ?_⟩
  unfold CardCfg.resNum at priced
  split at priced
  · cases priced
  next skillCfgID _ =>
    cases found : (skillCfgID.bind cfg.quality).bind sellingPrice with
    | none =>
        rw [found] at priced
        cases priced
    | some price =>
        rw [found] at priced
        cases priced
        obtain ⟨quality, -, price_eq⟩ := Option.bind_eq_some_iff.mp found
        exact sellingPrice_pos price_eq

end CardCfg

structure Loose where
  item : Item
  inBag : Bool

/-- `costItemNum` of the named stack. -/
def Loose.cost (data : ItemData) (loose : Loose) : Loose :=
  if data.id = loose.item.id then
    { item := { loose.item with num := loose.item.num - data.num }
      inBag := loose.inBag && decide (0 < loose.item.num - data.num) }
  else loose

/-- The assertion of `costItemNum` fails. -/
def Overdrawn (data : ItemData) (items : List Loose) : Prop :=
  ∃ loose ∈ items, loose.item.id = data.id ∧ loose.item.num - data.num < 0
  deriving Decidable

/-- The second loop; the answer is `false` if it raises an error. -/
def costItems : List ItemData → List Loose → List Loose × Bool
  | [], items => (items, true)
  | data :: itemData, items =>
      if Overdrawn data items then (items, false)
      else costItems itemData (items.map (Loose.cost data))

def inBag (items : List Loose) : List Item :=
  (items.filter Loose.inBag).map Loose.item

theorem id_cost (data : ItemData) (loose : Loose) : (loose.cost data).item.id = loose.item.id := by
  unfold Loose.cost
  split <;> rfl

theorem num_cost (data : ItemData) (loose : Loose) :
    (loose.cost data).item.num =
      loose.item.num - if data.id = loose.item.id then data.num else 0 := by
  unfold Loose.cost
  split
  · rfl
  · exact (sub_zero _).symm

theorem ids_costItems (itemData : List ItemData) (items : List Loose) :
    (costItems itemData items).1.map (fun loose => loose.item.id) =
      items.map fun loose => loose.item.id := by
  induction itemData generalizing items with
  | nil => rfl
  | cons data itemData ih =>
      rw [costItems]
      split
      · rfl
      · rw [ih, List.map_map]
        exact List.map_congr_left fun loose _ => id_cost data loose

/-- What is in the bag is not empty. -/
def Loose.Stocked (loose : Loose) : Prop :=
  loose.inBag = true → 0 < loose.item.num

theorem Loose.Stocked.cost {loose : Loose} (stocked : loose.Stocked) (data : ItemData) :
    (loose.cost data).Stocked := by
  unfold Loose.cost
  split
  · intro kept
    exact of_decide_eq_true (Bool.and_eq_true_iff.mp kept).2
  · exact stocked

theorem inBag_cost {loose : Loose} (stocked : loose.Stocked) (data : ItemData) :
    (loose.cost data).inBag = true ↔ loose.inBag = true ∧ 0 < (loose.cost data).item.num := by
  unfold Loose.cost
  split
  · simp
  · exact ⟨fun kept => ⟨kept, stocked kept⟩, And.left⟩

variable {items : List Loose}

theorem stocked_costItems (stocked : ∀ loose ∈ items, loose.Stocked) (itemData : List ItemData) :
    ∀ loose ∈ (costItems itemData items).1, loose.Stocked := by
  induction itemData generalizing items with
  | nil => exact stocked
  | cons data itemData ih =>
      rw [costItems]
      split
      · exact stocked
      · refine ih fun loose loose_mem => ?_
        obtain ⟨old, old_mem, rfl⟩ := List.mem_map.mp loose_mem
        exact (stocked old old_mem).cost data

namespace ItemBag

/-- The items of the bag before the second loop. -/
def loose (bag : ItemBag) : List Loose :=
  bag.items.objects.map fun item => ⟨item, true⟩

def cost (itemData : List ItemData) (bag : ItemBag) : ItemBag where
  items :=
    { objects := inBag (costItems itemData bag.loose).1
      nodup := by
        have ids_eq := ids_costItems itemData bag.loose
        rw [loose, List.map_map] at ids_eq
        rw [inBag, List.map_map]
        exact (ids_eq ▸ bag.items.nodup :
          ((costItems itemData bag.loose).1.map fun loose => loose.item.id).Nodup).sublist
            (List.filter_sublist.map _) }
  stocked := by
    intro item item_mem
    obtain ⟨loose, loose_mem, rfl⟩ := List.mem_map.mp item_mem
    obtain ⟨loose_mem, kept⟩ := List.mem_filter.mp loose_mem
    refine stocked_costItems (fun other other_mem _ => ?_) itemData loose loose_mem kept
    obtain ⟨item, item_mem, rfl⟩ := List.mem_map.mp other_mem
    exact bag.stocked item item_mem

def getItemNumByCfgId (bag : ItemBag) (cfgId : ℤ) : ℤ :=
  ((bag.items.objects.filter fun item => item.cfgId = cfgId).map Item.num).sum

def isItemEnough (bag : ItemBag) (cfgId count : ℤ) : Bool :=
  !decide (bag.getItemNumByCfgId cfgId < count)

/-- What an entry of the request brings, or why the request is refused. -/
def offer (cfg : CardCfg) (bag : ItemBag) (data : ItemData) : Except Refusal ℤ :=
  match bag.items.get data.id with
  | none => .error .itemNotExist
  | some item =>
      if bag.isItemEnough item.cfgId data.num then
        match cfg.resNum item.cfgId with
        | .error refusal => .error refusal
        | .ok resNum => .ok (resNum * data.num)
      else .error .itemNotEnough

end ItemBag

/-- A request to sell skill cards, with its answer. -/
def sellSkillCard (cfg : CardCfg) (bag : ItemBag) (resBag : Resources.ResBag)
    (itemData : List ItemData) : (ItemBag × Resources.ResBag) × Option Refusal :=
  match reward (bag.offer cfg) itemData with
  | .error refusal => ((bag, resBag), some refusal)
  | .ok rewardCount =>
      if (costItems itemData bag.loose).2 then
        ((bag.cost itemData, (resBag.addRes resStarCoin rewardCount).1), none)
      else ((bag.cost itemData, resBag), some .raised)

/-- Nothing has changed, or some cards are taken from the named stacks, from no stack more than it
has, and each of them is paid for once. -/
def CardsSold (cfg : CardCfg) (bag : ItemBag) (resBag : Resources.ResBag) (itemData : List ItemData)
    (after : ItemBag × Resources.ResBag) : Prop :=
  after = (bag, resBag) ∨
    ∃ taken : ℤ → ℤ,
      (∀ item ∈ bag.items.objects, 0 ≤ taken item.id ∧ taken item.id ≤ item.num ∧
        ((∀ data ∈ itemData, data.id ≠ item.id) → taken item.id = 0)) ∧
      0 < (bag.items.objects.map fun item => taken item.id).sum ∧
      after.1.items.objects = (bag.items.objects.map fun item =>
        { item with num := item.num - taken item.id }).filter (fun item => 0 < item.num) ∧
      after.2 = ⟨Function.update resBag.num resStarCoin (resBag.num resStarCoin +
        ((bag.items.objects.map fun item => cfg.price item.cfgId * taken item.id).sum : ℤ))⟩

/-- How many cards some entries ask of a stack. -/
def asked (itemData : List ItemData) (id : ℤ) : ℤ :=
  (itemData.map fun data => if data.id = id then data.num else 0).sum

/-- The entries ask no stack for more than it has, also on the way, and for less than nothing in no
stack; a stack that has nothing left on the way has nothing left at the end. -/
def Covered (bag : ItemBag) (itemData : List ItemData) : Prop :=
  ∀ item ∈ bag.items.objects, 0 ≤ asked itemData item.id ∧
    ∀ first, first <+: itemData → asked first item.id ≤ item.num ∧
      (asked first item.id = item.num → asked itemData item.id = item.num)

/-- An entry asks its stack for more than it has, and the entries before it ask for nothing in
all and leave something in each stack on the way. -/
def Stops (bag : ItemBag) (itemData : List ItemData) : Prop :=
  ∃ first data rest, itemData = first ++ data :: rest ∧
    (∀ item ∈ bag.items.objects, asked first item.id = 0 ∧
      ∀ before, before <+: first → asked before item.id < item.num) ∧
    ∃ item ∈ bag.items.objects, item.id = data.id ∧ item.num < data.num

@[simp]
theorem asked_nil (id : ℤ) : asked [] id = 0 :=
  rfl

theorem asked_cons (data : ItemData) (itemData : List ItemData) (id : ℤ) :
    asked (data :: itemData) id = (if data.id = id then data.num else 0) + asked itemData id := by
  simp [asked]

theorem asked_concat (itemData : List ItemData) (data : ItemData) (id : ℤ) :
    asked (itemData ++ [data]) id = asked itemData id + if data.id = id then data.num else 0 := by
  simp [asked]

theorem asked_of_absent {itemData : List ItemData} {id : ℤ}
    (absent : ∀ data ∈ itemData, data.id ≠ id) : asked itemData id = 0 := by
  rw [asked, List.map_congr_left fun data data_mem => if_neg (absent data data_mem)]
  simp

def Loose.after (itemData : List ItemData) (loose : Loose) : Loose :=
  itemData.foldl (fun loose data => loose.cost data) loose

theorem item_after (itemData : List ItemData) (loose : Loose) :
    (loose.after itemData).item =
      { loose.item with num := loose.item.num - asked itemData loose.item.id } := by
  induction itemData generalizing loose with
  | nil => simp [Loose.after]
  | cons data itemData ih =>
      rw [Loose.after, List.foldl_cons]
      refine (ih (loose.cost data)).trans ?_
      rw [asked_cons, Loose.cost]
      split
      · simp [sub_sub]
      · simp

theorem inBag_after (itemData : List ItemData) {loose : Loose} (stocked : loose.Stocked) :
    (loose.after itemData).inBag = true ↔ loose.inBag = true ∧
      ∀ first, first <+: itemData → asked first loose.item.id < loose.item.num := by
  induction itemData generalizing loose with
  | nil =>
      refine ⟨fun kept => ⟨kept, fun first first_initial => ?_⟩, And.left⟩
      rw [List.prefix_nil.mp first_initial]
      exact stocked kept
  | cons data itemData ih =>
      rw [Loose.after, List.foldl_cons]
      refine (ih (stocked.cost data)).trans ?_
      rw [inBag_cost stocked, id_cost]
      constructor
      · rintro ⟨⟨kept, -⟩, below⟩
        refine ⟨kept, fun first first_initial => ?_⟩
        rcases List.prefix_cons_iff.mp first_initial with rfl | ⟨rest, rfl, rest_initial⟩
        · exact stocked kept
        · have rest_below := below rest rest_initial
          rw [num_cost] at rest_below
          rw [asked_cons]
          omega
      · rintro ⟨kept, below⟩
        have below_rest (rest : List ItemData) (rest_initial : rest <+: itemData) :
            asked rest loose.item.id < (loose.cost data).item.num := by
          have first_below := below (data :: rest) (List.cons_prefix_cons.mpr ⟨rfl, rest_initial⟩)
          rw [asked_cons] at first_below
          rw [num_cost]
          omega
        exact ⟨⟨kept, below_rest [] (List.nil_prefix)⟩, below_rest⟩

/-- No entry asks an item for more than it has. -/
def Fits (itemData : List ItemData) (items : List Loose) : Prop :=
  ∀ loose ∈ items, ∀ first, first <+: itemData → asked first loose.item.id ≤ loose.item.num

theorem costItems_append {itemData : List ItemData} (fits : Fits itemData items)
    (rest : List ItemData) :
    costItems (itemData ++ rest) items = costItems rest (items.map (Loose.after itemData)) := by
  induction itemData generalizing items with
  | nil =>
      rw [List.nil_append]
      exact congrArg (costItems rest) (List.map_id items).symm
  | cons data itemData ih =>
      have drawn : ¬ Overdrawn data items := by
        rintro ⟨loose, loose_mem, same, short⟩
        have fits_one := fits loose loose_mem [data]
          (List.cons_prefix_cons.mpr ⟨rfl, List.nil_prefix⟩)
        rw [asked_cons, asked_nil, if_pos same.symm] at fits_one
        omega
      have rest_fits : Fits itemData (items.map (Loose.cost data)) := by
        intro other other_mem first first_initial
        obtain ⟨loose, loose_mem, rfl⟩ := List.mem_map.mp other_mem
        have fits_all := fits loose loose_mem (data :: first)
          (List.cons_prefix_cons.mpr ⟨rfl, first_initial⟩)
        rw [asked_cons] at fits_all
        rw [id_cost, num_cost]
        omega
      rw [List.cons_append, costItems, if_neg drawn, ih rest_fits, List.map_map]
      rfl

theorem fits_or_overdrawn (itemData : List ItemData)
    (nonneg : ∀ loose ∈ items, 0 ≤ loose.item.num) :
    Fits itemData items ∨ ∃ first data rest, itemData = first ++ data :: rest ∧
      Fits first items ∧ Overdrawn data (items.map (Loose.after first)) := by
  induction itemData using List.reverseRecOn with
  | nil =>
      refine .inl fun loose loose_mem first first_initial => ?_
      rw [List.prefix_nil.mp first_initial]
      exact nonneg loose loose_mem
  | append_singleton itemData data ih =>
      rcases ih with fits | ⟨first, other, rest, rfl, fits, drawn⟩
      swap
      · exact .inr ⟨first, other, rest ++ [data], by simp, fits, drawn⟩
      by_cases drawn : Overdrawn data (items.map (Loose.after itemData))
      · exact .inr ⟨itemData, data, [], rfl, fits, drawn⟩
      refine .inl fun loose loose_mem first first_initial => ?_
      rcases List.prefix_concat_iff.mp first_initial with rfl | first_initial
      · rw [asked_concat]
        have fits_all := fits loose loose_mem itemData (List.prefix_refl itemData)
        by_cases named : data.id = loose.item.id
        · rw [if_pos named]
          by_contra short
          refine drawn ⟨_, List.mem_map_of_mem loose_mem, ?_, ?_⟩
          · rw [item_after]
            exact named.symm
          · rw [item_after]
            dsimp only
            omega
        · rwa [if_neg named, add_zero]
      · exact fits loose loose_mem first first_initial

section Request

variable {cfg : CardCfg} {bag : ItemBag} {resBag : Resources.ResBag} {itemData : List ItemData}

variable {data : ItemData} {item : Item} {first : List ItemData}

theorem ItemBag.offer_ok {resNum : ℤ} (accepted : bag.offer cfg data = .ok resNum) :
    ∃ item, bag.items.get data.id = some item ∧ 0 < cfg.price item.cfgId ∧
      resNum = cfg.price item.cfgId * data.num := by
  unfold offer at accepted
  split at accepted
  · cases accepted
  next item found =>
    split at accepted
    · split at accepted
      · cases accepted
      next price priced =>
        obtain ⟨price_eq, price_pos⟩ := CardCfg.resNum_ok priced
        cases accepted
        exact ⟨item, found, price_eq ▸ price_pos, by rw [price_eq]⟩
    · cases accepted

theorem sum_only {items : Keyed Item.id} (item_mem : item ∈ items.objects) (amount : Item → ℤ) :
    (items.objects.map fun other => if item.id = other.id then amount other else 0).sum =
      amount item := by
  have rest_eq : ((items.erase item.id).objects.map fun other =>
      if item.id = other.id then amount other else 0).sum = 0 := by
    refine List.sum_eq_zero fun value value_mem => ?_
    obtain ⟨other, other_mem, rfl⟩ := List.mem_map.mp value_mem
    exact if_neg (Ne.symm (Keyed.mem_erase.mp other_mem).2)
  rw [← Keyed.sum_erase _ (Keyed.get_of_mem item_mem), rest_eq, zero_add, if_pos rfl]

theorem sum_price (listed : ∀ data ∈ itemData, ∃ item, bag.items.get data.id = some item) :
    (itemData.map fun data =>
      ((bag.items.get data.id).map fun item => cfg.price item.cfgId).getD 0 * data.num).sum =
    (bag.items.objects.map fun item => cfg.price item.cfgId * asked itemData item.id).sum := by
  induction itemData with
  | nil => simp
  | cons data itemData ih =>
      obtain ⟨item, found⟩ := listed data List.mem_cons_self
      obtain ⟨item_mem, same⟩ := Keyed.get_mem found
      have first_eq := sum_only item_mem fun other => cfg.price other.cfgId * data.num
      have split_eq (other : Item) : cfg.price other.cfgId * asked (data :: itemData) other.id =
          (if item.id = other.id then cfg.price other.cfgId * data.num else 0) +
            cfg.price other.cfgId * asked itemData other.id := by
        rw [asked_cons, mul_add, mul_ite, mul_zero, same]
      rw [List.map_cons, List.sum_cons, found,
        ih fun other mem => listed other (List.mem_cons_of_mem _ mem),
        List.map_congr_left fun other _ => split_eq other, List.sum_map_add, first_eq]
      rfl

theorem sellSkillCard_cases (cfg : CardCfg) (bag : ItemBag) (resBag : Resources.ResBag)
    (itemData : List ItemData) :
    ((sellSkillCard cfg bag resBag itemData).1 = (bag, resBag) ∧
      ∃ data ∈ itemData, ∀ resNum, bag.offer cfg data ≠ .ok resNum) ∨
    (∀ data ∈ itemData, ∃ resNum, bag.offer cfg data = .ok resNum) ∧
      (sellSkillCard cfg bag resBag itemData).1 =
        if (costItems itemData bag.loose).2 then (bag.cost itemData, (resBag.addRes resStarCoin
          (bag.items.objects.map fun item =>
            cfg.price item.cfgId * asked itemData item.id).sum).1)
        else (bag.cost itemData, resBag) := by
  have priced (data : ItemData) (resNum : ℤ) (accepted : bag.offer cfg data = .ok resNum) :
      resNum =
        ((bag.items.get data.id).map fun item => cfg.price item.cfgId).getD 0 * data.num := by
    obtain ⟨item, found, -, resNum_eq⟩ := ItemBag.offer_ok accepted
    rw [found]
    exact resNum_eq
  unfold sellSkillCard
  rcases reward_cases _ priced itemData with ⟨refusal, refused, listed⟩ | ⟨offered, rewarded⟩
  · rw [refused]
    exact .inl ⟨rfl, listed⟩
  · have found (data : ItemData) (data_mem : data ∈ itemData) :
        ∃ item, bag.items.get data.id = some item := by
      obtain ⟨resNum, accepted⟩ := offered data data_mem
      obtain ⟨item, found, -⟩ := ItemBag.offer_ok accepted
      exact ⟨item, found⟩
    rw [rewarded, sum_price found]
    dsimp only
    refine .inr ⟨offered, ?_⟩
    split <;> rfl

/-- The bag after entries that fit. -/
def ItemBag.kept (bag : ItemBag) (first : List ItemData) : List Item :=
  inBag (bag.loose.map (Loose.after first))

theorem inBag_after_loose (first : List ItemData) (item_mem : item ∈ bag.items.objects) :
    (Loose.after first ⟨item, true⟩).inBag = true ↔
      ∀ before, before <+: first → asked before item.id < item.num :=
  (inBag_after first fun _ => bag.stocked item item_mem).trans (and_iff_right rfl)

theorem mem_kept :
    item ∈ bag.kept first ↔ ∃ old ∈ bag.items.objects,
      item = { old with num := old.num - asked first old.id } ∧
        ∀ before, before <+: first → asked before old.id < old.num := by
  rw [ItemBag.kept, inBag, ItemBag.loose, List.map_map]
  constructor
  · intro item_mem
    obtain ⟨loose, loose_mem, rfl⟩ := List.mem_map.mp item_mem
    obtain ⟨loose_mem, kept⟩ := List.mem_filter.mp loose_mem
    obtain ⟨old, old_mem, rfl⟩ := List.mem_map.mp loose_mem
    exact ⟨old, old_mem, item_after .., (inBag_after_loose first old_mem).mp kept⟩
  · rintro ⟨old, old_mem, rfl, below⟩
    exact List.mem_map.mpr ⟨_, List.mem_filter.mpr ⟨List.mem_map_of_mem old_mem,
      (inBag_after_loose first old_mem).mpr below⟩, item_after ..⟩

theorem kept_eq
    (settled : ∀ item ∈ bag.items.objects, asked first item.id < item.num →
      ∀ before, before <+: first → asked before item.id < item.num) :
    bag.kept first = (bag.items.objects.map fun item =>
      { item with num := item.num - asked first item.id }).filter (fun item => 0 < item.num) := by
  rw [ItemBag.kept, inBag, ItemBag.loose, List.map_map, List.filter_map, List.map_map,
    List.filter_map]
  have same_filter : bag.items.objects.filter
      (Loose.inBag ∘ Loose.after first ∘ fun item => ⟨item, true⟩) =
        bag.items.objects.filter (fun item => decide (0 < item.num - asked first item.id)) := by
    refine List.filter_congr fun item item_mem => ?_
    rw [Bool.eq_iff_iff, decide_eq_true_iff, sub_pos]
    exact (inBag_after_loose first item_mem).trans
      ⟨fun below => below first (List.prefix_refl first), settled item item_mem⟩
  refine (congrArg _ same_filter).trans (List.map_congr_left fun item _ => ?_)
  exact item_after first ⟨item, true⟩

/-- Entries that ask for nothing and leave something on the way leave the bag as it was. -/
theorem kept_eq_self_iff :
    bag.kept first = bag.items.objects ↔ ∀ item ∈ bag.items.objects,
      asked first item.id = 0 ∧ ∀ before, before <+: first → asked before item.id < item.num := by
  constructor
  · intro kept item item_mem
    obtain ⟨old, old_mem, item_eq, below⟩ := mem_kept.mp (kept ▸ item_mem)
    have id_eq : item.id = old.id := by rw [item_eq]
    obtain rfl := Keyed.eq_of_key_eq item_mem old_mem id_eq
    have num_eq := congrArg Item.num item_eq
    dsimp only at num_eq
    exact ⟨by omega, below⟩
  · intro silent
    rw [kept_eq fun item item_mem _ => (silent item item_mem).2]
    have same_map : (bag.items.objects.map fun item =>
        { item with num := item.num - asked first item.id }) = bag.items.objects := by
      refine (List.map_congr_left fun item item_mem => ?_).trans (List.map_id _)
      rw [(silent item item_mem).1, sub_zero]
      rfl
    rw [same_map]
    exact List.filter_eq_self.mpr fun item item_mem => decide_eq_true (bag.stocked item item_mem)

theorem ItemBag.ext {first second : ItemBag}
    (objects : first.items.objects = second.items.objects) : first = second := by
  obtain ⟨items, stocked⟩ := first
  obtain rfl : items = second.items := Keyed.ext objects
  rfl

theorem cost_of_fits (fits : Fits itemData bag.loose) :
    (costItems itemData bag.loose).2 = true ∧
      (bag.cost itemData).items.objects = bag.kept itemData := by
  have costed := costItems_append fits []
  rw [List.append_nil] at costed
  exact ⟨congrArg Prod.snd costed,
    congrArg (fun costed : List Loose × Bool => inBag costed.1) costed⟩

theorem cost_of_drawn {rest : List ItemData} (fits : Fits first bag.loose)
    (drawn : Overdrawn data (bag.loose.map (Loose.after first))) :
    (costItems (first ++ data :: rest) bag.loose).2 = false ∧
      (bag.cost (first ++ data :: rest)).items.objects = bag.kept first := by
  have costed := costItems_append fits (data :: rest)
  rw [costItems, if_pos drawn] at costed
  exact ⟨congrArg Prod.snd costed,
    congrArg (fun costed : List Loose × Bool => inBag costed.1) costed⟩

theorem fits_loose : Fits itemData bag.loose ↔ ∀ item ∈ bag.items.objects,
    ∀ first, first <+: itemData → asked first item.id ≤ item.num := by
  simp [Fits, ItemBag.loose]

theorem drawn_loose :
    Overdrawn data (bag.loose.map (Loose.after first)) ↔ ∃ item ∈ bag.items.objects,
      item.id = data.id ∧ item.num - asked first item.id < data.num := by
  simp [Overdrawn, ItemBag.loose, item_after, sub_neg]

theorem price_pos_of_named (offered : ∀ data ∈ itemData, ∃ resNum, bag.offer cfg data = .ok resNum)
    (item_mem : item ∈ bag.items.objects) (named : ¬ ∀ data ∈ itemData, data.id ≠ item.id) :
    0 < cfg.price item.cfgId := by
  push Not at named
  obtain ⟨data, data_mem, same⟩ := named
  obtain ⟨resNum, accepted⟩ := offered data data_mem
  obtain ⟨other, found, price_pos, -⟩ := ItemBag.offer_ok accepted
  rw [same, Keyed.get_of_mem item_mem] at found
  cases found
  exact price_pos

section Paid

variable {taken : ℤ → ℤ}

theorem sum_price_pos (offered : ∀ data ∈ itemData, ∃ resNum, bag.offer cfg data = .ok resNum)
    (nonneg : ∀ item ∈ bag.items.objects, 0 ≤ taken item.id)
    (only : ∀ item ∈ bag.items.objects, (∀ data ∈ itemData, data.id ≠ item.id) → taken item.id = 0)
    (some_taken : 0 < (bag.items.objects.map fun item => taken item.id).sum) :
    0 < (bag.items.objects.map fun item => cfg.price item.cfgId * taken item.id).sum := by
  have price_taken (item : Item) (item_mem : item ∈ bag.items.objects) :
      taken item.id ≤ cfg.price item.cfgId * taken item.id := by
    by_cases named : ∀ data ∈ itemData, data.id ≠ item.id
    · rw [only item item_mem named, mul_zero]
    · exact le_mul_of_one_le_left (nonneg item item_mem)
        (price_pos_of_named offered item_mem named)
  exact some_taken.trans_le (List.sum_le_sum price_taken)

theorem asked_eq_taken (offered : ∀ data ∈ itemData, ∃ resNum, bag.offer cfg data = .ok resNum)
    (only : ∀ item ∈ bag.items.objects, (∀ data ∈ itemData, data.id ≠ item.id) → taken item.id = 0)
    (asked_le : ∀ item ∈ bag.items.objects, asked itemData item.id ≤ taken item.id)
    (paid : (bag.items.objects.map fun item => cfg.price item.cfgId * taken item.id).sum =
      (bag.items.objects.map fun item => cfg.price item.cfgId * asked itemData item.id).sum) :
    ∀ item ∈ bag.items.objects, asked itemData item.id = taken item.id := by
  have price_le (item : Item) (item_mem : item ∈ bag.items.objects) :
      cfg.price item.cfgId * asked itemData item.id ≤ cfg.price item.cfgId * taken item.id := by
    by_cases named : ∀ data ∈ itemData, data.id ≠ item.id
    · rw [only item item_mem named, asked_of_absent named]
    · exact mul_le_mul_of_nonneg_left (asked_le item item_mem)
        (price_pos_of_named offered item_mem named).le
  intro item item_mem
  by_cases named : ∀ data ∈ itemData, data.id ≠ item.id
  · rw [only item item_mem named, asked_of_absent named]
  by_contra different
  have less := lt_of_le_of_ne (asked_le item item_mem) different
  have price_lt := mul_lt_mul_of_pos_left less (price_pos_of_named offered item_mem named)
  exact (List.sum_lt_sum _ _ price_le ⟨item, item_mem, price_lt⟩).ne' paid

end Paid

theorem taken_eq {taken : ℤ → ℤ}
    (left : bag.kept itemData = (bag.items.objects.map fun item =>
      { item with num := item.num - taken item.id }).filter (fun item => 0 < item.num))
    (taken_le : ∀ item ∈ bag.items.objects, taken item.id ≤ item.num)
    (item_mem : item ∈ bag.items.objects) :
    ((∀ before, before <+: itemData → asked before item.id < item.num) →
      taken item.id = asked itemData item.id) ∧
    (¬ (∀ before, before <+: itemData → asked before item.id < item.num) →
      taken item.id = item.num) := by
  constructor
  · intro below
    have there := mem_kept.mpr ⟨item, item_mem, rfl, below⟩
    rw [left] at there
    obtain ⟨other, other_mem, other_eq⟩ := List.mem_map.mp (List.mem_of_mem_filter there)
    obtain ⟨id_eq, -, num_eq⟩ := Item.mk.inj other_eq
    obtain rfl := Keyed.eq_of_key_eq other_mem item_mem id_eq
    omega
  · intro emptied
    by_contra different
    have less := lt_of_le_of_ne (taken_le item item_mem) different
    have there : { item with num := item.num - taken item.id } ∈ bag.kept itemData := by
      rw [left]
      exact List.mem_filter.mpr ⟨List.mem_map_of_mem item_mem, decide_eq_true (sub_pos.mpr less)⟩
    obtain ⟨old, old_mem, item_eq, below⟩ := mem_kept.mp there
    obtain rfl := Keyed.eq_of_key_eq item_mem old_mem (Item.mk.inj item_eq).1
    exact emptied below

theorem paid_eq {rewardCount price : ℤ}
    (paid : (resBag.addRes resStarCoin rewardCount).1 =
      ⟨Function.update resBag.num resStarCoin (resBag.num resStarCoin + price)⟩)
    (price_pos : 0 < price) : price = rewardCount := by
  have paid := congrFun (congrArg Resources.ResBag.num paid) resStarCoin
  dsimp only at paid
  rw [Resources.ResBag.num_addRes_self, Function.update_self, Int.floor_intCast] at paid
  have max_eq : max rewardCount 0 = price := by exact_mod_cast add_left_cancel paid
  omega

/-- A second loop that ends does what was promised exactly if the entries are covered. -/
theorem cardsSold_of_fits_iff
    (offered : ∀ data ∈ itemData, ∃ resNum, bag.offer cfg data = .ok resNum)
    (fits : Fits itemData bag.loose) :
    CardsSold cfg bag resBag itemData (bag.cost itemData, (resBag.addRes resStarCoin
      (bag.items.objects.map fun item => cfg.price item.cfgId * asked itemData item.id).sum).1) ↔
      Covered bag itemData := by
  obtain ⟨-, kept_objects⟩ := cost_of_fits fits
  have fits := fits_loose.mp fits
  constructor
  · rintro (unchanged | ⟨taken, bounds, some_taken, left, paid⟩)
    · have kept : bag.kept itemData = bag.items.objects :=
        kept_objects.symm.trans (congrArg (fun bag => bag.items.objects) (Prod.mk.inj unchanged).1)
      intro item item_mem
      obtain ⟨silent, below⟩ := kept_eq_self_iff.mp kept item item_mem
      exact ⟨silent.ge, fun first first_initial => ⟨fits item item_mem first first_initial,
        fun empty => absurd empty (below first first_initial).ne⟩⟩
    · rw [kept_objects] at left
      have taken_of (item : Item) (item_mem : item ∈ bag.items.objects) :=
        taken_eq left (fun item item_mem => (bounds item item_mem).2.1) item_mem
      have asked_le (item : Item) (item_mem : item ∈ bag.items.objects) :
          asked itemData item.id ≤ taken item.id := by
        by_cases below : ∀ before, before <+: itemData → asked before item.id < item.num
        · exact ((taken_of item item_mem).1 below).ge
        · rw [(taken_of item item_mem).2 below]
          exact fits item item_mem itemData (List.prefix_refl itemData)
      have price_pos := sum_price_pos offered (fun item item_mem => (bounds item item_mem).1)
        (fun item item_mem => (bounds item item_mem).2.2) some_taken
      have only (item : Item) (item_mem : item ∈ bag.items.objects) := (bounds item item_mem).2.2
      have brought := asked_eq_taken offered only asked_le (paid_eq paid price_pos)
      intro item item_mem
      refine ⟨brought item item_mem ▸ (bounds item item_mem).1, fun first first_initial =>
        ⟨fits item item_mem first first_initial, fun empty => ?_⟩⟩
      rw [brought item item_mem]
      exact (taken_of item item_mem).2 fun below => (below first first_initial).ne empty
  · intro covered
    have below (item : Item) (item_mem : item ∈ bag.items.objects)
        (rest : asked itemData item.id < item.num) (before : List ItemData)
        (prefixed : before <+: itemData) : asked before item.id < item.num :=
      lt_of_le_of_ne (fits item item_mem before prefixed) fun empty =>
        rest.ne (((covered item item_mem).2 before prefixed).2 empty)
    have price_nonneg (item : Item) (item_mem : item ∈ bag.items.objects) :
        0 ≤ cfg.price item.cfgId * asked itemData item.id := by
      by_cases named : ∀ data ∈ itemData, data.id ≠ item.id
      · rw [asked_of_absent named, mul_zero]
      · exact mul_nonneg (price_pos_of_named offered item_mem named).le (covered item item_mem).1
    have sum_nonneg : 0 ≤ (bag.items.objects.map fun item =>
        cfg.price item.cfgId * asked itemData item.id).sum := by
      refine List.sum_nonneg fun value value_mem => ?_
      obtain ⟨item, item_mem, rfl⟩ := List.mem_map.mp value_mem
      exact price_nonneg item item_mem
    rw [addRes_whole resBag sum_nonneg]
    by_cases silent : ∀ item ∈ bag.items.objects, asked itemData item.id = 0
    · refine .inl (Prod.ext (ItemBag.ext (kept_objects.trans (kept_eq_self_iff.mpr ?_))) ?_)
      · intro item item_mem
        refine ⟨silent item item_mem, below item item_mem ?_⟩
        rw [silent item item_mem]
        exact bag.stocked item item_mem
      · have nothing : (bag.items.objects.map fun item =>
            cfg.price item.cfgId * asked itemData item.id).sum = 0 := by
          refine List.sum_eq_zero fun value value_mem => ?_
          obtain ⟨item, item_mem, rfl⟩ := List.mem_map.mp value_mem
          rw [silent item item_mem, mul_zero]
        rw [nothing, Int.cast_zero, add_zero]
        exact Resources.ResBag.ext (Function.update_eq_self _ _)
    · push Not at silent
      obtain ⟨item, item_mem, some_asked⟩ := silent
      refine .inr ⟨asked itemData, fun item item_mem => ⟨(covered item item_mem).1,
        fits item item_mem itemData (List.prefix_refl itemData), asked_of_absent⟩, ?_,
        kept_objects.trans (kept_eq below), rfl⟩
      have more := List.sum_lt_sum (fun _ => (0 : ℤ)) (fun item : Item => asked itemData item.id)
        (fun item item_mem => (covered item item_mem).1)
        ⟨item, item_mem, lt_of_le_of_ne (covered item item_mem).1 some_asked.symm⟩
      simpa using more

/-- A second loop that raises an error does what was promised exactly if it has done nothing. -/
theorem cardsSold_of_drawn_iff
    (offered : ∀ data ∈ itemData, ∃ resNum, bag.offer cfg data = .ok resNum)
    (kept_objects : (bag.cost itemData).items.objects = bag.kept first) :
    CardsSold cfg bag resBag itemData (bag.cost itemData, resBag) ↔
      bag.kept first = bag.items.objects := by
  constructor
  · rintro (unchanged | ⟨taken, bounds, some_taken, left, paid⟩)
    · exact kept_objects.symm.trans
        (congrArg (fun bag => bag.items.objects) (Prod.mk.inj unchanged).1)
    · have price_pos := sum_price_pos offered (fun item item_mem => (bounds item item_mem).1)
        (fun item item_mem => (bounds item item_mem).2.2) some_taken
      have paid := congrFun (congrArg Resources.ResBag.num paid) resStarCoin
      dsimp only at paid
      rw [Function.update_self, left_eq_add] at paid
      exact absurd (mod_cast paid) price_pos.ne'
  · intro kept
    exact .inl (congrArg (·, resBag) (ItemBag.ext (kept_objects.trans kept)))

/-- An accepted request is as promised exactly if it is covered or stopped in time. -/
theorem cardsSold_iff (cfg : CardCfg) (bag : ItemBag) (resBag : Resources.ResBag)
    (itemData : List ItemData) :
    CardsSold cfg bag resBag itemData (sellSkillCard cfg bag resBag itemData).1 ↔
      (∃ data ∈ itemData, ∀ resNum, bag.offer cfg data ≠ .ok resNum) ∨
        Covered bag itemData ∨ Stops bag itemData := by
  rcases sellSkillCard_cases cfg bag resBag itemData with ⟨unchanged, refused⟩ | ⟨offered, sold⟩
  · exact ⟨fun _ => .inl refused, fun _ => .inl unchanged⟩
  have accepted : ¬ ∃ data ∈ itemData, ∀ resNum, bag.offer cfg data ≠ .ok resNum := by
    rintro ⟨data, data_mem, refused⟩
    obtain ⟨resNum, accepted⟩ := offered data data_mem
    exact refused resNum accepted
  rw [sold, or_iff_right accepted]
  have nonneg (loose : Loose) (loose_mem : loose ∈ bag.loose) : 0 ≤ loose.item.num := by
    obtain ⟨item, item_mem, rfl⟩ := List.mem_map.mp loose_mem
    exact (bag.stocked item item_mem).le
  rcases fits_or_overdrawn itemData nonneg with fits | ⟨first, data, rest, rfl, fits, drawn⟩
  · rw [if_pos (cost_of_fits fits).1, cardsSold_of_fits_iff offered fits]
    refine (or_iff_left ?_).symm
    rintro ⟨first, data, rest, rfl, silent, item, item_mem, same, short⟩
    have fits_all := fits_loose.mp fits item item_mem (first ++ [data]) ⟨rest, by simp⟩
    rw [asked_concat, (silent item item_mem).1, if_pos same.symm] at fits_all
    omega
  · obtain ⟨raised, kept_objects⟩ := @cost_of_drawn bag data first rest fits drawn
    rw [if_neg (by simp [raised]), cardsSold_of_drawn_iff offered kept_objects]
    constructor
    · intro kept
      have silent := kept_eq_self_iff.mp kept
      obtain ⟨item, item_mem, same, short⟩ := drawn_loose.mp drawn
      rw [(silent item item_mem).1, sub_zero] at short
      exact .inr ⟨first, data, rest, rfl, silent, item, item_mem, same, short⟩
    · rintro (covered | ⟨other, entry, others, same_data, silent, item, item_mem, same, short⟩)
      · obtain ⟨item, item_mem, same, short⟩ := drawn_loose.mp drawn
        have fits_all := ((covered item item_mem).2 (first ++ [data]) ⟨rest, by simp⟩).1
        rw [asked_concat, if_pos same.symm] at fits_all
        omega
      · have kept := kept_eq_self_iff.mpr silent
        have other_fits : Fits other bag.loose :=
          fits_loose.mpr fun item item_mem before prefixed =>
            ((silent item item_mem).2 before prefixed).le
        have other_drawn : Overdrawn entry (bag.loose.map (Loose.after other)) :=
          drawn_loose.mpr ⟨item, item_mem, same, by rwa [(silent item item_mem).1, sub_zero]⟩
        have other_objects := (@cost_of_drawn bag entry other others other_fits other_drawn).2
        rw [← same_data, kept_objects, kept] at other_objects
        exact other_objects

end Request

/-- What is sold is gone once and paid once, if the request lists nothing twice, and skill cards
only as they are there. -/
theorem sell_iff (cfg : CardCfg) (builds : Keyed Build.id) (heros : Keyed Hero.id)
    (warShips : Keyed WarShip.id) (useId : ℤ) (bag : ItemBag) (resBag : Resources.ResBag)
    (ids : List ℤ) (itemData : List ItemData) :
    (buildCounter.SoldOnce builds resBag ids (sellBuild builds resBag ids).1 ↔
      (∃ id ∈ ids, ∀ resNum, buildCounter.offer builds id ≠ .ok resNum) ∨ ids.Nodup) ∧
    (heroCounter.SoldOnce heros resBag ids (sellHero heros resBag ids).1 ↔
      (∃ id ∈ ids, ∀ resNum, heroCounter.offer heros id ≠ .ok resNum) ∨ ids.Nodup) ∧
    ((warShipCounter useId).SoldOnce warShips resBag ids
        (sellWarShip useId warShips resBag ids).1 ↔
      (∃ id ∈ ids, ∀ resNum, (warShipCounter useId).offer warShips id ≠ .ok resNum) ∨ ids.Nodup) ∧
    (CardsSold cfg bag resBag itemData (sellSkillCard cfg bag resBag itemData).1 ↔
      (∃ data ∈ itemData, ∀ resNum, bag.offer cfg data ≠ .ok resNum) ∨
        Covered bag itemData ∨ Stops bag itemData) :=
  ⟨Counter.soldOnce_sell_iff resBag ids, Counter.soldOnce_sell_iff resBag ids,
    Counter.soldOnce_sell_iff resBag ids, cardsSold_iff cfg bag resBag itemData⟩

def sampleHeros : Keyed Hero.id :=
  ⟨[⟨7, 1, 0, false, 0, 1, 0, 0⟩], by decide⟩

def sampleBag : ItemBag :=
  ⟨⟨[⟨1, 50, 3⟩], by decide⟩, by decide⟩

def sampleCfg : CardCfg where
  itemCfg _ := some (some (1, 1))
  quality _ := some 1

/-- One hero is listed twice, and a stack is asked for less than nothing. -/
theorem hero_paid_twice :
    ¬ heroCounter.SoldOnce sampleHeros ⟨fun _ => 0⟩ [7, 7]
        (sellHero sampleHeros ⟨fun _ => 0⟩ [7, 7]).1 ∧
      ¬ CardsSold sampleCfg sampleBag ⟨fun _ => 0⟩ [⟨1, -5⟩]
        (sellSkillCard sampleCfg sampleBag ⟨fun _ => 0⟩ [⟨1, -5⟩]).1 := by
  constructor
  · intro sold
    rcases (Counter.soldOnce_sell_iff _ _).mp sold with ⟨id, id_mem, refused⟩ | nodup
    · have id_eq : id = 7 := by simpa using id_mem
      subst id_eq
      exact refused 1500000 rfl
    · exact absurd nodup (by decide)
  · intro sold
    rcases (cardsSold_iff ..).mp sold with ⟨data, data_mem, refused⟩ | covered | stops
    · rw [List.mem_singleton.mp data_mem] at refused
      exact refused (-7500000) rfl
    · exact absurd (covered ⟨1, 50, 3⟩ List.mem_cons_self).1 (by decide)
    · obtain ⟨first, data, rest, split_eq, -, item, item_mem, -, short⟩ := stops
      have data_mem : data ∈ [(⟨1, -5⟩ : ItemData)] := split_eq ▸ (by simp)
      rw [List.mem_singleton.mp data_mem, List.mem_singleton.mp item_mem] at short
      exact absurd short (by decide)

end BasWar.Selling
