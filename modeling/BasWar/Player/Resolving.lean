import BasWar.Player.ItemStock
import BasWar.Player.Resources
import Mathlib.Data.List.Induction

/-!
# Resolving items

`resolveItem` gathers what some items of a stack are resolved into, round by round: items add up,
but a resource is written over.  `dismantleSkillCard` resolves a list of stacks and does not survive
one that `resolveItem` refuses.
-/

namespace BasWar.Resolving

open Tables Items Resources
open Selling (Item)

structure Row extends ItemCfg where
  canResolve : Bool
  resolveItem : List (ℤ × ℤ)

structure ResolveTables where
  rows : ℤ → Option Row
  /-- `RES_KEYS`. -/
  isRes : ℤ → Bool
  /-- Items are resolved into numbers of items that there are and that are not used on their own. -/
  resolve_rows : ∀ cfgId row, rows cfgId = some row → ∀ entry ∈ row.resolveItem,
    isRes entry.1 = true ∨
      0 < entry.2 ∧ ∃ other, rows entry.1 = some other ∧ other.isAutoUse = false

def ResolveTables.cfgs (tables : ResolveTables) : ItemCfgs :=
  fun cfgId => (tables.rows cfgId).map Row.toItemCfg

/-- The balances and the items of a player. -/
structure Bags (tables : ResolveTables) where
  resBag : Resources.ResBag
  stock : Stock tables.cfgs

variable {tables : ResolveTables} {bags : Bags tables} {row : Row} {entries : List (ℤ × ℤ)}
  {count id : ℤ}

/-- The entries in the order of the double loop. -/
def Row.rounds (row : Row) (count : ℤ) : List (ℤ × ℤ) :=
  (List.replicate count.toNat row.resolveItem).flatten

/-- One round for `itemDict`. -/
def gatherItem (tables : ResolveTables) (itemDict : Dict ℤ ℤ) (entry : ℤ × ℤ) : Dict ℤ ℤ :=
  if tables.isRes entry.1 then itemDict
  else itemDict.assign entry.1 ((itemDict.lookup entry.1).getD 0 + entry.2)

/-- One round for `resDict`. -/
def gatherRes (tables : ResolveTables) (resDict : ResDict) (entry : ℤ × ℤ) : ResDict :=
  if tables.isRes entry.1 then Dict.assign entry.1 (entry.2 : ℚ) resDict else resDict

def itemDict (tables : ResolveTables) (entries : List (ℤ × ℤ)) : Dict ℤ ℤ :=
  entries.foldl (gatherItem tables) Keyed.empty

def resDict (tables : ResolveTables) (entries : List (ℤ × ℤ)) : ResDict :=
  entries.foldl (gatherRes tables) Keyed.empty

/-- Items of a kind that have been resolved. -/
structure Resolved where
  cfgId : ℤ
  row : Row
  count : ℤ

namespace Bags

/-- The row of a stack of which so many can be resolved. -/
def accepted (id count : ℤ) (bags : Bags tables) : Option (Item × Row) :=
  (bags.stock.items.get id).bind fun item =>
    (tables.rows item.cfgId).bind fun row =>
      if row.canResolve ∧ 0 < count ∧ count ≤ item.num then some (item, row) else none

def addItems (itemDict : Dict ℤ ℤ) (bags : Bags tables) : Bags tables :=
  { bags with
    stock := itemDict.objects.foldl (fun stock entry => stock.addItem entry.1 entry.2) bags.stock }

/-- `costItemNum` of the stack as it is by now. -/
def costItem (id count : ℤ) (bags : Bags tables) : Bags tables :=
  match bags.stock.items.get id with
  | none => bags
  | some item => { bags with stock := bags.stock.costItemNum item count }

/-- What `resolveItem` does with a stack that it accepts. -/
def resolve (row : Row) (id count : ℤ) (bags : Bags tables) : Bags tables :=
  let filled := bags.addItems (itemDict tables (row.rounds count))
  let credited : Bags tables :=
    { filled with resBag := filled.resBag.addResDict (resDict tables (row.rounds count)) }
  credited.costItem id count

/-- `ItemBag:resolveItem`; the answer is `resDict`, or nothing for a stack that it refuses. -/
def resolveItem (id count : ℤ) (bags : Bags tables) : Bags tables × Option ResDict :=
  match bags.accepted id count with
  | none => (bags, none)
  | some (_, row) => (bags.resolve row id count, some (resDict tables (row.rounds count)))

/-- So many calls of `resolveItem` for one item. -/
def resolveEach (id : ℤ) : ℕ → Bags tables → Bags tables
  | 0, bags => bags
  | times + 1, bags => resolveEach id times (bags.resolveItem id 1).1

/-- `ItemBag:dismantleSkillCard`, with what it has resolved.  A stack that is refused ends it with
an error. -/
def dismantleSkillCard : List (ℤ × ℤ) → Bags tables → Bags tables × List Resolved
  | [], bags => (bags, [])
  | skillCard :: rest, bags =>
      match bags.accepted skillCard.1 skillCard.2 with
      | none => (bags, [])
      | some (item, row) =>
          let done := dismantleSkillCard rest (bags.resolve row skillCard.1 skillCard.2)
          (done.1, ⟨item.cfgId, row, skillCard.2⟩ :: done.2)

/-- Every listed stack is resolved in its turn if it can be. -/
def resolveListed : List (ℤ × ℤ) → Bags tables → Bags tables × List Resolved
  | [], bags => (bags, [])
  | skillCard :: rest, bags =>
      match bags.accepted skillCard.1 skillCard.2 with
      | none => resolveListed rest bags
      | some (item, row) =>
          let done := resolveListed rest (bags.resolve row skillCard.1 skillCard.2)
          (done.1, ⟨item.cfgId, row, skillCard.2⟩ :: done.2)

/-- The same balances and numbers of items. -/
structure SameTotals (first second : Bags tables) : Prop where
  res : ∀ res, first.resBag.num res = second.resBag.num res
  items : ∀ kind, first.stock.count kind = second.stock.count kind

/-- Nothing can be resolved after a stack that is refused. -/
def RefusedLast : List (ℤ × ℤ) → Bags tables → Prop
  | [], _ => True
  | skillCard :: rest, bags =>
      match bags.accepted skillCard.1 skillCard.2 with
      | none => ∀ other ∈ rest, bags.accepted other.1 other.2 = none
      | some (_, row) => RefusedLast rest (bags.resolve row skillCard.1 skillCard.2)

end Bags

def total (kind : ℤ) (entries : List (ℤ × ℤ)) : ℤ :=
  (entries.map fun entry => if entry.1 = kind then entry.2 else 0).sum

/-- The items of a kind that one item is resolved into. -/
def Row.yields (tables : ResolveTables) (row : Row) (kind : ℤ) : ℤ :=
  total kind (row.resolveItem.filter (!tables.isRes ·.1))

def Row.gain (tables : ResolveTables) (row : Row) (res : ResId) : ℚ :=
  max ((resDict tables row.resolveItem).amount res) 0

theorem total_append (kind : ℤ) (first second : List (ℤ × ℤ)) :
    total kind (first ++ second) = total kind first + total kind second := by
  simp [total]

theorem total_assign (kind name value : ℤ) (dict : Dict ℤ ℤ) :
    total kind (dict.assign name ((dict.lookup name).getD 0 + value)).objects =
      total kind dict.objects + if name = kind then value else 0 := by
  let amount : ℤ × ℤ → ℤ := fun entry => if entry.1 = kind then entry.2 else 0
  have set : (((dict.assign name ((dict.lookup name).getD 0 + value)).objects.map amount).sum +
      ((dict.get name).map amount).getD 0) =
      (dict.objects.map amount).sum + amount (name, (dict.lookup name).getD 0 + value) :=
    Keyed.sum_set amount
  have old : ((dict.get name).map amount).getD 0 =
      if name = kind then (dict.lookup name).getD 0 else 0 := by
    unfold Dict.lookup
    cases found : dict.get name with
    | none => simp
    | some entry =>
        obtain ⟨-, rfl⟩ := Keyed.get_mem found
        rfl
  rw [old] at set
  unfold total
  change _ = (dict.objects.map amount).sum + _
  split at set <;> rename_i same
  · simp only [amount, same, if_true] at set ⊢
    linarith
  · simp only [amount, same, if_false] at set ⊢
    linarith

theorem total_foldl (kind : ℤ) (entries : List (ℤ × ℤ)) (dict : Dict ℤ ℤ) :
    total kind (entries.foldl (gatherItem tables) dict).objects =
      total kind dict.objects + total kind (entries.filter (!tables.isRes ·.1)) := by
  induction entries generalizing dict with
  | nil => exact (add_zero _).symm
  | cons entry rest ih =>
      rw [List.foldl_cons, ih]
      by_cases isRes : tables.isRes entry.1 = true
      · simp [gatherItem, isRes]
      · have step : total kind (gatherItem tables dict entry).objects =
            total kind dict.objects + if entry.1 = kind then entry.2 else 0 := by
          rw [gatherItem, if_neg isRes]
          exact total_assign kind entry.1 entry.2 dict
        rw [step, List.filter_cons_of_pos (by simpa using isRes)]
        simp only [total, List.map_cons, List.sum_cons]
        ring

theorem total_rounds (kind : ℤ) (row : Row) (count_nonneg : 0 ≤ count) :
    total kind (itemDict tables (row.rounds count)).objects = count * row.yields tables kind := by
  have rounds_total : ∀ times : ℕ, total kind
      (((List.replicate times row.resolveItem).flatten).filter (!tables.isRes ·.1)) =
        times * row.yields tables kind := by
    intro times
    induction times with
    | zero => simp [total]
    | succ times ih =>
        rw [List.replicate_succ, List.flatten_cons, List.filter_append, total_append, ih,
          Row.yields]
        push_cast
        ring
  rw [itemDict, total_foldl, Row.rounds, rounds_total, Int.toNat_of_nonneg count_nonneg]
  exact zero_add _

theorem lookup_foldl (res : ResId) (entries : List (ℤ × ℤ)) (dict : ResDict) :
    Dict.lookup (entries.foldl (gatherRes tables) dict) res =
      (Dict.lookup (resDict tables entries) res).or (Dict.lookup dict res) := by
  induction entries using List.reverseRecOn with
  | nil => rfl
  | append_singleton entries entry ih =>
      rw [resDict, List.foldl_concat, List.foldl_concat]
      by_cases isRes : tables.isRes entry.1 = true
      · rw [gatherRes, if_pos isRes, gatherRes, if_pos isRes, Dict.lookup_assign,
          Dict.lookup_assign, ih]
        split <;> rfl
      · rw [gatherRes, if_neg isRes, gatherRes, if_neg isRes]
        exact ih

theorem amount_rounds (res : ResId) (row : Row) (count_pos : 0 < count) :
    (resDict tables (row.rounds count)).amount res =
      (resDict tables row.resolveItem).amount res := by
  obtain ⟨times, times_eq⟩ := Nat.exists_eq_succ_of_ne_zero (show count.toNat ≠ 0 by omega)
  have same : ∀ times : ℕ,
      Dict.lookup (resDict tables (List.replicate (times + 1) row.resolveItem).flatten) res =
        Dict.lookup (resDict tables row.resolveItem) res := by
    intro times
    induction times with
    | zero => simp
    | succ times ih =>
        rw [List.replicate_succ, List.flatten_cons, resDict, List.foldl_append, lookup_foldl, ih,
          ← resDict, Option.or_self]
  rw [ResDict.amount, ResDict.amount, Row.rounds, times_eq, same]

/-- An entry of `itemDict` that `addItem` adds. -/
def Addable (tables : ResolveTables) (entry : ℤ × ℤ) : Prop :=
  0 < entry.2 ∧ ∃ cfg, tables.cfgs entry.1 = some cfg

theorem addable_rounds {cfgId : ℤ} (count : ℤ) (found : tables.rows cfgId = some row) :
    ∀ entry ∈ (itemDict tables (row.rounds count)).objects, Addable tables entry := by
  have listed : ∀ entry ∈ row.rounds count, tables.isRes entry.1 = true ∨ Addable tables entry := by
    intro entry entry_mem
    obtain ⟨round, round_mem, inside⟩ := List.mem_flatten.mp entry_mem
    rw [(List.mem_replicate.mp round_mem).2] at inside
    rcases tables.resolve_rows cfgId row found entry inside with
      isRes | ⟨positive, other, row_found, -⟩
    · exact .inl isRes
    · exact .inr ⟨positive, other.toItemCfg, by simp [ResolveTables.cfgs, row_found]⟩
  unfold itemDict
  generalize row.rounds count = entries at listed
  induction entries using List.reverseRecOn with
  | nil => exact fun entry none => absurd none List.not_mem_nil
  | append_singleton entries entry ih =>
      have earlier := ih fun other other_mem => listed other (List.mem_append_left _ other_mem)
      rw [List.foldl_concat]
      generalize entries.foldl (gatherItem tables) Keyed.empty = dict at earlier
      intro other other_mem
      unfold gatherItem at other_mem
      split at other_mem
      · exact earlier other other_mem
      next isItem =>
        have addable := (listed entry (by simp)).resolve_left isItem
        rcases Keyed.mem_set other_mem with rfl | old
        · refine ⟨?_, addable.2⟩
          have old_nonneg : 0 ≤ (dict.lookup entry.1).getD 0 := by
            cases found : dict.lookup entry.1 with
            | none => exact le_rfl
            | some value => exact (earlier _ (Dict.mem_of_lookup found)).1.le
          have positive := addable.1
          dsimp only
          omega
        · exact earlier other old

theorem foldl_addItem (entries : List (ℤ × ℤ)) (stock : Stock tables.cfgs)
    (addable : ∀ entry ∈ entries, Addable tables entry) :
    (∀ kind, (entries.foldl (fun stock entry => stock.addItem entry.1 entry.2) stock).count kind =
        stock.count kind + total kind entries) ∧
      Grows stock.items
        (entries.foldl (fun stock entry => stock.addItem entry.1 entry.2) stock).items := by
  induction entries generalizing stock with
  | nil => exact ⟨fun kind => (add_zero _).symm, .refl _⟩
  | cons entry rest ih =>
      obtain ⟨positive, cfg, found⟩ := addable entry List.mem_cons_self
      obtain ⟨counts, grows⟩ := ih (stock.addItem entry.1 entry.2) fun other other_mem =>
        addable other (List.mem_cons_of_mem entry other_mem)
      refine ⟨fun kind => ?_, (Stock.grows_addItem entry.1 entry.2 stock).trans grows⟩
      rw [List.foldl_cons, counts, Stock.count_addItem found positive]
      simp only [total, List.map_cons, List.sum_cons, eq_comm]
      ring

namespace Bags

variable {item : Item} {list : List (ℤ × ℤ)}

theorem accepted_eq_some :
    bags.accepted id count = some (item, row) ↔
      bags.stock.items.get id = some item ∧ tables.rows item.cfgId = some row ∧
        row.canResolve = true ∧ 0 < count ∧ count ≤ item.num := by
  unfold accepted
  constructor
  · intro accepts
    obtain ⟨found, item_eq, rest⟩ := Option.bind_eq_some_iff.mp accepts
    obtain ⟨other, row_eq, result⟩ := Option.bind_eq_some_iff.mp rest
    split at result
    next fits =>
      obtain ⟨rfl, rfl⟩ := Prod.mk.inj (Option.some.inj result)
      exact ⟨item_eq, row_eq, fits⟩
    · contradiction
  · rintro ⟨item_eq, row_eq, fits⟩
    rw [item_eq, Option.bind_some, row_eq, Option.bind_some, if_pos fits]

theorem resolve_spec (accepts : bags.accepted id count = some (item, row)) :
    (∀ res, (bags.resolve row id count).resBag.num res =
        bags.resBag.num res + row.gain tables res) ∧
      (∀ kind, (bags.resolve row id count).stock.count kind = bags.stock.count kind +
        count * (row.yields tables kind - if kind = item.cfgId then 1 else 0)) ∧
      (count < item.num → ∃ later, (bags.resolve row id count).stock.items.get id = some later ∧
        later.cfgId = item.cfgId ∧ item.num - count ≤ later.num) := by
  obtain ⟨item_eq, row_eq, -, count_pos, count_le⟩ := accepted_eq_some.mp accepts
  obtain ⟨item_mem, rfl⟩ := Keyed.get_mem item_eq
  obtain ⟨counts, grows⟩ := foldl_addItem _ bags.stock (addable_rounds count row_eq)
  obtain ⟨grown, grown_mem, id_eq, kind_eq, num_le⟩ := grows item item_mem
  obtain ⟨taken, left⟩ := Stock.costItemNum_spec grown_mem count_pos (count_le.trans num_le)
  have get_eq : (bags.addItems (itemDict tables (row.rounds count))).stock.items.get item.id =
      some grown := by
    rw [← id_eq]
    exact Keyed.get_of_mem grown_mem
  have resolved : bags.resolve row item.id count =
      { resBag := bags.resBag.addResDict (resDict tables (row.rounds count))
        stock :=
          (bags.addItems (itemDict tables (row.rounds count))).stock.costItemNum grown count } := by
    unfold resolve costItem
    dsimp only
    rw [get_eq]
    rfl
  rw [resolved]
  refine ⟨fun res => ?_, fun kind => ?_, fun some_left => ?_⟩
  · dsimp only
    rw [Resources.ResBag.num_addResDict, amount_rounds res row count_pos, Row.gain]
  · refine (taken kind).trans ?_
    rw [counts, total_rounds kind row count_pos.le, kind_eq]
    split <;> ring
  · have later_mem := left (some_left.trans_le num_le)
    refine ⟨{ grown with num := grown.num - count }, ?_, kind_eq, ?_⟩
    · rw [← id_eq]
      exact Keyed.get_of_mem later_mem
    · dsimp only
      omega

theorem resolveItem_accepted (accepts : bags.accepted id count = some (item, row)) :
    (bags.resolveItem id count).1 = bags.resolve row id count := by
  unfold resolveItem
  rw [accepts]

theorem resolveEach_spec (times : ℕ) (found : bags.stock.items.get id = some item)
    (row_eq : tables.rows item.cfgId = some row) (canResolve : row.canResolve = true)
    (enough : (times : ℤ) ≤ item.num) :
    (∀ res, (bags.resolveEach id times).resBag.num res =
        bags.resBag.num res + times * row.gain tables res) ∧
      ∀ kind, (bags.resolveEach id times).stock.count kind = bags.stock.count kind +
        times * (row.yields tables kind - if kind = item.cfgId then 1 else 0) := by
  induction times generalizing bags item with
  | zero => simp [resolveEach]
  | succ times ih =>
      have accepts : bags.accepted id 1 = some (item, row) :=
        accepted_eq_some.mpr ⟨found, row_eq, canResolve, Int.one_pos, by omega⟩
      obtain ⟨res_eq, count_eq, left⟩ := resolve_spec accepts
      rw [resolveEach, resolveItem_accepted accepts]
      cases times with
      | zero =>
          refine ⟨fun res => ?_, fun kind => ?_⟩
          · rw [resolveEach, res_eq]
            simp
          · rw [resolveEach, count_eq]
            simp
      | succ times =>
          obtain ⟨later, later_eq, kind_eq, num_le⟩ := left (by omega)
          obtain ⟨res_later, count_later⟩ := ih later_eq (kind_eq ▸ row_eq) (by omega)
          refine ⟨fun res => ?_, fun kind => ?_⟩
          · rw [res_later, res_eq]
            push_cast
            ring
          · rw [count_later, count_eq, kind_eq]
            push_cast
            ring

/-- A stack in the bag, and how many of it are resolved. -/
structure Chosen (bags : Bags tables) where
  id : ℤ
  count : ℤ
  item : Item
  row : Row
  found : bags.stock.items.get id = some item
  row_found : tables.rows item.cfgId = some row
  canResolve : row.canResolve = true
  positive : 1 ≤ count
  within : count ≤ item.num

/-- One call for many is many calls for one exactly when there is but one, or no resource is
gained. -/
theorem sameTotals_iff (chosen : Chosen bags) :
    SameTotals (bags.resolveItem chosen.id chosen.count).1
        (bags.resolveEach chosen.id chosen.count.toNat) ↔
      chosen.count = 1 ∨ ∀ res, (resDict tables chosen.row.resolveItem).amount res ≤ 0 := by
  obtain ⟨id, count, item, row, found, row_found, canResolve, positive, within⟩ := chosen
  dsimp only
  have accepts : bags.accepted id count = some (item, row) :=
    accepted_eq_some.mpr ⟨found, row_found, canResolve, by omega, within⟩
  obtain ⟨res_once, count_once, -⟩ := resolve_spec accepts
  have times_eq : (count.toNat : ℤ) = count := Int.toNat_of_nonneg (by omega)
  obtain ⟨res_each, count_each⟩ :=
    resolveEach_spec count.toNat found row_found canResolve (by omega)
  rw [resolveItem_accepted accepts]
  have times_cast : ((count.toNat : ℕ) : ℚ) = count := by exact_mod_cast times_eq
  constructor
  · intro same
    by_contra broken
    obtain ⟨many, gains⟩ := not_or.mp broken
    obtain ⟨res, gain_pos⟩ := not_forall.mp gains
    have equal := same.res res
    rw [res_once, res_each, times_cast, Row.gain, max_eq_left (not_le.mp gain_pos).le] at equal
    have one : (count : ℚ) = 1 := by
      have nonzero : (resDict tables row.resolveItem).amount res ≠ 0 := (not_le.mp gain_pos).ne'
      have := add_left_cancel equal
      exact (mul_right_cancel₀ nonzero ((one_mul _).trans this)).symm
    exact many (by exact_mod_cast one)
  · intro holds
    refine ⟨fun res => ?_, fun kind => ?_⟩
    · rw [res_once, res_each, times_cast]
      rcases holds with rfl | none
      · simp
      · simp [Row.gain, max_eq_right (none res)]
    · rw [count_once, count_each, times_eq]

theorem resolveListed_refused
    (refused : ∀ skillCard ∈ list, bags.accepted skillCard.1 skillCard.2 = none) :
    bags.resolveListed list = (bags, []) := by
  induction list with
  | nil => rfl
  | cons skillCard rest ih =>
      unfold resolveListed
      rw [refused skillCard List.mem_cons_self]
      exact ih fun other other_mem => refused other (List.mem_cons_of_mem skillCard other_mem)

theorem resolveListed_eq_nil (none : (bags.resolveListed list).2 = []) :
    ∀ skillCard ∈ list, bags.accepted skillCard.1 skillCard.2 = Option.none := by
  induction list with
  | nil => exact fun skillCard absurd => by simp at absurd
  | cons skillCard rest ih =>
      unfold resolveListed at none
      split at none
      next refused =>
        intro other other_mem
        rcases List.mem_cons.mp other_mem with rfl | inRest
        · exact refused
        · exact ih none other inRest
      · contradiction

theorem dismantle_iff (list : List (ℤ × ℤ)) (bags : Bags tables) :
    (bags.dismantleSkillCard list).2 = (bags.resolveListed list).2 ↔ bags.RefusedLast list := by
  induction list generalizing bags with
  | nil => exact iff_of_true rfl trivial
  | cons skillCard rest ih =>
      unfold dismantleSkillCard resolveListed RefusedLast
      cases accepts : bags.accepted skillCard.1 skillCard.2 with
      | none =>
          dsimp only
          constructor
          · exact fun same => resolveListed_eq_nil same.symm
          · intro refused
            rw [resolveListed_refused refused]
      | some found =>
          dsimp only
          rw [← ih (bags.resolve found.2 skillCard.1 skillCard.2), List.cons.injEq]
          exact and_iff_right rfl

theorem dismantle_eq (last : bags.RefusedLast list) :
    bags.dismantleSkillCard list = bags.resolveListed list := by
  induction list generalizing bags with
  | nil => rfl
  | cons skillCard rest ih =>
      unfold RefusedLast at last
      unfold dismantleSkillCard resolveListed
      cases accepts : bags.accepted skillCard.1 skillCard.2 with
      | none =>
          rw [accepts] at last
          exact (resolveListed_refused last).symm
      | some found =>
          rw [accepts] at last
          dsimp only
          rw [ih last]

/-- The sum over some items that have been resolved has been credited. -/
structure Credited (resolved : List Resolved) (before after : Bags tables) : Prop where
  res : ∀ res, after.resBag.num res =
    before.resBag.num res + (resolved.map fun one => one.row.gain tables res).sum
  items : ∀ kind, after.stock.count kind = before.stock.count kind +
    (resolved.map fun one =>
      one.count * (one.row.yields tables kind - if kind = one.cfgId then 1 else 0)).sum

theorem credited_listed (list : List (ℤ × ℤ)) (bags : Bags tables) :
    Credited (bags.resolveListed list).2 bags (bags.resolveListed list).1 := by
  induction list generalizing bags with
  | nil => exact ⟨fun res => (add_zero _).symm, fun kind => (add_zero _).symm⟩
  | cons skillCard rest ih =>
      unfold resolveListed
      cases accepts : bags.accepted skillCard.1 skillCard.2 with
      | none => exact ih bags
      | some found =>
          obtain ⟨res_eq, count_eq, -⟩ := resolve_spec accepts
          have later := ih (bags.resolve found.2 skillCard.1 skillCard.2)
          refine ⟨fun res => ?_, fun kind => ?_⟩
          · rw [later.res, res_eq, List.map_cons, List.sum_cons, add_assoc]
          · rw [later.items, count_eq, List.map_cons, List.sum_cons, add_assoc]

/-- `dismantleSkillCard` resolves every listed stack that can be resolved in its turn, and credits
the sum over them. -/
structure Summed (list : List (ℤ × ℤ)) (bags : Bags tables) : Prop where
  all : (bags.dismantleSkillCard list).2 = (bags.resolveListed list).2
  sum : Credited (bags.resolveListed list).2 bags (bags.dismantleSkillCard list).1

/-- One call of `resolveItem` for many items is as good as many calls for one exactly when there is
but one or no resource is gained, and a list is credited as a whole exactly when nothing can be
resolved after a stack that is refused. -/
theorem resolving_iff (tables : ResolveTables) (bags : Bags tables) :
    (∀ chosen : Chosen bags,
      SameTotals (bags.resolveItem chosen.id chosen.count).1
          (bags.resolveEach chosen.id chosen.count.toNat) ↔
        chosen.count = 1 ∨ ∀ res, (resDict tables chosen.row.resolveItem).amount res ≤ 0) ∧
      ∀ list, bags.Summed list ↔ bags.RefusedLast list := by
  refine ⟨sameTotals_iff, fun list => ⟨fun summed => ?_, fun last => ?_⟩⟩
  · exact (dismantle_iff list bags).mp summed.all
  · exact ⟨(dismantle_iff list bags).mpr last,
      by rw [dismantle_eq last]; exact credited_listed list bags⟩

theorem sampleMax_pos : 0 < 99 := by
  decide

def sampleCfg : ItemCfg := ⟨⟨99, sampleMax_pos⟩, false⟩

/-- An item of kind 7 is resolved into ten units of resource 102. -/
def sampleTables : ResolveTables where
  rows := fun cfgId => if cfgId = 7 then some ⟨sampleCfg, true, [(102, 10)]⟩ else none
  isRes := fun cfgId => cfgId = 102
  resolve_rows := by
    intro cfgId row found entry listed
    split at found
    · obtain rfl := Option.some.inj found
      obtain rfl := List.mem_singleton.mp listed
      exact .inl rfl
    · contradiction

/-- Three items of kind 7 and nothing else. -/
def sampleBags : Bags sampleTables where
  resBag := ⟨fun _ => 0⟩
  stock :=
    { items := ⟨[⟨1, 7, 3⟩], by decide⟩
      nextId := 2
      sound := by
        intro item listed
        obtain rfl := List.mem_singleton.mp listed
        exact ⟨by decide, sampleCfg, rfl, by decide⟩
      below := by
        intro item listed
        obtain rfl := List.mem_singleton.mp listed
        decide }

/-- Three items give ten units at once and thirty one by one. -/
theorem not_resolving_three :
    ¬ ∀ (tables : ResolveTables) (bags : Bags tables),
      (∀ chosen : Chosen bags, SameTotals (bags.resolveItem chosen.id chosen.count).1
        (bags.resolveEach chosen.id chosen.count.toNat)) ∧ ∀ list, bags.Summed list := by
  intro holds
  let chosen : Chosen sampleBags :=
    { id := 1
      count := 3
      item := ⟨1, 7, 3⟩
      row := ⟨sampleCfg, true, [(102, 10)]⟩
      found := rfl
      row_found := rfl
      canResolve := rfl
      positive := by decide
      within := by decide }
  have same := ((holds sampleTables sampleBags).1 chosen).res 102
  have once : (sampleBags.resolveItem 1 3).1.resBag.num 102 = 10 := by decide +kernel
  have each : (sampleBags.resolveEach 1 3).resBag.num 102 = 30 := by decide +kernel
  exact absurd (once.symm.trans (same.trans each)) (by decide +kernel)

end Bags

end BasWar.Resolving
