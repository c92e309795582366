import BasWar.Player.Exchange
import Mathlib

/-!
# Prices in Tesseract

What a player lacks of a price is bought with Tesseract.  `calResCost` splits a price into what the
player has and what he lacks; an instant level-up buys every resource of its price.
-/

namespace BasWar.Resources

open Tables

structure PriceCfg where
  /-- `TesseractToRes` of the player's chain. -/
  rateDict : RateDict
  rate_pos : ∀ rate ∈ rateDict.objects, 0 < rate.2
  speedUpPerMinute : ℕ

namespace PriceCfg

variable (cfg : PriceCfg)

/-- `rateDict[rkey] or 1`: what one Tesseract buys of a resource. -/
def rcount (res : ResId) : ℚ :=
  ((resJsonKeys res).bind cfg.rateDict.lookup).getD 1

/-- The Tesseract that amounts are worth, apart from MIT and Tesseract themselves. -/
def worth (amounts : List (ResId × ℚ)) : ℚ :=
  ((amounts.filter fun entry => entry.1 ≠ resMit ∧ entry.1 ≠ resTesseract).map
    fun entry => entry.2 / cfg.rcount entry.1).sum

def resCostTesseract (resDict : ResDict) : ℤ :=
  ⌈cfg.worth resDict.objects⌉

/-- The price of a number of seconds. -/
def timeCostTesseract (sec : Option ℕ) : ℕ :=
  cfg.speedUpPerMinute * ⌈((sec.getD 0 : ℕ) : ℚ) / 60⌉₊

/-- The price of the time that `calResCost` buys as well, if any. -/
def tickCost (tick : Option ℕ) : ℕ :=
  match tick with
  | some sec => cfg.timeCostTesseract (some sec)
  | none => 0

variable {cfg}

theorem rcount_pos (res : ResId) : 0 < cfg.rcount res := by
  unfold rcount
  cases found : (resJsonKeys res).bind cfg.rateDict.lookup with
  | none => exact one_pos
  | some rate =>
      obtain ⟨jsKey, -, rate_eq⟩ := Option.bind_eq_some_iff.mp found
      exact cfg.rate_pos _ (Dict.mem_of_lookup rate_eq)

theorem worth_cons (entry : ResId × ℚ) (amounts : List (ResId × ℚ)) :
    cfg.worth (entry :: amounts) =
      (if entry.1 ≠ resMit ∧ entry.1 ≠ resTesseract then entry.2 / cfg.rcount entry.1 else 0) +
        cfg.worth amounts := by
  by_cases bought : entry.1 ≠ resMit ∧ entry.1 ≠ resTesseract
  · simp [worth, bought]
  · rw [if_neg bought, zero_add, worth, worth, List.filter_cons_of_neg (by simpa using bought)]

variable {amounts : List (ResId × ℚ)}

theorem worth_le_worth {less more : ResId × ℚ → ℚ}
    (le : ∀ entry ∈ amounts, entry.1 ≠ resMit → entry.1 ≠ resTesseract → less entry ≤ more entry) :
    cfg.worth (amounts.map fun entry => (entry.1, less entry)) ≤
      cfg.worth (amounts.map fun entry => (entry.1, more entry)) := by
  induction amounts with
  | nil => exact le_rfl
  | cons entry amounts ih =>
      rw [List.map_cons, List.map_cons, worth_cons, worth_cons]
      refine add_le_add ?_ (ih fun other other_mem => le other (List.mem_cons_of_mem _ other_mem))
      split
      next bought =>
        exact div_le_div_of_nonneg_right (le entry List.mem_cons_self bought.1 bought.2)
          (rcount_pos _).le
      · exact le_rfl

theorem worth_congr {first second : ResId × ℚ → ℚ}
    (same : ∀ entry ∈ amounts, entry.1 ≠ resMit → entry.1 ≠ resTesseract →
      first entry = second entry) :
    cfg.worth (amounts.map fun entry => (entry.1, first entry)) =
      cfg.worth (amounts.map fun entry => (entry.1, second entry)) :=
  le_antisymm
    (worth_le_worth fun entry mem mit tesseract => (same entry mem mit tesseract).le)
    (worth_le_worth fun entry mem mit tesseract => (same entry mem mit tesseract).ge)

theorem worth_nonneg (nonneg : ∀ entry ∈ amounts, 0 ≤ entry.2) : 0 ≤ cfg.worth amounts := by
  refine List.sum_nonneg fun value value_mem => ?_
  obtain ⟨entry, entry_mem, rfl⟩ := List.mem_map.mp value_mem
  exact div_nonneg (nonneg entry (List.mem_of_mem_filter entry_mem)) (rcount_pos _).le

end PriceCfg

/-- A charge covers a price: MIT, Tesseract and time are paid, and the rest of the Tesseract buys
what was not taken of the other resources. -/
structure Charged (cfg : PriceCfg) (cost : ResDict) (time : ℚ) (before after : ResBag) : Prop where
  mit : cost.amount resMit ≤ before.num resMit - after.num resMit
  tesseract :
    cost.amount resTesseract + time ≤ before.num resTesseract - after.num resTesseract
  others :
    cfg.worth (cost.objects.map fun entry =>
        (entry.1, max (entry.2 - (before.num entry.1 - after.num entry.1)) 0)) ≤
      before.num resTesseract - after.num resTesseract - (cost.amount resTesseract + time)

/-- The rest of the Tesseract is not negative, so that Tesseract and time are paid. -/
theorem charged_iff {cfg : PriceCfg} {cost : ResDict} {time : ℚ} {before after : ResBag} :
    Charged cfg cost time before after ↔
      cost.amount resMit ≤ before.num resMit - after.num resMit ∧
        cfg.worth (cost.objects.map fun entry =>
            (entry.1, max (entry.2 - (before.num entry.1 - after.num entry.1)) 0)) ≤
          before.num resTesseract - after.num resTesseract -
            (cost.amount resTesseract + time) := by
  constructor
  · exact fun charged => ⟨charged.mit, charged.others⟩
  · rintro ⟨mit, others⟩
    refine ⟨mit, ?_, others⟩
    have rest_nonneg : 0 ≤ cfg.worth (cost.objects.map fun entry =>
        (entry.1, max (entry.2 - (before.num entry.1 - after.num entry.1)) 0)) := by
      refine PriceCfg.worth_nonneg fun entry entry_mem => ?_
      obtain ⟨old, -, rfl⟩ := List.mem_map.mp entry_mem
      exact le_max_right _ _
    exact sub_nonneg.mp (rest_nonneg.trans others)

namespace ResBag

variable (bag : ResBag)

/-- The part of a price that the player has: `newResDict` after the loop of `calResCost`. -/
def present (resDict : ResDict) : ResDict :=
  resDict.map
    (fun entry =>
      (entry.1,
        if 0 < entry.2 - bag.balance entry.1 then bag.balance entry.1 else entry.2))
    fun _ => rfl

/-- The part of a price that the player lacks: `addResDict` after the loop of `calResCost`. -/
def lacking (resDict : ResDict) : ResDict where
  objects := (resDict.objects.filter fun entry => 0 < entry.2 - bag.balance entry.1).map
    fun entry => (entry.1, entry.2 - bag.balance entry.1)
  nodup := by
    rw [List.map_map]
    exact resDict.nodup.sublist (List.filter_sublist.map _)

/-- The tick is the time that is bought as well. -/
def calResCost (cfg : PriceCfg) (resDict : ResDict) (tick : Option ℕ) : ResDict :=
  let newResDict := bag.present resDict
  newResDict.assign resTesseract (ResDict.amount newResDict resTesseract +
    (cfg.resCostTesseract (bag.lacking resDict) + cfg.tickCost tick))

variable {bag : ResBag} {cfg : PriceCfg} {cost : ResDict} {tick : Option ℕ}

theorem lookup_present (cost : ResDict) (res : ResId) :
    (bag.present cost).lookup res =
      (cost.lookup res).map fun count => min count (bag.num res) := by
  rw [Dict.lookup, present, Keyed.get_map, Dict.lookup, Option.map_map, Option.map_map]
  cases found : cost.get res with
  | none => rfl
  | some entry =>
      obtain ⟨-, rfl⟩ := Keyed.get_mem found
      simp only [Option.map_some, Function.comp_apply, balance_eq, sub_pos]
      rw [min_comm, min_def_lt]

theorem worth_lacking (cost : ResDict) :
    cfg.worth (bag.lacking cost).objects =
      cfg.worth (cost.objects.map fun entry =>
        (entry.1, max (entry.2 - bag.num entry.1) 0)) := by
  obtain ⟨entries, nodup⟩ := cost
  simp only [lacking, balance_eq]
  clear nodup
  induction entries with
  | nil => rfl
  | cons entry entries ih =>
      rw [List.map_cons, PriceCfg.worth_cons, ← ih]
      by_cases short : 0 < entry.2 - bag.num entry.1
      · rw [List.filter_cons_of_pos (by simpa using short), List.map_cons, PriceCfg.worth_cons,
          max_eq_left short.le]
      · rw [List.filter_cons_of_neg (by simpa using short), max_eq_right (not_lt.mp short)]
        simp

/-- The player has the MIT and the Tesseract of a price, the MIT without a fraction. -/
def Owns (bag : ResBag) (cost : ResDict) : Prop :=
  (cost.amount resMit = 0 ∨
      cost.amount resMit ≤ bag.num resMit ∧ Whole (cost.amount resMit)) ∧
    (cost.amount resTesseract = 0 ∨ cost.amount resTesseract ≤ bag.num resTesseract)

/-- What whole units of the present part leave unpaid. -/
def unpaid (bag : ResBag) (entry : ResId × ℚ) : ℚ :=
  entry.2 - max (⌊min entry.2 (bag.num entry.1)⌋ : ℚ) 0

/-- Rounding up the price of the lacking part makes up for the fractions that are not taken. -/
def RoundsUp (cfg : PriceCfg) (bag : ResBag) (cost : ResDict) : Prop :=
  cfg.worth (cost.objects.map fun entry => (entry.1, bag.unpaid entry)) ≤
    ⌈cfg.worth (cost.objects.map fun entry => (entry.1, max (entry.2 - bag.num entry.1) 0))⌉ -
      Int.fract (cost.amount resTesseract)

theorem unpaid_nonneg {entry : ResId × ℚ} (nonneg : 0 ≤ entry.2) : 0 ≤ bag.unpaid entry :=
  sub_nonneg.mpr (max_le ((Int.floor_le _).trans (min_le_left _ _)) nonneg)

theorem RoundsUp.of_whole (nonneg : ∀ entry ∈ cost.objects, 0 ≤ entry.2)
    (whole : ∀ entry ∈ cost.objects, Whole entry.2) (whole_bag : ∀ res, Whole (bag.num res)) :
    RoundsUp cfg bag cost := by
  have fract_eq : Int.fract (cost.amount resTesseract) = 0 := by
    rw [ResDict.amount]
    cases found : cost.lookup resTesseract with
    | none => exact Int.fract_zero
    | some count =>
        have count_whole := whole _ (Dict.mem_of_lookup found)
        rw [Whole] at count_whole
        rw [Option.getD_some, Int.fract, count_whole, sub_self]
  rw [RoundsUp, fract_eq, sub_zero]
  refine le_trans (PriceCfg.worth_le_worth fun entry entry_mem _ _ => ?_) (Int.le_ceil _)
  have count_whole := whole entry entry_mem
  have num_whole := whole_bag entry.1
  have count_nonneg := nonneg entry entry_mem
  rw [Whole] at count_whole num_whole
  rw [unpaid]
  rcases le_total entry.2 (bag.num entry.1) with enough | short
  · rw [min_eq_left enough, count_whole, max_eq_left count_nonneg, sub_self]
    exact le_max_right _ _
  · rw [min_eq_right short, num_whole]
    exact (sub_le_sub_left (le_max_left _ _) _).trans (le_max_left _ _)

/-- A count that is not negative is paid in whole units exactly if it is owned as such. -/
theorem le_floor_min_iff {count num : ℚ} (nonneg : 0 ≤ count) :
    count ≤ max (⌊min count num⌋ : ℚ) 0 ↔ count = 0 ∨ count ≤ num ∧ Whole count := by
  rcases nonneg.eq_or_lt with rfl | positive
  · simp
  have floor_le := Int.floor_le (min count num)
  constructor
  · intro paid
    have whole_le : count ≤ ⌊min count num⌋ := by
      rcases le_max_iff.mp paid with le | small
      · exact le
      · exact absurd small (not_le.mpr positive)
    have owned : count ≤ num := (whole_le.trans floor_le).trans (min_le_right _ _)
    rw [min_eq_left owned] at whole_le
    exact .inr ⟨owned, le_antisymm (Int.floor_le _) whole_le⟩
  · rintro (rfl | ⟨owned, whole⟩)
    · exact absurd positive (lt_irrefl _)
    · rw [Whole] at whole
      rw [min_eq_left owned, whole]
      exact le_max_left _ _

/-- The Tesseract that is left for other resources, if the price in Tesseract is accepted. -/
theorem rest_covers_iff {need own num rest : ℚ} {bought : ℤ} {time : ℕ} (need_nonneg : 0 ≤ need)
    (bought_nonneg : 0 ≤ bought) (rest_nonneg : 0 ≤ rest)
    (own_eq : own = need ∨ own = num ∧ num < need) (accepted : own + (bought + time) ≤ num) :
    rest ≤ max (⌊own + (bought + time)⌋ : ℚ) 0 - (need + time) ↔
      (need = 0 ∨ need ≤ num) ∧ rest ≤ bought - Int.fract need := by
  have bought_nonneg' : (0 : ℚ) ≤ bought := mod_cast bought_nonneg
  have time_nonneg : (0 : ℚ) ≤ time := Nat.cast_nonneg time
  rcases own_eq with rfl | ⟨rfl, short⟩
  · have floor_eq : ⌊own + (bought + time)⌋ = ⌊own⌋ + (bought + time) := by
      rw [← Int.floor_add_intCast]
      push_cast
      rfl
    have floor_nonneg : (0 : ℚ) ≤ ⌊own⌋ := mod_cast Int.floor_nonneg.mpr need_nonneg
    rw [floor_eq]
    push_cast
    rw [max_eq_left (by linarith), Int.fract]
    constructor
    · exact fun covered => ⟨.inr (by linarith), by linarith⟩
    · exact fun covered => by linarith [covered.2]
  · have bought_zero : (bought : ℚ) = 0 := by linarith
    have time_zero : (time : ℚ) = 0 := by linarith
    rw [bought_zero, time_zero, add_zero, add_zero, add_zero]
    constructor
    · intro covered
      have need_zero : need = 0 := by
        rcases le_max_iff.mp (by linarith : need ≤ max (⌊own⌋ : ℚ) 0) with le | small
        · linarith [Int.floor_le own]
        · exact le_antisymm small need_nonneg
      subst need_zero
      have floor_neg : (⌊own⌋ : ℚ) ≤ 0 := by linarith [Int.floor_le own]
      rw [max_eq_right floor_neg] at covered
      exact ⟨.inl rfl, by simpa using covered⟩
    · rintro ⟨rfl | owned, covered⟩
      · have floor_neg : (⌊own⌋ : ℚ) ≤ 0 := by linarith [Int.floor_le own]
        rw [max_eq_right floor_neg]
        simpa using covered
      · exact absurd owned (not_le.mpr short)

theorem amount_calResCost (cfg : PriceCfg) (cost : ResDict) (tick : Option ℕ) (res : ResId) :
    (bag.calResCost cfg cost tick).amount res =
      (bag.present cost).amount res +
        if res = resTesseract then
          (cfg.resCostTesseract (bag.lacking cost) : ℚ) + cfg.tickCost tick
        else 0 := by
  rw [calResCost, ResDict.amount_assign]
  split
  next same => rw [same]
  · rw [add_zero]

theorem taken_calResCost (accepted : bag.enoughResDict (bag.calResCost cfg cost tick) = true)
    (res : ResId) :
    bag.num res - (bag.costResDict (bag.calResCost cfg cost tick)).num res =
      max (⌊(bag.calResCost cfg cost tick).amount res⌋ : ℚ) 0 := by
  rw [num_costResDict accepted, sub_sub_cancel]

/-- A price that `calResCost` splits and the balance admits is covered exactly if the player owns
its MIT and its Tesseract, and rounding up makes up for what rounding down drops. -/
theorem calResCost_charged_iff (nonneg : ∀ entry ∈ cost.objects, 0 ≤ entry.2)
    (accepted : bag.enoughResDict (bag.calResCost cfg cost tick) = true) :
    Charged cfg cost (cfg.tickCost tick) bag
        (bag.costResDict (bag.calResCost cfg cost tick)) ↔
      bag.Owns cost ∧ RoundsUp cfg bag cost := by
  have amount_nonneg (res : ResId) : 0 ≤ cost.amount res := by
    rw [ResDict.amount]
    cases found : cost.lookup res with
    | none => exact le_rfl
    | some count => exact nonneg _ (Dict.mem_of_lookup found)
  have mit_iff : cost.amount resMit ≤
      max (⌊(bag.calResCost cfg cost tick).amount resMit⌋ : ℚ) 0 ↔
        cost.amount resMit = 0 ∨ cost.amount resMit ≤ bag.num resMit ∧
          Whole (cost.amount resMit) := by
    rw [amount_calResCost, if_neg (by decide), add_zero, ← le_floor_min_iff (amount_nonneg _),
      ResDict.amount, ResDict.amount, lookup_present]
    cases cost.lookup resMit with
    | none => simp
    | some count => rfl
  have others_eq : cfg.worth (cost.objects.map fun entry =>
      (entry.1, max (entry.2 - (bag.num entry.1 -
        (bag.costResDict (bag.calResCost cfg cost tick)).num entry.1)) 0)) =
      cfg.worth (cost.objects.map fun entry => (entry.1, bag.unpaid entry)) := by
    refine PriceCfg.worth_congr fun entry entry_mem _ not_tesseract => ?_
    have amount_eq : (bag.calResCost cfg cost tick).amount entry.1 =
        min entry.2 (bag.num entry.1) := by
      rw [amount_calResCost, if_neg not_tesseract, add_zero, ResDict.amount, lookup_present,
        Dict.lookup_of_mem entry_mem]
      rfl
    rw [taken_calResCost accepted, amount_eq]
    exact max_eq_left (unpaid_nonneg (nonneg entry entry_mem))
  have present_eq : (bag.present cost).amount resTesseract = cost.amount resTesseract ∨
      (bag.present cost).amount resTesseract = bag.num resTesseract ∧
        bag.num resTesseract < cost.amount resTesseract := by
    rw [ResDict.amount, ResDict.amount, lookup_present]
    cases cost.lookup resTesseract with
    | none => exact .inl rfl
    | some count =>
        rcases le_or_gt count (bag.num resTesseract) with enough | short
        · exact .inl (min_eq_left enough)
        · exact .inr ⟨min_eq_right short.le, short⟩
  have price_le : (bag.present cost).amount resTesseract +
      ((cfg.resCostTesseract (bag.lacking cost) : ℚ) + cfg.tickCost tick) ≤
        bag.num resTesseract := by
    have assigned : (bag.calResCost cfg cost tick).lookup resTesseract =
        some ((bag.present cost).amount resTesseract +
          (cfg.resCostTesseract (bag.lacking cost) + cfg.tickCost tick)) := by
      rw [calResCost, Dict.lookup_assign, if_pos rfl]
    exact enoughResDict_iff.mp accepted _ (Dict.mem_of_lookup assigned)
  have lacking_nonneg : 0 ≤ cfg.resCostTesseract (bag.lacking cost) := by
    rw [PriceCfg.resCostTesseract, worth_lacking]
    refine Int.ceil_nonneg (PriceCfg.worth_nonneg fun entry entry_mem => ?_)
    obtain ⟨old, -, rfl⟩ := List.mem_map.mp entry_mem
    exact le_max_right _ _
  have unpaid_worth :
      0 ≤ cfg.worth (cost.objects.map fun entry => (entry.1, bag.unpaid entry)) := by
    refine PriceCfg.worth_nonneg fun entry entry_mem => ?_
    obtain ⟨old, old_mem, rfl⟩ := List.mem_map.mp entry_mem
    exact unpaid_nonneg (nonneg old old_mem)
  rw [charged_iff, taken_calResCost accepted, taken_calResCost accepted, others_eq, mit_iff,
    amount_calResCost cfg cost tick resTesseract, if_pos rfl,
    rest_covers_iff (amount_nonneg _) lacking_nonneg unpaid_worth present_eq price_le, Owns,
      RoundsUp,
    ← worth_lacking, and_assoc]
  rfl

end ResBag

theorem defaultKeys_nodup :
    (([("starCoin", 10), ("ice", 10), ("titanium", 10), ("gas", 10)] : List (String × ℚ)).map
      Prod.fst).Nodup := by
  decide

/-- The rates that the game starts with. -/
def defaultPrices : PriceCfg where
  rateDict := ⟨[("starCoin", 10), ("ice", 10), ("titanium", 10), ("gas", 10)], defaultKeys_nodup⟩
  rate_pos := by decide +kernel
  speedUpPerMinute := 2

/-- 4 of MIT, 100 of ice and 50 of Tesseract. -/
def thriftyBag : ResBag :=
  ⟨fun res => if res = resMit then 4 else if res = resIce then 100
    else if res = resTesseract then 50 else 0⟩

def mitCost : ResDict :=
  ⟨[(resMit, 10), (resIce, 20)], by decide⟩

def iceCost : ResDict :=
  ⟨[(resIce, 120), (resTesseract, 5)], by decide⟩

/-- The price of 10 MIT is accepted from a player who has 4, and takes these 4. -/
theorem mitCost_undercharged :
    thriftyBag.enoughResDict (thriftyBag.calResCost defaultPrices mitCost none) = true ∧
      ¬ Charged defaultPrices mitCost 0 thriftyBag
        (thriftyBag.costResDict (thriftyBag.calResCost defaultPrices mitCost none)) :=
  ⟨by decide +kernel, fun charged => absurd charged.mit (by decide +kernel)⟩

theorem iceCost_charged :
    Charged defaultPrices iceCost (defaultPrices.tickCost none) thriftyBag
      (thriftyBag.costResDict (thriftyBag.calResCost defaultPrices iceCost none)) :=
  (ResBag.calResCost_charged_iff (by decide +kernel) (by decide +kernel)).mpr
    ⟨⟨.inl (by decide +kernel), .inr (by decide +kernel)⟩,
      ResBag.RoundsUp.of_whole (by decide +kernel) (by decide +kernel) fun res => by
        unfold thriftyBag
        dsimp only
        split_ifs <;> decide +kernel⟩

end BasWar.Resources
