import BasWar.Player.Stores

/-!
# Exchange of resources

`exchangeRes` pays Tesseract or Carboxyl for another resource at the rate of the player's chain.
-/

namespace BasWar.Resources

open Tables

/-- Rates by the name of the resource that is bought. -/
abbrev RateDict := Dict String ℚ

/-- Rate dictionaries by the number of the chain. -/
abbrev RateTable := Dict ℤ RateDict

/-- `result[chain] or result["0"]`. -/
def RateTable.rateDict (table : RateTable) (chain : ℤ) : Option RateDict :=
  (table.lookup chain).or (table.lookup 0)

structure RateCfg where
  /-- `REDIS_TESSERACT_TO_RES`. -/
  tesseractToRes : RateTable
  /-- `REDIS_HYDROXYL_TO_TESSERACT`. -/
  hydroxylToTesseract : RateTable

/-- `RES_KEY_TO_REDIS_KEY`. -/
def RateCfg.table (cfg : RateCfg) (fromRes : ResId) : RateTable :=
  if fromRes = resTesseract then cfg.tesseractToRes else cfg.hydroxylToTesseract

/-- The dictionary of the amounts that `exchangeRes` credits. -/
def exchangeDict (rateDict : RateDict) (jsKey : String) (fromCount : ℚ) (toRes : ResId) : ResDict :=
  rateDict.objects.foldl (fun (resDict : ResDict) rate =>
    if rate.1 = jsKey then resDict.assign toRes (rate.2 * fromCount) else resDict) Keyed.empty

def exchangeRes (cfg : RateCfg) (chain : ℤ) (fromRes : ResId) (fromCount : ℚ) (toRes : ResId)
    (bag : ResBag) : ResBag :=
  if fromCount ≤ 0 then bag
  else if fromRes ≠ resTesseract ∧ fromRes ≠ resCarboxyl then bag
  else if !bag.enoughRes fromRes fromCount then bag
  else
    match resJsonKeys toRes with
    | none => bag
    | some jsKey =>
        match (cfg.table fromRes).rateDict chain with
        | none => bag
        | some rateDict =>
            (bag.costRes fromRes fromCount).addResDict
              (exchangeDict rateDict jsKey fromCount toRes)

/-- The rate that the table of the chain has for a resource. -/
def RateCfg.rate (cfg : RateCfg) (chain : ℤ) (fromRes toRes : ResId) : Option ℚ :=
  ((cfg.table fromRes).rateDict chain).bind fun rateDict =>
    (resJsonKeys toRes).bind fun jsKey => rateDict.lookup jsKey

/-- No test of `exchangeRes` stops the request. -/
def Exchangeable (cfg : RateCfg) (chain : ℤ) (fromRes : ResId) (fromCount : ℚ) (toRes : ResId)
    (bag : ResBag) : Prop :=
  0 < fromCount ∧ (fromRes = resTesseract ∨ fromRes = resCarboxyl) ∧
    fromCount ≤ bag.num fromRes ∧ (resJsonKeys toRes).isSome ∧
    ((cfg.table fromRes).rateDict chain).isSome

section Exchange

variable {cfg : RateCfg} {chain : ℤ} {fromRes toRes : ResId} {fromCount : ℚ} {bag : ResBag}

theorem amount_exchangeDict (rateDict : RateDict) (jsKey : String) (fromCount : ℚ)
    (toRes : ResId) :
    (exchangeDict rateDict jsKey fromCount toRes).amount toRes =
      ((rateDict.lookup jsKey).map fun rate => rate * fromCount).getD 0 := by
  have credited := Dict.foldl_view rateDict
    (fun (resDict : ResDict) rate =>
      if rate.1 = jsKey then resDict.assign toRes (rate.2 * fromCount) else resDict)
    (fun resDict name => if name = jsKey then resDict.amount toRes else 0)
    (fun name rate amount => if name = jsKey then rate * fromCount else amount)
    ?elsewhere ?here Keyed.empty jsKey
  case elsewhere =>
    intro resDict rate name different
    by_cases is_key : name = jsKey
    · have other_key : rate.1 ≠ jsKey := fun same => different (is_key.trans same.symm)
      rw [if_neg other_key]
    · rw [if_neg is_key, if_neg is_key]
  case here =>
    intro resDict rate
    by_cases is_key : rate.1 = jsKey
    · rw [if_pos is_key, if_pos is_key, if_pos is_key, ResDict.amount_assign, if_pos rfl]
    · rw [if_neg is_key, if_neg is_key, if_neg is_key]
  rw [if_pos rfl] at credited
  refine Eq.trans credited ?_
  cases rateDict.lookup jsKey with
  | none => exact if_pos rfl
  | some rate => exact if_pos rfl

theorem amount_exchangeDict_of_ne (rateDict : RateDict) (jsKey : String) (fromCount : ℚ)
    {other : ResId} (different : other ≠ toRes) :
    (exchangeDict rateDict jsKey fromCount toRes).amount other = 0 := by
  have kept (rates : List (String × ℚ)) (resDict : ResDict) :
      (rates.foldl (fun (resDict : ResDict) rate =>
        if rate.1 = jsKey then resDict.assign toRes (rate.2 * fromCount) else resDict)
          resDict).amount other = resDict.amount other := by
    induction rates generalizing resDict with
    | nil => rfl
    | cons rate rates ih =>
        rw [List.foldl_cons, ih]
        split
        · rw [ResDict.amount_assign, if_neg different]
        · rfl
  exact kept rateDict.objects Keyed.empty

theorem exchangeRes_refused (refused : ¬ Exchangeable cfg chain fromRes fromCount toRes bag) :
    exchangeRes cfg chain fromRes fromCount toRes bag = bag := by
  unfold exchangeRes
  split_ifs with small other short
  iterate 3 rfl
  split
  · rfl
  next jsKey key_eq =>
    split
    · rfl
    next rateDict dict_eq =>
      refine absurd ⟨not_le.mp small, ?_, ?_, by simp [key_eq], by simp [dict_eq]⟩ refused
      · by_contra neither
        exact other (not_or.mp neither)
      · simpa [ResBag.enoughRes_iff] using short

theorem num_exchangeRes (accepted : Exchangeable cfg chain fromRes fromCount toRes bag)
    (res : ResId) :
    (exchangeRes cfg chain fromRes fromCount toRes bag).num res =
      bag.num res - (if res = fromRes then (⌊fromCount⌋ : ℚ) else 0) +
        if res = toRes then max ((cfg.rate chain fromRes toRes).getD 0 * fromCount) 0 else 0 := by
  obtain ⟨positive, sold, covered, named, listed⟩ := accepted
  obtain ⟨jsKey, key_eq⟩ := Option.isSome_iff_exists.mp named
  obtain ⟨rateDict, dict_eq⟩ := Option.isSome_iff_exists.mp listed
  have enough : bag.enoughRes fromRes fromCount = true := ResBag.enoughRes_iff.mpr covered
  have rate_eq : cfg.rate chain fromRes toRes = rateDict.lookup jsKey := by
    rw [RateCfg.rate, dict_eq, key_eq]
    rfl
  have paid_eq : (bag.costRes fromRes fromCount).num res =
      bag.num res - if res = fromRes then (⌊fromCount⌋ : ℚ) else 0 := by
    split
    next same =>
      have floor_nonneg : (0 : ℚ) ≤ ⌊fromCount⌋ := mod_cast Int.floor_nonneg.mpr positive.le
      rw [same, ResBag.num_costRes_covered covered, max_eq_left floor_nonneg]
    next different => rw [ResBag.num_costRes_of_ne different, sub_zero]
  have credited_eq : max ((exchangeDict rateDict jsKey fromCount toRes).amount res) 0 =
      if res = toRes then max ((cfg.rate chain fromRes toRes).getD 0 * fromCount) 0 else 0 := by
    split
    next same =>
      rw [same, amount_exchangeDict, rate_eq]
      cases rateDict.lookup jsKey <;> simp
    next different => rw [amount_exchangeDict_of_ne _ _ _ different, max_self]
  have not_other : ¬(fromRes ≠ resTesseract ∧ fromRes ≠ resCarboxyl) := by tauto
  rw [exchangeRes, if_neg (not_le.mpr positive), if_neg not_other, if_neg (by simp [enough]),
    key_eq, dict_eq]
  dsimp only
  rw [ResBag.num_addResDict, paid_eq, credited_eq]

/-- Nothing changes, or the rate of the table is paid; and no payment goes without a credit. -/
def AllOrNothing (rate : Option ℚ) (fromRes : ResId) (fromCount : ℚ) (toRes : ResId)
    (before after : ResBag) : Prop :=
  (after = before ∨
      ∃ value, rate = some value ∧ after.num fromRes = before.num fromRes - fromCount ∧
        after.num toRes = before.num toRes + value * fromCount) ∧
    (after.num fromRes < before.num fromRes → before.num toRes < after.num toRes)

/-- A positive rate for a whole count of another resource; a count below one is not taken. -/
def Sellable (rate : Option ℚ) (fromRes : ResId) (fromCount : ℚ) (toRes : ResId) : Prop :=
  if 0 < rate.getD 0 then
    if fromRes = toRes then ⌊fromCount⌋ = rate.getD 0 * fromCount else Whole fromCount
  else fromCount < 1

/-- Balances that pay the whole units of a count and credit a positive rate. -/
theorem allOrNothing_iff_rate {rate : Option ℚ} {after : ResBag} (positive : 0 < fromCount)
    (num_eq : ∀ res, after.num res = bag.num res -
      (if res = fromRes then (⌊fromCount⌋ : ℚ) else 0) +
        if res = toRes then max (rate.getD 0 * fromCount) 0 else 0) :
    AllOrNothing rate fromRes fromCount toRes bag after ↔
      Sellable rate fromRes fromCount toRes := by
  have from_eq := num_eq fromRes
  have to_eq := num_eq toRes
  have floor_le := Int.floor_le fromCount
  have floor_nonneg : (0 : ℚ) ≤ ⌊fromCount⌋ := mod_cast Int.floor_nonneg.mpr positive.le
  unfold AllOrNothing Sellable
  by_cases offered : 0 < rate.getD 0
  · have credit_pos := mul_pos offered positive
    rw [if_pos offered]
    rw [max_eq_left credit_pos.le] at from_eq to_eq
    by_cases same : fromRes = toRes
    · subst same
      rw [if_pos rfl, if_pos rfl] at from_eq
      rw [if_pos rfl]
      constructor
      · rintro ⟨unchanged | ⟨value, rfl, paid, credited⟩, -⟩
        · rw [unchanged] at from_eq
          linarith
        · rw [Option.getD_some] at credit_pos
          linarith
      · intro balanced
        have unchanged : after = bag := by
          ext res
          rw [num_eq res, max_eq_left credit_pos.le, balanced]
          ring
        exact ⟨.inl unchanged, fun less => absurd (unchanged ▸ less) (lt_irrefl _)⟩
    · rw [if_pos rfl, if_neg same] at from_eq
      rw [if_neg (Ne.symm same), if_pos rfl] at to_eq
      rw [if_neg same]
      constructor
      · rintro ⟨unchanged | ⟨value, -, paid, -⟩, -⟩
        · rw [unchanged] at to_eq
          linarith
        · rw [Whole]
          linarith
      · intro whole
        obtain ⟨value, rfl⟩ : ∃ value, rate = some value := by
          cases rate with
          | none => exact absurd offered (lt_irrefl _)
          | some value => exact ⟨value, rfl⟩
        rw [Whole] at whole
        rw [Option.getD_some] at to_eq credit_pos
        exact ⟨.inr ⟨value, rfl, by linarith, by linarith⟩, fun _ => by linarith⟩
  · have nothing : max (rate.getD 0 * fromCount) 0 = 0 :=
      max_eq_right (mul_nonpos_of_nonpos_of_nonneg (not_lt.mp offered) positive.le)
    rw [nothing] at from_eq to_eq
    rw [if_neg offered]
    constructor
    · rintro ⟨-, no_loss⟩
      by_contra large
      have taken : (1 : ℚ) ≤ ⌊fromCount⌋ := mod_cast Int.le_floor.mpr (by simpa using large)
      rw [if_pos rfl, ite_self] at from_eq
      have credited := no_loss (by linarith)
      split_ifs at to_eq <;> linarith
    · intro small
      have floor_eq : (⌊fromCount⌋ : ℚ) = 0 :=
        mod_cast Int.floor_eq_zero_iff.mpr ⟨positive.le, small⟩
      have unchanged : after = bag := by
        ext res
        rw [num_eq res, nothing, floor_eq, ite_self, ite_self]
        ring
      exact ⟨.inl unchanged, fun less => absurd (unchanged ▸ less) (lt_irrefl _)⟩

/-- An exchange is all or nothing exactly if the request is refused or can be sold. -/
theorem exchangeRes_iff (cfg : RateCfg) (chain : ℤ) (fromRes : ResId) (fromCount : ℚ)
    (toRes : ResId) (bag : ResBag) :
    AllOrNothing (cfg.rate chain fromRes toRes) fromRes fromCount toRes bag
        (exchangeRes cfg chain fromRes fromCount toRes bag) ↔
      (Exchangeable cfg chain fromRes fromCount toRes bag →
        Sellable (cfg.rate chain fromRes toRes) fromRes fromCount toRes) := by
  by_cases accepted : Exchangeable cfg chain fromRes fromCount toRes bag
  swap
  · rw [exchangeRes_refused accepted]
    exact iff_of_true ⟨.inl rfl, fun less => absurd less (lt_irrefl _)⟩
      fun exchangeable => absurd exchangeable accepted
  rw [imp_iff_right accepted]
  have num_eq := num_exchangeRes accepted
  obtain ⟨after, after_eq⟩ :
      ∃ after, exchangeRes cfg chain fromRes fromCount toRes bag = after := ⟨_, rfl⟩
  rw [after_eq] at num_eq ⊢
  exact allOrNothing_iff_rate accepted.1 num_eq

/-- The tables that the game starts with, for chain 0. -/
def defaultRates : RateCfg where
  tesseractToRes :=
    ⟨[(0, ⟨[("starCoin", 10), ("ice", 10), ("titanium", 10), ("gas", 10)], by decide⟩)],
      by decide⟩
  hydroxylToTesseract := ⟨[(0, ⟨[("tesseract", 1)], by decide⟩)], by decide⟩

def richBag : ResBag :=
  ⟨fun _ => 500⟩

/-- Carboxyl is taken for ice and nothing is credited, since the table has no rate for ice. -/
theorem richBag_loses_carboxyl :
    ¬ AllOrNothing (defaultRates.rate 0 resCarboxyl resIce) resCarboxyl 200 resIce richBag
      (exchangeRes defaultRates 0 resCarboxyl 200 resIce richBag) := by
  rintro ⟨-, no_loss⟩
  exact absurd (no_loss (by decide +kernel)) (by decide +kernel)

end Exchange

end BasWar.Resources
