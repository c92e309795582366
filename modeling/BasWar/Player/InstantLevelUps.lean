import BasWar.Player.Prices

/-!
# What an instant level-up costs

`levelUpBuild` and `soliderLevelUp` charge a level-up in several branches.  An instant one buys the
time and every resource with Tesseract; the branches differ in the Tesseract of the price itself.
-/

namespace BasWar.Resources

open Tables

/-- The price of a level in the configuration; absent columns count as 0. -/
structure LevelCfg where
  levelUpNeedStarCoin : Option ℕ
  levelUpNeedIce : Option ℕ
  levelUpNeedTesseract : Option ℕ
  levelUpNeedTitanium : Option ℕ
  levelUpNeedGas : Option ℕ
  levelUpNeedMit : Option ℕ
  /-- Seconds. -/
  levelUpNeedTick : Option ℕ

/-- `cfg[column] or 0`. -/
def column (value : Option ℕ) : ℚ :=
  (value.getD 0 : ℕ)

def LevelCfg.resDict (level : LevelCfg) : ResDict where
  objects :=
    [(resStarCoin, column level.levelUpNeedStarCoin), (resIce, column level.levelUpNeedIce),
      (resTesseract, column level.levelUpNeedTesseract),
      (resTitanium, column level.levelUpNeedTitanium), (resGas, column level.levelUpNeedGas),
      (resMit, column level.levelUpNeedMit)]
  nodup := show [resStarCoin, resIce, resTesseract, resTitanium, resGas, resMit].Nodup by decide

/-- The seconds up to `nextTick`, which is in milliseconds. -/
def getLessTick (nextTick now : ℤ) : ℕ :=
  if nextTick ≤ 0 then 0
  else
    let lessTick := (nextTick - now) / 1000
    if lessTick ≤ 0 then 0 else lessTick.toNat

structure LevelBuild where
  /-- Zero for a build that is no NFT. -/
  chain : ℕ
  nextTick : ℤ

def LevelBuild.isLevelUp (now : ℤ) (build : LevelBuild) : Bool :=
  !decide (build.nextTick < now)

/-- The answer of `calWorkQueResCost`: what it costs to finish the first level-up of a full
queue. -/
structure WorkQueue where
  cost : ℕ
  /-- There is one to finish. -/
  minObj : Bool

namespace ResBag

variable (bag : ResBag)

def charge (newResDict : ResDict) : Option ResBag :=
  if bag.enoughResDict newResDict then some (bag.costResDict newResDict) else none

/-- Buy the rest of a running level-up. -/
def chargeLessTick (cfg : PriceCfg) (lessTick : ℕ) : Option ResBag :=
  let timeTesseract : ℚ := cfg.timeCostTesseract (some lessTick)
  if bag.enoughRes resTesseract timeTesseract then some (bag.costRes resTesseract timeTesseract)
  else none

/-- The price in MIT and Tesseract of an instant level-up. -/
def instantDict (mit tesseract : ℚ) : ResDict where
  objects := [(resMit, mit), (resTesseract, tesseract)]
  nodup := show [resMit, resTesseract].Nodup by decide

/-- `allTesseract`: the time and the resources of a level. -/
def allTesseract (cfg : PriceCfg) (level : LevelCfg) : ℚ :=
  cfg.timeCostTesseract level.levelUpNeedTick + cfg.resCostTesseract level.resDict

/-- Charge a level-up that takes its time, and finish the first one of a full queue. -/
def chargeQueued (cfg : PriceCfg) (level : LevelCfg) (queue : WorkQueue) : Option ResBag :=
  let newResDict := bag.calResCost cfg level.resDict none
  let price := newResDict.amount resTesseract
  if bag.enoughResDict (newResDict.assign resTesseract (price + queue.cost)) then
    let bag := bag.costResDict (newResDict.assign resTesseract (price + queue.cost - queue.cost))
    some (if queue.minObj then
      bag.costResDict ⟨[(resTesseract, (queue.cost : ℚ))], List.nodup_singleton _⟩
    else bag)
  else none

/-- The branches that ordinary builds and soldiers share. -/
def chargeOrdinary (cfg : PriceCfg) (level : LevelCfg) (queue : WorkQueue) (lessTick : ℕ)
    (speedUp : ℤ) : Option ResBag :=
  if speedUp = 1 then
    if 0 < lessTick then bag.chargeLessTick cfg lessTick
    else bag.charge (instantDict (level.resDict.amount resMit) (allTesseract cfg level))
  else bag.chargeQueued cfg level queue

def chargeNft (cfg : PriceCfg) (level : LevelCfg) (build : LevelBuild) (now speedUp : ℤ) :
    Option ResBag :=
  if build.isLevelUp now then
    if speedUp = 0 then none
    else bag.chargeLessTick cfg (getLessTick build.nextTick now)
  else if speedUp = 0 then bag.charge (bag.calResCost cfg level.resDict none)
  else
    bag.charge (instantDict (level.resDict.amount resMit)
      (level.resDict.amount resTesseract + allTesseract cfg level))

end ResBag

/-- The new `nextTick`. -/
def LevelCfg.nextTick (level : LevelCfg) (now speedUp : ℤ) : ℤ :=
  now + (if speedUp ≤ 0 then (level.levelUpNeedTick.getD 0 : ℤ) else 0) * 1000

/-- `levelUpBuild`; nothing happens if a test that comes before the price fails. -/
def levelUpBuild (cfg : PriceCfg) (level : LevelCfg) (queue : WorkQueue) (allowed : Bool)
    (now speedUp : ℤ) (build : LevelBuild) (bag : ResBag) : Option (ResBag × LevelBuild) :=
  if !allowed then none
  else if build.isLevelUp now && speedUp == 0 then none
  else
    (if 0 < build.chain then bag.chargeNft cfg level build now speedUp
      else bag.chargeOrdinary cfg level queue (getLessTick build.nextTick now) speedUp).map
      fun bag => (bag, { build with nextTick := level.nextTick now speedUp })

/-- `soliderLevelUp`, for a soldier with this `nextTick`. -/
def soliderLevelUp (cfg : PriceCfg) (level : LevelCfg) (queue : WorkQueue) (allowed : Bool)
    (now speedUp nextTick : ℤ) (bag : ResBag) : Option (ResBag × ℤ) :=
  if !allowed then none
  else
    (bag.chargeOrdinary cfg level queue (getLessTick nextTick now) speedUp).map
      fun bag => (bag, level.nextTick now speedUp)

/-- The test of `levelUpBuild` for a level-up that is under way. -/
def LevelBuild.running (now : ℤ) (build : LevelBuild) : Bool :=
  if 0 < build.chain then build.isLevelUp now else decide (0 < getLessTick build.nextTick now)

section Instant

variable {cfg : PriceCfg} {level : LevelCfg} {bag after : ResBag}

theorem amount_resTesseract (level : LevelCfg) :
    level.resDict.amount resTesseract = column level.levelUpNeedTesseract := rfl

theorem LevelCfg.resDict_nonneg (level : LevelCfg) :
    ∀ entry ∈ level.resDict.objects, 0 ≤ entry.2 := by
  have column_nonneg (value : Option ℕ) : 0 ≤ column value := Nat.cast_nonneg _
  simp [resDict, column_nonneg]

theorem taken_charge_instant {mit tesseract : ℕ}
    (charged : bag.charge (ResBag.instantDict mit tesseract) = some after) (res : ResId) :
    bag.num res - after.num res =
      if res = resMit then (mit : ℚ) else if res = resTesseract then (tesseract : ℚ) else 0 := by
  unfold ResBag.charge at charged
  split at charged
  swap
  · cases charged
  next enough =>
    cases charged
    have amount_eq : (ResBag.instantDict mit tesseract).amount res =
        ((if res = resMit then mit else if res = resTesseract then tesseract else 0 : ℕ) : ℚ) := by
      by_cases is_mit : res = resMit
      · rw [if_pos is_mit, is_mit]
        rfl
      · by_cases is_tesseract : res = resTesseract
        · rw [if_neg is_mit, if_pos is_tesseract, is_tesseract]
          rfl
        · rw [if_neg is_mit, if_neg is_tesseract]
          simp [ResDict.amount, Dict.lookup, Keyed.get, ResBag.instantDict, Ne.symm is_mit,
            Ne.symm is_tesseract]
    rw [ResBag.num_costResDict enough, sub_sub_cancel, amount_eq, Int.floor_natCast]
    split_ifs <;> simp

/-- An instant price covers the price of a level exactly if what is left after time and Tesseract
is worth the other resources. -/
theorem charged_instant_iff {tesseract : ℕ}
    (charged : bag.charge (ResBag.instantDict (level.resDict.amount resMit) tesseract) =
      some after) :
    Charged cfg level.resDict (cfg.timeCostTesseract level.levelUpNeedTick) bag after ↔
      cfg.worth level.resDict.objects ≤
        tesseract - (level.resDict.amount resTesseract +
          cfg.timeCostTesseract level.levelUpNeedTick) := by
  have taken := taken_charge_instant charged
  have others_eq : cfg.worth (level.resDict.objects.map fun entry =>
      (entry.1, max (entry.2 - (bag.num entry.1 - after.num entry.1)) 0)) =
      cfg.worth level.resDict.objects := by
    refine (PriceCfg.worth_congr fun entry entry_mem not_mit not_tesseract => ?_).trans
      (congrArg _ (List.map_id _))
    rw [taken, if_neg not_mit, if_neg not_tesseract, sub_zero]
    exact max_eq_left (level.resDict_nonneg entry entry_mem)
  rw [charged_iff, others_eq, taken, taken, if_pos rfl, if_neg (by decide), if_pos rfl]
  exact and_iff_right le_rfl

theorem worth_nonneg (cfg : PriceCfg) (level : LevelCfg) : 0 ≤ cfg.worth level.resDict.objects :=
  PriceCfg.worth_nonneg level.resDict_nonneg

theorem allTesseract_eq (cfg : PriceCfg) (level : LevelCfg) :
    ResBag.allTesseract cfg level =
      ((cfg.timeCostTesseract level.levelUpNeedTick + ⌈cfg.worth level.resDict.objects⌉₊ : ℕ) :
        ℚ) := by
  rw [ResBag.allTesseract, PriceCfg.resCostTesseract,
    ← Int.natCast_ceil_eq_ceil (worth_nonneg cfg level)]
  push_cast
  rfl

theorem charged_ordinary_iff {queue : WorkQueue}
    (charged : bag.chargeOrdinary cfg level queue 0 1 = some after) :
    Charged cfg level.resDict (cfg.timeCostTesseract level.levelUpNeedTick) bag after ↔
      level.levelUpNeedTesseract.getD 0 = 0 := by
  rw [ResBag.chargeOrdinary, if_pos rfl, if_neg (lt_irrefl 0), allTesseract_eq] at charged
  have worth_le := Nat.le_ceil (cfg.worth level.resDict.objects)
  have worth_lt := Nat.ceil_lt_add_one (worth_nonneg cfg level)
  rw [charged_instant_iff charged, amount_resTesseract, column]
  push_cast
  constructor
  · intro covered
    have need_lt : ((level.levelUpNeedTesseract.getD 0 : ℕ) : ℚ) < 1 := by linarith
    exact Nat.lt_one_iff.mp (by exact_mod_cast need_lt)
  · intro need_zero
    rw [need_zero, Nat.cast_zero]
    linarith

theorem charged_nft {build : LevelBuild} {now : ℤ} (ended : build.isLevelUp now = false)
    (charged : bag.chargeNft cfg level build now 1 = some after) :
    Charged cfg level.resDict (cfg.timeCostTesseract level.levelUpNeedTick) bag after := by
  have price_eq : level.resDict.amount resTesseract + ResBag.allTesseract cfg level =
      ((level.levelUpNeedTesseract.getD 0 + (cfg.timeCostTesseract level.levelUpNeedTick +
        ⌈cfg.worth level.resDict.objects⌉₊) : ℕ) : ℚ) := by
    rw [allTesseract_eq, amount_resTesseract, column]
    push_cast
    rfl
  rw [ResBag.chargeNft, ended, if_neg Bool.false_ne_true, if_neg (by decide), price_eq] at charged
  have worth_le := Nat.le_ceil (cfg.worth level.resDict.objects)
  rw [charged_instant_iff charged, amount_resTesseract, column]
  push_cast
  linarith

/-- An instant level-up is charged in full exactly if the build is an NFT or its level costs no
Tesseract; for a soldier only the latter counts. -/
theorem instant_charged_iff (cfg : PriceCfg) (level : LevelCfg) (queue : WorkQueue) (now : ℤ)
    (bag after : ResBag) :
    (∀ build next, build.running now = false →
      levelUpBuild cfg level queue true now 1 build bag = some (after, next) →
        (Charged cfg level.resDict (cfg.timeCostTesseract level.levelUpNeedTick) bag after ↔
          0 < build.chain ∨ level.levelUpNeedTesseract.getD 0 = 0)) ∧
      ∀ nextTick next, getLessTick nextTick now = 0 →
        soliderLevelUp cfg level queue true now 1 nextTick bag = some (after, next) →
          (Charged cfg level.resDict (cfg.timeCostTesseract level.levelUpNeedTick) bag after ↔
            level.levelUpNeedTesseract.getD 0 = 0) := by
  constructor
  · intro build next ended accepted
    rw [levelUpBuild, if_neg (by decide), if_neg (by simp), Option.map_eq_some_iff] at accepted
    obtain ⟨paid, charged, same⟩ := accepted
    obtain rfl : paid = after := congrArg Prod.fst same
    by_cases nft : 0 < build.chain
    · rw [LevelBuild.running, if_pos nft] at ended
      rw [if_pos nft] at charged
      exact iff_of_true (charged_nft ended charged) (.inl nft)
    · rw [LevelBuild.running, if_neg nft, decide_eq_false_iff_not, Nat.pos_iff_ne_zero,
        not_not] at ended
      rw [if_neg nft, ended] at charged
      rw [charged_ordinary_iff charged]
      exact ⟨.inr, fun free => free.resolve_left nft⟩
  · intro nextTick next ended accepted
    rw [soliderLevelUp, if_neg (by decide), Option.map_eq_some_iff, ended] at accepted
    obtain ⟨paid, charged, same⟩ := accepted
    obtain rfl : paid = after := congrArg Prod.fst same
    exact charged_ordinary_iff charged

/-- A level that costs 100 of ice, 5 of Tesseract and two minutes. -/
def iceLevel : LevelCfg where
  levelUpNeedStarCoin := none
  levelUpNeedIce := some 100
  levelUpNeedTesseract := some 5
  levelUpNeedTitanium := none
  levelUpNeedGas := none
  levelUpNeedMit := none
  levelUpNeedTick := some 120

/-- The balance after an instant level-up to the next level for 14 of Tesseract. -/
def iceLevelPaid : ResBag :=
  thriftyBag.costResDict
    (ResBag.instantDict (iceLevel.resDict.amount resMit)
      (ResBag.allTesseract defaultPrices iceLevel))

theorem iceLevel_paid :
    levelUpBuild defaultPrices iceLevel ⟨0, false⟩ true 10 1 ⟨0, 0⟩ thriftyBag =
      some (iceLevelPaid, ⟨0, 10⟩) := by
  have enough : thriftyBag.charge (ResBag.instantDict (iceLevel.resDict.amount resMit)
      (ResBag.allTesseract defaultPrices iceLevel)) = some iceLevelPaid :=
    if_pos (by decide +kernel)
  exact congrArg (Option.map _) enough

/-- An ordinary build pays for time and ice only. -/
theorem iceLevel_undercharged :
    levelUpBuild defaultPrices iceLevel ⟨0, false⟩ true 10 1 ⟨0, 0⟩ thriftyBag =
        some (iceLevelPaid, ⟨0, 10⟩) ∧
      ¬ Charged defaultPrices iceLevel.resDict
        (defaultPrices.timeCostTesseract iceLevel.levelUpNeedTick) thriftyBag iceLevelPaid :=
  ⟨iceLevel_paid, fun charged => absurd charged.others (by decide +kernel)⟩

/-- The same level of an NFT is charged in full. -/
theorem iceLevel_nft_charged :
    Charged defaultPrices iceLevel.resDict
      (defaultPrices.timeCostTesseract iceLevel.levelUpNeedTick) thriftyBag
      (thriftyBag.costResDict
        (ResBag.instantDict (iceLevel.resDict.amount resMit)
          (iceLevel.resDict.amount resTesseract +
            ResBag.allTesseract defaultPrices iceLevel))) := by
  have enough : thriftyBag.charge (ResBag.instantDict (iceLevel.resDict.amount resMit)
      (iceLevel.resDict.amount resTesseract + ResBag.allTesseract defaultPrices iceLevel)) =
        some _ :=
    if_pos (by decide +kernel)
  exact ((instant_charged_iff defaultPrices iceLevel ⟨0, false⟩ 10 thriftyBag _).1 ⟨56, 0⟩ ⟨56, 10⟩
    (by decide) (congrArg (Option.map _) enough)).mpr (.inl (by decide))

end Instant

end BasWar.Resources
