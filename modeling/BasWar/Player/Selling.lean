import BasWar.Player.Resources
import Mathlib.Algebra.Order.BigOperators.Group.List
import Mathlib.Data.List.Dedup

/-!
# What a player sells

A request to sell lists its things.  One loop checks and prices the list entry by entry, a second
one removes what is listed, and then the sum of the prices is paid in star coins.
-/

namespace BasWar.Selling

open Tables Resources

inductive Refusal
  | buildNotExist
  | heroNotExist
  | warShipNotExist
  | itemNotExist
  | nftCannotSell
  | buildLevelOrSkillUp
  | heroLevelOrSkillUp
  | warShipLevelOrSkillUp
  | buildRefBusy
  | heroRefBusy
  | warShipRefBusy
  | warShipInUse
  | heroNotForgetSkill
  | warShipNotForgetSkill
  | itemNotEnough
  | itemCfgNotExist
  | raised

def buildChainTower : ℤ := 63023

def refNone : ℤ := 0

/-- `SellingPrice` by quality. -/
def sellingPrice : ℤ → Option ℤ
  | 1 => some 1500000
  | 2 => some 3000000
  | 3 => some 5000000
  | _ => none

theorem sellingPrice_pos {quality price : ℤ} (priced : sellingPrice quality = some price) :
    0 < price := by
  unfold sellingPrice at priced
  split at priced <;> cases priced <;> decide

/-- The first loop of a request, with the price of each entry. -/
def reward {Name : Type} (offer : Name → Except Refusal ℤ) : List Name → Except Refusal ℤ
  | [] => .ok 0
  | name :: names => do
      let resNum ← offer name
      let rewardCount ← reward offer names
      return resNum + rewardCount

theorem reward_cases {Name : Type} {offer : Name → Except Refusal ℤ} (price : Name → ℤ)
    (priced : ∀ name resNum, offer name = .ok resNum → resNum = price name) (names : List Name) :
    (∃ refusal, reward offer names = .error refusal ∧
      ∃ name ∈ names, ∀ resNum, offer name ≠ .ok resNum) ∨
    (∀ name ∈ names, ∃ resNum, offer name = .ok resNum) ∧
      reward offer names = .ok (names.map price).sum := by
  induction names with
  | nil => exact .inr ⟨nofun, rfl⟩
  | cons name names ih =>
      rw [reward]
      cases offered : offer name with
      | error refusal =>
          refine .inl ⟨refusal, rfl, name, List.mem_cons_self, fun resNum same => ?_⟩
          cases offered.symm.trans same
      | ok resNum =>
          rcases ih with ⟨refusal, refused, other, other_mem, listed⟩ | ⟨others, rewarded⟩
          · rw [refused]
            exact .inl ⟨refusal, rfl, other, List.mem_cons_of_mem _ other_mem, listed⟩
          · rw [rewarded, List.map_cons, List.sum_cons, ← priced name resNum offered]
            refine .inr ⟨fun other other_mem => ?_, rfl⟩
            rcases List.mem_cons.mp other_mem with rfl | other_mem
            · exact ⟨resNum, offered⟩
            · exact others other other_mem

theorem addRes_whole (resBag : Resources.ResBag) {rewardCount : ℤ} (nonneg : 0 ≤ rewardCount) :
    (resBag.addRes resStarCoin rewardCount).1 = ⟨Function.update resBag.num resStarCoin
      (resBag.num resStarCoin + rewardCount)⟩ := by
  ext other
  dsimp only
  by_cases same : other = resStarCoin
  · subst same
    rw [Resources.ResBag.num_addRes_self, Int.floor_intCast, max_eq_left (mod_cast nonneg),
      Function.update_self]
  · rw [Resources.ResBag.num_addRes_of_ne same, Function.update_of_ne same]

structure Build where
  id : ℤ
  quality : ℤ
  chain : ℤ
  isUpgrade : Bool
  ref : ℤ

structure Hero where
  id : ℤ
  quality : ℤ
  chain : ℤ
  isUpgrade : Bool
  ref : ℤ
  skillLevel1 : ℤ
  skillLevel2 : ℤ
  skillLevel3 : ℤ

structure WarShip where
  id : ℤ
  quality : ℤ
  chain : ℤ
  isUpgrade : Bool
  ref : ℤ
  skillLevel1 : ℤ
  skillLevel2 : ℤ
  skillLevel3 : ℤ

/-- How the things of a bag are sold. -/
structure Counter (Entity : Type) where
  id : Entity → ℤ
  quality : Entity → ℤ
  notExist : Refusal
  checks : Entity → List (Bool × Refusal)

/-- The checks of `sellBuild`. -/
def buildCounter : Counter Build where
  id := Build.id
  quality := Build.quality
  notExist := .buildNotExist
  checks build :=
    [(0 < build.chain ∧ build.chain ≠ buildChainTower, .nftCannotSell),
      (build.isUpgrade, .buildLevelOrSkillUp), (build.ref ≠ refNone, .buildRefBusy)]

/-- The checks of `sellHero`. -/
def heroCounter : Counter Hero where
  id := Hero.id
  quality := Hero.quality
  notExist := .heroNotExist
  checks hero :=
    [(0 < hero.chain, .nftCannotSell), (hero.isUpgrade, .heroLevelOrSkillUp),
      (hero.ref ≠ refNone, .heroRefBusy), (1 < hero.skillLevel1, .heroNotForgetSkill),
      (0 < hero.skillLevel2, .heroNotForgetSkill), (0 < hero.skillLevel3, .heroNotForgetSkill)]

/-- The checks of `sellWarShip`. -/
def warShipCounter (useId : ℤ) : Counter WarShip where
  id := WarShip.id
  quality := WarShip.quality
  notExist := .warShipNotExist
  checks warShip :=
    [(0 < warShip.chain, .nftCannotSell), (warShip.isUpgrade, .warShipLevelOrSkillUp),
      (warShip.ref ≠ refNone, .warShipRefBusy), (useId = warShip.id, .warShipInUse),
      (1 < warShip.skillLevel1, .warShipNotForgetSkill),
      (0 < warShip.skillLevel2, .warShipNotForgetSkill),
      (0 < warShip.skillLevel3, .warShipNotForgetSkill)]

namespace Counter

variable {Entity : Type} (counter : Counter Entity) (bag : Keyed counter.id)

/-- The price of a listed thing, or why the request is refused. -/
def offer (id : ℤ) : Except Refusal ℤ :=
  match bag.get id with
  | none => .error counter.notExist
  | some entity =>
      match (counter.checks entity).find? (·.1) with
      | some check => .error check.2
      | none => ((sellingPrice (counter.quality entity)).map .ok).getD (.error .raised)

/-- A request to sell, with its answer. -/
def sell (resBag : Resources.ResBag) (ids : List ℤ) :
    (Keyed counter.id × Resources.ResBag) × Option Refusal :=
  match reward (counter.offer bag) ids with
  | .error refusal => ((bag, resBag), some refusal)
  | .ok rewardCount =>
      ((ids.foldl Keyed.erase bag, (resBag.addRes resStarCoin rewardCount).1), none)

def price (entity : Entity) : ℤ :=
  (sellingPrice (counter.quality entity)).getD 0

def priceOf (id : ℤ) : ℤ :=
  ((bag.get id).map counter.price).getD 0

/-- Nothing has changed, or the listed things are gone and each of them is paid for once. -/
def SoldOnce (resBag : Resources.ResBag) (ids : List ℤ)
    (after : Keyed counter.id × Resources.ResBag) : Prop :=
  after = (bag, resBag) ∨
    (∀ id ∈ ids, (bag.get id).isSome) ∧
      after.1.objects = bag.objects.filter (fun entity => counter.id entity ∉ ids) ∧
      after.2 = ⟨Function.update resBag.num resStarCoin (resBag.num resStarCoin +
        (((bag.objects.filter fun entity => counter.id entity ∈ ids).map counter.price).sum : ℤ))⟩

section Prices

variable {Name : Type} [DecidableEq Name] {prices : Name → ℤ}

theorem sum_dedup_le (names : List Name) (pos : ∀ name ∈ names, 0 < prices name) :
    (names.dedup.map prices).sum ≤ (names.map prices).sum ∧
      ((names.dedup.map prices).sum = (names.map prices).sum → names.Nodup) := by
  induction names with
  | nil => exact ⟨le_rfl, fun _ => List.nodup_nil⟩
  | cons name names ih =>
      obtain ⟨rest_le, rest_nodup⟩ := ih fun other mem => pos other (List.mem_cons_of_mem _ mem)
      have name_pos := pos name List.mem_cons_self
      by_cases repeated : name ∈ names
      · rw [List.dedup_cons_of_mem repeated, List.map_cons, List.sum_cons]
        exact ⟨by omega, fun same => by omega⟩
      · rw [List.dedup_cons_of_notMem repeated, List.map_cons, List.sum_cons, List.map_cons,
          List.sum_cons]
        refine ⟨by omega, fun same => List.nodup_cons.mpr ⟨repeated, rest_nodup ?_⟩⟩
        exact add_left_cancel same

end Prices

theorem objects_foldl_erase (ids : List ℤ) :
    (ids.foldl Keyed.erase bag).objects =
      bag.objects.filter fun entity => counter.id entity ∉ ids := by
  induction ids generalizing bag with
  | nil => simp
  | cons id ids ih =>
      rw [List.foldl_cons, ih, Keyed.erase, List.filter_filter]
      refine List.filter_congr fun entity _ => ?_
      simp [Bool.and_comm]

variable {counter bag}

theorem offer_ok {id resNum : ℤ} (accepted : counter.offer bag id = .ok resNum) :
    (bag.get id).isSome ∧ resNum = counter.priceOf bag id ∧ 0 < resNum := by
  unfold offer at accepted
  split at accepted
  · cases accepted
  next entity found =>
    rw [priceOf, found]
    split at accepted
    · cases accepted
    · cases priced : sellingPrice (counter.quality entity) with
      | none =>
          rw [priced] at accepted
          cases accepted
      | some price =>
          rw [priced] at accepted
          cases accepted
          refine ⟨rfl, ?_, sellingPrice_pos priced⟩
          rw [Option.map_some, Option.getD_some, Counter.price, priced, Option.getD_some]

theorem sell_cases (resBag : Resources.ResBag) (ids : List ℤ) :
    ((counter.sell bag resBag ids).1 = (bag, resBag) ∧
      ∃ id ∈ ids, ∀ resNum, counter.offer bag id ≠ .ok resNum) ∨
    (∀ id ∈ ids, ∃ resNum, counter.offer bag id = .ok resNum) ∧
      (counter.sell bag resBag ids).1 = (ids.foldl Keyed.erase bag,
        (resBag.addRes resStarCoin (ids.map (counter.priceOf bag)).sum).1) := by
  unfold sell
  rcases reward_cases (counter.priceOf bag) (fun id resNum accepted => (offer_ok accepted).2.1)
    ids with ⟨refusal, refused, listed⟩ | ⟨offered, rewarded⟩
  · rw [refused]
    exact .inl ⟨rfl, listed⟩
  · rw [rewarded]
    exact .inr ⟨offered, rfl⟩

theorem sum_sold {ids : List ℤ} (listed : ∀ id ∈ ids, (bag.get id).isSome) :
    ((bag.objects.filter fun entity => counter.id entity ∈ ids).map counter.price).sum =
      (ids.dedup.map (counter.priceOf bag)).sum := by
  have price_eq : ∀ entity ∈ bag.objects.filter (fun entity => counter.id entity ∈ ids),
      counter.price entity = counter.priceOf bag (counter.id entity) := by
    intro entity entity_mem
    rw [priceOf, Keyed.get_of_mem (List.mem_of_mem_filter entity_mem)]
    rfl
  have sold_perm : ((bag.objects.filter fun entity => counter.id entity ∈ ids).map
      counter.id).Perm ids.dedup := by
    refine (List.perm_ext_iff_of_nodup (bag.nodup.sublist (List.filter_sublist.map _))
      (List.nodup_dedup ids)).mpr fun id => ?_
    rw [List.mem_map, List.mem_dedup]
    constructor
    · rintro ⟨entity, entity_mem, rfl⟩
      simpa using (List.mem_filter.mp entity_mem).2
    · intro id_mem
      obtain ⟨entity, found⟩ := Option.isSome_iff_exists.mp (listed id id_mem)
      obtain ⟨entity_mem, rfl⟩ := Keyed.get_mem found
      exact ⟨entity, List.mem_filter.mpr ⟨entity_mem, by simpa using id_mem⟩, rfl⟩
  have priced := (sold_perm.map (counter.priceOf bag)).sum_eq
  rw [List.map_map] at priced
  exact (congrArg List.sum (List.map_congr_left price_eq)).trans priced

/-- A request is as promised exactly if it is refused or lists nothing twice. -/
theorem soldOnce_sell_iff (resBag : Resources.ResBag) (ids : List ℤ) :
    counter.SoldOnce bag resBag ids (counter.sell bag resBag ids).1 ↔
      (∃ id ∈ ids, ∀ resNum, counter.offer bag id ≠ .ok resNum) ∨ ids.Nodup := by
  rcases @sell_cases _ counter bag resBag ids with ⟨unchanged, refused⟩ | ⟨offered, sold⟩
  · exact ⟨fun _ => .inl refused, fun _ => .inl unchanged⟩
  have listed (id : ℤ) (id_mem : id ∈ ids) : (bag.get id).isSome :=
    (offer_ok (offered id id_mem).choose_spec).1
  have prices_pos (id : ℤ) (id_mem : id ∈ ids) : 0 < counter.priceOf bag id := by
    obtain ⟨resNum, accepted⟩ := offered id id_mem
    obtain ⟨-, rfl, pos⟩ := offer_ok accepted
    exact pos
  have sum_nonneg : 0 ≤ (ids.map (counter.priceOf bag)).sum := List.sum_nonneg (by
    rintro _ price_mem
    obtain ⟨id, id_mem, rfl⟩ := List.mem_map.mp price_mem
    exact (prices_pos id id_mem).le)
  rw [sold, SoldOnce, addRes_whole resBag sum_nonneg, sum_sold listed]
  constructor
  · rintro (unchanged | ⟨-, -, paid⟩)
    · -- Something that was listed is still in the bag.
      cases ids with
      | nil => exact .inr List.nodup_nil
      | cons id ids =>
          obtain ⟨entity, found⟩ := Option.isSome_iff_exists.mp (listed id List.mem_cons_self)
          obtain ⟨entity_mem, rfl⟩ := Keyed.get_mem found
          rw [← (Prod.mk.inj unchanged).1, objects_foldl_erase] at entity_mem
          simp at entity_mem
    · refine .inr ((sum_dedup_le ids prices_pos).2 ?_)
      have paid := congrFun (congrArg Resources.ResBag.num paid) resStarCoin
      dsimp only at paid
      rw [Function.update_self, Function.update_self] at paid
      exact_mod_cast (add_left_cancel paid).symm
  · rintro (⟨id, id_mem, refused⟩ | nodup)
    · obtain ⟨resNum, accepted⟩ := offered id id_mem
      exact absurd accepted (refused resNum)
    · refine .inr ⟨listed, objects_foldl_erase .., ?_⟩
      rw [nodup.dedup]

end Counter

def sellBuild (builds : Keyed Build.id) (resBag : Resources.ResBag) (buildIds : List ℤ) :
    (Keyed Build.id × Resources.ResBag) × Option Refusal :=
  buildCounter.sell builds resBag buildIds

def sellHero (heros : Keyed Hero.id) (resBag : Resources.ResBag) (heroIds : List ℤ) :
    (Keyed Hero.id × Resources.ResBag) × Option Refusal :=
  heroCounter.sell heros resBag heroIds

def sellWarShip (useId : ℤ) (warShips : Keyed WarShip.id) (resBag : Resources.ResBag)
    (warShipIds : List ℤ) : (Keyed WarShip.id × Resources.ResBag) × Option Refusal :=
  (warShipCounter useId).sell warShips resBag warShipIds

end BasWar.Selling
