import BasWar.Cooperative.Pool
import Mathlib.Algebra.Order.Group.Int
import Mathlib.Data.List.Nodup
import Mathlib.Tactic.Linarith

/-!
# The treasury of a union

A union earns resources from its grids and from donations and spends them on soldiers, defences,
techs and the buildings of its grids.  Income is clipped at a limit for each resource.  The star map
asks with one call whether a union can pay for a building, and charges it with another.
-/

namespace BasWar.Unions.Treasury

open Cooperative

/-- The keys of `RES_JSON_KEYS`. -/
inductive Res
  | mit | starCoin | ice | carboxyl | titanium | gas | tesseract
  deriving DecidableEq

namespace Res

/-- The keys of `ADDABLE_RES_FUNC`, which are the resources that every union has. -/
def limited : Res → Bool
  | .starCoin | .ice | .carboxyl | .titanium | .gas => true
  | .mit | .tesseract => false

/-- In the order in which the payments check them. -/
def stored : List Res :=
  [.starCoin, .ice, .titanium, .gas, .carboxyl]

end Res

/-- Amounts of resources, in the order of `pairs`. -/
structure ResDict where
  entries : List (Res × ℕ)
  nodup : (entries.map Prod.fst).Nodup := by decide

structure Union where
  /-- `self[resKey]`; a resource without a limit is missing until the union earns some. -/
  balance : Res → Option ℤ
  /-- `starCoinLimitAdd` and its siblings. -/
  limitAdd : Res → ℤ

namespace Union

def new : Union where
  balance res := if res.limited then some 0 else none
  limitAdd _ := 0

/-- `self[resKey] or 0`. -/
def amount (union : Union) (res : Res) : ℤ :=
  (union.balance res).getD 0

def set (res : Res) (value : ℤ) (union : Union) : Union :=
  { union with balance := Function.update union.balance res (some value) }

def change (keys : List Res) (new : Res → ℤ) (union : Union) : Union :=
  { union with balance := fun res => if res ∈ keys then some (new res) else union.balance res }

/-- `getStarCoinLimit` and its siblings; `cfg` has the values of `UnionStarCoinLimit` and so on. -/
def limit (cfg : Res → ℤ) (union : Union) (res : Res) : Option ℤ :=
  if res.limited then some (cfg res + union.limitAdd res) else none

def addableRes (cfg : Res → ℤ) (union : Union) (res : Res) (val : ℤ) : ℤ :=
  match union.limit cfg res with
  | none => val
  | some limit => if limit < union.amount res + val then limit - union.amount res else val

def safeAddResDict (cfg : Res → ℤ) (resDict : List (Res × ℕ)) (union : Union) : Union :=
  resDict.foldl (fun union entry =>
    union.set entry.1 (union.amount entry.1 + union.addableRes cfg entry.1 entry.2)) union

/-- Nothing if it compares a number with a missing resource. -/
def isUnionResDictEnough (union : Union) : List (Res × ℕ) → Option Bool
  | [] => some true
  | (res, val) :: rest =>
      match union.balance res with
      | none => none
      | some old => if old < val then some false else union.isUnionResDictEnough rest

/-- The union, and `true` unless it subtracts from a missing resource. -/
def costUnionResDict : List (Res × ℕ) → Union → Union × Bool
  | [], union => (union, true)
  | (res, val) :: rest, union =>
      match union.balance res with
      | none => (union, false)
      | some old => costUnionResDict rest (union.set res (old - val))

/-- The checks and the charge of `trainSolider`, `genDefenseBuild` and `levelUpTech`. -/
def pay (keys : List Res) (cost : Res → ℤ) (union : Union) : Option Union :=
  if ∀ res ∈ keys, cost res ≤ union.amount res then
    some (union.change keys fun res => union.amount res - cost res)
  else none

/-- `self.carboxyl = self.carboxyl + gridCarboxyl`. -/
def addGridCarboxyl (gridCarboxyl : ℕ) (union : Union) : Union :=
  if 0 < gridCarboxyl then union.set .carboxyl (union.amount .carboxyl + gridCarboxyl) else union

end Union

/-- What an operation did to a treasury. -/
inductive Booking
  /-- `safeAddResDict` under these limits. -/
  | added (limit : Res → Option ℤ) (before after : Union)
  | donated (limit : Res → Option ℤ) (before after : Union)
  /-- A charge of these amounts that reported success. -/
  | charged (named : Res → ℤ) (before after : Union)

/-- The unions by their ids, and what happened to their treasuries. -/
structure State where
  unions : ℕ → Option Union
  bookings : List Booking

def State.empty : State :=
  ⟨fun _ => none, []⟩

def State.change (unionId : ℕ) (change : Union → Union × List Booking) (state : State) : State :=
  match state.unions unionId with
  | none => state
  | some union =>
      ⟨Function.update state.unions unionId (some (change union).1),
        state.bookings ++ (change union).2⟩

/-- Requests of the union service; `allowed` is the outcome of the checks that do not look at the
treasury. -/
inductive Request
  | createUnion (unionId : ℕ)
  | starmapGridReward (unionId gridCarboxyl : ℕ) (resDict : ResDict)
  /-- `campaignReward` and `personalCampaignReward`. -/
  | campaignReward (unionId : ℕ) (resDict : ResDict)
  | donate (unionId : ℕ) (donateInfo : Res → ℤ) (allowed : Bool)
  | trainSolider (unionId : ℕ) (starCoin : ℤ) (allowed : Bool)
  | genDefenseBuild (unionId : ℕ) (cost : Res → ℤ) (allowed : Bool)
  | levelUpTech (unionId : ℕ) (cost : Res → ℤ) (allowed : Bool)
  /-- The techs give these additions to the limits. -/
  | initTechEffects (unionId : ℕ) (limitAdd : Res → ℤ)
  | matchSeasonEndHandle (unionId : ℕ)
  /-- `Grid:addDefenselBuild` has come to its first question about the treasury. -/
  | addDefenselBuild (unionId : ℕ) (costResDict : ResDict)

inductive Task
  /-- The call to the donor; the answer says whether the player has paid. -/
  | onUnionDonate (unionId : ℕ) (realDonateInfo : Res → ℤ)
  /-- On its way from the star map; the answer says whether the grid can build then. -/
  | isUnionResDictEnough (unionId : ℕ) (costResDict : ResDict)
  /-- On its way from the star map. -/
  | costUnionResDict (unionId : ℕ) (costResDict : ResDict)

def named : List (Res × ℕ) → Res → ℕ
  | [], _ => 0
  | (key, val) :: rest, res => if key = res then val else named rest res

section Service

variable (cfg : Res → ℤ)

def addResDict (resDict : ResDict) (union : Union) : Union × List Booking :=
  let after := union.safeAddResDict cfg resDict.entries
  (after, [.added (union.limit cfg) union after])

def payCost (keys : List Res) (cost : Res → ℤ) (union : Union) : Union × List Booking :=
  match union.pay keys cost with
  | none => (union, [])
  | some after => (after, [.charged (fun res => if res ∈ keys then cost res else 0) union after])

def finishDonate (realDonateInfo : Res → ℤ) (union : Union) : Union × List Booking :=
  let after := union.change Res.stored fun res => union.amount res + realDonateInfo res
  (after, [.donated (union.limit cfg) union after])

def chargeResDict (resDict : ResDict) (union : Union) : Union × List Booking :=
  match union.costUnionResDict resDict.entries with
  | (after, true) => (after, [.charged (fun res => named resDict.entries res) union after])
  | (after, false) => (after, [])

def accept : Request → State → State × List Task
  | .createUnion unionId, state =>
      if (state.unions unionId).isSome then (state, [])
      else ({ state with unions := Function.update state.unions unionId (some .new) }, [])
  | .starmapGridReward unionId gridCarboxyl resDict, state =>
      (state.change unionId fun union =>
        addResDict cfg resDict (union.addGridCarboxyl gridCarboxyl),
        [])
  | .campaignReward unionId resDict, state => (state.change unionId (addResDict cfg resDict), [])
  | .donate unionId donateInfo allowed, state =>
      match state.unions unionId with
      | none => (state, [])
      | some union =>
          if allowed then
            (state, [.onUnionDonate unionId fun res => union.addableRes cfg res (donateInfo res)])
          else (state, [])
  | .trainSolider unionId starCoin allowed, state =>
      if allowed then
        (state.change unionId (payCost [.starCoin] fun _ => starCoin), [])
      else (state, [])
  | .genDefenseBuild unionId cost allowed, state | .levelUpTech unionId cost allowed, state =>
      if allowed then (state.change unionId (payCost Res.stored cost), []) else (state, [])
  | .initTechEffects unionId limitAdd, state =>
      (state.change unionId fun union => ({ union with limitAdd }, []), [])
  | .matchSeasonEndHandle unionId, state =>
      (state.change unionId fun union => (union.change Res.stored fun _ => 0, []), [])
  | .addDefenselBuild unionId costResDict, state =>
      (state, [.isUnionResDictEnough unionId costResDict])

def resume : Task → Bool → State → State × List Task
  | .onUnionDonate unionId realDonateInfo, ok, state =>
      if ok then (state.change unionId (finishDonate cfg realDonateInfo), []) else (state, [])
  | .isUnionResDictEnough unionId costResDict, created, state =>
      match (state.unions unionId).bind (·.isUnionResDictEnough costResDict.entries) with
      | some true =>
          if created then (state, [.costUnionResDict unionId costResDict]) else (state, [])
      | some false | none => (state, [])
  | .costUnionResDict unionId costResDict, _, state =>
      (state.change unionId (chargeResDict costResDict), [])

def treasuryService : Service State Request Task Bool where
  accept := accept cfg
  resume := resume cfg

end Service

namespace Union

variable {cfg : Res → ℤ} {union : Union}

@[simp]
theorem amount_set (union : Union) (key res : Res) (value : ℤ) :
    (union.set key value).amount res = if res = key then value else union.amount res := by
  by_cases same : res = key
  · subst same
    simp [amount, set]
  · simp [amount, set, same]

@[simp]
theorem amount_change (union : Union) (keys : List Res) (new : Res → ℤ) (res : Res) :
    (union.change keys new).amount res = if res ∈ keys then new res else union.amount res := by
  by_cases mem : res ∈ keys <;> simp [amount, change, mem]

def Solvent (union : Union) : Prop :=
  ∀ res, 0 ≤ union.amount res

theorem Solvent.new : Solvent .new := by
  intro res
  cases res <;> decide

theorem Solvent.set (solvent : union.Solvent) (key : Res) {value : ℤ} (nonneg : 0 ≤ value) :
    (union.set key value).Solvent := by
  intro res
  rw [amount_set]
  split
  · exact nonneg
  · exact solvent res

theorem Solvent.change (solvent : union.Solvent) {keys : List Res} {new : Res → ℤ}
    (nonneg : ∀ res ∈ keys, 0 ≤ new res) : (union.change keys new).Solvent := by
  intro res
  rw [amount_change]
  split
  · rename_i mem
    exact nonneg res mem
  · exact solvent res

/-- No resource of the dictionary is over its limit. -/
def HasRoom (cfg : Res → ℤ) (resDict : List (Res × ℕ)) (union : Union) : Prop :=
  ∀ entry ∈ resDict, ∀ limit ∈ union.limit cfg entry.1, union.amount entry.1 ≤ limit
  deriving Decidable

theorem addableRes_bounds {res : Res} {val : ℤ} (nonneg : 0 ≤ val)
    (room : ∀ limit ∈ union.limit cfg res, union.amount res ≤ limit) :
    0 ≤ union.addableRes cfg res val ∧
      ∀ limit ∈ union.limit cfg res, union.amount res + union.addableRes cfg res val ≤ limit := by
  unfold addableRes
  cases limit_eq : union.limit cfg res with
  | none => exact ⟨nonneg, nofun⟩
  | some limit =>
      have below : union.amount res ≤ limit := room limit limit_eq
      dsimp only
      refine ⟨?_, fun other other_mem => ?_⟩
      · split <;> omega
      · obtain rfl := Option.some.inj other_mem
        split <;> omega

theorem safeAddResDict_bounds (resDict : List (Res × ℕ)) (union : Union)
    (room : union.HasRoom cfg resDict) (res : Res) :
    union.amount res ≤ (union.safeAddResDict cfg resDict).amount res ∧
      ∀ limit ∈ union.limit cfg res,
        (union.safeAddResDict cfg resDict).amount res ≤ max (union.amount res) limit := by
  induction resDict generalizing union with
  | nil => exact ⟨le_rfl, fun _ _ => le_max_left _ _⟩
  | cons entry rest ih =>
      obtain ⟨added_nonneg, added_le⟩ := addableRes_bounds (Int.natCast_nonneg entry.2)
        (room entry (.head rest))
      let next := union.set entry.1 (union.amount entry.1 + union.addableRes cfg entry.1 entry.2)
      have next_amount : next.amount res = if res = entry.1 then
          union.amount entry.1 + union.addableRes cfg entry.1 entry.2 else union.amount res :=
        amount_set union _ _ _
      have next_room : next.HasRoom cfg rest := by
        intro other other_mem limit limit_mem
        by_cases same : other.1 = entry.1
        · rw [same, show next.amount entry.1 = _ from amount_set union _ _ _, if_pos rfl]
          exact added_le limit (same ▸ limit_mem)
        · rw [show next.amount other.1 = _ from amount_set union _ _ _, if_neg same]
          exact room other (.tail _ other_mem) limit limit_mem
      obtain ⟨raised, bounded⟩ := ih next next_room
      change union.amount res ≤ (next.safeAddResDict cfg rest).amount res ∧
        ∀ limit ∈ union.limit cfg res,
          (next.safeAddResDict cfg rest).amount res ≤ max (union.amount res) limit
      by_cases same : res = entry.1
      · rw [same] at next_amount raised bounded ⊢
        rw [if_pos rfl] at next_amount
        refine ⟨by linarith, fun limit limit_mem => ?_⟩
        have within := added_le limit limit_mem
        have below := bounded limit limit_mem
        rw [next_amount, max_eq_right within] at below
        exact below.trans (le_max_right _ _)
      · rw [if_neg same] at next_amount
        rw [← next_amount]
        exact ⟨raised, bounded⟩

theorem named_of_not_mem {resDict : List (Res × ℕ)} {res : Res}
    (absent : res ∉ resDict.map Prod.fst) : named resDict res = 0 := by
  induction resDict with
  | nil => rfl
  | cons entry rest ih =>
      rw [List.map_cons, List.mem_cons, not_or] at absent
      rw [named, if_neg (Ne.symm absent.1)]
      exact ih absent.2

theorem costUnionResDict_amount (resDict : List (Res × ℕ)) (union : Union)
    (nodup : (resDict.map Prod.fst).Nodup) {after : Union}
    (cost : union.costUnionResDict resDict = (after, true)) (res : Res) :
    after.amount res = union.amount res - named resDict res := by
  induction resDict generalizing union with
  | nil =>
      obtain rfl := (Prod.mk.inj cost).1
      simp [named]
  | cons entry rest ih =>
      obtain ⟨key, val⟩ := entry
      obtain ⟨absent, rest_nodup⟩ := List.nodup_cons.mp nodup
      unfold costUnionResDict at cost
      split at cost
      · exact nomatch (Prod.mk.inj cost).2
      · rename_i old old_eq
        have after_eq := ih _ rest_nodup cost
        rw [after_eq, amount_set, named]
        by_cases same : res = key
        · subst same
          rw [if_pos rfl, if_pos rfl, named_of_not_mem absent]
          simp [amount, old_eq]
        · rw [if_neg same, if_neg (Ne.symm same)]

theorem isUnionResDictEnough_le {resDict : List (Res × ℕ)}
    (enough : union.isUnionResDictEnough resDict = some true) :
    ∀ entry ∈ resDict, ∃ old, union.balance entry.1 = some old ∧ (entry.2 : ℤ) ≤ old := by
  induction resDict with
  | nil => nofun
  | cons entry rest ih =>
      obtain ⟨key, val⟩ := entry
      unfold isUnionResDictEnough at enough
      split at enough
      · exact nomatch enough
      · rename_i old old_eq
        split at enough
        · exact nomatch Option.some.inj enough
        · rename_i not_less
          refine List.forall_mem_cons.mpr ⟨⟨old, old_eq, not_lt.mp not_less⟩, ih enough⟩

theorem Solvent.costUnionResDict (solvent : union.Solvent) (resDict : List (Res × ℕ))
    (nodup : (resDict.map Prod.fst).Nodup)
    (enough : union.isUnionResDictEnough resDict = some true) :
    (union.costUnionResDict resDict).1.Solvent := by
  have all := isUnionResDictEnough_le enough
  clear enough
  induction resDict generalizing union with
  | nil => exact solvent
  | cons entry rest ih =>
      obtain ⟨key, val⟩ := entry
      obtain ⟨absent, rest_nodup⟩ := List.nodup_cons.mp nodup
      obtain ⟨⟨old, old_eq, val_le⟩, rest_all⟩ := List.forall_mem_cons.mp all
      have cost_eq : union.costUnionResDict ((key, val) :: rest) =
          (union.set key (old - val)).costUnionResDict rest := by
        rw [Union.costUnionResDict]
        simp only [old_eq]
      rw [cost_eq]
      refine ih (solvent.set key (by linarith)) rest_nodup fun other other_mem => ?_
      obtain ⟨other_old, other_eq, other_le⟩ := rest_all other other_mem
      have differs : other.1 ≠ key := by
        intro same
        have mem : other.1 ∈ rest.map Prod.fst := List.mem_map_of_mem other_mem
        rw [same] at mem
        exact absent mem
      exact ⟨other_old, (Function.update_of_ne differs _ _).trans other_eq, other_le⟩

theorem Solvent.addGridCarboxyl (solvent : union.Solvent) (gridCarboxyl : ℕ) :
    (union.addGridCarboxyl gridCarboxyl).Solvent := by
  unfold Union.addGridCarboxyl
  split
  · have carboxyl_nonneg := solvent .carboxyl
    exact solvent.set _ (by omega)
  · exact solvent

end Union

end BasWar.Unions.Treasury
