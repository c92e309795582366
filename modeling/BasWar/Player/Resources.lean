import BasWar.Tables.Documents
import Mathlib.Data.Rat.Floor

/-!
# Resources of a player

The resource bag with every resource of the game, and the stores of the base that limit some of
them.  Balances are rational: `addRes` and `costRes` round down what they move, `addResDict` does
not.
-/

namespace BasWar.Resources

open Tables

/-- Number of a resource. -/
abbrev ResId := ℤ

def resMit : ResId := 101

def resStarCoin : ResId := 102

def resIce : ResId := 103

def resCarboxyl : ResId := 104

def resTitanium : ResId := 105

def resGas : ResId := 106

def resTesseract : ResId := 107

/-- `RES_JSON_KEYS`: the name of a resource in a table of rates. -/
def resJsonKeys (res : ResId) : Option String :=
  [(resMit, "mit"), (resStarCoin, "starCoin"), (resIce, "ice"), (resCarboxyl, "carboxyl"),
    (resTitanium, "titanium"), (resGas, "gas"), (resTesseract, "tesseract")].lookup res

/-- Amounts of different resources. -/
abbrev ResDict := Dict ResId ℚ

/-- `resDict[res] or 0`. -/
def ResDict.amount (resDict : ResDict) (res : ResId) : ℚ :=
  (resDict.lookup res).getD 0

theorem ResDict.amount_assign (resDict : ResDict) (res other : ResId) (value : ℚ) :
    ResDict.amount (resDict.assign res value) other =
      if other = res then value else resDict.amount other := by
  rw [amount, amount, Dict.lookup_assign]
  split <;> rfl

/-- Balances of a player; the source keeps no bound balance any more. -/
@[ext]
structure ResBag where
  num : ResId → ℚ

namespace ResBag

variable (bag : ResBag) (res other : ResId) (value : ℚ)

def getRes (bind : Bool) : ℚ :=
  if bind then 0 else bag.num res

def setRes (newVal : ℚ) : ResBag :=
  ⟨Function.update bag.num res newVal⟩

def balance : ℚ :=
  bag.getRes res true + bag.getRes res false

def enoughRes : Bool :=
  !decide (bag.balance res < value)

def enoughResDict (resDict : ResDict) : Bool :=
  resDict.objects.all fun entry => bag.enoughRes entry.1 entry.2

/-- The answer is the amount added, or nothing for an amount that is not positive. -/
def addRes : ResBag × Option ℚ :=
  if value ≤ 0 then (bag, none)
  else
    let value : ℚ := ⌊value⌋
    (bag.setRes res (bag.getRes res false + value), some value)

def addResDict (resDict : ResDict) : ResBag :=
  resDict.objects.foldl (fun bag entry =>
    if 0 < entry.2 then bag.setRes entry.1 (bag.getRes entry.1 false + entry.2) else bag) bag

def costRes : ResBag :=
  if value ≤ 0 then bag
  else
    let newValue := bag.getRes res false - ⌊value⌋
    bag.setRes res (if newValue < 0 then 0 else newValue)

def costResDict (resDict : ResDict) : ResBag :=
  resDict.objects.foldl (fun bag entry =>
    if 0 < entry.2 then bag.costRes entry.1 entry.2 else bag) bag

variable {bag res other value}

@[simp]
theorem balance_eq : bag.balance res = bag.num res := by
  simp [balance, getRes]

theorem enoughRes_iff : bag.enoughRes res value = true ↔ value ≤ bag.num res := by
  simp [enoughRes]

theorem enoughResDict_iff {resDict : ResDict} :
    bag.enoughResDict resDict = true ↔ ∀ entry ∈ resDict.objects, entry.2 ≤ bag.num entry.1 := by
  simp [enoughResDict, enoughRes_iff]

theorem num_addRes_of_ne (different : other ≠ res) :
    (bag.addRes res value).1.num other = bag.num other := by
  unfold addRes
  split
  · rfl
  · exact Function.update_of_ne different _ _

theorem num_addRes_self :
    (bag.addRes res value).1.num res = bag.num res + max (⌊value⌋ : ℚ) 0 := by
  unfold addRes
  split
  next small =>
    have floor_nonpos : (⌊value⌋ : ℚ) ≤ 0 := (Int.floor_le value).trans small
    rw [max_eq_right floor_nonpos, add_zero]
  next large =>
    have floor_nonneg : (0 : ℚ) ≤ ⌊value⌋ := mod_cast Int.floor_nonneg.mpr (not_le.mp large).le
    rw [max_eq_left floor_nonneg]
    exact Function.update_self _ _ _

theorem num_costRes_of_ne (different : other ≠ res) :
    (bag.costRes res value).num other = bag.num other := by
  unfold costRes
  split
  · rfl
  · exact Function.update_of_ne different _ _

theorem num_costRes_self :
    (bag.costRes res value).num res =
      if value ≤ 0 then bag.num res else max (bag.num res - ⌊value⌋) 0 := by
  unfold costRes
  split
  · rfl
  · simp only [setRes, getRes, Function.update_self, Bool.false_eq_true, if_false]
    split
    next negative => exact (max_eq_right negative.le).symm
    next nonneg => exact (max_eq_left (not_lt.mp nonneg)).symm

theorem num_costRes_covered (covered : value ≤ bag.num res) :
    (bag.costRes res value).num res = bag.num res - max (⌊value⌋ : ℚ) 0 := by
  rw [num_costRes_self]
  split
  next small =>
    have floor_nonpos : (⌊value⌋ : ℚ) ≤ 0 := (Int.floor_le value).trans small
    rw [max_eq_right floor_nonpos, sub_zero]
  next large =>
    have floor_nonneg : (0 : ℚ) ≤ ⌊value⌋ := mod_cast Int.floor_nonneg.mpr (not_le.mp large).le
    rw [max_eq_left floor_nonneg, max_eq_left]
    linarith [Int.floor_le value]

theorem num_addResDict (resDict : ResDict) :
    (bag.addResDict resDict).num res = bag.num res + max (resDict.amount res) 0 := by
  refine (Dict.foldl_view resDict _ ResBag.num (fun _ value total => total + max value 0)
    ?_ ?_ bag res).trans ?_
  · intro bag entry name different
    split
    · exact Function.update_of_ne different _ _
    · rfl
  · intro bag entry
    split
    next positive =>
      rw [max_eq_left positive.le]
      exact Function.update_self _ _ _
    next small => rw [max_eq_right (not_lt.mp small), add_zero]
  · rw [ResDict.amount]
    cases resDict.lookup res <;> simp

theorem num_costResDict {resDict : ResDict} (covered : bag.enoughResDict resDict = true) :
    (bag.costResDict resDict).num res = bag.num res - max (⌊resDict.amount res⌋ : ℚ) 0 := by
  refine (Dict.foldl_view resDict _ ResBag.num
    (fun _ value total => if value ≤ 0 then total else max (total - ⌊value⌋) 0)
    ?_ ?_ bag res).trans ?_
  · intro bag entry name different
    split
    · exact num_costRes_of_ne different
    · rfl
  · intro bag entry
    split
    · exact num_costRes_self
    next small => rw [if_pos (not_lt.mp small)]
  · rw [ResDict.amount]
    cases found : resDict.lookup res with
    | none => simp
    | some value =>
        have value_le := enoughResDict_iff.mp covered _ (Dict.mem_of_lookup found)
        exact num_costRes_self.symm.trans (num_costRes_covered value_le)

end ResBag

/-- Resources that the stores of a base hold. -/
inductive Stored
  | starCoin
  | ice
  | titanium
  | gas
  deriving DecidableEq

def Stored.const : Stored → ResId
  | .starCoin => resStarCoin
  | .ice => resIce
  | .titanium => resTitanium
  | .gas => resGas

def storeKey (res : ResId) : Option Stored :=
  [Stored.starCoin, .ice, .titanium, .gas].find? fun stored => stored.const = res

structure Build where
  id : ℤ
  /-- Columns `store..` of its configuration row, if there is such a row. -/
  cfg : Option (Stored → ℚ)
  /-- Fields `cur..`: the output that it holds. -/
  cur : Stored → ℚ

/-- `build[key] = build[key] - getCount`. -/
def Build.take (stored : Stored) (getCount : ℚ) (build : Build) : Build :=
  { build with cur := Function.update build.cur stored (build.cur stored - getCount) }

/-- The resource bag of a player and the builds of his base. -/
structure Player where
  resBag : ResBag
  builds : Keyed Build.id

/-- As much of a count as a free space admits; `-1` stands for no limit. -/
def within (freespace count : ℚ) : ℚ :=
  if freespace = -1 then count
  else if freespace ≤ count then freespace else count

namespace Player

variable (player : Player) (res : ResId) (count : ℚ)

/-- `getResCount` of the build bag for a column `store..`. -/
def getResCount (stored : Stored) : ℚ :=
  (player.builds.objects.map fun build => (build.cfg.map fun cfg => cfg stored).getD 0).sum

/-- The free space of the stores; `-1` for a resource without a store. -/
def getResFreeSpace : ℚ :=
  match storeKey res with
  | some stored => player.getResCount stored - player.resBag.balance res
  | none => -1

/-- What `safeAddRes` tries to add. -/
def succCount : ℚ :=
  within (player.getResFreeSpace res) count

/-- The answer is the amount that was added, if any. -/
def safeAddRes : Player × Option ℚ :=
  let succCount := player.succCount res count
  if 0 < succCount then
    ({ player with resBag := (player.resBag.addRes res succCount).1 }, some succCount)
  else (player, none)

/-- One round of `safeAddResDict`. -/
def safeAddEntry (found : Player × ResDict) (entry : ResId × ℚ) : Player × ResDict :=
  if 0 < entry.2 then
    let added := found.1.safeAddRes entry.1 entry.2
    (added.1,
      match added.2 with
      | some succCount => found.2.assign entry.1 succCount
      | none => found.2)
  else found

/-- The answer lists the amounts that were added. -/
def safeAddResDict (resDict : ResDict) : Player × ResDict :=
  resDict.objects.foldl safeAddEntry (player, Keyed.empty)

def held (id : ℤ) (stored : Stored) : ℚ :=
  ((player.builds.get id).map fun build => build.cur stored).getD 0

/-- One round of `getBuildRes`: the store is compared with the bound balance. -/
def getBuildStored (id : ℤ) (stored : Stored) : Player :=
  match player.builds.get id with
  | some build =>
      if 0 < build.cur stored then
        let resCount := player.resBag.getRes stored.const true
        let getCount := min (player.getResCount stored - resCount) (build.cur stored)
        if 0 < getCount then
          let player := (player.safeAddRes stored.const getCount).1
          { player with builds := player.builds.put (build.take stored getCount) }
        else player
      else player
  | none => player

def getBuildRes (id : ℤ) : Player :=
  [Stored.starCoin, .ice, .titanium, .gas].foldl
    (fun player stored => player.getBuildStored id stored) player

end Player

end BasWar.Resources
