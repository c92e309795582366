import Mathlib.Algebra.Order.Ring.Int
import Mathlib.Logic.Function.Basic

/-!
# The resource bag of a player

Amounts are counted in thousandths, as in the source, and are whole numbers.
-/

namespace BasWar

/-- Resources that the chain bridge and the payment orders move. -/
inductive Res
  /-- `RES_MIT`. -/
  | mit
  /-- `RES_CARBOXYL`, traded as HYT. -/
  | carboxyl
  /-- `RES_TESSERACT`. -/
  | tesseract
  deriving DecidableEq

inductive Token
  | mit
  | hyt
  /-- A name that the chain bridge has no branch for. -/
  | other
  deriving DecidableEq

def Token.res? : Token → Option Res
  | .mit => some .mit
  | .hyt => some .carboxyl
  | .other => none

@[ext]
structure ResBag where
  num : Res → ℤ

namespace ResBag

def getRes (bag : ResBag) (res : Res) : ℤ :=
  bag.num res

def setRes (bag : ResBag) (res : Res) (value : ℤ) : ResBag where
  num := Function.update bag.num res value

/-- The balance covers `value`. -/
def enoughRes (bag : ResBag) (res : Res) (value : ℤ) : Bool :=
  decide (value ≤ bag.getRes res)

/-- Credit a resource; amounts that are not positive are ignored. -/
def addRes (bag : ResBag) (res : Res) (value : ℤ) : ResBag :=
  if value ≤ 0 then bag else bag.setRes res (bag.getRes res + value)

/-- Charge a resource; the balance stops at zero. -/
def costRes (bag : ResBag) (res : Res) (value : ℤ) : ResBag :=
  if value ≤ 0 then bag else bag.setRes res (max (bag.getRes res - value) 0)

@[simp]
theorem getRes_setRes_self (bag : ResBag) (res : Res) (value : ℤ) :
    (bag.setRes res value).getRes res = value := by
  simp [getRes, setRes]

theorem getRes_setRes_of_ne (bag : ResBag) {res other : Res} (value : ℤ) (other_ne : other ≠ res) :
    (bag.setRes res value).getRes other = bag.getRes other := by
  simp [getRes, setRes, Function.update_of_ne other_ne]

theorem getRes_addRes (bag : ResBag) (res other : Res) {value : ℤ} (value_pos : 0 < value) :
    (bag.addRes res value).getRes other =
      bag.getRes other + if other = res then value else 0 := by
  rw [addRes, if_neg (by omega)]
  split
  next same =>
    subst same
    simp
  next different => simp [getRes_setRes_of_ne bag _ different]

theorem getRes_costRes (bag : ResBag) (res other : Res) {value : ℤ} (value_pos : 0 < value)
    (covered : value ≤ bag.getRes res) :
    (bag.costRes res value).getRes other =
      bag.getRes other - if other = res then value else 0 := by
  rw [costRes, if_neg (by omega)]
  split
  next same =>
    subst same
    rw [getRes_setRes_self]
    omega
  next different => simp [getRes_setRes_of_ne bag _ different]

end ResBag

end BasWar
