import Mathlib.Algebra.BigOperators.Group.List.Basic
import Mathlib.Algebra.Order.BigOperators.Group.List
import Mathlib.Data.Fin.Tuple.Basic
import Mathlib.Tactic.Linarith
import Mathlib.Tactic.Ring

/-!
# Amounts that are spread over a list

An amount is handed out along a list.  Every chosen object gets what it has room for, and the last
one that is reached gets what is left.  Room is an integer: an object with less than no room would
add to what is left.
-/

namespace Tables
namespace Spread

universe u

variable {Object : Type u} (room : Object → Option ℤ) (give : ℤ → Object → Object)

/-- Hand an amount out along a list; an object that is not chosen has `none` as its room. -/
def handOut : ℤ → List Object → List Object
  | _, [] => []
  | num, object :: rest =>
      match room object with
      | none => object :: handOut num rest
      | some size =>
          if size < num then give size object :: handOut (num - size) rest
          else give num object :: rest

/-- What is left at the end of the list. -/
def leftOver : ℤ → List Object → ℤ
  | num, [] => num
  | num, object :: rest =>
      match room object with
      | none => leftOver num rest
      | some size => if size < num then leftOver (num - size) rest else 0

/-- The room of an object, if it has any. -/
def free (object : Object) : ℤ :=
  max ((room object).getD 0) 0

/-- All the room of some objects. -/
def rooms (objects : List Object) : ℤ :=
  (objects.map (free room)).sum

/-- Every object meets a condition on what is left after the room of the objects before it. -/
def Along (meets : ℤ → Object → Prop) (num : ℤ) (objects : List Object) : Prop :=
  ∀ index : Fin objects.length,
    meets (num - rooms room (objects.take index)) (objects.get index)

/-- The objects before one with less than no room take everything. -/
def Absorbed : ℤ → List Object → Prop :=
  Along room fun reached object => ∀ size ∈ room object, size < 0 → reached ≤ 0

/-- No chosen object has less than no room. -/
def Roomy (objects : List Object) : Prop :=
  ∀ object ∈ objects, ∀ size ∈ room object, 0 ≤ size

variable {room give} {num : ℤ} {object : Object} {objects rest : List Object}

theorem free_nonneg (object : Object) : 0 ≤ free room object :=
  le_max_right _ _

theorem free_of_nonneg {size : ℤ} (chosen : room object = some size) (nonneg : 0 ≤ size) :
    free room object = size := by
  simp [free, chosen, nonneg]

theorem free_of_none (other : room object = none) : free room object = 0 := by
  simp [free, other]

theorem rooms_cons : rooms room (object :: rest) = free room object + rooms room rest := rfl

theorem rooms_nonneg (objects : List Object) : 0 ≤ rooms room objects := by
  refine List.sum_nonneg fun size size_mem => ?_
  obtain ⟨object, -, rfl⟩ := List.mem_map.mp size_mem
  exact free_nonneg object

theorem along_cons {meets : ℤ → Object → Prop} :
    Along room meets num (object :: rest) ↔
      meets num object ∧ Along room meets (num - free room object) rest := by
  refine Fin.forall_fin_succ.trans (and_congr (by simp [rooms]) (forall_congr' fun index => ?_))
  simp [rooms, sub_sub]

theorem along_true (num : ℤ) (objects : List Object) :
    Along room (fun _ _ => True) num objects :=
  fun _ => trivial

theorem Roomy.head (roomy : Roomy room (object :: rest)) {size : ℤ}
    (chosen : room object = some size) : 0 ≤ size :=
  roomy object List.mem_cons_self size chosen

theorem Roomy.tail (roomy : Roomy room (object :: rest)) : Roomy room rest :=
  fun other other_mem => roomy other (List.mem_cons_of_mem object other_mem)

theorem Roomy.absorbed (roomy : Roomy room objects) : Absorbed room num objects := by
  intro index size chosen negative
  exact absurd negative (roomy _ (List.get_mem objects index) size chosen).not_gt

/-- What the objects gain is what is not left. -/
theorem sum_handOut (amount : Object → ℤ) (weight : ℤ)
    (amount_give : ∀ part object size, room object = some size →
      amount (give part object) = amount object + weight * part)
    (num : ℤ) (objects : List Object) :
    ((handOut room give num objects).map amount).sum =
      (objects.map amount).sum + weight * (num - leftOver room num objects) := by
  induction objects generalizing num with
  | nil => simp [handOut, leftOver]
  | cons object rest ih =>
      unfold handOut leftOver
      split
      next => rw [List.map_cons, List.sum_cons, ih, List.map_cons, List.sum_cons, add_assoc]
      next size chosen =>
        split
        · rw [List.map_cons, List.sum_cons, ih, amount_give _ _ _ chosen, List.map_cons,
            List.sum_cons]
          ring
        · rw [List.map_cons, List.sum_cons, amount_give _ _ _ chosen, List.map_cons,
            List.sum_cons]
          ring

theorem leftOver_eq (num_pos : 0 < num) (absorbed : Absorbed room num objects) :
    leftOver room num objects = max (num - rooms room objects) 0 := by
  induction objects generalizing num with
  | nil => simp [leftOver, rooms, num_pos.le]
  | cons object rest ih =>
      obtain ⟨head, tail⟩ := along_cons.mp absorbed
      rw [rooms_cons]
      unfold leftOver
      split
      next other =>
        rw [free_of_none other, sub_zero] at tail
        rw [free_of_none other, zero_add, ih num_pos tail]
      next size chosen =>
        have size_nonneg : 0 ≤ size := not_lt.mp fun negative =>
          (head size chosen negative).not_gt num_pos
        rw [free_of_nonneg chosen size_nonneg] at tail ⊢
        split
        next less => rw [ih (by linarith) tail, sub_sub]
        next enough =>
          have := @rooms_nonneg _ room rest
          exact (max_eq_right (by linarith)).symm

/-- What holds of every object that gets its part and of every object that gets nothing. -/
theorem handOut_forall₂ {meets : ℤ → Object → Prop} {changed : Object → Object → Prop}
    (roomy : Roomy room objects) (num_nonneg : 0 ≤ num) (along : Along room meets num objects)
    (same : ∀ object, changed object object)
    (given : ∀ object size reached, room object = some size → 0 ≤ size → 0 ≤ reached →
      meets reached object → changed object (give (min reached size) object)) :
    List.Forall₂ changed objects (handOut room give num objects) := by
  induction objects generalizing num with
  | nil => exact .nil
  | cons object rest ih =>
      obtain ⟨head, tail⟩ := along_cons.mp along
      unfold handOut
      split
      next other =>
        rw [free_of_none other, sub_zero] at tail
        exact .cons (same object) (ih roomy.tail num_nonneg tail)
      next size chosen =>
        have size_nonneg := roomy.head chosen
        have part := given object size num chosen size_nonneg num_nonneg head
        rw [free_of_nonneg chosen size_nonneg] at tail
        split
        next less =>
          rw [min_eq_right less.le] at part
          exact .cons part (ih roomy.tail (sub_nonneg.mpr less.le) tail)
        next enough =>
          rw [min_eq_left (not_lt.mp enough)] at part
          exact .cons part (List.forall₂_same.mpr fun other _ => same other)

/-- No object loses anything exactly if none with less than no room is reached. -/
theorem handOut_grows_iff (amount : Object → ℤ)
    (amount_give : ∀ part object, amount (give part object) = amount object + part)
    (num_pos : 0 < num) :
    List.Forall₂ (fun old new => amount old ≤ amount new) objects
        (handOut room give num objects) ↔
      Absorbed room num objects := by
  induction objects generalizing num with
  | nil => exact iff_of_true .nil fun index => index.elim0
  | cons object rest ih =>
      rw [Absorbed, along_cons]
      unfold handOut
      split
      next other =>
        rw [List.forall₂_cons, ih num_pos, free_of_none other, sub_zero]
        simp [Absorbed, other]
      next size chosen =>
        have grows (part : ℤ) : amount object ≤ amount (give part object) ↔ 0 ≤ part := by
          rw [amount_give, le_add_iff_nonneg_right]
        have head : (∀ size ∈ room object, size < 0 → num ≤ 0) ↔ 0 ≤ size := by
          constructor
          · exact fun unreached => not_lt.mp fun negative =>
              (unreached size chosen negative).not_gt num_pos
          · rintro size_nonneg other chosen_other negative
            obtain rfl : size = other := by simpa [chosen] using chosen_other
            exact absurd negative size_nonneg.not_gt
        rw [head]
        split
        next less =>
          rw [List.forall₂_cons, grows, ih (sub_pos.mpr less)]
          refine and_congr_right fun size_nonneg => ?_
          rw [free_of_nonneg chosen size_nonneg, Absorbed]
        next enough =>
          have size_nonneg : 0 ≤ size := num_pos.le.trans (not_lt.mp enough)
          have unreached : Absorbed room (num - size) rest := by
            intro index other _ _
            have := @rooms_nonneg _ room (rest.take index)
            linarith
          rw [List.forall₂_cons, grows, free_of_nonneg chosen size_nonneg]
          exact iff_of_true ⟨num_pos.le, List.forall₂_same.mpr fun other _ => le_rfl⟩
            ⟨size_nonneg, unreached⟩

/-- Every object afterwards comes from one before. -/
theorem exists_of_forall₂ {changed : Object → Object → Prop} {after : List Object} {new : Object}
    (related : List.Forall₂ changed objects after) (new_mem : new ∈ after) :
    ∃ old ∈ objects, changed old new := by
  induction related with
  | nil => cases new_mem
  | @cons old first objects after first_changed _ ih =>
      rcases List.mem_cons.mp new_mem with rfl | later
      · exact ⟨old, List.mem_cons_self, first_changed⟩
      · obtain ⟨other, other_mem, changed⟩ := ih later
        exact ⟨other, List.mem_cons_of_mem old other_mem, changed⟩

theorem leftOver_of_le (num_pos : 0 < num) (absorbed : Absorbed room num objects)
    (enough : num ≤ rooms room objects) : leftOver room num objects = 0 := by
  rw [leftOver_eq num_pos absorbed]
  exact max_eq_right (by linarith)

end Spread

end Tables
