import Mathlib.Algebra.BigOperators.Group.List.Basic

/-!
# Machines that write a journal

A machine answers each event with a new state and some entries for its journal.  What the entries
put in, what they take out and what the state still holds are amounts of a commutative monoid.  If
every step balances, then so does every run.
-/

namespace Tables

universe u v w x

/-- A state machine that writes entries. -/
structure Machine (State : Type u) (Event : Type v) (Entry : Type w) where
  step : State → Event → State × List Entry

namespace Machine

variable {State : Type u} {Event : Type v} {Entry : Type w} {Amount : Type x}

/-- The state and the journal after some events. -/
def run (machine : Machine State Event Entry) : State → List Event → State × List Entry
  | state, [] => (state, [])
  | state, event :: events =>
      let (next, entries) := machine.step state event
      let (last, rest) := machine.run next events
      (last, entries ++ rest)

/-- Every event is allowed in the state that it meets. -/
def Allowed (machine : Machine State Event Entry) (allowed : State → Event → Prop) :
    State → List Event → Prop
  | _, [] => True
  | state, event :: events =>
      allowed state event ∧ machine.Allowed allowed (machine.step state event).1 events

instance decidableAllowed (machine : Machine State Event Entry) (allowed : State → Event → Prop)
    [∀ state event, Decidable (allowed state event)] (state : State) (events : List Event) :
    Decidable (machine.Allowed allowed state events) :=
  match events with
  | [] => isTrue trivial
  | event :: events =>
      have := machine.decidableAllowed allowed (machine.step state event).1 events
      inferInstanceAs (Decidable (_ ∧ _))

variable {machine : Machine State Event Entry} {allowed : State → Event → Prop}

theorem allowed_true (state : State) (events : List Event) :
    machine.Allowed (fun _ _ => True) state events := by
  induction events generalizing state with
  | nil => trivial
  | cons event events ih => exact ⟨trivial, ih _⟩

theorem run_append (state : State) (first second : List Event) :
    machine.run state (first ++ second) =
      ((machine.run (machine.run state first).1 second).1,
        (machine.run state first).2 ++ (machine.run (machine.run state first).1 second).2) := by
  induction first generalizing state with
  | nil => rfl
  | cons event first ih =>
      rw [List.cons_append, run]
      dsimp only
      rw [ih]
      simp only [run, List.append_assoc]

variable {state : State}

theorem allowed_append {first second : List Event} :
    machine.Allowed allowed state (first ++ second) ↔
      machine.Allowed allowed state first ∧
        machine.Allowed allowed (machine.run state first).1 second := by
  induction first generalizing state with
  | nil => exact (iff_of_eq (true_and _)).symm
  | cons event first ih => exact (and_congr_right fun _ => ih).trans (and_assoc).symm

/-- What allowed steps keep holds after an allowed run. -/
theorem holds_run (invariant : State → Prop)
    (kept : ∀ state event, invariant state → allowed state event →
      invariant (machine.step state event).1) (holds : invariant state) {events : List Event}
    (admitted : machine.Allowed allowed state events) : invariant (machine.run state events).1 := by
  induction events generalizing state with
  | nil => exact holds
  | cons event events ih => exact ih (kept state event holds admitted.1) admitted.2

/-- What allowed steps keep, given the journal so far, holds of the whole journal of a run. -/
theorem journal_run (invariant : List Entry → State → Prop)
    (kept : ∀ journal state event, invariant journal state → allowed state event →
      invariant (journal ++ (machine.step state event).2) (machine.step state event).1)
    {journal : List Entry} (holds : invariant journal state) {events : List Event}
    (admitted : machine.Allowed allowed state events) :
    invariant (journal ++ (machine.run state events).2) (machine.run state events).1 := by
  induction events generalizing journal state with
  | nil => simpa [run] using holds
  | cons event events ih =>
      have rest := ih (kept journal state event holds admitted.1) admitted.2
      rwa [List.append_assoc] at rest

/-- How much the entries put in and take out, and how much a state still holds. -/
structure Account (State : Type u) (Entry : Type w) (Amount : Type x) where
  paid : Entry → Amount
  delivered : Entry → Amount
  pending : State → Amount

namespace Account

variable [AddCommMonoid Amount]

/-- All that the entries put in. -/
def paidIn (account : Account State Entry Amount) (entries : List Entry) : Amount :=
  (entries.map account.paid).sum

/-- All that the entries take out. -/
def deliveredBy (account : Account State Entry Amount) (entries : List Entry) : Amount :=
  (entries.map account.delivered).sum

/-- What was put in has been taken out or is still held. -/
def Balances (account : Account State Entry Amount) (before : State)
    (after : State × List Entry) : Prop :=
  account.pending before + account.paidIn after.2 =
    account.deliveredBy after.2 + account.pending after.1

instance [DecidableEq Amount] (account : Account State Entry Amount) (before : State)
    (after : State × List Entry) : Decidable (account.Balances before after) :=
  inferInstanceAs (Decidable (_ = _))

variable {account : Account State Entry Amount}

theorem Balances.of_silent {before after : State}
    (same : account.pending after = account.pending before) :
    account.Balances before (after, []) := by
  simp [Balances, paidIn, deliveredBy, same]

theorem Balances.trans {first second third : State} {left right : List Entry}
    (earlier : account.Balances first (second, left))
    (later : account.Balances second (third, right)) :
    account.Balances first (third, left ++ right) := by
  simp only [Balances, paidIn, deliveredBy, List.map_append, List.sum_append] at *
  calc
    account.pending first + ((left.map account.paid).sum + (right.map account.paid).sum) =
        account.pending first + (left.map account.paid).sum + (right.map account.paid).sum :=
      (add_assoc ..).symm
    _ = (left.map account.delivered).sum +
          (account.pending second + (right.map account.paid).sum) := by
      rw [earlier, add_assoc]
    _ = (left.map account.delivered).sum + (right.map account.delivered).sum +
          account.pending third := by
      rw [later, add_assoc]

/-- If every allowed step balances, every allowed run does. -/
theorem balances_run (invariant : State → Prop)
    (kept : ∀ state event, invariant state → allowed state event →
      invariant (machine.step state event).1)
    (balanced : ∀ state event, invariant state → allowed state event →
      account.Balances state (machine.step state event))
    {state : State} (holds : invariant state) {events : List Event}
    (admitted : machine.Allowed allowed state events) :
    account.Balances state (machine.run state events) := by
  induction events generalizing state with
  | nil => exact .of_silent rfl
  | cons event events ih =>
      exact (balanced state event holds admitted.1).trans
        (ih (kept state event holds admitted.1) admitted.2)

end Account

end Machine

end Tables
