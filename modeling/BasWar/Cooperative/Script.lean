import Mathlib.Data.List.Basic

/-!
# Handlers as lists of acts

Once its tests have passed, a handler often runs straight through a list of acts.  Some acts end
with a call to another service: the handler is suspended there, and its remaining acts wait for
the answer.
-/

namespace Cooperative

universe u v

/-- What each act does to the state, and which acts end with a call. -/
structure Script (State : Type u) (Act : Type v) where
  perform : Act → State → State
  calls : Act → Bool

namespace Script

variable {State : Type u} {Act : Type v}

/-- Run the acts up to the first call; the acts after it are left suspended. -/
def run (script : Script State Act) : List Act → State → State × List (List Act)
  | [], state => (state, [])
  | act :: acts, state =>
      if script.calls act then
        (script.perform act state, [acts])
      else
        script.run acts (script.perform act state)

/-- What every act keeps for the acts after it holds of what is left suspended, or of no acts. -/
theorem run_keeps (script : Script State Act) (good : List Act → State → Prop)
    (kept : ∀ act acts state, good (act :: acts) state → good acts (script.perform act state))
    {acts : List Act} {state : State} (start : good acts state) :
    (∃ rest, (script.run acts state).2 = [rest] ∧ good rest (script.run acts state).1) ∨
      (script.run acts state).2 = [] ∧ good [] (script.run acts state).1 := by
  induction acts generalizing state with
  | nil => exact .inr ⟨rfl, start⟩
  | cons act acts ih =>
      have later := kept act acts state start
      unfold run
      split
      · exact .inl ⟨acts, rfl, later⟩
      · exact ih later

end Script

end Cooperative
