import Mathlib.Data.List.Basic

/-!
# Cooperative services

A cooperative service owns one state and serves many requests at once.  Between two calls to other
services a handler runs alone; at a call it is suspended, and any other handler may run before its
answer comes back.  A message on its way to the service is a suspended task like any other: it
waits for its delivery.
-/

namespace Cooperative

universe u v w x

/-- A service whose handlers are cut into segments at their calls to other services. -/
structure Service (State : Type u) (Request : Type v) (Task : Type w) (Reply : Type x) where
  /-- First segment of a handler: the new state and the tasks it leaves suspended. -/
  accept : Request → State → State × List Task
  /-- Segment between the answer to a suspended task and the next call of its handler. -/
  resume : Task → Reply → State → State × List Task

/-- The state of a service together with its suspended tasks. -/
@[ext]
structure Config (State : Type u) (Task : Type w) where
  /-- State shared by all handlers. -/
  state : State
  /-- Suspended tasks, oldest first. -/
  waiting : List Task
  deriving DecidableEq

/-- What the scheduler lets happen next. -/
inductive Event (Request : Type v) (Reply : Type x)
  /-- A new request starts its handler. -/
  | request (request : Request)
  /-- The suspended task at a position gets its answer. -/
  | reply (index : ℕ) (reply : Reply)

variable {State : Type u} {Request : Type v} {Task : Type w} {Reply : Type x}

/-- Replace the state and add the tasks that a segment left suspended. -/
def Config.settle (waiting : List Task) (result : State × List Task) : Config State Task where
  state := result.1
  waiting := waiting ++ result.2

@[simp]
theorem Config.settle_state (waiting : List Task) (result : State × List Task) :
    (Config.settle waiting result).state = result.1 := rfl

@[simp]
theorem Config.settle_waiting (waiting : List Task) (result : State × List Task) :
    (Config.settle waiting result).waiting = waiting ++ result.2 := rfl

/-- No handler of the service is suspended. -/
def Config.Idle (config : Config State Task) : Prop :=
  config.waiting = []

namespace Service

/-- One scheduled segment.  An answer to a position where nothing waits changes nothing. -/
def step (service : Service State Request Task Reply) (config : Config State Task) :
    Event Request Reply → Config State Task
  | .request request => .settle config.waiting (service.accept request config.state)
  | .reply index reply =>
      match config.waiting[index]? with
      | none => config
      | some task =>
          .settle (config.waiting.eraseIdx index) (service.resume task reply config.state)

/-- A schedule of segments, run from a configuration. -/
def run (service : Service State Request Task Reply) :
    Config State Task → List (Event Request Reply) → Config State Task
  | config, [] => config
  | config, event :: events => service.run (service.step config event) events

section

variable (service : Service State Request Task Reply)
include service

section

variable (config : Config State Task)

@[simp]
theorem run_nil : service.run config [] = config := rfl

@[simp]
theorem run_cons (event : Event Request Reply) (events : List (Event Request Reply)) :
    service.run config (event :: events) = service.run (service.step config event) events := rfl

theorem run_append (first second : List (Event Request Reply)) :
    service.run config (first ++ second) = service.run (service.run config first) second := by
  induction first generalizing config with
  | nil => rfl
  | cons event events ih => exact ih (service.step config event)

/-- Everything one scheduled segment can do. -/
theorem step_cases (event : Event Request Reply) :
    (∃ request, event = .request request ∧
      service.step config event =
        .settle config.waiting (service.accept request config.state)) ∨
    (∃ before task after reply, event = .reply before.length reply ∧
      config.waiting = before ++ task :: after ∧
      service.step config event =
        .settle (before ++ after) (service.resume task reply config.state)) ∨
    (∃ index reply, event = .reply index reply ∧ config.waiting[index]? = none ∧
      service.step config event = config) := by
  rcases event with request | ⟨index, reply⟩
  · exact .inl ⟨request, rfl, rfl⟩
  · cases found : config.waiting[index]? with
    | none => exact .inr (.inr ⟨index, reply, rfl, found, by simp [step, found]⟩)
    | some task =>
        obtain ⟨in_range, task_eq⟩ := List.getElem?_eq_some_iff.mp found
        have split_at : config.waiting =
            config.waiting.take index ++ task :: config.waiting.drop (index + 1) := by
          rw [← task_eq, ← List.drop_eq_getElem_cons in_range, List.take_append_drop]
        have index_eq : (config.waiting.take index).length = index := by
          rw [List.length_take]
          omega
        refine .inr (.inl ⟨_, task, _, reply, by rw [index_eq], split_at, ?_⟩)
        simp [step, found, List.eraseIdx_eq_take_drop_succ]

end

end

end Service

/-- A condition on the steps of a schedule, read before the step is made. -/
structure Guard (State : Type u) (Request : Type v) (Task : Type w) (Reply : Type x) where
  /-- Condition for a request, given the state and the suspended tasks. -/
  onRequest : Request → State → List Task → Prop
  /-- Condition for an answer, given the task it is for, the state and the other tasks. -/
  onReply : Task → Reply → State → List Task → Prop

namespace Guard

/-- The condition of one scheduled segment. -/
def Allows (guard : Guard State Request Task Reply) (config : Config State Task) :
    Event Request Reply → Prop
  | .request request => guard.onRequest request config.state config.waiting
  | .reply index reply =>
      match config.waiting[index]? with
      | none => True
      | some task => guard.onReply task reply config.state (config.waiting.eraseIdx index)

/-- Every step of a schedule meets the condition. -/
def Admits (guard : Guard State Request Task Reply) (service : Service State Request Task Reply) :
    Config State Task → List (Event Request Reply) → Prop
  | _, [] => True
  | config, event :: events =>
      guard.Allows config event ∧ guard.Admits service (service.step config event) events

instance decidableAllows (guard : Guard State Request Task Reply)
    [∀ request state others, Decidable (guard.onRequest request state others)]
    [∀ task reply state others, Decidable (guard.onReply task reply state others)]
    (config : Config State Task) : ∀ event, Decidable (guard.Allows config event)
  | .request request =>
      inferInstanceAs (Decidable (guard.onRequest request config.state config.waiting))
  | .reply index reply =>
      match found : config.waiting[index]? with
      | none => isTrue (by simp [Allows, found])
      | some task =>
          decidable_of_iff
            (guard.onReply task reply config.state (config.waiting.eraseIdx index))
            (by simp [Allows, found])

instance decidableAdmits (guard : Guard State Request Task Reply)
    [∀ request state others, Decidable (guard.onRequest request state others)]
    [∀ task reply state others, Decidable (guard.onReply task reply state others)]
    (service : Service State Request Task Reply) :
    ∀ (config : Config State Task) (events : List (Event Request Reply)),
      Decidable (guard.Admits service config events)
  | _, [] => isTrue trivial
  | config, event :: events =>
      have := decidableAdmits guard service (service.step config event) events
      inferInstanceAs (Decidable (guard.Allows config event ∧
        guard.Admits service (service.step config event) events))

/-- The condition that every step meets. -/
def free : Guard State Request Task Reply where
  onRequest _ _ _ := True
  onReply _ _ _ _ := True

theorem free_admits (service : Service State Request Task Reply) (config : Config State Task)
    (events : List (Event Request Reply)) : free.Admits service config events := by
  induction events generalizing config with
  | nil => trivial
  | cons event events ih =>
      refine ⟨?_, ih _⟩
      rcases event with request | ⟨index, reply⟩
      · trivial
      · simp only [Allows]
        split <;> trivial

variable {guard : Guard State Request Task Reply} {config : Config State Task}
  {service : Service State Request Task Reply}

theorem allows_reply {before after : List Task} {task : Task} {reply : Reply}
    (waiting_eq : config.waiting = before ++ task :: after)
    (allows : guard.Allows config (.reply before.length reply)) :
    guard.onReply task reply config.state (before ++ after) := by
  simpa [Allows, waiting_eq, List.eraseIdx_append_of_length_le] using allows

theorem run_keeps (good : Config State Task → Prop)
    (keeps : ∀ config event, good config → guard.Allows config event →
      good (service.step config event)) {events : List (Event Request Reply)}
    (admits : guard.Admits service config events) (start : good config) :
    good (service.run config events) := by
  induction events generalizing config with
  | nil => exact start
  | cons event events ih => exact ih admits.2 (keeps config event start admits.1)

theorem admits_append {first second : List (Event Request Reply)} :
    guard.Admits service config (first ++ second) ↔
      guard.Admits service config first ∧
        guard.Admits service (service.run config first) second := by
  induction first generalizing config with
  | nil => simp [Admits]
  | cons event events ih => simp [Admits, ih, and_assoc]

/-- A schedule that is not admitted has a first step that is refused. -/
theorem exists_refused {events : List (Event Request Reply)}
    (refused : ¬ guard.Admits service config events) :
    ∃ before event after, events = before ++ event :: after ∧
      ¬ guard.Allows (service.run config before) event := by
  induction events generalizing config with
  | nil => exact absurd trivial refused
  | cons event events ih =>
      by_cases allows : guard.Allows config event
      · have later : ¬ guard.Admits service (service.step config event) events :=
          fun admits => refused ⟨allows, admits⟩
        obtain ⟨before, step, after, events_eq, refused_step⟩ := ih later
        exact ⟨event :: before, step, after, by rw [events_eq, List.cons_append], refused_step⟩
      · exact ⟨[], event, events, rfl, allows⟩

end Guard

end Cooperative
