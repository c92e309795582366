import BasWar.Cluster.ClusterQueue

/-!
# The queue of a lock is fair if no wakeup is early

The messages on the way, the phases of the clients and the `waiting` lists are all given by two
things: whose turn it is at each lock, and the stage that each client has reached.
-/

namespace BasWar.Cluster

open Tables

theorem Deployment.ticket_inj (deployment : Deployment) {first second left right : ℕ}
    (same : deployment.ticket first left = deployment.ticket second right) :
    first = second ∧ left = right := by
  injection same with node_eq address_eq point_eq
  exact ⟨deployment.apart first second node_eq address_eq, point_eq⟩

/-- How far a client has come. -/
inductive Stage
  | asking
  /-- The answer `true` is on its way. -/
  | granted
  /-- The answer `false` is on its way. -/
  | refused
  /-- Both the answer `false` and the wakeup are on their way. -/
  | called
  | waiting
  | woken
  | inside
  deriving DecidableEq

namespace Stage

@[grind]
def phase : Stage → Phase
  | .asking | .granted | .refused | .called => .calling
  | .waiting | .woken => .waiting
  | .inside => .inside

@[grind]
def answer : Stage → Option Bool
  | .granted => some true
  | .refused | .called => some false
  | _ => none

/-- In the `waiting` list. -/
@[grind]
def isQueued : Stage → Bool
  | .refused | .waiting => true
  | _ => false

@[grind]
def isWoken : Stage → Bool
  | .called | .woken => true
  | _ => false

/-- Nobody else can have the lock. -/
@[grind]
def holds : Stage → Bool
  | .granted | .called | .woken | .inside => true
  | _ => false

/-- The stage after the answer. -/
@[grind]
def answered : Stage → Stage
  | .granted => .inside
  | .refused => .waiting
  | .called => .woken
  | stage => stage

/-- The stage after the end of the turn before. -/
@[grind]
def call : Stage → Stage
  | .refused => .called
  | .waiting => .woken
  | stage => stage

variable (stage : Stage)

section Answered

@[simp, grind =]
theorem isQueued_answered : stage.answered.isQueued = stage.isQueued := by
  cases stage <;> rfl

@[simp, grind =]
theorem isWoken_answered : stage.answered.isWoken = stage.isWoken := by
  cases stage <;> rfl

@[simp, grind =]
theorem holds_answered : stage.answered.holds = stage.holds := by
  cases stage <;> rfl

@[simp, grind =]
theorem answer_answered : stage.answered.answer = none := by
  cases stage <;> rfl

variable {stage} {ok : Bool}

@[grind →]
theorem phase_of_answer (answered : stage.answer = some ok) :
    stage.phase = .calling ∧ stage.answered.phase = if ok then .inside else .waiting := by
  cases stage <;> cases answered <;> exact ⟨rfl, rfl⟩

@[grind →]
theorem ne_asking_of_answer (answered : stage.answer = some ok) :
    stage ≠ .asking ∧ stage.answered ≠ .asking := by
  cases stage <;> cases answered <;> exact ⟨nofun, nofun⟩

theorem settled_of_answer (answered : stage.answer = some ok) (asleep : stage.isWoken = false) :
    stage.answered = .waiting ∨ stage.answered = .inside := by
  cases stage <;> simp_all [answer, isWoken, Stage.answered]

theorem stays_of_refused (answered : stage.answer = some false) :
    stage.isQueued = true ∨ stage.isWoken = true := by
  cases stage <;> simp_all [answer, isQueued, isWoken]

theorem stays_of_waiting (waits : stage.phase = .waiting) :
    stage.isQueued = true ∨ stage.isWoken = true := by
  cases stage <;> simp_all [phase, isQueued, isWoken]

end Answered

section Call

@[simp, grind =]
theorem phase_call : stage.call.phase = stage.phase := by
  cases stage <;> rfl

@[simp, grind =]
theorem answer_call : stage.call.answer = stage.answer := by
  cases stage <;> rfl

@[simp, grind =]
theorem isQueued_call : stage.call.isQueued = false := by
  cases stage <;> rfl

variable {stage}

@[grind →]
theorem woken_of_queued (queued : stage.isQueued = true) :
    stage.call.isWoken = true ∧ stage.call.holds = true ∧ stage.call ≠ .asking := by
  cases stage <;> cases queued <;> exact ⟨rfl, rfl, nofun⟩

@[grind →]
theorem not_held_of_queued (queued : stage.isQueued = true) :
    stage.isWoken = false ∧ stage.holds = false ∧ stage ≠ .asking := by
  cases stage <;> cases queued <;> exact ⟨rfl, rfl, nofun⟩

end Call

end Stage

inductive Turn
  | free
  /-- The last one has left, and its `unlock` is on its way. -/
  | leaving
  | held (wait : Waiting)

variable {LockId : Type}

/-- What is known about all locks and all clients. -/
structure Picture (LockId : Type) where
  turn : LockId → Turn
  view : Waiting → Option (LockId × Stage)

namespace Picture

@[grind]
def Expects (picture : Picture LockId) : Message LockId → Prop
  | .lock wait lockId => picture.view wait = some (lockId, .asking)
  | .answer wait ok => ∃ lockId stage, picture.view wait = some (lockId, stage) ∧
      stage.answer = some ok
  | .unlock lockId => picture.turn lockId = .leaving
  | .wakeup wait => ∃ lockId stage, picture.view wait = some (lockId, stage) ∧ stage.isWoken

/-- The client whose wakeup is on its way. -/
@[grind]
def onTheWay (picture : Picture LockId) (lockId : LockId) : List Waiting :=
  match picture.turn lockId with
  | .held wait =>
      match picture.view wait with
      | some (_, stage) => if stage.isWoken then [wait] else []
      | none => []
  | _ => []

def setView (wait : Waiting) (place : Option (LockId × Stage)) (picture : Picture LockId) :
    Picture LockId :=
  { picture with view := Function.update picture.view wait place }

@[simp, grind =]
theorem turn_setView (picture : Picture LockId) (wait : Waiting)
    (place : Option (LockId × Stage)) (lockId : LockId) :
    (picture.setView wait place).turn lockId = picture.turn lockId :=
  rfl

@[grind =]
theorem view_setView (picture : Picture LockId) (wait other : Waiting)
    (place : Option (LockId × Stage)) :
    (picture.setView wait place).view other = if other = wait then place else picture.view other :=
  Function.update_apply ..

variable [DecidableEq LockId]

def setTurn (lockId : LockId) (turn : Turn) (picture : Picture LockId) : Picture LockId :=
  { picture with turn := Function.update picture.turn lockId turn }

@[simp, grind =]
theorem view_setTurn (picture : Picture LockId) (lockId : LockId) (turn : Turn)
    (wait : Waiting) : (picture.setTurn lockId turn).view wait = picture.view wait :=
  rfl

@[grind =]
theorem turn_setTurn (picture : Picture LockId) (lockId other : LockId) (turn : Turn) :
    (picture.setTurn lockId turn).turn other =
      if other = lockId then turn else picture.turn other :=
  Function.update_apply ..

end Picture

namespace State

section

variable (state : State LockId)
include state

@[simp, grind =]
theorem locks_send (message : Message LockId) (lockId : LockId) :
    (state.send message).locks lockId = state.locks lockId :=
  rfl

@[simp, grind =]
theorem recoverPointId_send (message : Message LockId) (service : ℕ) :
    (state.send message).recoverPointId service = state.recoverPointId service :=
  rfl

@[simp, grind =]
theorem calls_send (message : Message LockId) (other : Waiting) :
    (state.send message).calls other = state.calls other :=
  rfl

@[simp, grind =]
theorem waiting_send (message : Message LockId) (lockId : LockId) :
    (state.send message).waiting lockId = state.waiting lockId :=
  rfl

section

variable (wait : Waiting) (call : Option (Call LockId))

@[simp, grind =]
theorem locks_setCall (lockId : LockId) :
    (state.setCall wait call).locks lockId = state.locks lockId :=
  rfl

@[simp, grind =]
theorem recoverPointId_setCall (service : ℕ) :
    (state.setCall wait call).recoverPointId service = state.recoverPointId service :=
  rfl

@[simp, grind =]
theorem messages_setCall : (state.setCall wait call).messages = state.messages :=
  rfl

@[simp, grind =]
theorem waiting_setCall (lockId : LockId) :
    (state.setCall wait call).waiting lockId = state.waiting lockId :=
  rfl

end

@[grind =]
theorem calls_setCall (wait other : Waiting) (call : Option (Call LockId)) :
    (state.setCall wait call).calls other = if other = wait then call else state.calls other :=
  Function.update_apply ..

@[grind =]
theorem mem_send (message other : Message LockId) :
    other ∈ (state.send message).messages ↔ other ∈ state.messages ∨ other = message := by
  simp [send]

end

theorem nodup_send {state : State LockId} {message : Message LockId}
    (distinct : state.messages.Nodup) (new : message ∉ state.messages) :
    (state.send message).messages.Nodup :=
  List.nodup_append.mpr ⟨distinct, List.pairwise_singleton .., by
    rintro other other_mem _ added rfl
    exact new (List.mem_singleton.mp added ▸ other_mem)⟩

variable [DecidableEq LockId]

section

variable (state : State LockId)
include state

@[simp, grind =]
theorem locks_receive (message : Message LockId) (lockId : LockId) :
    (state.receive message).locks lockId = state.locks lockId :=
  rfl

@[simp, grind =]
theorem recoverPointId_receive (message : Message LockId) (service : ℕ) :
    (state.receive message).recoverPointId service = state.recoverPointId service :=
  rfl

@[simp, grind =]
theorem calls_receive (message : Message LockId) (other : Waiting) :
    (state.receive message).calls other = state.calls other :=
  rfl

@[simp, grind =]
theorem waiting_receive (message : Message LockId) (lockId : LockId) :
    (state.receive message).waiting lockId = state.waiting lockId :=
  rfl

section

variable (lockId : LockId) (lock : Option (List Waiting))

@[simp, grind =]
theorem recoverPointId_setLock (service : ℕ) :
    (state.setLock lockId lock).recoverPointId service = state.recoverPointId service :=
  rfl

@[simp, grind =]
theorem calls_setLock : (state.setLock lockId lock).calls other = state.calls other :=
  rfl

@[simp, grind =]
theorem messages_setLock : (state.setLock lockId lock).messages = state.messages :=
  rfl

end

@[grind =]
theorem locks_setLock (lockId other : LockId) (lock : Option (List Waiting)) :
    (state.setLock lockId lock).locks other =
      if other = lockId then lock else state.locks other :=
  Function.update_apply ..

@[grind =]
theorem waiting_setLock (lockId other : LockId) (lock : Option (List Waiting)) :
    (state.setLock lockId lock).waiting other =
      if other = lockId then lock.getD [] else state.waiting other := by
  unfold waiting
  rw [locks_setLock]
  split <;> rfl

end

end State

variable [DecidableEq LockId]

section Journal

variable (lockId : LockId) (journal entries : List (Entry LockId))

@[grind =]
theorem queuedFor_append :
    queuedFor lockId (journal ++ entries) = queuedFor lockId journal ++ queuedFor lockId entries :=
  List.filterMap_append

@[grind =]
theorem firstsOf_append :
    firstsOf lockId (journal ++ entries) = firstsOf lockId journal ++ firstsOf lockId entries :=
  List.filterMap_append

@[grind =]
theorem enteredFor_append : enteredFor lockId (journal ++ entries) =
    enteredFor lockId journal ++ enteredFor lockId entries :=
  List.filterMap_append

variable (entry : Entry LockId)

@[grind =]
theorem queuedFor_singleton : queuedFor lockId [entry] = (entry.queued? lockId).toList := by
  cases found : entry.queued? lockId <;> simp [queuedFor, found]

@[grind =]
theorem firstsOf_singleton : firstsOf lockId [entry] = (entry.first? lockId).toList := by
  cases found : entry.first? lockId <;> simp [firstsOf, found]

@[grind =]
theorem enteredFor_singleton : enteredFor lockId [entry] = (entry.entered? lockId).toList := by
  cases found : entry.entered? lockId <;> simp [enteredFor, found]

attribute [grind] Entry.queued? Entry.first? Entry.entered?

end Journal

/-- The state and the entries so far are as the picture says. -/
structure Agree (deployment : Deployment) (picture : Picture LockId)
    (journal : List (Entry LockId)) (state : State LockId) : Prop where
  distinct : state.messages.Nodup
  mail : ∀ message, message ∈ state.messages ↔ picture.Expects message
  calls_eq : ∀ wait, state.calls wait =
    (picture.view wait).map fun place => ⟨place.1, place.2.phase⟩
  fresh : ∀ service point, state.recoverPointId service < point →
    picture.view (deployment.ticket service point) = none
  free_iff : ∀ lockId, state.locks lockId = none ↔ picture.turn lockId = .free
  queued_iff : ∀ lockId wait, wait ∈ state.waiting lockId ↔
    ∃ stage, picture.view wait = some (lockId, stage) ∧ stage.isQueued
  nodup : ∀ lockId, (state.waiting lockId).Nodup
  held_iff : ∀ lockId wait, picture.turn lockId = .held wait ↔
    ∃ stage, picture.view wait = some (lockId, stage) ∧ stage.holds
  order : ∀ lockId, queuedFor lockId journal = firstsOf lockId journal ++ state.waiting lockId
  wakes : ∀ lockId,
    firstsOf lockId journal = enteredFor lockId journal ++ picture.onTheWay lockId

namespace Agree

variable {deployment : Deployment} {picture : Picture LockId}
  {journal : List (Entry LockId)} {state : State LockId}
  {wait : Waiting} {lockId : LockId} {stage : Stage}

section

variable (agree : Agree deployment picture journal state)
include agree

@[grind =>]
theorem mem_receive (message other : Message LockId) :
    other ∈ (state.receive message).messages ↔ other ≠ message ∧ other ∈ state.messages :=
  agree.distinct.mem_erase_iff

theorem ask (service : ℕ) (lockId : LockId) : let point := state.recoverPointId service + 1
    let wait := deployment.ticket service point
    Agree deployment (picture.setView wait (some (lockId, .asking))) journal
      ((({ state with
          recoverPointId := Function.update state.recoverPointId service point }).setCall
        wait (some ⟨lockId, .calling⟩)).send (.lock wait lockId)) := by
  intro point wait
  have absent : picture.view wait = none := agree.fresh service point (Nat.lt_succ_self _)
  obtain ⟨distinct, mail, calls_eq, fresh, free_iff, queued_iff, nodup, held_iff, order, wakes⟩ :=
    agree
  have silent : .lock wait lockId ∉ state.messages := by grind
  constructor
  case distinct => exact State.nodup_send distinct silent
  case mail =>
    intro message
    refine (State.mem_send ..).trans ?_
    have known : message ∈ state.messages ↔ picture.Expects message := mail message
    cases message <;> grind
  case calls_eq =>
    intro other
    refine (State.calls_setCall ..).trans ?_
    grind
  case fresh =>
    intro other number later
    have later : Function.update state.recoverPointId service point other < number := later
    have different : deployment.ticket other number ≠ wait := by
      intro same
      obtain ⟨rfl, rfl⟩ := deployment.ticket_inj same
      rw [Function.update_self] at later
      exact Nat.lt_irrefl _ later
    rw [Picture.view_setView, if_neg different]
    refine fresh other number (Nat.lt_of_le_of_lt ?_ later)
    rw [Function.update_apply]
    split
    next same => exact same ▸ Nat.le_succ _
    · exact Nat.le_refl _
  case free_iff => exact free_iff
  case queued_iff =>
    intro name other
    refine (queued_iff name other).trans ?_
    grind
  case nodup => exact nodup
  case held_iff =>
    intro name other
    refine (held_iff name other).trans ?_
    grind
  case order => exact order
  case wakes =>
    intro name
    have old := wakes name
    grind

theorem grant (asks : picture.view wait = some (lockId, .asking))
    (free : state.locks lockId = none) :
    Agree deployment
      ((picture.setView wait (some (lockId, .granted))).setTurn lockId (.held wait)) journal
      (((state.receive (.lock wait lockId)).setLock lockId (some [])).send
        (.answer wait true)) := by
  have received := agree.mem_receive (.lock wait lockId)
  have empty : state.waiting lockId = [] := congrArg (Option.getD · []) free
  obtain ⟨distinct, mail, calls_eq, fresh, free_iff, queued_iff, nodup, held_iff, order, wakes⟩ :=
    agree
  constructor
  case distinct => exact State.nodup_send (distinct.erase _) (by grind)
  case mail =>
    intro message
    refine (State.mem_send ..).trans ?_
    cases message <;> grind
  all_goals grind

theorem refuse (asks : picture.view wait = some (lockId, .asking)) {waiting : List Waiting}
    (taken : state.locks lockId = some waiting) :
    Agree deployment (picture.setView wait (some (lockId, .refused)))
      (journal ++ [.queued lockId wait])
      (((state.receive (.lock wait lockId)).setLock lockId (some (waiting ++ [wait]))).send
        (.answer wait false)) := by
  have received := agree.mem_receive (.lock wait lockId)
  have waiting_eq : state.waiting lockId = waiting := congrArg (Option.getD · []) taken
  obtain ⟨distinct, mail, calls_eq, fresh, free_iff, queued_iff, nodup, held_iff, order, wakes⟩ :=
    agree
  have new : wait ∉ waiting := by grind
  constructor
  case distinct => exact State.nodup_send (distinct.erase _) (by grind)
  case mail =>
    intro message
    refine (State.mem_send ..).trans ?_
    cases message <;> grind
  case nodup =>
    intro other
    have old := nodup other
    grind
  all_goals grind

theorem locked (known : picture.view wait = some (lockId, stage)) {ok : Bool}
    (answered : stage.answer = some ok) :
    Agree deployment (picture.setView wait (some (lockId, stage.answered))) journal
      ((state.receive (.answer wait ok)).locked wait ok) := by
  have received := agree.mem_receive (.answer wait ok)
  obtain ⟨distinct, mail, calls_eq, fresh, free_iff, queued_iff, nodup, held_iff, order, wakes⟩ :=
    agree
  have call_eq : (state.receive (.answer wait ok)).calls wait = some ⟨lockId, .calling⟩ := by grind
  rw [State.locked, call_eq]
  constructor
  case distinct => exact distinct.erase _
  case mail =>
    intro message
    cases message <;> grind
  all_goals grind

theorem leave (known : picture.view wait = some (lockId, .inside)) :
    Agree deployment ((picture.setView wait none).setTurn lockId .leaving) journal
      ((state.setCall wait none).send (.unlock lockId)) := by
  obtain ⟨distinct, mail, calls_eq, fresh, free_iff, queued_iff, nodup, held_iff, order, wakes⟩ :=
    agree
  have held : picture.turn lockId = .held wait := (held_iff lockId wait).mpr ⟨_, known, rfl⟩
  constructor
  case distinct => exact State.nodup_send distinct (by grind)
  case mail =>
    intro message
    refine (State.mem_send ..).trans ?_
    cases message <;> grind
  all_goals grind

theorem release (left : picture.turn lockId = .leaving) (empty : state.locks lockId = some []) :
    Agree deployment (picture.setTurn lockId .free) (journal ++ [.unlocked lockId []])
      ((state.receive (.unlock lockId)).setLock lockId none) := by
  have received := agree.mem_receive (.unlock lockId)
  have waiting_eq : state.waiting lockId = [] := congrArg (Option.getD · []) empty
  obtain ⟨distinct, mail, calls_eq, fresh, free_iff, queued_iff, nodup, held_iff, order, wakes⟩ :=
    agree
  constructor
  case distinct => exact distinct.erase _
  case mail =>
    intro message
    cases message <;> grind
  all_goals grind

theorem hand (left : picture.turn lockId = .leaving) {waiting : List Waiting}
    (taken : state.locks lockId = some (wait :: waiting))
    (known : picture.view wait = some (lockId, stage)) (queued : stage.isQueued = true) :
    Agree deployment
      ((picture.setView wait (some (lockId, stage.call))).setTurn lockId (.held wait))
      (journal ++ [.unlocked lockId (wait :: waiting)])
      (((state.receive (.unlock lockId)).setLock lockId (some waiting)).send (.wakeup wait)) := by
  have received := agree.mem_receive (.unlock lockId)
  have waiting_eq : state.waiting lockId = wait :: waiting := congrArg (Option.getD · []) taken
  obtain ⟨distinct, mail, calls_eq, fresh, free_iff, queued_iff, nodup, held_iff, order, wakes⟩ :=
    agree
  have distinct_waiting := nodup lockId
  constructor
  case distinct => exact State.nodup_send (distinct.erase _) (by grind)
  case mail =>
    intro message
    refine (State.mem_send ..).trans ?_
    cases message <;> grind
  case nodup =>
    intro other
    have old := nodup other
    grind
  all_goals grind

theorem wake (known : picture.view wait = some (lockId, .woken)) :
    let after := (state.receive (.wakeup wait)).wakeup wait
    Agree deployment (picture.setView wait (some (lockId, .inside))) (journal ++ after.2)
      after.1 := by
  intro after
  have received := agree.mem_receive (.wakeup wait)
  obtain ⟨distinct, mail, calls_eq, fresh, free_iff, queued_iff, nodup, held_iff, order, wakes⟩ :=
    agree
  have call_eq : (state.receive (.wakeup wait)).calls wait = some ⟨lockId, .waiting⟩ := by grind
  have held : picture.turn lockId = .held wait := (held_iff lockId wait).mpr ⟨_, known, rfl⟩
  have after_eq : after = (state.receive (.wakeup wait)).wakeup wait := rfl
  rw [State.wakeup, call_eq] at after_eq
  rw [after_eq]
  clear_value after
  constructor
  case distinct => exact distinct.erase _
  case mail =>
    intro message
    cases message <;> grind
  case wakes =>
    intro other
    have old := wakes other
    by_cases same : other = lockId
    · subst same
      grind
    · grind
  all_goals grind

theorem view_of_inside (call_eq : state.calls wait = some ⟨lockId, .inside⟩) :
    picture.view wait = some (lockId, .inside) := by
  rw [agree.calls_eq, Option.map_eq_some_iff] at call_eq
  obtain ⟨⟨name, stage⟩, known, same⟩ := call_eq
  cases stage <;> cases same
  exact known

theorem phase_of_waits (known : picture.view wait = some (lockId, stage)) :
    Waits state wait ↔ stage.phase = .waiting := by
  rw [Waits, agree.calls_eq, known]
  exact Option.some_inj

end

end Agree

theorem State.receive_send {state : State LockId} {message : Message LockId}
    (distinct : (state.send message).messages.Nodup) :
    (state.send message).receive message = state := by
  have new : message ∉ state.messages := fun mem =>
    (List.nodup_append.mp distinct).2.2 _ mem _ (List.mem_singleton_self _) rfl
  have erase_eq : (state.messages ++ [message]).erase message = state.messages := by
    rw [List.erase_append_right _ new, List.erase_cons_head, List.append_nil]
  exact congrArg (fun messages => { state with messages := messages }) erase_eq

/-- A client whose service keeps the locks is never in a call between two events. -/
def Picture.Steady (deployment : Deployment) (picture : Picture LockId) : Prop :=
  ∀ service point lockId stage, (deployment.queue service).isLocal = true →
    picture.view (deployment.ticket service point) = some (lockId, stage) →
      stage = .waiting ∨ stage = .inside

/-- There is a picture of the state. -/
def Kept (deployment : Deployment) (journal : List (Entry LockId)) (state : State LockId) : Prop :=
  ∃ picture, Agree deployment picture journal state ∧ picture.Steady deployment

section Kept

variable {deployment : Deployment} {picture next : Picture LockId}
  {journal : List (Entry LockId)} {state : State LockId} {wait : Waiting} {lockId : LockId}

omit [DecidableEq LockId] in
theorem Picture.Steady.of_one (steady : picture.Steady deployment) (wait : Waiting)
    (others : ∀ other, other ≠ wait → next.view other = picture.view other)
    (one : ∀ service point lockId stage, (deployment.queue service).isLocal = true →
      deployment.ticket service point = wait → next.view wait = some (lockId, stage) →
        stage = .waiting ∨ stage = .inside) : next.Steady deployment := by
  intro service point lockId stage own known
  by_cases same : deployment.ticket service point = wait
  · exact one service point lockId stage own same (same ▸ known)
  · exact steady service point lockId stage own (others _ same ▸ known)

section

variable (agree : Agree deployment picture journal state)
include agree

theorem Agree.doLock (asks : picture.view wait = some (lockId, .asking)) :
    let after := (state.receive (.lock wait lockId)).doLock wait lockId
    ∃ next stage, Agree deployment next (journal ++ after.2.1)
        (after.1.send (.answer wait after.2.2)) ∧
      (∀ other, other ≠ wait → next.view other = picture.view other) ∧
      next.view wait = some (lockId, stage) ∧ stage.answer = some after.2.2 ∧
      stage.isWoken = false := by
  intro after
  have after_eq : after = (state.receive (.lock wait lockId)).doLock wait lockId := rfl
  cases lock_eq : state.locks lockId with
  | none =>
      rw [State.doLock, State.locks_receive, lock_eq] at after_eq
      rw [after_eq, List.append_nil]
      exact ⟨_, .granted, agree.grant asks lock_eq, by grind, by grind, rfl, rfl⟩
  | some waiting =>
      rw [State.doLock, State.locks_receive, lock_eq] at after_eq
      rw [after_eq]
      exact ⟨_, .refused, agree.refuse asks lock_eq, by grind, by grind, rfl, rfl⟩

section

variable (steady : picture.Steady deployment)
include steady

theorem Kept.doUnlock (left : picture.turn lockId = .leaving)
    (timely : ∀ wait ∈ (state.waiting lockId).head?,
      wait.node = (deployment.queue deployment.center).localNode →
      wait.address = (deployment.queue deployment.center).localAddress → Waits state wait) :
    let after := (state.receive (.unlock lockId)).doUnlock (deployment.queue deployment.center)
      lockId
    Kept deployment (journal ++ after.2) after.1 := by
  intro after
  have after_eq : after = (state.receive (.unlock lockId)).doUnlock
    (deployment.queue deployment.center) lockId := rfl
  cases lock_eq : state.locks lockId with
  | none =>
      rw [(agree.free_iff lockId).mp lock_eq] at left
      cases left
  | some waiting =>
      cases waiting with
      | nil =>
          rw [State.doUnlock, State.locks_receive, lock_eq] at after_eq
          rw [after_eq]
          exact ⟨_, agree.release left lock_eq, steady⟩
      | cons wait waiting =>
          have waiting_eq : state.waiting lockId = wait :: waiting :=
            congrArg (Option.getD · []) lock_eq
          obtain ⟨stage, known, queued⟩ := (agree.queued_iff lockId wait).mp
            (waiting_eq ▸ List.mem_cons_self)
          have handed := agree.hand left lock_eq known queued
          rw [State.doUnlock, State.locks_receive, lock_eq] at after_eq
          dsimp only at after_eq
          split at after_eq
          next own =>
            have waits := timely wait (by simp [waiting_eq]) own.1 own.2
            have stage_eq : stage = .waiting := by
              rw [agree.phase_of_waits known] at waits
              cases stage <;> simp_all [Stage.phase, Stage.isQueued]
            subst stage_eq
            have called : ((picture.setView wait (some (lockId, Stage.waiting.call))).setTurn lockId
                (.held wait)).view wait = some (lockId, .woken) := if_pos rfl
            have woken := handed.wake called
            rw [State.receive_send handed.distinct] at woken
            dsimp only at woken
            rw [List.append_assoc] at woken
            rw [after_eq]
            refine ⟨_, woken, steady.of_one wait (by grind) ?_⟩
            intro service point name stage _ _ view_eq
            exact .inr (by grind)
          next other =>
            rw [after_eq]
            refine ⟨_, handed, steady.of_one wait (by grind) ?_⟩
            rintro service point name stage own rfl -
            cases deployment.one_center service own
            exact absurd ⟨rfl, rfl⟩ other

theorem Kept.deliver_lock (mem : .lock wait lockId ∈ state.messages) :
    let after := (state.receive (.lock wait lockId)).doLock wait lockId
    Kept deployment (journal ++ after.2.1) (after.1.send (.answer wait after.2.2)) := by
  intro after
  have asks : picture.view wait = some (lockId, .asking) := (agree.mail _).mp mem
  obtain ⟨next, stage, kept, others, -, -, -⟩ := agree.doLock asks
  refine ⟨next, kept, steady.of_one wait others ?_⟩
  rintro service point name stage own rfl -
  exact absurd (steady service point lockId .asking own asks) (by decide)

theorem Kept.deliver_answer {ok : Bool} (mem : .answer wait ok ∈ state.messages) :
    Kept deployment journal ((state.receive (.answer wait ok)).locked wait ok) := by
  obtain ⟨lockId, stage, known, answered⟩ := (agree.mail _).mp mem
  refine ⟨_, agree.locked known answered, steady.of_one wait (by grind) ?_⟩
  rintro service point name other own rfl -
  rcases steady service point lockId stage own known with rfl | rfl <;> cases answered

theorem Kept.deliver_wakeup (mem : .wakeup wait ∈ state.messages) (waits : Waits state wait) :
    let after := (state.receive (.wakeup wait)).wakeup wait
    Kept deployment (journal ++ after.2) after.1 := by
  intro after
  obtain ⟨lockId, stage, known, woken⟩ := (agree.mail _).mp mem
  have stage_eq : stage = .woken := by
    rw [agree.phase_of_waits known] at waits
    cases stage <;> simp_all [Stage.phase, Stage.isWoken]
  subst stage_eq
  refine ⟨_, agree.wake known, steady.of_one wait (by grind) ?_⟩
  intro service point name stage _ _ view_eq
  exact .inr (by grind)

theorem Kept.lock (service : ℕ) (lockId : LockId) :
    let after := state.lock deployment service lockId
    Kept deployment (journal ++ after.2) after.1 := by
  intro after
  have after_eq : after = state.lock deployment service lockId := rfl
  have asked := agree.ask service lockId
  rw [State.lock] at after_eq
  dsimp only at after_eq asked
  split at after_eq
  next own =>
    have received := State.receive_send asked.distinct
    obtain ⟨next, stage, kept, others, known, answered, asleep⟩ := asked.doLock (if_pos rfl)
    rw [received] at kept answered
    have last := kept.locked known answered
    rw [State.receive_send kept.distinct] at last
    rw [after_eq]
    refine ⟨_, last, steady.of_one (deployment.ticket service (state.recoverPointId service + 1))
      (fun other different => ?_) ?_⟩
    · rw [Picture.view_setView, if_neg different, others other different, Picture.view_setView,
        if_neg different]
    · intro other point name final _ _ view_eq
      rw [Picture.view_setView, if_pos rfl] at view_eq
      cases view_eq
      exact Stage.settled_of_answer answered asleep
  next away =>
    rw [after_eq, List.append_nil]
    refine ⟨_, asked, steady.of_one (deployment.ticket service (state.recoverPointId service + 1))
      (by grind) ?_⟩
    rintro other point name stage own same -
    obtain ⟨rfl, rfl⟩ := deployment.ticket_inj same
    exact absurd own away

theorem Kept.unlock (service point : ℕ) : let after := state.unlock deployment service point
    Kept deployment (journal ++ after.2) after.1 := by
  intro after
  have after_eq : after = state.unlock deployment service point := rfl
  rw [State.unlock] at after_eq
  dsimp only at after_eq
  split at after_eq
  next lockId call_eq =>
    have known : picture.view (deployment.ticket service point) = some (lockId, .inside) :=
      agree.view_of_inside call_eq
    have left := agree.leave known
    have left_steady : Picture.Steady deployment ((picture.setView
        (deployment.ticket service point) none).setTurn lockId .leaving) :=
      steady.of_one (deployment.ticket service point) (by grind) (by grind)
    split at after_eq
    next own =>
      cases deployment.one_center service own
      have received := State.receive_send left.distinct
      have done := Kept.doUnlock left left_steady (if_pos rfl) ?_
      swap
      · rintro ⟨_, _, number⟩ wait_mem rfl rfl
        have wait_mem := List.mem_of_mem_head? wait_mem
        obtain ⟨stage, wait_known, queued⟩ := (left.queued_iff lockId _).mp wait_mem
        rw [left.phase_of_waits wait_known]
        rcases left_steady deployment.center number lockId stage own wait_known with rfl | rfl
        · rfl
        · cases queued
      rw [received] at done
      rw [after_eq]
      exact done
    · rw [after_eq, List.append_nil]
      exact ⟨_, left, left_steady⟩
  · rw [after_eq, List.append_nil]
    exact ⟨picture, agree, steady⟩

end

end

theorem Kept.step (kept : Kept deployment journal state) (event : Event LockId)
    (timely : Timely deployment state event) :
    Kept deployment (journal ++ ((cluster deployment).step state event).2)
      ((cluster deployment).step state event).1 := by
  obtain ⟨picture, agree, steady⟩ := kept
  cases event with
  | lock service lockId => exact .lock agree steady service lockId
  | unlock service point => exact .unlock agree steady service point
  | deliver message =>
      by_cases mem : message ∈ state.messages
      · have deliver_eq : (cluster deployment).step state (.deliver message) = _ := if_pos mem
        rw [deliver_eq]
        cases message with
        | lock wait lockId => exact .deliver_lock agree steady mem
        | answer wait ok =>
            rw [List.append_nil]
            exact .deliver_answer agree steady mem
        | unlock lockId => exact .doUnlock agree steady ((agree.mail _).mp mem) (timely mem)
        | wakeup wait =>
            obtain ⟨waits, has_wakeup⟩ := timely mem
            dsimp only
            rw [if_pos has_wakeup]
            exact .deliver_wakeup agree steady mem waits
      · have deliver_eq : (cluster deployment).step state (.deliver message) = (state, []) :=
          if_neg mem
        rw [deliver_eq, List.append_nil]
        exact ⟨picture, agree, steady⟩

theorem Kept.fair (kept : Kept deployment journal state) : Fair journal state := by
  obtain ⟨picture, agree, -⟩ := kept
  constructor
  case exclusive =>
    intro lockId first second first_inside second_inside
    have first_held := (agree.held_iff lockId first).mpr ⟨_, agree.view_of_inside first_inside, rfl⟩
    have second_held := (agree.held_iff lockId second).mpr
      ⟨_, agree.view_of_inside second_inside, rfl⟩
    exact Turn.held.inj (first_held.symm.trans second_held)
  case in_order =>
    intro lockId
    rw [agree.order, agree.wakes, List.append_assoc]
    exact List.prefix_append _ _
  case wakes_one =>
    intro lockId
    rw [agree.wakes]
    cases turn_eq : picture.turn lockId with
    | free => exact .inl (by simp [Picture.onTheWay, turn_eq])
    | leaving => exact .inl (by simp [Picture.onTheWay, turn_eq])
    | held wait =>
        obtain ⟨stage, known, -⟩ := (agree.held_iff lockId wait).mp turn_eq
        by_cases woken : stage.isWoken = true
        · refine .inr ⟨wait, stage.phase, ?_, (agree.mail _).mpr ⟨lockId, stage, known, woken⟩, ?_⟩
          · rw [agree.calls_eq, known]
            rfl
          · simp [Picture.onTheWay, turn_eq, known, woken]
        · exact .inl (by simp [Picture.onTheWay, turn_eq, known, woken])
  case not_left =>
    intro wait lockId phase call_eq left
    rw [agree.calls_eq, Option.map_eq_some_iff] at call_eq
    obtain ⟨⟨name, stage⟩, known, same⟩ := call_eq
    cases same
    have stays : stage.isQueued = true ∨ stage.isWoken = true := by
      rcases left with waits | refused
      · exact Stage.stays_of_waiting waits
      · obtain ⟨other, stage', known', answered⟩ := (agree.mail _).mp refused
        cases known.symm.trans known'
        exact Stage.stays_of_refused answered
    rcases stays with queued | woken
    · exact .inl ((agree.queued_iff _ wait).mpr ⟨stage, known, queued⟩)
    · exact .inr ((agree.mail _).mpr ⟨_, stage, known, woken⟩)

end Kept

/-- If no wakeup is early, the lock is fair. -/
theorem fair_of_timely (deployment : Deployment) (events : List (Event LockId))
    (timely : (cluster deployment).Allowed (Timely deployment) start events) :
    Fair ((cluster deployment).run start events).2 ((cluster deployment).run start events).1 := by
  have started : Kept deployment [] (start : State LockId) := by
    refine ⟨⟨fun _ => .free, fun _ => none⟩, ?_, ?_⟩
    · constructor
      case mail => rintro (_ | _ | _ | _) <;> simp [start, Picture.Expects]
      all_goals simp [start, State.waiting, Picture.onTheWay, queuedFor, firstsOf, enteredFor]
    · exact fun _ _ _ _ _ known => nomatch known
  exact (Machine.journal_run (Kept deployment) (fun journal state event kept => kept.step event)
    started timely).fair

/-- The center, and services of a game node. -/
def gameCluster : Deployment where
  queue service :=
    .ctor service (if service = 0 then "center" else "game") (some "center") (.name ".center")
  center := 0
  hasWakeup node _ := node = "game"
  apart first second _ same := by
    injection same
  one_center service own := by
    simp [ClusterQueue.isLocal, ClusterQueue.ctor] at own

/-- One client has the lock, and another one asks for it. -/
def twoClients : List (Event ℕ) :=
  [.lock 1 5, .deliver (.lock (gameCluster.ticket 1 1) 5),
    .deliver (.answer (gameCluster.ticket 1 1) true),
    .lock 2 5, .deliver (.lock (gameCluster.ticket 2 1) 5)]

def firstLeaves : List (Event ℕ) :=
  [.unlock 1 1, .deliver (.unlock 5)]

def answered : Event ℕ :=
  .deliver (.answer (gameCluster.ticket 2 1) false)

def wakeup : Event ℕ :=
  .deliver (.wakeup (gameCluster.ticket 2 1))

theorem twoClients_fair :
    ((cluster gameCluster).run start (twoClients ++ answered :: firstLeaves ++ [wakeup])).1.calls
        (gameCluster.ticket 2 1) = some ⟨5, .inside⟩ ∧
      Fair ((cluster gameCluster).run start (twoClients ++ answered :: firstLeaves ++ [wakeup])).2
        ((cluster gameCluster).run start (twoClients ++ answered :: firstLeaves ++ [wakeup])).1 :=
  ⟨by decide +kernel, fair_of_timely gameCluster _ (by decide +kernel)⟩

/-- The wakeup is faster than the answer. -/
theorem twoClients_not_fair :
    ¬ Fair
      ((cluster gameCluster).run start (twoClients ++ firstLeaves ++ [wakeup, answered])).2
      ((cluster gameCluster).run start (twoClients ++ firstLeaves ++ [wakeup, answered])).1 :=
  fun fair => absurd (fair.not_left (gameCluster.ticket 2 1) 5 .waiting (by decide +kernel)
    (.inl rfl)) (by decide +kernel)

end BasWar.Cluster
