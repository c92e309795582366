import BasWar.Tables.Journal
import Mathlib.Logic.Function.Basic

/-!
# The queue of a lock in the cluster

The locks are kept by one service.  A client that does not get a lock at once waits on its own
service, and the service with the locks wakes it by a message.  Messages arrive in any order.
-/

namespace BasWar.Cluster

open Tables

/-- The handle of a service, or its name. -/
inductive Address
  | handle (number : ℕ)
  | name (text : String)
  deriving DecidableEq

/-- The fields that `ctor` sets and nothing changes. -/
structure ClusterQueue where
  localNode : String
  localAddress : Address
  remoteNode : String
  remoteAddress : Address

namespace ClusterQueue

/-- `ctor` in the service with handle `self`. -/
def ctor (self : ℕ) (localNode : String) (remoteNode : Option String) (remoteAddress : Address) :
    ClusterQueue :=
  ⟨localNode, .handle self, remoteNode.getD localNode, remoteAddress⟩

def isLocal (queue : ClusterQueue) : Bool :=
  queue.localNode = queue.remoteNode ∧ queue.localAddress = queue.remoteAddress

end ClusterQueue

/-- A client in the `waiting` list of a lock. -/
structure Waiting where
  node : String
  address : Address
  recoverPointId : ℕ
  deriving DecidableEq

structure Deployment where
  queue : ℕ → ClusterQueue
  /-- The service that the remote addresses mean. -/
  center : ℕ
  /-- The services whose `api` has `wakeup`. -/
  hasWakeup : String → Address → Bool
  apart : ∀ first second, (queue first).localNode = (queue second).localNode →
    (queue first).localAddress = (queue second).localAddress → first = second
  one_center : ∀ service, (queue service).isLocal → service = center

/-- What a client writes into the `waiting` list. -/
def Deployment.ticket (deployment : Deployment) (service point : ℕ) : Waiting :=
  ⟨(deployment.queue service).localNode, (deployment.queue service).localAddress, point⟩

variable {LockId : Type}

/-- Where a client is in `queue`. -/
inductive Phase
  /-- In the call of `api.lock`. -/
  | calling
  /-- In `skynet.wait`. -/
  | waiting
  /-- Between `lock` and `unlock`. -/
  | inside
  deriving DecidableEq

structure Call (LockId : Type) where
  lockId : LockId
  phase : Phase
  deriving DecidableEq

inductive Message (LockId : Type)
  | lock (wait : Waiting) (lockId : LockId)
  /-- The answer of a call of `api.lock`. -/
  | answer (wait : Waiting) (ok : Bool)
  | unlock (lockId : LockId)
  | wakeup (wait : Waiting)
  deriving DecidableEq

structure State (LockId : Type) where
  /-- The `waiting` list of each lock that exists. -/
  locks : LockId → Option (List Waiting)
  /-- By service. -/
  recoverPointId : ℕ → ℕ
  calls : Waiting → Option (Call LockId)
  /-- On the way, in no order. -/
  messages : List (Message LockId)

inductive Entry (LockId : Type)
  /-- `_lock` has put a client into the `waiting` list. -/
  | queued (lockId : LockId) (wait : Waiting)
  /-- `_unlock` has found this `waiting` list. -/
  | unlocked (lockId : LockId) (waiting : List Waiting)
  /-- `skynet.wait` of a client has returned. -/
  | entered (lockId : LockId) (wait : Waiting)

inductive Event (LockId : Type)
  /-- A client calls `lock`. -/
  | lock (service : ℕ) (lockId : LockId)
  /-- A client that has the lock calls `unlock`. -/
  | unlock (service point : ℕ)
  | deliver (message : Message LockId)

namespace State

variable [DecidableEq LockId]

def send (message : Message LockId) (state : State LockId) : State LockId :=
  { state with messages := state.messages ++ [message] }

def receive (message : Message LockId) (state : State LockId) : State LockId :=
  { state with messages := state.messages.erase message }

/-- The `waiting` list of a lock. -/
def waiting (lockId : LockId) (state : State LockId) : List Waiting :=
  (state.locks lockId).getD []

def setCall (wait : Waiting) (call : Option (Call LockId)) (state : State LockId) : State LockId :=
  { state with calls := Function.update state.calls wait call }

def setLock (lockId : LockId) (lock : Option (List Waiting)) (state : State LockId) :
    State LockId :=
  { state with locks := Function.update state.locks lockId lock }

/-- `_lock`, with its answer. -/
def doLock (wait : Waiting) (lockId : LockId) (state : State LockId) :
    State LockId × List (Entry LockId) × Bool :=
  match state.locks lockId with
  | none => (state.setLock lockId (some []), [], true)
  | some waiting =>
      (state.setLock lockId (some (waiting ++ [wait])), [.queued lockId wait], false)

/-- `lock` after the answer of `_lock`. -/
def locked (wait : Waiting) (ok : Bool) (state : State LockId) : State LockId :=
  match state.calls wait with
  | some ⟨lockId, .calling⟩ =>
      state.setCall wait (some ⟨lockId, if ok then .inside else .waiting⟩)
  | _ => state

/-- `skynet.wakeup` on the service of a client.  It does nothing if nobody waits. -/
def wakeup (wait : Waiting) (state : State LockId) : State LockId × List (Entry LockId) :=
  match state.calls wait with
  | some ⟨lockId, .waiting⟩ =>
      (state.setCall wait (some ⟨lockId, .inside⟩), [.entered lockId wait])
  | _ => (state, [])

/-- `_unlock`. -/
def doUnlock (queue : ClusterQueue) (lockId : LockId) (state : State LockId) :
    State LockId × List (Entry LockId) :=
  match state.locks lockId with
  | none => (state, [])
  | some [] => (state.setLock lockId none, [.unlocked lockId []])
  | some (wait :: waiting) =>
      let next := state.setLock lockId (some waiting)
      if wait.node = queue.localNode ∧ wait.address = queue.localAddress then
        let (woken, entries) := next.wakeup wait
        (woken, .unlocked lockId (wait :: waiting) :: entries)
      else (next.send (.wakeup wait), [.unlocked lockId (wait :: waiting)])

/-- `lock`, up to the call of `api.lock` or to the end. -/
def lock (deployment : Deployment) (service : ℕ) (lockId : LockId) (state : State LockId) :
    State LockId × List (Entry LockId) :=
  let point := state.recoverPointId service + 1
  let wait := deployment.ticket service point
  let next := { state with recoverPointId := Function.update state.recoverPointId service point }
  let called := next.setCall wait (some ⟨lockId, .calling⟩)
  if (deployment.queue service).isLocal then
    let (last, entries, ok) := called.doLock wait lockId
    (last.locked wait ok, entries)
  else (called.send (.lock wait lockId), [])

/-- `unlock` of a client that has a lock. -/
def unlock (deployment : Deployment) (service point : ℕ) (state : State LockId) :
    State LockId × List (Entry LockId) :=
  let wait := deployment.ticket service point
  match state.calls wait with
  | some ⟨lockId, .inside⟩ =>
      let next := state.setCall wait none
      if (deployment.queue service).isLocal then next.doUnlock (deployment.queue service) lockId
      else (next.send (.unlock lockId), [])
  | _ => (state, [])

def deliver (deployment : Deployment) (message : Message LockId) (state : State LockId) :
    State LockId × List (Entry LockId) :=
  if message ∈ state.messages then
    let next := state.receive message
    match message with
    | .lock wait lockId =>
        let (last, entries, ok) := next.doLock wait lockId
        (last.send (.answer wait ok), entries)
    | .answer wait ok => (next.locked wait ok, [])
    | .unlock lockId => next.doUnlock (deployment.queue deployment.center) lockId
    | .wakeup wait =>
        if deployment.hasWakeup wait.node wait.address then next.wakeup wait else (next, [])
  else (state, [])

end State

def start : State LockId :=
  ⟨fun _ => none, fun _ => 0, fun _ => none, []⟩

def cluster [DecidableEq LockId] (deployment : Deployment) :
    Machine (State LockId) (Event LockId) (Entry LockId) where
  step state event :=
    match event with
    | .lock service lockId => state.lock deployment service lockId
    | .unlock service point => state.unlock deployment service point
    | .deliver message => state.deliver deployment message

namespace Entry

variable [DecidableEq LockId] (lockId : LockId)

def queued? : Entry LockId → Option Waiting
  | .queued other wait => if other = lockId then some wait else none
  | _ => none

/-- The first waiting client that an `_unlock` has found. -/
def first? : Entry LockId → Option Waiting
  | .unlocked other waiting => if other = lockId then waiting.head? else none
  | _ => none

def entered? : Entry LockId → Option Waiting
  | .entered other wait => if other = lockId then some wait else none
  | _ => none

end Entry

section Fair

variable [DecidableEq LockId] (lockId : LockId) (journal : List (Entry LockId))

def queuedFor : List Waiting :=
  journal.filterMap (Entry.queued? lockId)

/-- The first waiting client of each `_unlock` that found one. -/
def firstsOf : List Waiting :=
  journal.filterMap (Entry.first? lockId)

def enteredFor : List Waiting :=
  journal.filterMap (Entry.entered? lockId)

end Fair

/-- What `ClusterQueue` promises about all locks, given the entries so far. -/
structure Fair [DecidableEq LockId] (journal : List (Entry LockId)) (state : State LockId) :
    Prop where
  /-- Two clients between `lock` and `unlock` of the same lock are the same client. -/
  exclusive : ∀ lockId first second, state.calls first = some ⟨lockId, .inside⟩ →
    state.calls second = some ⟨lockId, .inside⟩ → first = second
  in_order : ∀ lockId, enteredFor lockId journal <+: queuedFor lockId journal
  /-- Each `_unlock` has let its first waiting client in, and no other; the wakeup of the last one
  may be on its way. -/
  wakes_one : ∀ lockId, firstsOf lockId journal = enteredFor lockId journal ∨
    ∃ wait phase, state.calls wait = some ⟨lockId, phase⟩ ∧ .wakeup wait ∈ state.messages ∧
      firstsOf lockId journal = enteredFor lockId journal ++ [wait]
  /-- A client whose call has returned `false`, or will do so, is in the queue, or its wakeup is on
  its way. -/
  not_left : ∀ wait lockId phase, state.calls wait = some ⟨lockId, phase⟩ →
    phase = .waiting ∨ .answer wait false ∈ state.messages →
      wait ∈ state.waiting lockId ∨ .wakeup wait ∈ state.messages

/-- The client has begun to wait. -/
def Waits (state : State LockId) (wait : Waiting) : Prop :=
  (state.calls wait).map Call.phase = some .waiting
  deriving Decidable

/-- No wakeup reaches a client that has not begun to wait, or a service without `api.wakeup`. -/
def Timely [DecidableEq LockId] (deployment : Deployment) (state : State LockId) :
    Event LockId → Prop
  | .deliver (.wakeup wait) => .wakeup wait ∈ state.messages →
      Waits state wait ∧ deployment.hasWakeup wait.node wait.address
  | .deliver (.unlock lockId) => .unlock lockId ∈ state.messages →
      ∀ wait ∈ (state.waiting lockId).head?,
        wait.node = (deployment.queue deployment.center).localNode →
        wait.address = (deployment.queue deployment.center).localAddress → Waits state wait
  | _ => True

instance [DecidableEq LockId] (deployment : Deployment) (state : State LockId)
    (event : Event LockId) : Decidable (Timely deployment state event) := by
  unfold Timely
  split <;> infer_instance

end BasWar.Cluster
