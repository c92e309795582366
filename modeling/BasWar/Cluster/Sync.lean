import BasWar.Tables.Journal
import Mathlib.Data.List.Nodup
import Mathlib.Logic.Function.Basic

/-!
# The locks of one service

`once_do` runs a function while no other coroutine runs one under the same id.  Every id in use has
a locker with a queue, and lockers that nobody uses go into a pool, from which other ids take them.
-/

namespace BasWar.Sync

open Tables

/-- The variables of a `skynet.queue`. -/
structure Queue where
  currentThread : Option ℕ
  ref : ℕ
  threadQueue : List ℕ

namespace Queue

/-- `skynet.queue()`. -/
def new : Queue := ⟨none, 0, []⟩

/-- Another coroutine has the queue. -/
def Blocks (queue : Queue) (thread : ℕ) : Prop :=
  ∃ other ∈ queue.currentThread, other ≠ thread
  deriving Decidable

def wait (thread : ℕ) (queue : Queue) : Queue :=
  { queue with threadQueue := queue.threadQueue ++ [thread] }

def take (thread : ℕ) (queue : Queue) : Queue :=
  { queue with currentThread := some thread, ref := queue.ref + 1 }

/-- `xpcall_ret`. -/
def leave (queue : Queue) : Queue :=
  if queue.ref = 1 then ⟨queue.threadQueue.head?, 0, queue.threadQueue.tail⟩
  else { queue with ref := queue.ref - 1 }

/-- The coroutine that `xpcall_ret` wakes up. -/
def wakes (queue : Queue) : Option ℕ :=
  if queue.ref = 1 then queue.threadQueue.head? else none

/-- The calls that have the queue or wait for it; a coroutine that was woken up has it. -/
def users (queue : Queue) : ℕ :=
  if queue.currentThread = none then 0 else max 1 queue.ref + queue.threadQueue.length

def pending (queue : Queue) : List ℕ :=
  if queue.ref = 0 then queue.currentThread.toList ++ queue.threadQueue else queue.threadQueue

end Queue

/-- An entry of `lockers`. -/
structure Locker where
  ref : ℕ
  lock : Queue

/-- Where a coroutine is in its innermost call. -/
inductive Stage
  | running
  /-- In `skynet.wait`. -/
  | waiting
  /-- `skynet.wakeup` was called for it. -/
  | woken
  /-- The assertion after `skynet.wait` has failed. -/
  | failed
  deriving DecidableEq

inductive Event (Id : Type)
  /-- A coroutine that runs calls `once_do`. -/
  | enter (thread : ℕ) (id : Id)
  /-- A coroutine goes on after `skynet.wait`. -/
  | wakeup (thread : ℕ)
  /-- The function of its innermost call returns or raises an error. -/
  | leave (thread : ℕ)

inductive Entry (Id : Type)
  /-- A coroutine asks for an id that it does not have. -/
  | asked (id : Id) (thread : ℕ)
  | entered (id : Id) (thread : ℕ)

variable {Id : Type} [DecidableEq Id]

/-- `xpcall_ret` makes a waiting coroutine ready. -/
def wake (thread : Option ℕ) (stage : ℕ → Stage) : ℕ → Stage :=
  match thread with
  | none => stage
  | some thread => Function.update stage thread .woken

/-- What a call writes that does not have to wait. -/
def entries (queue : Queue) (thread : ℕ) (id : Id) : List (Entry Id) :=
  if queue.currentThread = some thread then [] else [.asked id thread, .entered id thread]

/-! ### A queue for each id -/

/-- Every id has a queue of its own. -/
structure Plain (Id : Type) where
  queue : Id → Queue
  /-- The calls of each coroutine, innermost first. -/
  calls : ℕ → List Id
  stage : ℕ → Stage

namespace Plain

def step (state : Plain Id) : Event Id → Plain Id × List (Entry Id)
  | .enter thread id =>
      if state.stage thread = .running then
        let queue := state.queue id
        let calls := Function.update state.calls thread (id :: state.calls thread)
        if queue.Blocks thread then
          (⟨Function.update state.queue id (queue.wait thread), calls,
            Function.update state.stage thread .waiting⟩, [.asked id thread])
        else
          (⟨Function.update state.queue id (queue.take thread), calls, state.stage⟩,
            entries queue thread id)
      else (state, [])
  | .wakeup thread =>
      match state.stage thread, state.calls thread with
      | .woken, id :: _ =>
          if (state.queue id).ref = 0 then
            ({ state with
              queue := Function.update state.queue id ((state.queue id).take thread)
              stage := Function.update state.stage thread .running }, [.entered id thread])
          else ({ state with stage := Function.update state.stage thread .failed }, [])
      | _, _ => (state, [])
  | .leave thread =>
      match state.stage thread, state.calls thread with
      | .running, id :: rest =>
          (⟨Function.update state.queue id (state.queue id).leave,
            Function.update state.calls thread rest,
            wake (state.queue id).wakes state.stage⟩, [])
      | _, _ => (state, [])

end Plain

/-! ### The lockers -/

structure Call (Id : Type) where
  id : Id
  locker : ℕ

/-- `csync`; a locker is known by its address. -/
structure CSync (Id : Type) where
  objects : ℕ → Locker
  /-- The number of lockers that were made. -/
  made : ℕ
  lockers : Id → Option ℕ
  lockerPool : List ℕ

namespace CSync

def modify (locker : ℕ) (change : Locker → Locker) (sync : CSync Id) : CSync Id :=
  { sync with objects := Function.update sync.objects locker (change (sync.objects locker)) }

/-- A locker of the pool, or a new one. -/
def findLocker (id : Id) (sync : CSync Id) : ℕ × CSync Id :=
  match sync.lockers id, sync.lockerPool with
  | some locker, _ => (locker, sync)
  | none, locker :: rest =>
      (locker, { sync with
        lockers := Function.update sync.lockers id (some locker), lockerPool := rest })
  | none, [] =>
      (sync.made, { sync with
        objects := Function.update sync.objects sync.made ⟨0, .new⟩
        made := sync.made + 1
        lockers := Function.update sync.lockers id (some sync.made) })

def getLocker (id : Id) (sync : CSync Id) : ℕ × CSync Id :=
  let (locker, sync) := sync.findLocker id
  (locker, sync.modify locker fun old => { old with ref := old.ref + 1 })

def releaseLocker (id : Id) (sync : CSync Id) : CSync Id :=
  match sync.lockers id with
  | none => sync
  | some locker =>
      let sync := sync.modify locker fun old => { old with ref := old.ref - 1 }
      if 0 < (sync.objects locker).ref then sync
      else
        { sync with
          lockers := Function.update sync.lockers id none
          lockerPool := sync.lockerPool ++ [locker] }

def setLock (locker : ℕ) (change : Queue → Queue) (sync : CSync Id) : CSync Id :=
  sync.modify locker fun old => { old with lock := change old.lock }

def queue (sync : CSync Id) (id : Id) : Queue :=
  match sync.lockers id with
  | none => .new
  | some locker => (sync.objects locker).lock

end CSync

structure State (Id : Type) where
  sync : CSync Id
  /-- The calls of each coroutine, innermost first. -/
  calls : ℕ → List (Call Id)
  stage : ℕ → Stage

namespace State

/-- `_once_do` up to its function, the rest of it after `skynet.wait`, and its end. -/
def step (state : State Id) : Event Id → State Id × List (Entry Id)
  | .enter thread id =>
      if state.stage thread = .running then
        let (locker, sync) := state.sync.getLocker id
        let queue := (sync.objects locker).lock
        let calls := Function.update state.calls thread (⟨id, locker⟩ :: state.calls thread)
        if queue.Blocks thread then
          (⟨sync.setLock locker (.wait thread), calls,
            Function.update state.stage thread .waiting⟩, [.asked id thread])
        else (⟨sync.setLock locker (.take thread), calls, state.stage⟩, entries queue thread id)
      else (state, [])
  | .wakeup thread =>
      match state.stage thread, state.calls thread with
      | .woken, call :: _ =>
          if (state.sync.objects call.locker).lock.ref = 0 then
            ({ state with
              sync := state.sync.setLock call.locker (.take thread)
              stage := Function.update state.stage thread .running }, [.entered call.id thread])
          else ({ state with stage := Function.update state.stage thread .failed }, [])
      | _, _ => (state, [])
  | .leave thread =>
      match state.stage thread, state.calls thread with
      | .running, call :: rest =>
          (⟨(state.sync.setLock call.locker .leave).releaseLocker call.id,
            Function.update state.calls thread rest,
            wake (state.sync.objects call.locker).lock.wakes state.stage⟩, [])
      | _, _ => (state, [])

def plain (state : State Id) : Plain Id :=
  ⟨state.sync.queue, fun thread => (state.calls thread).map Call.id, state.stage⟩

end State

/-! ### What the queues promise -/

theorem Queue.owner_of_free {queue : Queue} {thread : ℕ} (free : ¬ queue.Blocks thread) :
    queue.currentThread = none ∨ queue.currentThread = some thread := by
  cases has : queue.currentThread with
  | none => exact .inl rfl
  | some other =>
      exact .inr (congrArg some (by_contra fun different => free ⟨other, has, different⟩))

def Queue.depth (queue : Queue) (thread : ℕ) : ℕ :=
  if queue.currentThread = some thread then max 1 queue.ref
  else if thread ∈ queue.threadQueue then 1 else 0

/-- Coroutines are in the queues as their calls say. -/
structure Queued (queue : Id → Queue) (calls : ℕ → List Id) (stage : ℕ → Stage) : Prop where
  idle : ∀ id, (queue id).currentThread = none → queue id = .new
  nodup : ∀ id, (queue id).threadQueue.Nodup
  apart : ∀ id thread, (queue id).currentThread = some thread →
    thread ∉ (queue id).threadQueue
  depth : ∀ thread id, (calls thread).count id = (queue id).depth thread
  waits : ∀ thread id, thread ∈ (queue id).threadQueue ↔
    stage thread = .waiting ∧ (calls thread).head? = some id
  woken : ∀ thread id, (queue id).currentThread = some thread →
    ((queue id).ref = 0 ↔ stage thread = .woken ∧ (calls thread).head? = some id)
  unfailed : ∀ thread, stage thread ≠ .failed

section Steps

variable {queue : Id → Queue} {calls : ℕ → List Id} {stage : ℕ → Stage} {thread : ℕ} {id : Id}
  {rest : List Id}

theorem Queued.wait (queued : Queued queue calls stage) (runs : stage thread = .running)
    (blocks : (queue id).Blocks thread) :
    Queued (Function.update queue id ((queue id).wait thread))
      (Function.update calls thread (id :: calls thread))
      (Function.update stage thread .waiting) := by
  obtain ⟨owner, has, different⟩ := blocks
  rw [Option.mem_def] at has
  obtain ⟨idle, nodup, apart, depth, waits, woken, unfailed⟩ := queued
  constructor <;> grind [Queue.wait, Queue.depth, Function.update_apply, List.nodup_append]

theorem Queued.take (queued : Queued queue calls stage) (runs : stage thread = .running)
    (free : ¬ (queue id).Blocks thread) :
    Queued (Function.update queue id ((queue id).take thread))
      (Function.update calls thread (id :: calls thread)) stage := by
  have owner := Queue.owner_of_free free
  have outside : ∀ other, thread ∉ (queue other).threadQueue := fun other mem =>
    Stage.noConfusion (runs.symm.trans ((queued.waits thread other).mp mem).1)
  have entered := queued.woken thread id
  have fresh := queued.idle id
  obtain ⟨idle, nodup, apart, depth, waits, woken, unfailed⟩ := queued
  constructor <;> grind [Queue.take, Queue.new, Queue.depth, Function.update_apply]

theorem Queued.has_of_woken (queued : Queued queue calls stage) (woken : stage thread = .woken)
    (called : calls thread = id :: rest) :
    (queue id).currentThread = some thread ∧ (queue id).ref = 0 := by
  have depth := queued.depth thread id
  have waits := queued.waits thread id
  have entered := queued.woken thread id
  grind [Queue.depth]

theorem Queued.wakeup (queued : Queued queue calls stage) (woken : stage thread = .woken)
    (called : calls thread = id :: rest) :
    Queued (Function.update queue id ((queue id).take thread)) calls
      (Function.update stage thread .running) := by
  obtain ⟨has, ref⟩ := queued.has_of_woken woken called
  obtain ⟨idle, nodup, apart, depth, waits, woken, unfailed⟩ := queued
  constructor <;> grind [Queue.take, Queue.depth, Function.update_apply]

theorem Queued.has_of_running (queued : Queued queue calls stage) (runs : stage thread = .running)
    (called : calls thread = id :: rest) :
    (queue id).currentThread = some thread ∧ 0 < (queue id).ref := by
  have depth := queued.depth thread id
  have waits := queued.waits thread id
  have entered := queued.woken thread id
  grind [Queue.depth]

theorem Queued.nobody (queued : Queued queue calls stage) (fresh : queue id = .new) :
    id ∉ calls thread := by
  rw [← List.count_pos_iff, queued.depth, fresh]
  simp [Queue.depth, Queue.new]

theorem Queued.leave (queued : Queued queue calls stage) (runs : stage thread = .running)
    (called : calls thread = id :: rest) :
    Queued (Function.update queue id (queue id).leave) (Function.update calls thread rest)
      (wake (queue id).wakes stage) := by
  obtain ⟨has, ref⟩ := queued.has_of_running runs called
  obtain ⟨idle, nodup, apart, depth, waits, woken, unfailed⟩ := queued
  have alone := apart id thread has
  have once := nodup id
  have counted : ∀ other, (id :: rest).count other = (queue other).depth thread := fun other =>
    called ▸ depth thread other
  unfold Queue.leave Queue.wakes
  split
  next last =>
    cases waiting : (queue id).threadQueue with
    | nil =>
        dsimp only [List.head?_nil, List.tail_nil, wake]
        constructor <;> grind [Queue.new, Queue.depth, Function.update_apply]
    | cons next waiters =>
        have next_waits := waits next id
        dsimp only [List.head?_cons, List.tail_cons, wake]
        constructor <;> grind [Queue.depth, Function.update_apply]
  next inner =>
    dsimp only [wake]
    constructor <;> grind [Queue.depth, Function.update_apply]

end Steps

/-! ### The lockers are queues of their own -/

/-- Every id in use has a locker that counts its calls, and the pool has the others. -/
structure Pooled (sync : CSync Id) : Prop where
  used : ∀ id locker, sync.lockers id = some locker → locker < sync.made ∧
    locker ∉ sync.lockerPool ∧ 0 < (sync.objects locker).ref ∧
    (sync.objects locker).ref = (sync.objects locker).lock.users
  injective : ∀ first second locker, sync.lockers first = some locker →
    sync.lockers second = some locker → first = second
  free : ∀ locker ∈ sync.lockerPool, locker < sync.made ∧ sync.objects locker = ⟨0, .new⟩
  nodup : sync.lockerPool.Nodup

section Lockers

variable {sync next : CSync Id} {id : Id} {locker : ℕ} {entry : Option ℕ} {queue : Queue}
  {change : Queue → Queue}

/-- Only the entry of an id and its locker have changed. -/
structure Relocked (sync next : CSync Id) (id : Id) (entry : Option ℕ) (locker : ℕ)
    (queue : Queue) : Prop where
  lockers : next.lockers = Function.update sync.lockers id entry
  entry_eq : ∀ old, entry = some old → old = locker ∧ old ∉ next.lockerPool
  apart : ∀ other, other ≠ id → sync.lockers other ≠ some locker
  objects : ∀ other old, other ≠ id → sync.lockers other = some old →
    next.objects old = sync.objects old ∧ old ∉ next.lockerPool
  made_le : sync.made ≤ next.made
  made : locker < next.made
  locker_eq : next.objects locker = ⟨queue.users, queue⟩
  free : ∀ old ∈ next.lockerPool, old < next.made ∧ next.objects old = ⟨0, .new⟩
  nodup : next.lockerPool.Nodup

theorem Relocked.queue_eq (relocked : Relocked sync next id entry locker queue)
    (idle : entry = none → queue = .new) :
    next.queue = Function.update sync.queue id queue := by
  funext other
  by_cases same : other = id
  · subst same
    rw [Function.update_self, CSync.queue, relocked.lockers, Function.update_self]
    cases entry with
    | none => exact (idle rfl).symm
    | some old =>
        obtain ⟨rfl, -⟩ := relocked.entry_eq old rfl
        exact congrArg Locker.lock relocked.locker_eq
  · rw [Function.update_of_ne same, CSync.queue, CSync.queue, relocked.lockers,
      Function.update_of_ne same]
    cases found : sync.lockers other with
    | none => rfl
    | some old => exact congrArg Locker.lock (relocked.objects other old same found).1

theorem Relocked.pooled (relocked : Relocked sync next id entry locker queue)
    (users : entry ≠ none → 0 < queue.users) (pooled : Pooled sync) : Pooled next := by
  obtain ⟨lockers, entry_eq, apart, objects, made_le, made, locker_eq, free, nodup⟩ := relocked
  obtain ⟨used, injective, -, -⟩ := pooled
  refine ⟨fun other old other_found => ?_, fun first second old => ?_, free, nodup⟩
  · rw [lockers] at other_found
    by_cases same : other = id
    · subst same
      rw [Function.update_self] at other_found
      obtain ⟨rfl, outside⟩ := entry_eq old other_found
      rw [locker_eq]
      exact ⟨made, outside, users (by simp [other_found]), rfl⟩
    · rw [Function.update_of_ne same] at other_found
      obtain ⟨object_eq, outside⟩ := objects other old same other_found
      obtain ⟨old_made, -, positive, counted⟩ := used other old other_found
      rw [object_eq]
      exact ⟨Nat.lt_of_lt_of_le old_made made_le, outside, positive, counted⟩
  · have := apart first
    have := apart second
    have := injective first second old
    simp only [lockers, Function.update_apply]
    grind

theorem Pooled.relocked_findLocker (pooled : Pooled sync) (id : Id) :
    ∃ locker next, sync.findLocker id = (locker, next) ∧
      (∀ old ∈ sync.lockers id, old = locker) ∧
      Relocked sync next id (some locker) locker (sync.queue id) := by
  obtain ⟨used, injective, free, nodup⟩ := pooled
  cases found : sync.lockers id with
  | some locker =>
      refine ⟨locker, sync, by rw [CSync.findLocker, found], by simp, ?_⟩
      obtain ⟨-, -, -, counted⟩ := used id locker found
      have object_eq : sync.objects locker = ⟨(sync.queue id).users, sync.queue id⟩ := by
        rw [CSync.queue, found]
        dsimp only
        rw [← counted]
      constructor <;> grind
  | none =>
      have queue_eq : sync.queue id = .new := by rw [CSync.queue, found]
      cases pool : sync.lockerPool with
      | cons locker rest =>
          have pool_free := free locker (by simp [pool])
          refine ⟨locker, _, by rw [CSync.findLocker, found, pool], by simp, ?_⟩
          rw [queue_eq]
          constructor <;> grind [Queue.users, Queue.new]
      | nil =>
          refine ⟨sync.made, _, by rw [CSync.findLocker, found, pool], by simp, ?_⟩
          rw [queue_eq]
          constructor <;> grind [Queue.users, Queue.new, Function.update_apply]

theorem Relocked.modify (relocked : Relocked sync next id (some locker) locker queue)
    (change : Locker → Locker) {changed : Queue}
    (change_eq : change ⟨queue.users, queue⟩ = ⟨changed.users, changed⟩) :
    Relocked sync (next.modify locker change) id (some locker) locker changed := by
  obtain ⟨lockers, entry_eq, apart, objects, made_le, made, locker_eq, free, nodup⟩ := relocked
  have objects_of_ne : ∀ old, old ≠ locker →
      (next.modify locker change).objects old = next.objects old := fun old different =>
    Function.update_of_ne different _ _
  refine ⟨lockers, entry_eq, apart, fun other old different found => ?_, made_le, made, ?_,
    fun old mem => ?_, nodup⟩
  · rw [objects_of_ne old fun same => apart other different (same ▸ found)]
    exact objects other old different found
  · rw [← change_eq, ← locker_eq]
    exact Function.update_self _ _ _
  · rw [objects_of_ne old fun same => (entry_eq locker rfl).2 (same ▸ mem)]
    exact free old mem

theorem Relocked.pool (relocked : Relocked sync next id (some locker) locker .new) :
    Relocked sync { next with
        lockers := Function.update next.lockers id none
        lockerPool := next.lockerPool ++ [locker] } id none locker .new := by
  obtain ⟨lockers, entry_eq, apart, objects, made_le, made, locker_eq, free, nodup⟩ := relocked
  have outside := (entry_eq locker rfl).2
  refine ⟨?_, nofun, apart, fun other old different found => ?_, made_le, made, locker_eq,
    fun old mem => ?_, ?_⟩
  · dsimp only
    rw [lockers, Function.update_idem]
  · obtain ⟨object_eq, old_outside⟩ := objects other old different found
    have old_ne : old ≠ locker := fun same => apart other different (same ▸ found)
    exact ⟨object_eq, by simp [old_outside, old_ne]⟩
  · obtain old_mem | same := List.mem_append.mp mem
    · exact free old old_mem
    · rw [List.mem_singleton.mp same]
      exact ⟨made, locker_eq⟩
  · exact List.nodup_append.mpr ⟨nodup, List.nodup_singleton _, by grind⟩

theorem Pooled.getLocker (pooled : Pooled sync)
    (users : (change (sync.queue id)).users = (sync.queue id).users + 1) :
    ∃ locker next, sync.getLocker id = (locker, next) ∧
      (next.objects locker).lock = sync.queue id ∧
      (∀ old ∈ sync.lockers id, old = locker) ∧
      Relocked sync (next.setLock locker change) id (some locker) locker
        (change (sync.queue id)) := by
  obtain ⟨locker, next, found, same, relocked⟩ := pooled.relocked_findLocker id
  refine ⟨locker, _, by rw [CSync.getLocker, found], ?_, same, ?_⟩
  · simp [CSync.modify, relocked.locker_eq]
  · have counted : (⟨(sync.queue id).users + 1, change (sync.queue id)⟩ : Locker) =
        ⟨(change (sync.queue id)).users, change (sync.queue id)⟩ := by rw [users]
    have modified := relocked.modify (fun old => ⟨old.ref + 1, change old.lock⟩) counted
    simpa [CSync.setLock, CSync.modify] using modified

theorem Pooled.relocked (pooled : Pooled sync) (found : sync.lockers id = some locker) :
    Relocked sync sync id (some locker) locker (sync.queue id) := by
  obtain ⟨old, next, find_eq, same, relocked⟩ := pooled.relocked_findLocker id
  obtain rfl := same locker found
  rw [CSync.findLocker, found] at find_eq
  cases find_eq
  exact relocked

theorem Pooled.releaseLocker (pooled : Pooled sync) (found : sync.lockers id = some locker)
    (users : (change (sync.queue id)).users + 1 = (sync.queue id).users)
    (idle : (change (sync.queue id)).users = 0 → change (sync.queue id) = .new) :
    Relocked sync ((sync.setLock locker change).releaseLocker id) id
      (if (change (sync.queue id)).users = 0 then none else some locker) locker
      (change (sync.queue id)) := by
  have released : (⟨(sync.queue id).users - 1, change (sync.queue id)⟩ : Locker) =
      ⟨(change (sync.queue id)).users, change (sync.queue id)⟩ := by rw [← users]; rfl
  have relocked := (pooled.relocked found).modify (fun old => ⟨old.ref - 1, change old.lock⟩)
    released
  have counted := congrArg Locker.ref relocked.locker_eq
  simp only [CSync.modify, Function.update_self] at counted
  simp only [CSync.modify, counted] at relocked
  unfold CSync.releaseLocker
  simp only [CSync.setLock, CSync.modify, found, Function.update_self, Function.update_idem,
    counted]
  split
  next used =>
    rw [if_neg (Nat.pos_iff_ne_zero.mp used)]
    exact relocked
  next unused =>
    have nobody := Nat.eq_zero_of_not_pos unused
    rw [if_pos nobody]
    rw [idle nobody] at relocked ⊢
    exact relocked.pool

end Lockers

/-- Coroutines of a service that uses `csync`. -/
def csync : Machine (State Id) (Event Id) (Entry Id) := ⟨State.step⟩

def plain : Machine (Plain Id) (Event Id) (Entry Id) := ⟨Plain.step⟩

/-- Nobody has called `once_do`. -/
def start : State Id :=
  ⟨⟨fun _ => ⟨0, .new⟩, 0, fun _ => none, []⟩, fun _ => [], fun _ => .running⟩

def Entry.asked? (id : Id) : Entry Id → Option ℕ
  | .asked other thread => if other = id then some thread else none
  | .entered _ _ => none

def Entry.entered? (id : Id) : Entry Id → Option ℕ
  | .entered other thread => if other = id then some thread else none
  | .asked _ _ => none

/-- The coroutine is in its call for an id, and its function runs. -/
def State.Inside (state : State Id) (thread : ℕ) (id : Id) : Prop :=
  id ∈ ((if state.stage thread = .running then state.calls thread
    else (state.calls thread).tail).map Call.id)

/-- The coroutine is in its call for an id, and its function has not begun. -/
def State.Awaits (state : State Id) (thread : ℕ) (id : Id) : Prop :=
  state.stage thread ≠ .running ∧ ((state.calls thread).map Call.id).head? = some id

/-- What `once_do` promises, given the entries so far. -/
structure Serial (journal : List (Entry Id)) (state : State Id) : Prop where
  exclusive : ∀ id first second, state.Inside first id → state.Inside second id → first = second
  in_order : ∀ id, journal.filterMap (Entry.entered? id) <+: journal.filterMap (Entry.asked? id)
  /-- Who waits for an id waits for another one that has it, or is woken up. -/
  waits_for : ∀ id thread, state.Awaits thread id → state.stage thread = .woken ∨
    ∃ other, other ≠ thread ∧ (state.Inside other id ∨ state.stage other = .woken ∧
      state.Awaits other id)
  unfailed : ∀ thread, state.stage thread ≠ .failed
  /-- An id without calls has no locker. -/
  released : ∀ id, (∀ thread, ∀ call ∈ state.calls thread, call.id ≠ id) →
    state.sync.lockers id = none

section Users

variable {queue : Queue} {thread : ℕ}

theorem users_wait (blocks : queue.Blocks thread) :
    (queue.wait thread).users = queue.users + 1 := by
  obtain ⟨other, has, -⟩ := blocks
  rw [Option.mem_def] at has
  simp [Queue.users, Queue.wait, has, Nat.add_assoc]

theorem users_pos (has : queue.currentThread = some thread) : 0 < queue.users := by
  rw [Queue.users, has, if_neg (Option.some_ne_none _)]
  omega

theorem users_leave (has : queue.currentThread = some thread) (entered : 0 < queue.ref) :
    queue.leave.users + 1 = queue.users := by
  cases waiting : queue.threadQueue <;> grind [Queue.users, Queue.leave]

theorem leave_eq_new (has : queue.currentThread = some thread) (nobody : queue.leave.users = 0) :
    queue.leave = .new := by
  cases waiting : queue.threadQueue <;> grind [Queue.users, Queue.leave, Queue.new]

theorem users_take (free : ¬ queue.Blocks thread) (idle : queue.currentThread = none → queue = .new)
    (entered : queue.currentThread = some thread → 0 < queue.ref) :
    (queue.take thread).users = queue.users + 1 := by
  obtain has | has := Queue.owner_of_free free
  · rw [idle has]
    rfl
  · have ref := entered has
    simp only [Queue.users, Queue.take, has]
    grind

theorem users_take_of_woken (has : queue.currentThread = some thread) (woken : queue.ref = 0) :
    (queue.take thread).users = queue.users := by
  simp [Queue.users, Queue.take, has, woken]

theorem pending_wait : (queue.wait thread).pending = queue.pending ++ [thread] := by
  unfold Queue.pending Queue.wait
  split <;> simp

theorem pending_take_of_woken (has : queue.currentThread = some thread) (woken : queue.ref = 0) :
    queue.pending = thread :: (queue.take thread).pending := by
  simp [Queue.pending, Queue.take, has, woken]

theorem pending_leave (entered : 0 < queue.ref) : queue.leave.pending = queue.pending := by
  cases waiting : queue.threadQueue <;> grind [Queue.pending, Queue.leave]

theorem pending_take {id : Id} (idle : queue.currentThread = none → queue = .new)
    (entered : queue.currentThread = some thread → 0 < queue.ref)
    (free : ¬ queue.Blocks thread) :
    queue.pending ++ (entries queue thread id).filterMap (Entry.asked? id) =
      (entries queue thread id).filterMap (Entry.entered? id) ++ (queue.take thread).pending := by
  obtain has | has := Queue.owner_of_free free
  · rw [idle has]
    simp [entries, Queue.pending, Queue.take, Queue.new, List.filterMap_cons, Entry.asked?,
      Entry.entered?]
  · simp [entries, has, Queue.pending, Queue.take, Nat.ne_of_gt (entered has)]

end Users

structure Kept (journal : List (Entry Id)) (state : State Id) : Prop where
  queued : Queued state.sync.queue (fun thread => (state.calls thread).map Call.id) state.stage
  pooled : Pooled state.sync
  calls : ∀ thread, ∀ call ∈ state.calls thread,
    state.sync.lockers call.id = some call.locker
  in_order : ∀ id, journal.filterMap (Entry.asked? id) =
    journal.filterMap (Entry.entered? id) ++ (state.sync.queue id).pending

section Kept

variable {journal : List (Entry Id)} {state : State Id}

theorem Kept.has_of_inside (kept : Kept journal state) {thread : ℕ} {id : Id}
    (inside : state.Inside thread id) :
    (state.sync.queue id).currentThread = some thread := by
  have depth := kept.queued.depth thread id
  have waits := kept.queued.waits thread id
  unfold State.Inside at inside
  by_contra without
  rw [Queue.depth, if_neg without] at depth
  split at inside
  next runs =>
    have positive := List.count_pos_iff.mpr inside
    grind
  next =>
    cases calls : state.calls thread with
    | nil => simp [calls] at inside
    | cons call rest =>
        rw [calls, List.tail_cons] at inside
        have positive := List.count_pos_iff.mpr inside
        rw [calls, List.map_cons] at depth waits
        grind

theorem Kept.inside_or_woken (kept : Kept journal state) {thread : ℕ} {id : Id}
    (has : (state.sync.queue id).currentThread = some thread) :
    state.Inside thread id ∨ state.stage thread = .woken ∧ state.Awaits thread id := by
  have alone := kept.queued.apart id thread has
  have waits := kept.queued.waits thread id
  have woken := kept.queued.woken thread id has
  have called : id ∈ (state.calls thread).map Call.id := by
    rw [← List.count_pos_iff, kept.queued.depth, Queue.depth, if_pos has]
    omega
  by_cases entered : (state.sync.queue id).ref = 0
  · obtain ⟨stage_eq, head_eq⟩ := woken.mp entered
    exact .inr ⟨stage_eq, by simp [stage_eq], head_eq⟩
  · left
    unfold State.Inside
    have unfailed := kept.queued.unfailed thread
    cases calls : state.calls thread <;> cases stage : state.stage thread <;> grind

theorem Kept.serial (kept : Kept journal state) : Serial journal state where
  exclusive id first second first_inside second_inside := Option.some.inj
    ((kept.has_of_inside first_inside).symm.trans (kept.has_of_inside second_inside))
  in_order id := ⟨_, (kept.in_order id).symm⟩
  waits_for id thread awaits := by
    obtain ⟨stage_ne, head_eq⟩ := awaits
    by_cases waiting : state.stage thread = .waiting
    · right
      have queues := (kept.queued.waits thread id).mpr ⟨waiting, head_eq⟩
      cases has : (state.sync.queue id).currentThread with
      | none =>
          have idle := kept.queued.idle id has
          rw [idle] at queues
          cases queues
      | some owner =>
          refine ⟨owner, fun same => ?_, kept.inside_or_woken has⟩
          exact kept.queued.apart id owner has (same ▸ queues)
    · left
      have unfailed := kept.queued.unfailed thread
      cases stage : state.stage thread <;> simp_all
  unfailed := kept.queued.unfailed
  released id nobody := by
    cases found : state.sync.lockers id with
    | none => rfl
    | some locker =>
        obtain ⟨-, -, positive, counted⟩ := kept.pooled.used id locker found
        have queue_eq : state.sync.queue id = (state.sync.objects locker).lock := by
          rw [CSync.queue, found]
        rw [counted, ← queue_eq, Queue.users] at positive
        cases has : (state.sync.queue id).currentThread with
        | none => simp [has] at positive
        | some owner =>
            have depth := kept.queued.depth owner id
            have called : id ∈ (state.calls owner).map Call.id := by
              rw [← List.count_pos_iff]
              refine depth.trans_gt ?_
              rw [Queue.depth]
              simp only [has, if_true]
              omega
            obtain ⟨call, mem, same⟩ := List.mem_map.mp called
            exact absurd same (nobody owner call mem)

/-- A step of the lockers does what one of the plain queues does. -/
structure Matches (journal : List (Entry Id)) (after : State Id × List (Entry Id))
    (expected : Plain Id × List (Entry Id)) : Prop where
  plain : after.1.plain = expected.1
  written : after.2 = expected.2
  kept : Kept (journal ++ after.2) after.1

theorem Kept.relocked (kept : Kept journal state) {next : State Id} {calls_after : ℕ → List Id}
    {id : Id} {entry : Option ℕ} {locker : ℕ} {changed : Queue} {written : List (Entry Id)}
    (relocked : Relocked state.sync next.sync id entry locker changed)
    (used : entry ≠ none → 0 < changed.users) (idle : entry = none → changed = .new)
    (calls : ∀ thread, ∀ call ∈ next.calls thread,
      if call.id = id then entry = some call.locker else call ∈ state.calls thread)
    (queued : Queued (Function.update state.sync.queue id changed) calls_after next.stage)
    (calls_eq : next.plain.calls = calls_after)
    (elsewhere : ∀ other, other ≠ id → written.filterMap (Entry.asked? other) = [] ∧
      written.filterMap (Entry.entered? other) = [])
    (pending : (state.sync.queue id).pending ++ written.filterMap (Entry.asked? id) =
      written.filterMap (Entry.entered? id) ++ changed.pending) :
    Matches journal (next, written)
      (⟨Function.update state.sync.queue id changed, calls_after, next.stage⟩, written) := by
  have queue_eq := relocked.queue_eq idle
  subst calls_eq
  rw [← queue_eq] at queued ⊢
  refine ⟨rfl, rfl, queued, relocked.pooled used kept.pooled, fun thread call mem => ?_,
    fun other => ?_⟩
  · have := calls thread call mem
    have := kept.calls thread call
    rw [relocked.lockers]
    grind [Function.update_apply]
  · dsimp only
    rw [List.filterMap_append, List.filterMap_append, queue_eq, kept.in_order]
    by_cases here : other = id
    · subst here
      rw [Function.update_self, List.append_assoc, pending, List.append_assoc]
    · rw [Function.update_of_ne here, (elsewhere other here).1, (elsewhere other here).2]
      simp

omit [DecidableEq Id] in
theorem plain_calls (calls : ℕ → List (Call Id)) (thread : ℕ) (changed : List (Call Id)) :
    (fun other => (Function.update calls thread changed other).map Call.id) =
      Function.update (fun other => (calls other).map Call.id) thread (changed.map Call.id) :=
  funext fun other => Function.apply_update (fun _ => List.map Call.id) calls thread changed other

theorem Kept.calls_cons (kept : Kept journal state) {id : Id} {locker : ℕ}
    (same : ∀ old ∈ state.sync.lockers id, old = locker) (thread : ℕ) :
    ∀ other, ∀ call ∈ Function.update state.calls thread
      (⟨id, locker⟩ :: state.calls thread) other,
      if call.id = id then some locker = some call.locker else call ∈ state.calls other := by
  intro other call mem
  have := kept.calls other call
  simp only [Option.mem_def] at same
  grind [Function.update_apply]

theorem Kept.enter (kept : Kept journal state) {thread : ℕ} (runs : state.stage thread = .running)
    (id : Id) :
    Matches journal (state.step (.enter thread id)) (state.plain.step (.enter thread id)) := by
  have idle := kept.queued.idle id
  have entered : (state.sync.queue id).currentThread = some thread →
      0 < (state.sync.queue id).ref := by
    intro has
    refine Nat.pos_of_ne_zero fun none_yet => ?_
    have woken := (kept.queued.woken thread id has).mp none_yet
    exact nomatch runs.symm.trans woken.1
  have plain_runs : state.plain.stage thread = .running := runs
  by_cases blocks : (state.sync.queue id).Blocks thread
  · obtain ⟨locker, next, get_eq, lock_eq, same, relocked⟩ :=
      kept.pooled.getLocker (users_wait blocks)
    have queued := kept.queued.wait runs blocks
    have plain_blocks : (state.plain.queue id).Blocks thread := blocks
    simp only [State.step, Plain.step, if_pos runs, if_pos plain_runs, get_eq, lock_eq,
      if_pos blocks, if_pos plain_blocks]
    change Matches _ _ (⟨Function.update _ id ((state.sync.queue id).wait thread), _, _⟩, _)
    refine kept.relocked relocked (fun _ => ?_) ?_ ?_ queued ?_ ?_ ?_
    · rw [users_wait blocks]
      omega
    · simp
    · exact kept.calls_cons same thread
    · simp [State.plain, plain_calls]
    · intro other different
      simp [Entry.asked?, Entry.entered?, different.symm]
    · simp [pending_wait, Entry.asked?, Entry.entered?]
  · have users := users_take blocks idle entered
    obtain ⟨locker, next, get_eq, lock_eq, same, relocked⟩ := kept.pooled.getLocker users
    have queued := kept.queued.take runs blocks
    have plain_free : ¬ (state.plain.queue id).Blocks thread := blocks
    simp only [State.step, Plain.step, if_pos runs, if_pos plain_runs, get_eq, lock_eq,
      if_neg blocks, if_neg plain_free]
    change Matches _ _ (⟨Function.update _ id ((state.sync.queue id).take thread), _, _⟩, _)
    refine kept.relocked relocked (fun _ => ?_) ?_ ?_ queued ?_ ?_ ?_
    · rw [users]
      omega
    · simp
    · exact kept.calls_cons same thread
    · simp [State.plain, plain_calls]
    · intro other different
      unfold entries
      split <;> simp [Entry.asked?, Entry.entered?, different.symm]
    · exact pending_take idle entered blocks

theorem Kept.wakeup (kept : Kept journal state) {thread : ℕ} (woken : state.stage thread = .woken)
    {call : Call Id} {rest : List (Call Id)} (calls : state.calls thread = call :: rest) :
    Matches journal (state.step (.wakeup thread)) (state.plain.step (.wakeup thread)) := by
  have plain_calls_eq : state.plain.calls thread = call.id :: rest.map Call.id := by
    simp [State.plain, calls]
  obtain ⟨has, ref⟩ := kept.queued.has_of_woken woken plain_calls_eq
  have queued := kept.queued.wakeup woken plain_calls_eq
  have found := kept.calls thread call (by simp [calls])
  have lock_eq : (state.sync.objects call.locker).lock = state.sync.queue call.id := by
    rw [CSync.queue, found]
  have users := users_take_of_woken has ref
  have relocked : Relocked state.sync (state.sync.setLock call.locker (.take thread)) call.id
      (some call.locker) call.locker ((state.sync.queue call.id).take thread) :=
    (kept.pooled.relocked found).modify _ (by rw [users])
  have plain_woken : state.plain.stage thread = .woken := woken
  have plain_ref : (state.plain.queue call.id).ref = 0 := ref
  simp only [State.step, Plain.step, woken, plain_woken, calls, plain_calls_eq, lock_eq, ref,
    plain_ref, if_true]
  change Matches _ _ (⟨Function.update _ call.id ((state.sync.queue call.id).take thread), _, _⟩, _)
  refine kept.relocked relocked (fun _ => ?_) (by simp) (fun other old mem => ?_) queued rfl ?_ ?_
  · rw [users]
    exact users_pos has
  · split
    next same => rw [← kept.calls other old mem, same, found]
    next => exact mem
  · intro other different
    simp [Entry.asked?, Entry.entered?, different.symm]
  · rw [pending_take_of_woken has ref]
    simp [Entry.asked?, Entry.entered?]

theorem Kept.silent (kept : Kept journal state) : Matches journal (state, []) (state.plain, []) :=
  ⟨rfl, rfl, by rwa [List.append_nil]⟩

theorem Kept.leave (kept : Kept journal state) {thread : ℕ} (runs : state.stage thread = .running)
    {call : Call Id} {rest : List (Call Id)} (calls : state.calls thread = call :: rest) :
    Matches journal (state.step (.leave thread)) (state.plain.step (.leave thread)) := by
  have plain_calls_eq : state.plain.calls thread = call.id :: rest.map Call.id := by
    simp [State.plain, calls]
  have plain_runs : state.plain.stage thread = .running := runs
  obtain ⟨has, ref⟩ := kept.queued.has_of_running runs plain_calls_eq
  have queued := kept.queued.leave runs plain_calls_eq
  have found := kept.calls thread call (by simp [calls])
  have lock_eq : (state.sync.objects call.locker).lock = state.sync.queue call.id := by
    rw [CSync.queue, found]
  have relocked := kept.pooled.releaseLocker found (users_leave has ref) (leave_eq_new has)
  simp only [State.step, Plain.step, runs, plain_runs, calls, plain_calls_eq, lock_eq]
  change Matches _ _ (⟨Function.update _ call.id (state.sync.queue call.id).leave, _, _⟩, _)
  refine kept.relocked relocked (fun used => ?_) (fun released => ?_) (fun other old mem => ?_)
    queued ?_ (by simp) (by simp [pending_leave ref])
  · split at used
    next => exact absurd rfl used
    next some_left => exact Nat.pos_of_ne_zero some_left
  · split at released
    next none_left => exact leave_eq_new has none_left
    next => exact absurd released (Option.some_ne_none _)
  · have mem_calls : old ∈ state.calls other := by
      grind [Function.update_apply]
    split
    next same =>
      rw [if_neg, ← kept.calls other old mem_calls, same, found]
      intro none_left
      have fresh := (Function.update_self call.id (state.sync.queue call.id).leave
        state.sync.queue).trans (leave_eq_new has none_left)
      have called : call.id ∈ (Function.update state.calls thread rest other).map Call.id :=
        List.mem_map.mpr ⟨old, mem, same⟩
      rw [Function.apply_update (fun _ => List.map Call.id)] at called
      exact queued.nobody fresh called
    next => exact mem_calls
  · simp [State.plain, plain_calls]

theorem Kept.step (kept : Kept journal state) (event : Event Id) :
    Matches journal (state.step event) (state.plain.step event) := by
  cases event with
  | enter thread id =>
      by_cases runs : state.stage thread = .running
      · exact kept.enter runs id
      · have plain_waits : ¬ state.plain.stage thread = .running := runs
        rw [State.step, Plain.step, if_neg runs, if_neg plain_waits]
        exact kept.silent
  | wakeup thread =>
      cases stage : state.stage thread <;> cases calls : state.calls thread <;>
        try simpa [State.step, Plain.step, State.plain, stage, calls] using kept.silent
      exact kept.wakeup stage calls
  | leave thread =>
      cases stage : state.stage thread <;> cases calls : state.calls thread <;>
        try simpa [State.step, Plain.step, State.plain, stage, calls] using kept.silent
      exact kept.leave stage calls

theorem kept_start : Kept [] (start : State Id) where
  queued := by constructor <;> simp [start, Queue.depth, CSync.queue, Queue.new]
  pooled := by constructor <;> simp [start]
  calls := by simp [start]
  in_order id := rfl

theorem Kept.run (kept : Kept journal state) (events : List (Event Id)) :
    (csync.run state events).1.plain = (plain.run state.plain events).1 ∧
      (csync.run state events).2 = (plain.run state.plain events).2 := by
  induction events generalizing journal state with
  | nil => exact ⟨rfl, rfl⟩
  | cons event events ih =>
      obtain ⟨plain_eq, written_eq, next⟩ := kept.step event
      have rest := ih next
      simp only [Machine.run, csync, plain] at rest ⊢
      rw [rest.1, rest.2, plain_eq, written_eq]
      exact ⟨rfl, rfl⟩

end Kept

/-- Whoever calls `once_do`, and however long the functions run, all calls with one id are served
one after the other, in the order in which they came. -/
theorem serial_run (events : List (Event Id)) :
    Serial (csync.run start events).2 (csync.run start events).1 := by
  exact (Machine.journal_run Kept (fun journal state event kept _ => (kept.step event).kept)
    kept_start (Machine.allowed_true _ events)).serial

/-- Lockers that are used again do not let one id wait for another. -/
theorem plain_run (events : List (Event Id)) :
    (csync.run start events).1.plain = (plain.run (start : State Id).plain events).1 ∧
      (csync.run start events).2 = (plain.run (start : State Id).plain events).2 :=
  kept_start.run events

end BasWar.Sync
