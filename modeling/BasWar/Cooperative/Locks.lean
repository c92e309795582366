import BasWar.Cooperative.Service
import Mathlib.Data.List.Nodup
import Mathlib.Logic.Relation

/-!
# Requests that take locks

A lock belongs to one request at a time, and the others get it in the order in which they asked.  A
request takes its locks one inside the other: it keeps those that it has while it waits for the
next one, also when it is another service that asks for it.
-/

namespace Cooperative.Locking

/-- What a request does with its locks. -/
inductive Action (Lock : Type)
  | take (lock : Lock)
  /-- Give the newest lock back. -/
  | leave
  deriving DecidableEq

variable {Lock Request : Type}

/-- Actions made while a lock is held. -/
def within (lock : Lock) (body : List (Action Lock)) : List (Action Lock) :=
  .take lock :: body ++ [.leave]

/-- Actions that give back `count` locks more than they take, and never one that is not there. -/
def Balanced (count : ℕ) : List (Action Lock) → Prop
  | [] => count = 0
  | .take _ :: rest => Balanced (count + 1) rest
  | .leave :: rest => 0 < count ∧ Balanced (count - 1) rest

/-- What a request asks for, with the locks that it has then, oldest first. -/
def demands (held : List Lock) : List (Action Lock) → List (List Lock × Lock)
  | [] => []
  | .take lock :: rest => (held, lock) :: demands (held ++ [lock]) rest
  | .leave :: rest => demands held.dropLast rest

/-- The locks that each request takes. -/
structure Scripts (Lock Request : Type) where
  script : Request → List (Action Lock)
  balanced : ∀ request, Balanced 0 (script request)

/-- A request under way. -/
structure Thread (Lock Request : Type) where
  id : ℕ
  request : Request
  /-- Oldest first. -/
  held : List Lock
  /-- It is in the queue of the lock that comes next. -/
  asked : Bool
  rest : List (Action Lock)

/-- Its place in a queue. -/
def Thread.ticket (thread : Thread Lock Request) : ℕ × ℕ :=
  (thread.id, thread.held.length)

/-- The queue of each lock; the first in it has the lock. -/
structure Locks (Lock : Type) where
  queue : Lock → List (ℕ × ℕ)
  nextId : ℕ

section Service

variable [DecidableEq Lock]

/-- Change the queue of one lock. -/
def Locks.modifyQueue (lock : Lock) (change : List (ℕ × ℕ) → List (ℕ × ℕ)) (locks : Locks Lock) :
    Locks Lock :=
  { locks with
    queue := fun other => if other = lock then change (locks.queue other) else locks.queue other }

/-- A new request. -/
def Scripts.start (scripts : Scripts Lock Request) (request : Request) (locks : Locks Lock) :
    Locks Lock × List (Thread Lock Request) :=
  ({ locks with nextId := locks.nextId + 1 },
    [⟨locks.nextId, request, [], false, scripts.script request⟩])

/-- The next action of a request, if it can be made. -/
def Thread.go (thread : Thread Lock Request) (locks : Locks Lock) :
    Locks Lock × List (Thread Lock Request) :=
  match thread.rest with
  | [] => (locks, [])
  | .take lock :: rest =>
      if !thread.asked then
        (locks.modifyQueue lock (· ++ [thread.ticket]), [{ thread with asked := true }])
      else if (locks.queue lock).head? = some thread.ticket then
        (locks, [{ thread with held := thread.held ++ [lock], asked := false, rest := rest }])
      else (locks, [thread])
  | .leave :: rest =>
      match thread.held.getLast? with
      | none => (locks, [{ thread with rest := rest }])
      | some lock =>
          (locks.modifyQueue lock (·.erase (thread.id, thread.held.length - 1)),
            [{ thread with held := thread.held.dropLast, rest := rest }])

/-- Requests that take locks, in any order of their actions. -/
def lockService (scripts : Scripts Lock Request) :
    Service (Locks Lock) Request (Thread Lock Request) Unit where
  accept := scripts.start
  resume thread _ locks := thread.go locks

end Service

/-- Nobody has asked for a lock yet. -/
def lockStart : Config (Locks Lock) (Thread Lock Request) :=
  ⟨⟨fun _ => [], 0⟩, []⟩

/-- The lock that the request has asked for and does not have yet. -/
def Thread.asks (thread : Thread Lock Request) : Option Lock :=
  match thread.rest with
  | .take lock :: _ => if thread.asked then some lock else none
  | _ => none

/-- The request that has the lock which a request waits for. -/
def waitsFor (config : Config (Locks Lock) (Thread Lock Request)) (id : ℕ) : Option ℕ :=
  (config.waiting.find? (·.id = id)).bind fun thread =>
    thread.asks.bind fun lock =>
      (config.state.queue lock).head?.bind fun ticket =>
        if ticket = thread.ticket then none else some ticket.1

/-- The request is part of a cycle of requests that wait for each other. -/
def Blocked (config : Config (Locks Lock) (Thread Lock Request)) (id : ℕ) : Prop :=
  Relation.TransGen (fun first second => waitsFor config first = some second) id id

/-- No cycle of requests each waiting for a lock held by the next. -/
def DeadlockFree (config : Config (Locks Lock) (Thread Lock Request)) : Prop :=
  ∀ id, ¬ Blocked config id

/-- Actions that give back exactly the locks they take. -/
def Closed (actions : List (Action Lock)) : Prop :=
  ∀ count rest, Balanced count rest → Balanced count (actions ++ rest)

theorem Closed.nil : Closed ([] : List (Action Lock)) :=
  fun _ _ => id

theorem Closed.append {first second : List (Action Lock)} (first_closed : Closed first)
    (second_closed : Closed second) : Closed (first ++ second) := by
  intro count rest balanced
  rw [List.append_assoc]
  exact first_closed count _ (second_closed count rest balanced)

theorem Closed.within {body : List (Action Lock)} (closed : Closed body) (lock : Lock) :
    Closed (within lock body) := by
  intro count rest balanced
  have left : Balanced (count + 1) (.leave :: rest) := ⟨Nat.succ_pos count, balanced⟩
  simpa [Locking.within, Balanced] using closed (count + 1) _ left

theorem Closed.flatMap {α : Type} {blocks : α → List (Action Lock)}
    (closed : ∀ block, Closed (blocks block)) (list : List α) : Closed (list.flatMap blocks) := by
  induction list with
  | nil => exact .nil
  | cons block list ih => exact (closed block).append ih

theorem Closed.balanced {actions : List (Action Lock)} (closed : Closed actions) :
    Balanced 0 actions := by
  simpa using closed 0 [] rfl

theorem demands_within_nil (held : List Lock) (lock : Lock) (rest : List (Action Lock)) :
    demands held (within lock [] ++ rest) = (held, lock) :: demands held rest := by
  simp [within, demands]

/-- Locks that are taken one after the other. -/
theorem demands_flatMap (held : List Lock) (locks : List Lock) (rest : List (Action Lock)) :
    demands held (locks.flatMap (within · []) ++ rest) =
      locks.map (held, ·) ++ demands held rest := by
  induction locks with
  | nil => rfl
  | cons lock locks ih =>
      rw [List.flatMap_cons, List.append_assoc, demands_within_nil, ih]
      rfl

/-- The request has the place in the queue because it has the lock or has asked for it. -/
def Thread.Accounts (thread : Thread Lock Request) (lock : Lock) (depth : ℕ) : Prop :=
  thread.held[depth]? = some lock ∨ (thread.asks = some lock ∧ depth = thread.held.length)

/-- Every place in a queue belongs to a request under way. -/
structure Queued (scripts : Scripts Lock Request)
    (config : Config (Locks Lock) (Thread Lock Request)) : Prop where
  unique : (config.waiting.map (·.id)).Nodup
  issued : ∀ thread ∈ config.waiting, thread.id < config.state.nextId
  balanced : ∀ thread ∈ config.waiting, Balanced thread.held.length thread.rest
  demanded : ∀ thread ∈ config.waiting,
    demands thread.held thread.rest ⊆ demands [] (scripts.script thread.request)
  nodup : ∀ lock, (config.state.queue lock).Nodup
  tickets : ∀ lock, ∀ ticket ∈ config.state.queue lock,
    ∃ thread ∈ config.waiting, thread.id = ticket.1 ∧ thread.Accounts lock ticket.2

namespace Queued

variable {scripts : Scripts Lock Request} {config : Config (Locks Lock) (Thread Lock Request)}
  {locks : Locks Lock} {before after : List (Thread Lock Request)}
  {thread next : Thread Lock Request}

theorem eq_of_id (queued : Queued scripts config) {first second : Thread Lock Request}
    (first_mem : first ∈ config.waiting) (second_mem : second ∈ config.waiting)
    (same : first.id = second.id) : first = second :=
  List.inj_on_of_nodup_map queued.unique first_mem second_mem same

/-- One request goes on, and the places of the others stay. -/
theorem replace (queued : Queued scripts ⟨locks, before ++ thread :: after⟩) {mid : Locks Lock}
    (id_eq : next.id = thread.id) (request_eq : next.request = thread.request)
    (nextId : mid.nextId = locks.nextId)
    (balanced : Balanced next.held.length next.rest)
    (demanded : demands next.held next.rest ⊆ demands thread.held thread.rest)
    (nodup : ∀ lock, (mid.queue lock).Nodup)
    (tickets : ∀ lock, ∀ ticket ∈ mid.queue lock,
      (ticket.1 ≠ thread.id ∧ ticket ∈ locks.queue lock) ∨
        (ticket.1 = thread.id ∧ next.Accounts lock ticket.2)) :
    Queued scripts ⟨mid, before ++ after ++ [next]⟩ := by
  have others : ∀ other ∈ before ++ after, other ∈ before ++ thread :: after := by
    intro other mem
    rcases List.mem_append.mp mem with left | right <;> simp [*]
  have thread_mem : thread ∈ before ++ thread :: after := by simp
  refine ⟨?_, fun other mem => ?_, fun other mem => ?_, fun other mem => ?_, nodup,
    fun lock ticket mem => ?_⟩
  · have moved : ((before ++ after ++ [next]).map (·.id)).Perm
        ((before ++ thread :: after).map (·.id)) := by
      simp only [List.map_append, List.map_cons, List.map_nil, id_eq]
      exact (List.perm_append_singleton _ _).trans List.perm_middle.symm
    exact moved.nodup_iff.mpr queued.unique
  · rcases List.mem_append.mp mem with old | new
    · exact nextId ▸ queued.issued other (others other old)
    · obtain rfl := List.mem_singleton.mp new
      exact nextId ▸ id_eq ▸ queued.issued thread thread_mem
  · rcases List.mem_append.mp mem with old | new
    · exact queued.balanced other (others other old)
    · obtain rfl := List.mem_singleton.mp new
      exact balanced
  · rcases List.mem_append.mp mem with old | new
    · exact queued.demanded other (others other old)
    · obtain rfl := List.mem_singleton.mp new
      rw [request_eq]
      exact List.Subset.trans demanded (queued.demanded thread thread_mem)
  · rcases tickets lock ticket mem with ⟨other, old⟩ | ⟨mine, accounts⟩
    · obtain ⟨owner, owner_mem, owner_id, accounts⟩ := queued.tickets lock ticket old
      refine ⟨owner, ?_, owner_id, accounts⟩
      have differs : owner ≠ thread := fun same => other (by rw [← owner_id, same])
      rcases List.mem_append.mp owner_mem with left | right
      · simp [left]
      · simp [List.mem_of_ne_of_mem differs right]
    · exact ⟨next, by simp, id_eq.trans mine.symm, accounts⟩

/-- A place in a queue with the id of a request is the place of that request. -/
theorem accounts_of_id (queued : Queued scripts config) (mem : thread ∈ config.waiting)
    {lock : Lock} {ticket : ℕ × ℕ} (ticket_mem : ticket ∈ config.state.queue lock)
    (mine : ticket.1 = thread.id) : thread.Accounts lock ticket.2 := by
  obtain ⟨owner, owner_mem, owner_id, accounts⟩ := queued.tickets lock ticket ticket_mem
  obtain rfl := queued.eq_of_id owner_mem mem (owner_id.trans mine)
  exact accounts

theorem start (queued : Queued scripts config) (request : Request) :
    Queued scripts (.settle config.waiting (scripts.start request config.state)) := by
  refine ⟨?_, fun thread mem => ?_, fun thread mem => ?_, fun thread mem => ?_, queued.nodup,
    fun lock ticket mem => ?_⟩
  · simp only [Config.settle_waiting, Scripts.start, List.map_append, List.map_cons, List.map_nil]
    refine List.nodup_append.mpr ⟨queued.unique, List.nodup_singleton _, ?_⟩
    intro id old other new same
    obtain ⟨thread, mem, rfl⟩ := List.mem_map.mp old
    have issued := queued.issued thread mem
    rw [same, List.mem_singleton.mp new] at issued
    exact Nat.lt_irrefl _ issued
  · rcases List.mem_append.mp mem with old | new
    · exact Nat.lt_succ_of_lt (queued.issued thread old)
    · obtain rfl := List.mem_singleton.mp new
      exact Nat.lt_succ_self _
  · rcases List.mem_append.mp mem with old | new
    · exact queued.balanced thread old
    · obtain rfl := List.mem_singleton.mp new
      exact scripts.balanced request
  · rcases List.mem_append.mp mem with old | new
    · exact queued.demanded thread old
    · obtain rfl := List.mem_singleton.mp new
      exact List.Subset.refl _
  · obtain ⟨owner, owner_mem, accounts⟩ := queued.tickets lock ticket mem
    exact ⟨owner, List.mem_append_left _ owner_mem, accounts⟩

theorem finish (queued : Queued scripts ⟨locks, before ++ thread :: after⟩)
    (past : thread.rest = []) : Queued scripts ⟨locks, before ++ after⟩ := by
  have thread_mem : thread ∈ before ++ thread :: after := by simp
  have empty : thread.held = [] := by
    have balanced := queued.balanced thread thread_mem
    rw [past] at balanced
    exact List.length_eq_zero_iff.mp balanced
  have fewer : (before ++ after).Sublist (before ++ thread :: after) :=
    (List.Sublist.refl before).append (List.sublist_cons_self thread after)
  refine ⟨queued.unique.sublist (fewer.map _), fun other mem => queued.issued other (fewer.mem mem),
    fun other mem => queued.balanced other (fewer.mem mem),
    fun other mem => queued.demanded other (fewer.mem mem), queued.nodup, fun lock ticket mem => ?_⟩
  obtain ⟨owner, owner_mem, owner_id, accounts⟩ := queued.tickets lock ticket mem
  have differs : owner ≠ thread := by
    rintro rfl
    simp [Thread.Accounts, empty, Thread.asks, past] at accounts
  refine ⟨owner, ?_, owner_id, accounts⟩
  rcases List.mem_append.mp owner_mem with left | right
  · simp [left]
  · simp [List.mem_of_ne_of_mem differs right]

theorem enter (queued : Queued scripts ⟨locks, before ++ thread :: after⟩) {lock : Lock}
    {rest : List (Action Lock)} (rest_eq : thread.rest = .take lock :: rest) :
    Queued scripts ⟨locks, before ++ after ++
      [{ thread with held := thread.held ++ [lock], asked := false, rest := rest }]⟩ := by
  have thread_mem : thread ∈ before ++ thread :: after := by simp
  have balanced := queued.balanced thread thread_mem
  rw [rest_eq] at balanced
  refine queued.replace rfl rfl rfl ?_ ?_ queued.nodup fun other ticket mem => ?_
  · simpa [Balanced] using balanced
  · rw [rest_eq]
    exact List.subset_cons_self _ _
  · by_cases same : ticket.1 = thread.id
    · refine .inr ⟨same, .inl ?_⟩
      rcases queued.accounts_of_id thread_mem mem same with held | ⟨asks, depth⟩
      · exact (List.getElem?_append_left (List.getElem?_eq_some_iff.mp held).1).trans held
      · have lock_eq : lock = other := by
          simp only [Thread.asks, rest_eq] at asks
          split at asks
          · exact Option.some.inj asks
          · exact nomatch asks
        simp [depth, lock_eq]
    · exact .inl ⟨same, mem⟩

section Steps

variable [DecidableEq Lock]

section

variable (queued : Queued scripts ⟨locks, before ++ thread :: after⟩)
include queued

theorem ask {lock : Lock} {rest : List (Action Lock)} (rest_eq : thread.rest = .take lock :: rest)
    (fresh : thread.asked = false) :
    Queued scripts ⟨locks.modifyQueue lock (· ++ [thread.ticket]),
      before ++ after ++ [{ thread with asked := true }]⟩ := by
  have thread_mem : thread ∈ before ++ thread :: after := by simp
  have not_asking : thread.asks = none := by simp [Thread.asks, rest_eq, fresh]
  have mine : ∀ other, ∀ ticket ∈ locks.queue other, ticket.1 = thread.id →
      thread.held[ticket.2]? = some other := by
    intro other ticket mem same
    have accounts := queued.accounts_of_id thread_mem mem same
    simpa [Thread.Accounts, not_asking] using accounts
  refine queued.replace rfl rfl rfl (queued.balanced thread thread_mem) (List.Subset.refl _)
    (fun other => ?_) fun other ticket mem => ?_
  · simp only [Locks.modifyQueue]
    split
    · rename_i here
      subst here
      refine List.nodup_append.mpr ⟨queued.nodup other, List.nodup_singleton _, ?_⟩
      intro ticket old last new same
      rw [List.mem_singleton.mp new] at same
      have held := mine other ticket old (by rw [same]; rfl)
      rw [same] at held
      simp [Thread.ticket] at held
    · exact queued.nodup other
  · have cases_of : ticket ∈ locks.queue other ∨ (other = lock ∧ ticket = thread.ticket) := by
      simp only [Locks.modifyQueue] at mem
      split at mem
      · rename_i here
        rcases List.mem_append.mp mem with old | new
        · exact .inl old
        · exact .inr ⟨here, List.mem_singleton.mp new⟩
      · exact .inl mem
    rcases cases_of with old | ⟨rfl, rfl⟩
    · by_cases same : ticket.1 = thread.id
      · exact .inr ⟨same, .inl (mine other ticket old same)⟩
      · exact .inl ⟨same, old⟩
    · exact .inr ⟨rfl, .inr ⟨by simp [Thread.asks, rest_eq], rfl⟩⟩

theorem leave {lock : Lock} {rest : List (Action Lock)} (rest_eq : thread.rest = .leave :: rest)
    (newest : thread.held.getLast? = some lock) :
    Queued scripts ⟨locks.modifyQueue lock (·.erase (thread.id, thread.held.length - 1)),
      before ++ after ++ [{ thread with held := thread.held.dropLast, rest := rest }]⟩ := by
  have thread_mem : thread ∈ before ++ thread :: after := by simp
  have balanced := queued.balanced thread thread_mem
  rw [rest_eq] at balanced
  have not_asking : thread.asks = none := by simp [Thread.asks, rest_eq]
  refine queued.replace rfl rfl rfl ?_ ?_ (fun other => ?_) fun other ticket mem => ?_
  · simpa using balanced.2
  · rw [rest_eq]
    exact List.Subset.refl _
  · simp only [Locks.modifyQueue]
    split
    · exact (queued.nodup other).erase _
    · exact queued.nodup other
  · have old : ticket ∈ locks.queue other := by
      simp only [Locks.modifyQueue] at mem
      split at mem
      · exact List.mem_of_mem_erase mem
      · exact mem
    by_cases same : ticket.1 = thread.id
    · refine .inr ⟨same, .inl ?_⟩
      have held : thread.held[ticket.2]? = some other := by
        simpa [Thread.Accounts, not_asking] using queued.accounts_of_id thread_mem old same
      have in_range : ticket.2 < thread.held.length := (List.getElem?_eq_some_iff.mp held).1
      -- The place that is given back is the one of the newest lock.
      have older : ticket.2 ≠ thread.held.length - 1 := by
        intro last
        rw [last, ← List.getLast?_eq_getElem?, newest] at held
        obtain rfl := Option.some.inj held
        simp only [Locks.modifyQueue, ↓reduceIte] at mem
        rw [show ticket = (thread.id, thread.held.length - 1) from Prod.ext same last] at mem
        exact (queued.nodup lock).not_mem_erase mem
      rw [List.getElem?_dropLast, if_pos (by omega)]
      exact held
    · exact .inl ⟨same, old⟩

theorem go : Queued scripts (.settle (before ++ after) (thread.go locks)) := by
  have thread_mem : thread ∈ before ++ thread :: after := by simp
  have unchanged : Queued scripts ⟨locks, before ++ after ++ [thread]⟩ := by
    refine queued.replace rfl rfl rfl (queued.balanced thread thread_mem) (List.Subset.refl _)
      queued.nodup fun lock ticket mem => ?_
    by_cases same : ticket.1 = thread.id
    · exact .inr ⟨same, queued.accounts_of_id thread_mem mem same⟩
    · exact .inl ⟨same, mem⟩
  have balanced := queued.balanced thread thread_mem
  unfold Thread.go
  cases rest_eq : thread.rest with
  | nil => simpa [Config.settle] using queued.finish rest_eq
  | cons action rest =>
      cases action with
      | take lock =>
          dsimp only
          split
          · rename_i fresh
            have asked := queued.ask rest_eq (by simpa using fresh)
            rwa [rest_eq] at asked
          · split
            · exact queued.enter rest_eq
            · exact unchanged
      | leave =>
          dsimp only
          cases newest : thread.held.getLast? with
          | none =>
              rw [rest_eq, List.getLast?_eq_none_iff.mp newest] at balanced
              exact absurd balanced.1 (Nat.lt_irrefl _)
          | some lock => exact queued.leave rest_eq newest

end

theorem step (queued : Queued scripts config) (event : Event Request Unit) :
    Queued scripts ((lockService scripts).step config event) := by
  rcases (lockService scripts).step_cases config event with
    ⟨request, rfl, step_eq⟩ | ⟨before, thread, after, reply, rfl, waiting_eq, step_eq⟩ |
      ⟨index, reply, rfl, absent, step_eq⟩
  · rw [step_eq]
    exact queued.start request
  · rw [step_eq]
    obtain ⟨locks, waiting⟩ := config
    obtain rfl : waiting = before ++ thread :: after := waiting_eq
    exact queued.go
  · rwa [step_eq]

end Steps

theorem lockStart (scripts : Scripts Lock Request) :
    Queued scripts (Locking.lockStart : Config (Locks Lock) (Thread Lock Request)) :=
  ⟨.nil, nofun, nofun, nofun, fun _ => .nil, nofun⟩

end Queued

section Cycles

variable {scripts : Scripts Lock Request} {config : Config (Locks Lock) (Thread Lock Request)}

theorem waitsFor_cases {id other : ℕ} (waits : waitsFor config id = some other) :
    ∃ thread ∈ config.waiting, thread.id = id ∧ ∃ lock, thread.asks = some lock ∧
      ∃ ticket, (config.state.queue lock).head? = some ticket ∧ ticket ≠ thread.ticket ∧
        ticket.1 = other := by
  unfold waitsFor at waits
  obtain ⟨thread, found, waits⟩ := Option.bind_eq_some_iff.mp waits
  obtain ⟨lock, asks, waits⟩ := Option.bind_eq_some_iff.mp waits
  obtain ⟨ticket, first, waits⟩ := Option.bind_eq_some_iff.mp waits
  refine ⟨thread, List.mem_of_find?_eq_some found, by simpa using List.find?_some found, lock, asks,
    ticket, first, ?_⟩
  split at waits
  · exact nomatch waits
  · rename_i other_place
    exact ⟨other_place, Option.some.inj waits⟩

/-- What a request asks for is a demand of its script. -/
theorem Thread.asks_mem_demands {thread : Thread Lock Request} {lock : Lock}
    (asks : thread.asks = some lock) : (thread.held, lock) ∈ demands thread.held thread.rest := by
  unfold Thread.asks at asks
  split at asks
  · rename_i taken rest rest_eq
    split at asks
    · rw [rest_eq, Option.some.inj asks]
      exact List.mem_cons_self
    · exact nomatch asks
  · exact nomatch asks

/-- A request in a cycle asks for a lock that the next one in the cycle has. -/
theorem Queued.blocked_next (queued : Queued scripts config) {thread : Thread Lock Request}
    (mem : thread ∈ config.waiting) (blocked : Blocked config thread.id) :
    ∃ lock, ∃ next ∈ config.waiting, Blocked config next.id ∧
      (thread.held, lock) ∈ demands [] (scripts.script thread.request) ∧ lock ∈ next.held := by
  obtain ⟨other, waits, back⟩ := Relation.TransGen.head'_iff.mp blocked
  have blocked_other : Blocked config other := Relation.TransGen.tail' back waits
  obtain ⟨same, same_mem, same_id, lock, asks, ticket, first, _, ticket_id⟩ := waitsFor_cases waits
  obtain rfl := queued.eq_of_id same_mem mem same_id
  have queue_mem : ticket ∈ config.state.queue lock := List.mem_of_mem_head? first
  obtain ⟨next, next_mem, next_id, accounts⟩ := queued.tickets lock ticket queue_mem
  obtain rfl : next.id = other := next_id.trans ticket_id
  refine ⟨lock, next, next_mem, blocked_other,
    queued.demanded same mem (Thread.asks_mem_demands asks), ?_⟩
  rcases accounts with held | ⟨next_asks, depth⟩
  · exact List.mem_of_getElem? held
  · -- The next request would be the first in the queue of the lock it asks for.
    obtain ⟨again, next_waits, _⟩ := Relation.TransGen.head'_iff.mp blocked_other
    obtain ⟨copy, copy_mem, copy_id, wanted, wants, place, place_first, elsewhere, _⟩ :=
      waitsFor_cases next_waits
    obtain rfl := queued.eq_of_id copy_mem next_mem copy_id
    obtain rfl := Option.some.inj (next_asks.symm.trans wants)
    obtain rfl := Option.some.inj (first.symm.trans place_first)
    exact absurd (Prod.ext next_id.symm depth) elsewhere

end Cycles

end Cooperative.Locking
