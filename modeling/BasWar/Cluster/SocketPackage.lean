import BasWar.Tables.Journal
import Mathlib.Logic.Function.Basic

/-!
# The packages of a connection

The service of a connection cuts its bytes into packages, two bytes of size before each, and answers
one request with each package.  Requests and packages that find no partner wait in ring buffers.
-/

namespace BasWar.SocketPackage

open Tables

abbrev Bytes := List UInt8

/-- `struct queue`: a ring of `cap` slots. -/
structure Queue (α : Type) where
  cap : ℕ
  head : ℕ
  tail : ℕ
  buffer : ℕ → α
  head_lt : head < cap
  tail_lt : tail < cap

namespace Queue

variable {α : Type}

def init [Inhabited α] : Queue α := ⟨4, 0, 0, fun _ => default, by decide, by decide⟩

/-- The slot after a slot. -/
def after (cap slot : ℕ) : ℕ := if cap ≤ slot + 1 then 0 else slot + 1

theorem after_lt {cap slot : ℕ} (lt : slot < cap) : after cap slot < cap := by
  unfold after
  split <;> omega

/-- `queue_pop`, with the queue that it leaves. -/
def pop (queue : Queue α) : Option (α × Queue α) :=
  if queue.head = queue.tail then none
  else some (queue.buffer queue.head, { queue with
    head := after queue.cap queue.head, head_lt := after_lt queue.head_lt })

/-- `queue_size`. -/
def size (queue : Queue α) : ℕ :=
  if queue.tail < queue.head then queue.tail + queue.cap - queue.head
  else queue.tail - queue.head

/-- The slot of an entry, counted from the head. -/
def slot (queue : Queue α) (i : ℕ) : ℕ :=
  if queue.head + i < queue.cap then queue.head + i else queue.head + i - queue.cap

/-- `queue_push`, which copies a full ring into one of twice the size. -/
def push (value : α) (queue : Queue α) : Queue α :=
  if queue.head = after queue.cap queue.tail then
    { cap := queue.cap * 2
      head := 0
      tail := queue.cap
      buffer := Function.update (fun i => queue.buffer (queue.slot i)) (queue.cap - 1) value
      head_lt := by have := queue.head_lt; omega
      tail_lt := by have := queue.head_lt; omega }
  else
    { queue with
      tail := after queue.cap queue.tail
      buffer := Function.update queue.buffer queue.tail value
      tail_lt := after_lt queue.tail_lt }

/-- What is in the queue, in order. -/
def contents (queue : Queue α) : List α :=
  (List.range queue.size).map fun i => queue.buffer (queue.slot i)

variable {queue : Queue α}

theorem contents_pop (queue : Queue α) :
    queue.contents = match queue.pop with
      | none => []
      | some (value, rest) => value :: rest.contents := by
  obtain ⟨cap, head, tail, buffer, head_lt, tail_lt⟩ := queue
  by_cases empty : head = tail
  · simp [pop, contents, size, empty]
  · have size_eq : size ⟨cap, head, tail, buffer, head_lt, tail_lt⟩ =
        size ⟨cap, after cap head, tail, buffer, after_lt head_lt, tail_lt⟩ + 1 := by
      grind [size, after]
    have first : slot ⟨cap, head, tail, buffer, head_lt, tail_lt⟩ 0 = head := if_pos head_lt
    rw [pop, if_neg empty, contents, size_eq, List.range_succ_eq_map, List.map_cons, first,
      List.map_map]
    refine congrArg _ (List.map_congr_left fun i mem => congrArg buffer ?_)
    have inside := List.mem_range.mp mem
    grind [size, after, slot]

theorem contents_of_pop_none (popped : queue.pop = none) : queue.contents = [] := by
  rw [contents_pop, popped]

theorem contents_of_pop {value : α} {rest : Queue α} (popped : queue.pop = some (value, rest)) :
    queue.contents = value :: rest.contents := by
  rw [contents_pop, popped]

theorem head_eq_tail (empty : queue.contents = []) : queue.head = queue.tail := by
  by_contra different
  have some_left := contents_of_pop (if_neg different)
  rw [empty] at some_left
  cases some_left

theorem contents_push (value : α) (queue : Queue α) :
    (queue.push value).contents = queue.contents ++ [value] := by
  have head_lt := queue.head_lt
  have tail_lt := queue.tail_lt
  have size_eq : (queue.push value).size = queue.size + 1 := by
    unfold push
    split <;> grind [size, after]
  have last : (queue.push value).buffer ((queue.push value).slot queue.size) = value := by
    unfold push
    split <;> grind [size, after, slot, Function.update_apply]
  have old : ∀ i ∈ List.range queue.size,
      (queue.push value).buffer ((queue.push value).slot i) = queue.buffer (queue.slot i) := by
    intro i mem
    have inside := List.mem_range.mp mem
    unfold push
    split <;> grind [size, after, slot, Function.update_apply]
  rw [contents, size_eq, List.range_succ, List.map_append, List.map_singleton, last,
    List.map_congr_left old, contents]

/-- The loop that pops all entries. -/
def drain (queue : Queue α) : List α × Queue α :=
  match _popped : queue.pop with
  | none => ([], queue)
  | some (value, rest) => (value :: rest.drain.1, rest.drain.2)
termination_by queue.contents.length
decreasing_by all_goals simp [contents_of_pop _popped]

theorem drain_eq (queue : Queue α) :
    queue.drain.1 = queue.contents ∧ queue.drain.2.contents = [] := by
  fun_induction drain queue with
  | case1 queue popped => exact ⟨(contents_of_pop_none popped).symm, contents_of_pop_none popped⟩
  | case2 queue value rest popped ih => exact ⟨by rw [contents_of_pop popped, ih.1], ih.2⟩

end Queue

structure Request where
  source : ℕ
  session : ℕ
  deriving Inhabited, DecidableEq

/-- What has been read of a package: nothing, one byte of its size, or its size and some bytes, of
which so many are missing. -/
inductive Reading
  | start
  | header (first : UInt8)
  | uncomplete (missing : ℕ) (msg : Bytes)

/-- `struct package`. -/
structure Package where
  closed : Bool
  reading : Reading
  request : Queue Request
  response : Queue Bytes

inductive Event
  /-- Bytes of the socket. -/
  | data (msg : Bytes)
  /-- The command `R`. -/
  | request (request : Request)

inductive Sent
  | response (request : Request) (msg : Bytes)
  | error (request : Request)
  /-- The manager is told. -/
  | closed
  /-- The assertion of `command` has failed. -/
  | failed

/-- The size in a header. -/
def headerSize (first second : UInt8) : ℕ := first.toNat * 256 + second.toNat

namespace Package

/-- `package_create`. -/
def create : Package := ⟨false, .start, .init, .init⟩

/-- The first part of the loop of `new_message`, which also gives the bytes that are left. -/
def fill (package : Package) (msg : Bytes) : Package × Bytes :=
  match package.reading with
  | .uncomplete missing got =>
      if missing ≤ msg.length then
        ({ package with
          reading := .start
          response := package.response.push (got ++ msg.take missing) }, msg.drop missing)
      else
        ({ package with reading := .uncomplete (missing - msg.length) (got ++ msg) }, [])
  | _ => (package, msg)

theorem length_fill (package : Package) (msg : Bytes) :
    (package.fill msg).2.length ≤ msg.length := by
  unfold fill
  split
  · split <;> simp
  · exact Nat.le_refl _

end Package

/-- The second part, which returns or goes on with the bytes after the header. -/
def Reading.next : Reading → Bytes → Reading × Option Bytes
  | .start, [first] => (.header first, none)
  | .start, first :: second :: rest => (.uncomplete (headerSize first second) [], some rest)
  | .header first, second :: rest => (.uncomplete (headerSize first second) [], some rest)
  | .start, [] => (.start, none)
  | .header first, [] => (.header first, none)
  | .uncomplete missing got, _ => (.uncomplete missing got, none)

theorem Reading.length_next {reading : Reading} {msg rest : Bytes}
    (left : (reading.next msg).2 = some rest) : rest.length < msg.length := by
  unfold Reading.next at left
  split at left <;> cases left <;> simp only [List.length_cons] <;> omega

namespace Package

/-- A round of the loop. -/
def round (package : Package) (msg : Bytes) : Package × Option Bytes :=
  let (next, msg) := package.fill msg
  ({ next with reading := (next.reading.next msg).1 }, (next.reading.next msg).2)

def newMessage (package : Package) (msg : Bytes) : Package :=
  match _rounded : package.round msg with
  | (next, none) => next
  | (next, some rest) => next.newMessage rest
termination_by msg.length
decreasing_by
  exact Nat.lt_of_lt_of_le (Reading.length_next (congrArg Prod.snd _rounded))
    (package.length_fill msg)

/-- `response`. -/
def respond (package : Package) : Package × List Sent :=
  match _popped : package.request.pop, package.response.pop with
  | some (req, request), some (resp, response) =>
      let next := respond { package with request := request, response := response }
      (next.1, .response req resp :: next.2)
  | _, _ => (package, [])
termination_by package.request.contents.length
decreasing_by simp [Queue.contents_of_pop _popped]

/-- `socket_message` for bytes, and the command `R`. -/
def step (package : Package) : Event → Package × List Sent
  | .data msg => (package.newMessage msg).respond
  | .request request =>
      if package.closed then (package, [.error request])
      else
        match package.response.pop with
        | some (resp, rest) =>
            if package.request.head = package.request.tail then
              ({ package with response := rest }, [.response request resp])
            else (package, [.failed])
        | none => ({ package with request := package.request.push request }, [])

/-- `socket_message` when the socket was closed or has failed, and `service_exit`. -/
def close (package : Package) : Package × List Sent :=
  let (next, sent) := package.respond
  ({ next with closed := true, request := next.request.drain.2 },
    sent ++ next.request.drain.1.map .error ++ [.closed])

end Package

/-- A package that is complete. -/
def Reading.finish : Reading → Reading × List Bytes
  | .uncomplete 0 got => (.start, [got])
  | reading => (reading, [])

/-- The packages of a stream, byte by byte. -/
def reader : Machine Reading UInt8 Bytes where
  step
    | .start, byte => (.header byte, [])
    | .header first, byte => Reading.finish (.uncomplete (headerSize first byte) [])
    | .uncomplete missing got, byte => Reading.finish (.uncomplete (missing - 1) (got ++ [byte]))

def service : Machine Package Event Sent := ⟨Package.step⟩

theorem run_header (first second : UInt8) (bytes : Bytes) :
    reader.run (.header first) (second :: bytes) =
      ((reader.run (Reading.finish (.uncomplete (headerSize first second) [])).1 bytes).1,
        (Reading.finish (.uncomplete (headerSize first second) [])).2 ++
          (reader.run (Reading.finish (.uncomplete (headerSize first second) [])).1 bytes).2) :=
  rfl

theorem run_uncomplete {missing : ℕ} {bytes : Bytes} (positive : 0 < missing)
    (fits : bytes.length ≤ missing) (got : Bytes) :
    reader.run (.uncomplete missing got) bytes =
      Reading.finish (.uncomplete (missing - bytes.length) (got ++ bytes)) := by
  induction bytes generalizing missing got with
  | nil =>
      obtain ⟨rest, rfl⟩ := Nat.exists_eq_succ_of_ne_zero (Nat.ne_of_gt positive)
      simp [Machine.run, Reading.finish]
  | cons byte bytes ih =>
      rw [List.length_cons] at fits
      obtain last | more := Nat.eq_or_lt_of_le positive
      · obtain rfl := last
        obtain rfl : bytes = [] := List.length_eq_zero_iff.mp (by omega)
        rfl
      · have next := ih (show 0 < missing - 1 by omega) (by omega) (got ++ [byte])
        obtain ⟨rest, rest_eq⟩ : ∃ rest, missing - 1 = rest + 1 := ⟨missing - 2, by omega⟩
        simp only [Machine.run, reader] at next ⊢
        rw [rest_eq] at next ⊢
        simp only [Reading.finish, List.nil_append] at next ⊢
        rw [next, List.append_assoc, List.length_cons, List.singleton_append,
          show missing - (bytes.length + 1) = rest + 1 - bytes.length by omega]

namespace Package

/-- What is read when the bytes have been read. -/
def outcome (package : Package) (msg : Bytes) : Reading × List Bytes :=
  ((reader.run package.reading.finish.1 msg).1, package.response.contents ++
    (package.reading.finish.2 ++ (reader.run package.reading.finish.1 msg).2))

/-- Reading goes on with the rest of the bytes. -/
structure Reads (package : Package) (msg : Bytes) (next : Package) (rest : Bytes) : Prop where
  outcome : next.outcome rest = package.outcome msg
  request : next.request = package.request
  closed : next.closed = package.closed

def Rests (package : Package) : Prop := package.reading.finish = (package.reading, [])

theorem reads_fill (package : Package) (msg : Bytes) :
    Reads package msg (package.fill msg).1 (package.fill msg).2 ∧ (package.fill msg).1.Rests := by
  unfold fill
  cases reading : package.reading with
  | start => exact ⟨⟨rfl, rfl, rfl⟩, by simp [Rests, reading, Reading.finish]⟩
  | header first => exact ⟨⟨rfl, rfl, rfl⟩, by simp [Rests, reading, Reading.finish]⟩
  | uncomplete missing got =>
      dsimp only
      split
      next enough =>
        refine ⟨⟨?_, rfl, rfl⟩, rfl⟩
        cases missing with
        | zero => simp [outcome, reading, Reading.finish, Queue.contents_push]
        | succ missing =>
            have length_eq := List.length_take_of_le enough
            have whole := run_uncomplete (Nat.succ_pos missing) (Nat.le_of_eq length_eq) got
            have cut := reader.run_append (.uncomplete (missing + 1) got)
              (msg.take (missing + 1)) (msg.drop (missing + 1))
            rw [List.take_append_drop, whole, length_eq, Nat.sub_self] at cut
            simp [outcome, reading, Reading.finish, Queue.contents_push, cut]
      next short =>
        have part := run_uncomplete (show 0 < missing by omega)
          (show msg.length ≤ missing by omega) got
        obtain ⟨more, rfl⟩ : ∃ more, missing = msg.length + more + 1 :=
          ⟨missing - msg.length - 1, by omega⟩
        rw [show msg.length + more + 1 - msg.length = more + 1 by omega] at part ⊢
        refine ⟨⟨?_, rfl, rfl⟩, rfl⟩
        simp [outcome, reading, Reading.finish, Machine.run, part]

theorem fill_eq_nil {package : Package} {msg got : Bytes} {missing : ℕ}
    (reading : (package.fill msg).1.reading = .uncomplete missing got) :
    (package.fill msg).2 = [] := by
  unfold fill at reading ⊢
  split at reading
  next before =>
    split at reading
    next => cases reading
    next short => exact congrArg Prod.snd (if_neg short)
  next other => exact absurd reading (other _ _)

theorem reads_round (package : Package) (msg : Bytes) :
    Reads package msg (package.round msg).1 ((package.round msg).2.getD []) ∧
      ((package.round msg).2 = none → (package.round msg).1.Rests) := by
  obtain ⟨⟨outcome_eq, request, closed⟩, rests⟩ := package.reads_fill msg
  have nothing := @fill_eq_nil package msg
  unfold round
  generalize package.fill msg = filled at *
  obtain ⟨⟨isClosed, reading, requests, responses⟩, bytes⟩ := filled
  dsimp only at *
  unfold Rests at rests ⊢
  refine ⟨⟨?_, request, closed⟩, ?_⟩
  · rw [← outcome_eq, outcome, outcome, rests]
    unfold Reading.next
    split
    case h_3 => rw [run_header]; rfl
    case h_6 => rw [nothing rfl, rests]; rfl
    all_goals rfl
  · unfold Reading.next
    split <;> simp_all [Reading.finish]

theorem reads_newMessage (package : Package) (msg : Bytes) :
    Reads package msg (package.newMessage msg) [] ∧ (package.newMessage msg).Rests := by
  fun_induction newMessage package msg with
  | case1 package msg next rounded =>
      obtain ⟨reads, rests⟩ := package.reads_round msg
      rw [rounded] at reads rests
      exact ⟨reads, rests rfl⟩
  | case2 package msg next rest rounded ih =>
      obtain ⟨reads, -⟩ := package.reads_round msg
      rw [rounded] at reads
      exact ⟨⟨ih.1.outcome.trans reads.outcome, ih.1.request.trans reads.request,
        ih.1.closed.trans reads.closed⟩, ih.2⟩

end Package

/-- Requests meet packages in order: the answers, and what waits afterwards. -/
def meet : List Request → List Bytes → List Sent × List Request × List Bytes
  | [], packages => ([], [], packages)
  | requests, [] => ([], requests, [])
  | request :: requests, package :: packages =>
      (.response request package :: (meet requests packages).1, (meet requests packages).2)

theorem meet_nil (requests : List Request) : meet requests [] = ([], requests, []) := by
  cases requests <;> rfl

theorem meet_append (requests later : List Request) (packages more : List Bytes) :
    meet (requests ++ later) (packages ++ more) =
      let (sent, waiting, unread) := meet requests packages
      (sent ++ (meet (waiting ++ later) (unread ++ more)).1,
        (meet (waiting ++ later) (unread ++ more)).2) := by
  fun_induction meet requests packages with
  | case1 packages => rfl
  | case2 requests => rfl
  | case3 request requests package packages ih => simp [meet, ih]

theorem meet_apart (requests : List Request) (packages : List Bytes) :
    (meet requests packages).2.1 = [] ∨ (meet requests packages).2.2 = [] := by
  fun_induction meet requests packages with
  | case1 packages => exact .inl rfl
  | case2 requests => exact .inr rfl
  | case3 request requests package packages ih => exact ih

/-- All requests and packages so far have met. -/
structure Served (requests : List Request) (packages : List Bytes) (reading : Reading)
    (result : Package × List Sent) : Prop where
  met : (result.2, result.1.request.contents, result.1.response.contents) = meet requests packages
  reading : result.1.reading = reading
  rests : result.1.Rests
  opened : result.1.closed = false

/-- What one of the queues has, the other one has not. -/
def Package.Apart (package : Package) : Prop :=
  package.request.contents = [] ∨ package.response.contents = []

theorem Served.apart {requests : List Request} {packages : List Bytes} {reading : Reading}
    {result : Package × List Sent} (served : Served requests packages reading result) :
    result.1.Apart := by
  have apart := meet_apart requests packages
  rwa [← served.met] at apart

namespace Package

theorem respond_eq (package : Package) :
    (package.respond.2, package.respond.1.request.contents, package.respond.1.response.contents) =
        meet package.request.contents package.response.contents ∧
      package.respond.1.reading = package.reading ∧
      package.respond.1.closed = package.closed := by
  fun_induction respond package with
  | case1 package req request resp response popped_resp popped next ih =>
      obtain ⟨met, reading, closed⟩ := ih
      rw [Queue.contents_of_pop popped, Queue.contents_of_pop popped_resp, meet, ← met]
      exact ⟨rfl, reading, closed⟩
  | case2 package alone =>
      refine ⟨?_, rfl, rfl⟩
      cases popped : package.request.pop with
      | none =>
          rw [Queue.contents_of_pop_none popped]
          rfl
      | some first =>
          cases popped_resp : package.response.pop with
          | none => rw [Queue.contents_of_pop_none popped_resp, meet_nil]
          | some other => exact (alone _ _ _ _ popped popped_resp).elim

end Package

theorem meet_of_apart {package : Package} (apart : package.Apart) :
    meet package.request.contents package.response.contents =
      ([], package.request.contents, package.response.contents) := by
  obtain none_asks | none_left := apart
  · rw [none_asks]
    rfl
  · rw [none_left, meet_nil]

def Event.requests : Event → List Request
  | .request asked => [asked]
  | _ => []

def Event.bytes : Event → Bytes
  | .data msg => msg
  | _ => []

variable {package : Package}

theorem served_step {event : Event} (opened : package.closed = false) (rests : package.Rests)
    (apart : package.Apart) :
    Served (package.request.contents ++ event.requests)
      (package.response.contents ++ (reader.run package.reading event.bytes).2)
      (reader.run package.reading event.bytes).1 (package.step event) := by
  cases event with
  | data msg =>
      obtain ⟨⟨outcome_eq, request, closed⟩, next_rests⟩ := package.reads_newMessage msg
      obtain ⟨met, reading, closed_eq⟩ := (package.newMessage msg).respond_eq
      unfold Package.Rests at rests next_rests
      simp only [Package.outcome, rests, next_rests, Machine.run, List.append_nil,
        List.nil_append] at outcome_eq
      obtain ⟨reading_eq, response_eq⟩ := Prod.ext_iff.mp outcome_eq
      dsimp only at reading_eq response_eq
      rw [request, response_eq] at met
      refine ⟨?_, reading.trans reading_eq, ?_, closed_eq.trans (closed.trans opened)⟩
      · simp only [Event.requests, Event.bytes, List.append_nil]
        exact met
      · rw [Package.step, Package.Rests, reading]
        exact next_rests
  | request asked =>
      rw [Package.step, if_neg (by rw [opened]; exact Bool.false_ne_true)]
      split
      next resp rest popped =>
        have left := Queue.contents_of_pop popped
        have none_asks : package.request.contents = [] := by
          refine apart.resolve_right ?_
          rw [left]
          exact List.cons_ne_nil _ _
        rw [if_pos (Queue.head_eq_tail none_asks)]
        refine ⟨?_, rfl, rests, opened⟩
        simp only [Event.requests, Event.bytes, Machine.run, left, none_asks, List.append_nil,
          List.nil_append]
        rfl
      next popped =>
        refine ⟨?_, rfl, rests, opened⟩
        simp only [Event.requests, Event.bytes, Machine.run, Queue.contents_of_pop_none popped,
          Queue.contents_push, List.append_nil, meet_nil]

theorem served_run (opened : package.closed = false) (rests : package.Rests)
    (apart : package.Apart) (events : List Event) :
    Served (package.request.contents ++ events.flatMap Event.requests)
      (package.response.contents ++ (reader.run package.reading (events.flatMap Event.bytes)).2)
      (reader.run package.reading (events.flatMap Event.bytes)).1 (service.run package events) := by
  induction events generalizing package with
  | nil =>
      refine ⟨?_, rfl, rests, opened⟩
      simp only [List.flatMap_nil, Machine.run, List.append_nil, meet_of_apart apart]
  | cons event events ih =>
      obtain ⟨met, reading, rests, opened⟩ := served_step opened rests apart
      obtain ⟨rest_met, rest_reading, rest_rests, rest_opened⟩ :=
        ih opened rests (Served.apart ⟨met, reading, rests, opened⟩)
      rw [reading] at rest_met rest_reading
      refine ⟨?_, ?_, rest_rests, rest_opened⟩
      · rw [List.flatMap_cons, List.flatMap_cons, reader.run_append, ← List.append_assoc,
          ← List.append_assoc, meet_append, ← met]
        dsimp only
        rw [← rest_met]
        rfl
      · rw [List.flatMap_cons, reader.run_append]
        exact rest_reading

/-- In whatever pieces the bytes come, and whenever requests do, each request is answered with the
next package of the stream; when the socket is closed, those that wait are refused. -/
theorem answered_run (events : List Event) :
    let (sent, waiting, _) := meet (events.flatMap Event.requests)
      (reader.run .start (events.flatMap Event.bytes)).2
    (service.run .create events).2 = sent ∧
      (service.run .create events).1.close.2 = waiting.map .error ++ [.closed] := by
  have rests : Package.create.Rests := rfl
  have served := served_run rfl rests (.inl rfl) events
  have apart := served.apart
  obtain ⟨met, -, -, -⟩ := served
  obtain ⟨close_met, -, -⟩ := (service.run .create events).1.respond_eq
  obtain ⟨drained, -⟩ := (service.run .create events).1.respond.1.request.drain_eq
  rw [meet_of_apart apart] at close_met
  obtain ⟨nothing, left⟩ := Prod.mk.inj close_met
  change _ = meet (events.flatMap Event.requests)
    (reader.run .start (events.flatMap Event.bytes)).2 at met
  rw [← met]
  refine ⟨rfl, ?_⟩
  simp only [Package.close, nothing, drained, (Prod.mk.inj left).1, List.nil_append]

/-- A package as it is sent; one that is too long is not. -/
def sendOut (msg : Bytes) : Bytes :=
  if 0xffff < msg.length then []
  else .ofNat ((msg.length &&& 0xff00) >>> 8) :: .ofNat (msg.length &&& 0xff) :: msg

theorem run_sendOut (msg : Bytes) :
    reader.run .start (sendOut msg) = (.start, [msg].filter (·.length ≤ 0xffff)) := by
  unfold sendOut
  split
  next long =>
    rw [List.filter_cons_of_neg (by simpa using long)]
    rfl
  next fits =>
    have size_eq : headerSize (.ofNat ((msg.length &&& 0xff00) >>> 8))
        (.ofNat (msg.length &&& 0xff)) = msg.length := by
      have high : (msg.length &&& 0xff00) >>> 8 = msg.length / 2 ^ 8 % 2 ^ 8 := by
        rw [Nat.shiftRight_and_distrib, Nat.shiftRight_eq_div_pow]
        exact Nat.and_two_pow_sub_one_eq_mod _ 8
      have low : msg.length &&& 0xff = msg.length % 2 ^ 8 := Nat.and_two_pow_sub_one_eq_mod _ 8
      rw [headerSize, high, low, UInt8.toNat_ofNat', UInt8.toNat_ofNat']
      omega
    rw [List.filter_cons_of_pos (by simpa using fits)]
    change reader.run (.header _) (_ :: msg) = _
    rw [run_header, size_eq]
    cases msg with
    | nil => rfl
    | cons byte rest =>
        have whole := run_uncomplete (Nat.succ_pos rest.length)
          (Nat.le_refl (byte :: rest).length) []
        rw [List.length_cons, Nat.sub_self] at whole
        simp only [List.length_cons, Reading.finish, whole]
        rfl

/-- What was sent is read, and nothing of it is wrong while some of it is missing. -/
theorem read_sendOut (msgs : List Bytes) :
    reader.run .start (msgs.flatMap sendOut) = (.start, msgs.filter (·.length ≤ 0xffff)) ∧
      ∀ count, (reader.run .start ((msgs.flatMap sendOut).take count)).2 <+:
        msgs.filter (·.length ≤ 0xffff) := by
  have whole : reader.run .start (msgs.flatMap sendOut) =
      (.start, msgs.filter (·.length ≤ 0xffff)) := by
    induction msgs with
    | nil => rfl
    | cons msg msgs ih =>
        rw [List.flatMap_cons, reader.run_append, run_sendOut, ih, ← List.filter_append]
        rfl
  refine ⟨whole, fun count => ?_⟩
  have cut := reader.run_append .start ((msgs.flatMap sendOut).take count)
    ((msgs.flatMap sendOut).drop count)
  rw [List.take_append_drop, whole] at cut
  exact ⟨_, (congrArg Prod.snd cut).symm⟩

end BasWar.SocketPackage
