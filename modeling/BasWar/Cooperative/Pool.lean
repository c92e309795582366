import BasWar.Cooperative.Service
import Mathlib.Algebra.BigOperators.Group.List.Basic
import Mathlib.Algebra.Order.Monoid.Defs
import Mathlib.Tactic.Abel

/-!
# Invariants of a pool of suspended tasks

An invariant of a cooperative service has three parts: what holds of the shared state, what each
suspended task still knows about that state, and how any two suspended tasks are kept apart.  It
holds over every schedule as soon as one segment keeps it.  A standing condition speaks of all
suspended tasks at once.  A ledger adds what the state has booked to what the suspended tasks still
carry; the sum is unchanged over every schedule whose segments balance.
-/

namespace Cooperative

universe u v w x y

variable {State : Type u} {Request : Type v} {Task : Type w} {Reply : Type x}

/-- An invariant of the shared state, of each suspended task and of each pair of them. -/
structure Pool (State : Type u) (Task : Type w) where
  /-- What holds of the shared state. -/
  shared : State → Prop
  /-- What a suspended task knows about the shared state. -/
  own : State → Task → Prop
  /-- How two suspended tasks are kept apart. -/
  apart : Task → Task → Prop
  /-- Being apart does not depend on the order of the two tasks. -/
  apart_symm : ∀ {first second}, apart first second → apart second first

namespace Pool

/-- The invariant in one configuration. -/
structure Holds (pool : Pool State Task) (config : Config State Task) : Prop where
  shared : pool.shared config.state
  own : ∀ task ∈ config.waiting, pool.own config.state task
  apart : config.waiting.Pairwise pool.apart

/-- A segment that ran while `others` were suspended leaves the invariant in place. -/
structure Keeps (pool : Pool State Task) (others : List Task) (result : State × List Task) :
    Prop where
  shared : pool.shared result.1
  stable : ∀ other ∈ others, pool.own result.1 other
  fresh : ∀ task ∈ result.2, pool.own result.1 task
  apart : ∀ other ∈ others, ∀ task ∈ result.2, pool.apart other task
  fresh_apart : result.2.Pairwise pool.apart

/-- Every admitted segment of the service leaves the invariant in place. -/
structure KeptBy (pool : Pool State Task) (service : Service State Request Task Reply)
    (guard : Guard State Request Task Reply) : Prop where
  accept : ∀ request state others, pool.Holds ⟨state, others⟩ →
    guard.onRequest request state others → pool.Keeps others (service.accept request state)
  resume : ∀ task reply state others, pool.Holds ⟨state, others⟩ → pool.own state task →
    (∀ other ∈ others, pool.apart task other) → guard.onReply task reply state others →
      pool.Keeps others (service.resume task reply state)

variable {state : State} {others : List Task}

theorem Keeps.settle {pool : Pool State Task} {result : State × List Task}
    (holds : pool.Holds ⟨state, others⟩) (keeps : pool.Keeps others result) :
    pool.Holds (.settle others result) where
  shared := keeps.shared
  own task task_mem := by
    rcases List.mem_append.mp task_mem with old | new
    · exact keeps.stable task old
    · exact keeps.fresh task new
  apart := List.pairwise_append.mpr ⟨holds.apart, keeps.fresh_apart, keeps.apart⟩

/-- A task that is suspended again without any effect. -/
theorem Keeps.unchanged {pool : Pool State Task} {task : Task} (holds : pool.Holds ⟨state, others⟩)
    (own : pool.own state task) (apart : ∀ other ∈ others, pool.apart task other) :
    pool.Keeps others (state, [task]) where
  shared := holds.shared
  stable := holds.own
  fresh := by simpa using own
  apart other other_mem := by simpa using pool.apart_symm (apart other other_mem)
  fresh_apart := List.pairwise_singleton _ _

/-- A task that ends without any effect. -/
theorem Keeps.ended {pool : Pool State Task} (holds : pool.Holds ⟨state, others⟩) :
    pool.Keeps others (state, []) where
  shared := holds.shared
  stable := holds.own
  fresh := by simp
  apart := by simp
  fresh_apart := .nil

/-- Setting one suspended task aside leaves the invariant of the others. -/
theorem Holds.split {pool : Pool State Task} {config : Config State Task}
    {before after : List Task} {task : Task} (holds : pool.Holds config)
    (waiting_eq : config.waiting = before ++ task :: after) :
    pool.Holds ⟨config.state, before ++ after⟩ ∧ pool.own config.state task ∧
      ∀ other ∈ before ++ after, pool.apart task other := by
  obtain ⟨shared, own, apart⟩ := holds
  rw [waiting_eq] at own apart
  have reordered : (task :: (before ++ after)).Pairwise pool.apart :=
    (List.Perm.pairwise_iff pool.apart_symm List.perm_middle).mp apart
  refine ⟨⟨shared, fun other other_mem => own other ?_, reordered.of_cons⟩,
    own task (by simp), fun _ => List.rel_of_pairwise_cons reordered⟩
  rcases List.mem_append.mp other_mem with left | right <;> simp [*]

variable {pool : Pool State Task} {service : Service State Request Task Reply}
  {guard : Guard State Request Task Reply}

theorem KeptBy.holds_step (kept : pool.KeptBy service guard) (config : Config State Task)
    (event : Event Request Reply) (holds : pool.Holds config)
    (allows : guard.Allows config event) : pool.Holds (service.step config event) := by
  rcases service.step_cases config event with
    ⟨request, rfl, step_eq⟩ | ⟨before, task, after, reply, rfl, waiting_eq, step_eq⟩ |
      ⟨index, reply, rfl, absent, step_eq⟩
  · rw [step_eq]
    exact (kept.accept request config.state config.waiting holds allows).settle holds
  · obtain ⟨others_hold, task_own, task_apart⟩ := holds.split waiting_eq
    rw [step_eq]
    exact (kept.resume task reply config.state (before ++ after) others_hold task_own task_apart
      (Guard.allows_reply waiting_eq allows)).settle others_hold
  · rwa [step_eq]

theorem KeptBy.holds_run (kept : pool.KeptBy service guard) {config : Config State Task}
    {events : List (Event Request Reply)} (admits : guard.Admits service config events)
    (start : pool.Holds config) : pool.Holds (service.run config events) :=
  Guard.run_keeps pool.Holds kept.holds_step admits start

/-- The invariant that asks for nothing. -/
def any : Pool State Task where
  shared _ := True
  own _ _ := True
  apart _ _ := True
  apart_symm apart := apart

theorem any_holds (config : Config State Task) : any.Holds config :=
  ⟨trivial, fun _ _ => trivial, List.pairwise_of_forall fun _ _ => trivial⟩

theorem any_kept (service : Service State Request Task Reply)
    (guard : Guard State Request Task Reply) : any.KeptBy service guard where
  accept _ _ _ _ _ := ⟨trivial, fun _ _ => trivial, fun _ _ => trivial, fun _ _ _ _ => trivial,
    List.pairwise_of_forall fun _ _ => trivial⟩
  resume _ _ _ _ _ _ _ _ := ⟨trivial, fun _ _ => trivial, fun _ _ => trivial,
    fun _ _ _ _ => trivial, List.pairwise_of_forall fun _ _ => trivial⟩

end Pool

/-- A segment leaves at most one task, which is apart from the rest of what it leaves. -/
theorem pairwise_of_single {apart : Task → Task → Prop} {tasks : List Task}
    (single : tasks.length ≤ 1) : tasks.Pairwise apart := by
  match tasks with
  | [] => exact .nil
  | [task] => exact List.pairwise_singleton _ _
  | _ :: _ :: _ => simp at single

/-- A condition on the state and all suspended tasks together, in any order. -/
structure Standing (State : Type u) (Task : Type w) where
  holds : State → List Task → Prop
  perm : ∀ {state first second}, first.Perm second → holds state first → holds state second

namespace Standing

/-- Every admitted segment that starts in the invariant of a pool leaves the condition in place. -/
structure KeptBy (standing : Standing State Task) (pool : Pool State Task)
    (service : Service State Request Task Reply) (guard : Guard State Request Task Reply) :
    Prop where
  accept : ∀ request state others, pool.Holds ⟨state, others⟩ → standing.holds state others →
    guard.onRequest request state others →
      standing.holds (service.accept request state).1 (others ++ (service.accept request state).2)
  resume : ∀ task reply state others, pool.Holds ⟨state, others⟩ → pool.own state task →
    (∀ other ∈ others, pool.apart task other) → standing.holds state (task :: others) →
      guard.onReply task reply state others →
        standing.holds (service.resume task reply state).1
          (others ++ (service.resume task reply state).2)

variable {standing : Standing State Task} {pool : Pool State Task}
  {service : Service State Request Task Reply} {guard : Guard State Request Task Reply}

/-- Both the invariant of the pool and the condition after a segment. -/
def Keeps (standing : Standing State Task) (pool : Pool State Task) (others : List Task)
    (result : State × List Task) : Prop :=
  pool.Keeps others result ∧ standing.holds result.1 (others ++ result.2)

/-- Every admitted segment that starts in both leaves both in place. -/
structure KeptWith (standing : Standing State Task) (pool : Pool State Task)
    (service : Service State Request Task Reply) (guard : Guard State Request Task Reply) :
    Prop where
  accept : ∀ request state others, pool.Holds ⟨state, others⟩ → standing.holds state others →
    guard.onRequest request state others →
      standing.Keeps pool others (service.accept request state)
  resume : ∀ task reply state others, pool.Holds ⟨state, others⟩ → pool.own state task →
    (∀ other ∈ others, pool.apart task other) → standing.holds state (task :: others) →
      guard.onReply task reply state others →
        standing.Keeps pool others (service.resume task reply state)

/-- One admitted step keeps an invariant and a condition that are kept together. -/
theorem KeptWith.holds_step (kept : standing.KeptWith pool service guard)
    (config : Config State Task) (event : Event Request Reply) (holds : pool.Holds config)
    (stands : standing.holds config.state config.waiting) (allows : guard.Allows config event) :
    pool.Holds (service.step config event) ∧
      standing.holds (service.step config event).state (service.step config event).waiting := by
  rcases service.step_cases config event with
    ⟨request, rfl, step_eq⟩ | ⟨before, task, after, reply, rfl, waiting_eq, step_eq⟩ |
      ⟨index, reply, rfl, absent, step_eq⟩
  · rw [step_eq]
    obtain ⟨keeps, stands_after⟩ :=
      kept.accept request config.state config.waiting holds stands allows
    exact ⟨keeps.settle holds, stands_after⟩
  · obtain ⟨others_hold, own, apart⟩ := holds.split waiting_eq
    rw [waiting_eq] at stands
    rw [step_eq]
    obtain ⟨keeps, stands_after⟩ := kept.resume task reply config.state (before ++ after)
      others_hold own apart (standing.perm List.perm_middle stands)
      (Guard.allows_reply waiting_eq allows)
    exact ⟨keeps.settle others_hold, stands_after⟩
  · rw [step_eq]
    exact ⟨holds, stands⟩

theorem KeptWith.holds_run (kept : standing.KeptWith pool service guard)
    {config : Config State Task} {events : List (Event Request Reply)}
    (admits : guard.Admits service config events)
    (start : pool.Holds config) (stands : standing.holds config.state config.waiting) :
    pool.Holds (service.run config events) ∧
      standing.holds (service.run config events).state (service.run config events).waiting := by
  refine Guard.run_keeps (fun current => pool.Holds current ∧
    standing.holds current.state current.waiting) ?_ admits ⟨start, stands⟩
  rintro current event ⟨holds, stands⟩ allows
  exact kept.holds_step current event holds stands allows

theorem KeptBy.holds_run (kept : standing.KeptBy pool service guard)
    (pool_kept : pool.KeptBy service guard) {config : Config State Task}
    {events : List (Event Request Reply)} (admits : guard.Admits service config events)
    (start : pool.Holds config) (stands : standing.holds config.state config.waiting) :
    pool.Holds (service.run config events) ∧
      standing.holds (service.run config events).state (service.run config events).waiting := by
  have both : standing.KeptWith pool service guard :=
    ⟨fun request state others holds stands allows =>
      ⟨pool_kept.accept request state others holds allows,
        kept.accept request state others holds stands allows⟩,
    fun task reply state others holds own apart stands allows =>
      ⟨pool_kept.resume task reply state others holds own apart allows,
        kept.resume task reply state others holds own apart stands allows⟩⟩
  exact both.holds_run admits start stands

end Standing

/-- What the state has booked and what a suspended task still carries. -/
structure Ledger (State : Type u) (Task : Type w) (Amount : Type y) where
  /-- Amount booked in the shared state. -/
  book : State → Amount
  /-- Amount carried by a suspended task. -/
  carry : Task → Amount

namespace Ledger

variable {Amount : Type y} [AddCommMonoid Amount]

/-- Everything booked or carried in a configuration. -/
def total (ledger : Ledger State Task Amount) (config : Config State Task) : Amount :=
  ledger.book config.state + (config.waiting.map ledger.carry).sum

/-- A segment of a task that carried `spent` moves amounts without making or losing any. -/
def Balances (ledger : Ledger State Task Amount) (state : State) (spent : Amount)
    (result : State × List Task) : Prop :=
  ledger.book result.1 + (result.2.map ledger.carry).sum = ledger.book state + spent

theorem total_settle (ledger : Ledger State Task Amount) (others : List Task)
    (result : State × List Task) :
    ledger.total (.settle others result) =
      ledger.book result.1 + (result.2.map ledger.carry).sum + (others.map ledger.carry).sum := by
  simp only [total, Config.settle_state, Config.settle_waiting, List.map_append, List.sum_append]
  abel

variable {config : Config State Task}

theorem total_split (ledger : Ledger State Task Amount) {before after : List Task} {task : Task}
    (waiting_eq : config.waiting = before ++ task :: after) :
    ledger.total config =
      ledger.book config.state + ledger.carry task +
        ((before ++ after).map ledger.carry).sum := by
  simp only [total, waiting_eq, List.map_append, List.map_cons, List.sum_append, List.sum_cons]
  abel

/-- Every admitted segment that starts in the invariant balances. -/
structure BalancedBy (ledger : Ledger State Task Amount) (pool : Pool State Task)
    (service : Service State Request Task Reply) (guard : Guard State Request Task Reply) :
    Prop where
  accept : ∀ request state others, pool.Holds ⟨state, others⟩ →
    guard.onRequest request state others →
      ledger.Balances state 0 (service.accept request state)
  resume : ∀ task reply state others, pool.Holds ⟨state, others⟩ → pool.own state task →
    (∀ other ∈ others, pool.apart task other) → guard.onReply task reply state others →
      ledger.Balances state (ledger.carry task) (service.resume task reply state)

variable {ledger : Ledger State Task Amount} {pool : Pool State Task}
  {service : Service State Request Task Reply} {guard : Guard State Request Task Reply}

/-- Totals are related along a schedule as the segments relate them. -/
theorem related_run {Related : Amount → Amount → Prop} (refl : ∀ amount, Related amount amount)
    (trans : ∀ {first second third}, Related first second → Related second third →
      Related first third)
    (add : ∀ {first second} (rest : Amount), Related first second →
      Related (first + rest) (second + rest))
    (accept : ∀ request state others, pool.Holds ⟨state, others⟩ →
      guard.onRequest request state others →
        Related (ledger.book (service.accept request state).1 +
          ((service.accept request state).2.map ledger.carry).sum) (ledger.book state))
    (resume : ∀ task reply state others, pool.Holds ⟨state, others⟩ → pool.own state task →
      (∀ other ∈ others, pool.apart task other) → guard.onReply task reply state others →
        Related (ledger.book (service.resume task reply state).1 +
          ((service.resume task reply state).2.map ledger.carry).sum)
          (ledger.book state + ledger.carry task))
    (kept : pool.KeptBy service guard) {events : List (Event Request Reply)}
    (admits : guard.Admits service config events) (start : pool.Holds config) :
    Related (ledger.total (service.run config events)) (ledger.total config) := by
  have both : pool.Holds (service.run config events) ∧
      Related (ledger.total (service.run config events)) (ledger.total config) := by
    refine Guard.run_keeps (fun current => pool.Holds current ∧
      Related (ledger.total current) (ledger.total config)) ?_ admits ⟨start, refl _⟩
    rintro current event ⟨holds, related⟩ allows
    refine ⟨kept.holds_step current event holds allows, trans ?_ related⟩
    rcases service.step_cases current event with
      ⟨request, rfl, step_eq⟩ | ⟨before, task, after, reply, rfl, waiting_eq, step_eq⟩ |
        ⟨index, reply, rfl, absent, step_eq⟩
    · rw [step_eq, total_settle]
      exact add _ (accept request current.state current.waiting holds allows)
    · obtain ⟨others_hold, task_own, task_apart⟩ := holds.split waiting_eq
      rw [step_eq, total_settle, ledger.total_split waiting_eq]
      exact add _ (resume task reply current.state (before ++ after) others_hold task_own
        task_apart (Guard.allows_reply waiting_eq allows))
    · rw [step_eq]
      exact refl _
  exact both.2

theorem BalancedBy.total_run (balanced : ledger.BalancedBy pool service guard)
    (kept : pool.KeptBy service guard) {events : List (Event Request Reply)}
    (admits : guard.Admits service config events) (start : pool.Holds config) :
    ledger.total (service.run config events) = ledger.total config :=
  related_run (fun _ => rfl) Eq.trans (fun rest same => congrArg (· + rest) same)
    (fun request state others holds allows =>
      (balanced.accept request state others holds allows).trans (add_zero _))
    balanced.resume kept admits start

/-- Without an invariant every admitted segment balances by itself. -/
theorem total_run_of_balances
    (accept : ∀ request state others, guard.onRequest request state others →
      ledger.Balances state 0 (service.accept request state))
    (resume : ∀ task reply state others, guard.onReply task reply state others →
      ledger.Balances state (ledger.carry task) (service.resume task reply state))
    {events : List (Event Request Reply)} (admits : guard.Admits service config events) :
    ledger.total (service.run config events) = ledger.total config := by
  have balanced : ledger.BalancedBy .any service guard :=
    ⟨fun request state others _ allows => accept request state others allows,
      fun task reply state others _ _ _ allows => resume task reply state others allows⟩
  exact balanced.total_run (Pool.any_kept service guard) admits (Pool.any_holds config)

section Falling

variable [PartialOrder Amount] [IsOrderedAddMonoid Amount]

/-- A segment of a task that carried `spent` makes no amounts, but may lose some. -/
def Falls (ledger : Ledger State Task Amount) (state : State) (spent : Amount)
    (result : State × List Task) : Prop :=
  ledger.book result.1 + (result.2.map ledger.carry).sum ≤ ledger.book state + spent

/-- Every admitted segment that starts in the invariant makes nothing. -/
structure FallingBy (ledger : Ledger State Task Amount) (pool : Pool State Task)
    (service : Service State Request Task Reply) (guard : Guard State Request Task Reply) :
    Prop where
  accept : ∀ request state others, pool.Holds ⟨state, others⟩ →
    guard.onRequest request state others → ledger.Falls state 0 (service.accept request state)
  resume : ∀ task reply state others, pool.Holds ⟨state, others⟩ → pool.own state task →
    (∀ other ∈ others, pool.apart task other) → guard.onReply task reply state others →
      ledger.Falls state (ledger.carry task) (service.resume task reply state)

variable {ledger : Ledger State Task Amount}

/-- No admitted schedule raises the total. -/
theorem FallingBy.total_run (falling : ledger.FallingBy pool service guard)
    (kept : pool.KeptBy service guard) {config : Config State Task}
    {events : List (Event Request Reply)} (admits : guard.Admits service config events)
    (start : pool.Holds config) :
    ledger.total (service.run config events) ≤ ledger.total config :=
  related_run le_refl le_trans (fun rest le => add_le_add_left le rest)
    (fun request state others holds allows =>
      (falling.accept request state others holds allows).trans (add_zero _).le)
    falling.resume kept admits start

end Falling

end Ledger

end Cooperative
