import BasWar.Cooperative.Pool
import BasWar.Tables.Thresholds
import Mathlib.Algebra.Order.Ring.Int
import Mathlib.Logic.Function.Basic
import Mathlib.Tactic.Linarith

/-!
# Donations of items to a union

A member gives artifacts for experience of the union and contribution of its own.  The items are
counted before the union is called and are taken when it has answered.  Donations of one stack that
wait at the same time count the same items, so the union is paid with items that are gone.
-/

namespace BasWar.DaoDonations

open Cooperative Tables

inductive EffectType
  | unionExp
  | unionContri
  | other

structure EffectCfg where
  effectType : EffectType
  value : ℕ

structure ItemCfg where
  /-- The type is `ITEM_ARTIFACT`. -/
  artifact : Bool
  effect : List ℕ

structure Cfgs where
  item : ℕ → Option ItemCfg
  itemEffect : ℕ → Option EffectCfg
  /-- `levelUpNeedExp` of the levels from 1 on. -/
  daoLevel : List ℤ

def addGain (cfgs : Cfgs) (count : ℤ) (gains : ℤ × ℤ) (v : ℕ) : ℤ × ℤ :=
  match cfgs.itemEffect v with
  | some ⟨.unionExp, value⟩ => (value * count, gains.2)
  | some ⟨.unionContri, value⟩ => (gains.1, value * count)
  | _ => gains

/-- Experience and contribution for some items; the last effect of a type counts. -/
def ItemCfg.gains (cfgs : Cfgs) (cfg : ItemCfg) (count : ℤ) : ℤ × ℤ :=
  cfg.effect.foldl (addGain cfgs count) (0, 0)

structure Item where
  cfgId : ℕ
  num : ℤ

structure Union where
  unionLevel : ℕ
  exp : ℤ
  members : List ℕ
  contriDegree : ℕ → ℤ

structure Donation where
  pid : ℕ
  id : ℕ
  cfgId : ℕ
  count : ℤ

/-- What the union is called with. -/
def Donation.gains (cfgs : Cfgs) (donation : Donation) : ℤ × ℤ :=
  match cfgs.item donation.cfgId with
  | none => (0, 0)
  | some cfg => cfg.gains cfgs donation.count

namespace Union

def addContriDegree (pid : ℕ) (val : ℤ) (union : Union) : Union :=
  if pid ∈ union.members then
    { union with
      contriDegree := Function.update union.contriDegree pid (union.contriDegree pid + val) }
  else union

/-- Nothing is returned at the highest level. -/
def donateDaoItem (cfgs : Cfgs) (donation : Donation) (union : Union) : Option Union :=
  if cfgs.daoLevel.length ≤ union.unionLevel then none
  else
    let (exp, contriDegree) := donation.gains cfgs
    let union := union.addContriDegree donation.pid contriDegree
    some { union with
      exp := union.exp + exp
      unionLevel := union.unionLevel +
        climb (union.exp + exp) (cfgs.daoLevel.drop (union.unionLevel - 1)) }

end Union

/-- The union, the players that take themselves for its members, their stacks, and what has been
taken from these. -/
structure State where
  union : Union
  joined : ℕ → Bool
  stack : ℕ → ℕ → Option Item
  removed : List Donation

/-- The stack after `costItemNum`, which raises when there is too little in it. -/
def State.costItemNum (donation : Donation) (state : State) : State :=
  match state.stack donation.pid donation.id with
  | none => state
  | some item =>
      let num := item.num - donation.count
      if num < 0 then state
      else
        { state with
          stack := fun pid id =>
            if pid = donation.pid ∧ id = donation.id then
              if num ≤ 0 then none else some { item with num }
            else state.stack pid id
          removed := donation :: state.removed }

/-- A donation that waits for the union, which may have made its part of it. -/
structure Task where
  donation : Donation
  handled : Bool

inductive Request
  | donateDaoItem (pid id : ℕ) (count : ℤ)

inductive Reply
  /-- The union has its turn. -/
  | handle
  /-- The union does not get to it. -/
  | refused
  | deliver
  | raise

def accept (cfgs : Cfgs) : Request → State → State × List Task
  | .donateDaoItem pid id count, state =>
      if count ≤ 0 ∨ state.joined pid = false then (state, [])
      else match state.stack pid id with
        | none => (state, [])
        | some item =>
            if item.num < count then (state, [])
            else match cfgs.item item.cfgId with
              | none => (state, [])
              | some cfg =>
                  let (exp, contriDegree) := cfg.gains cfgs count
                  if cfg.artifact = false ∨ exp = 0 ∨ contriDegree = 0 then (state, [])
                  else (state, [⟨⟨pid, id, item.cfgId, count⟩, false⟩])

def resume (cfgs : Cfgs) (task : Task) (reply : Reply) (state : State) : State × List Task :=
  match task.handled, reply with
  | false, .handle =>
      match state.union.donateDaoItem cfgs task.donation with
      | none => (state, [])
      | some union => ({ state with union }, [{ task with handled := true }])
  | false, .refused | _, .raise => (state, [])
  | true, .deliver => (state.costItemNum task.donation, [])
  | _, _ => (state, [task])

def service (cfgs : Cfgs) : Service State Request Task Reply where
  accept := accept cfgs
  resume := resume cfgs

/-- The union knows the donor when it has its turn, its answer is not lost, and the stack still has
the items then. -/
def covered (cfgs : Cfgs) : Guard State Request Task Reply where
  onRequest _ _ _ := True
  onReply task reply state _ :=
    match task.handled, reply with
    | false, .handle => state.union.unionLevel < cfgs.daoLevel.length →
        task.donation.pid ∈ state.union.members
    | true, .deliver => ∃ item ∈ state.stack task.donation.pid task.donation.id,
        task.donation.count ≤ item.num
    | true, .raise => False
    | _, _ => True

instance (cfgs : Cfgs) (request state others) :
    Decidable ((covered cfgs).onRequest request state others) :=
  inferInstanceAs (Decidable True)

instance (cfgs : Cfgs) (task reply state others) :
    Decidable ((covered cfgs).onReply task reply state others) := by
  unfold covered
  dsimp only
  split <;> infer_instance

def State.num (state : State) (pid id : ℕ) : ℤ :=
  (state.stack pid id).elim 0 Item.num

/-- The experience and the contribution for one item. -/
def Cfgs.effect (cfgs : Cfgs) (cfgId : ℕ) : ℤ × ℤ :=
  Donation.gains cfgs ⟨0, 0, cfgId, 1⟩

def due (weigh : Donation → ℤ) (config : Config State Task) : ℤ :=
  (config.state.removed.map weigh).sum +
    (config.waiting.map fun task => if task.handled then weigh task.donation else 0).sum

/-- The level is the one that the experience reaches from the first level on. -/
def Union.Levelled (cfgs : Cfgs) (union : Union) : Prop :=
  union.unionLevel = 1 + climb union.exp cfgs.daoLevel
  deriving Decidable

def expOf (cfgs : Cfgs) (donation : Donation) : ℤ :=
  (cfgs.effect donation.cfgId).1 * donation.count

def contriOf (cfgs : Cfgs) (pid : ℕ) (donation : Donation) : ℤ :=
  if donation.pid = pid then (cfgs.effect donation.cfgId).2 * donation.count else 0

def countOf (pid id : ℕ) (donation : Donation) : ℤ :=
  if donation.pid = pid ∧ donation.id = id then donation.count else 0

/-- What the union and the donors gained is the effect of the items that were taken, or that are
about to be, and the level is that of the experience. -/
structure Counted (cfgs : Cfgs) (start : State) (config : Config State Task) : Prop where
  exp : config.state.union.exp = start.union.exp + due (expOf cfgs) config
  contri : ∀ pid, config.state.union.contriDegree pid =
    start.union.contriDegree pid + due (contriOf cfgs pid) config
  taken : ∀ pid id, start.num pid id =
    config.state.num pid id + (config.state.removed.map (countOf pid id)).sum
  levelled : config.state.union.Levelled cfgs

section Steps

variable {cfgs : Cfgs} {state : State} {donation : Donation} {union after : Union}

theorem addGain_scaled (cfgs : Cfgs) (count : ℤ) (gains : ℤ × ℤ) (v : ℕ) :
    addGain cfgs count (gains.1 * count, gains.2 * count) v =
      ((addGain cfgs 1 gains v).1 * count, (addGain cfgs 1 gains v).2 * count) := by
  unfold addGain
  rcases cfgs.itemEffect v with _ | ⟨_ | _ | _, value⟩ <;> simp

theorem addGain_nonneg (cfgs : Cfgs) {gains : ℤ × ℤ} (nonneg : 0 ≤ gains.1) (v : ℕ) :
    0 ≤ (addGain cfgs 1 gains v).1 := by
  unfold addGain
  rcases cfgs.itemEffect v with _ | ⟨_ | _ | _, value⟩ <;> simp [nonneg]

theorem gains_eq (cfgs : Cfgs) (donation : Donation) :
    donation.gains cfgs = ((cfgs.effect donation.cfgId).1 * donation.count,
      (cfgs.effect donation.cfgId).2 * donation.count) := by
  unfold Cfgs.effect Donation.gains
  cases cfgs.item donation.cfgId with
  | none => simp
  | some cfg =>
      have scaled : ∀ gains : ℤ × ℤ, cfg.effect.foldl (addGain cfgs donation.count)
          (gains.1 * donation.count, gains.2 * donation.count) =
          ((cfg.effect.foldl (addGain cfgs 1) gains).1 * donation.count,
            (cfg.effect.foldl (addGain cfgs 1) gains).2 * donation.count) := by
        induction cfg.effect with
        | nil => exact fun _ => rfl
        | cons v rest ih =>
            intro gains
            rw [List.foldl_cons, List.foldl_cons, addGain_scaled, ih]
      simpa [ItemCfg.gains] using scaled (0, 0)

theorem exp_nonneg (cfgs : Cfgs) (nonneg : 0 ≤ donation.count) : 0 ≤ expOf cfgs donation := by
  refine mul_nonneg ?_ nonneg
  unfold Cfgs.effect Donation.gains
  cases cfgs.item donation.cfgId with
  | none => exact le_rfl
  | some cfg =>
      have kept : ∀ gains : ℤ × ℤ, 0 ≤ gains.1 →
          0 ≤ (cfg.effect.foldl (addGain cfgs 1) gains).1 := by
        induction cfg.effect with
        | nil => exact fun _ start => start
        | cons v rest ih => exact fun gains start => ih _ (addGain_nonneg cfgs start v)
      exact kept (0, 0) le_rfl

theorem donateDaoItem_some (donated : union.donateDaoItem cfgs donation = some after) :
    union.unionLevel < cfgs.daoLevel.length ∧
    after.exp = union.exp + expOf cfgs donation ∧
    after.unionLevel = union.unionLevel +
      climb after.exp (cfgs.daoLevel.drop (union.unionLevel - 1)) ∧
    (donation.pid ∈ union.members → ∀ pid, after.contriDegree pid =
      union.contriDegree pid + contriOf cfgs pid donation) := by
  unfold Union.donateDaoItem at donated
  split at donated
  · contradiction
  next below =>
    rw [gains_eq] at donated
    obtain rfl := Option.some.inj donated
    have exp_same (pid : ℕ) (val : ℤ) : (union.addContriDegree pid val).exp = union.exp := by
      unfold Union.addContriDegree
      split <;> rfl
    have level_same (pid : ℕ) (val : ℤ) :
        (union.addContriDegree pid val).unionLevel = union.unionLevel := by
      unfold Union.addContriDegree
      split <;> rfl
    refine ⟨not_le.mp below, by rw [expOf, exp_same], by rw [level_same], fun member pid => ?_⟩
    dsimp only
    rw [Union.addContriDegree, if_pos member, contriOf]
    by_cases same : donation.pid = pid
    · subst same
      simp
    · simp [same, Function.update_of_ne (Ne.symm same)]

theorem levelled_donateDaoItem (levelled : union.Levelled cfgs) (nonneg : 0 ≤ donation.count)
    (donated : union.donateDaoItem cfgs donation = some after) : after.Levelled cfgs := by
  obtain ⟨-, exp_eq, level_eq, -⟩ := donateDaoItem_some donated
  have le : union.exp ≤ after.exp := by
    rw [exp_eq]
    exact le_add_of_nonneg_right (exp_nonneg cfgs nonneg)
  rw [Union.Levelled, level_eq, levelled, Nat.add_sub_cancel_left, Nat.add_assoc, climb_add le]

theorem accept_cases (cfgs : Cfgs) (request : Request) (state : State) :
    accept cfgs request state = (state, []) ∨
      ∃ donation, 0 ≤ donation.count ∧
        accept cfgs request state = (state, [⟨donation, false⟩]) := by
  obtain ⟨pid, id, count⟩ := request
  unfold accept
  dsimp only
  split
  · exact .inl rfl
  next asked =>
    split
    · exact .inl rfl
    split
    · exact .inl rfl
    split
    · exact .inl rfl
    split
    · exact .inl rfl
    · exact .inr ⟨_, (not_le.mp (not_or.mp asked).1).le, rfl⟩

theorem costItemNum_of_enough {item : Item}
    (found : state.stack donation.pid donation.id = some item)
    (enough : donation.count ≤ item.num) :
    (state.costItemNum donation).union = state.union ∧
      (state.costItemNum donation).removed = donation :: state.removed := by
  rw [State.costItemNum, found]
  dsimp only
  rw [if_neg (by omega)]
  exact ⟨rfl, rfl⟩

theorem resume_cases {task : Task} {reply : Reply} {others : List Task}
    (allows : (covered cfgs).onReply task reply state others) :
    task.handled = false ∧ resume cfgs task reply state = (state, []) ∨
    resume cfgs task reply state = (state, [task]) ∨
    (task.handled = false ∧ ∃ after, state.union.donateDaoItem cfgs task.donation = some after ∧
      task.donation.pid ∈ state.union.members ∧
      resume cfgs task reply state = ({ state with union := after }, [⟨task.donation, true⟩])) ∨
    (task.handled = true ∧ ∃ item, state.stack task.donation.pid task.donation.id = some item ∧
      task.donation.count ≤ item.num ∧
      resume cfgs task reply state = (state.costItemNum task.donation, [])) := by
  obtain ⟨donation, handled⟩ := task
  cases handled with
  | false =>
      cases reply with
      | handle =>
          cases donated : state.union.donateDaoItem cfgs donation with
          | none => exact .inl ⟨rfl, by simp [resume, donated]⟩
          | some after =>
              exact .inr (.inr (.inl ⟨rfl, after, rfl, allows (donateDaoItem_some donated).1,
                by simp [resume, donated]⟩))
      | deliver => exact .inr (.inl rfl)
      | refused | raise => exact .inl ⟨rfl, rfl⟩
  | true =>
      cases reply with
      | deliver =>
          obtain ⟨item, found, enough⟩ := allows
          exact .inr (.inr (.inr ⟨rfl, item, found, enough, rfl⟩))
      | raise => exact allows.elim
      | handle | refused => exact .inr (.inl rfl)

theorem num_costItemNum {item : Item}
    (found : state.stack donation.pid donation.id = some item) (enough : donation.count ≤ item.num)
    (pid id : ℕ) :
    (state.costItemNum donation).num pid id + countOf pid id donation = state.num pid id := by
  rw [State.costItemNum, found]
  dsimp only
  rw [if_neg (by omega)]
  unfold State.num countOf
  dsimp only
  by_cases here : donation.pid = pid ∧ donation.id = id
  · obtain ⟨rfl, rfl⟩ := here
    simp only [and_self, if_true, found, Option.elim_some]
    split
    · rw [Option.elim_none]
      omega
    · exact sub_add_cancel _ _
  · rw [if_neg fun both => here ⟨both.1.symm, both.2.symm⟩, if_neg here, add_zero]

end Steps

section Runs

variable {cfgs : Cfgs} {start : State} {events : List (Event Request Reply)}

/-- The union is at the level of its experience, and what waits is for some items. -/
def donationPool (cfgs : Cfgs) : Pool State Task where
  shared state := state.union.Levelled cfgs
  own _ task := 0 ≤ task.donation.count
  apart _ _ := True
  apart_symm apart := apart

theorem donationPool_kept (cfgs : Cfgs) :
    (donationPool cfgs).KeptBy (service cfgs) (covered cfgs) where
  accept request state others holds _ := by
    change (donationPool cfgs).Keeps others (accept cfgs request state)
    obtain accept_eq | ⟨donation, nonneg, accept_eq⟩ := accept_cases cfgs request state
    · rw [accept_eq]
      exact .ended holds
    · rw [accept_eq]
      exact ⟨holds.shared, holds.own, List.forall_mem_singleton.mpr nonneg,
        fun _ _ _ _ => trivial, List.pairwise_singleton _ _⟩
  resume task reply state others holds nonneg _ allows := by
    change (donationPool cfgs).Keeps others (resume cfgs task reply state)
    obtain ⟨-, resume_eq⟩ | resume_eq | ⟨-, after, donated, -, resume_eq⟩ |
      ⟨-, item, found, enough, resume_eq⟩ := resume_cases allows
    · rw [resume_eq]
      exact .ended holds
    · rw [resume_eq]
      exact .unchanged holds nonneg fun _ _ => trivial
    · rw [resume_eq]
      exact ⟨levelled_donateDaoItem holds.shared nonneg donated, holds.own,
        List.forall_mem_singleton.mpr nonneg, fun _ _ _ _ => trivial, List.pairwise_singleton _ _⟩
    · rw [resume_eq]
      refine ⟨?_, holds.own, by simp, by simp, .nil⟩
      change (state.costItemNum task.donation).union.Levelled cfgs
      rw [(costItemNum_of_enough found enough).1]
      exact holds.shared

/-- What the union has, less what was taken for it; what still will be is owed by the tasks. -/
def paidLedger (gained : Union → ℤ) (weigh : Donation → ℤ) : Ledger State Task ℤ where
  book state := gained state.union - (state.removed.map weigh).sum
  carry task := -if task.handled then weigh task.donation else 0

/-- What every donation adds to the union is what was taken for it, or what is due. -/
theorem gained_run {gained : Union → ℤ} {weigh : Donation → ℤ}
    (grows : ∀ union donation after, donation.pid ∈ union.members →
      union.donateDaoItem cfgs donation = some after → gained after = gained union + weigh donation)
    (fresh : start.removed = [])
    (admits : (covered cfgs).Admits (service cfgs) ⟨start, []⟩ events) :
    gained ((service cfgs).run ⟨start, []⟩ events).state.union =
      gained start.union + due weigh ((service cfgs).run ⟨start, []⟩ events) := by
  have accepts (request : Request) (state : State) :
      (paidLedger gained weigh).Balances state 0 (accept cfgs request state) := by
    obtain accept_eq | ⟨donation, -, accept_eq⟩ := accept_cases cfgs request state <;>
      simp [accept_eq, Ledger.Balances, paidLedger]
  have resumes (task : Task) (reply : Reply) (state : State) (others : List Task)
      (allows : (covered cfgs).onReply task reply state others) :
      (paidLedger gained weigh).Balances state ((paidLedger gained weigh).carry task)
        (resume cfgs task reply state) := by
    unfold Ledger.Balances
    obtain ⟨unhandled, resume_eq⟩ | resume_eq | ⟨unhandled, after, donated, member, resume_eq⟩ |
      ⟨handled, item, found, enough, resume_eq⟩ := resume_cases allows
    · simp [resume_eq, paidLedger, unhandled]
    · simp [resume_eq]
    · have grown := grows _ _ _ member donated
      simp only [resume_eq, paidLedger, unhandled, List.map_cons, List.map_nil, List.sum_cons,
        List.sum_nil, if_true, Bool.false_eq_true, if_false]
      linarith
    · obtain ⟨union_eq, removed_eq⟩ := costItemNum_of_enough found enough
      simp only [resume_eq, paidLedger, handled, union_eq, removed_eq, List.map_cons,
        List.map_nil, List.sum_cons, List.sum_nil, if_true]
      linarith
  have total := (paidLedger gained weigh).total_run_of_balances
    (fun request state _ _ => accepts request state) resumes admits
  have owed (tasks : List Task) : (tasks.map (paidLedger gained weigh).carry).sum =
      -(tasks.map fun task => if task.handled then weigh task.donation else 0).sum := by
    rw [List.sum_neg, List.map_map]
    rfl
  rw [Ledger.total, Ledger.total, owed, owed] at total
  simp only [paidLedger, fresh, List.map_nil, List.sum_nil] at total
  unfold due
  linarith

/-- A stack has what it had, less what was taken from it. -/
def stackLedger (pid id : ℕ) : Ledger State Task ℤ where
  book state := state.num pid id + (state.removed.map (countOf pid id)).sum
  carry _ := 0

theorem taken_run (fresh : start.removed = [])
    (admits : (covered cfgs).Admits (service cfgs) ⟨start, []⟩ events) (pid id : ℕ) :
    start.num pid id = ((service cfgs).run ⟨start, []⟩ events).state.num pid id +
      (((service cfgs).run ⟨start, []⟩ events).state.removed.map (countOf pid id)).sum := by
  have accepts (request : Request) (state : State) :
      (stackLedger pid id).Balances state 0 (accept cfgs request state) := by
    obtain accept_eq | ⟨donation, -, accept_eq⟩ := accept_cases cfgs request state <;>
      simp [accept_eq, Ledger.Balances, stackLedger]
  have resumes (task : Task) (reply : Reply) (state : State) (others : List Task)
      (allows : (covered cfgs).onReply task reply state others) :
      (stackLedger pid id).Balances state 0 (resume cfgs task reply state) := by
    unfold Ledger.Balances
    obtain ⟨-, resume_eq⟩ | resume_eq | ⟨-, after, -, -, resume_eq⟩ |
      ⟨-, item, found, enough, resume_eq⟩ := resume_cases allows
    · simp [resume_eq]
    · simp [resume_eq, stackLedger]
    · simp [resume_eq, stackLedger, State.num]
    · rw [resume_eq]
      simp only [stackLedger, (costItemNum_of_enough found enough).2, List.map_cons,
        List.sum_cons, List.map_nil, List.sum_nil, add_zero, ← add_assoc,
        num_costItemNum found enough]
  have total := (stackLedger pid id).total_run_of_balances
    (fun request state _ _ => accepts request state) resumes admits
  simpa [Ledger.total, stackLedger, fresh] using total.symm

/-- While the donors are members, no answer is lost and the stacks still have what the union was
told, all that was gained is the effect of what was taken, however it was split. -/
theorem counted_run (cfgs : Cfgs) (start : State) (events : List (Event Request Reply))
    (levelled : start.union.Levelled cfgs) (fresh : start.removed = [])
    (admits : (covered cfgs).Admits (service cfgs) ⟨start, []⟩ events) :
    Counted cfgs start ((service cfgs).run ⟨start, []⟩ events) where
  exp := by
    refine gained_run (fun union donation after _ donated => ?_) fresh admits
    exact (donateDaoItem_some donated).2.1
  contri pid := by
    have grows (union : Union) (donation : Donation) (after : Union)
        (member : donation.pid ∈ union.members)
        (donated : union.donateDaoItem cfgs donation = some after) :
        after.contriDegree pid = union.contriDegree pid + contriOf cfgs pid donation :=
      (donateDaoItem_some donated).2.2.2 member pid
    exact gained_run grows fresh admits
  taken := taken_run fresh admits
  levelled := ((donationPool_kept cfgs).holds_run admits
    ⟨levelled, fun _ mem => absurd mem List.not_mem_nil, .nil⟩).shared

/-- Effects 1 and 2 of item 5 are 100 experience and 10 contribution. -/
def sampleCfgs : Cfgs where
  item _ := some ⟨true, [1, 2]⟩
  itemEffect
    | 1 => some ⟨.unionExp, 100⟩
    | 2 => some ⟨.unionContri, 10⟩
    | _ => none
  daoLevel := [100, 200, 400, 700, 1100, 1600, 2200]

def sampleState : State where
  union := ⟨1, 0, [7, 8], fun _ => 0⟩
  joined _ := true
  stack _ _ := some ⟨5, 3⟩
  removed := []

theorem counted_sampleRun : Counted sampleCfgs sampleState ((service sampleCfgs).run
    ⟨sampleState, []⟩ [.request (.donateDaoItem 7 1 1), .request (.donateDaoItem 8 1 3),
      .reply 0 .handle, .reply 0 .handle, .reply 0 .deliver, .reply 0 .deliver]) :=
  counted_run sampleCfgs sampleState _ (by decide) rfl (by decide)

/-- Two requests for one stack pay the union twice. -/
theorem not_counted_twice : ¬ Counted sampleCfgs sampleState ((service sampleCfgs).run
    ⟨sampleState, []⟩ [.request (.donateDaoItem 7 1 2), .request (.donateDaoItem 7 1 2),
      .reply 0 .handle, .reply 0 .handle, .reply 0 .deliver, .reply 0 .deliver]) :=
  fun counted => absurd counted.exp (by decide)

end Runs

end BasWar.DaoDonations
