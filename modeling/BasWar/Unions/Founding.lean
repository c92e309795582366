import BasWar.Cooperative.Pool
import Mathlib.Data.List.Nodup
import Mathlib.Data.List.Perm.Basic
import Mathlib.Logic.Function.Basic

/-!
# Paying for a new union

A player who founds a union must have the price, but pays it only when the union service has founded
the union and tells the player so.  Until then the player may spend on other things, or found a
second union, and the union may get another president.
-/

namespace BasWar.Unions.Founding

open Cooperative

/-- What a union costs its founder. -/
structure Dues where
  unionId : ℕ
  pid : ℕ
  amount : ℕ
  deriving DecidableEq

/-- The one with `UNION_JOB_PRESIDENT`, who may be missing. -/
structure Union where
  presidentPid : Option ℕ

structure State where
  /-- `RES_TESSERACT` of each player. -/
  tesseract : ℕ → ℕ
  /-- `genUniqueId("unionId")`. -/
  unionSeq : ℕ
  unions : ℕ → Option Union
  unionNameToUnionId : String → Option ℕ
  pidToUnionId : ℕ → Option ℕ
  /-- Every union ever founded, with what it costs. -/
  founded : List Dues
  charges : List Dues

def State.empty (tesseract : ℕ → ℕ) : State :=
  ⟨tesseract, 0, fun _ => none, fun _ => none, fun _ => none, [], []⟩

namespace State

def getUnionByUnionName (state : State) (unionName : String) : Option Union :=
  (state.unionNameToUnionId unionName).bind state.unions

def getUnionByPlayerId (state : State) (playerId : ℕ) : Option Union :=
  (state.pidToUnionId playerId).bind state.unions

/-- The resource stops at zero. -/
def costRes (pid value : ℕ) (state : State) : State :=
  { state with tesseract := Function.update state.tesseract pid (state.tesseract pid - value) }

def addRes (pid value : ℕ) (state : State) : State :=
  { state with tesseract := Function.update state.tesseract pid (state.tesseract pid + value) }

/-- `genUnionId` -/
def unionId (state : State) : ℕ :=
  state.unionSeq + 1 + 100000

/-- The part of `doCreate` before its first call. -/
def doCreate (price pid : ℕ) (unionName : String) (state : State) : State :=
  { state with
    unionSeq := state.unionSeq + 1
    unions := Function.update state.unions state.unionId (some ⟨some pid⟩)
    pidToUnionId := Function.update state.pidToUnionId pid (some state.unionId)
    unionNameToUnionId := Function.update state.unionNameToUnionId unionName (some state.unionId)
    founded := state.founded ++ [⟨state.unionId, pid, price⟩] }

/-- The charge of `onUnionJoinSucc`. -/
def payUnion (price unionId pid : ℕ) (state : State) : State :=
  let next := if 0 < price then state.costRes pid price else state
  { next with
    charges := state.charges ++ [⟨unionId, pid, state.tesseract pid - next.tesseract pid⟩] }

end State

inductive Request
  /-- `valid` is the outcome of the checks on the data. -/
  | createUnion (pid : ℕ) (unionName : String) (valid : Bool)
  | costRes (pid value : ℕ)
  | addRes (pid value : ℕ)
  /-- A join or its answer; the lock of the union keeps the one who joins an ordinary member until
  they are told. -/
  | joinUnion (pid unionId : ℕ)
  | changeUnion (unionId : ℕ) (union : Option Union)
  | setPidToUnionId (pid : ℕ) (unionId : Option ℕ)
  | setUnionNameToUnionId (unionName : String) (unionId : Option ℕ)

/-- A handler at one of its calls, or a message on its way.  An answer `false` stands for a call
that fails, a message that gets lost and a player who has a union or may not join one yet. -/
inductive Task
  | getMyUnionId (pid : ℕ) (unionName : String)
  | createUnionMemberInfo (pid : ℕ) (unionName : String)
  | createUnion (pid : ℕ) (unionName : String)
  | genUnionId (pid : ℕ) (unionName : String)
  | updatePersonalGrids (unionId pid : ℕ)
  | onUnionJoinSucc (pid unionId : ℕ) (presidentPid : Option ℕ)

section Service

variable (price : ℕ)

def accept : Request → State → State × List Task
  | .createUnion pid unionName valid, state =>
      if price ≤ state.tesseract pid ∧ valid then (state, [.getMyUnionId pid unionName])
      else (state, [])
  | .costRes pid value, state => (state.costRes pid value, [])
  | .addRes pid value, state => (state.addRes pid value, [])
  | .joinUnion pid unionId, state =>
      match state.unions unionId with
      | none => (state, [])
      | some union =>
          if union.presidentPid = some pid then (state, [])
          else (state, [.onUnionJoinSucc pid unionId union.presidentPid])
  | .changeUnion unionId union, state =>
      ({ state with unions := Function.update state.unions unionId union }, [])
  | .setPidToUnionId pid unionId, state =>
      ({ state with pidToUnionId := Function.update state.pidToUnionId pid unionId }, [])
  | .setUnionNameToUnionId unionName unionId, state =>
      ({ state with
        unionNameToUnionId := Function.update state.unionNameToUnionId unionName unionId }, [])

def proceed : Task → State → State × List Task
  | .getMyUnionId pid unionName, state => (state, [.createUnionMemberInfo pid unionName])
  | .createUnionMemberInfo pid unionName, state => (state, [.createUnion pid unionName])
  | .createUnion pid unionName, state =>
      if (state.getUnionByUnionName unionName).isSome then (state, [])
      else if (state.getUnionByPlayerId pid).isSome then (state, [])
      else (state, [.genUnionId pid unionName])
  | .genUnionId pid unionName, state =>
      (state.doCreate price pid unionName, [.updatePersonalGrids state.unionId pid])
  | .updatePersonalGrids unionId pid, state =>
      (state, [.onUnionJoinSucc pid unionId ((state.unions unionId).bind (·.presidentPid))])
  | .onUnionJoinSucc pid unionId presidentPid, state =>
      if presidentPid = some pid then (state.payUnion price unionId pid, []) else (state, [])

def foundingService : Service State Request Task Bool where
  accept := accept price
  resume task ok state := if ok then proceed price task state else (state, [])

/-- What is still to be paid when a task is done. -/
def dues : Task → List Dues
  | .updatePersonalGrids unionId pid => [⟨unionId, pid, price⟩]
  | .onUnionJoinSucc pid unionId presidentPid =>
      if presidentPid = some pid then [⟨unionId, pid, price⟩] else []
  | .getMyUnionId .. | .createUnionMemberInfo .. | .createUnion .. | .genUnionId .. => []

/-- Every union is paid for once, with the price, or is still to be paid for; nothing else is paid
for. -/
structure PaidOnce (config : Config State Task) : Prop where
  once : (config.state.charges ++ config.waiting.flatMap (dues price)).Perm config.state.founded
  distinct : (config.state.founded.map Dues.unionId).Nodup
  priced : ∀ union ∈ config.state.founded, union.amount = price

theorem PaidOnce.charges_perm {price : ℕ} {config : Config State Task}
    (paid : PaidOnce price config) (idle : config.Idle) :
    config.state.charges.Perm config.state.founded := by
  have once := paid.once
  rw [idle] at once
  simpa using once

/-- The founder is told, is president until then, and still has the price. -/
def founderPays : Guard State Request Task Bool where
  onRequest _ _ _ := True
  onReply task ok state _ :=
    match task with
    | .updatePersonalGrids unionId pid =>
        ok = true ∧ (state.unions unionId).bind (·.presidentPid) = some pid
    | .onUnionJoinSucc pid _ presidentPid =>
        presidentPid = some pid → ok = true ∧ price ≤ state.tesseract pid
    | .getMyUnionId .. | .createUnionMemberInfo .. | .createUnion .. | .genUnionId .. => True

instance (request state others) : Decidable ((founderPays price).onRequest request state others) :=
  inferInstanceAs (Decidable True)

instance (task ok state others) : Decidable ((founderPays price).onReply task ok state others) := by
  unfold founderPays
  dsimp only
  split <;> infer_instance

end Service

/-- Each union has an id of its own and costs the price. -/
structure State.Sound (price : ℕ) (state : State) : Prop where
  distinct : (state.founded.map Dues.unionId).Nodup
  priced : ∀ union ∈ state.founded, union.amount = price
  /-- The ids to come are new. -/
  below : ∀ union ∈ state.founded, union.unionId ≤ state.unionSeq + 100000

theorem State.Sound.empty (price : ℕ) (tesseract : ℕ → ℕ) : (State.empty tesseract).Sound price :=
  ⟨.nil, nofun, nofun⟩

theorem State.Sound.doCreate {price : ℕ} {state : State} (sound : state.Sound price) (pid : ℕ)
    (unionName : String) : (state.doCreate price pid unionName).Sound price := by
  have fresh : ∀ union ∈ state.founded, union.unionId ≠ state.unionId := by
    intro union mem
    have bound := sound.below union mem
    unfold State.unionId
    omega
  refine ⟨?_, ?_, ?_⟩
  · change ((state.founded ++ [_]).map Dues.unionId).Nodup
    rw [List.map_append, List.map_singleton, List.nodup_append]
    refine ⟨sound.distinct, List.nodup_singleton _, fun id id_mem other other_mem => ?_⟩
    obtain ⟨union, mem, rfl⟩ := List.mem_map.mp id_mem
    obtain rfl := List.mem_singleton.mp other_mem
    exact fresh union mem
  · exact List.forall_mem_append.mpr ⟨sound.priced, List.forall_mem_singleton.mpr rfl⟩
  · refine List.forall_mem_append.mpr ⟨fun union mem => ?_, List.forall_mem_singleton.mpr ?_⟩
    · have bound := sound.below union mem
      change union.unionId ≤ state.unionSeq + 1 + 100000
      omega
    · exact le_rfl

def foundingPool (price : ℕ) : Pool State Task where
  shared := State.Sound price
  own _ _ := True
  apart _ _ := True
  apart_symm := id

/-- What is paid and what is still to be paid are together what was founded. -/
def accounted (price : ℕ) : Standing State Task where
  holds state waiting := (state.charges ++ waiting.flatMap (dues price)).Perm state.founded
  perm {_ _ _} same once := ((same.flatMap_right _).symm.append_left _).trans once

section Segments

variable {price : ℕ}

theorem keeps_sound {others : List Task} {result : State × List Task}
    (sound : result.1.Sound price) : (foundingPool price).Keeps others result :=
  ⟨sound, fun _ _ => trivial, fun _ _ => trivial, fun _ _ _ _ => trivial,
    List.pairwise_of_forall fun _ _ => trivial⟩

theorem perm_settle {charges next spent left rest founded added : List Dues}
    (account : (charges ++ (spent ++ rest)).Perm founded)
    (segment : (next ++ left).Perm (charges ++ spent ++ added)) :
    (next ++ (rest ++ left)).Perm (founded ++ added) := by
  refine List.perm_iff_count.mpr fun entry => ?_
  have before := account.count_eq entry
  have moved := segment.count_eq entry
  simp only [List.count_append] at before moved ⊢
  omega

theorem payUnion_charges {state : State} (unionId pid : ℕ) (funds : price ≤ state.tesseract pid) :
    (state.payUnion price unionId pid).charges = state.charges ++ [⟨unionId, pid, price⟩] := by
  unfold State.payUnion
  dsimp only
  congr 3
  split
  · simp only [State.costRes, Function.update_self]
    omega
  · omega

theorem proceed_founded (price : ℕ) (task : Task) (state : State) :
    (proceed price task state).1.founded = state.founded ∧
        (proceed price task state).1.unionSeq = state.unionSeq ∨
      ∃ pid unionName, task = .genUnionId pid unionName := by
  cases task with
  | genUnionId pid unionName => exact .inr ⟨pid, unionName, rfl⟩
  | getMyUnionId | createUnionMemberInfo | updatePersonalGrids => exact .inl ⟨rfl, rfl⟩
  | createUnion pid unionName =>
      refine .inl ?_
      unfold proceed
      dsimp only
      split
      · exact ⟨rfl, rfl⟩
      · split <;> exact ⟨rfl, rfl⟩
  | onUnionJoinSucc pid unionId presidentPid =>
      refine .inl ?_
      unfold proceed
      dsimp only
      split
      · unfold State.payUnion
        dsimp only
        split <;> exact ⟨rfl, rfl⟩
      · exact ⟨rfl, rfl⟩

theorem Sound_of_founded {state next : State} (sound : state.Sound price)
    (founded : next.founded = state.founded) (unionSeq : next.unionSeq = state.unionSeq) :
    next.Sound price := by
  refine ⟨?_, ?_, ?_⟩
  · rw [founded]
    exact sound.distinct
  · rw [founded]
    exact sound.priced
  · rw [founded, unionSeq]
    exact sound.below

theorem accept_cases (price : ℕ) (request : Request) (state : State) :
    ((accept price request state).1.founded = state.founded ∧
      (accept price request state).1.unionSeq = state.unionSeq) ∧
    (accept price request state).1.charges = state.charges ∧
    (accept price request state).2.flatMap (dues price) = [] := by
  cases request with
  | createUnion pid unionName valid =>
      unfold accept
      dsimp only
      split <;> exact ⟨⟨rfl, rfl⟩, rfl, rfl⟩
  | joinUnion pid unionId =>
      unfold accept
      dsimp only
      split
      · exact ⟨⟨rfl, rfl⟩, rfl, rfl⟩
      · split
        · exact ⟨⟨rfl, rfl⟩, rfl, rfl⟩
        · rename_i ordinary
          refine ⟨⟨rfl, rfl⟩, rfl, ?_⟩
          simp [dues, ordinary]
  | costRes | addRes | changeUnion | setPidToUnionId | setUnionNameToUnionId =>
      exact ⟨⟨rfl, rfl⟩, rfl, rfl⟩

theorem foundingPool_kept :
    (foundingPool price).KeptBy (foundingService price) (founderPays price) where
  accept request state others holds _ := by
    obtain ⟨⟨founded, unionSeq⟩, _, _⟩ := accept_cases price request state
    exact keeps_sound (Sound_of_founded holds.shared founded unionSeq)
  resume task ok state others holds _ _ _ := by
    have sound : state.Sound price := holds.shared
    refine keeps_sound ?_
    change (if ok then proceed price task state else (state, [])).1.Sound price
    split
    · rcases proceed_founded price task state with ⟨founded, unionSeq⟩ |
        ⟨pid, unionName, rfl⟩
      · exact Sound_of_founded sound founded unionSeq
      · exact sound.doCreate pid unionName
    · exact sound

/-- What a segment takes and leaves adds up to what it had and what it founds. -/
theorem proceed_account (task : Task) (ok : Bool) (state : State) (others : List Task)
    (allows : (founderPays price).onReply task ok state others) :
    ∃ added, (if ok then proceed price task state else (state, [])).1.founded =
        state.founded ++ added ∧
      ((if ok then proceed price task state else (state, [])).1.charges ++
        (if ok then proceed price task state else (state, [])).2.flatMap (dues price)).Perm
          (state.charges ++ dues price task ++ added) := by
  have none_added : state.founded = state.founded ++ [] := (List.append_nil _).symm
  cases task with
  | getMyUnionId | createUnionMemberInfo =>
      refine ⟨[], ?_⟩
      split <;> exact ⟨none_added, by simp [proceed, dues]⟩
  | createUnion pid unionName =>
      refine ⟨[], ?_⟩
      split
      · unfold proceed
        dsimp only
        split
        · exact ⟨none_added, by simp [dues]⟩
        · split <;> exact ⟨none_added, by simp [dues]⟩
      · exact ⟨none_added, by simp [dues]⟩
  | genUnionId pid unionName =>
      split
      · refine ⟨[⟨state.unionId, pid, price⟩], rfl, ?_⟩
        simp [proceed, dues, State.doCreate]
      · exact ⟨[], none_added, by simp [dues]⟩
  | updatePersonalGrids unionId pid =>
      obtain ⟨rfl, president⟩ := allows
      refine ⟨[], none_added, ?_⟩
      simp [proceed, dues, president]
  | onUnionJoinSucc pid unionId presidentPid =>
      refine ⟨[], ?_⟩
      by_cases founder : presidentPid = some pid
      · obtain ⟨rfl, funds⟩ := allows founder
        rw [if_pos rfl]
        have paid := payUnion_charges unionId pid funds
        rcases proceed_founded price (.onUnionJoinSucc pid unionId presidentPid) state
          with ⟨founded, _⟩ | ⟨_, _, absurd⟩
        · refine ⟨founded.trans none_added, ?_⟩
          simp [proceed, dues, founder, paid]
        · exact nomatch absurd
      · split
        · unfold proceed
          dsimp only
          rw [if_neg founder]
          exact ⟨none_added, by simp [dues, founder]⟩
        · exact ⟨none_added, by simp [dues, founder]⟩

theorem accounted_kept :
    (accounted price).KeptBy (foundingPool price) (foundingService price) (founderPays price) where
  accept request state others _ account _ := by
    obtain ⟨⟨founded, _⟩, charges, left⟩ := accept_cases price request state
    change ((accept price request state).1.charges ++ (others ++ _).flatMap (dues price)).Perm _
    rw [List.flatMap_append, charges]
    change (state.charges ++ (_ ++ (accept price request state).2.flatMap (dues price))).Perm
      (accept price request state).1.founded
    rw [left, founded, List.append_nil]
    exact account
  resume task ok state others _ _ _ account allows := by
    obtain ⟨added, founded, segment⟩ := proceed_account task ok state others allows
    change (_ ++ (others ++ _).flatMap (dues price)).Perm _
    rw [List.flatMap_append]
    have before : (state.charges ++ (dues price task ++ others.flatMap (dues price))).Perm
      state.founded := account
    exact (perm_settle before segment).trans (.of_eq founded.symm)

/-- Over every run, each union is paid for once with the price and nobody pays without a union, if
founders are told, are president until then and still have the price. -/
theorem foundersPay_run (tesseract : ℕ → ℕ) (events : List (Event Request Bool))
    (admits : (founderPays price).Admits (foundingService price) ⟨.empty tesseract, []⟩ events) :
    PaidOnce price ((foundingService price).run ⟨.empty tesseract, []⟩ events) := by
  obtain ⟨holds, account⟩ := accounted_kept.holds_run foundingPool_kept admits
    ⟨.empty price tesseract, nofun, .nil⟩ (.nil)
  have sound : State.Sound price _ := holds.shared
  exact ⟨account, sound.distinct, sound.priced⟩

end Segments

/-- Two unions of one player, who also spends, and a member who joins the first one. -/
def paidRun : List (Event Request Bool) :=
  [.request (.createUnion 1 "North" true), .request (.createUnion 1 "South" true), .reply 0 true,
    .reply 0 true, .reply 0 true, .reply 0 true, .reply 0 true, .reply 0 true, .reply 0 true,
    .reply 0 true, .request (.costRes 1 30), .reply 0 true, .reply 0 true, .reply 0 true,
    .request (.joinUnion 2 100001), .reply 0 true, .reply 0 true]

theorem foundersPay_paidRun :
    ((foundingService 40).run ⟨.empty fun _ => 110, []⟩ paidRun).state.charges =
        [⟨100001, 1, 40⟩, ⟨100002, 1, 40⟩] ∧
      PaidOnce 40 ((foundingService 40).run ⟨.empty fun _ => 110, []⟩ paidRun) :=
  ⟨by decide +kernel, foundersPay_run (fun _ => 110) paidRun (by decide +kernel)⟩

/-- The player spends the price before the union tells them to pay. -/
def spentRun : List (Event Request Bool) :=
  [.request (.createUnion 1 "North" true), .reply 0 true, .reply 0 true, .reply 0 true,
    .reply 0 true, .request (.costRes 1 100), .reply 0 true, .reply 0 true]

/-- The union costs its founder nothing. -/
theorem not_paidOnce_spentRun :
    ¬ PaidOnce 40 ((foundingService 40).run ⟨.empty fun _ => 110, []⟩ spentRun) := by
  intro paid
  have idle : ((foundingService 40).run ⟨.empty fun _ => 110, []⟩ spentRun).waiting = [] := by
    decide +kernel
  have perm := paid.charges_perm idle
  have charges : ((foundingService 40).run ⟨.empty fun _ => 110, []⟩ spentRun).state.charges =
      [⟨100001, 1, 10⟩] := by decide +kernel
  have founded : ((foundingService 40).run ⟨.empty fun _ => 110, []⟩ spentRun).state.founded =
      [⟨100001, 1, 40⟩] := by decide +kernel
  rw [charges, founded] at perm
  exact absurd (List.singleton_perm_singleton.mp perm) (by decide)

end BasWar.Unions.Founding
