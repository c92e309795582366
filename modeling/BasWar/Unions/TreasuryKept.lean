import BasWar.Unions.Treasury

/-!
# Bounds of the treasury

A treasury is never overdrawn and never clipped below what it has as long as the star map charges
only what is still there, income meets no resource that is over its limit, and a donation still fits
when the donor has paid.
-/

namespace BasWar.Unions.Treasury

open Cooperative

/-- Income and donations never lower a resource and never raise one above its limit; a charge takes
exactly the named amounts. -/
def Booking.Kept : Booking → Prop
  | .added limit before after | .donated limit before after => ∀ res,
      before.amount res ≤ after.amount res ∧
        ∀ bound ∈ limit res, after.amount res ≤ max (before.amount res) bound
  | .charged named before after => ∀ res, after.amount res = before.amount res - named res

/-- No union has a negative resource, and every operation has kept the bounds. -/
structure State.Bounded (state : State) : Prop where
  solvent : ∀ unionId, ∀ union ∈ state.unions unionId, union.Solvent
  kept : ∀ booking ∈ state.bookings, booking.Kept

theorem State.Bounded.empty : State.empty.Bounded :=
  ⟨nofun, nofun⟩

section Guard

variable (cfg : Res → ℤ)

/-- Income finds no resource of its dictionary over its limit, and neither does a donation, which
gives no negative amounts.  What the donor has paid still fits, and what the star map charges is
still there. -/
def roomAndFunds : Guard State Request Task Bool where
  onRequest request state _ :=
    match request with
    | .starmapGridReward unionId gridCarboxyl resDict => ∀ union ∈ state.unions unionId,
        (union.addGridCarboxyl gridCarboxyl).HasRoom cfg resDict.entries
    | .campaignReward unionId resDict => ∀ union ∈ state.unions unionId,
        union.HasRoom cfg resDict.entries
    | .donate unionId donateInfo _ => ∀ union ∈ state.unions unionId, ∀ res ∈ Res.stored,
        0 ≤ donateInfo res ∧ ∀ limit ∈ union.limit cfg res, union.amount res ≤ limit
    | .createUnion _ | .trainSolider .. | .genDefenseBuild .. | .levelUpTech ..
    | .initTechEffects ..
    | .matchSeasonEndHandle _ | .addDefenselBuild .. => True
  onReply task reply state _ :=
    match task with
    | .onUnionDonate unionId realDonateInfo => reply = true → ∀ union ∈ state.unions unionId,
        ∀ res ∈ Res.stored, 0 < realDonateInfo res →
          ∀ limit ∈ union.limit cfg res, union.amount res + realDonateInfo res ≤ limit
    | .isUnionResDictEnough .. => True
    | .costUnionResDict unionId costResDict => ∀ union ∈ state.unions unionId,
        union.isUnionResDictEnough costResDict.entries = some true

instance (request state others) :
    Decidable ((roomAndFunds cfg).onRequest request state others) := by
  unfold roomAndFunds
  dsimp only
  split <;> infer_instance

instance (task reply state others) :
    Decidable ((roomAndFunds cfg).onReply task reply state others) := by
  unfold roomAndFunds
  dsimp only
  split <;> infer_instance

end Guard

/-- The donor is asked for no negative amount. -/
def treasuryPool : Pool State Task where
  shared := State.Bounded
  own _ task :=
    match task with
    | .onUnionDonate _ realDonateInfo => ∀ res ∈ Res.stored, 0 ≤ realDonateInfo res
    | .isUnionResDictEnough .. | .costUnionResDict .. => True
  apart _ _ := True
  apart_symm := id

theorem solvent_update {unions : ℕ → Option Union}
    (all : ∀ unionId, ∀ union ∈ unions unionId, union.Solvent) (unionId : ℕ) {union : Union}
    (solvent : union.Solvent) (other : ℕ) :
    ∀ found ∈ Function.update unions unionId (some union) other, found.Solvent := by
  intro found mem
  by_cases same : other = unionId
  · subst same
    rw [Function.update_self] at mem
    obtain rfl := Option.some.inj mem
    exact solvent
  · rw [Function.update_of_ne same] at mem
    exact all other found mem

theorem State.Bounded.change {state : State} (bounded : state.Bounded) (unionId : ℕ)
    {change : Union → Union × List Booking}
    (safe : ∀ union ∈ state.unions unionId, union.Solvent →
      (change union).1.Solvent ∧ ∀ booking ∈ (change union).2, booking.Kept) :
    (state.change unionId change).Bounded := by
  unfold State.change
  split
  · exact bounded
  · rename_i union found
    obtain ⟨solvent, kept⟩ := safe union found (bounded.solvent unionId union found)
    exact ⟨solvent_update bounded.solvent unionId solvent,
      List.forall_mem_append.mpr ⟨bounded.kept, kept⟩⟩

section Changes

variable {cfg : Res → ℤ} {union : Union}

theorem addResDict_safe (solvent : union.Solvent) (resDict : ResDict)
    (room : union.HasRoom cfg resDict.entries) :
    (addResDict cfg resDict union).1.Solvent ∧
      ∀ booking ∈ (addResDict cfg resDict union).2, booking.Kept := by
  have bounds := Union.safeAddResDict_bounds resDict.entries union room
  exact ⟨fun res => (solvent res).trans (bounds res).1, List.forall_mem_singleton.mpr bounds⟩

theorem payCost_safe (solvent : union.Solvent) (keys : List Res) (cost : Res → ℤ) :
    (payCost keys cost union).1.Solvent ∧
      ∀ booking ∈ (payCost keys cost union).2, booking.Kept := by
  unfold payCost
  split
  · exact ⟨solvent, nofun⟩
  · rename_i after paid
    unfold Union.pay at paid
    split at paid
    · rename_i enough
      obtain rfl := Option.some.inj paid
      refine ⟨solvent.change fun res mem => sub_nonneg.mpr (enough res mem),
        List.forall_mem_singleton.mpr fun res => ?_⟩
      rw [Union.amount_change]
      dsimp only
      split <;> omega
    · exact nomatch paid

theorem finishDonate_safe (solvent : union.Solvent) {realDonateInfo : Res → ℤ}
    (nonneg : ∀ res ∈ Res.stored, 0 ≤ realDonateInfo res)
    (room : ∀ res ∈ Res.stored, 0 < realDonateInfo res →
      ∀ limit ∈ union.limit cfg res, union.amount res + realDonateInfo res ≤ limit) :
    (finishDonate cfg realDonateInfo union).1.Solvent ∧
      ∀ booking ∈ (finishDonate cfg realDonateInfo union).2, booking.Kept := by
  refine ⟨solvent.change fun res mem => add_nonneg (solvent res) (nonneg res mem),
    List.forall_mem_singleton.mpr fun res => ?_⟩
  rw [Union.amount_change]
  split
  · rename_i mem
    refine ⟨by linarith [nonneg res mem], fun limit limit_mem => ?_⟩
    rcases (nonneg res mem).eq_or_lt with zero | positive
    · rw [← zero, add_zero]
      exact le_max_left _ _
    · exact (room res mem positive limit limit_mem).trans (le_max_right _ _)
  · exact ⟨le_rfl, fun _ _ => le_max_left _ _⟩

theorem chargeResDict_safe (solvent : union.Solvent) (resDict : ResDict)
    (enough : union.isUnionResDictEnough resDict.entries = some true) :
    (chargeResDict resDict union).1.Solvent ∧
      ∀ booking ∈ (chargeResDict resDict union).2, booking.Kept := by
  have still := solvent.costUnionResDict resDict.entries resDict.nodup enough
  unfold chargeResDict
  split
  · rename_i after cost
    rw [cost] at still
    exact ⟨still, List.forall_mem_singleton.mpr
      (Union.costUnionResDict_amount resDict.entries union resDict.nodup cost)⟩
  · rename_i after cost
    rw [cost] at still
    exact ⟨still, nofun⟩

end Changes

section Run

variable {cfg : Res → ℤ}

theorem keeps_done {state next : State} {others : List Task}
    (holds : treasuryPool.Holds ⟨state, others⟩) (bounded : next.Bounded) :
    treasuryPool.Keeps others (next, []) :=
  ⟨bounded, holds.own, nofun, fun _ _ => nofun, .nil⟩

theorem keeps_wait {state : State} {others : List Task} {task : Task}
    (holds : treasuryPool.Holds ⟨state, others⟩) (own : treasuryPool.own state task) :
    treasuryPool.Keeps others (state, [task]) :=
  ⟨holds.shared, holds.own, List.forall_mem_singleton.mpr own, fun _ _ _ _ => trivial,
    List.pairwise_singleton _ _⟩

theorem treasuryPool_accept (request : Request) (state : State) (others : List Task)
    (holds : treasuryPool.Holds ⟨state, others⟩)
    (allows : (roomAndFunds cfg).onRequest request state others) :
    treasuryPool.Keeps others (accept cfg request state) := by
  have bounded : state.Bounded := holds.shared
  cases request with
  | createUnion unionId =>
      unfold accept
      dsimp only
      split
      · exact keeps_done holds bounded
      · exact keeps_done holds ⟨solvent_update bounded.solvent unionId .new, bounded.kept⟩
  | starmapGridReward unionId gridCarboxyl resDict =>
      exact keeps_done holds (bounded.change unionId fun union mem solvent =>
        addResDict_safe (solvent.addGridCarboxyl gridCarboxyl) resDict (allows union mem))
  | campaignReward unionId resDict =>
      exact keeps_done holds (bounded.change unionId fun union mem solvent =>
        addResDict_safe solvent resDict (allows union mem))
  | donate unionId donateInfo allowed =>
      unfold accept
      dsimp only
      split
      · exact keeps_done holds bounded
      · rename_i union found
        split
        · refine keeps_wait holds fun res mem => ?_
          obtain ⟨nonneg, room⟩ := allows union found res mem
          exact (Union.addableRes_bounds nonneg room).1
        · exact keeps_done holds bounded
  | trainSolider unionId starCoin allowed =>
      unfold accept
      dsimp only
      split
      · exact keeps_done holds (bounded.change unionId fun union _ solvent =>
          payCost_safe solvent _ _)
      · exact keeps_done holds bounded
  | genDefenseBuild unionId cost allowed | levelUpTech unionId cost allowed =>
      unfold accept
      dsimp only
      split
      · exact keeps_done holds (bounded.change unionId fun union _ solvent =>
          payCost_safe solvent _ _)
      · exact keeps_done holds bounded
  | initTechEffects unionId limitAdd =>
      exact keeps_done holds (bounded.change unionId fun union _ solvent => ⟨solvent, nofun⟩)
  | matchSeasonEndHandle unionId =>
      exact keeps_done holds (bounded.change unionId fun union _ solvent =>
        ⟨solvent.change fun _ _ => le_rfl, nofun⟩)
  | addDefenselBuild unionId costResDict => exact keeps_wait holds trivial

theorem treasuryPool_resume (task : Task) (reply : Bool) (state : State) (others : List Task)
    (holds : treasuryPool.Holds ⟨state, others⟩) (own : treasuryPool.own state task)
    (allows : (roomAndFunds cfg).onReply task reply state others) :
    treasuryPool.Keeps others (resume cfg task reply state) := by
  have bounded : state.Bounded := holds.shared
  cases task with
  | onUnionDonate unionId realDonateInfo =>
      unfold resume
      dsimp only
      split
      · rename_i paid
        exact keeps_done holds (bounded.change unionId fun union mem solvent =>
          finishDonate_safe solvent own (allows paid union mem))
      · exact keeps_done holds bounded
  | isUnionResDictEnough unionId costResDict =>
      unfold resume
      dsimp only
      split
      · split
        · exact keeps_wait holds trivial
        · exact keeps_done holds bounded
      · exact keeps_done holds bounded
      · exact keeps_done holds bounded
  | costUnionResDict unionId costResDict =>
      exact keeps_done holds (bounded.change unionId fun union mem solvent =>
        chargeResDict_safe solvent costResDict (allows union mem))

theorem treasuryPool_kept : treasuryPool.KeptBy (treasuryService cfg) (roomAndFunds cfg) where
  accept := treasuryPool_accept
  resume task reply state others holds own _ allows :=
    treasuryPool_resume task reply state others holds own allows

end Run

/-- Over every run, no union has a negative resource, income and donations lower nothing and raise
nothing above its limit, and a charge takes exactly what it names, if income and donations meet no
resource over its limit and what is charged is still there. -/
theorem bounded_run (cfg : Res → ℤ) (events : List (Event Request Bool))
    (admits : (roomAndFunds cfg).Admits (treasuryService cfg) ⟨.empty, []⟩ events) :
    ((treasuryService cfg).run ⟨.empty, []⟩ events).state.Bounded :=
  (treasuryPool_kept.holds_run admits ⟨.empty, nofun, .nil⟩).shared

def hundred : Res → ℤ := fun _ => 100

/-- Two grids of a union build at once, and each is paid for. -/
def paidRun : List (Event Request Bool) :=
  [.request (.createUnion 5), .request (.starmapGridReward 5 20 ⟨[(.starCoin, 90)], by decide⟩),
    .request (.addDefenselBuild 5 ⟨[(.starCoin, 40)], by decide⟩),
    .request (.addDefenselBuild 5 ⟨[(.starCoin, 40)], by decide⟩),
    .reply 0 true, .reply 0 true, .reply 0 true, .reply 0 true,
    .request (.donate 5 (fun _ => 95) true), .reply 0 true]

theorem bounded_paidRun :
    (((treasuryService hundred).run ⟨.empty, []⟩ paidRun).state.unions 5).map (·.amount .starCoin) =
        some 100 ∧
      ((treasuryService hundred).run ⟨.empty, []⟩ paidRun).state.Bounded :=
  ⟨by decide +kernel, bounded_run hundred paidRun (by decide +kernel)⟩

/-- Both grids find enough before either is charged. -/
def overdrawnRun : List (Event Request Bool) :=
  [.request (.createUnion 5), .request (.starmapGridReward 5 20 ⟨[(.starCoin, 90)], by decide⟩),
    .request (.addDefenselBuild 5 ⟨[(.starCoin, 80)], by decide⟩),
    .request (.addDefenselBuild 5 ⟨[(.starCoin, 80)], by decide⟩),
    .reply 0 true, .reply 0 true, .reply 0 true, .reply 0 true]

/-- A grid earns more than the limit, and the income of the next one lowers it. -/
def clippedRun : List (Event Request Bool) :=
  [.request (.createUnion 5), .request (.starmapGridReward 5 150 ⟨[], by decide⟩),
    .request (.campaignReward 5 ⟨[(.carboxyl, 10)], by decide⟩)]

/-- The first run leaves a resource negative, and the second one has lowered a resource. -/
theorem not_bounded_overdrawnRun :
    ¬ ((treasuryService hundred).run ⟨.empty, []⟩ overdrawnRun).state.Bounded ∧
      ¬ ((treasuryService hundred).run ⟨.empty, []⟩ clippedRun).state.Bounded := by
  constructor
  · intro bounded
    have found : (((treasuryService hundred).run ⟨.empty, []⟩ overdrawnRun).state.unions 5).map
        (·.amount .starCoin) = some (-70) := by decide +kernel
    obtain ⟨union, union_eq, amount_eq⟩ := Option.map_eq_some_iff.mp found
    have nonneg := bounded.solvent 5 union union_eq .starCoin
    omega
  · intro bounded
    have raised := (bounded.kept _ (.tail _ (.head _)) .carboxyl).1
    exact absurd raised (by decide +kernel)

end BasWar.Unions.Treasury
