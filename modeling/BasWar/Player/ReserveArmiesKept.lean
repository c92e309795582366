import BasWar.Player.ReserveArmies

/-!
# Reserves within their space

Soldiers of the queue are not counted by the space checks of training and of giving back, and a
building above its space gives soldiers up when others are given back.  Taking is exact, and queues
ripen alike however often they are looked at.
-/

namespace BasWar.ReserveArmies

open Tables
open Armies (Reserve)

/-! ## Ripening -/

section Ripening

variable {config : Armies.Config} {now later : ℤ} {val : Reserve}

/-- The queue runs. -/
def Running (val : Reserve) : Prop :=
  0 < val.trainTick ∧ 0 < val.startTime ∧ 0 < val.trainCount

def ripe (config : Armies.Config) (now : ℤ) (val : Reserve) : ℤ :=
  (now - val.startTime) / config.trainNeedTick

/-- A queue after some of its soldiers have ripened. -/
def ripen (config : Armies.Config) (addCount : ℤ) (val : Reserve) : Reserve :=
  { val with
    trainCount := val.trainCount - addCount
    trainTick := val.trainTick + addCount * config.trainNeedTick
    startTime := val.startTime + addCount * config.trainNeedTick
    count := val.count + addCount }

def finish (val : Reserve) : Reserve :=
  { val with trainCount := 0, trainTick := 0, startTime := 0, count := val.count + val.trainCount }

theorem update_idle (idle : ¬ Running val) :
    (val.update config now).1 = { val with trainCount := max val.trainCount 0 } := by
  have stopped : ¬ (0 < val.trainTick ∧ 0 < val.startTime ∧ 0 < max val.trainCount 0 ∧
      0 < (now - val.startTime) / (config.trainNeedTick : ℤ)) := by
    rintro ⟨tick, start, count, -⟩
    exact idle ⟨tick, start, by simpa using count⟩
  simp only [Reserve.update, if_neg stopped]

theorem update_running (running : Running val) :
    (val.update config now).1 =
      if ripe config now val ≤ 0 then val
      else if val.trainCount ≤ ripe config now val then finish val
      else ripen config (ripe config now val) val := by
  obtain ⟨tick, start, count⟩ := running
  have count_eq : max val.trainCount 0 = val.trainCount := max_eq_left count.le
  have ripe_eq : (now - val.startTime) / (config.trainNeedTick : ℤ) = ripe config now val := rfl
  unfold Reserve.update
  simp only [count_eq, ripe_eq, tick, start, count, true_and]
  by_cases unripe : ripe config now val ≤ 0
  · rw [if_neg (not_lt.mpr unripe), if_pos unripe]
  · rw [if_pos (not_le.mp unripe), if_neg unripe]
    by_cases all : val.trainCount ≤ ripe config now val
    · rw [if_pos all, if_pos all, finish]
    · rw [if_neg all, if_neg all, ripen, ripe]

theorem ripe_le_ripe (le : now ≤ later) : ripe config now val ≤ ripe config later val :=
  Int.ediv_le_ediv (by exact_mod_cast config.trainNeedTick.pos) (by linarith)

theorem ripe_ripen (addCount : ℤ) :
    ripe config later (ripen config addCount val) = ripe config later val - addCount := by
  have period_ne : ((config.trainNeedTick : ℕ) : ℤ) ≠ 0 := by
    exact_mod_cast config.trainNeedTick.pos.ne'
  have shifted : later - (val.startTime + addCount * (config.trainNeedTick : ℕ)) =
      later - val.startTime + -addCount * (config.trainNeedTick : ℕ) := by ring
  unfold ripe
  rw [ripen, shifted, Int.add_mul_ediv_right _ _ period_ne, ← sub_eq_add_neg]

theorem ripen_ripen (first second : ℤ) :
    ripen config second (ripen config first val) = ripen config (first + second) val := by
  simp only [ripen, Reserve.mk.injEq, true_and]
  refine ⟨by ring, by ring, by ring, by ring⟩

theorem update_update (le : now ≤ later) (val : Reserve) :
    ((val.update config now).1.update config later).1 = (val.update config later).1 := by
  by_cases running : Running val
  · have ripe_le := @ripe_le_ripe config now later val le
    rw [update_running running, update_running running]
    split
    next => exact update_running running
    next ripened =>
      have ripe_pos : 0 < ripe config now val := not_le.mp ripened
      rw [if_neg (not_le.mpr (ripe_pos.trans_le ripe_le))]
      split
      next all =>
        have idle : ¬ Running (finish val) := fun finished => absurd finished.1 (lt_irrefl 0)
        rw [if_pos (all.trans ripe_le), update_idle idle]
        rfl
      next some_left =>
        have ticks_pos : 0 < ripe config now val * (config.trainNeedTick : ℕ) :=
          mul_pos ripe_pos (by exact_mod_cast config.trainNeedTick.pos)
        have still : Running (ripen config (ripe config now val) val) :=
          ⟨add_pos running.1 ticks_pos, add_pos running.2.1 ticks_pos,
            sub_pos.mpr (not_le.mp some_left)⟩
        rw [update_running still, ripe_ripen]
        split
        next none_more =>
          have same : ripe config later val = ripe config now val := by linarith
          rw [same, if_neg some_left]
        next more =>
          have queue : (ripen config (ripe config now val) val).trainCount =
              val.trainCount - ripe config now val := rfl
          rw [queue]
          by_cases all : val.trainCount ≤ ripe config later val
          · rw [if_pos (sub_le_sub_right all _), if_pos all]
            simp [finish, ripen]
          · have rest : ¬ val.trainCount - ripe config now val ≤
                ripe config later val - ripe config now val := by
              simpa using all
            rw [if_neg rest, if_neg all, ripen_ripen, add_sub_cancel]
  · rw [update_idle running, update_idle running, update_idle]
    · simp
    · rintro ⟨tick, start, count⟩
      exact running ⟨tick, start, by simpa using count⟩

end Ripening

namespace State

variable {config : Config} {state : State}

theorem ext_reserveArmy {first second : State} (builds : first.builds = second.builds)
    (reserves : first.reserveArmy.objects = second.reserveArmy.objects)
    (resBag : first.resBag = second.resBag) (baseLevel : first.baseLevel = second.baseLevel) :
    first = second := by
  have reserveArmy : first.reserveArmy = second.reserveArmy := Keyed.ext reserves
  cases first
  cases second
  simp_all

theorem updateReserveArmy_updateReserveArmy {now later : ℤ} (le : now ≤ later) (state : State) :
    (state.updateReserveArmy config now).updateReserveArmy config later =
      state.updateReserveArmy config later := by
  refine ext_reserveArmy rfl ?_ rfl rfl
  simp only [updateReserveArmy, rewrite, Keyed.rewrite, List.map_map]
  exact List.map_congr_left fun val _ => update_update le val

/-- Looking at the queues at each of some times is looking at them at the last one. -/
theorem foldl_updateReserveArmy (config : Config) (times : List ℤ) (now : ℤ) (state : State)
    (increasing : (times ++ [now]).Pairwise (· ≤ ·)) :
    (times ++ [now]).foldl (fun state time => state.updateReserveArmy config time) state =
      state.updateReserveArmy config now := by
  induction times generalizing state with
  | nil => rfl
  | cons time times ih =>
      rw [List.cons_append, List.pairwise_cons] at increasing
      rw [List.cons_append, List.foldl_cons, ih _ increasing.2,
        updateReserveArmy_updateReserveArmy (increasing.1 now (by simp))]

end State

theorem no_soliders {cfgId : ℤ} {level other : ℕ} {first second : Armies.SoliderCfg}
    (found : (fun _ _ => none : ℤ → ℕ → Option Armies.SoliderCfg) cfgId level = some first)
    (_ : (fun _ _ => none : ℤ → ℕ → Option Armies.SoliderCfg) cfgId other = some second) :
    first = second :=
  absurd found (Option.some_ne_none first).symm

def sampleConfig : Config where
  maxTrainSpace _ _ level := 10 * level
  recruitsTrainRes _ := some [(Resources.resStarCoin, 2)]
  armies := ⟨fun _ _ => none, @no_soliders, 12, false⟩
  prices := Resources.defaultPrices

theorem housed_singleton (id : ℤ) (reserve : Reserve) (same : reserve.buildId = id) :
    ∀ other ∈ [reserve].map Reserve.buildId,
      ((⟨[⟨id, 1, 0, 1, false⟩], List.nodup_singleton _⟩ : Keyed Build.buildId).get
        other).isSome := by
  simp [Keyed.get, same]

/-- One building of level 1 with its record. -/
def barracks (count trainCount startTime : ℤ) : State where
  builds := ⟨[⟨7, 1, 0, 1, false⟩], List.nodup_singleton _⟩
  reserveArmy := ⟨[⟨7, 0, trainCount, startTime, startTime, count⟩], List.nodup_singleton _⟩
  housed := housed_singleton 7 _ rfl
  resBag := ⟨fun _ => 1000⟩
  baseLevel := 1

theorem housed_pair (firstCount secondCount : ℤ) :
    ∀ other ∈ [(⟨7, 0, 0, 0, 0, firstCount⟩ : Reserve), ⟨8, 0, 0, 0, 0, secondCount⟩].map
        Reserve.buildId,
      ((⟨[⟨7, 1, 0, 1, false⟩, ⟨8, 1, 0, 1, false⟩], by decide⟩ :
        Keyed Build.buildId).get other).isSome := by
  simp [Keyed.get]

/-- Two buildings of level 1 with their records. -/
def twoBarracks (firstCount secondCount : ℤ) : State where
  builds := ⟨[⟨7, 1, 0, 1, false⟩, ⟨8, 1, 0, 1, false⟩], by decide⟩
  reserveArmy := ⟨[⟨7, 0, 0, 0, 0, firstCount⟩, ⟨8, 0, 0, 0, 0, secondCount⟩],
    by simp⟩
  housed := housed_pair firstCount secondCount
  resBag := ⟨fun _ => 1000⟩
  baseLevel := 1

/-- A queue of four, looked at three times. -/
theorem foldl_updateReserveArmy_sample :
    [(1015 : ℤ), 1029, 1052].foldl (fun state time => state.updateReserveArmy sampleConfig time)
        (barracks 3 4 1000) =
      (barracks 3 4 1000).updateReserveArmy sampleConfig 1052 :=
  State.foldl_updateReserveArmy sampleConfig [1015, 1029] 1052 (barracks 3 4 1000) (by decide)

/-! ## Taking and giving back -/

/-- Exactly `num` soldiers come from the records that the request may use. -/
structure Taken (num soliderCfgId : ℤ) (buildId : Option ℤ) (before after : State) : Prop where
  total : after.getReserveArmyCount soliderCfgId buildId =
    before.getReserveArmyCount soliderCfgId buildId - num
  records : List.Forall₂ (fun old new => new = old ∨
      matching soliderCfgId buildId old = true ∧ 0 ≤ new.count ∧ new.count ≤ old.count ∧
        new = { old with count := new.count })
    before.reserveArmy.objects after.reserveArmy.objects

/-- No record loses soldiers, and all that find room come in. -/
structure Returned (config : Config) (num soliderCfgId : ℤ) (buildId : Option ℤ)
    (before after : State) : Prop where
  total : after.getReserveArmyCount soliderCfgId buildId =
    before.getReserveArmyCount soliderCfgId buildId +
      min num (Spread.rooms (space (before.maxTrainSpace config) soliderCfgId buildId)
        before.reserveArmy.objects)
  records : List.Forall₂ (fun old new => old.count ≤ new.count)
    before.reserveArmy.objects after.reserveArmy.objects

/-- Soldiers are taken and given back exactly. -/
structure Exact (config : Config) (num soliderCfgId : ℤ) (buildId : Option ℤ) (state : State) :
    Prop where
  enough : num ≤ state.getReserveArmyCount soliderCfgId buildId →
    ∃ after, state.costReserveArmyCount num soliderCfgId buildId = some after ∧
      Taken num soliderCfgId buildId state after
  lacking : state.getReserveArmyCount soliderCfgId buildId < num →
    state.costReserveArmyCount num soliderCfgId buildId = none
  given : ∃ after, state.addReserveArmyCount config num soliderCfgId buildId = some after ∧
    Returned config num soliderCfgId buildId state after

section Exactness

variable {config : Config} {num soliderCfgId : ℤ} {buildId : Option ℤ} {state : State}

def counted (soliderCfgId : ℤ) (buildId : Option ℤ) (val : Reserve) : ℤ :=
  if matching soliderCfgId buildId val then val.count else 0

theorem State.getReserveArmyCount_eq : state.getReserveArmyCount soliderCfgId buildId =
    (state.reserveArmy.objects.map (counted soliderCfgId buildId)).sum := by
  unfold getReserveArmyCount
  induction state.reserveArmy.objects with
  | nil => rfl
  | cons val rest ih =>
      by_cases chosen : matching soliderCfgId buildId val = true
      · rw [List.filter_cons_of_pos chosen, List.map_cons, List.sum_cons, ih, List.map_cons,
          List.sum_cons, counted, if_pos chosen]
      · rw [List.filter_cons_of_neg chosen, ih, List.map_cons, List.sum_cons, counted,
          if_neg chosen, zero_add]

variable {size : ℤ}

theorem matching_of_held {val : Reserve} (chosen : held soliderCfgId buildId val = some size) :
    matching soliderCfgId buildId val = true ∧ size = val.count := by
  unfold held at chosen
  split at chosen
  next matches_val => exact ⟨matches_val, (Option.some.inj chosen).symm⟩
  next => cases chosen

theorem matching_of_space {maxTrainSpace : ℤ → ℕ} {val : Reserve}
    (chosen : space maxTrainSpace soliderCfgId buildId val = some size) :
    matching soliderCfgId buildId val = true ∧ size = maxTrainSpace val.buildId - val.count := by
  unfold space at chosen
  split at chosen
  next matches_val => exact ⟨matches_val, (Option.some.inj chosen).symm⟩
  next => cases chosen

theorem counted_take {part : ℤ} {val : Reserve}
    (chosen : held soliderCfgId buildId val = some size) :
    counted soliderCfgId buildId (take part val) =
      counted soliderCfgId buildId val + -1 * part := by
  have matches_val := (matching_of_held chosen).1
  have matches_take : matching soliderCfgId buildId (take part val) = true := matches_val
  rw [counted, counted, if_pos matches_val, if_pos matches_take, take]
  ring

theorem counted_put {maxTrainSpace : ℤ → ℕ} {part : ℤ} {val : Reserve}
    (chosen : space maxTrainSpace soliderCfgId buildId val = some size) :
    counted soliderCfgId buildId (put part val) = counted soliderCfgId buildId val + 1 * part := by
  have matches_val := (matching_of_space chosen).1
  have matches_put : matching soliderCfgId buildId (put part val) = true := matches_val
  rw [counted, counted, if_pos matches_val, if_pos matches_put, put, one_mul]

theorem roomy_held (nonneg : ∀ val ∈ state.reserveArmy.objects, 0 ≤ val.count) :
    Spread.Roomy (held soliderCfgId buildId) state.reserveArmy.objects := by
  intro val val_mem size chosen
  rw [(matching_of_held chosen).2]
  exact nonneg val val_mem

theorem rooms_held (nonneg : ∀ val ∈ state.reserveArmy.objects, 0 ≤ val.count) :
    Spread.rooms (held soliderCfgId buildId) state.reserveArmy.objects =
      state.getReserveArmyCount soliderCfgId buildId := by
  rw [State.getReserveArmyCount_eq, Spread.rooms]
  congr 1
  refine List.map_congr_left fun val val_mem => ?_
  have count_nonneg := nonneg val val_mem
  rw [Spread.free, held, counted]
  split <;> simp [count_nonneg]

theorem taken_cost (num_pos : 0 < num)
    (nonneg : ∀ val ∈ state.reserveArmy.objects, 0 ≤ val.count)
    (enough : num ≤ state.getReserveArmyCount soliderCfgId buildId) :
    ∃ after, state.costReserveArmyCount num soliderCfgId buildId = some after ∧
      Taken num soliderCfgId buildId state after := by
  refine ⟨_, by rw [State.costReserveArmyCount, if_neg num_pos.ne', if_neg enough.not_gt], ?_, ?_⟩
  · rw [State.getReserveArmyCount_eq, State.getReserveArmyCount_eq]
    have sum_eq := @Spread.sum_handOut _ (held soliderCfgId buildId) take
      (counted soliderCfgId buildId) (-1) (fun _ _ _ chosen => counted_take chosen) num
      state.reserveArmy.objects
    rw [Spread.leftOver_of_le num_pos (roomy_held nonneg).absorbed
      (enough.trans (rooms_held nonneg).ge)] at sum_eq
    exact sum_eq.trans (by ring)
  · refine Spread.handOut_forall₂ (roomy_held nonneg) num_pos.le
      (Spread.along_true _ _) (fun val => .inl rfl) fun val size reached chosen size_nonneg
        reached_nonneg _ => ?_
    obtain ⟨matches_val, size_eq⟩ := matching_of_held chosen
    have part_le : min reached size ≤ val.count := (min_le_right _ _).trans size_eq.le
    have part_nonneg : 0 ≤ min reached size := le_min reached_nonneg size_nonneg
    exact .inr ⟨matches_val, sub_nonneg.mpr part_le, sub_le_self _ part_nonneg, rfl⟩

theorem returned_iff (num_pos : 0 < num) :
    (∃ after, state.addReserveArmyCount config num soliderCfgId buildId = some after ∧
        Returned config num soliderCfgId buildId state after) ↔
      Spread.Absorbed (space (state.maxTrainSpace config) soliderCfgId buildId) num
        state.reserveArmy.objects := by
  have grows :=
    @Spread.handOut_grows_iff _ (space (state.maxTrainSpace config) soliderCfgId buildId) put
    num state.reserveArmy.objects Reserve.count (fun _ _ => rfl) num_pos
  rw [State.addReserveArmyCount, if_neg num_pos.ne']
  constructor
  · rintro ⟨after, added, returned⟩
    obtain rfl := Option.some.inj added
    exact grows.mp returned.records
  · intro absorbed
    refine ⟨_, rfl, ?_, grows.mpr absorbed⟩
    rw [State.getReserveArmyCount_eq, State.getReserveArmyCount_eq]
    have sum_eq := @Spread.sum_handOut _
      (space (state.maxTrainSpace config) soliderCfgId buildId) put
      (counted soliderCfgId buildId) 1 (fun _ _ _ chosen => counted_put chosen) num
      state.reserveArmy.objects
    rw [Spread.leftOver_eq num_pos absorbed] at sum_eq
    refine sum_eq.trans ?_
    omega

/-- Soldiers are taken and given back exactly if those before a building above its space find room
for all that are given back. -/
theorem exact_iff (num_pos : 0 < num)
    (nonneg : ∀ val ∈ state.reserveArmy.objects, 0 ≤ val.count) :
    Exact config num soliderCfgId buildId state ↔
      Spread.Absorbed (space (state.maxTrainSpace config) soliderCfgId buildId) num
        state.reserveArmy.objects := by
  refine ⟨fun exact => (returned_iff num_pos).mp exact.given, fun absorbed =>
    ⟨taken_cost num_pos nonneg, fun lacking => ?_, (returned_iff num_pos).mpr absorbed⟩⟩
  rw [State.costReserveArmyCount, if_neg num_pos.ne', if_pos lacking]

/-- The building gives five soldiers up when three are given back. -/
theorem not_exact_overfull : ¬ Exact sampleConfig 3 0 none (barracks 15 0 0) := by
  intro exact
  obtain ⟨after, added, returned⟩ := exact.given
  have ten : ((barracks 15 0 0).addReserveArmyCount sampleConfig 3 0 none).map
      (State.getReserveArmyCount 0 none) = some 10 := by decide +kernel
  rw [added, Option.map_some, returned.total] at ten
  exact absurd ten (by decide +kernel)

/-- The first building finds room for the six soldiers, so that the second one keeps its five above
its space. -/
theorem exact_sample : Exact sampleConfig 6 0 none (twoBarracks 4 15) :=
  (exact_iff (by decide) (by decide +kernel)).mpr (by
    unfold Spread.Absorbed Spread.Along
    decide +kernel)

end Exactness

/-! ## Capacity -/

/-- Soldiers and queued soldiers of a building within some space. -/
structure Within (cap : ℤ) (val : Reserve) : Prop where
  count_nonneg : 0 ≤ val.count
  trainCount_nonneg : 0 ≤ val.trainCount
  le_cap : val.count + val.trainCount ≤ cap

/-- Every building keeps within the space of its level. -/
def Capped (config : Config) (state : State) : Prop :=
  ∀ val ∈ state.reserveArmy.objects, Within (state.maxTrainSpace config val.buildId) val

/-- The checks let a training request pass. -/
def Accepts (config : Config) (id soliderCount : ℤ) (speedup : Bool) (state : State) : Prop :=
  0 ≤ soliderCount ∧ state.ready config id = true ∧
    ∃ build ∈ state.builds.get id, (checkTrain config build soliderCount speedup state).isSome

/-- The soldiers of the queue are counted as well. -/
def TrainFits (config : Config) (id soliderCount : ℤ) (state : State) : Prop :=
  (state.reserve id).count + (state.reserve id).trainCount + soliderCount ≤
    state.maxTrainSpace config id

/-- The soldiers of the queues keep their space. -/
def Fits (config : Config) (state : State) : Event → Prop
  | .reserveArmyTrain _ id _ soliderCount =>
      Accepts config id soliderCount false state → TrainFits config id soliderCount state
  | .speedupReserveArmy _ id _ soliderCount =>
      Accepts config id soliderCount true state → TrainFits config id soliderCount state
  | .addReserveArmyCount num soliderCfgId buildId =>
      Spread.Along (space (state.maxTrainSpace config) soliderCfgId buildId)
        (fun reached val =>
          ∀ room ∈ space (state.maxTrainSpace config) soliderCfgId buildId val,
            min reached room ≤ room - val.trainCount)
        num state.reserveArmy.objects
  | .setBuild build => state.maxTrainSpace config build.buildId ≤ build.maxTrainSpace config
  | .updateReserveArmy _ | .costReserveArmyCount _ _ _ | .others _ _ => True

section Capacity

variable {config : Config} {state : State} {cap : ℤ} {val : Reserve}

theorem Within.update (within : Within cap val) (now : ℤ) :
    Within cap (val.update config.armies now).1 := by
  by_cases running : Running val
  · rw [update_running running]
    split
    · exact within
    · split
      · exact ⟨add_nonneg within.count_nonneg within.trainCount_nonneg, le_rfl, by
          simpa [finish] using within.le_cap⟩
      next ripened all =>
        have ripe_pos := not_le.mp ripened
        have some_left := not_le.mp all
        have count_nonneg := within.count_nonneg
        have le_cap := within.le_cap
        refine ⟨?_, ?_, ?_⟩ <;> simp only [ripen] <;> linarith
  · rw [update_idle running]
    have count_eq := max_eq_left within.trainCount_nonneg
    exact ⟨within.count_nonneg, le_max_right _ _, by simpa [count_eq] using within.le_cap⟩

theorem Within.train (within : Within cap val) {soliderCount : ℤ} (nonneg : 0 ≤ soliderCount)
    (fits : val.count + val.trainCount + soliderCount ≤ cap) (now soliderCfgId : ℤ)
    (speedup : Bool) : Within cap (train now soliderCfgId soliderCount speedup val) := by
  have count_nonneg := within.count_nonneg
  have trainCount_nonneg := within.trainCount_nonneg
  unfold ReserveArmies.train
  dsimp only
  split
  · refine ⟨?_, ?_, ?_⟩ <;> dsimp only <;> linarith
  · split <;> refine ⟨?_, ?_, ?_⟩ <;> dsimp only <;> linarith

theorem Within.new (id : ℤ) (nonneg : 0 ≤ cap) : Within cap (Reserve.new id) :=
  ⟨le_rfl, le_rfl, nonneg⟩

theorem State.reserve_buildId (state : State) (id : ℤ) : (state.reserve id).buildId = id := by
  unfold reserve
  cases found : state.reserveArmy.get id with
  | none => rfl
  | some val => exact (Keyed.get_mem found).2

theorem train_buildId (now soliderCfgId soliderCount : ℤ) (speedup : Bool) (val : Reserve) :
    (train now soliderCfgId soliderCount speedup val).buildId = val.buildId := by
  unfold train
  dsimp only
  split
  · rfl
  · split <;> rfl

theorem maxTrainSpace_setBuild {build : Build}
    (rises : state.maxTrainSpace config build.buildId ≤ build.maxTrainSpace config) (id : ℤ) :
    state.maxTrainSpace config id ≤ (state.setBuild build).maxTrainSpace config id := by
  unfold State.maxTrainSpace State.setBuild
  dsimp only
  by_cases same : id = build.buildId
  · subst same
    unfold State.maxTrainSpace at rises
    cases found : state.builds.get build.buildId with
    | none => exact Nat.zero_le _
    | some other =>
        rw [found] at rises
        rw [Keyed.get_put_self found]
        exact rises
  · rw [Keyed.get_put_of_ne same]

section

variable (capped : Capped config state)
include capped

theorem Capped.reserve (id : ℤ) : Within (state.maxTrainSpace config id) (state.reserve id) := by
  unfold State.reserve
  cases found : state.reserveArmy.get id with
  | none => exact .new id (Int.natCast_nonneg _)
  | some val =>
      obtain ⟨val_mem, rfl⟩ := Keyed.get_mem found
      exact capped val val_mem

theorem Capped.setReserve (within : Within (state.maxTrainSpace config val.buildId) val) :
    Capped config (state.setReserve val) := by
  unfold State.setReserve
  split
  · intro other other_mem
    obtain rfl | old_mem := Keyed.mem_set other_mem
    · exact within
    · exact capped other old_mem
  · exact capped

theorem Capped.rewrite {change : List Reserve → List Reserve}
    (same : ∀ reserves, (change reserves).map Reserve.buildId = reserves.map Reserve.buildId)
    (within : List.Forall₂ (fun old new => new.buildId = old.buildId ∧
        (Within (state.maxTrainSpace config old.buildId) old →
          Within (state.maxTrainSpace config old.buildId) new))
      state.reserveArmy.objects (change state.reserveArmy.objects)) :
    Capped config (state.rewrite change same) := by
  intro new new_mem
  obtain ⟨old, old_mem, key_eq, kept⟩ := Spread.exists_of_forall₂ within new_mem
  have new_within := kept (capped old old_mem)
  rw [← key_eq] at new_within
  exact new_within

theorem Capped.updateReserveArmy (now : ℤ) : Capped config (state.updateReserveArmy config now) :=
  capped.rewrite _ (List.forall₂_map_right_iff.mpr (List.forall₂_same.mpr fun val _ =>
    ⟨Reserve.update_buildId config.armies now val, fun within => within.update now⟩))

theorem Capped.costReserveArmyCount (num : ℕ) (soliderCfgId : ℤ) (buildId : Option ℤ) :
    Capped config ((state.costReserveArmyCount num soliderCfgId buildId).getD state) := by
  unfold State.costReserveArmyCount
  split
  · exact capped
  · split
    · exact capped
    · refine capped.rewrite _ (Spread.handOut_forall₂
        (roomy_held fun val val_mem => (capped val val_mem).count_nonneg) (Int.natCast_nonneg num)
        (Spread.along_true _ _) (fun val => ⟨rfl, id⟩)
        fun val size reached chosen size_nonneg reached_nonneg _ => ⟨rfl, fun within => ?_⟩)
      have part_nonneg : 0 ≤ min reached size := le_min reached_nonneg size_nonneg
      have part_le : min reached size ≤ val.count :=
        (min_le_right _ _).trans (matching_of_held chosen).2.le
      have le_cap := within.le_cap
      refine ⟨?_, within.trainCount_nonneg, ?_⟩ <;> simp only [take] <;> linarith

theorem Capped.addReserveArmyCount {num : ℕ} {soliderCfgId : ℤ} {buildId : Option ℤ}
    (fits : Fits config state (.addReserveArmyCount num soliderCfgId buildId)) :
    Capped config ((state.addReserveArmyCount config num soliderCfgId buildId).getD state) := by
  have roomy : Spread.Roomy (space (state.maxTrainSpace config) soliderCfgId buildId)
      state.reserveArmy.objects := by
    intro val val_mem size chosen
    have within := capped val val_mem
    rw [(matching_of_space chosen).2]
    linarith [within.trainCount_nonneg, within.le_cap]
  unfold Fits at fits
  unfold State.addReserveArmyCount
  split
  · exact capped
  · refine capped.rewrite _ (Spread.handOut_forall₂ roomy (Int.natCast_nonneg num) fits
      (fun val => ⟨rfl, id⟩)
      fun val size reached chosen size_nonneg reached_nonneg bounded => ⟨rfl, fun within => ?_⟩)
    have part_nonneg : 0 ≤ min reached size := le_min reached_nonneg size_nonneg
    have part_le := bounded size chosen
    have size_eq := (matching_of_space chosen).2
    have count_nonneg := within.count_nonneg
    refine ⟨?_, within.trainCount_nonneg, ?_⟩ <;> simp only [put] <;> linarith

end

@[simp]
theorem State.resBag_setReserve (val : Reserve) : (state.setReserve val).resBag = state.resBag := by
  unfold setReserve
  split <;> rfl

@[simp]
theorem State.baseLevel_setReserve (val : Reserve) :
    (state.setReserve val).baseLevel = state.baseLevel := by
  unfold setReserve
  split <;> rfl

@[simp]
theorem State.maxTrainSpace_setReserve (val : Reserve) :
    (state.setReserve val).maxTrainSpace config = state.maxTrainSpace config := by
  unfold setReserve
  split <;> rfl

@[simp]
theorem State.reserve_setReserve (id : ℤ) :
    (state.setReserve (state.reserve id)).reserve id = state.reserve id := by
  unfold setReserve
  split
  · have written : (state.reserveArmy.set (state.reserve id)).get id = some (state.reserve id) := by
      rw [Keyed.get_set, if_pos (state.reserve_buildId id).symm]
    exact (congrArg (fun found : Option Reserve => found.getD (Reserve.new id)) written).trans
      (Option.getD_some ..)
  · rfl

theorem checkTrain_setReserve (build : Build) (soliderCount : ℤ) (speedup : Bool) :
    checkTrain config build soliderCount speedup
        (state.setReserve (state.reserve build.buildId)) =
      checkTrain config build soliderCount speedup state := by
  simp [checkTrain]

theorem Capped.doReserveArmyTrain (capped : Capped config state) {id soliderCount : ℤ}
    {speedup : Bool}
    (fits : Accepts config id soliderCount speedup state → TrainFits config id soliderCount state)
    (ready : state.ready config id = true) (now soliderCfgId : ℤ) :
    Capped config (state.doReserveArmyTrain config now id soliderCfgId soliderCount speedup) := by
  unfold State.doReserveArmyTrain
  split
  · exact capped
  next nonneg =>
    split
    · exact capped
    next build found =>
      obtain ⟨-, rfl⟩ := Keyed.get_mem found
      have own := capped.reserve build.buildId
      have record_within : Within
          (state.maxTrainSpace config (state.reserve build.buildId).buildId)
          (state.reserve build.buildId) := by
        rwa [state.reserve_buildId]
      have opened := capped.setReserve record_within
      dsimp only
      rw [checkTrain_setReserve]
      split
      · exact opened
      next price accepted =>
        have fitting := fits ⟨not_lt.mp nonneg, ready, build, found, by rw [accepted]; rfl⟩
        refine Capped.setReserve (fun val val_mem => opened val val_mem) ?_
        have key_eq : (train now soliderCfgId soliderCount speedup
            (state.reserve build.buildId)).buildId = build.buildId := by
          rw [train_buildId, state.reserve_buildId]
        rw [key_eq]
        have trained := own.train (not_lt.mp nonneg) fitting now soliderCfgId speedup
        have space_eq := congrFun
          (@State.maxTrainSpace_setReserve config state (state.reserve build.buildId)) build.buildId
        exact space_eq ▸ trained

theorem capped_step (capped : Capped config state) {event : Event}
    (fits : Fits config state event) :
    Capped config ((machine config).step state event).1 := by
  cases event with
  | reserveArmyTrain now id soliderCfgId soliderCount =>
      unfold machine State.reserveArmyTrain
      dsimp only
      split
      next asked => exact capped.doReserveArmyTrain fits asked.2 now soliderCfgId
      · exact capped
  | speedupReserveArmy now id soliderCfgId soliderCount =>
      unfold machine State.speedupReserveArmy
      dsimp only
      split
      next asked => exact capped.doReserveArmyTrain fits asked.2 now soliderCfgId
      · exact capped
  | updateReserveArmy now => exact capped.updateReserveArmy now
  | costReserveArmyCount num soliderCfgId buildId =>
      exact capped.costReserveArmyCount num soliderCfgId buildId
  | addReserveArmyCount num soliderCfgId buildId => exact capped.addReserveArmyCount fits
  | setBuild build =>
      intro val val_mem
      have within := capped val val_mem
      refine ⟨within.count_nonneg, within.trainCount_nonneg, within.le_cap.trans ?_⟩
      exact_mod_cast maxTrainSpace_setBuild fits val.buildId
  | others resBag baseLevel => exact capped

/-- Every building keeps within its space in a run whose requests leave the queues their space. -/
theorem capped_run (config : Config) {state : State} (capped : Capped config state)
    {events : List Event} (fits : (machine config).Allowed (Fits config) state events) :
    Capped config ((machine config).run state events).1 :=
  Machine.holds_run (Capped config) (fun _ _ kept fitting => capped_step kept fitting) capped fits

/-- Two trainings, each of as many soldiers as the building has space for. -/
theorem not_capped_twice : ¬ Capped sampleConfig
    ((machine sampleConfig).run (barracks 0 0 0)
      [.reserveArmyTrain 1000 7 0 10, .reserveArmyTrain 1000 7 0 10]).1 := by
  intro capped
  have overfull : ∃ val ∈ ((machine sampleConfig).run (barracks 0 0 0)
      [.reserveArmyTrain 1000 7 0 10, .reserveArmyTrain 1000 7 0 10]).1.reserveArmy.objects,
      (((machine sampleConfig).run (barracks 0 0 0)
        [.reserveArmyTrain 1000 7 0 10, .reserveArmyTrain 1000 7 0 10]).1.maxTrainSpace
          sampleConfig val.buildId : ℤ) < val.count + val.trainCount := by decide +kernel
  obtain ⟨val, val_mem, above⟩ := overfull
  exact absurd (capped val val_mem).le_cap above.not_ge

/-- A training, two soldiers that leave and one that comes back, a new level and an instant
training. -/
theorem capped_run_sample : Capped sampleConfig ((machine sampleConfig).run (barracks 3 0 0)
    [.reserveArmyTrain 1000 7 0 7, .updateReserveArmy 1025, .costReserveArmyCount 2 0 none,
      .addReserveArmyCount 1 0 (some 7), .setBuild ⟨7, 1, 0, 2, false⟩,
      .speedupReserveArmy 1030 7 0 11]).1 := by
  refine capped_run sampleConfig ?_ ⟨fun _ => ?_, trivial, trivial, ?_, ?_, fun _ => ?_, trivial⟩
  · intro val val_mem
    obtain rfl := List.mem_singleton.mp val_mem
    exact ⟨by decide, by decide, by decide +kernel⟩
  · unfold TrainFits
    decide +kernel
  · unfold Fits Spread.Along
    decide +kernel
  · unfold Fits
    decide +kernel
  · unfold TrainFits
    decide +kernel

end Capacity

end BasWar.ReserveArmies
