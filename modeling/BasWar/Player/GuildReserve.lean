import BasWar.Player.Armies
import BasWar.Player.Resources

/-!
# The personal guild reserve

Reserve soldiers that a player buys for campaigns of his union.  A purchase fills the reserve up to
a limit; soldiers that come back from a campaign are not stopped by it.
-/

namespace BasWar.GuildReserve

open Tables

structure Config where
  /-- `GuildReserveArmyCostRes`. -/
  costRes : List (Resources.ResId × ℕ)
  /-- `GuildReserveArmyLimt`. -/
  armyLimit : ℤ
  armies : Armies.Config

structure State where
  guildReserveCount : ℤ
  resBag : Resources.ResBag

/-- Soldiers of one kind that go to a campaign or come back. -/
structure Soliders where
  cfgId : ℤ
  level : ℕ
  count : ℤ

/-- The price of some soldiers, row after row. -/
def resDict (costRes : List (Resources.ResId × ℕ)) (num : ℤ) : Resources.ResDict :=
  costRes.foldl (fun dict row => Dict.assign row.1 ((row.2 : ℚ) * num) dict) Keyed.empty

def price (costRes : List (Resources.ResId × ℕ)) (res : Resources.ResId) : ℕ :=
  ((costRes.reverse.find? fun row => row.1 = res).map Prod.snd).getD 0

namespace State

/-- How many soldiers `addGuildReserveCount` pays for; `num` is positive. -/
def clipped (config : Config) (num : ℤ) (state : State) : ℤ :=
  let guildReserveCount := state.guildReserveCount + num
  if config.armyLimit < guildReserveCount then num - (guildReserveCount - config.armyLimit)
  else num

/-- The reserve that `addGuildReserveCount` aims at. -/
def raised (config : Config) (num : ℤ) (state : State) : ℤ :=
  let guildReserveCount := state.guildReserveCount + num
  if config.armyLimit < guildReserveCount then config.armyLimit else guildReserveCount

/-- The balances cover what `addGuildReserveCount` asks for. -/
def affords (config : Config) (num : ℤ) (state : State) : Bool :=
  state.resBag.enoughResDict (resDict config.costRes (state.clipped config num))

def addGuildReserveCount (config : Config) (num : ℤ) (state : State) : State :=
  if num ≤ 0 then state
  else if state.affords config num then
    { guildReserveCount := state.raised config num
      resBag := state.resBag.costResDict (resDict config.costRes (state.clipped config num)) }
  else state

def reduceGuildReserveCount (num : ℤ) (state : State) : Option State :=
  if num < 0 ∨ state.guildReserveCount < num then none
  else some { state with guildReserveCount := state.guildReserveCount - num }

def need (config : Config) (soliders : List Soliders) : Option ℤ :=
  (soliders.mapM fun row =>
    config.armies.getNeedReserveSolider row.count row.cfgId row.level).map List.sum

/-- `none` stands for a refusal or an error. -/
def costPersonalUnionSoldier (config : Config) (soliders : List Soliders) (state : State) :
    Option State :=
  (need config soliders).bind fun need => state.reduceGuildReserveCount need

/-- No limit stops soldiers that come back. -/
def returnBackPersonalUnionSoldier (config : Config) (soliders : List Soliders) (state : State) :
    Option State :=
  (need config soliders).map fun need =>
    { state with guildReserveCount := state.guildReserveCount + need }

end State

section Prices

variable {costRes : List (Resources.ResId × ℕ)} {res : Resources.ResId} {num : ℤ}

theorem amount_resDict (costRes : List (Resources.ResId × ℕ)) (num : ℤ) (res : Resources.ResId) :
    (resDict costRes num).amount res = price costRes res * num := by
  induction costRes using List.reverseRecOn with
  | nil => simp [resDict, price, Resources.ResDict.amount, Dict.lookup, Keyed.get, Keyed.empty]
  | append_singleton rows row ih =>
      unfold resDict price at ih ⊢
      rw [List.foldl_append, List.foldl_cons, List.foldl_nil, Resources.ResDict.amount_assign,
        List.reverse_append, List.reverse_singleton, List.singleton_append]
      by_cases same : res = row.1
      · subst same
        simp
      · rw [if_neg same, ih, List.find?_cons_of_neg (by simpa using Ne.symm same)]

theorem num_costResDict {bag : Resources.ResBag} (affords : bag.enoughResDict (resDict costRes num))
    (nonneg : 0 ≤ num) :
    (bag.costResDict (resDict costRes num)).num res = bag.num res - price costRes res * num := by
  have whole : ((price costRes res : ℚ) * num) = ((price costRes res * num : ℤ) : ℚ) := by
    push_cast
    rfl
  have whole_nonneg : (0 : ℚ) ≤ ((price costRes res * num : ℤ) : ℚ) := by
    exact_mod_cast mul_nonneg (Int.natCast_nonneg _) nonneg
  rw [Resources.ResBag.num_costResDict affords, amount_resDict, whole, Int.floor_intCast,
    max_eq_left whole_nonneg]

end Prices

/-- The player pays for the growth of the reserve, which does not fall and keeps to the limit. -/
structure Bought (config : Config) (before after : State) : Prop where
  not_lowered : before.guildReserveCount ≤ after.guildReserveCount
  limited : after.guildReserveCount ≤ max before.guildReserveCount config.armyLimit
  paid : ∀ res, after.resBag.num res = before.resBag.num res -
    price config.costRes res * (after.guildReserveCount - before.guildReserveCount : ℤ)

section Purchases

variable {config : Config} {num : ℤ} {state : State}

theorem Bought.refl (config : Config) (state : State) : Bought config state state :=
  ⟨le_rfl, le_max_left _ _, fun res => by simp⟩

theorem raised_eq :
    state.raised config num = state.guildReserveCount + state.clipped config num := by
  unfold State.raised State.clipped
  dsimp only
  split
  · ring
  · rfl

theorem clipped_nonneg (num_pos : 0 < num) (within : state.guildReserveCount ≤ config.armyLimit) :
    0 ≤ state.clipped config num := by
  unfold State.clipped
  dsimp only
  split
  · linarith
  · exact num_pos.le

theorem raised_le : state.raised config num ≤ config.armyLimit := by
  unfold State.raised
  dsimp only
  split
  · exact le_rfl
  next fits => exact not_lt.mp fits

theorem raised_of_above (num_pos : 0 < num) (above : config.armyLimit < state.guildReserveCount) :
    state.raised config num = config.armyLimit := by
  unfold State.raised
  exact if_pos (above.trans (lt_add_of_pos_right _ num_pos))

/-- A purchase is right exactly if the reserve is not above the limit or the balances refuse it. -/
theorem bought_iff (num_pos : 0 < num) :
    Bought config state (state.addGuildReserveCount config num) ↔
      state.guildReserveCount ≤ config.armyLimit ∨ state.affords config num = false := by
  unfold State.addGuildReserveCount
  rw [if_neg num_pos.not_ge]
  by_cases affords : state.affords config num = true
  · rw [if_pos affords, affords]
    constructor
    · intro bought
      refine .inl (not_lt.mp fun above => ?_)
      have lowered : state.guildReserveCount ≤ config.armyLimit :=
        bought.not_lowered.trans (raised_of_above num_pos above).le
      exact absurd above lowered.not_gt
    · rintro (within | refused)
      · have clipped := clipped_nonneg num_pos within
        refine ⟨?_, raised_le.trans (le_max_right _ _), fun res => ?_⟩
        · exact raised_eq.symm ▸ le_add_of_nonneg_right clipped
        · dsimp only
          rw [num_costResDict affords clipped, raised_eq, add_sub_cancel_left]
      · cases refused
  · rw [if_neg affords]
    exact iff_of_true (.refl config state) (.inr (Bool.eq_false_iff.mpr affords))

theorem same_soliders {cfgId : ℤ} {level other : ℕ} {first second : Armies.SoliderCfg}
    (found : (fun _ _ => some ⟨some 4⟩ : ℤ → ℕ → Option Armies.SoliderCfg) cfgId level =
      some first)
    (found_other : (fun _ _ => some ⟨some 4⟩ : ℤ → ℕ → Option Armies.SoliderCfg) cfgId other =
      some second) : first = second :=
  (Option.some.inj found).symm.trans (Option.some.inj found_other)

def sampleConfig : Config where
  costRes := [(Resources.resStarCoin, 300)]
  armyLimit := 100
  armies := ⟨fun _ _ => some ⟨some 4⟩, @same_soliders, 14, false⟩

/-- 40 of the 100 soldiers become 10 larger ones of a campaign, 40 others are bought, and the first
ones come back. -/
def soldiersBack : Option State :=
  (((State.mk 0 ⟨fun _ => 60000⟩).addGuildReserveCount sampleConfig 100).costPersonalUnionSoldier
    sampleConfig [⟨1, 1, 10⟩]).bind fun state =>
      (state.addGuildReserveCount sampleConfig 40).returnBackPersonalUnionSoldier sampleConfig
        [⟨1, 1, 10⟩]

/-- One more soldier takes the reserve from 140 back to 100. -/
theorem not_bought_soldiersBack : ∃ state, soldiersBack = some state ∧
    ¬ Bought sampleConfig state (state.addGuildReserveCount sampleConfig 1) := by
  have before : soldiersBack.map State.guildReserveCount = some 140 := by decide +kernel
  have after : soldiersBack.map (fun state =>
      (state.addGuildReserveCount sampleConfig 1).guildReserveCount) = some 100 := by
    decide +kernel
  obtain ⟨state, back, count_eq⟩ := Option.map_eq_some_iff.mp before
  rw [back, Option.map_some, Option.some.injEq] at after
  refine ⟨state, back, fun bought => ?_⟩
  have not_lowered := bought.not_lowered
  rw [after, count_eq] at not_lowered
  exact absurd not_lowered (by decide)

/-- 40 soldiers are asked for and 30 find room. -/
theorem bought_sample : Bought sampleConfig ⟨70, ⟨fun _ => 60000⟩⟩
    ((State.mk 70 ⟨fun _ => 60000⟩).addGuildReserveCount sampleConfig 40) :=
  (bought_iff (by decide)).mpr (.inl (by decide))

end Purchases

end BasWar.GuildReserve
