import BasWar.Player.ArmiesPaid

/-!
# Fills, battles and training keep the soldiers

A fill-up takes from the reserves what the new soldiers are worth.  A battle takes no more than the
reported dead, and training is all that adds to the reserves.
-/

namespace BasWar.Armies

open Tables

namespace State

variable {teamSpace soliderCount trainSpace reserves : ℤ}

theorem fillCount_bounds (space_pos : 0 < trainSpace) (reserves_nonneg : 0 ≤ reserves) :
    let num := fillCount teamSpace soliderCount trainSpace reserves
    trainSpace * num ≤ reserves ∧ (soliderCount + num) * trainSpace ≤ teamSpace ∧
      (num < 0 → teamSpace < soliderCount * trainSpace) ∧
        (0 ≤ teamSpace → 0 ≤ soliderCount → 0 ≤ soliderCount + num) := by
  have full_eq : (teamSpace - soliderCount * trainSpace) / trainSpace =
      teamSpace / trainSpace - soliderCount := Int.sub_mul_ediv_right _ _ space_pos.ne'
  have places : teamSpace / trainSpace * trainSpace ≤ teamSpace :=
    Int.ediv_mul_le _ space_pos.ne'
  have stored : trainSpace * (reserves / trainSpace) ≤ reserves :=
    Int.mul_ediv_self_le space_pos.ne'
  unfold fillCount
  rw [full_eq, max_eq_left reserves_nonneg]
  dsimp only
  split_ifs with short
  · have less : reserves / trainSpace < teamSpace / trainSpace - soliderCount :=
      (Int.ediv_lt_iff_lt_mul space_pos).mpr (by rwa [mul_comm])
    have some_nonneg : 0 ≤ reserves / trainSpace := Int.ediv_nonneg reserves_nonneg space_pos.le
    refine ⟨stored, le_trans ?_ places, fun _ => by omega, fun _ _ => by omega⟩
    exact mul_le_mul_of_nonneg_right (by omega) space_pos.le
  · refine ⟨not_lt.mp short, ?_, fun negative => ?_, fun space_nonneg _ => ?_⟩
    · rwa [add_sub_cancel]
    · exact (Int.ediv_lt_iff_lt_mul space_pos).mp (sub_neg.mp negative)
    · rw [add_sub_cancel]
      exact Int.ediv_nonneg space_nonneg space_pos.le

end State

namespace Reserve

theorem cost_takes (num : ℤ) (reserves : List Reserve) :
    ((cost num reserves).any fun val => val.trainCfgId = 0) =
      reserves.any fun val => val.trainCfgId = 0 := by
  induction reserves generalizing num with
  | nil => rfl
  | cons val rest ih =>
      unfold cost
      split_ifs with takes
      · simp [takes]
      · simp [takes]
      · simp [takes, ih]

theorem count_nonneg {reserves : List Reserve} (sane : ∀ val ∈ reserves, val.Sane) :
    0 ≤ total (reserves.filter fun val => val.trainCfgId = 0) := by
  refine List.sum_nonneg fun count count_mem => ?_
  obtain ⟨val, val_mem, rfl⟩ := List.mem_map.mp count_mem
  exact (sane val (List.mem_of_mem_filter val_mem)).1

end Reserve

/-- Nothing is lost or gained, and further fill-ups are fair. -/
structure Fills (config : Config) (before after : State) : Prop where
  keeps : Keeps config before after
  canFill : after.canFill config

section Fills

variable {config : Config} {state after : State} {army : Army} {armyId index : ℤ}

theorem Fills.refl (tidy : Tidy config state) (fair : state.canFill config) :
    Fills config state state :=
  ⟨.refl tidy, fair⟩

theorem recount_keeps (tidy : Tidy config state) {slot : Slot}
    (found : state.armys.get armyId = some army) (placed : army.teams.get index = some slot)
    {count : ℤ} (count_nonneg : 0 ≤ count)
    (armys : after.armys = state.armys.put
      (army.setTeam index { slot.team with soliderCount := count }))
    (levels : after.soliderLevels = state.soliderLevels)
    (reserves : Reserve.total after.reserveArmy.objects +
        state.value config { slot.team with soliderCount := count } =
      Reserve.total state.reserveArmy.objects + state.value config slot.team)
    (sane : ∀ val ∈ after.reserveArmy.objects, val.Sane) : Keeps config state after := by
  have old_tidy := tidy.teams slot.team
    (State.mem_teams_of_get found (Army.get_mem_teamList placed))
  have new_tidy : Team.Tidy config state { slot.team with soliderCount := count } :=
    ⟨count_nonneg, old_tidy.led, old_tidy.configured⟩
  refine written_keeps tidy found index new_tidy levels (fun team team_mem => ?_) ?_ ?_ sane
  · have listed : team ∈ { state with
        armys := state.armys.put
          (army.setTeam index { slot.team with soliderCount := count }) }.teams := by
      simpa only [State.teams, armys] using team_mem
    exact State.mem_teams_setTeam found listed
  · simp only [State.sum, armys]
  · rw [State.valueAt, placed]
    exact reserves

theorem fillUp_fills (tidy : Tidy config state) (fair : state.canFill config)
    (soldiers : ∀ army ∈ state.armys.get armyId, ∀ slot ∈ army.teams.get index,
      slot.team.soliderCfgId ≠ 0)
    (filled : state.fillUpSoliders config armyId index = some after) :
    Fills config state after := by
  unfold State.fillUpSoliders at filled
  obtain ⟨army, found, filled⟩ := Option.bind_eq_some_iff.mp filled
  obtain ⟨slot, placed, filled⟩ := Option.bind_eq_some_iff.mp filled
  have has_soldiers := soldiers army found slot placed
  have team_mem := State.mem_teams_of_get found (Army.get_mem_teamList placed)
  split at filled
  next teamSpace trainSpace teamSpace_eq trainSpace_eq =>
    have stored : 0 ≤ state.getReserveArmyCount := Reserve.count_nonneg tidy.reserves
    have space_pos : (0 : ℤ) < trainSpace := Int.natCast_pos.mpr trainSpace.pos
    obtain ⟨num, num_eq⟩ : ∃ num, num = State.fillCount teamSpace slot.team.soliderCount
      trainSpace state.getReserveArmyCount := ⟨_, rfl⟩
    obtain ⟨enough, fits, too_many, left⟩ := @State.fillCount_bounds teamSpace
      slot.team.soliderCount trainSpace state.getReserveArmyCount space_pos stored
    have after_eq := Option.some.inj filled
    rw [← num_eq] at enough fits too_many left after_eq
    have count_nonneg := left (Int.natCast_nonneg _) (tidy.teams slot.team team_mem).count
    have worth : state.value config
        { slot.team with soliderCount := slot.team.soliderCount + num } =
          state.value config slot.team + trainSpace * num := by
      rw [value_of_space has_soldiers trainSpace_eq, ← mul_add]
      refine value_of_space ?_ ?_
      · exact has_soldiers
      · exact trainSpace_eq
    -- a filled team has no more soldiers than places, and the others are as they were
    have no_more (others : ∀ team ∈ state.teams, state.overfull config team = false) :
        ∀ team ∈ { state with
          armys := state.armys.put (army.setTeam index
            { slot.team with soliderCount := slot.team.soliderCount + num }) }.teams,
          state.overfull config team = false := by
      intro team is_team
      rcases State.mem_teams_setTeam found is_team with rfl | old
      · simp [State.overfull, teamSpace_eq, trainSpace_eq, fits]
      · exact others team old
    unfold State.canFill at fair
    rw [Bool.or_eq_true] at fair
    unfold State.fillTeam at after_eq
    dsimp only at after_eq
    by_cases nothing : num = 0
    · have unpaid : State.costReserveArmyCount (trainSpace * num) { state with
          armys := state.armys.put (army.setTeam index
            { slot.team with soliderCount := slot.team.soliderCount + num }) } = none :=
        if_pos (.inl (by simp [nothing]))
      rw [unpaid, Option.getD_none] at after_eq
      subst after_eq
      refine ⟨recount_keeps tidy found placed count_nonneg rfl rfl ?_ tidy.reserves, ?_⟩
      · dsimp only
        rw [worth, nothing, mul_zero, add_zero]
      · unfold State.canFill
        rw [Bool.or_eq_true]
        refine fair.imp_right fun all_fit => ?_
        simp only [List.all_eq_true, Bool.not_eq_true'] at all_fit ⊢
        exact no_more all_fit
    · have paid : State.costReserveArmyCount (trainSpace * num) { state with
          armys := state.armys.put (army.setTeam index
            { slot.team with soliderCount := slot.team.soliderCount + num }) } = some
          { state with
            armys := state.armys.put (army.setTeam index
              { slot.team with soliderCount := slot.team.soliderCount + num })
            reserveArmy := state.reserveArmy.rewrite (Reserve.cost (trainSpace * num))
              (Reserve.cost_keys (trainSpace * num)) } :=
        if_neg (not_or.mpr ⟨mul_ne_zero space_pos.ne' nothing, not_lt.mpr enough⟩)
      rw [paid, Option.getD_some] at after_eq
      subst after_eq
      have there : 0 < trainSpace * num ∨
          ∃ val ∈ state.reserveArmy.objects, val.trainCfgId = 0 := by
        rcases lt_or_gt_of_ne nothing with negative | positive
        · rcases fair with takes | all_fit
          · exact .inr (by simpa using takes)
          · -- a team that has too many soldiers is overfull
            have fit := List.all_eq_true.mp all_fit slot.team team_mem
            simp only [State.overfull, teamSpace_eq, trainSpace_eq, Bool.not_eq_true',
              decide_eq_false_iff_not] at fit
            exact absurd (too_many negative) fit
        · exact .inl (mul_pos space_pos positive)
      refine ⟨recount_keeps tidy found placed count_nonneg rfl rfl ?_
        (Reserve.cost_sane tidy.reserves), ?_⟩
      · have cost := Reserve.cost_total enough there
        simp only [Keyed.rewrite, cost, worth]
        omega
      · unfold State.canFill
        rw [Bool.or_eq_true]
        refine fair.imp (fun takes => ?_) fun all_fit => ?_
        · simp only [Keyed.rewrite, Reserve.cost_takes]
          exact takes
        · simp only [List.all_eq_true, Bool.not_eq_true'] at all_fit ⊢
          exact no_more all_fit
  · cases filled

theorem Fills.trans {first second third : State} (earlier : Fills config first second)
    (later : Fills config second third) : Fills config first third :=
  ⟨earlier.keeps.trans later.keeps, later.canFill⟩

section

variable (tidy : Tidy config state)
include tidy

theorem fillPlace_fills (fair : state.canFill config) {place : ℤ × ℤ}
    (filled : state.fillPlace config place = some after) : Fills config state after := by
  unfold State.fillPlace at filled
  obtain ⟨army, found, filled⟩ := Option.bind_eq_some_iff.mp filled
  obtain ⟨slot, placed, filled⟩ := Option.bind_eq_some_iff.mp filled
  split at filled
  · exact Option.some.inj filled ▸ .refl tidy fair
  next soldiers =>
    refine fillUp_fills tidy fair (fun other other_eq team team_eq => ?_) filled
    rw [found] at other_eq
    cases Option.some.inj other_eq
    rw [placed] at team_eq
    cases Option.some.inj team_eq
    exact soldiers

theorem fillAll_fills (fair : state.canFill config) (places : List (ℤ × ℤ)) :
    Fills config state (state.fillAll config places).1 := by
  induction places generalizing state with
  | nil => exact .refl tidy fair
  | cons place places ih =>
      unfold State.fillAll
      split
      · exact .refl tidy fair
      next filled filled_eq =>
        have first := fillPlace_fills tidy fair filled_eq
        exact first.trans (ih first.keeps.tidy first.canFill)

theorem oneKeyFillUpSoliders_keeps (armyIds : List ℤ) (fair : state.canFill config) :
    Keeps config state (state.oneKeyFillUpSoliders config armyIds) := by
  unfold State.oneKeyFillUpSoliders
  dsimp only
  have filled := fillAll_fills tidy fair ((if armyIds = [] then state.armys.objects else
    armyIds.filterMap state.armys.get).flatMap State.places)
  split
  next after after_eq =>
    rw [after_eq] at filled
    exact filled.keeps
  next after after_eq =>
    rw [after_eq] at filled
    exact filled.keeps.trans (.of_same filled.keeps.tidy rfl rfl rfl)

theorem getFightSoliders_keeps (armyId : ℤ) (fair : state.canFill config) :
    Keeps config state (state.getFightSoliders config armyId) := by
  unfold State.getFightSoliders
  split
  · exact .refl tidy
  · dsimp only
    split
    · exact (fillAll_fills tidy fair _).keeps
    · exact .refl tidy

theorem takeSoldier_fills (fair : state.canFill config) {team : BattleTeam}
    (taken : state.getStarmapCampaignSoldier config team = some after) :
    Fills config state after := by
  unfold State.getStarmapCampaignSoldier at taken
  split at taken
  · exact Option.some.inj taken ▸ .refl tidy fair
  next named =>
    split at taken
    · exact Option.some.inj taken ▸ .refl tidy fair
    next army found =>
      obtain ⟨slot, placed, taken⟩ := Option.bind_eq_some_iff.mp taken
      split at taken
      · exact Option.some.inj taken ▸ .refl tidy fair
      next same =>
        rw [not_or] at named same
        refine fillUp_fills tidy fair (fun other other_eq place place_eq => ?_) taken
        rw [found] at other_eq
        cases Option.some.inj other_eq
        rw [placed] at place_eq
        cases Option.some.inj place_eq
        rw [not_not.mp same.1]
        exact named.2

theorem takeStarmapCampaignArmy_keeps (teams : List BattleTeam) (fair : state.canFill config) :
    Keeps config state (state.takeStarmapCampaignArmy config teams) := by
  induction teams generalizing state with
  | nil => exact .refl tidy
  | cons team teams ih =>
      unfold State.takeStarmapCampaignArmy
      split
      · exact .refl tidy
      next filled filled_eq =>
        have first := takeSoldier_fills tidy fair filled_eq
        exact first.keeps.trans (ih first.keeps.tidy first.canFill)

end

end Fills

/-- What is trained comes, and what the dead were worth goes. -/
structure Moves (config : Config) (before after : State) (entries : List Entry) : Prop where
  tidy : Tidy config after
  balance : before.total config + (entries.map Entry.trainedCount).sum =
    after.total config + (entries.map Entry.removedCount).sum
  fair : ∀ entry ∈ entries, entry.Fair

namespace Moves

variable {config : Config} {first second third : State} {entries more : List Entry}

theorem of_keeps (keeps : Keeps config first second) : Moves config first second [] :=
  ⟨keeps.tidy, by simp [keeps.total], by simp⟩

theorem trans (earlier : Moves config first second entries)
    (later : Moves config second third more) : Moves config first third (entries ++ more) where
  tidy := later.tidy
  balance := by
    have balance := earlier.balance
    have later_balance := later.balance
    simp only [List.map_append, List.sum_append]
    omega
  fair entry entry_mem := by
    rcases List.mem_append.mp entry_mem with left | right
    · exact earlier.fair entry left
    · exact later.fair entry right

end Moves

section Losses

variable {config : Config} {state : State} {army : Army} {armyId : ℤ}

theorem value_add (config : Config) (state : State) (team : Team) (part other : ℤ) :
    state.value config { team with soliderCount := part + other } =
      state.value config { team with soliderCount := part } +
        state.value config { team with soliderCount := other } := by
  by_cases soldiers : team.soliderCfgId = 0
  · simp [State.value, State.teamNeed, soldiers]
  · cases space : config.trainSpace team.soliderCfgId (state.soliderLevels team.soliderCfgId) with
    | none =>
        simp [State.value, State.teamNeed, soldiers, Config.getNeedReserveSolider, space]
    | some trainSpace =>
        simp [State.value, State.teamNeed, soldiers, Config.getNeedReserveSolider, space, mul_add]

theorem loseSoldiers_moves (tidy : Tidy config state) {slot : Slot} {index dieCount : ℤ}
    (found : state.armys.get armyId = some army) (placed : army.teams.get index = some slot)
    (dead_nonneg : 0 ≤ dieCount) :
    Moves config state (state.loseSoldiers config army slot dieCount).1
      [(state.loseSoldiers config army slot dieCount).2] := by
  have old_tidy := tidy.teams slot.team
    (State.mem_teams_of_get found (Army.get_mem_teamList placed))
  have count_nonneg := old_tidy.count
  obtain ⟨_, rfl⟩ := Keyed.get_mem placed
  obtain ⟨left, left_eq⟩ : ∃ left, left = max (slot.team.soliderCount - dieCount) 0 := ⟨_, rfl⟩
  have left_nonneg : 0 ≤ left := left_eq ▸ le_max_right _ _
  have worth : state.value config slot.team =
      state.value config { slot.team with soliderCount := left } +
        state.value config
          { slot.team with soliderCount := slot.team.soliderCount - left } := by
    have parts := value_add config state slot.team left (slot.team.soliderCount - left)
    rwa [add_sub_cancel] at parts
  have nothing : state.value config { slot.team with soliderCount := 0 } = 0 :=
    value_zero_count config state slot.team.heroId slot.team.soliderCfgId
  have lost_eq : state.loseSoldiers config army slot dieCount =
      ({ state with
          armys := state.armys.put
            (army.setTeam slot.index { slot.team with soliderCount := left }) },
        .died (state.value config { slot.team with soliderCount := dieCount })
          (state.value config
            { slot.team with soliderCount := slot.team.soliderCount - left })) := by
    rw [left_eq]
    rfl
  rw [lost_eq]
  refine ⟨⟨fun team team_mem => ?_, tidy.reserves⟩, ?_, List.forall_mem_singleton.mpr ⟨?_, ?_⟩⟩
  · suffices team_tidy : team.Tidy config state from team_tidy.congr rfl
    rcases State.mem_teams_setTeam found team_mem with rfl | old
    · exact ⟨left_nonneg, old_tidy.led, old_tidy.configured⟩
    · exact tidy.teams team old
  · have written := sum_writeTeam (state.value config) found slot.index
      { slot.team with soliderCount := left }
    simp only [placed, Option.map_some, Option.getD_some] at written
    have same : State.value config { state with
        armys := state.armys.put
          (army.setTeam slot.index { slot.team with soliderCount := left }) } =
        state.value config := value_congr rfl
    dsimp only at worth
    simp only [State.total, same, List.map_singleton, List.sum_singleton, Entry.trainedCount,
      Entry.removedCount]
    omega
  · rw [← nothing]
    exact value_mono (by omega)
  · exact value_mono (by omega)

theorem putInOrder_keeps (tidy : Tidy config state) (armyId : ℤ) :
    Keeps config state (state.putInOrderArmyTeams armyId) := by
  unfold State.putInOrderArmyTeams
  split
  · exact .refl tidy
  next army found =>
    obtain ⟨_, rfl⟩ := Keyed.get_mem found
    have army_tidy : ∀ team ∈ army.teamList, team.Tidy config state := fun team team_mem =>
      tidy.teams team (State.mem_teams_of_get found team_mem)
    refine ⟨⟨fun team team_mem => ?_, tidy.reserves⟩, ?_⟩
    · suffices team_tidy : team.Tidy config state from team_tidy.congr rfl
      rcases State.mem_teams_put team_mem with kept | old
      · rw [Army.teamList_putInOrder] at kept
        exact army_tidy team (List.mem_of_mem_filter kept)
      · exact tidy.teams team old
    · have put := State.sum_put (state.value config) army.putInOrder found
      rw [Army.sum_putInOrder (state.value config) fun team team_mem =>
        (army_tidy team team_mem).value_heroless] at put
      have same : State.value config { state with armys := state.armys.put army.putInOrder } =
          state.value config := value_congr rfl
      simp only [State.total, same, add_right_cancel put]

variable {soliders : List Loss}

theorem lossesFair_loseSoldiers (fair : state.lossesFair soliders) (army : Army) (slot : Slot)
    (dieCount : ℤ) : (state.loseSoldiers config army slot dieCount).1.lossesFair soliders := by
  intro loss loss_mem named there
  refine fair loss loss_mem named ?_
  rwa [State.loseSoldiers, Keyed.isSome_get_put] at there

theorem loseAll_moves (tidy : Tidy config state) (fair : state.lossesFair soliders) (armyId : ℤ) :
    Moves config state (state.loseAll config armyId soliders).1
      (state.loseAll config armyId soliders).2.1 := by
  induction soliders generalizing armyId state with
  | nil => exact .of_keeps (.refl tidy)
  | cons loss soliders ih =>
      obtain ⟨fair_loss, fair_rest⟩ := List.forall_mem_cons.mp fair
      unfold State.loseAll
      split
      · exact ih tidy fair_rest armyId
      next named =>
        split
        · exact ih tidy fair_rest _
        next army found =>
          split
          · exact .of_keeps (.refl tidy)
          next slot placed =>
            have first := loseSoldiers_moves tidy found placed
              (fair_loss named (by rw [found]; rfl))
            exact first.trans (ih first.tidy
              (lossesFair_loseSoldiers fair_rest army slot loss.dieCount) _)

theorem costSolidersLife_moves (tidy : Tidy config state) (fair : state.lossesFair soliders) :
    Moves config state (state.costSolidersLife config soliders).1
      (state.costSolidersLife config soliders).2 := by
  have lost := loseAll_moves tidy fair 0
  unfold State.costSolidersLife
  split
  next last entries lost_eq =>
    rw [lost_eq] at lost
    exact lost
  next last entries armyId lost_eq =>
    rw [lost_eq] at lost
    dsimp only
    split
    · exact lost
    · have ordered := lost.trans (.of_keeps (putInOrder_keeps lost.tidy armyId))
      rwa [List.append_nil] at ordered

end Losses

section Training

variable {config : Config} {state : State}

theorem Moves.of_reserves (tidy : Tidy config state) {after : State} {entries : List Entry}
    (armys : after.armys = state.armys) (levels : after.soliderLevels = state.soliderLevels)
    (reserves : Reserve.total after.reserveArmy.objects =
      Reserve.total state.reserveArmy.objects + (entries.map Entry.trainedCount).sum)
    (sane : ∀ val ∈ after.reserveArmy.objects, val.Sane)
    (fair : ∀ entry ∈ entries, entry.Fair)
    (none_removed : (entries.map Entry.removedCount).sum = 0) :
    Moves config state after entries := by
  refine ⟨⟨fun team team_mem => ?_, sane⟩, ?_, fair⟩
  · rw [State.teams, armys] at team_mem
    exact (tidy.teams team team_mem).congr levels
  · simp only [State.total, value_congr levels, State.sum, armys, reserves, none_removed]
    omega

theorem doReserveArmyTrain_moves (tidy : Tidy config state) {soliderCount : ℤ}
    (count_nonneg : 0 ≤ soliderCount) (id soliderCfgId : ℤ) (speedup affords : Bool) (now : ℤ) :
    Moves config state
      (state.doReserveArmyTrain id soliderCfgId soliderCount speedup affords now).1
      (state.doReserveArmyTrain id soliderCfgId soliderCount speedup affords now).2 := by
  obtain ⟨val, val_eq⟩ : ∃ val, val = (state.reserveArmy.get id).getD (.new id) := ⟨_, rfl⟩
  have opened : val.buildId = id ∧ val.Sane ∧ val ∈ (state.reserveArmy.add val).objects ∧
      Reserve.total (state.reserveArmy.add val).objects =
        Reserve.total state.reserveArmy.objects := by
    cases found : state.reserveArmy.get id with
    | none =>
        rw [found, Option.getD_none] at val_eq
        subst val_eq
        have there : (state.reserveArmy.add (.new id)).get id = some (.new id) := by
          simp [Keyed.get_add, found, Reserve.new]
        refine ⟨rfl, ⟨le_rfl, le_rfl⟩, (Keyed.get_mem there).1, ?_⟩
        exact (Keyed.sum_add Reserve.count found).trans (add_zero _)
    | some old =>
        rw [found, Option.getD_some] at val_eq
        subst val_eq
        obtain ⟨val_mem, rfl⟩ := Keyed.get_mem found
        have unchanged : state.reserveArmy.add val = state.reserveArmy := by
          simp [Keyed.add, found]
        rw [unchanged]
        exact ⟨rfl, tidy.reserves val val_mem, val_mem, rfl⟩
  obtain ⟨named, val_sane, val_mem, opened_total⟩ := opened
  have opened_sane : ∀ other ∈ (state.reserveArmy.add val).objects, other.Sane := by
    intro other other_mem
    rcases Keyed.mem_add other_mem with rfl | old
    · exact val_sane
    · exact tidy.reserves other old
  have put_total (written : Reserve) (same : written.buildId = val.buildId) :
      Reserve.total ((state.reserveArmy.add val).put written).objects + val.count =
        Reserve.total state.reserveArmy.objects + written.count := by
    rw [← opened_total]
    exact Keyed.sum_put Reserve.count val_mem same.symm
  have put_sane {written : Reserve} (sane : written.Sane) :
      ∀ other ∈ ((state.reserveArmy.add val).put written).objects, other.Sane := by
    intro other other_mem
    rcases Keyed.mem_put other_mem with rfl | ⟨old, _⟩
    · exact sane
    · exact opened_sane other old
  have total_nonneg : 0 ≤ val.trainCount + soliderCount := add_nonneg val_sane.2 count_nonneg
  unfold State.doReserveArmyTrain
  dsimp only
  rw [← val_eq]
  split
  · exact .of_reserves tidy rfl rfl (opened_total.trans (add_zero _).symm) opened_sane
      (by simp) rfl
  · split
    · refine .of_reserves tidy rfl rfl ?_ (put_sane ⟨add_nonneg val_sane.1 total_nonneg, le_rfl⟩)
        (List.forall_mem_singleton.mpr total_nonneg) rfl
      have written := put_total ⟨val.buildId, soliderCfgId, 0, 0, 0,
        val.count + (val.trainCount + soliderCount)⟩ rfl
      simp only [List.map_singleton, List.sum_singleton, Entry.trainedCount]
      dsimp only at written
      omega
    · refine .of_reserves tidy rfl rfl ?_ (put_sane ⟨val_sane.1, total_nonneg⟩) (by simp) rfl
      have written := put_total ⟨val.buildId, soliderCfgId, val.trainCount + soliderCount,
        if val.trainTick = 0 then now else val.trainTick,
        if val.trainTick = 0 then now else val.startTime, val.count⟩ rfl
      exact (add_right_cancel written).trans (add_zero _).symm

theorem updateReserveArmy_moves (tidy : Tidy config state) (now : ℤ) :
    Moves config state (state.updateReserveArmy config now).1
      (state.updateReserveArmy config now).2 := by
  have grown : ∀ reserves : List Reserve,
      Reserve.total (reserves.map fun val => (val.update config now).1) =
        Reserve.total reserves + (reserves.map fun val => (val.update config now).2).sum := by
    intro reserves
    induction reserves with
    | nil => rfl
    | cons val rest ih =>
        have first := (Reserve.update_count config now val).1
        simp only [Reserve.total, List.map_cons, List.sum_cons] at ih ⊢
        omega
  refine .of_reserves tidy rfl rfl ?_ ?_ (List.forall_mem_singleton.mpr ?_) rfl
  · simpa [State.updateReserveArmy, Keyed.map, Entry.trainedCount] using
      grown state.reserveArmy.objects
  · intro val val_mem
    obtain ⟨old, old_mem, rfl⟩ := List.mem_map.mp val_mem
    obtain ⟨count, trained, training⟩ := Reserve.update_count config now old
    exact ⟨count ▸ add_nonneg (tidy.reserves old old_mem).1 trained, training⟩
  · refine List.sum_nonneg fun trained trained_mem => ?_
    obtain ⟨val, _, rfl⟩ := List.mem_map.mp trained_mem
    exact (Reserve.update_count config now val).2.1

theorem levelUpSolider_keeps (tidy : Tidy config state) (cfgId : ℤ) :
    Keeps config state (state.levelUpSolider config cfgId) := by
  obtain ⟨armys, _, reserves⟩ := State.levelUpSolider_armys config cfgId state
  have worth : (state.levelUpSolider config cfgId).value config = state.value config := by
    funext team
    simp only [State.value, State.teamNeed, Config.getNeedReserveSolider,
      State.trainSpace_levelUpSolider]
  refine ⟨⟨fun team team_mem => ?_, reserves ▸ tidy.reserves⟩, ?_⟩
  · rw [State.teams, armys] at team_mem
    have team_tidy := tidy.teams team team_mem
    refine ⟨team_tidy.count, team_tidy.led, ?_⟩
    have configured := team_tidy.configured
    unfold Team.Configured at configured ⊢
    rwa [State.trainSpace_levelUpSolider]
  · simp only [State.total, State.sum, worth, armys, reserves]

end Training

section Bags

variable {config : Config}

theorem dismantle_frame (bag : EntityBag) (ids : List (ℤ × Bool)) (state : State) :
    ∃ entities, state.dismantle bag ids = { state with entities } := by
  induction ids generalizing state with
  | nil => exact ⟨state.entities, rfl⟩
  | cons entry ids ih =>
      unfold State.dismantle
      split
      · obtain ⟨entities, last_eq⟩ := ih (state.delete [(bag, entry.1)])
        exact ⟨entities, last_eq⟩
      · exact ⟨state.entities, rfl⟩

theorem setRefs_frame (ref : Ref) (ids : List EntityId) (state : State) :
    ∃ entities, ids.foldl (fun state id => state.setRef id ref) state =
      { state with entities } := by
  induction ids generalizing state with
  | nil => exact ⟨state.entities, rfl⟩
  | cons id ids ih =>
      obtain ⟨entities, last_eq⟩ := ih (state.setRef id ref)
      exact ⟨entities, last_eq⟩

end Bags

theorem moves_step {config : Config} {state : State} (tidy : Tidy config state) (event : Event)
    (safe : event.KeepsReserves config state) :
    Moves config state ((machine config).step state event).1
      ((machine config).step state event).2 := by
  cases event with
  | addArmys armyId nameOk teams => exact .of_keeps (addArmys_keeps tidy safe)
  | updateArmy armyId index nameOk teams => exact .of_keeps (updateArmy_keeps tidy safe)
  | deleteArmys armyId => exact .of_keeps (deleteArmys_keeps tidy safe)
  | cleanAllArmy => exact .of_keeps (cleanAllArmy_keeps tidy safe)
  | editedArmy armyId index team => exact .of_keeps (editedArmy_keeps tidy safe)
  | updateAutomatic autoStatus => exact .of_keeps (.of_same tidy rfl rfl rfl)
  | oneKeyFillUpSoliders armyIds =>
      exact .of_keeps (oneKeyFillUpSoliders_keeps tidy armyIds safe)
  | getFightSoliders armyId => exact .of_keeps (getFightSoliders_keeps tidy armyId safe)
  | takeStarmapCampaignArmy teams =>
      exact .of_keeps (takeStarmapCampaignArmy_keeps tidy teams safe)
  | costSolidersLife soliders => exact costSolidersLife_moves tidy safe
  | starmapCampaignCostArmyLife dieSoliders => exact costSolidersLife_moves tidy safe
  | reserveArmyTrain id soliderCfgId soliderCount free affords now =>
      simp only [machine, State.reserveArmyTrain]
      split
      next allowed =>
        exact doReserveArmyTrain_moves tidy allowed.1.le id soliderCfgId false affords now
      · exact .of_keeps (.refl tidy)
  | speedupReserveArmy id soliderCfgId soliderCount free affords now =>
      simp only [machine, State.speedupReserveArmy]
      split
      next allowed =>
        exact doReserveArmyTrain_moves tidy allowed.1 id soliderCfgId true affords now
      · exact .of_keeps (.refl tidy)
  | updateReserveArmy now => exact updateReserveArmy_moves tidy now
  | levelUpSolider cfgId => exact .of_keeps (levelUpSolider_keeps tidy cfgId)
  | levelUpBuild id maxTrainSpace => exact .of_keeps (.of_same tidy rfl rfl rfl)
  | levelUpBase baseSpace => exact .of_keeps (.of_same tidy rfl rfl rfl)
  | sell bag ids =>
      simp only [machine, State.sell]
      split <;> exact .of_keeps (.of_same tidy rfl rfl rfl)
  | dismantle bag ids =>
      obtain ⟨entities, last_eq⟩ := dismantle_frame bag ids state
      simp only [machine, last_eq]
      exact .of_keeps (.of_same tidy rfl rfl rfl)
  | withdrawNFT ids =>
      simp only [machine, State.withdrawNFT]
      split <;> exact .of_keeps (.of_same tidy rfl rfl rfl)
  | withdrawn turn =>
      simp only [machine, State.withdrawn]
      split <;> exact .of_keeps (.of_same tidy rfl rfl rfl)
  | donateNft ids =>
      simp only [machine, State.donateNft]
      split <;> exact .of_keeps (.of_same tidy rfl rfl rfl)
  | onUnionDonateNft turn taken =>
      simp only [machine, State.onUnionDonateNft]
      split
      · exact .of_keeps (.refl tidy)
      next ids _ =>
        obtain ⟨entities, last_eq⟩ := setRefs_frame .union (ids.filter taken) state
        rw [last_eq]
        exact .of_keeps (.of_same tidy rfl rfl rfl)
  | returnFromUnion bag idList =>
      obtain ⟨entities, last_eq⟩ := setRefs_frame .none (idList.map fun id => (bag, id)) state
      rw [List.foldl_map] at last_eq
      simp only [machine, State.returnFromUnion, last_eq]
      exact .of_keeps (.of_same tidy rfl rfl rfl)
  | addEntity id soldierSpace => exact .of_keeps (.of_same tidy rfl rfl rfl)
  | checkLevelUp heroId soldierSpace =>
      simp only [machine, State.checkLevelUp]
      split <;> exact .of_keeps (.of_same tidy rfl rfl rfl)
  | checkSkillUp heroId =>
      obtain ⟨entities, marked_eq⟩ := setHeroRef_frame heroId .army state
      simp only [machine, State.checkInArmy, marked_eq]
      split <;> exact .of_keeps (.of_same tidy rfl rfl rfl)
  | setOtherRef id ref =>
      simp only [machine, State.setOtherRef]
      split <;> exact .of_keeps (.of_same tidy rfl rfl rfl)

theorem tidy_fresh (config : Config) {start : State} (fresh : start.Fresh) :
    Tidy config start :=
  ⟨fun team team_mem => by simp [State.teams, fresh.armys] at team_mem, fresh.reserves⟩

/-- In every run of fair events the soldiers are paid for: the total of reserves and soldiers rises
by training only and falls by the dead only. -/
theorem conserved_run (config : Config) {start : State} (fresh : start.Fresh)
    (events : List Event)
    (safe : (machine config).Allowed (Event.KeepsReserves config) start events) :
    Conserved config start ((machine config).run start events).2
      ((machine config).run start events).1 := by
  have moved : Moves config start ((machine config).run start events).1
      ([] ++ ((machine config).run start events).2) :=
    Machine.journal_run (fun journal state => Moves config start state journal)
      (fun _ _ event moved safe => moved.trans (moves_step moved.tidy event safe))
      (.of_keeps (.refl (tidy_fresh config fresh))) safe
  rw [List.nil_append] at moved
  exact ⟨moved.balance, moved.fair, fun team team_mem => (moved.tidy.teams team team_mem).count⟩

/-- An army is filled up, fights and is filled up again, more soldiers are trained, and the army is
deleted. -/
theorem conserved_run_sample :
    Conserved sampleConfig sampleStart
      ((machine sampleConfig).run sampleStart
        [.addArmys 1 true [⟨7, 1, 3⟩], .updateArmy 1 1 true [⟨7, 1, 5⟩],
          .updateArmy 1 2 true [⟨8, 1, 2⟩], .oneKeyFillUpSoliders [],
          .costSolidersLife [⟨2, 1, 3⟩], .getFightSoliders 1,
          .reserveArmyTrain 20 0 10 true true 100, .updateReserveArmy 145,
          .updateArmy 1 2 true [⟨8, 0, 0⟩], .deleteArmys 1]).2
      ((machine sampleConfig).run sampleStart
        [.addArmys 1 true [⟨7, 1, 3⟩], .updateArmy 1 1 true [⟨7, 1, 5⟩],
          .updateArmy 1 2 true [⟨8, 1, 2⟩], .oneKeyFillUpSoliders [],
          .costSolidersLife [⟨2, 1, 3⟩], .getFightSoliders 1,
          .reserveArmyTrain 20 0 10 true true 100, .updateReserveArmy 145,
          .updateArmy 1 2 true [⟨8, 0, 0⟩], .deleteArmys 1]).1 :=
  conserved_run sampleConfig sampleStart_fresh _ (by decide +kernel)

/-- The sixth team of a new army brings soldiers that nobody pays for. -/
theorem not_conserved_created :
    ¬ ∀ (config : Config) (start : State) (events : List Event), start.Fresh →
      Conserved config start ((machine config).run start events).2
        ((machine config).run start events).1 := by
  intro always
  have balance := (always sampleConfig sampleStart
    [.addArmys 1 true [⟨7, 0, 0⟩, ⟨0, 0, 0⟩, ⟨0, 0, 0⟩, ⟨0, 0, 0⟩, ⟨0, 0, 0⟩, ⟨8, 1, 100⟩]]
    sampleStart_fresh).balance
  exact absurd balance (by decide +kernel)

end BasWar.Armies
