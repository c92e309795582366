import BasWar.Player.ArmiesLinked
import Mathlib

/-!
# Soldiers are paid for and kept

The reserves in the buildings and what the soldiers of the teams are worth make up one total.
Edits, fill-ups and deletions only move it from one side to the other, as long as the teams after
the fifth of a new army bring no soldiers, what is paid back finds room in the buildings, and no
battle reports a negative number of dead.
-/

namespace BasWar.Armies

open Tables

namespace Entry

def trainedCount : Entry → ℤ
  | .trained count => count
  | .died _ _ => 0

def removedCount : Entry → ℤ
  | .trained _ => 0
  | .died _ removed => removed

/-- Training takes nothing away, and a battle takes no more than the reported dead. -/
def Fair : Entry → Prop
  | .trained count => 0 ≤ count
  | .died dead removed => 0 ≤ removed ∧ removed ≤ dead

end Entry

namespace Reserve

/-- The free space of the buildings that take soldiers back, in the order in which they do. -/
def room (maxTrainSpace : ℤ → ℕ) : List Reserve → ℤ
  | [] => 0
  | val :: rest =>
      if val.trainCfgId = 0 then
        max (maxTrainSpace val.buildId - val.count)
          (maxTrainSpace val.buildId - val.count + room maxTrainSpace rest)
      else room maxTrainSpace rest

def total (reserves : List Reserve) : ℤ :=
  (reserves.map count).sum

def Sane (val : Reserve) : Prop :=
  0 ≤ val.count ∧ 0 ≤ val.trainCount

variable {num : ℤ} {reserves : List Reserve} {maxTrainSpace : ℤ → ℕ}

/-- A payment takes what it should, if the reserves are there. -/
theorem cost_total
    (enough : num ≤ total (reserves.filter fun val => val.trainCfgId = 0))
    (there : 0 < num ∨ ∃ val ∈ reserves, val.trainCfgId = 0) :
    total (cost num reserves) = total reserves - num := by
  induction reserves generalizing num with
  | nil =>
      rcases there with pos | ⟨val, val_mem, _⟩
      · simp only [List.filter_nil, total, List.map_nil, List.sum_nil] at enough
        omega
      · simp at val_mem
  | cons val rest ih =>
      unfold cost
      by_cases takes : val.trainCfgId = 0
      · rw [List.filter_cons_of_pos (by simpa using takes)] at enough
        simp only [total, List.map_cons, List.sum_cons] at enough ih ⊢
        split_ifs with less
        · have others := @ih (num - val.count) (by omega) (.inl (by omega))
          simp only [List.map_cons, List.sum_cons, others]
          omega
        · simp only [List.map_cons, List.sum_cons]
          omega
      · rw [List.filter_cons_of_neg (by simpa using takes)] at enough
        rw [if_neg takes]
        have others := ih enough (there.imp_right fun found => by
          obtain ⟨other, other_mem, other_takes⟩ := found
          rcases List.mem_cons.mp other_mem with rfl | rest_mem
          · exact absurd other_takes takes
          · exact ⟨other, rest_mem, other_takes⟩)
        simp only [total, List.map_cons, List.sum_cons] at others ⊢
        omega

theorem cost_sane (sane : ∀ val ∈ reserves, val.Sane) : ∀ val ∈ cost num reserves, val.Sane := by
  induction reserves generalizing num with
  | nil => exact sane
  | cons val rest ih =>
      rw [List.forall_mem_cons] at sane
      unfold cost
      split_ifs with takes less
      · exact List.forall_mem_cons.mpr ⟨⟨le_rfl, sane.1.2⟩, ih sane.2⟩
      · exact List.forall_mem_cons.mpr ⟨⟨sub_nonneg.mpr (not_lt.mp less), sane.1.2⟩, sane.2⟩
      · exact List.forall_mem_cons.mpr ⟨sane.1, ih sane.2⟩

/-- What finds room is added, and takes that much of the room. -/
theorem add_total (pos : 0 < num) (fits : num ≤ room maxTrainSpace reserves) :
    total (add maxTrainSpace num reserves) = total reserves + num ∧
      room maxTrainSpace (add maxTrainSpace num reserves) =
        room maxTrainSpace reserves - num := by
  induction reserves generalizing num with
  | nil =>
      simp only [room] at fits
      omega
  | cons val rest ih =>
      unfold add
      simp only [room] at fits ⊢
      by_cases takes : val.trainCfgId = 0
      · simp only [if_pos takes] at fits ⊢
        split_ifs with more
        · have others := @ih (num - (maxTrainSpace val.buildId - val.count)) (by omega)
            (by omega)
          simp only [total, room, List.map_cons, List.sum_cons, if_pos takes] at others ⊢
          omega
        · simp only [total, room, List.map_cons, List.sum_cons, if_pos takes]
          omega
      · simp only [if_neg takes] at fits ⊢
        have others := ih pos fits
        simp only [total, room, List.map_cons, List.sum_cons, if_neg takes] at others ⊢
        omega

theorem add_sane (pos : 0 < num) (sane : ∀ val ∈ reserves, val.Sane) :
    ∀ val ∈ add maxTrainSpace num reserves, val.Sane := by
  induction reserves generalizing num with
  | nil => exact sane
  | cons val rest ih =>
      rw [List.forall_mem_cons] at sane
      unfold add
      dsimp only
      split_ifs with takes more
      · refine List.forall_mem_cons.mpr ⟨⟨?_, sane.1.2⟩, ih (sub_pos.mpr more) sane.2⟩
        simp
      · exact List.forall_mem_cons.mpr ⟨⟨add_nonneg sane.1.1 pos.le, sane.1.2⟩, sane.2⟩
      · exact List.forall_mem_cons.mpr ⟨sane.1, ih pos sane.2⟩

theorem update_count (config : Config) (now : ℤ) (val : Reserve) :
    (val.update config now).1.count = val.count + (val.update config now).2 ∧
      0 ≤ (val.update config now).2 ∧ 0 ≤ (val.update config now).1.trainCount := by
  unfold update
  dsimp only
  split_ifs with running ended
  · exact ⟨rfl, running.2.2.1.le, le_rfl⟩
  · exact ⟨rfl, running.2.2.2.le, by simpa using (not_le.mp ended).le⟩
  · exact ⟨(add_zero _).symm, le_rfl, le_max_right _ _⟩

end Reserve

namespace State

def value (config : Config) (state : State) (team : Team) : ℤ :=
  (state.teamNeed config team).getD 0

def total (config : Config) (state : State) : ℤ :=
  Reserve.total state.reserveArmy.objects + state.sum (state.value config)

def room (state : State) : ℤ :=
  Reserve.room state.maxTrainSpace state.reserveArmy.objects

/-- A team has more soldiers than its hero and the base have places for. -/
def overfull (config : Config) (state : State) (team : Team) : Bool :=
  match state.getArmyTeamSpace team.heroId,
    config.trainSpace team.soliderCfgId (state.soliderLevels team.soliderCfgId) with
  | some teamSpace, some trainSpace => (teamSpace : ℤ) < team.soliderCount * trainSpace
  | _, _ => false

/-- A building takes back what a fill-up takes away, or none does. -/
def canFill (config : Config) (state : State) : Bool :=
  (state.reserveArmy.objects.any fun val => val.trainCfgId = 0) ||
    state.teams.all fun team => !state.overfull config team

/-- Each loss of a team is no negative number. -/
def lossesFair (soliders : List Loss) (state : State) : Prop :=
  ∀ loss ∈ soliders, loss.index ≠ 0 →
    (state.armys.get (loss.id - loss.index)).isSome → 0 ≤ loss.dieCount
  deriving Decidable

def valueAt (config : Config) (state : State) (army : Army) (index : ℤ) : ℤ :=
  ((army.teams.get index).map fun slot => state.value config slot.team).getD 0

end State

/-- All soldiers are paid for: the total rises by training only and falls by the dead only, and no
team holds a negative number. -/
structure Conserved (config : Config) (start : State) (journal : List Entry) (state : State) :
    Prop where
  balance : start.total config + (journal.map Entry.trainedCount).sum =
    state.total config + (journal.map Entry.removedCount).sum
  fair : ∀ entry ∈ journal, entry.Fair
  counts : ∀ team ∈ state.teams, 0 ≤ team.soliderCount

/-- A new army has no soldiers after its fifth team; no team without soldiers gets a negative number
of them; what is paid back finds room; a team that has too many soldiers is only filled up if a
building takes them; the editor changes no soldiers; and no battle reports a negative number of
dead. -/
def Event.KeepsReserves (config : Config) (state : State) : Event → Prop
  | .addArmys armyId nameOk teams =>
      state.refuses config armyId nameOk teams ∨
        (∀ team ∈ teams, team.soliderCfgId = 0 → 0 ≤ team.soliderCount) ∧
          ∀ team ∈ teams.drop 5, team.soliderCfgId = 0 ∨
            team.soliderCount = 0 ∧ team.heroId ≠ 0 ∧ (state.teamNeed config team).isSome
  | .updateArmy armyId index _ teams =>
      ∀ army ∈ state.armys.get armyId, ∀ newTeam ∈ teams.head?,
        state.heroFree army index newTeam.heroId && state.verifyArmyTeam config newTeam →
          (newTeam.soliderCfgId = 0 → 0 ≤ newTeam.soliderCount) ∧
            (state.value config newTeam < state.valueAt config army index →
              state.valueAt config army index - state.value config newTeam ≤ state.room)
  | .deleteArmys armyId =>
      ∀ army ∈ state.armys.get armyId, 0 < army.sum (state.value config) →
        army.sum (state.value config) ≤ state.room
  | .cleanAllArmy =>
      0 < state.sum (state.value config) → state.sum (state.value config) ≤ state.room
  | .editedArmy armyId index team =>
      config.isInnerServer → ∀ army ∈ state.armys.get armyId, State.editable config team →
        team.heroId = 0 ∨
            (state.entities (.heroBag, team.heroId)).isSome ∧ (army.teams.get index).isSome →
          0 ≤ team.soliderCount ∧ (team.soliderCfgId ≠ 0 → team.heroId ≠ 0) ∧
            (state.teamNeed config team).isSome ∧
              state.value config team = state.valueAt config army index
  | .oneKeyFillUpSoliders _ => state.canFill config
  | .getFightSoliders _ => state.canFill config
  | .takeStarmapCampaignArmy _ => state.canFill config
  | .costSolidersLife soliders => state.lossesFair soliders
  | .starmapCampaignCostArmyLife dieSoliders =>
      state.lossesFair
        (dieSoliders.map fun loss => { loss with id := loss.id / 10 + loss.index })
  | _ => True

instance (config : Config) (state : State) (event : Event) :
    Decidable (event.KeepsReserves config state) := by
  induction event using Event.casesOn <;> unfold Event.KeepsReserves <;> dsimp only <;>
    infer_instance

/-- The soldiers of a team are counted, and led by a hero. -/
structure Team.Tidy (config : Config) (state : State) (team : Team) : Prop where
  count : 0 ≤ team.soliderCount
  led : team.soliderCfgId ≠ 0 → team.heroId ≠ 0
  configured : team.Configured config state

structure Tidy (config : Config) (state : State) : Prop where
  teams : ∀ team ∈ state.teams, team.Tidy config state
  reserves : ∀ val ∈ state.reserveArmy.objects, val.Sane

section Values

variable {config : Config} {state after : State} {team : Team}

theorem teamNeed_congr (levels : after.soliderLevels = state.soliderLevels) (team : Team) :
    after.teamNeed config team = state.teamNeed config team := by
  simp only [State.teamNeed, levels]

theorem value_congr (levels : after.soliderLevels = state.soliderLevels) :
    after.value config = state.value config := by
  funext team
  rw [State.value, State.value, teamNeed_congr levels]

theorem Team.Tidy.congr (tidy : team.Tidy config state)
    (levels : after.soliderLevels = state.soliderLevels) : team.Tidy config after where
  count := tidy.count
  led := tidy.led
  configured := by
    have configured := tidy.configured
    unfold Team.Configured at configured ⊢
    rwa [levels]

theorem value_of_space (soldiers : team.soliderCfgId ≠ 0) {trainSpace : ℕ+}
    (space : config.trainSpace team.soliderCfgId (state.soliderLevels team.soliderCfgId) =
      some trainSpace) :
    state.value config team = trainSpace * team.soliderCount := by
  simp [State.value, State.teamNeed, soldiers, Config.getNeedReserveSolider, space]

theorem value_of_none (no_soldiers : team.soliderCfgId = 0) : state.value config team = 0 := by
  simp [State.value, State.teamNeed, no_soldiers]

theorem value_mono {cfgId heroId otherId less more : ℤ} (le : less ≤ more) :
    state.value config ⟨heroId, cfgId, less⟩ ≤ state.value config ⟨otherId, cfgId, more⟩ := by
  by_cases soldiers : cfgId = 0
  · rw [value_of_none soldiers, value_of_none soldiers]
  · cases space : config.trainSpace cfgId (state.soliderLevels cfgId) with
    | none =>
        simp [State.value, State.teamNeed, soldiers, Config.getNeedReserveSolider, space]
    | some trainSpace =>
        rw [value_of_space soldiers space, value_of_space soldiers space]
        exact mul_le_mul_of_nonneg_left le (Int.natCast_nonneg _)

theorem value_zero_count (config : Config) (state : State) (heroId cfgId : ℤ) :
    state.value config ⟨heroId, cfgId, 0⟩ = 0 := by
  by_cases soldiers : cfgId = 0
  · exact value_of_none soldiers
  · cases space : config.trainSpace cfgId (state.soliderLevels cfgId) with
    | none =>
        simp [State.value, State.teamNeed, soldiers, Config.getNeedReserveSolider, space]
    | some trainSpace =>
        rw [value_of_space soldiers space]
        simp

theorem value_of_count_zero (count_zero : team.soliderCount = 0) :
    state.value config team = 0 := by
  obtain ⟨heroId, cfgId, count⟩ := team
  cases count_zero
  exact value_zero_count config state heroId cfgId

theorem Team.Tidy.value_nonneg (tidy : team.Tidy config state) :
    0 ≤ state.value config team := by
  rw [← value_zero_count config state team.heroId team.soliderCfgId]
  exact value_mono tidy.count

theorem Team.Tidy.value_heroless (tidy : team.Tidy config state) (heroless : team.heroId = 0) :
    state.value config team = 0 :=
  value_of_none (by_contra fun soldiers => tidy.led soldiers heroless)

theorem teamNeed_eq_value (tidy : team.Tidy config state) :
    state.teamNeed config team = some (state.value config team) := by
  obtain ⟨need, need_eq⟩ := Option.isSome_iff_exists.mp (teamNeed_isSome.mpr tidy.configured)
  rw [State.value, need_eq]
  rfl

end Values

/-- Nothing is lost or gained, and all stays tidy. -/
structure Keeps (config : Config) (before after : State) : Prop where
  tidy : Tidy config after
  total : after.total config = before.total config

theorem Keeps.refl {config : Config} {state : State} (tidy : Tidy config state) :
    Keeps config state state :=
  ⟨tidy, rfl⟩

theorem Keeps.of_same {config : Config} {state after : State} (tidy : Tidy config state)
    (armys : after.armys = state.armys) (levels : after.soliderLevels = state.soliderLevels)
    (reserves : after.reserveArmy = state.reserveArmy) : Keeps config state after := by
  refine ⟨⟨fun team team_mem => ?_, reserves ▸ tidy.reserves⟩, ?_⟩
  · rw [State.teams, armys] at team_mem
    exact (tidy.teams team team_mem).congr levels
  · simp only [State.total, value_congr levels, State.sum, armys, reserves]

theorem Keeps.trans {config : Config} {first second third : State}
    (earlier : Keeps config first second) (later : Keeps config second third) :
    Keeps config first third :=
  ⟨later.tidy, later.total.trans earlier.total⟩

section Reserves

variable {config : Config} {state after : State} {num : ℤ}

theorem cost_reserves (tidy : Tidy config state)
    (paid : state.costReserveArmyCount num = some after)
    (there : 0 < num ∨ ∃ val ∈ state.reserveArmy.objects, val.trainCfgId = 0) :
    Reserve.total after.reserveArmy.objects = Reserve.total state.reserveArmy.objects - num ∧
      ∀ val ∈ after.reserveArmy.objects, val.Sane := by
  obtain ⟨_, enough, rfl⟩ := costReserveArmyCount_cases paid
  exact ⟨Reserve.cost_total enough there, Reserve.cost_sane tidy.reserves⟩

theorem add_reserves (tidy : Tidy config state)
    (repaid : state.addReserveArmyCount num = some after) (pos : 0 < num)
    (fits : num ≤ state.room) :
    Reserve.total after.reserveArmy.objects = Reserve.total state.reserveArmy.objects + num ∧
      ∀ val ∈ after.reserveArmy.objects, val.Sane := by
  obtain ⟨_, rfl⟩ := addReserveArmyCount_cases repaid
  exact ⟨(Reserve.add_total pos fits).1, Reserve.add_sane pos tidy.reserves⟩

theorem exchange_reserves (tidy : Tidy config state) {old : Option Team} {newTeam : Team}
    (old_tidy : ∀ team ∈ old, team.Tidy config state) (new_tidy : newTeam.Tidy config state)
    (exchanged : state.exchange config old newTeam = some after)
    (fits : state.value config newTeam < (old.map (state.value config)).getD 0 →
      (old.map (state.value config)).getD 0 - state.value config newTeam ≤ state.room) :
    Reserve.total after.reserveArmy.objects + state.value config newTeam =
        Reserve.total state.reserveArmy.objects + (old.map (state.value config)).getD 0 ∧
      ∀ val ∈ after.reserveArmy.objects, val.Sane := by
  have old_need : (old.map fun team => state.teamNeed config team).getD (some 0) =
      some ((old.map (state.value config)).getD 0) := by
    cases old with
    | none => rfl
    | some team => exact teamNeed_eq_value (old_tidy team rfl)
  simp only [State.exchange, teamNeed_eq_value new_tidy, old_need] at exchanged
  split_ifs at exchanged with less more
  · have repaid := add_reserves tidy exchanged (sub_pos.mpr less) (fits less)
    exact ⟨by omega, repaid.2⟩
  · have paid := cost_reserves tidy exchanged (.inl (sub_pos.mpr more))
    exact ⟨by omega, paid.2⟩
  · rw [← Option.some.inj exchanged]
    exact ⟨by omega, tidy.reserves⟩

end Reserves

section Teams

variable {config : Config} {state : State} {army : Army} {armyId index : ℤ}

theorem verified_tidy {team : Team} (verified : state.verifyArmyTeam config team)
    (counted : team.soliderCfgId = 0 → 0 ≤ team.soliderCount) : team.Tidy config state := by
  refine ⟨?_, fun soldiers no_hero => ?_, verifyArmyTeam_configured verified⟩
  · by_cases no_soldiers : team.soliderCfgId = 0
    · exact counted no_soldiers
    · simp only [State.verifyArmyTeam, no_soldiers, decide_false, Bool.false_or, Bool.and_eq_true,
        State.soldiersReady, decide_eq_true_eq] at verified
      exact verified.2.1.1
  · simp [State.verifyArmyTeam, no_hero, soldiers] at verified

variable {teams : List Team}

theorem checkTeams_need {before : Option Team} {used : List ℤ} {need : ℤ}
    (checked : State.checkTeams config state before used teams = some need) :
    need = (teams.map (state.value config)).sum ∧
      ∀ team ∈ teams, state.verifyArmyTeam config team := by
  induction teams generalizing before used need with
  | nil => exact ⟨(Option.some.inj checked).symm, by simp⟩
  | cons team teams ih =>
      unfold State.checkTeams at checked
      split at checked
      next accepted =>
        split at checked
        next first others first_eq others_eq =>
          obtain ⟨others_is, verified⟩ := ih others_eq
          rw [Bool.and_eq_true, Bool.and_eq_true] at accepted
          refine ⟨?_, List.forall_mem_cons.mpr ⟨accepted.1.2, verified⟩⟩
          rw [List.map_cons, List.sum_cons, State.value, first_eq, ← others_is]
          exact (Option.some.inj checked).symm
        · cases checked
      · cases checked

theorem addArmys_keeps (tidy : Tidy config state) {nameOk : Bool}
    (safe : (Event.addArmys armyId nameOk teams).KeepsReserves config state) :
    Keeps config state (state.addArmys config armyId nameOk teams) := by
  unfold State.addArmys
  split
  · exact .refl tidy
  next need need_eq =>
    rcases safe with refused | ⟨counted, unpaid⟩
    · unfold State.refuses at refused
      simp only [need_eq, decide_eq_true_eq] at refused
      have none_paid : state.costReserveArmyCount need = none := if_pos (.inr refused.2)
      simp only [if_pos refused.1, none_paid]
      exact .refl tidy
    · obtain ⟨absent, checked⟩ : state.armys.get armyId = none ∧
          State.checkTeams config state none [] (teams.take 5) = some need := by
        unfold State.newArmyNeed at need_eq
        split at need_eq
        next new => exact ⟨by simpa using new.1, need_eq⟩
        · cases need_eq
      obtain ⟨need_is, verified⟩ := checkTeams_need checked
      have teams_tidy : ∀ team ∈ teams, team.Tidy config state := by
        intro team team_mem
        rw [← List.take_append_drop 5 teams, List.mem_append] at team_mem
        rcases team_mem with first | later
        · exact verified_tidy (verified team first) (counted team (List.mem_of_mem_take first))
        · rcases unpaid team later with no_soldiers | ⟨count_zero, hero, configured⟩
          · exact ⟨counted team (List.mem_of_mem_drop later) no_soldiers,
              fun soldiers => absurd no_soldiers soldiers, .inl no_soldiers⟩
          · exact ⟨count_zero.ge, fun _ => hero, teamNeed_isSome.mp configured⟩
      have later_zero : ((teams.drop 5).map (state.value config)).sum = 0 := by
        refine List.sum_eq_zero fun amount amount_mem => ?_
        obtain ⟨team, team_mem, rfl⟩ := List.mem_map.mp amount_mem
        rcases unpaid team team_mem with no_soldiers | ⟨count_zero, _, _⟩
        · exact value_of_none no_soldiers
        · exact value_of_count_zero count_zero
      have all_worth : (teams.map (state.value config)).sum = need := by
        calc
          _ = ((teams.take 5 ++ teams.drop 5).map (state.value config)).sum := by
            rw [List.take_append_drop]
          _ = need := by
            rw [List.map_append, List.sum_append, later_zero, add_zero, need_is]
      have need_nonneg : 0 ≤ need := by
        rw [← all_worth]
        refine List.sum_nonneg fun amount amount_mem => ?_
        obtain ⟨team, team_mem, rfl⟩ := List.mem_map.mp amount_mem
        exact (teams_tidy team team_mem).value_nonneg
      have added (paid : State) (armys : paid.armys = state.armys)
          (levels : paid.soliderLevels = state.soliderLevels)
          (reserves : Reserve.total paid.reserveArmy.objects =
            Reserve.total state.reserveArmy.objects - need)
          (sane : ∀ val ∈ paid.reserveArmy.objects, val.Sane) :
          Keeps config state
            { paid with armys := paid.armys.add ⟨armyId, Army.ofTeams teams⟩ }.queryArmys := by
        have worth := State.sum_add (state.value config) ⟨armyId, Army.ofTeams teams⟩ absent
        rw [Army.sum, Army.teamList_ofTeams, all_worth] at worth
        refine ⟨⟨fun team team_mem => ?_, sane⟩, ?_⟩
        · suffices team_tidy : team.Tidy config state from team_tidy.congr levels
          obtain ⟨army, army_mem, is_team⟩ := List.mem_flatMap.mp team_mem
          rw [State.queryArmys, armys] at army_mem
          rcases Keyed.mem_add army_mem with rfl | old
          · rw [Army.teamList_ofTeams] at is_team
            exact teams_tidy team is_team
          · exact tidy.teams team (List.mem_flatMap.mpr ⟨army, old, is_team⟩)
        · have value_same : State.value config
              { paid with armys := paid.armys.add ⟨armyId, Army.ofTeams teams⟩ }.queryArmys =
                state.value config := value_congr levels
          simp only [State.total, value_same]
          simp only [State.queryArmys, State.sum, armys] at worth ⊢
          rw [reserves, worth]
          omega
      by_cases free : 0 < need
      · simp only [if_pos free]
        split
        · exact .refl tidy
        next paid paid_eq =>
          have paid_reserves := cost_reserves tidy paid_eq (.inl free)
          obtain ⟨_, _, rfl⟩ := costReserveArmyCount_cases paid_eq
          exact added _ rfl rfl paid_reserves.1 paid_reserves.2
      · simp only [if_neg free]
        exact added state rfl rfl (by omega) tidy.reserves

theorem written_keeps (tidy : Tidy config state) (found : state.armys.get armyId = some army)
    (index : ℤ) {newTeam : Team} (new_tidy : newTeam.Tidy config state) {after : State}
    (levels : after.soliderLevels = state.soliderLevels)
    (teams : ∀ team ∈ after.teams, team = newTeam ∨ team ∈ state.teams)
    (worth : after.sum (state.value config) =
      { state with armys := state.armys.put (army.setTeam index newTeam) }.sum
        (state.value config))
    (reserves : Reserve.total after.reserveArmy.objects + state.value config newTeam =
      Reserve.total state.reserveArmy.objects + state.valueAt config army index)
    (sane : ∀ val ∈ after.reserveArmy.objects, val.Sane) : Keeps config state after := by
  refine ⟨⟨fun team team_mem => ?_, sane⟩, ?_⟩
  · suffices team_tidy : team.Tidy config state from team_tidy.congr levels
    rcases teams team team_mem with rfl | old
    · exact new_tidy
    · exact tidy.teams team old
  · have written := sum_writeTeam (state.value config) found index newTeam
    rw [State.total, State.total, value_congr levels, worth]
    rw [State.valueAt] at reserves
    omega

theorem setTeam_tidy (tidy : Tidy config state) (found : state.armys.get armyId = some army)
    {newTeam : Team} (new_tidy : newTeam.Tidy config state) :
    ∀ team ∈ (army.setTeam index newTeam).teamList, team.Tidy config state := by
  intro team team_mem
  rcases Army.mem_setTeam team_mem with rfl | old
  · exact new_tidy
  · exact tidy.teams team (State.mem_teams_of_get found old)

theorem updateArmy_keeps (tidy : Tidy config state) {nameOk : Bool}
    (safe : (Event.updateArmy armyId index nameOk teams).KeepsReserves config state) :
    Keeps config state (state.updateArmy config armyId index nameOk teams) := by
  unfold State.updateArmy
  split
  · exact .refl tidy
  · split
    · exact .of_same tidy rfl rfl rfl
    · exact .refl tidy
  next army newTeam _ found =>
    split
    next accepted =>
      split
      · exact .refl tidy
      next paid paid_eq =>
        obtain ⟨counted, fits⟩ := safe army found newTeam rfl accepted
        rw [Bool.and_eq_true] at accepted
        have new_tidy := verified_tidy accepted.2 counted
        have old_value : (((army.teams.get index).map Slot.team).map (state.value config)).getD 0 =
            state.valueAt config army index := by
          rw [State.valueAt, Option.map_map]
          rfl
        have old_tidy : ∀ team ∈ (army.teams.get index).map Slot.team, team.Tidy config state := by
          intro team is_team
          obtain ⟨slot, placed, rfl⟩ := Option.map_eq_some_iff.mp is_team
          exact tidy.teams _ (State.mem_teams_of_get found (Army.get_mem_teamList placed))
        have exchanged := exchange_reserves tidy old_tidy new_tidy paid_eq (by rwa [old_value])
        rw [old_value] at exchanged
        obtain ⟨reserveArmy, paid_is⟩ := exchange_cases paid_eq
        have paid_found : paid.armys.get armyId = some army := by rw [paid_is]; exact found
        have worth := sum_placeTeam (state.value config) paid_found index newTeam
          fun team team_mem => (setTeam_tidy tidy found new_tidy team team_mem).value_heroless
        have levels : (paid.placeTeam army index newTeam).soliderLevels = state.soliderLevels := by
          simp [State.placeTeam, State.queryArmys, paid_is]
        have reserves : (paid.placeTeam army index newTeam).reserveArmy = paid.reserveArmy := by
          simp [State.placeTeam, State.queryArmys]
        refine written_keeps tidy found index new_tidy levels (fun team team_mem => ?_) ?_ ?_ ?_
        · have listed := mem_teams_placeTeam paid_found team_mem
          rwa [paid_is] at listed
        · rw [worth, paid_is]
          rfl
        · rw [reserves]
          exact exchanged.1
        · rw [reserves]
          exact exchanged.2
    · exact .refl tidy

theorem freeTeams_need {need : ℤ} {freed : State}
    (ended : state.freeTeams config teams = (freed, some need)) :
    need = (teams.map (state.value config)).sum := by
  induction teams generalizing state need freed with
  | nil =>
      cases ended
      rfl
  | cons team teams ih =>
      unfold State.freeTeams at ended
      split at ended
      · cases ended
      next first first_eq =>
        obtain ⟨freed_eq, need_eq⟩ := Prod.mk.inj ended
        obtain ⟨others, others_eq, rfl⟩ := Option.map_eq_some_iff.mp need_eq
        have first_is : first = state.value config team := by
          split at first_eq
          next count_zero => rw [value_of_count_zero count_zero, ← Option.some.inj first_eq]
          · rw [State.value, first_eq]
            rfl
        rw [List.map_cons, List.sum_cons, first_is, ih (Prod.ext freed_eq others_eq),
          value_congr (setHeroRef_soliderLevels team.heroId .none)]

theorem erased_keeps (tidy : Tidy config state) (found : state.armys.get armyId = some army)
    {after : State} (armys : after.armys = state.armys.erase armyId)
    (levels : after.soliderLevels = state.soliderLevels)
    (reserves : Reserve.total after.reserveArmy.objects =
      Reserve.total state.reserveArmy.objects + army.sum (state.value config))
    (sane : ∀ val ∈ after.reserveArmy.objects, val.Sane) : Keeps config state after := by
  refine ⟨⟨fun team team_mem => ?_, sane⟩, ?_⟩
  · suffices team_tidy : team.Tidy config state from team_tidy.congr levels
    refine tidy.teams team (State.mem_teams_erase armyId ?_)
    rwa [State.teams, armys] at team_mem
  · have erased := State.sum_erase (state.value config) found
    have same : after.sum (state.value config) =
        { state with armys := state.armys.erase armyId }.sum (state.value config) := by
      simp only [State.sum, armys]
    rw [State.total, State.total, value_congr levels, reserves, same]
    omega

theorem deleteArmys_keeps (tidy : Tidy config state)
    (safe : (Event.deleteArmys armyId).KeepsReserves config state) :
    Keeps config state (state.deleteArmys config armyId) := by
  unfold State.deleteArmys
  split
  · exact .refl tidy
  next army found =>
    obtain ⟨entities, freed_eq⟩ := freeTeams_frame config army.teamList state
    have army_tidy : ∀ team ∈ army.teamList, team.Tidy config state := fun team team_mem =>
      tidy.teams team (State.mem_teams_of_get found team_mem)
    split
    next freed ended =>
      rw [ended] at freed_eq
      dsimp only at freed_eq
      exact freed_eq ▸ .of_same tidy rfl rfl rfl
    next freed need ended =>
      have need_is : need = army.sum (state.value config) := freeTeams_need ended
      have need_nonneg : 0 ≤ need := by
        rw [need_is]
        refine List.sum_nonneg fun amount amount_mem => ?_
        obtain ⟨team, team_mem, rfl⟩ := List.mem_map.mp amount_mem
        exact (army_tidy team team_mem).value_nonneg
      rw [ended] at freed_eq
      dsimp only at freed_eq
      subst freed_eq
      by_cases nothing : need = 0
      · simp only [if_pos nothing]
        exact erased_keeps tidy found rfl rfl (by rw [← need_is, nothing, add_zero]; rfl)
          tidy.reserves
      · simp only [if_neg nothing]
        split
        · exact .of_same tidy rfl rfl rfl
        next repaid repaid_eq =>
          have pos : 0 < need := lt_of_le_of_ne need_nonneg (Ne.symm nothing)
          obtain ⟨_, rfl⟩ := addReserveArmyCount_cases repaid_eq
          have added := Reserve.add_total pos (need_is ▸ safe army found (need_is ▸ pos))
          exact erased_keeps tidy found rfl rfl (need_is ▸ added.1)
            (Reserve.add_sane pos tidy.reserves)

/-- All that the soldiers of the teams are worth is paid back, if it finds room. -/
theorem cleanTeams_reserves (teams_tidy : ∀ team ∈ teams, team.Tidy config state)
    (sane : ∀ val ∈ state.reserveArmy.objects, val.Sane)
    (fits : 0 < (teams.map (state.value config)).sum →
      (teams.map (state.value config)).sum ≤ state.room) :
    (state.cleanTeams config teams).2 = true ∧
      Reserve.total (state.cleanTeams config teams).1.reserveArmy.objects =
        Reserve.total state.reserveArmy.objects + (teams.map (state.value config)).sum ∧
      ∀ val ∈ (state.cleanTeams config teams).1.reserveArmy.objects, val.Sane := by
  induction teams generalizing state with
  | nil => exact ⟨rfl, (add_zero _).symm, sane⟩
  | cons team teams ih =>
      rw [List.forall_mem_cons] at teams_tidy
      rw [List.map_cons, List.sum_cons] at fits ⊢
      have first_nonneg := teams_tidy.1.value_nonneg
      have rest_nonneg : 0 ≤ (teams.map (state.value config)).sum := by
        refine List.sum_nonneg fun amount amount_mem => ?_
        obtain ⟨other, other_mem, rfl⟩ := List.mem_map.mp amount_mem
        exact (teams_tidy.2 other other_mem).value_nonneg
      have need_eq : (state.setHeroRef team.heroId .none).teamNeed config team =
          some (state.value config team) := by
        rw [teamNeed_congr (setHeroRef_soliderLevels team.heroId .none)]
        exact teamNeed_eq_value teams_tidy.1
      obtain ⟨entities, freed_eq⟩ := setHeroRef_frame team.heroId .none state
      unfold State.cleanTeams
      simp only [need_eq]
      rw [freed_eq]
      -- what the others need goes on with the room that is left
      by_cases nothing : state.value config team = 0
      · have unpaid : State.addReserveArmyCount (state.value config team)
            { state with entities } = none := if_pos nothing
        rw [nothing, zero_add] at fits
        rw [unpaid, nothing, zero_add]
        exact @ih { state with entities } (fun other other_mem =>
          (teams_tidy.2 other other_mem).congr rfl) sane fits
      · have pos : 0 < state.value config team := lt_of_le_of_ne first_nonneg (Ne.symm nothing)
        have added := Reserve.add_total pos
          (show state.value config team ≤ state.room from
            le_trans (by omega) (fits (by omega)))
        have others := @ih
          { state with
            entities
            reserveArmy := state.reserveArmy.rewrite
              (Reserve.add state.maxTrainSpace (state.value config team))
              (Reserve.add_keys state.maxTrainSpace (state.value config team)) }
          (fun other other_mem => (teams_tidy.2 other other_mem).congr rfl)
          (Reserve.add_sane pos sane) fun rest_pos => by
            have all_fit := fits (by omega)
            have left := added.2
            unfold State.room at all_fit ⊢
            change (teams.map (state.value config)).sum ≤ _
            simp only [Keyed.rewrite, left]
            omega
        have repaid : State.addReserveArmyCount (state.value config team)
            { state with entities } = some { state with
              entities
              reserveArmy := state.reserveArmy.rewrite
                (Reserve.add state.maxTrainSpace (state.value config team))
                (Reserve.add_keys state.maxTrainSpace (state.value config team)) } :=
          if_neg nothing
        rw [repaid]
        refine ⟨others.1, others.2.1.trans ?_, others.2.2⟩
        simp only [Keyed.rewrite, added.1, add_assoc]
        rfl

theorem cleanAllArmy_keeps (tidy : Tidy config state)
    (safe : Event.cleanAllArmy.KeepsReserves config state) :
    Keeps config state (state.cleanAllArmy config) := by
  have all_teams : state.sum (state.value config) =
      (state.teams.map (state.value config)).sum := State.sum_eq _ state
  obtain ⟨ended, reserves, sane⟩ := cleanTeams_reserves tidy.teams tidy.reserves
    (by rw [← all_teams]; exact safe)
  have levels := cleanTeams_soliderLevels config state.teams state
  rw [← all_teams] at reserves
  unfold State.cleanAllArmy
  unfold State.teams at ended reserves sane levels
  split
  next cleaned failed => simp [failed] at ended
  next cleaned cleaned_eq =>
    rw [cleaned_eq] at reserves sane levels
    refine ⟨⟨by simp [State.teams, State.queryArmys], sane⟩, ?_⟩
    simpa [State.total, State.sum, State.queryArmys] using reserves

theorem writeTeam_keeps (tidy : Tidy config state) (found : state.armys.get armyId = some army)
    {team : Team} {after : State} (armys : after.armys = state.armys)
    (levels : after.soliderLevels = state.soliderLevels)
    (reserves : after.reserveArmy = state.reserveArmy)
    (new_tidy : State.editable config team → team.Tidy config state ∧
      state.value config team = state.valueAt config army index) :
    Keeps config state (after.writeTeam config army index team) := by
  unfold State.writeTeam
  split
  next editable =>
    obtain ⟨team_tidy, worth⟩ := new_tidy editable
    refine written_keeps tidy found index team_tidy levels (fun other other_mem => ?_) ?_ ?_ ?_
    · have listed : other ∈
          { state with armys := state.armys.put (army.setTeam index team) }.teams := by
        simpa only [State.teams, State.queryArmys, armys] using other_mem
      exact State.mem_teams_setTeam found listed
    · simp only [State.sum, State.queryArmys, armys]
    · simp only [State.queryArmys, reserves, worth]
    · simpa only [State.queryArmys, reserves] using tidy.reserves
  · exact .of_same tidy armys levels reserves

theorem editedArmy_keeps (tidy : Tidy config state) {team : Team}
    (safe : (Event.editedArmy armyId index team).KeepsReserves config state) :
    Keeps config state (state.editedArmy config armyId index team) := by
  unfold State.editedArmy
  split
  next army inner found =>
    have safe_here := safe inner army found
    have allowed (written : team.heroId = 0 ∨
        (state.entities (.heroBag, team.heroId)).isSome ∧ (army.teams.get index).isSome)
        (editable : State.editable config team) :
        team.Tidy config state ∧ state.value config team = state.valueAt config army index := by
      obtain ⟨count, led, configured, worth⟩ := safe_here editable written
      exact ⟨⟨count, led, teamNeed_isSome.mp configured⟩, worth⟩
    split
    next no_hero => exact writeTeam_keeps tidy found rfl rfl rfl (allowed (.inl no_hero))
    next is_hero =>
      split
      · exact .refl tidy
      next present =>
        have hero_there : (state.entities (.heroBag, team.heroId)).isSome := by
          simpa [Option.isSome_iff_ne_none] using present
        dsimp only
        split
        · exact .of_same tidy (by simp) (by simp) (by simp)
        next old old_eq =>
          exact writeTeam_keeps tidy found (by simp) (by simp) (by simp)
            (allowed (.inr ⟨hero_there, by simp [old_eq]⟩))
  · exact .refl tidy

end Teams

end BasWar.Armies
