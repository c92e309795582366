import BasWar.Player.Armies

/-!
# Sums over the teams of a player

Who stands in the armies and what their soldiers are worth are sums over the teams.  Writing a team
changes a sum by what the team contributes, and an army that is put in order loses only teams
without a hero.
-/

namespace BasWar.Armies

open Tables

universe u

namespace Army

variable {Amount : Type u} [AddCommMonoid Amount] (amount : Team → Amount) {army : Army}
  {team other : Team} {index : ℤ}

@[simp] theorem teamList_ofTeams (armyId : ℤ) (teams : List Team) :
    (⟨armyId, ofTeams teams⟩ : Army).teamList = teams := by
  simp only [teamList, ofTeams, List.map_map]
  exact List.zipIdx_map_fst 0 teams

@[simp] theorem teamList_putInOrder :
    army.putInOrder.teamList = army.teamList.filter fun team => team.heroId ≠ 0 :=
  teamList_ofTeams army.armyId _

theorem get_mem_teamList {slot : Slot} (found : army.teams.get index = some slot) :
    slot.team ∈ army.teamList :=
  List.mem_map_of_mem (Keyed.get_mem found).1

theorem mem_setTeam (mem : other ∈ (army.setTeam index team).teamList) :
    other = team ∨ other ∈ army.teamList := by
  obtain ⟨slot, slot_mem, rfl⟩ := List.mem_map.mp mem
  rcases Keyed.mem_set slot_mem with rfl | old_mem
  · exact .inl rfl
  · exact .inr (List.mem_map_of_mem old_mem)

theorem sum_setTeam (army : Army) (index : ℤ) (team : Team) :
    (army.setTeam index team).sum amount +
        ((army.teams.get index).map fun slot => amount slot.team).getD 0 =
      army.sum amount + amount team := by
  simp only [sum, teamList, List.map_map]
  exact Keyed.sum_set (amount ∘ Slot.team)

theorem sum_putInOrder
    (empty : ∀ team ∈ army.teamList, team.heroId = 0 → amount team = 0) :
    army.putInOrder.sum amount = army.sum amount := by
  simp only [sum, teamList_putInOrder]
  revert empty
  induction army.teamList with
  | nil => intro _; rfl
  | cons team teams ih =>
      intro empty
      rw [List.forall_mem_cons] at empty
      by_cases heroless : team.heroId = 0
      · simpa [heroless, empty.1 heroless] using ih empty.2
      · simpa [heroless] using congrArg (amount team + ·) (ih empty.2)

end Army

namespace State

variable {Amount : Type u} [AddCommMonoid Amount] (amount : Team → Amount) {state : State}
  {army old : Army} {team : Team}

def teams (state : State) : List Team :=
  state.armys.objects.flatMap Army.teamList

theorem sum_eq (state : State) : state.sum amount = (state.teams.map amount).sum := by
  unfold State.sum teams
  induction state.armys.objects with
  | nil => rfl
  | cons army armys ih => simp [ih, Army.sum]

theorem mem_teams_of_get {armyId : ℤ} (found : state.armys.get armyId = some army)
    (mem : team ∈ army.teamList) : team ∈ state.teams :=
  List.mem_flatMap.mpr ⟨army, (Keyed.get_mem found).1, mem⟩

theorem mem_teams_put (mem : team ∈ { state with armys := state.armys.put army }.teams) :
    team ∈ army.teamList ∨ team ∈ state.teams := by
  obtain ⟨other, other_mem, team_mem⟩ := List.mem_flatMap.mp mem
  rcases Keyed.mem_put other_mem with rfl | ⟨old_mem, _⟩
  · exact .inl team_mem
  · exact .inr (List.mem_flatMap.mpr ⟨other, old_mem, team_mem⟩)

theorem mem_teams_setTeam {armyId index : ℤ} {newTeam : Team}
    (found : state.armys.get armyId = some army)
    (mem : team ∈ { state with armys := state.armys.put (army.setTeam index newTeam) }.teams) :
    team = newTeam ∨ team ∈ state.teams := by
  rcases mem_teams_put mem with new | old
  · exact (Army.mem_setTeam new).imp_right (mem_teams_of_get found)
  · exact .inr old

theorem mem_teams_erase (armyId : ℤ)
    (mem : team ∈ { state with armys := state.armys.erase armyId }.teams) :
    team ∈ state.teams := by
  obtain ⟨other, other_mem, team_mem⟩ := List.mem_flatMap.mp mem
  exact List.mem_flatMap.mpr ⟨other, (Keyed.mem_erase.mp other_mem).1, team_mem⟩

theorem sum_put (army : Army) (found : state.armys.get army.armyId = some old) :
    { state with armys := state.armys.put army }.sum amount + old.sum amount =
      state.sum amount + army.sum amount :=
  Keyed.sum_put (Army.sum amount) (Keyed.get_mem found).1 (Keyed.get_mem found).2

theorem sum_erase {armyId : ℤ} (found : state.armys.get armyId = some army) :
    { state with armys := state.armys.erase armyId }.sum amount + army.sum amount =
      state.sum amount :=
  Keyed.sum_erase (Army.sum amount) found

theorem sum_add (army : Army) (absent : state.armys.get army.armyId = none) :
    { state with armys := state.armys.add army }.sum amount =
      state.sum amount + army.sum amount :=
  Keyed.sum_add (Army.sum amount) absent

theorem trainSpace_levelUpSolider (config : Config) (cfgId other : ℤ) (state : State) :
    config.trainSpace other ((state.levelUpSolider config cfgId).soliderLevels other) =
      config.trainSpace other (state.soliderLevels other) := by
  unfold State.levelUpSolider
  dsimp only
  split
  next raised =>
    by_cases same : other = cfgId
    · subst same
      obtain ⟨first, first_eq⟩ := Option.isSome_iff_exists.mp raised.1
      obtain ⟨second, second_eq⟩ := Option.isSome_iff_exists.mp raised.2
      simp only [Function.update_self, Config.trainSpace, first_eq, second_eq]
      rw [config.soliders_same first_eq second_eq]
    · simp only [Function.update_of_ne same]
  · rfl

theorem levelUpSolider_armys (config : Config) (cfgId : ℤ) (state : State) :
    (state.levelUpSolider config cfgId).armys = state.armys ∧
      (state.levelUpSolider config cfgId).entities = state.entities ∧
        (state.levelUpSolider config cfgId).reserveArmy = state.reserveArmy := by
  unfold State.levelUpSolider
  dsimp only
  split <;> exact ⟨rfl, rfl, rfl⟩

end State

section Write

variable {Amount : Type u} [AddCancelCommMonoid Amount] (amount : Team → Amount) {state : State}
  {army : Army} {armyId : ℤ}

theorem sum_writeTeam (found : state.armys.get armyId = some army) (index : ℤ) (team : Team) :
    { state with armys := state.armys.put (army.setTeam index team) }.sum amount +
        ((army.teams.get index).map fun slot => amount slot.team).getD 0 =
      state.sum amount + amount team := by
  obtain ⟨_, rfl⟩ := Keyed.get_mem found
  have written := State.sum_put amount (army.setTeam index team) found
  have set := Army.sum_setTeam amount army index team
  refine add_right_cancel (b := army.sum amount) ?_
  calc
    _ = ({ state with armys := state.armys.put (army.setTeam index team) }.sum amount +
          army.sum amount) + ((army.teams.get index).map fun slot => amount slot.team).getD 0 := by
      rw [add_right_comm]
    _ = state.sum amount + ((army.setTeam index team).sum amount +
          ((army.teams.get index).map fun slot => amount slot.team).getD 0) := by
      rw [written, add_assoc]
    _ = state.sum amount + amount team + army.sum amount := by
      rw [set, add_comm (army.sum amount), add_assoc]

theorem sum_putInOrder (other : Army) (found : state.armys.get other.armyId = some army)
    (empty : ∀ team ∈ other.teamList, team.heroId = 0 → amount team = 0) :
    { state with armys := state.armys.put other.putInOrder }.sum amount =
      { state with armys := state.armys.put other }.sum amount := by
  have ordered := State.sum_put amount other.putInOrder found
  have written := State.sum_put amount other found
  rw [Army.sum_putInOrder amount empty] at ordered
  exact add_right_cancel (ordered.trans written.symm)

end Write

end BasWar.Armies
