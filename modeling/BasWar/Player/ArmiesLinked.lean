import BasWar.Player.ArmySums
import BasWar.Tables.Links

/-!
# A hero fights in one team only

A team that replaces another one frees the old hero and marks the new one, and an army that is
deleted frees all of its heroes.  An army that is created marks none: its heroes may be sold or
withdrawn and leave their ids behind.  As long as armies are created without teams, each hero stands
in one team at most and has the reference `REF_ARMY` exactly while it does.
-/

namespace BasWar.Armies

open Tables

def Entity.Marked (entity : Entity) : Prop :=
  entity.ref = .army

/-- Each entity stands in one army position at most, is in its bag while it does, and has the
reference `REF_ARMY` exactly while it does. -/
def State.Linked (state : State) : Prop :=
  Tables.Linked Entity.Marked state.entities state.positions

/-- The kind of soldiers of a team, if it has any, has a row. -/
def Team.Configured (config : Config) (state : State) (team : Team) : Prop :=
  team.soliderCfgId = 0 ∨
    (config.trainSpace team.soliderCfgId (state.soliderLevels team.soliderCfgId)).isSome

/-- The creation of an army is refused by its checks, or for lack of reserves. -/
def State.refuses (config : Config) (armyId : ℤ) (nameOk : Bool) (teams : List Team)
    (state : State) : Bool :=
  match state.newArmyNeed config armyId nameOk teams with
  | none => true
  | some need => 0 < need ∧ state.getReserveArmyCount < need

/-- An army is created without teams; the editor takes no hero away and puts none into a second
place; no hero is in an army when its withdrawal or donation ends, when a union gives it back or
when a new one comes with its id. -/
def Event.KeepsLinks (config : Config) (state : State) : Event → Prop
  | .addArmys armyId nameOk teams => teams = [] ∨ state.refuses config armyId nameOk teams
  | .editedArmy armyId index team =>
      config.isInnerServer → ∀ army ∈ state.armys.get armyId,
        let old := (army.teams.get index).map fun slot => slot.team.heroId
        if team.heroId = 0 then
          State.editable config team → old.getD 0 = 0 ∧ (state.teamNeed config team).isSome
        else
          (state.entities (.heroBag, team.heroId)).isSome →
            if state.inArmy team.heroId then
              old = none ∨ old = some 0 ∧ State.editable config team = false
            else
              old.isSome ∧ State.editable config team ∧ (state.teamNeed config team).isSome
  | .withdrawn turn =>
      ∀ ids ∈ state.withdrawing[turn]?, ∀ id ∈ ids, id ∉ state.positions
  | .onUnionDonateNft turn taken =>
      ∀ ids ∈ state.donating[turn]?, ∀ id ∈ ids.filter taken, id ∉ state.positions
  | .returnFromUnion bag idList => ∀ id ∈ idList, ((bag, id) : EntityId) ∉ state.positions
  | .addEntity id _ => id ∉ state.positions
  | _ => True

instance (config : Config) (state : State) (event : Event) :
    Decidable (event.KeepsLinks config state) := by
  cases event <;> unfold Event.KeepsLinks <;> dsimp only <;> infer_instance

/-- A player who has no army yet; how many soldiers the buildings hold is no negative number. -/
structure State.Fresh (state : State) : Prop where
  armys : state.armys.objects = []
  unmarked : ∀ id entity, state.entities id = some entity → entity.ref ≠ .army
  reserves : ∀ val ∈ state.reserveArmy.objects, 0 ≤ val.count ∧ 0 ≤ val.trainCount

section Views

variable {config : Config} {state after : State} {team : Team}

theorem teamNeed_isSome :
    (state.teamNeed config team).isSome ↔ team.Configured config state := by
  unfold State.teamNeed Team.Configured Config.getNeedReserveSolider
  split
  next no_soldiers => simp [no_soldiers]
  next soldiers => simp [soldiers]

def membersOf (heroId : ℤ) : Multiset EntityId :=
  if heroId = 0 then 0 else {(.heroBag, heroId)}

variable {id : EntityId}

theorem mem_membersOf {heroId : ℤ} (mem : id ∈ membersOf heroId) :
    id = (.heroBag, heroId) ∧ heroId ≠ 0 := by
  unfold membersOf at mem
  split at mem
  · exact absurd mem (Multiset.notMem_zero id)
  next is_hero => exact ⟨Multiset.mem_singleton.mp mem, is_hero⟩

theorem mem_positions (mem : id ∈ state.positions) :
    ∃ team ∈ state.teams, id ∈ membersOf team.heroId := by
  rw [State.positions, State.sum_eq] at mem
  revert mem
  induction state.teams with
  | nil => exact fun mem => absurd mem (Multiset.notMem_zero id)
  | cons team teams ih =>
      intro mem
      rw [List.map_cons, List.sum_cons, Multiset.mem_add] at mem
      rcases mem with first | rest
      · exact ⟨team, List.mem_cons_self, first⟩
      · obtain ⟨other, other_mem, is_member⟩ := ih rest
        exact ⟨other, List.mem_cons_of_mem team other_mem, is_member⟩

theorem bag_of_mem_positions (mem : id ∈ state.positions) : id.1 = .heroBag := by
  obtain ⟨team, _, is_member⟩ := mem_positions mem
  rw [(mem_membersOf is_member).1]

theorem setHeroRef_frame (heroId : ℤ) (ref : Ref) (state : State) :
    ∃ entities, state.setHeroRef heroId ref = { state with entities } := by
  unfold State.setHeroRef
  split
  · exact ⟨state.entities, rfl⟩
  · exact ⟨_, rfl⟩

@[simp] theorem setHeroRef_armys (heroId : ℤ) (ref : Ref) :
    (state.setHeroRef heroId ref).armys = state.armys := by
  unfold State.setHeroRef
  split <;> rfl

@[simp] theorem setHeroRef_soliderLevels (heroId : ℤ) (ref : Ref) :
    (state.setHeroRef heroId ref).soliderLevels = state.soliderLevels := by
  unfold State.setHeroRef
  split <;> rfl

@[simp] theorem setHeroRef_reserveArmy (heroId : ℤ) (ref : Ref) :
    (state.setHeroRef heroId ref).reserveArmy = state.reserveArmy := by
  unfold State.setHeroRef
  split <;> rfl

theorem setHeroRef_isSome (heroId : ℤ) (ref : Ref) (present : (state.entities id).isSome) :
    ((state.setHeroRef heroId ref).entities id).isSome := by
  unfold State.setHeroRef
  split
  · exact present
  · by_cases same : id = (.heroBag, heroId)
    · subst same
      simpa [State.setRef] using present
    · simpa [State.setRef, same] using present

end Views

/-- The same heroes stand in the armies, with soldiers of the same kinds. -/
structure SameHeros (before after : State) : Prop where
  entities : after.entities = before.entities
  positions : after.positions = before.positions
  soliderLevels : after.soliderLevels = before.soliderLevels
  kinds : ∀ team ∈ after.teams, ∃ old ∈ before.teams, old.soliderCfgId = team.soliderCfgId

namespace SameHeros

variable {first second third : State}

theorem of_armys (entities : second.entities = first.entities)
    (armys : second.armys = first.armys)
    (soliderLevels : second.soliderLevels = first.soliderLevels) :
    SameHeros first second where
  entities := entities
  positions := by simp only [State.positions, State.sum, armys]
  soliderLevels := soliderLevels
  kinds team team_mem := ⟨team, by simpa only [State.teams, armys] using team_mem, rfl⟩

theorem refl (state : State) : SameHeros state state :=
  .of_armys rfl rfl rfl

theorem trans (earlier : SameHeros first second) (later : SameHeros second third) :
    SameHeros first third where
  entities := later.entities.trans earlier.entities
  positions := later.positions.trans earlier.positions
  soliderLevels := later.soliderLevels.trans earlier.soliderLevels
  kinds team team_mem := by
    obtain ⟨between, between_mem, same⟩ := later.kinds team team_mem
    obtain ⟨old, old_mem, old_same⟩ := earlier.kinds between between_mem
    exact ⟨old, old_mem, old_same.trans same⟩

end SameHeros

/-- The links are sound, and what the soldiers of a team need can be told. -/
structure Sound (config : Config) (state : State) : Prop where
  linked : state.Linked
  configured : ∀ team ∈ state.teams, team.Configured config state

theorem Sound.same {config : Config} {before after : State} (sound : Sound config before)
    (same : SameHeros before after) : Sound config after where
  linked := by
    have linked := sound.linked
    unfold State.Linked at linked ⊢
    rwa [same.entities, same.positions]
  configured team team_mem := by
    obtain ⟨old, old_mem, old_same⟩ := same.kinds team team_mem
    have configured := sound.configured old old_mem
    unfold Team.Configured at configured ⊢
    rwa [same.soliderLevels, ← old_same]

section Reserves

variable {config : Config} {state after : State} {num : ℤ}

theorem costReserveArmyCount_cases (paid : state.costReserveArmyCount num = some after) :
    num ≠ 0 ∧ num ≤ state.getReserveArmyCount ∧ after = { state with
      reserveArmy := state.reserveArmy.rewrite (Reserve.cost num) (Reserve.cost_keys num) } := by
  unfold State.costReserveArmyCount at paid
  split at paid
  · cases paid
  next allowed =>
    rw [not_or, not_lt] at allowed
    exact ⟨allowed.1, allowed.2, (Option.some.inj paid).symm⟩

theorem addReserveArmyCount_cases (repaid : state.addReserveArmyCount num = some after) :
    num ≠ 0 ∧ after = { state with
      reserveArmy := state.reserveArmy.rewrite (Reserve.add state.maxTrainSpace num)
        (Reserve.add_keys state.maxTrainSpace num) } := by
  unfold State.addReserveArmyCount at repaid
  split at repaid
  · cases repaid
  next not_zero => exact ⟨not_zero, (Option.some.inj repaid).symm⟩

theorem SameHeros.cost (paid : state.costReserveArmyCount num = some after) :
    SameHeros state after := by
  obtain ⟨_, _, rfl⟩ := costReserveArmyCount_cases paid
  exact .of_armys rfl rfl rfl

theorem SameHeros.costOr (num : ℤ) (state : State) :
    SameHeros state ((state.costReserveArmyCount num).getD state) := by
  cases paid : state.costReserveArmyCount num with
  | none => exact .refl state
  | some after => exact .cost paid

theorem SameHeros.add (repaid : state.addReserveArmyCount num = some after) :
    SameHeros state after := by
  obtain ⟨_, rfl⟩ := addReserveArmyCount_cases repaid
  exact .of_armys rfl rfl rfl

theorem SameHeros.addOr (num : ℤ) (state : State) :
    SameHeros state ((state.addReserveArmyCount num).getD state) := by
  cases repaid : state.addReserveArmyCount num with
  | none => exact .refl state
  | some after => exact .add repaid

theorem exchange_cases {old : Option Team} {team : Team}
    (exchanged : state.exchange config old team = some after) :
    ∃ reserveArmy, after = { state with reserveArmy } := by
  unfold State.exchange at exchanged
  split at exchanged
  · split_ifs at exchanged
    · exact ⟨_, (addReserveArmyCount_cases exchanged).2⟩
    · exact ⟨_, (costReserveArmyCount_cases exchanged).2.2⟩
    · exact ⟨state.reserveArmy, (Option.some.inj exchanged).symm⟩
  · cases exchanged

theorem SameHeros.exchange {old : Option Team} {team : Team}
    (exchanged : state.exchange config old team = some after) : SameHeros state after := by
  obtain ⟨_, rfl⟩ := exchange_cases exchanged
  exact .of_armys rfl rfl rfl

end Reserves

section Soldiers

variable {config : Config} {state after : State} {army : Army} {armyId index : ℤ}

theorem SameHeros.recount {slot : Slot} (found : state.armys.get armyId = some army)
    (placed : army.teams.get index = some slot) (count : ℤ) :
    SameHeros state { state with
      armys := state.armys.put
        (army.setTeam index { slot.team with soliderCount := count }) } where
  entities := rfl
  positions := by
    have written := sum_writeTeam Team.members found index
      { slot.team with soliderCount := count }
    rw [placed] at written
    exact add_right_cancel written
  soliderLevels := rfl
  kinds team team_mem := by
    have slot_mem := State.mem_teams_of_get found (Army.get_mem_teamList placed)
    rcases State.mem_teams_setTeam found team_mem with rfl | old
    · exact ⟨slot.team, slot_mem, rfl⟩
    · exact ⟨team, old, rfl⟩

theorem SameHeros.fillUp (filled : state.fillUpSoliders config armyId index = some after) :
    SameHeros state after := by
  unfold State.fillUpSoliders at filled
  obtain ⟨army, found, filled⟩ := Option.bind_eq_some_iff.mp filled
  obtain ⟨slot, placed, filled⟩ := Option.bind_eq_some_iff.mp filled
  split at filled
  next teamSpace trainSpace _ _ =>
    rw [← Option.some.inj filled]
    exact (SameHeros.recount found placed _).trans (.costOr _ _)
  · cases filled

theorem SameHeros.fillPlace {place : ℤ × ℤ} (filled : state.fillPlace config place = some after) :
    SameHeros state after := by
  unfold State.fillPlace at filled
  obtain ⟨army, found, filled⟩ := Option.bind_eq_some_iff.mp filled
  obtain ⟨slot, placed, filled⟩ := Option.bind_eq_some_iff.mp filled
  split at filled
  · exact Option.some.inj filled ▸ .refl state
  · exact .fillUp filled

theorem SameHeros.takeSoldier {team : BattleTeam}
    (taken : state.getStarmapCampaignSoldier config team = some after) : SameHeros state after := by
  unfold State.getStarmapCampaignSoldier at taken
  split at taken
  · exact Option.some.inj taken ▸ .refl state
  · split at taken
    · exact Option.some.inj taken ▸ .refl state
    · obtain ⟨slot, placed, taken⟩ := Option.bind_eq_some_iff.mp taken
      split at taken
      · exact Option.some.inj taken ▸ .refl state
      · exact .fillUp taken

theorem SameHeros.takeArmy (config : Config) (teams : List BattleTeam) (state : State) :
    SameHeros state (state.takeStarmapCampaignArmy config teams) := by
  induction teams generalizing state with
  | nil => exact .refl state
  | cons team teams ih =>
      unfold State.takeStarmapCampaignArmy
      split
      · exact .refl state
      next filled filled_eq => exact (SameHeros.takeSoldier filled_eq).trans (ih filled)

theorem SameHeros.fillAll (config : Config) (places : List (ℤ × ℤ)) (state : State) :
    SameHeros state (state.fillAll config places).1 := by
  induction places generalizing state with
  | nil => exact .refl state
  | cons place places ih =>
      unfold State.fillAll
      split
      · exact .refl state
      next filled filled_eq => exact (SameHeros.fillPlace filled_eq).trans (ih filled)

theorem SameHeros.putInOrder (armyId : ℤ) (state : State) :
    SameHeros state (state.putInOrderArmyTeams armyId) := by
  unfold State.putInOrderArmyTeams
  split
  · exact .refl state
  next army found =>
    obtain ⟨_, rfl⟩ := Keyed.get_mem found
    refine ⟨rfl, ?_, rfl, fun team team_mem => ⟨team, ?_, rfl⟩⟩
    · have written := State.sum_put Team.members army.putInOrder found
      rw [Army.sum_putInOrder Team.members fun team _ heroless => if_pos heroless] at written
      exact add_right_cancel written
    · rcases State.mem_teams_put team_mem with kept | old
      · rw [Army.teamList_putInOrder] at kept
        exact State.mem_teams_of_get found (List.mem_of_mem_filter kept)
      · exact old

theorem SameHeros.loseAll (config : Config) (armyId : ℤ) (soliders : List Loss) (state : State) :
    SameHeros state (state.loseAll config armyId soliders).1 := by
  induction soliders generalizing armyId state with
  | nil => exact .refl state
  | cons loss soliders ih =>
      unfold State.loseAll
      split
      · exact ih armyId state
      · split
        · exact ih _ state
        next army found =>
          split
          · exact .refl state
          next slot placed =>
            have index_eq := (Keyed.get_mem placed).2
            have recounted := SameHeros.recount found placed
              (max (slot.team.soliderCount - loss.dieCount) 0)
            rw [← index_eq] at recounted
            exact recounted.trans (ih _ _)

theorem SameHeros.costSolidersLife (config : Config) (soliders : List Loss) (state : State) :
    SameHeros state (state.costSolidersLife config soliders).1 := by
  have lost := SameHeros.loseAll config 0 soliders state
  unfold State.costSolidersLife
  split
  next last entries lost_eq =>
    rw [lost_eq] at lost
    exact lost
  next last entries armyId lost_eq =>
    rw [lost_eq] at lost
    dsimp only
    split
    · exact lost
    · exact lost.trans (.putInOrder armyId last)

end Soldiers

section Heros

variable {config : Config} {state : State} {rest : Multiset EntityId}

theorem leaveHero (heroId : ℤ)
    (linked : Tables.Linked Entity.Marked state.entities (rest + membersOf heroId)) :
    Tables.Linked Entity.Marked (state.setHeroRef heroId .none).entities rest := by
  unfold State.setHeroRef membersOf at *
  split at linked
  next no_hero => simpa [no_hero] using linked
  next is_hero =>
    rw [if_neg is_hero]
    refine linked.leave fun entity changed => ?_
    obtain ⟨hero, _, rfl⟩ := Option.map_eq_some_iff.mp changed
    simp [Entity.Marked]

theorem enterHero (heroId : ℤ) (linked : Tables.Linked Entity.Marked state.entities rest)
    (ready : heroId ≠ 0 → (state.entities (.heroBag, heroId)).isSome ∧
      ((.heroBag, heroId) : EntityId) ∉ rest) :
    Tables.Linked Entity.Marked (state.setHeroRef heroId .army).entities
      (rest + membersOf heroId) := by
  unfold State.setHeroRef membersOf
  split
  next no_hero => simpa using linked
  next is_hero =>
    obtain ⟨present, absent⟩ := ready is_hero
    obtain ⟨hero, found⟩ := Option.isSome_iff_exists.mp present
    simp only [State.setRef, found, Option.map_some]
    exact linked.enter absent rfl

theorem markAgain (heroId : ℤ) (linked : state.Linked) (in_army : state.inArmy heroId) :
    Tables.Linked Entity.Marked (state.setHeroRef heroId .army).entities state.positions := by
  have heroId_mem : ((.heroBag, heroId) : EntityId) ∈ state.positions := by
    simpa [State.inArmy] using in_army
  unfold State.setHeroRef
  split
  · exact linked
  · obtain ⟨hero, found⟩ := Option.isSome_iff_exists.mp (linked.present _ heroId_mem)
    simp only [State.setRef, found, Option.map_some]
    exact linked.inside heroId_mem rfl

theorem setRefs_linked {ref : Ref} (no_army : ref ≠ .army) {ids : List EntityId}
    (linked : Tables.Linked Entity.Marked state.entities rest) (absent : ∀ id ∈ ids, id ∉ rest) :
    Tables.Linked Entity.Marked (ids.foldl (fun state id => state.setRef id ref) state).entities
      rest := by
  induction ids generalizing state with
  | nil => exact linked
  | cons id ids ih =>
      rw [List.forall_mem_cons] at absent
      refine ih ?_ absent.2
      refine linked.outside absent.1 fun entity changed => ?_
      obtain ⟨old, _, rfl⟩ := Option.map_eq_some_iff.mp changed
      exact no_army

theorem setRefs_armys (ref : Ref) (ids : List EntityId) (state : State) :
    (ids.foldl (fun state id => state.setRef id ref) state).armys = state.armys ∧
      (ids.foldl (fun state id => state.setRef id ref) state).soliderLevels =
        state.soliderLevels := by
  induction ids generalizing state with
  | nil => exact ⟨rfl, rfl⟩
  | cons id ids ih => exact ih (state.setRef id ref)

theorem idle_absent (linked : state.Linked) {id : EntityId} (idle : state.idle id) :
    id ∉ state.positions := by
  intro id_mem
  obtain ⟨entity, found⟩ := Option.isSome_iff_exists.mp (linked.present id id_mem)
  have marked := (linked.marked_iff id entity found).mpr id_mem
  simp [State.idle, found, show entity.ref = .army from marked] at idle

theorem delete_linked (linked : state.Linked) {ids : List EntityId}
    (absent : ∀ id ∈ ids, id ∉ state.positions) :
    Tables.Linked Entity.Marked (state.delete ids).entities state.positions := by
  refine linked.elsewhere (fun id id_mem => ?_) fun id id_absent entity found => ?_
  · exact if_neg fun deleted => absent id deleted id_mem
  · simp only [State.delete] at found
    split at found
    · cases found
    · exact linked.unmarked id_absent found

variable {teams : List Team}

theorem freeTeams_linked {need : ℤ} {freed : State}
    (linked : Tables.Linked Entity.Marked state.entities (rest + (teams.map Team.members).sum))
    (ended : state.freeTeams config teams = (freed, some need)) :
    Tables.Linked Entity.Marked freed.entities rest := by
  induction teams generalizing state need freed with
  | nil =>
      cases ended
      simpa using linked
  | cons team teams ih =>
      unfold State.freeTeams at ended
      split at ended
      · cases ended
      next first first_eq =>
        rw [List.map_cons, List.sum_cons, add_comm (Team.members team), ← add_assoc] at linked
        have left := leaveHero team.heroId linked
        obtain ⟨freed_eq, need_eq⟩ := Prod.mk.inj ended
        obtain ⟨others, others_eq, _⟩ := Option.map_eq_some_iff.mp need_eq
        exact ih left (Prod.ext freed_eq others_eq)

theorem freeTeams_frame (config : Config) (teams : List Team) (state : State) :
    ∃ entities, (state.freeTeams config teams).1 = { state with entities } := by
  induction teams generalizing state with
  | nil => exact ⟨state.entities, rfl⟩
  | cons team teams ih =>
      obtain ⟨first, first_eq⟩ := setHeroRef_frame team.heroId .none state
      unfold State.freeTeams
      split
      · exact ⟨state.entities, rfl⟩
      · obtain ⟨last, last_eq⟩ := ih (state.setHeroRef team.heroId .none)
        exact ⟨last, by rw [last_eq, first_eq]⟩

theorem freeTeams_isSome (configured : ∀ team ∈ teams, team.Configured config state) :
    (state.freeTeams config teams).2.isSome := by
  induction teams generalizing state with
  | nil => rfl
  | cons team teams ih =>
      rw [List.forall_mem_cons] at configured
      have need_some := teamNeed_isSome.mpr configured.1
      unfold State.freeTeams
      split
      next failed =>
        split at failed
        · cases failed
        · rw [failed] at need_some
          cases need_some
      next need need_eq =>
        rw [Option.isSome_map]
        refine ih fun other other_mem => ?_
        simpa [Team.Configured] using configured.2 other other_mem

theorem cleanTeams_linked
    (linked : Tables.Linked Entity.Marked state.entities (rest + (teams.map Team.members).sum))
    (configured : ∀ team ∈ teams, team.Configured config state) :
    (state.cleanTeams config teams).2 = true ∧
      Tables.Linked Entity.Marked (state.cleanTeams config teams).1.entities rest := by
  induction teams generalizing state with
  | nil => exact ⟨rfl, by simpa [State.cleanTeams] using linked⟩
  | cons team teams ih =>
      rw [List.forall_mem_cons] at configured
      rw [List.map_cons, List.sum_cons, add_comm (Team.members team), ← add_assoc] at linked
      have left := leaveHero team.heroId linked
      have need_some : ((state.setHeroRef team.heroId .none).teamNeed config team).isSome := by
        rw [teamNeed_isSome]
        simpa [Team.Configured] using configured.1
      obtain ⟨need, need_eq⟩ := Option.isSome_iff_exists.mp need_some
      unfold State.cleanTeams
      simp only [need_eq]
      have repaid := SameHeros.addOr need (state.setHeroRef team.heroId .none)
      refine ih (repaid.entities ▸ left) fun other other_mem => ?_
      have other_configured := configured.2 other other_mem
      unfold Team.Configured at other_configured ⊢
      rwa [repaid.soliderLevels, setHeroRef_soliderLevels]

theorem cleanTeams_soliderLevels (config : Config) (teams : List Team) (state : State) :
    (state.cleanTeams config teams).1.soliderLevels = state.soliderLevels := by
  induction teams generalizing state with
  | nil => rfl
  | cons team teams ih =>
      unfold State.cleanTeams
      dsimp only
      split
      · simp
      next need _ =>
        rw [ih, (SameHeros.addOr need (state.setHeroRef team.heroId .none)).soliderLevels]
        simp

end Heros

namespace Sound

variable {config : Config} {state : State}

theorem relink (sound : Sound config state) {after : State} (linked : after.Linked)
    (soliderLevels : after.soliderLevels = state.soliderLevels)
    (teams : ∀ team ∈ after.teams, team ∈ state.teams) : Sound config after where
  linked := linked
  configured team team_mem := by
    have configured := sound.configured team (teams team team_mem)
    unfold Team.Configured at configured ⊢
    rwa [soliderLevels]

theorem outside (sound : Sound config state) {after : State} (armys : after.armys = state.armys)
    (soliderLevels : after.soliderLevels = state.soliderLevels)
    (linked : Tables.Linked Entity.Marked after.entities state.positions) :
    Sound config after := by
  refine sound.relink ?_ soliderLevels fun team team_mem => ?_
  · have same : after.positions = state.positions := by
      simp only [State.positions, State.sum, armys]
    rwa [State.Linked, same]
  · simpa only [State.teams, armys] using team_mem

theorem addArmys (sound : Sound config state) {armyId : ℤ} {nameOk : Bool} {teams : List Team}
    (safe : (Event.addArmys armyId nameOk teams).KeepsLinks config state) :
    Sound config (state.addArmys config armyId nameOk teams) := by
  unfold State.addArmys
  split
  · exact sound
  next need need_eq =>
    rcases safe with rfl | refused
    · have need_zero : need = 0 := by
        unfold State.newArmyNeed at need_eq
        split at need_eq
        · exact (Option.some.inj need_eq).symm
        · cases need_eq
      have absent : state.armys.get armyId = none := by
        unfold State.newArmyNeed at need_eq
        split at need_eq
        next new => simpa using new.1
        · cases need_eq
      subst need_zero
      simp only [lt_irrefl, if_false]
      have added := State.sum_add Team.members ⟨armyId, Army.ofTeams []⟩ absent
      refine sound.relink ?_ rfl fun team team_mem => ?_
      · have same : ({ state with
            armys := state.armys.add ⟨armyId, Army.ofTeams []⟩ }.queryArmys).positions =
              state.positions := by
          refine added.trans ?_
          simp [Army.sum, State.positions]
        rw [State.Linked, same]
        exact sound.linked
      · obtain ⟨army, army_mem, is_team⟩ := List.mem_flatMap.mp team_mem
        rcases Keyed.mem_add army_mem with rfl | old
        · simp at is_team
        · exact List.mem_flatMap.mpr ⟨army, old, is_team⟩
    · unfold State.refuses at refused
      simp only [need_eq, decide_eq_true_eq] at refused
      have unpaid : state.costReserveArmyCount need = none := if_pos (.inr refused.2)
      simp only [if_pos refused.1, unpaid]
      exact sound

end Sound

section Places

variable {config : Config} {state : State} {army : Army} {armyId index : ℤ}

/-- The hero at a place, 0 if there is none. -/
def heroAt (army : Army) (index : ℤ) : ℤ :=
  ((army.teams.get index).map fun slot => slot.team.heroId).getD 0

theorem positions_setTeam (found : state.armys.get armyId = some army) (index : ℤ) (team : Team) :
    ∃ rest, state.positions = rest + membersOf (heroAt army index) ∧
      { state with armys := state.armys.put (army.setTeam index team) }.positions =
        rest + membersOf team.heroId := by
  have old_members : ((army.teams.get index).map fun slot => slot.team.members).getD 0 =
      membersOf (heroAt army index) := by
    unfold heroAt
    cases army.teams.get index with
    | none => rfl
    | some slot => rfl
  have emptied := sum_writeTeam Team.members found index ⟨0, 0, 0⟩
  have written := sum_writeTeam Team.members found index team
  rw [old_members] at emptied written
  refine ⟨_, (emptied.trans (add_zero _)).symm, ?_⟩
  refine add_right_cancel (b := membersOf (heroAt army index)) ?_
  calc
    _ = state.positions + membersOf team.heroId := written
    _ = _ := by
      rw [State.positions, ← (emptied.trans (add_zero _)), add_right_comm]

theorem mem_teams_placeTeam {team newTeam : Team} (found : state.armys.get armyId = some army)
    (mem : team ∈ (state.placeTeam army index newTeam).teams) :
    team = newTeam ∨ team ∈ state.teams := by
  have written : team ∈ { state with
      armys := state.armys.put (army.setTeam index newTeam).putInOrder }.teams := by
    simpa only [State.placeTeam, State.teams, State.queryArmys, setHeroRef_armys] using mem
  rcases State.mem_teams_put written with new | old
  · rw [Army.teamList_putInOrder] at new
    exact (Army.mem_setTeam (List.mem_of_mem_filter new)).imp_right
      (State.mem_teams_of_get found)
  · exact .inr old

theorem sum_placeTeam {Amount : Type*} [AddCancelCommMonoid Amount] (amount : Team → Amount)
    (found : state.armys.get armyId = some army) (index : ℤ) (newTeam : Team)
    (empty : ∀ team ∈ (army.setTeam index newTeam).teamList, team.heroId = 0 → amount team = 0) :
    (state.placeTeam army index newTeam).sum amount =
      { state with armys := state.armys.put (army.setTeam index newTeam) }.sum amount := by
  obtain ⟨_, rfl⟩ := Keyed.get_mem found
  refine Eq.trans ?_ (sum_putInOrder amount (army.setTeam index newTeam) found empty)
  simp only [State.placeTeam, State.sum, State.queryArmys, setHeroRef_armys]

/-- The new team is checked: its hero is there and stands in no other place. -/
theorem Sound.placeTeam (sound : Sound config state) (found : state.armys.get armyId = some army)
    {newTeam : Team} (free : state.heroFree army index newTeam.heroId)
    (verified : newTeam.heroId ≠ 0 → (state.entities (.heroBag, newTeam.heroId)).isSome)
    (configured : newTeam.Configured config state) :
    Sound config (state.placeTeam army index newTeam) := by
  obtain ⟨rest, before_eq, after_eq⟩ := positions_setTeam found index newTeam
  have linked := sound.linked
  unfold State.Linked at linked
  rw [before_eq] at linked
  have left := leaveHero (heroAt army index) linked
  have entered := enterHero newTeam.heroId left fun is_hero =>
    ⟨setHeroRef_isSome _ _ (verified is_hero), fun hero_mem => ?_⟩
  · have placed : (state.placeTeam army index newTeam).positions =
        rest + membersOf newTeam.heroId :=
      (sum_placeTeam Team.members found index newTeam fun _ _ heroless => if_pos heroless).trans
        after_eq
    refine ⟨?_, fun team team_mem => ?_⟩
    · rw [State.Linked, placed]
      exact entered
    · have levels : (state.placeTeam army index newTeam).soliderLevels = state.soliderLevels := by
        simp [State.placeTeam, State.queryArmys]
      have team_configured : team.Configured config state := by
        rcases mem_teams_placeTeam found team_mem with rfl | old
        · exact configured
        · exact sound.configured team old
      unfold Team.Configured at team_configured ⊢
      rwa [levels]
  · -- either the place was this hero's, and no other place is, or it stood nowhere
    simp only [State.heroFree, Bool.or_eq_true, decide_eq_true_eq, Bool.not_eq_true',
      is_hero, false_or] at free
    rcases free with same | absent
    · obtain ⟨slot, slot_eq, hero_eq⟩ := (Option.any_eq_true _ _).mp same
      have hero_at : heroAt army index = newTeam.heroId := by
        simpa [heroAt, slot_eq] using hero_eq
      have once := linked.once
      rw [hero_at, membersOf, if_neg is_hero, add_comm, Multiset.singleton_add,
        Multiset.nodup_cons] at once
      exact once.1 hero_mem
    · have in_positions : ((.heroBag, newTeam.heroId) : EntityId) ∈ state.positions := by
        rw [before_eq]
        exact Multiset.mem_add.mpr (.inl hero_mem)
      simp [State.inArmy, in_positions] at absent

theorem verifyArmyTeam_hero {team : Team} (verified : state.verifyArmyTeam config team)
    (is_hero : team.heroId ≠ 0) : (state.entities (.heroBag, team.heroId)).isSome := by
  simp only [State.verifyArmyTeam, if_neg is_hero, Bool.and_eq_true] at verified
  obtain ⟨hero, found, _⟩ := (Option.any_eq_true _ _).mp verified.1
  simp [found]

theorem verifyArmyTeam_configured {team : Team} (verified : state.verifyArmyTeam config team) :
    team.Configured config state := by
  by_cases soldiers : team.soliderCfgId = 0
  · exact .inl soldiers
  · simp only [State.verifyArmyTeam, soldiers, decide_false, Bool.false_or,
      Bool.and_eq_true, State.soldiersReady] at verified
    refine teamNeed_isSome.mp ?_
    cases need_eq : state.teamNeed config team with
    | none => simp [need_eq] at verified
    | some need => rfl

namespace Sound

section

variable (sound : Sound config state)
include sound

theorem updateArmy (armyId index : ℤ) (nameOk : Bool) (teams : List Team) :
    Sound config (state.updateArmy config armyId index nameOk teams) := by
  unfold State.updateArmy
  split
  · exact sound
  · split
    · exact sound.same (.of_armys rfl rfl rfl)
    · exact sound
  next army newTeam _ found =>
    split
    next accepted =>
      rw [Bool.and_eq_true] at accepted
      split
      · exact sound
      next paid paid_eq =>
        have same := SameHeros.exchange paid_eq
        obtain ⟨_, paid_is⟩ := exchange_cases paid_eq
        have configured := verifyArmyTeam_configured accepted.2
        replace found : paid.armys.get armyId = some army := by rw [paid_is]; exact found
        refine (sound.same same).placeTeam found ?_ ?_ ?_
        · have free := accepted.1
          unfold State.heroFree State.inArmy at free ⊢
          rwa [same.positions]
        · intro is_hero
          rw [same.entities]
          exact verifyArmyTeam_hero accepted.2 is_hero
        · unfold Team.Configured at configured ⊢
          rwa [same.soliderLevels]
    · exact sound

theorem deleteArmys (armyId : ℤ) : Sound config (state.deleteArmys config armyId) := by
  unfold State.deleteArmys
  split
  · exact sound
  next army found =>
    have erased := State.sum_erase Team.members found
    have linked := sound.linked
    unfold State.Linked State.positions at linked
    rw [← erased] at linked
    have configured : ∀ team ∈ army.teamList, team.Configured config state := fun team team_mem =>
      sound.configured team (State.mem_teams_of_get found team_mem)
    have ended := freeTeams_isSome configured
    obtain ⟨entities, frame⟩ := freeTeams_frame config army.teamList state
    split
    next failed => simp [failed] at ended
    next freed need freed_eq =>
      have left := freeTeams_linked linked freed_eq
      rw [freed_eq] at frame
      have frame : freed = { state with entities } := frame
      have repaid : ∃ repaid, (if need = 0 then some freed else freed.addReserveArmyCount need) =
          some repaid ∧ SameHeros freed repaid ∧ repaid.armys = freed.armys := by
        split
        · exact ⟨freed, rfl, .refl freed, rfl⟩
        next not_zero =>
          have added : freed.addReserveArmyCount need = some _ := if_neg not_zero
          exact ⟨_, added, .add added, rfl⟩
      obtain ⟨repaid, repaid_eq, same, armys_same⟩ := repaid
      simp only [repaid_eq]
      have armys_eq : repaid.armys = state.armys := armys_same.trans (by rw [frame])
      have levels_eq : freed.soliderLevels = state.soliderLevels := by rw [frame]
      refine sound.relink ?_ (same.soliderLevels.trans levels_eq) fun team team_mem => ?_
      · have positions_eq : ({ repaid with
            armys := repaid.armys.erase armyId }.queryArmys).positions =
              { state with armys := state.armys.erase armyId }.positions := by
          simp only [State.positions, State.sum, State.queryArmys, armys_eq]
        rw [State.Linked, positions_eq]
        exact same.entities ▸ left
      · refine State.mem_teams_erase armyId ?_
        simpa only [State.teams, State.queryArmys, armys_eq] using team_mem

theorem cleanAllArmy : Sound config (state.cleanAllArmy config) := by
  have linked := sound.linked
  unfold State.Linked at linked
  rw [State.positions, State.sum_eq, ← zero_add (List.sum _)] at linked
  obtain ⟨ended, left⟩ := cleanTeams_linked linked sound.configured
  have levels := cleanTeams_soliderLevels config state.teams state
  unfold State.cleanAllArmy
  split
  next cleaned cleaned_eq =>
    have failed := congrArg Prod.snd cleaned_eq
    exact absurd (ended.symm.trans failed) (by simp)
  next cleaned cleaned_eq =>
    have cleaned_is : (state.cleanTeams config state.teams).1 = cleaned :=
      congrArg Prod.fst cleaned_eq
    rw [cleaned_is] at left levels
    exact sound.relink left levels fun team team_mem => by
      simp [State.teams, State.queryArmys] at team_mem

theorem writeTeam (found : state.armys.get armyId = some army) (team : Team)
    (configured : team.Configured config state) {after : State} (armys : after.armys = state.armys)
    (soliderLevels : after.soliderLevels = state.soliderLevels)
    (linked : Tables.Linked Entity.Marked after.entities
      { state with armys := state.armys.put (army.setTeam index team) }.positions)
    (editable : State.editable config team) :
    Sound config (after.writeTeam config army index team) := by
  unfold State.writeTeam
  rw [if_pos editable, armys]
  refine ⟨linked, fun other other_mem => ?_⟩
  have other_configured : other.Configured config state := by
    rcases State.mem_teams_setTeam found other_mem with rfl | old
    · exact configured
    · exact sound.configured other old
  unfold Team.Configured at other_configured ⊢
  rwa [State.queryArmys, soliderLevels]

theorem editedArmy {team : Team}
    (safe : (Event.editedArmy armyId index team).KeepsLinks config state) :
    Sound config (state.editedArmy config armyId index team) := by
  unfold State.editedArmy
  split
  next army inner found =>
    have safe_here := safe inner army found
    obtain ⟨rest, before_eq, after_eq⟩ := positions_setTeam found index team
    have linked := sound.linked
    unfold State.Linked at linked
    split
    next no_hero =>
      rw [if_pos no_hero] at safe_here
      by_cases editable : State.editable config team
      · obtain ⟨old_zero, counted⟩ := safe_here editable
        have same : { state with
            armys := state.armys.put (army.setTeam index team) }.positions = state.positions := by
          rw [before_eq, after_eq, no_hero, heroAt, old_zero]
        exact sound.writeTeam found team (teamNeed_isSome.mp counted) rfl rfl (same ▸ linked)
          editable
      · rw [State.writeTeam, if_neg editable]
        exact sound
    next is_hero =>
      rw [if_neg is_hero] at safe_here
      split
      · exact sound
      next present =>
        have hero_there : (state.entities (.heroBag, team.heroId)).isSome := by
          simpa [Option.isSome_iff_ne_none] using present
        have allowed := safe_here hero_there
        split at allowed
        next in_army =>
          have marked := markAgain team.heroId sound.linked in_army
          have outside := sound.outside (setHeroRef_armys team.heroId .army)
            (setHeroRef_soliderLevels team.heroId .army) marked
          dsimp only
          split
          · exact outside
          next old old_eq =>
            simp only [old_eq, Option.map_some, reduceCtorEq, false_or, Option.some.injEq]
              at allowed
            rw [allowed.1, State.writeTeam, if_neg (by simp [allowed.2])]
            exact outside
        next not_in_army =>
          obtain ⟨old_there, editable, counted⟩ := allowed
          dsimp only
          split
          next absent => simp [absent] at old_there
          next old old_eq =>
            have hero_absent : ((.heroBag, team.heroId) : EntityId) ∉ state.positions := by
              simpa [State.inArmy] using not_in_army
            have entered := enterHero team.heroId linked fun _ => ⟨hero_there, hero_absent⟩
            have old_hero : heroAt army index = old.team.heroId := by simp [heroAt, old_eq]
            rw [before_eq, add_right_comm, old_hero, ← after_eq] at entered
            have left := leaveHero old.team.heroId entered
            exact sound.writeTeam found team (teamNeed_isSome.mp counted) (by simp) (by simp) left
              editable
  · exact sound

end

end Sound

end Places

section Bags

namespace Sound

variable {config : Config} {state : State}

section

variable (sound : Sound config state)
include sound

theorem delete {ids : List EntityId} (absent : ∀ id ∈ ids, id ∉ state.positions) :
    Sound config (state.delete ids) :=
  sound.outside rfl rfl (delete_linked sound.linked absent)

theorem sell (bag : EntityBag) (ids : List (ℤ × Bool)) : Sound config (state.sell bag ids) := by
  unfold State.sell
  split
  next allowed =>
    refine sound.delete fun id id_mem => ?_
    obtain ⟨entry, entry_mem, rfl⟩ := List.mem_map.mp id_mem
    have entry_allowed := List.all_eq_true.mp allowed entry entry_mem
    rw [Bool.and_eq_true] at entry_allowed
    exact idle_absent sound.linked entry_allowed.1
  · exact sound

theorem dismantle (bag : EntityBag) (ids : List (ℤ × Bool)) :
    Sound config (state.dismantle bag ids) := by
  induction ids generalizing state with
  | nil => exact sound
  | cons entry ids ih =>
      unfold State.dismantle
      split
      next allowed =>
        rw [Bool.and_eq_true] at allowed
        refine ih (sound.delete fun id id_mem => ?_)
        rw [List.mem_singleton.mp id_mem]
        exact idle_absent sound.linked allowed.1
      · exact sound

theorem setRefs (ref : Ref) (ids : List EntityId) (no_army : ref ≠ .army)
    (absent : ∀ id ∈ ids, id ∉ state.positions) :
    Sound config (ids.foldl (fun state id => state.setRef id ref) state) :=
  have frame := setRefs_armys ref ids state
  sound.outside frame.1 frame.2 (setRefs_linked no_army sound.linked absent)

theorem checkLevelUp (heroId : ℤ) (soldierSpace : ℕ) :
    Sound config (state.checkLevelUp heroId soldierSpace) := by
  unfold State.checkLevelUp
  split
  · exact sound
  next hero found =>
    have marked_iff := sound.linked.marked_iff _ hero found
    refine sound.outside rfl rfl ?_
    by_cases in_army : ((.heroBag, heroId) : EntityId) ∈ state.positions
    · have is_army : hero.ref = .army := marked_iff.mpr in_army
      exact sound.linked.inside in_army (by simp [Entity.Marked, is_army])
    · have no_army : hero.ref ≠ .army := fun is_army => in_army (marked_iff.mp is_army)
      refine sound.linked.outside in_army fun entity changed => ?_
      rw [← Option.some.inj changed, Entity.Marked]
      have not_found : state.inArmy heroId = false := by simpa [State.inArmy] using in_army
      by_cases leveling : hero.ref = .levelUp
      · simp [leveling, not_found]
      · simpa [leveling] using no_army

theorem checkInArmy (heroId : ℤ) : Sound config (state.checkInArmy heroId) := by
  unfold State.checkInArmy
  split
  next in_army =>
    exact sound.outside (setHeroRef_armys heroId .army) (setHeroRef_soliderLevels heroId .army)
      (markAgain heroId sound.linked in_army)
  · exact sound

theorem setOtherRef (id : EntityId) (ref : {ref : Ref // ref ≠ .army}) :
    Sound config (state.setOtherRef id ref) := by
  unfold State.setOtherRef
  split
  · exact sound
  next no_hero =>
    refine sound.setRefs ref [id] ref.property fun other other_mem in_army => ?_
    rw [List.mem_singleton.mp other_mem] at in_army
    exact no_hero (bag_of_mem_positions in_army)

theorem levelUpSolider (cfgId : ℤ) : Sound config (state.levelUpSolider config cfgId) := by
  obtain ⟨armys, entities, _⟩ := State.levelUpSolider_armys config cfgId state
  refine ⟨?_, fun team team_mem => ?_⟩
  · have linked := sound.linked
    unfold State.Linked State.positions State.sum at linked ⊢
    rwa [armys, entities]
  · rw [State.teams, armys] at team_mem
    have configured := sound.configured team team_mem
    unfold Team.Configured at configured ⊢
    rwa [State.trainSpace_levelUpSolider]

end

end Sound

theorem SameHeros.train (id soliderCfgId soliderCount : ℤ) (speedup affords : Bool) (now : ℤ)
    (state : State) : SameHeros state
      (state.doReserveArmyTrain id soliderCfgId soliderCount speedup affords now).1 := by
  unfold State.doReserveArmyTrain
  dsimp only
  split
  · exact .of_armys rfl rfl rfl
  · split <;> exact .of_armys rfl rfl rfl

theorem SameHeros.fillOrQuery (config : Config) (places : List (ℤ × ℤ)) (state : State) :
    SameHeros state (match state.fillAll config places with
      | (filled, false) => filled
      | (filled, true) => filled.queryArmys) := by
  have filled := SameHeros.fillAll config places state
  split
  next after after_eq =>
    rw [after_eq] at filled
    exact filled
  next after after_eq =>
    rw [after_eq] at filled
    exact filled.trans (.of_armys rfl rfl rfl)

end Bags

theorem sound_step {config : Config} {state : State} (sound : Sound config state) (event : Event)
    (safe : event.KeepsLinks config state) :
    Sound config ((machine config).step state event).1 := by
  cases event with
  | addArmys armyId nameOk teams => exact sound.addArmys safe
  | updateArmy armyId index nameOk teams => exact sound.updateArmy armyId index nameOk teams
  | deleteArmys armyId => exact sound.deleteArmys armyId
  | cleanAllArmy => exact sound.cleanAllArmy
  | editedArmy armyId index team => exact sound.editedArmy safe
  | updateAutomatic autoStatus => exact sound.same (.of_armys rfl rfl rfl)
  | oneKeyFillUpSoliders armyIds => exact sound.same (.fillOrQuery config _ state)
  | getFightSoliders armyId =>
      refine sound.same ?_
      simp only [machine, State.getFightSoliders]
      split
      · exact .refl state
      · split
        · exact .fillAll config _ state
        · exact .refl state
  | takeStarmapCampaignArmy teams => exact sound.same (.takeArmy config teams state)
  | costSolidersLife soliders => exact sound.same (.costSolidersLife config soliders state)
  | starmapCampaignCostArmyLife dieSoliders =>
      exact sound.same (.costSolidersLife config _ state)
  | reserveArmyTrain id soliderCfgId soliderCount free affords now =>
      refine sound.same ?_
      simp only [machine, State.reserveArmyTrain]
      split
      · exact .train id soliderCfgId soliderCount false affords now state
      · exact .refl state
  | speedupReserveArmy id soliderCfgId soliderCount free affords now =>
      refine sound.same ?_
      simp only [machine, State.speedupReserveArmy]
      split
      · exact .train id soliderCfgId soliderCount true affords now state
      · exact .refl state
  | updateReserveArmy now => exact sound.same (.of_armys rfl rfl rfl)
  | levelUpSolider cfgId => exact sound.levelUpSolider cfgId
  | levelUpBuild id maxTrainSpace => exact sound.same (.of_armys rfl rfl rfl)
  | levelUpBase baseSpace => exact sound.same (.of_armys rfl rfl rfl)
  | sell bag ids => exact sound.sell bag ids
  | dismantle bag ids => exact sound.dismantle bag ids
  | withdrawNFT ids =>
      refine sound.same ?_
      simp only [machine, State.withdrawNFT]
      split <;> exact .of_armys rfl rfl rfl
  | withdrawn turn =>
      simp only [machine, State.withdrawn]
      split
      · exact sound
      next ids ids_eq => exact (sound.delete (safe ids ids_eq)).same (.of_armys rfl rfl rfl)
  | donateNft ids =>
      refine sound.same ?_
      simp only [machine, State.donateNft]
      split <;> exact .of_armys rfl rfl rfl
  | onUnionDonateNft turn taken =>
      simp only [machine, State.onUnionDonateNft]
      split
      · exact sound
      next ids ids_eq =>
        exact (sound.setRefs _ _ (by simp) (safe ids ids_eq)).same (.of_armys rfl rfl rfl)
  | returnFromUnion bag idList =>
      have returned := sound.setRefs .none (idList.map fun id => (bag, id)) (by simp)
        fun id id_mem => by
          obtain ⟨number, number_mem, rfl⟩ := List.mem_map.mp id_mem
          exact safe number number_mem
      rwa [List.foldl_map] at returned
  | addEntity id soldierSpace =>
      refine sound.outside rfl rfl (sound.linked.outside safe fun entity added => ?_)
      rw [← Option.some.inj added, Entity.Marked]
      simp
  | checkLevelUp heroId soldierSpace => exact sound.checkLevelUp heroId soldierSpace
  | checkSkillUp heroId => exact sound.checkInArmy heroId
  | setOtherRef id ref => exact sound.setOtherRef id ref

theorem sound_fresh (config : Config) {start : State} (fresh : start.Fresh) :
    Sound config start := by
  have no_positions : start.positions = 0 := by simp [State.positions, State.sum, fresh.armys]
  refine ⟨⟨?_, ?_, fun id entity found => ?_⟩, fun team team_mem => ?_⟩
  · simp [no_positions]
  · simp [no_positions]
  · exact iff_of_false (fresh.unmarked id entity found) (by simp [no_positions])
  · simp [State.teams, fresh.armys] at team_mem

def sampleConfig : Config where
  soliders cfgId level := if cfgId = 1 ∧ level ≤ 2 then some ⟨some 2⟩ else none
  soliders_same := by
    intro cfgId level other first second first_eq second_eq
    split_ifs at first_eq second_eq
    exact Option.some.inj (first_eq.symm.trans second_eq)
  trainNeedTick := 15
  isInnerServer := false

def sampleStart : State where
  entities id := if id = (.heroBag, 7) ∨ id = (.heroBag, 8) then some ⟨.none, 0⟩ else none
  armys := ⟨[], List.nodup_nil⟩
  autoStatus := 1
  reserveArmy := ⟨[⟨20, 0, 0, 0, 0, 50⟩], List.nodup_singleton _⟩
  maxTrainSpace _ := 100
  soliderLevels cfgId := if cfgId = 1 then 1 else 0
  baseSpace := 10
  withdrawing := []
  donating := []

theorem sampleStart_fresh : sampleStart.Fresh where
  armys := rfl
  unmarked id entity found := by
    simp only [sampleStart] at found
    split at found
    · exact Option.some.inj found ▸ by decide
    · cases found
  reserves := by
    simp [sampleStart]

end BasWar.Armies
