import BasWar.Unions.CampaignArmy
import Mathlib.Algebra.BigOperators.Group.List.Basic
import Mathlib.Tactic.Abel

/-!
# Is taking union armies atomic?

Taking and returning change the listed items and nothing else.  Every way through
`takeStarmapCampaignArmy` is such a list of takings followed by a list of returns.
-/

namespace BasWar.Unions

/-- Nothing of what the claim is about has changed. -/
structure Untouched (before after : UnionState) : Prop where
  refBy : ∀ id, (after.items id).map (·.refBy) = (before.items id).map (·.refBy)
  battleCd : ∀ id, (after.items id).map (·.battleCd) = (before.items id).map (·.battleCd)
  guildReserveCount : after.guildReserveCount = before.guildReserveCount

def FightArmy.nfts (info : FightArmy) : List ℕ :=
  match info.mainWarShip with
  | some (.item id) => id :: info.heros.map (·.id)
  | some (.made _) | none => info.heros.map (·.id)

/-- An army of the result is the one that was requested. -/
structure FightArmy.Fights (info : FightArmy) (army : UnionArmy) : Prop where
  warShip : army.warShipId ≠ 0 → info.mainWarShip = some (.item army.warShipId)
  made : army.warShipId = 0 → ∃ uuid, info.mainWarShip = some (.made uuid)
  heros : info.heros.map (·.id) = army.heroIds

/-- An item that a battle may take. -/
structure Item.Free (itemType : ItemType) (clock : ℤ) (item : Item) : Prop where
  itemType_eq : item.itemType = itemType
  ref_eq : item.ref = .union
  refBy_eq : item.refBy = 0
  rested : item.itemType = .hero → item.battleCd ≤ clock

namespace UnionState

def teamsReserve (settings : Settings) (teams : List Team) (state : UnionState) : ℤ :=
  ((teams.filter (·.soliderCfgId ≠ 0)).map fun team =>
    state.needReserve settings team.soliderCfgId team.soliderCount).sum

/-- Everything that was requested has been taken. -/
structure Took (settings : Settings) (gridCfgId : ℕ) (armys : List UnionArmy)
    (before : UnionState) (fightArmys : List FightArmy) (after : UnionState) : Prop where
  warShips : ∀ army ∈ armys, army.warShipId ≠ 0 →
    ∃ item, before.items army.warShipId = some item ∧ item.Free .warShip before.clock
  heros : ∀ army ∈ armys, ∀ id ∈ army.heroIds,
    ∃ item, before.items id = some item ∧ item.Free .hero before.clock
  /-- Each requested army is in the result. -/
  present : List.Forall₂ FightArmy.Fights fightArmys armys
  once : (fightArmys.flatMap (·.nfts)).Nodup
  taken : ∀ id ∈ fightArmys.flatMap (·.nfts), after.items id =
    (before.items id).map (Item.taken gridCfgId (before.clock + settings.heroBattleCD))
  others : ∀ id ∉ fightArmys.flatMap (·.nfts), after.items id = before.items id
  guildReserveCount : after.guildReserveCount =
    before.guildReserveCount - before.teamsReserve settings (armys.flatMap (·.teams))

def Atomic (settings : Settings) (gridCfgId : ℕ) (armys : List UnionArmy) (before : UnionState) :
    Option (List FightArmy) × UnionState → Prop
  | (none, after) => Untouched before after
  | (some fightArmys, after) => before.Took settings gridCfgId armys fightArmys after

/-- What the checks of `takeStarmapCampaignArmy` ask for. -/
structure Passes (settings : Settings) (armys : List UnionArmy) (state : UnionState) : Prop where
  warShips : ∀ army ∈ armys, army.warShipId ≠ 0 →
    ∃ item, state.items army.warShipId = some item ∧ item.Free .warShip state.clock
  heros : ∀ army ∈ armys, ∀ team ∈ army.teams, team.heroId ≠ 0 →
    ∃ item, state.items team.heroId = some item ∧ item.Free .hero state.clock
  limits : ∀ army ∈ armys, ∀ team ∈ army.teams,
    team.soliderCount ≤ state.getStarmapBattleSoliderCount settings team.heroId
  once : (armys.flatMap (·.needItems)).Nodup
  enough : state.isPersonalUnionSoldierEnough settings (needSoliders armys)

theorem takeErrors_eq_nil (id : ℕ) (itemType : ItemType) (state : UnionState) :
    state.takeErrors id itemType = [] ↔
      ∃ item, state.items id = some item ∧ item.Free itemType state.clock := by
  cases found : state.items id with
  | none => simp [takeErrors, found]
  | some item =>
      simp only [takeErrors, found, Option.some.injEq, exists_eq_left']
      split
      case isTrue refused =>
        refine iff_of_false (by simp) fun free => ?_
        rcases refused with wrong | wrong | wrong
        · exact wrong free.itemType_eq
        · exact wrong free.ref_eq
        · exact absurd free.refBy_eq wrong.ne'
      case isFalse available =>
        push Not at available
        obtain ⟨itemType_eq, ref_eq, refBy_le⟩ := available
        split
        case isTrue tired =>
          exact iff_of_false (by simp) fun free => absurd (free.rested tired.1) (by omega)
        case isFalse rested =>
          refine iff_of_true rfl ⟨itemType_eq, ref_eq, by omega, fun hero => ?_⟩
          by_contra late
          exact rested ⟨hero, by omega⟩

theorem firstError_eq_nil {α : Type} (errors : α → List UnionError) (values : List α) :
    ((values.map errors).find? (· ≠ [])).getD [] = [] ↔ ∀ value ∈ values, errors value = [] := by
  induction values with
  | nil => simp
  | cons value values ih =>
      by_cases clean : errors value = []
      · simpa [clean] using ih
      · simp [clean]

theorem teamErrors_eq_nil (settings : Settings) (team : Team) (state : UnionState) :
    state.teamErrors settings team = [] ↔
      (team.heroId ≠ 0 →
        ∃ item, state.items team.heroId = some item ∧ item.Free .hero state.clock) ∧
      team.soliderCount ≤ state.getStarmapBattleSoliderCount settings team.heroId := by
  rw [← takeErrors_eq_nil]
  by_cases no_hero : team.heroId = 0
  · simp [teamErrors, no_hero]
  · by_cases clean : state.takeErrors team.heroId .hero = []
    · simp [teamErrors, no_hero, clean]
    · simp [teamErrors, no_hero, clean]

theorem armyErrors_eq_nil (settings : Settings) (army : UnionArmy) (state : UnionState) :
    state.armyErrors settings army = [] ↔
      (army.warShipId ≠ 0 →
        ∃ item, state.items army.warShipId = some item ∧ item.Free .warShip state.clock) ∧
      ∀ team ∈ army.teams, state.teamErrors settings team = [] := by
  rw [← takeErrors_eq_nil, ← firstError_eq_nil]
  by_cases no_warShip : army.warShipId = 0
  · simp [armyErrors, no_warShip]
  · by_cases clean : state.takeErrors army.warShipId .warShip = []
    · simp [armyErrors, no_warShip, clean]
    · simp [armyErrors, no_warShip, clean]

theorem refusal_eq_nil (settings : Settings) (armys : List UnionArmy) (state : UnionState) :
    state.refusal settings armys = [] ↔ state.Passes settings armys := by
  have armys_iff := firstError_eq_nil (fun army => state.armyErrors settings army) armys
  constructor
  · intro none_found
    unfold refusal at none_found
    dsimp only at none_found
    split at none_found
    case isTrue wrong => exact absurd none_found wrong
    case isFalse clean =>
      have clean_armys := armys_iff.mp (not_not.mp clean)
      split at none_found
      case isTrue => simp at none_found
      case isFalse once =>
        split at none_found
        case isTrue => simp at none_found
        case isFalse enough =>
          have checked army army_mem := (armyErrors_eq_nil settings army state).mp
            (clean_armys army army_mem)
          have checked_team army army_mem team team_mem :=
            (teamErrors_eq_nil settings team state).mp
            ((checked army army_mem).2 team team_mem)
          exact {
            warShips := fun army army_mem => (checked army army_mem).1
            heros := fun army army_mem team team_mem =>
              (checked_team army army_mem team team_mem).1
            limits := fun army army_mem team team_mem =>
              (checked_team army army_mem team team_mem).2
            once := not_not.mp once
            enough := by simpa using enough }
  · intro passes
    have clean : ∀ army ∈ armys, state.armyErrors settings army = [] := fun army army_mem =>
      (armyErrors_eq_nil settings army state).mpr ⟨passes.warShips army army_mem,
        fun team team_mem => (teamErrors_eq_nil settings team state).mpr
          ⟨passes.heros army army_mem team team_mem, passes.limits army army_mem team team_mem⟩⟩
    unfold refusal
    rw [armys_iff.mpr clean]
    simp [passes.once, passes.enough]

theorem needReserve_add (settings : Settings) (cfgId : ℕ) (left right : ℤ) (state : UnionState) :
    state.needReserve settings cfgId (left + right) =
      state.needReserve settings cfgId left + state.needReserve settings cfgId right :=
  mul_add _ left right

theorem need_addNeed (settings : Settings) (cfgId : ℕ) (count : ℤ) (needs : List (ℕ × ℤ))
    (state : UnionState) :
    state.need settings (addNeed cfgId count needs) =
      state.need settings needs + state.needReserve settings cfgId count := by
  induction needs with
  | nil => simp [addNeed, need]
  | cons head needs ih =>
      by_cases same : head.1 = cfgId
      · subst same
        simp only [addNeed, if_pos, need, List.map_cons, List.sum_cons, needReserve_add]
        abel
      · simp only [need] at ih
        simp only [addNeed, if_neg same, need, List.map_cons, List.sum_cons, ih]
        abel

theorem need_foldl_addNeed (settings : Settings) (teams : List Team) (needs : List (ℕ × ℤ))
    (state : UnionState) :
    state.need settings (teams.foldl (fun needs team =>
      addNeed team.soliderCfgId team.soliderCount needs) needs) =
      state.need settings needs + (teams.map fun team =>
        state.needReserve settings team.soliderCfgId team.soliderCount).sum := by
  induction teams generalizing needs with
  | nil => simp
  | cons team teams ih =>
      rw [List.foldl_cons, ih, need_addNeed, List.map_cons, List.sum_cons]
      abel

theorem need_needSoliders (settings : Settings) (armys : List UnionArmy) (state : UnionState) :
    state.need settings (needSoliders armys) =
      state.teamsReserve settings (armys.flatMap (·.teams)) := by
  rw [needSoliders, need_foldl_addNeed, teamsReserve]
  simp [need]

theorem keys_addNeed (cfgId : ℕ) (count : ℤ) (needs : List (ℕ × ℤ)) :
    ∀ key, key ∈ (addNeed cfgId count needs).map (·.1) ↔
      key = cfgId ∨ key ∈ needs.map (·.1) := by
  intro key
  induction needs with
  | nil => simp [addNeed]
  | cons head needs ih =>
      by_cases same : head.1 = cfgId
      · simp [addNeed, same]
      · rw [addNeed, if_neg same, List.map_cons, List.mem_cons, ih, List.map_cons, List.mem_cons]
        exact or_left_comm

theorem keys_foldl_addNeed (teams : List Team) (needs : List (ℕ × ℤ)) :
    ∀ team ∈ teams, team.soliderCfgId ∈ ((teams.foldl (fun needs team =>
      addNeed team.soliderCfgId team.soliderCount needs) needs).map (·.1)) := by
  have kept : ∀ (teams : List Team) (needs : List (ℕ × ℤ)), ∀ key ∈ needs.map (·.1),
      key ∈ ((teams.foldl (fun needs team =>
        addNeed team.soliderCfgId team.soliderCount needs) needs).map (·.1)) := by
    intro teams
    induction teams with
    | nil => exact fun _ _ key_mem => key_mem
    | cons team teams ih =>
        exact fun needs key key_mem => ih _ key ((keys_addNeed _ _ _ key).mpr (.inr key_mem))
  induction teams generalizing needs with
  | nil => simp
  | cons head teams ih =>
      intro team team_mem
      rcases List.mem_cons.mp team_mem with rfl | team_mem
      · exact kept teams _ _ ((keys_addNeed _ _ _ _).mpr (.inl rfl))
      · exact ih _ team team_mem

variable {settings : Settings} {armys : List UnionArmy} {state before after : UnionState}
  {army : UnionArmy} {teams : List Team} {ids : List ℕ} {gridCfgId : ℕ} {info : FightArmy}

section

variable (passes : state.Passes settings armys)
include passes

theorem Passes.trained : state.trained (needSoliders armys) := by
  have enough := passes.enough
  rw [isPersonalUnionSoldierEnough, Bool.and_eq_true] at enough
  exact enough.1

theorem Passes.need_le : state.need settings (needSoliders armys) ≤ state.guildReserveCount := by
  have enough := passes.enough
  rw [isPersonalUnionSoldierEnough, Bool.and_eq_true] at enough
  exact of_decide_eq_true enough.2

theorem Passes.solider_known :
    ∀ army ∈ armys, ∀ team ∈ army.teams, team.soliderCfgId ≠ 0 →
      (state.soliders team.soliderCfgId).isSome := by
  intro army army_mem team team_mem listed
  have key_mem : team.soliderCfgId ∈ (needSoliders armys).map (·.1) := by
    refine keys_foldl_addNeed _ _ team (List.mem_filter.mpr ⟨?_, by simpa using listed⟩)
    exact List.mem_flatMap.mpr ⟨army, army_mem, team_mem⟩
  obtain ⟨need, need_mem, key_eq⟩ := List.mem_map.mp key_mem
  have known := List.all_eq_true.mp passes.trained need need_mem
  rw [key_eq] at known
  cases level : state.soliders team.soliderCfgId with
  | none => simp [level] at known
  | some level => rfl

theorem Passes.listed (army_mem : army ∈ armys) {id : ℕ} (id_mem : id ∈ army.needItems) :
    ∃ item, state.items id = some item ∧ item.refBy = 0 := by
  have hero_case : id ∈ army.heroIds → ∃ item, state.items id = some item ∧ item.refBy = 0 := by
    intro hero_mem
    obtain ⟨hero_mem, id_ne⟩ := List.mem_filter.mp hero_mem
    obtain ⟨team, team_mem, rfl⟩ := List.mem_map.mp hero_mem
    obtain ⟨item, found, free⟩ := passes.heros army army_mem team team_mem (by simpa using id_ne)
    exact ⟨item, found, free.refBy_eq⟩
  unfold UnionArmy.needItems at id_mem
  split at id_mem
  case isTrue named =>
    rcases List.mem_cons.mp id_mem with rfl | hero_mem
    · obtain ⟨item, found, free⟩ := passes.warShips army army_mem named
      exact ⟨item, found, free.refBy_eq⟩
    · exact hero_case hero_mem
  case isFalse => exact hero_case id_mem

end

/-- The items listed are changed, and nothing else is. -/
structure Updates (change : Item → Item) (ids : List ℕ) (before after : UnionState) : Prop where
  listed : ∀ id ∈ ids, after.items id = (before.items id).map change
  others : ∀ id ∉ ids, after.items id = before.items id
  soliders : after.soliders = before.soliders
  clock : after.clock = before.clock
  guildReserveCount : after.guildReserveCount = before.guildReserveCount

namespace Updates

variable {change : Item → Item}

theorem refl (state : UnionState) : Updates change [] state state :=
  ⟨by simp, by simp, rfl, rfl, rfl⟩

theorem trans (idempotent : ∀ item, change (change item) = change item) {ids ids' : List ℕ}
    {before mid after : UnionState} (first : Updates change ids before mid)
    (second : Updates change ids' mid after) : Updates change (ids ++ ids') before after where
  listed id id_mem := by
    by_cases again : id ∈ ids'
    · rw [second.listed id again]
      by_cases earlier : id ∈ ids
      · rw [first.listed id earlier]
        cases before.items id with
        | none => rfl
        | some item => simp [idempotent]
      · rw [first.others id earlier]
    · rw [second.others id again]
      exact first.listed id ((List.mem_append.mp id_mem).resolve_right again)
  others id absent := by
    obtain ⟨earlier, again⟩ := not_or.mp (List.mem_append.not.mp absent)
    rw [second.others id again, first.others id earlier]
  soliders := second.soliders.trans first.soliders
  clock := second.clock.trans first.clock
  guildReserveCount := second.guildReserveCount.trans first.guildReserveCount

theorem isSome {ids : List ℕ} {before after : UnionState}
    (updates : Updates change ids before after)
    (id : ℕ) : (after.items id).isSome = (before.items id).isSome := by
  by_cases listed : id ∈ ids
  · rw [updates.listed id listed, Option.isSome_map]
  · rw [updates.others id listed]

end Updates

theorem returned_returned (item : Item) : item.returned.returned = item.returned := rfl

theorem taken_taken (gridCfgId : ℕ) (battleCd : ℤ) (item : Item) :
    (item.taken gridCfgId battleCd).taken gridCfgId battleCd = item.taken gridCfgId battleCd := rfl

theorem returnBackNft_updates (id : ℕ) (state : UnionState) :
    Updates Item.returned [id] state (state.returnBackNft id) where
  listed other other_mem := by
    obtain rfl := List.mem_singleton.mp other_mem
    simp [returnBackNft]
  others other absent := by
    have other_ne : other ≠ id := by simpa using absent
    simp [returnBackNft, other_ne]
  soliders := rfl
  clock := rfl
  guildReserveCount := rfl

theorem takeNftForBattle_updates (settings : Settings) (gridCfgId id : ℕ) (state : UnionState) :
    Updates (Item.taken gridCfgId (state.clock + settings.heroBattleCD)) [id] state
      (state.takeNftForBattle settings gridCfgId id) where
  listed other other_mem := by
    obtain rfl := List.mem_singleton.mp other_mem
    simp [takeNftForBattle]
  others other absent := by
    have other_ne : other ≠ id := by simpa using absent
    simp [takeNftForBattle, other_ne]
  soliders := rfl
  clock := rfl
  guildReserveCount := rfl

theorem returnBackHeros_updates (heros : List Hero) (state : UnionState) :
    Updates Item.returned (heros.map (·.id)) state
      (heros.foldl (fun state hero => state.returnBackNft hero.id) state) := by
  induction heros generalizing state with
  | nil => exact .refl state
  | cons hero heros ih =>
      exact (returnBackNft_updates hero.id state).trans returned_returned (ih _)

theorem returnBackNftArmy_updates (info : FightArmy) (state : UnionState) :
    Updates Item.returned info.nfts state (state.returnBackNftArmy info) := by
  unfold returnBackNftArmy FightArmy.nfts
  rcases info.mainWarShip with _ | (id | uuid)
  · exact returnBackHeros_updates info.heros state
  · exact (returnBackNft_updates id state).trans returned_returned
      (returnBackHeros_updates info.heros _)
  · exact returnBackHeros_updates info.heros state

theorem returnBackNftArmys_updates (infos : List FightArmy) (state : UnionState) :
    Updates Item.returned (infos.flatMap (·.nfts)) state
      (infos.foldl (fun state info => state.returnBackNftArmy info) state) := by
  induction infos generalizing state with
  | nil => exact .refl state
  | cons info infos ih =>
      exact (returnBackNftArmy_updates info state).trans returned_returned (ih _)

/-- The reserve that soldiers on their way back are worth. -/
def solidersReserve (settings : Settings) (soliders : List Solider) : ℤ :=
  (soliders.map fun solider => settings.trainSpace solider.cfgId solider.level * solider.count).sum

theorem teamsReserve_congr (settings : Settings) (teams : List Team)
    (soliders_eq : after.soliders = before.soliders) :
    after.teamsReserve settings teams = before.teamsReserve settings teams := by
  simp only [teamsReserve, needReserve, soliders_eq]

theorem teamsReserve_append (settings : Settings) (teams teams' : List Team) (state : UnionState) :
    state.teamsReserve settings (teams ++ teams') =
      state.teamsReserve settings teams + state.teamsReserve settings teams' := by
  simp [teamsReserve]

structure Knows (teams : List Team) (state : UnionState) : Prop where
  heros : ∀ team ∈ teams, team.heroId ≠ 0 → (state.items team.heroId).isSome
  soliders : ∀ team ∈ teams, team.soliderCfgId ≠ 0 → (state.soliders team.soliderCfgId).isSome

theorem Knows.mono {teams' : List Team} (knows : state.Knows teams)
    (subset : ∀ team ∈ teams', team ∈ teams) : state.Knows teams' where
  heros team team_mem := knows.heros team (subset team team_mem)
  soliders team team_mem := knows.soliders team (subset team team_mem)

theorem Knows.updates {change : Item → Item} (knows : before.Knows teams)
    (updates : Updates change ids before after) : after.Knows teams where
  heros team team_mem named := by
    rw [updates.isSome]
    exact knows.heros team team_mem named
  soliders team team_mem named := by
    rw [updates.soliders]
    exact knows.soliders team team_mem named

structure Joined (settings : Settings) (gridCfgId : ℕ) (teams : List Team) (info : FightArmy)
    (before : UnionState) (result : FightArmy × UnionState) : Prop where
  mainWarShip : result.1.mainWarShip = info.mainWarShip
  heros : result.1.heros.map (·.id) =
    info.heros.map (·.id) ++ (teams.map (·.heroId)).filter (· ≠ 0)
  reserve : solidersReserve settings result.1.soliders =
    solidersReserve settings info.soliders + before.teamsReserve settings teams
  items : Updates (Item.taken gridCfgId (before.clock + settings.heroBattleCD))
    ((teams.map (·.heroId)).filter (· ≠ 0)) before result.2
  uuid : result.2.uuid = before.uuid

theorem takeSoliderForBattle_reserve (settings : Settings) (team : Team) (index : ℕ)
    (state : UnionState)
    (known : team.soliderCfgId ≠ 0 → (state.soliders team.soliderCfgId).isSome) :
    solidersReserve settings
        (state.takeSoliderForBattle team.soliderCfgId team.soliderCount index).toList =
      state.teamsReserve settings [team] := by
  by_cases no_kind : team.soliderCfgId = 0
  · simp [takeSoliderForBattle, solidersReserve, teamsReserve, no_kind]
  · obtain ⟨level, level_eq⟩ := Option.isSome_iff_exists.mp (known no_kind)
    by_cases no_count : team.soliderCount = 0
    · simp [takeSoliderForBattle, solidersReserve, teamsReserve, needReserve, no_kind, no_count]
    · simp [takeSoliderForBattle, solidersReserve, teamsReserve, needReserve, no_kind, no_count,
        level_eq]

theorem takeTeam_joined (settings : Settings) (gridCfgId : ℕ) (team : Team) (index : ℕ)
    (info : FightArmy) (state : UnionState) (knows : state.Knows [team]) :
    Joined settings gridCfgId [team] info state
      (state.takeTeam settings gridCfgId team index info) := by
  have soliders_known := knows.soliders team (by simp)
  by_cases no_hero : team.heroId = 0
  · have worth := takeSoliderForBattle_reserve settings team index state soliders_known
    refine ⟨rfl, by simp [takeTeam, no_hero], ?_, ?_, by simp [takeTeam, no_hero]⟩
    · simp only [takeTeam, no_hero, ne_eq, not_true, if_false, solidersReserve, List.map_append,
        List.sum_append] at worth ⊢
      rw [worth]
    · simpa [takeTeam, no_hero] using Updates.refl state
  · have present := knows.heros team (by simp) no_hero
    have updates := takeNftForBattle_updates settings gridCfgId team.heroId state
    have worth := takeSoliderForBattle_reserve settings team index
      (state.takeNftForBattle settings gridCfgId team.heroId) soliders_known
    rw [teamsReserve_congr settings [team] updates.soliders] at worth
    refine ⟨rfl, by simp [takeTeam, no_hero, present], ?_, ?_, by simp [takeTeam, no_hero,
      takeNftForBattle]⟩
    · simp only [takeTeam, no_hero, ne_eq, not_false_iff, if_true, solidersReserve,
        List.map_append, List.sum_append] at worth ⊢
      rw [worth]
    · simpa [takeTeam, no_hero] using updates

theorem Joined.trans {teams' : List Team} {mid result : FightArmy × UnionState}
    (first : Joined settings gridCfgId teams info before mid)
    (second : Joined settings gridCfgId teams' mid.1 mid.2 result) :
    Joined settings gridCfgId (teams ++ teams') info before result where
  mainWarShip := second.mainWarShip.trans first.mainWarShip
  heros := by
    rw [second.heros, first.heros, List.map_append, List.filter_append, List.append_assoc]
  reserve := by
    rw [second.reserve, first.reserve, teamsReserve_congr settings teams' first.items.soliders,
      teamsReserve_append, add_assoc]
  items := by
    have items := second.items
    rw [first.items.clock] at items
    rw [List.map_append, List.filter_append]
    exact first.items.trans (taken_taken _ _) items
  uuid := second.uuid.trans first.uuid

theorem takeTeams_joined (settings : Settings) (gridCfgId : ℕ) (teams : List Team) (index : ℕ)
    (info : FightArmy) (state : UnionState) (knows : state.Knows teams) :
    Joined settings gridCfgId teams info state
      (takeTeams settings gridCfgId teams index info state) := by
  induction teams generalizing index info state with
  | nil =>
      exact ⟨rfl, by simp [takeTeams], by simp [takeTeams, teamsReserve], .refl state, rfl⟩
  | cons team teams ih =>
      have joined := takeTeam_joined settings gridCfgId team index info state
        (knows.mono (by simp))
      have knows_rest := (knows.mono fun _ => List.mem_cons_of_mem team).updates joined.items
      exact joined.trans (ih (index + 1) _ _ knows_rest)

/-- An army has been taken as it was requested. -/
structure Enlisted (settings : Settings) (gridCfgId : ℕ) (army : UnionArmy)
    (before : UnionState) (result : FightArmy × UnionState) : Prop where
  fights : result.1.Fights army
  fresh : ∀ uuid, result.1.mainWarShip = some (.made uuid) →
    before.uuid ≤ uuid ∧ uuid < result.2.uuid
  reserve : solidersReserve settings result.1.soliders =
    before.teamsReserve settings army.teams
  items : Updates (Item.taken gridCfgId (before.clock + settings.heroBattleCD)) army.needItems
    before result.2
  uuid_le : before.uuid ≤ result.2.uuid

theorem takeArmy_enlisted (settings : Settings) (gridCfgId : ℕ) (army : UnionArmy)
    (state : UnionState) (knows : state.Knows army.teams)
    (warShip_known : army.warShipId ≠ 0 → (state.items army.warShipId).isSome) :
    Enlisted settings gridCfgId army state (state.takeArmy settings gridCfgId army) := by
  by_cases named : army.warShipId ≠ 0
  case pos =>
    obtain ⟨warShip, found⟩ := Option.isSome_iff_exists.mp (warShip_known named)
    have updates := takeNftForBattle_updates settings gridCfgId army.warShipId state
    have joined := takeTeams_joined settings gridCfgId army.teams 1
      ⟨some (.item army.warShipId), [], []⟩ _ (knows.updates updates)
    simp only [takeArmy, takeWarShip, if_pos named, found, Option.map_some]
    refine ⟨⟨fun _ => joined.mainWarShip, fun none_named => absurd none_named named, ?_⟩,
      ?_, ?_, ?_, ?_⟩
    · simpa [UnionArmy.heroIds] using joined.heros
    · intro uuid made
      exact absurd (joined.mainWarShip.symm.trans made) (by simp)
    · rw [joined.reserve, teamsReserve_congr settings _ updates.soliders]
      simp [solidersReserve]
    · have items := joined.items
      rw [updates.clock] at items
      rw [UnionArmy.needItems, if_pos named]
      exact updates.trans (taken_taken _ _) items
    · exact joined.uuid.ge
  case neg =>
    have unnamed : army.warShipId = 0 := not_not.mp named
    have joined := takeTeams_joined settings gridCfgId army.teams 1
      ⟨some (.made state.uuid), [], []⟩ { state with uuid := state.uuid + 1 }
      ⟨knows.heros, knows.soliders⟩
    simp only [takeArmy, takeWarShip, if_neg named]
    refine ⟨⟨fun named => absurd unnamed named, fun _ => ⟨state.uuid, joined.mainWarShip⟩, ?_⟩,
      ?_, ?_, ?_, ?_⟩
    · simpa [UnionArmy.heroIds] using joined.heros
    · intro uuid made
      have uuid_eq : state.uuid = uuid := by
        simpa using joined.mainWarShip.symm.trans made
      have after_eq := joined.uuid
      dsimp only at after_eq ⊢
      omega
    · rw [joined.reserve]
      simp [solidersReserve, teamsReserve, needReserve]
    · rw [UnionArmy.needItems, if_neg named]
      exact ⟨joined.items.listed, joined.items.others, joined.items.soliders, joined.items.clock,
        joined.items.guildReserveCount⟩
    · have after_eq := joined.uuid
      dsimp only at after_eq ⊢
      omega

theorem nfts_of_fights (fights : info.Fights army) : info.nfts = army.needItems := by
  by_cases named : army.warShipId = 0
  · obtain ⟨uuid, made⟩ := fights.made named
    simp [FightArmy.nfts, UnionArmy.needItems, made, named, fights.heros]
  · simp [FightArmy.nfts, UnionArmy.needItems, fights.warShip named, named, fights.heros]

theorem nfts_of_present {infos : List FightArmy}
    (present : List.Forall₂ FightArmy.Fights infos armys) :
    infos.flatMap (·.nfts) = armys.flatMap (·.needItems) := by
  induction present with
  | nil => rfl
  | cons fights _ ih => rw [List.flatMap_cons, List.flatMap_cons, nfts_of_fights fights, ih]

theorem heros_eq_nil_iff (fights : info.Fights army) : info.heros = [] ↔ army.heroIds = [] := by
  rw [← fights.heros, List.map_eq_nil_iff]

theorem mainWarShip_ne_none (fights : info.Fights army) : info.mainWarShip ≠ none := by
  by_cases named : army.warShipId = 0
  · obtain ⟨uuid, made⟩ := fights.made named
    simp [made]
  · simp [fights.warShip named]

/-- Everything that an army names is there. -/
structure Ready (army : UnionArmy) (state : UnionState) : Prop where
  teams : state.Knows army.teams
  warShip : army.warShipId ≠ 0 → (state.items army.warShipId).isSome

theorem Ready.updates {change : Item → Item} (ready : before.Ready army)
    (updates : Updates change ids before after) : after.Ready army where
  teams := ready.teams.updates updates
  warShip named := by
    rw [updates.isSome]
    exact ready.warShip named

theorem Passes.ready (passes : state.Passes settings armys) : ∀ army ∈ armys, state.Ready army := by
  intro army army_mem
  refine ⟨⟨fun team team_mem named => ?_, passes.solider_known army army_mem⟩, fun named => ?_⟩
  · obtain ⟨item, found, -⟩ := passes.heros army army_mem team team_mem named
    simp [found]
  · obtain ⟨item, found, -⟩ := passes.warShips army army_mem named
    simp [found]

/-- The armies taken so far stand under keys that no later army uses. -/
structure Keyed (fightArmys : List FightArmy) (armys : List UnionArmy) (state : UnionState) :
    Prop where
  items : ∀ info ∈ fightArmys, ∀ army ∈ armys, army.warShipId ≠ 0 →
    info.mainWarShip ≠ some (.item army.warShipId)
  made : ∀ info ∈ fightArmys, ∀ uuid, info.mainWarShip = some (.made uuid) → uuid < state.uuid

theorem takeArmys_cons (armys : List UnionArmy) (fightArmys : List FightArmy)
    (enlisted : Enlisted settings gridCfgId army state (state.takeArmy settings gridCfgId army))
    (with_hero : army.heroIds ≠ []) :
    takeArmys settings gridCfgId (army :: armys) fightArmys state =
      takeArmys settings gridCfgId armys
        (putArmy (state.takeArmy settings gridCfgId army).1 fightArmys)
        (state.takeArmy settings gridCfgId army).2 := by
  have heros_ne := (heros_eq_nil_iff enlisted.fights).not.mpr with_hero
  have heros_pos := List.length_pos_iff.mpr heros_ne
  simp only [takeArmys, if_neg (mainWarShip_ne_none enlisted.fights), if_neg heros_ne]
  rw [if_neg (by omega)]

theorem Keyed.next {fightArmys : List FightArmy} {result : FightArmy × UnionState}
    (keyed : state.Keyed fightArmys (army :: armys))
    (enlisted : Enlisted settings gridCfgId army state result)
    (once : ((army :: armys).flatMap (·.needItems)).Nodup) :
    putArmy result.1 fightArmys = fightArmys ++ [result.1] ∧
      result.2.Keyed (fightArmys ++ [result.1]) armys := by
  have new_key : ∀ old ∈ fightArmys, old.mainWarShip ≠ result.1.mainWarShip := by
    intro old old_mem same
    by_cases named : army.warShipId = 0
    · obtain ⟨uuid, made⟩ := enlisted.fights.made named
      have old_lt := keyed.made old old_mem uuid (same.trans made)
      have new_ge := (enlisted.fresh uuid made).1
      omega
    · exact keyed.items old old_mem army (by simp) named
        (same.trans (enlisted.fights.warShip named))
  constructor
  · rw [putArmy, List.filter_eq_self.mpr fun old old_mem => by simpa using new_key old old_mem]
  · constructor
    · intro info info_mem later later_mem named
      rcases List.mem_append.mp info_mem with old_mem | info_mem
      · exact keyed.items info old_mem later (List.mem_cons_of_mem _ later_mem) named
      · obtain rfl := List.mem_singleton.mp info_mem
        intro same
        have army_named : army.warShipId ≠ 0 := by
          intro unnamed
          obtain ⟨uuid, made⟩ := enlisted.fights.made unnamed
          simp [made] at same
        have ids_eq : army.warShipId = later.warShipId := by
          simpa [enlisted.fights.warShip army_named] using same
        rw [List.flatMap_cons, List.nodup_append] at once
        refine once.2.2 army.warShipId (by simp [UnionArmy.needItems, army_named])
          later.warShipId ?_ ids_eq
        exact List.mem_flatMap.mpr ⟨later, later_mem, by simp [UnionArmy.needItems, named]⟩
    · intro info info_mem uuid made
      rcases List.mem_append.mp info_mem with old_mem | info_mem
      · exact (keyed.made info old_mem uuid made).trans_le enlisted.uuid_le
      · obtain rfl := List.mem_singleton.mp info_mem
        exact (enlisted.fresh uuid made).2

theorem takeArmys_all (settings : Settings) (gridCfgId : ℕ) (armys : List UnionArmy)
    (fightArmys : List FightArmy) (state : UnionState)
    (ready : ∀ army ∈ armys, state.Ready army) (with_hero : ∀ army ∈ armys, army.heroIds ≠ [])
    (once : (armys.flatMap (·.needItems)).Nodup) (keyed : state.Keyed fightArmys armys) :
    ∃ infos after, takeArmys settings gridCfgId armys fightArmys state =
        (some (fightArmys ++ infos), after) ∧
      List.Forall₂ FightArmy.Fights infos armys ∧
      Updates (Item.taken gridCfgId (state.clock + settings.heroBattleCD))
        (armys.flatMap (·.needItems)) state after := by
  induction armys generalizing fightArmys state with
  | nil => exact ⟨[], state, by simp [takeArmys], .nil, .refl state⟩
  | cons army armys ih =>
      have army_ready := ready army (by simp)
      have enlisted := takeArmy_enlisted settings gridCfgId army state army_ready.teams
        army_ready.warShip
      obtain ⟨put_eq, next_keyed⟩ := keyed.next enlisted once
      obtain ⟨infos, after, run_eq, present, updates⟩ := ih (fightArmys ++
          [(state.takeArmy settings gridCfgId army).1]) _
        (fun later later_mem => (ready later (List.mem_cons_of_mem _ later_mem)).updates
          enlisted.items)
        (fun later later_mem => with_hero later (List.mem_cons_of_mem _ later_mem))
        (List.nodup_append.mp once).2.1 next_keyed
      refine ⟨_ :: infos, after, ?_, .cons enlisted.fights present, ?_⟩
      · rw [takeArmys_cons armys fightArmys enlisted (with_hero army (by simp)), put_eq, run_eq,
          List.append_assoc, List.singleton_append]
      · rw [enlisted.items.clock] at updates
        exact enlisted.items.trans (taken_taken _ _) updates

/-- The loop has stopped at an army without a hero. -/
structure Stopped (settings : Settings) (gridCfgId : ℕ) (armys : List UnionArmy)
    (before : UnionState) (result : Option (List FightArmy) × UnionState)
    (taken : List UnionArmy) (army : UnionArmy) (rest : List UnionArmy) (info : FightArmy)
    (mid : UnionState) : Prop where
  armys_eq : armys = taken ++ army :: rest
  with_hero : ∀ earlier ∈ taken, earlier.heroIds ≠ []
  no_hero : army.heroIds = []
  fights : info.Fights army
  reserve : solidersReserve settings info.soliders = before.teamsReserve settings army.teams
  items : Updates (Item.taken gridCfgId (before.clock + settings.heroBattleCD))
    (taken.flatMap (·.needItems) ++ army.needItems) before mid
  result_eq : result = (none, (mid.returnBackCampaignArmy settings info).say .armyNoHero)

theorem takeArmys_stopped (settings : Settings) (gridCfgId : ℕ) (armys : List UnionArmy)
    (fightArmys : List FightArmy) (state : UnionState)
    (ready : ∀ army ∈ armys, state.Ready army) (lacking : ∃ army ∈ armys, army.heroIds = []) :
    ∃ taken army rest info mid, Stopped settings gridCfgId armys state
      (takeArmys settings gridCfgId armys fightArmys state) taken army rest info mid := by
  induction armys generalizing fightArmys state with
  | nil => simp at lacking
  | cons army armys ih =>
      have army_ready := ready army (by simp)
      have enlisted := takeArmy_enlisted settings gridCfgId army state army_ready.teams
        army_ready.warShip
      by_cases no_hero : army.heroIds = []
      case pos =>
        refine ⟨[], army, armys, _, _, rfl, by simp, no_hero, enlisted.fights, enlisted.reserve,
          enlisted.items, ?_⟩
        simp only [takeArmys, if_neg (mainWarShip_ne_none enlisted.fights),
          if_pos ((heros_eq_nil_iff enlisted.fights).mpr no_hero)]
      case neg =>
        have later_lacking : ∃ later ∈ armys, later.heroIds = [] := by
          obtain ⟨later, later_mem, later_lacks⟩ := lacking
          rcases List.mem_cons.mp later_mem with rfl | later_mem
          · exact absurd later_lacks no_hero
          · exact ⟨later, later_mem, later_lacks⟩
        obtain ⟨taken, last, rest, info, mid, stopped⟩ := ih
          (putArmy (state.takeArmy settings gridCfgId army).1 fightArmys) _
          (fun later later_mem => (ready later (List.mem_cons_of_mem _ later_mem)).updates
            enlisted.items) later_lacking
        refine ⟨army :: taken, last, rest, info, mid, ?_, ?_, stopped.no_hero, stopped.fights,
          ?_, ?_, ?_⟩
        · rw [stopped.armys_eq, List.cons_append]
        · intro earlier earlier_mem
          rcases List.mem_cons.mp earlier_mem with rfl | earlier_mem
          · exact no_hero
          · exact stopped.with_hero earlier earlier_mem
        · rw [stopped.reserve, teamsReserve_congr settings _ enlisted.items.soliders]
        · have items := stopped.items
          rw [enlisted.items.clock] at items
          rw [List.flatMap_cons, List.append_assoc]
          exact enlisted.items.trans (taken_taken _ _) items
        · rw [takeArmys_cons armys fightArmys enlisted no_hero, stopped.result_eq]

/-- Requests that leave no half-taken army behind once they pass the checks.  Every army has a
hero, and then a return is harmless or not needed; or the first army has none, and it is not worth
anything that a return would change. -/
def Complete (settings : Settings) (armys : List UnionArmy) (state : UnionState) : Prop :=
  ((∀ army ∈ armys, army.heroIds ≠ []) ∧
    (0 ≤ state.teamsReserve settings (armys.flatMap (·.teams)) ∨
      ∀ id ∈ armys.flatMap (·.needItems), (state.items id).map (·.battleCd) = some 0)) ∨
  ∃ army rest, armys = army :: rest ∧ army.heroIds = [] ∧
    (∀ id ∈ army.needItems, (state.items id).map (·.battleCd) = some 0) ∧
    state.teamsReserve settings army.teams = 0

theorem Updates.undo {battleCd : ℤ} {mid : UnionState}
    (first : Updates (Item.taken gridCfgId battleCd) ids before mid)
    (second : Updates Item.returned ids mid after) :
    Updates Item.returned ids before after where
  listed id id_mem := by
    rw [second.listed id id_mem, first.listed id id_mem, Option.map_map]
    rfl
  others id absent := (second.others id absent).trans (first.others id absent)
  soliders := second.soliders.trans first.soliders
  clock := second.clock.trans first.clock
  guildReserveCount := second.guildReserveCount.trans first.guildReserveCount

theorem untouched_iff {mid : UnionState} (after : UnionState)
    (free : ∀ id ∈ ids, ∃ item, before.items id = some item ∧ item.refBy = 0)
    (updates : Updates Item.returned ids before mid) (items_eq : after.items = mid.items) :
    Untouched before after ↔
      (∀ id ∈ ids, (before.items id).map (·.battleCd) = some 0) ∧
        after.guildReserveCount = before.guildReserveCount := by
  constructor
  · intro untouched
    refine ⟨fun id id_mem => ?_, untouched.guildReserveCount⟩
    obtain ⟨item, found, -⟩ := free id id_mem
    have same := untouched.battleCd id
    rw [items_eq, updates.listed id id_mem, found] at same
    rw [found]
    exact same.symm
  · rintro ⟨rested, guildReserveCount⟩
    refine ⟨fun id => ?_, fun id => ?_, guildReserveCount⟩
    · rw [items_eq]
      by_cases listed : id ∈ ids
      · obtain ⟨item, found, refBy_eq⟩ := free id listed
        rw [updates.listed id listed, found]
        exact congrArg some refBy_eq.symm
      · rw [updates.others id listed]
    · rw [items_eq]
      by_cases listed : id ∈ ids
      · have rested_id := rested id listed
        obtain ⟨item, found, -⟩ := free id listed
        rw [found] at rested_id
        rw [updates.listed id listed, found]
        exact rested_id.symm
      · rw [updates.others id listed]

/-- Armies with a hero each: all are taken, or the charge fails and all are returned. -/
theorem atomic_of_heros (passes : state.Passes settings armys)
    (with_hero : ∀ army ∈ armys, army.heroIds ≠ []) :
    state.Atomic settings gridCfgId armys
        (state.takeStarmapCampaignArmy settings gridCfgId armys) ↔
      (0 ≤ state.teamsReserve settings (armys.flatMap (·.teams)) ∨
        ∀ id ∈ armys.flatMap (·.needItems), (state.items id).map (·.battleCd) = some 0) := by
  obtain ⟨infos, mid, run_eq, present, updates⟩ := takeArmys_all settings gridCfgId armys []
    state passes.ready with_hero passes.once ⟨by simp, by simp⟩
  rw [List.nil_append] at run_eq
  have nfts_eq := nfts_of_present present
  have need_eq : mid.need settings (needSoliders armys) =
      state.teamsReserve settings (armys.flatMap (·.teams)) := by
    rw [need_needSoliders, teamsReserve_congr settings _ updates.soliders]
  have trained : mid.trained (needSoliders armys) := by
    have trained := passes.trained
    unfold UnionState.trained at trained ⊢
    rwa [updates.soliders]
  have enough := passes.need_le
  rw [need_needSoliders] at enough
  rw [takeStarmapCampaignArmy, (refusal_eq_nil settings armys state).mpr passes, run_eq]
  simp only [costPersonalUnionSoldier, if_pos trained, reduceGuildReserveCount, need_eq]
  by_cases negative : state.teamsReserve settings (armys.flatMap (·.teams)) < 0
  case pos =>
    have undone : Updates Item.returned (armys.flatMap (·.needItems)) state
        (infos.foldl (fun state info => state.returnBackNftArmy info) mid) := by
      rw [← nfts_eq] at updates ⊢
      exact updates.undo (returnBackNftArmys_updates infos mid)
    have free : ∀ id ∈ armys.flatMap (·.needItems),
        ∃ item, state.items id = some item ∧ item.refBy = 0 := by
      intro id id_mem
      obtain ⟨army, army_mem, id_mem⟩ := List.mem_flatMap.mp id_mem
      exact passes.listed army_mem id_mem
    rw [if_pos negative, or_iff_right (by omega)]
    exact (untouched_iff (UnionState.say .unionSoliderCostErr _) free undone rfl).trans
      (and_iff_left undone.guildReserveCount)
  case neg =>
    rw [if_neg negative, if_neg (by rw [updates.guildReserveCount]; omega)]
    refine iff_of_true ?_ (.inl (by omega))
    exact {
      warShips := passes.warShips
      heros := by
        intro army army_mem id id_mem
        obtain ⟨id_mem, named⟩ := List.mem_filter.mp id_mem
        obtain ⟨team, team_mem, rfl⟩ := List.mem_map.mp id_mem
        exact passes.heros army army_mem team team_mem (by simpa using named)
      present := present
      once := by
        rw [nfts_eq]
        exact passes.once
      taken := by
        rw [nfts_eq]
        exact updates.listed
      others := by
        rw [nfts_eq]
        exact updates.others
      guildReserveCount := by rw [← updates.guildReserveCount] }

/-- An army without a hero: only that army is returned, and its soldiers are credited although
nothing was charged for them. -/
theorem atomic_of_lacking (gridCfgId_pos : 0 < gridCfgId) (passes : state.Passes settings armys)
    (lacking : ∃ army ∈ armys, army.heroIds = []) :
    state.Atomic settings gridCfgId armys
        (state.takeStarmapCampaignArmy settings gridCfgId armys) ↔
      ∃ army rest, armys = army :: rest ∧ army.heroIds = [] ∧
        (∀ id ∈ army.needItems, (state.items id).map (·.battleCd) = some 0) ∧
        state.teamsReserve settings army.teams = 0 := by
  obtain ⟨taken, army, rest, info, mid, stopped⟩ := takeArmys_stopped settings gridCfgId armys []
    state passes.ready lacking
  have returned := returnBackNftArmy_updates info mid
  rw [nfts_of_fights stopped.fights] at returned
  rw [takeStarmapCampaignArmy, (refusal_eq_nil settings armys state).mpr passes,
    stopped.result_eq]
  change Untouched state _ ↔ _
  cases taken with
  | nil =>
      have armys_eq : armys = army :: rest := stopped.armys_eq
      have free : ∀ id ∈ army.needItems,
          ∃ item, state.items id = some item ∧ item.refBy = 0 :=
        fun id => passes.listed (by simp [armys_eq])
      have items := stopped.items
      rw [List.flatMap_nil, List.nil_append] at items
      have reserve_eq : ((mid.returnBackCampaignArmy settings info).say
          .armyNoHero).guildReserveCount =
            state.guildReserveCount + state.teamsReserve settings army.teams := by
        rw [← stopped.reserve, ← items.guildReserveCount, ← returned.guildReserveCount]
        rfl
      rw [untouched_iff ((mid.returnBackCampaignArmy settings info).say .armyNoHero) free
        (items.undo returned) rfl, reserve_eq]
      constructor
      · rintro ⟨rested, worthless⟩
        exact ⟨army, rest, armys_eq, stopped.no_hero, rested, by omega⟩
      · rintro ⟨first, others, first_eq, -, rested, worthless⟩
        obtain ⟨rfl, rfl⟩ := List.cons.inj (armys_eq.symm.trans first_eq)
        exact ⟨rested, by omega⟩
  | cons first taken =>
      have first_hero := stopped.with_hero first (by simp)
      refine iff_of_false (fun untouched => ?_) ?_
      · -- A hero of the first army is still out, and it was in before.
        obtain ⟨hero, hero_mem⟩ := List.exists_mem_of_ne_nil _ first_hero
        have hero_listed : hero ∈ first.needItems := by
          unfold UnionArmy.needItems
          split
          · exact List.mem_cons_of_mem _ hero_mem
          · exact hero_mem
        have kept : hero ∉ army.needItems := by
          intro again
          have once := passes.once
          rw [stopped.armys_eq, List.flatMap_append, List.flatMap_cons, List.nodup_append] at once
          exact once.2.2 hero (by simp [hero_listed]) hero (by simp [again]) rfl
        obtain ⟨item, found, refBy_eq⟩ := passes.listed (by simp [stopped.armys_eq]) hero_listed
        have out : ((mid.returnBackCampaignArmy settings info).say .armyNoHero).items hero =
            some (item.taken gridCfgId (state.clock + settings.heroBattleCD)) := by
          rw [← Option.map_some, ← found,
            ← stopped.items.listed hero (by simp [hero_listed])]
          exact returned.others hero kept
        have same := untouched.refBy hero
        rw [out, found] at same
        have grid_eq : gridCfgId = item.refBy := Option.some.inj same
        omega
      · rintro ⟨other, others, armys_eq, no_hero, -⟩
        obtain ⟨rfl, -⟩ := List.cons.inj (stopped.armys_eq.symm.trans armys_eq)
        exact first_hero no_hero

theorem untouched_of_refused (refused : state.refusal settings armys ≠ []) :
    state.Atomic settings gridCfgId armys
      (state.takeStarmapCampaignArmy settings gridCfgId armys) := by
  unfold takeStarmapCampaignArmy
  split
  case h_1 => exact ⟨fun _ => rfl, fun _ => rfl, rfl⟩
  case h_2 passed => exact absurd passed refused

/-- The call is all or nothing exactly for requests that fail its checks or are complete.  Grids
are numbered from 1. -/
theorem takeStarmapCampaignArmy_atomic (settings : Settings) (gridCfgId : ℕ)
    (gridCfgId_pos : 0 < gridCfgId) (armys : List UnionArmy) (state : UnionState) :
    state.Atomic settings gridCfgId armys
        (state.takeStarmapCampaignArmy settings gridCfgId armys) ↔
      (state.Passes settings armys → state.Complete settings armys) := by
  by_cases refused : state.refusal settings armys = []
  case neg =>
    refine iff_of_true (untouched_of_refused refused) fun passes => ?_
    exact absurd ((refusal_eq_nil settings armys state).mpr passes) refused
  case pos =>
    have passes := (refusal_eq_nil settings armys state).mp refused
    rw [forall_prop_of_true passes]
    by_cases with_hero : ∀ army ∈ armys, army.heroIds ≠ []
    · rw [atomic_of_heros passes with_hero]
      constructor
      · exact fun harmless => .inl ⟨with_hero, harmless⟩
      · rintro (⟨-, harmless⟩ | ⟨army, rest, armys_eq, no_hero, -⟩)
        · exact harmless
        · exact absurd no_hero (with_hero army (by simp [armys_eq]))
    · rw [Complete, or_iff_right fun complete => with_hero complete.1]
      push Not at with_hero
      exact atomic_of_lacking gridCfgId_pos passes with_hero

def sampleSettings : Settings where
  trainSpace _ _ := 2
  heroBattleCD := 60
  unionBattleMaxSpace := 40

/-- A union with one hero and one kind of soldier. -/
def sampleState : UnionState where
  items id := if id = 7 then some ⟨.hero, .union, 0, 0, 10⟩ else none
  soliders cfgId := if cfgId = 1 then some 3 else none
  soldierSpace := 20
  soliderSpaceAdd := 0
  guildReserveCount := 100
  clock := 1000
  uuid := 1
  said := []

def sampleArmy : UnionArmy := ⟨0, [⟨7, 1, 20⟩]⟩

def soldierArmy : UnionArmy := ⟨0, [⟨0, 1, 20⟩]⟩

theorem takeStarmapCampaignArmy_atomic_sample :
    0 < 3 ∧ sampleState.Atomic sampleSettings 3 [sampleArmy]
      (sampleState.takeStarmapCampaignArmy sampleSettings 3 [sampleArmy]) :=
  ⟨by decide, (takeStarmapCampaignArmy_atomic sampleSettings 3 (by decide) [sampleArmy]
    sampleState).mpr fun _ => .inl ⟨by decide, .inl (by decide)⟩⟩

/-- The hero of the first army stays taken, and the reserve grows. -/
theorem not_atomic_soldierArmy :
    ¬ sampleState.Atomic sampleSettings 3 [sampleArmy, soldierArmy]
      (sampleState.takeStarmapCampaignArmy sampleSettings 3 [sampleArmy, soldierArmy]) :=
  fun untouched => absurd (untouched.refBy 7) (by decide)

end UnionState
end BasWar.Unions
