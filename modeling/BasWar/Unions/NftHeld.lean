import BasWar.Unions.DonorBags

/-!
# NFTs that are kept for a union

The player keeps an NFT for a union as long as it stands in its bag with the mark of the union, and
in no army and no withdraw order.  Level-ups, sales and edits of armys leave such NFTs alone.
-/

namespace BasWar.Unions.Donations

def State.isDonated (id : ℕ) (state : State) : Bool :=
  (state.entities id).any (·.ref = .union)

/-- The player has no use for the NFT; only a building may be leveled up. -/
structure State.Spare (state : State) (id : ℕ) (nft : Nft) : Prop where
  army : id ∉ state.armyHeros
  ship : state.useId ≠ some id
  order : id ∉ state.orders.flatten
  upgrade : nft.isUpgrade state.clock → nft.bag = .buildBag

/-- The player has the NFT, for itself or for a union. -/
def State.Free (state : State) (id : ℕ) : Prop :=
  ∃ nft, state.entities id = some nft ∧ state.Spare id nft

/-- The player keeps the NFT for a union. -/
def State.Held (state : State) (id : ℕ) : Prop :=
  ∃ nft, state.entities id = some nft ∧ nft.ref = .union ∧ state.Spare id nft

instance (state : State) (id : ℕ) (nft : Nft) : Decidable (state.Spare id nft) :=
  decidable_of_iff (id ∉ state.armyHeros ∧ state.useId ≠ some id ∧ id ∉ state.orders.flatten ∧
      (nft.isUpgrade state.clock → nft.bag = .buildBag))
    ⟨fun ⟨army, ship, order, upgrade⟩ => ⟨army, ship, order, upgrade⟩,
      fun ⟨army, ship, order, upgrade⟩ => ⟨army, ship, order, upgrade⟩⟩

instance (state : State) (id : ℕ) : Decidable (state.Free id) :=
  match found : state.entities id with
  | none => isFalse fun ⟨_, same, _⟩ => by simp [found] at same
  | some nft =>
      decidable_of_iff (state.Spare id nft)
        ⟨fun spare => ⟨nft, found, spare⟩,
          fun ⟨_, same, spare⟩ => by rwa [Option.some.inj (found.symm.trans same)]⟩

/-- Held NFTs stay held, no NFT gets the mark of a union, and the unions are not touched. -/
structure Mild (before after : State) : Prop where
  held : ∀ id, before.Held id → after.Held id
  marks : ∀ id, after.isDonated id = true → before.isDonated id = true
  items : after.items = before.items
  members : after.members = before.members
  locked : after.locked = before.locked

variable {id : ℕ}

theorem State.Held.isDonated {state : State} (held : state.Held id) :
    state.isDonated id = true := by
  obtain ⟨nft, found, mark, -⟩ := held
  simp [State.isDonated, found, mark]

theorem not_held {state : State} (plain : state.isDonated id = false) :
    ¬ state.Held id := fun held => by
  simp [held.isDonated] at plain

theorem State.Held.congr {before after : State} (held : before.Held id)
    (entities : after.entities = before.entities) (useId : after.useId = before.useId)
    (armys : after.armys = before.armys) (orders : after.orders = before.orders)
    (clock : after.clock = before.clock) : after.Held id := by
  obtain ⟨nft, found, mark, spare⟩ := held
  refine ⟨nft, by rw [entities, found], mark, ⟨?_, ?_, ?_, ?_⟩⟩
  · simpa only [State.armyHeros, armys] using spare.army
  · rw [useId]
    exact spare.ship
  · rw [orders]
    exact spare.order
  · rw [clock]
    exact spare.upgrade

namespace Mild

theorem refl (state : State) : Mild state state :=
  ⟨fun _ => id, fun _ => id, rfl, rfl, rfl⟩

theorem trans {first second third : State} (left : Mild first second)
    (right : Mild second third) : Mild first third where
  held id held := right.held id (left.held id held)
  marks id marked := left.marks id (right.marks id marked)
  items := right.items.trans left.items
  members := right.members.trans left.members
  locked := right.locked.trans left.locked

theorem not_marked {before after : State} (mild : Mild before after) {id : ℕ}
    (plain : before.isDonated id = false) : after.isDonated id = false := by
  cases marked : after.isDonated id with
  | false => rfl
  | true => simp [mild.marks id marked] at plain

end Mild

section Alone

variable {state : State}

variable {change : Nft → Nft} {bag : EntityBag} {id armyId : ℕ} {nft : Nft} {teams : List Team}
  {team : Team}

theorem mild_modify {target : ℕ}
    (held : ∀ nft, state.entities target = some nft → nft.ref = .union →
      state.Spare target nft → (change nft).ref = .union ∧ state.Spare target (change nft))
    (marks : ∀ nft, state.entities target = some nft → (change nft).ref = .union →
      nft.ref = .union) : Mild state (state.modify target change) where
  held id := by
    rintro ⟨nft, found, mark, spare⟩
    by_cases same : id = target
    · subst same
      obtain ⟨mark, spare⟩ := held nft found mark spare
      exact ⟨change nft, by simp [State.modify, found], mark,
        ⟨spare.army, spare.ship, spare.order, spare.upgrade⟩⟩
    · exact ⟨nft, by simp [State.modify, same, found], mark,
        ⟨spare.army, spare.ship, spare.order, spare.upgrade⟩⟩
  marks id marked := by
    by_cases same : id = target
    · subst same
      cases found : state.entities id with
      | none => simp [State.isDonated, State.modify, found] at marked
      | some nft =>
          have mark : (change nft).ref = .union := by
            simpa [State.isDonated, State.modify, found] using marked
          simp [State.isDonated, found, marks nft found mark]
    · simpa [State.isDonated, State.modify, same] using marked
  items := rfl
  members := rfl
  locked := rfl

theorem mild_modifyIn {target : ℕ} (mild : Mild state (state.modify target change)) :
    Mild state (state.modifyIn bag target change) := by
  unfold State.modifyIn
  split
  · exact mild
  · exact .refl state

theorem entities_of_getEntity (found : state.getEntity bag id = some nft) :
    state.entities id = some nft ∧ nft.bag = bag := by
  simpa [State.getEntity, Option.filter_eq_some_iff] using found

theorem plain_of_getEntity (found : state.getEntity bag id = some nft) (free : nft.ref ≠ .union) :
    state.isDonated id = false := by
  simp [State.isDonated, (entities_of_getEntity found).1, free]

theorem mild_raise (found : state.getEntity bag id = some nft)
    (open_for : nft.ref ≠ .union ∨ bag = .buildBag) (ref : ∀ nft, (change nft).ref = nft.ref)
    (bag_eq : ∀ nft, (change nft).bag = nft.bag) : Mild state (state.modify id change) := by
  obtain ⟨found, in_bag⟩ := entities_of_getEntity found
  refine mild_modify (fun other same mark spare => ?_) fun other _ mark => by rwa [ref] at mark
  obtain rfl := Option.some.inj (found.symm.trans same)
  have build : nft.bag = .buildBag := in_bag.trans (open_for.resolve_left (not_not.mpr mark))
  exact ⟨by rw [ref, mark], ⟨spare.army, spare.ship, spare.order, fun _ => by rw [bag_eq, build]⟩⟩

theorem mild_startLevelUp {allowed : Ref → Bool} (id : ℕ) (bill : Bill)
    (closed : allowed .union = false) : Mild state (state.startLevelUp bag allowed id bill) := by
  unfold State.startLevelUp
  split
  · exact .refl state
  · rename_i nft found
    split
    · rename_i passes
      have free : nft.ref ≠ .union := fun mark => by simp [mark, closed] at passes
      exact mild_raise found (.inl free) (fun _ => rfl) fun _ => rfl
    · exact .refl state

theorem mild_startSkillUp {allowed : Ref → Bool} (id skillUp : ℕ) (bill : Bill)
    (closed : allowed .union = false) :
    Mild state (state.startSkillUp bag allowed id skillUp bill) := by
  unfold State.startSkillUp
  split
  · exact .refl state
  · rename_i nft found
    split
    · rename_i passes
      have free : nft.ref ≠ .union := fun mark => by simp [mark, closed] at passes
      exact mild_raise found (.inl free) (fun _ => rfl) fun _ => rfl
    · exact .refl state

theorem mild_finishBuild (minObj : Option ℕ) : Mild state (state.finishBuild minObj) := by
  unfold State.finishBuild
  split
  · exact .refl state
  · unfold State.modifyIn
    split
    · rename_i id there
      obtain ⟨build, found⟩ := Option.isSome_iff_exists.mp there
      obtain ⟨found, in_bag⟩ := entities_of_getEntity found
      refine mild_modify (fun other same mark spare => ?_) fun other _ mark => ?_
      · obtain rfl := Option.some.inj (found.symm.trans same)
        exact ⟨Nft.checkLevelUp_ref.mpr mark, ⟨spare.army, spare.ship, spare.order,
          fun _ => by rw [Nft.checkLevelUp_bag, in_bag]⟩⟩
      · simpa only [Nft.checkLevelUp_ref] using mark
    · exact .refl state

theorem getEntity_finishBuild {build : Nft} (minObj : Option ℕ)
    (found : state.getEntity .buildBag id = some build) :
    ∃ after, (state.finishBuild minObj).getEntity .buildBag id = some after := by
  obtain ⟨found, in_bag⟩ := entities_of_getEntity found
  unfold State.finishBuild
  split
  · exact ⟨build, by simp [State.getEntity, found, in_bag]⟩
  · rename_i target
    unfold State.modifyIn
    split
    · by_cases same : id = target
      · subst same
        simp [State.getEntity, State.modify, found, Option.filter, in_bag]
      · exact ⟨build, by simp [State.getEntity, State.modify, same, found, in_bag]⟩
    · exact ⟨build, by simp [State.getEntity, found, in_bag]⟩

theorem mild_levelUpBuild (id : ℕ) (bill : Bill) (minObj : Option ℕ) :
    Mild state (state.levelUpBuild id bill minObj) := by
  unfold State.levelUpBuild
  split
  · exact .refl state
  · rename_i build found
    split
    · split
      · obtain ⟨after, still⟩ := getEntity_finishBuild minObj found
        exact (mild_finishBuild minObj).trans
          (mild_raise still (.inr rfl) (fun _ => rfl) fun _ => rfl)
      · exact mild_raise found (.inr rfl) (fun _ => rfl) fun _ => rfl
    · exact .refl state

theorem mild_onSecond : Mild state state.onSecond where
  held id := by
    rintro ⟨nft, found, mark, spare⟩
    have idle : decide (id ∈ state.armyHeros) = false := decide_eq_false spare.army
    refine ⟨nft.onSecond state.clock false, by simp [State.onSecond, found, idle],
      Nft.onSecond_keeps mark, ⟨spare.army, spare.ship, spare.order, fun raising => ?_⟩⟩
    rw [Nft.onSecond_bag]
    exact spare.upgrade (Nft.isUpgrade_onSecond raising)
  marks id marked := by
    cases found : state.entities id with
    | none => simp [State.isDonated, State.onSecond, found] at marked
    | some nft =>
        have mark : (nft.onSecond state.clock (id ∈ state.armyHeros)).ref = .union := by
          simpa [State.isDonated, State.onSecond, found] using marked
        simp [State.isDonated, found, Nft.onSecond_ref mark]
  items := rfl
  members := rfl
  locked := rfl

theorem mild_elapse (milliseconds : ℕ) :
    Mild state { state with clock := state.clock + milliseconds } where
  held id := by
    rintro ⟨nft, found, mark, spare⟩
    refine ⟨nft, found, mark, ⟨spare.army, spare.ship, spare.order, fun raising => ?_⟩⟩
    refine spare.upgrade ?_
    simp only [Nft.isUpgrade, Nft.isLevelUp, Nft.isSkillUp, Bool.or_eq_true, Bool.and_eq_true,
      decide_eq_true_eq] at raising ⊢
    exact raising.imp (fun later => by omega) (And.imp_right fun later => by omega)
  marks _ marked := marked
  items := rfl
  members := rfl
  locked := rfl

theorem mild_delete {ids : List ℕ} (plain : ∀ id ∈ ids, state.isDonated id = false) :
    Mild state (state.delete ids) where
  held id held := by
    have kept : id ∉ ids := fun mem => not_held (plain id mem) held
    obtain ⟨nft, found, mark, spare⟩ := held
    exact ⟨nft, by simp [State.delete, kept, found], mark,
      ⟨spare.army, spare.ship, spare.order, spare.upgrade⟩⟩
  marks id marked := by
    by_cases mem : id ∈ ids
    · simp [State.isDonated, State.delete, mem] at marked
    · simpa [State.isDonated, State.delete, mem] using marked
  items := rfl
  members := rfl
  locked := rfl

theorem mild_sell (bag : EntityBag) (sellable : Nft → Bool) (ids : List ℕ) :
    Mild state (state.sell bag sellable ids) := by
  unfold State.sell
  split
  · rename_i passes
    refine mild_delete fun id mem => ?_
    have passed := List.all_eq_true.mp passes id mem
    cases found : state.getEntity bag id with
    | none => simp [found] at passed
    | some nft =>
        have free : nft.ref = .none := by
          simp only [found, Option.any_some, Bool.and_eq_true, decide_eq_true_eq] at passed
          exact passed.2
        exact plain_of_getEntity found (by simp [free])
  · exact .refl state

theorem mild_setUseWarShip (id : ℕ) : Mild state (state.setUseWarShip id) := by
  unfold State.setUseWarShip
  split
  · exact .refl state
  · rename_i ship found
    split
    · exact .refl state
    · rename_i free
      refine ⟨fun other held => ?_, fun _ marked => marked, rfl, rfl, rfl⟩
      have differs : id ≠ other := by
        rintro rfl
        exact not_held (plain_of_getEntity found free) held
      obtain ⟨nft, there, mark, spare⟩ := held
      exact ⟨nft, there, mark, ⟨spare.army, by simpa using differs, spare.order, spare.upgrade⟩⟩

theorem mem_armyHeros :
    id ∈ state.armyHeros ↔
      ∃ army ∈ state.armys.entries, ∃ team ∈ army.2, team.heroId = id ∧ id ≠ 0 := by
  simp only [State.armyHeros, List.mem_filter, List.mem_map, List.mem_flatMap, decide_eq_true_eq]
  constructor
  · rintro ⟨⟨team, ⟨army, army_mem, team_mem⟩, rfl⟩, real⟩
    exact ⟨army, army_mem, team, team_mem, rfl, real⟩
  · rintro ⟨army, army_mem, team, team_mem, rfl, real⟩
    exact ⟨⟨team, ⟨army, army_mem, team_mem⟩, rfl⟩, real⟩

theorem mem_armyHeros_of_lookup (found : state.armys.lookup armyId = some teams)
    (mem : team ∈ teams) (real : team.heroId ≠ 0) : team.heroId ∈ state.armyHeros :=
  mem_armyHeros.mpr ⟨⟨armyId, teams⟩, AList.mem_lookup_iff.mp found, team, mem, rfl, real⟩

theorem mild_setArmys {armys : AList fun _ : ℕ => List Team}
    (plain : ∀ army ∈ armys.entries, ∀ team ∈ army.2, team.heroId ≠ 0 →
      team.heroId ∈ state.armyHeros ∨ state.isDonated team.heroId = false) :
    Mild state { state with armys := armys } where
  held id held := by
    have outside : id ∉ ({ state with armys := armys } : State).armyHeros := fun mem => by
      obtain ⟨army, army_mem, team, team_mem, rfl, real⟩ := mem_armyHeros.mp mem
      rcases plain army army_mem team team_mem real with inside | free
      · obtain ⟨_, _, _, spare⟩ := held
        exact spare.army inside
      · exact not_held free held
    obtain ⟨nft, found, mark, spare⟩ := held
    exact ⟨nft, found, mark, ⟨outside, spare.ship, spare.order, spare.upgrade⟩⟩
  marks _ marked := marked
  items := rfl
  members := rfl
  locked := rfl

theorem mem_entries_insert {armys : AList fun _ : ℕ => List Team}
    {army : Sigma fun _ : ℕ => List Team} (mem : army ∈ (armys.insert armyId teams).entries) :
    army = ⟨armyId, teams⟩ ∨ army ∈ armys.entries := by
  rw [AList.entries_insert, List.mem_cons] at mem
  exact mem.imp_right fun old => (List.kerase_sublist _ _).subset old

theorem mild_insertArmy (armyId : ℕ) (teams : List Team)
    (plain : ∀ team ∈ teams, team.heroId ≠ 0 →
      team.heroId ∈ state.armyHeros ∨ state.isDonated team.heroId = false) :
    Mild state { state with armys := state.armys.insert armyId teams } := by
  refine mild_setArmys fun army mem team team_mem real => ?_
  rcases mem_entries_insert mem with rfl | old
  · exact plain team team_mem real
  · exact .inl (mem_armyHeros.mpr ⟨army, old, team, team_mem, rfl, real⟩)

@[simp]
theorem armys_setHeroRef (heroId : ℕ) (ref : Ref) : (state.setHeroRef heroId ref).armys =
    state.armys := by
  unfold State.setHeroRef State.modifyIn
  split
  · rfl
  · split <;> rfl

@[simp]
theorem armyHeros_setHeroRef (heroId : ℕ) (ref : Ref) :
    (state.setHeroRef heroId ref).armyHeros = state.armyHeros := by
  simp [State.armyHeros]

theorem mild_setHeroRef (heroId : ℕ) (ref : Ref) (differs : ref ≠ .union)
    (idle : heroId ≠ 0 → heroId ∈ state.armyHeros ∨ state.isDonated heroId = false) :
    Mild state (state.setHeroRef heroId ref) := by
  unfold State.setHeroRef
  split
  · exact .refl state
  · rename_i real
    refine mild_modifyIn (mild_modify (fun nft found mark spare => ?_) fun _ _ mark => ?_)
    · rcases idle real with inside | free
      · exact absurd inside spare.army
      · exact absurd ⟨nft, found, mark, spare⟩ (not_held free)
    · exact absurd mark differs

theorem mild_freeHeros (inside : ∀ team ∈ teams, team.heroId ≠ 0 → team.heroId ∈ state.armyHeros) :
    Mild state (state.freeHeros teams) := by
  induction teams generalizing state with
  | nil => exact .refl state
  | cons team teams ih =>
      have first : Mild state (state.setHeroRef team.heroId .none) :=
        mild_setHeroRef _ _ (by decide) fun real => .inl (inside team List.mem_cons_self real)
      refine first.trans (ih fun other mem real => ?_)
      rw [armyHeros_setHeroRef]
      exact inside other (List.mem_cons_of_mem _ mem) real

theorem armys_freeHeros (teams : List Team) : (state.freeHeros teams).armys = state.armys := by
  induction teams generalizing state with
  | nil => rfl
  | cons team teams ih =>
      exact ih.trans (armys_setHeroRef team.heroId .none)

theorem plain_of_ready {heroId : ℕ} (ready : state.heroReady heroId = true) :
    state.isDonated heroId = false := by
  cases found : state.getEntity .heroBag heroId with
  | none => simp [State.heroReady, found] at ready
  | some hero =>
      have free : hero.ref = .none ∨ hero.ref = .army := by
        simpa [State.heroReady, found] using ready
      exact plain_of_getEntity found (by rcases free with free | free <;> simp [free])

theorem plain_of_verified {fits : Bool} (verified : state.verifyArmyTeam fits team = true)
    (real : team.heroId ≠ 0) : state.isDonated team.heroId = false := by
  simp only [State.verifyArmyTeam, real, if_false, Bool.and_eq_true] at verified
  exact plain_of_ready verified.1

theorem plain_of_checkTeams {fits : Bool} {before : Option Team} {inArmy : List ℕ}
    (passes : state.checkTeams fits before inArmy teams = true) :
    ∀ team ∈ teams, team.heroId ≠ 0 → state.isDonated team.heroId = false := by
  induction teams generalizing before inArmy with
  | nil => nofun
  | cons team teams ih =>
      simp only [State.checkTeams, Bool.and_eq_true] at passes
      obtain ⟨⟨⟨_, verified⟩, _⟩, rest⟩ := passes
      intro other mem real
      rcases List.mem_cons.mp mem with rfl | mem
      · exact plain_of_verified verified real
      · exact ih rest other mem real

theorem mild_addArmys (fits : Bool)
    (plain : ∀ team ∈ teams.drop 5, state.isDonated team.heroId = false) :
    Mild state (state.addArmys armyId teams fits) := by
  unfold State.addArmys
  split
  · rename_i passes
    refine mild_insertArmy armyId teams fun team mem real => .inr ?_
    rw [← List.take_append_drop 5 teams] at mem
    rcases List.mem_append.mp mem with first | later
    · exact plain_of_checkTeams passes.2 team first real
    · exact plain team later
  · exact .refl state

theorem mem_setTeam {index : ℕ} {other : Team} (mem : other ∈ setTeam index team teams) :
    other = team ∨ other ∈ teams := by
  unfold setTeam at mem
  split at mem
  · exact (List.mem_or_eq_of_mem_set mem).symm
  · simpa [or_comm] using mem

theorem mem_of_getTeam {index : ℕ} (found : getTeam index teams = some team) : team ∈ teams := by
  unfold getTeam at found
  split at found
  · cases found
  · exact List.mem_of_getElem? found

theorem mild_updateArmy (armyId index : ℕ) (team : Team) (fits : Bool) :
    Mild state (state.updateArmy armyId index team fits) := by
  unfold State.updateArmy
  split
  · exact .refl state
  · rename_i teams found
    dsimp only
    split
    · rename_i passes
      have old_inside : ((getTeam index teams).map (·.heroId)).getD 0 ≠ 0 →
          ((getTeam index teams).map (·.heroId)).getD 0 ∈ state.armyHeros := by
        cases old : getTeam index teams with
        | none => simp
        | some old_team => exact mem_armyHeros_of_lookup found (mem_of_getTeam old)
      have freed : Mild state
          (state.setHeroRef (((getTeam index teams).map (·.heroId)).getD 0) .none) :=
        mild_setHeroRef _ _ (by decide) fun real => .inl (old_inside real)
      have free : ∀ {next}, Mild state next → team.heroId ≠ 0 →
          next.isDonated team.heroId = false :=
        fun mild real => mild.not_marked (plain_of_verified passes.2 real)
      have placed := freed.trans
        (mild_setHeroRef team.heroId .army (by decide) fun real => .inr (free freed real))
      have listed := placed.trans
        (mild_insertArmy armyId (putInOrder (setTeam index team teams)) fun other mem real => by
          rw [armyHeros_setHeroRef, armyHeros_setHeroRef]
          rcases mem_setTeam (List.mem_of_mem_filter mem) with rfl | old
          · exact .inr (free placed real)
          · exact .inl (mem_armyHeros_of_lookup found old real))
      simpa only [armys_setHeroRef] using listed
    · exact .refl state

theorem mild_deleteArmys (armyId : ℕ) (fits : Bool) :
    Mild state (state.deleteArmys armyId fits) := by
  unfold State.deleteArmys
  split
  · exact .refl state
  · rename_i teams found
    have freed : Mild state (state.freeHeros teams) :=
      mild_freeHeros fun team mem real => mem_armyHeros_of_lookup found mem real
    dsimp only
    split
    · refine freed.trans (mild_setArmys fun army mem team team_mem real => .inl ?_)
      have old : army ∈ state.armys.entries := (List.kerase_sublist _ _).subset mem
      exact mem_armyHeros.mpr ⟨army, by rwa [armys_freeHeros], team, team_mem, rfl, real⟩
    · exact freed

theorem mild_cleanAllArmy : Mild state state.cleanAllArmy := by
  refine (mild_freeHeros fun team mem real => ?_).trans (mild_setArmys nofun)
  obtain ⟨army, army_mem, team_mem⟩ := List.mem_flatMap.mp mem
  exact mem_armyHeros.mpr ⟨army, army_mem, team, team_mem, rfl, real⟩

theorem mild_editedArmy (settings : Settings) (armyId index : ℕ) (fits : Bool)
    (plain : state.isDonated team.heroId = false) :
    Mild state (state.editedArmy settings armyId index team fits) := by
  have edited : ∀ {next : State} {teams : List Team}, Mild state next →
      next.armys = state.armys → state.armys.lookup armyId = some teams →
        Mild next { next with armys := next.armys.insert armyId (setTeam index team teams) } := by
    intro next teams mild same found
    refine mild_insertArmy armyId _ fun other mem real => ?_
    rcases mem_setTeam mem with rfl | old
    · exact .inr (mild.not_marked plain)
    · exact .inl (mem_armyHeros_of_lookup (by rwa [same]) old real)
  unfold State.editedArmy
  split
  · rename_i teams _ found
    dsimp only
    split
    · split
      · exact edited (.refl state) rfl found
      · exact .refl state
    · split
      · exact .refl state
      · have armed : Mild state (state.setHeroRef team.heroId .army) :=
          mild_setHeroRef _ _ (by decide) fun _ => .inr plain
        split
        · exact armed
        · rename_i old old_found
          have freed := armed.trans (mild_setHeroRef old.heroId .none (by decide) fun real =>
            .inl (by
              rw [armyHeros_setHeroRef]
              exact mem_armyHeros_of_lookup found (mem_of_getTeam old_found) real))
          split
          · exact freed.trans (edited freed (by simp) found)
          · exact freed
  · exact .refl state

theorem mild_order {checked : List ℕ} (plain : ∀ id ∈ checked, state.isDonated id = false) :
    Mild state { state with orders := checked :: state.orders } where
  held id held := by
    have away : id ∉ checked := fun mem => not_held (plain id mem) held
    obtain ⟨nft, found, mark, spare⟩ := held
    exact ⟨nft, found, mark, ⟨spare.army, spare.ship, by simp [away, spare.order],
      spare.upgrade⟩⟩
  marks _ marked := marked
  items := rfl
  members := rfl
  locked := rfl

end Alone

end BasWar.Unions.Donations
