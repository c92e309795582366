import BasWar.Starmap.GridCapsRun

/-!
# Every watched run keeps the indexes and the limits

The invariant holds after the start and is kept by each request and by each answer.  Two owner
changes of one grid that wait for its old owner, and a gift to a union that has all its grids, show
what happens otherwise.
-/

namespace BasWar.Starmap.Owners

open Cooperative

section Starts

variable {settings : MapSettings} {limits : Option Limits} {handler : Handler}
  {others : List Task} {map mid : StarMap}

variable {attack : Attack}

section

variable (runs : Runs settings limits handler others map)
include runs

theorem joinCampaign_runs (fair : Fair settings limits attack) (campaign : Campaign) :
    Runs settings limits handler others (map.joinCampaign attack campaign) := by
  unfold StarMap.joinCampaign
  split
  · exact runs
  · refine runs.campaigns (fair_modifyCampaign runs.kept campaign.campaignId
      fun old old_mem other mem => ?_)
    rcases List.mem_append.mp mem with before | new
    · exact runs.kept.fair old old_mem other before
    · obtain rfl := List.mem_singleton.mp new
      exact fair

theorem createCampaign_runs (gridCfgId : ℕ) :
    Runs settings limits handler others (map.createCampaign settings gridCfgId) := by
  have battles : Runs settings limits handler others
      (map.modifyGrid gridCfgId ({ · with status := .battle })) :=
    runs.modifyGrid gridCfgId fun _ => rfl
  have joined : ∀ campaign ∈ (map.createCampaign settings gridCfgId).campaigns,
      ∀ attack ∈ campaign.battleQueue, Fair settings limits attack := by
    intro campaign mem attack queued
    rcases List.mem_append.mp mem with old | new
    · exact runs.kept.fair campaign old attack queued
    · obtain rfl := List.mem_singleton.mp new
      exact nomatch queued
  have same : SameOwners (map.modifyGrid gridCfgId ({ · with status := .battle }))
      (map.createCampaign settings gridCfgId) := ⟨fun _ => rfl, rfl, rfl⟩
  exact battles.next ⟨battles.kept.indexed.same same,
    battles.kept.capped.same rfl rfl same.holdsPrivate, joined⟩ rfl fun _ gone => gone

theorem fight_runs (fair : Fair settings limits attack) :
    (indexPool settings limits).Keeps others (map.fight settings handler attack) := by
  have begun : Runs settings limits handler others
      (if (map.getGridOnGoingCampaign handler.cfgId).isNone then
        map.createCampaign settings handler.cfgId else map) := by
    split
    · exact createCampaign_runs runs handler.cfgId
    · exact runs
  unfold StarMap.fight
  dsimp only
  split
  · exact (joinCampaign_runs begun fair _).done
  · exact begun.done

theorem checkStart_runs (fair : Fair settings limits attack) :
    (indexPool settings limits).Keeps others (map.checkStart settings handler attack) := by
  unfold StarMap.checkStart
  cases map.grids handler.cfgId with
  | none => exact runs.done
  | some grid =>
      dsimp only
      split
      · exact runs.done
      · split
        · exact runs.done
        · split
          · exact runs.wait rfl nofun (by simpa [Task.attack] using fair)
          · exact fight_runs runs fair

theorem registerGrid_runs (lock : handler.runner = .lock) (gone : map.grids handler.cfgId = none) :
    Runs settings limits handler others (map.registerGrid settings handler.cfgId) := by
  have grids_eq : ∀ id, (map.registerGrid settings handler.cfgId).grids id =
      if id = handler.cfgId then some (Grid.init (settings.row handler.cfgId) map.clock)
      else map.grids id := fun _ => rfl
  have held : ∀ id, (map.registerGrid settings handler.cfgId).holdsPrivate id =
      map.holdsPrivate id := by
    intro id
    by_cases here : id = handler.cfgId
    · subst here
      rw [StarMap.holdsPrivate, grids_eq, if_pos rfl, StarMap.holdsPrivate, gone]
      rfl
    · simp [StarMap.holdsPrivate, grids_eq, here]
  refine ⟨⟨⟨⟨fun id pid named => ?_, fun id unionId named => ?_⟩, fun id grid found => ?_⟩,
    runs.kept.capped.same rfl rfl held, runs.kept.fair⟩, fun other mem => ?_, runs.alone,
    runs.held⟩
  · rw [grids_eq]
    refine (runs.kept.indexed.index.players id pid named).trans ?_
    by_cases here : id = handler.cfgId
    · subst here
      simp [gone, Grid.init, initOwner, Ne.symm named]
    · simp [here]
  · rw [grids_eq]
    refine (runs.kept.indexed.index.unions id unionId named).trans ?_
    by_cases here : id = handler.cfgId
    · subst here
      simp [gone, Grid.init, initOwner, Ne.symm named]
    · simp [here]
  · rw [grids_eq] at found
    split at found
    · obtain rfl := Option.some.inj found
      exact fun _ => .inl rfl
    · exact runs.kept.indexed.whole id grid found
  · refine (runs.knows other mem).mono (fun _ => id) fun other_lock missing => ?_
    rw [grids_eq]
    simp [(runs.alone lock other mem other_lock).symm, missing]

end

end Starts

section Requests

variable {settings : MapSettings} {limits : Option Limits} {others : List Task}
  {map mid : StarMap}

theorem take_runs {cfgId : ℕ} (holds : (indexPool settings limits).Holds ⟨map, others⟩)
    (unlocked : cfgId ∉ map.locked) :
    Runs settings limits ⟨cfgId, .lock⟩ others { map with locked := insert cfgId map.locked } where
  kept := holds.shared.same ⟨fun _ => rfl, rfl, rfl⟩ rfl
  knows other mem := (holds.own other mem).mono
    (fun _ held => Finset.mem_insert_of_mem held) fun _ => id
  alone _ other mem lock same := by
    have held : other.handler.cfgId ∈ map.locked := (holds.own other mem).held lock
    have here : other.handler.cfgId = cfgId := same.symm
    exact unlocked (here ▸ held)
  held _ := Finset.mem_insert_self _ _

theorem free_runs (cfgId : ℕ) (holds : (indexPool settings limits).Holds ⟨map, others⟩) :
    Runs settings limits ⟨cfgId, .free⟩ others map :=
  ⟨holds.shared, holds.own, nofun, nofun⟩

section

variable (holds : (indexPool settings limits).Holds ⟨map, others⟩)
include holds

theorem startBattle_runs (cfgId : ℕ) {attack : Attack} (fair : Fair settings limits attack) :
    (indexPool settings limits).Keeps others (map.startBattle settings cfgId attack) := by
  unfold StarMap.startBattle
  split
  · exact .ended holds
  · rename_i goes_on
    have runs := take_runs holds (not_or.mp goes_on).1
    cases gone : map.grids cfgId with
    | none => exact runs.wait rfl (fun _ => ⟨rfl, gone⟩) (by simpa [Task.attack] using fair)
    | some grid => exact checkStart_runs runs fair

theorem checkBattleStart_runs (campaignId : ℕ) (remainBuilds : List ℕ)
    (quick : Quick (map.checkBattleStart settings campaignId remainBuilds)) :
    (indexPool settings limits).Keeps others
      (map.checkBattleStart settings campaignId remainBuilds) := by
  revert quick
  unfold StarMap.checkBattleStart
  cases found : map.getCampaign campaignId with
  | none => exact fun _ => .ended holds
  | some campaign =>
      have campaign_mem : campaign ∈ map.campaigns := List.mem_of_find?_eq_some found
      dsimp only
      split
      · exact fun _ => .ended holds
      · split
        · intro quick
          refine endBattle_runs (free_runs _ holds) campaignId .unknow ?_ remainBuilds quick
          nofun
        · split
          · exact fun _ => .ended holds
          · split
            · exact fun _ => .ended holds
            · rename_i attack queue queue_eq
              have queued : ∀ other ∈ attack :: queue, Fair settings limits other := by
                intro other mem
                exact holds.shared.fair campaign campaign_mem other (queue_eq ▸ mem)
              have runs : Runs settings limits ⟨campaign.gridCfgId, .campaign campaignId⟩ others
                  map := ⟨holds.shared, holds.own, nofun, nofun⟩
              have taken : Runs settings limits ⟨campaign.gridCfgId, .campaign campaignId⟩ others
                  (map.modifyCampaign campaignId fun campaign =>
                    { campaign with battleQueue := queue, fighting := true }) :=
                runs.campaigns (fair_modifyCampaign runs.kept campaignId fun _ _ other mem =>
                  queued other (List.mem_cons_of_mem _ mem))
              exact fun _ => taken.wait rfl nofun
                (by simpa [Task.attack] using queued attack (by simp))

theorem giveUpMyGrid_runs (pid cfgId : ℕ) (quick : Quick (map.giveUpMyGrid settings pid cfgId)) :
    (indexPool settings limits).Keeps others (map.giveUpMyGrid settings pid cfgId) := by
  revert quick
  unfold StarMap.giveUpMyGrid
  cases map.grids cfgId with
  | none => exact fun _ => .ended holds
  | some grid =>
      dsimp only
      split
      · exact fun _ => .ended holds
      · rename_i goes_on
        have runs := take_runs holds (not_or.mp goes_on).1
        split
        · split
          · exact fun _ => .ended holds
          · exact storeNftBuilds_runs runs nofun
        · split
          · exact fun _ => runs.wait rfl nofun nofun
          · exact fun _ => .ended holds

theorem giftWithMyGrid_runs (pid cfgId toPid : ℕ) :
    (indexPool settings limits).Keeps others (map.giftWithMyGrid pid cfgId toPid) := by
  unfold StarMap.giftWithMyGrid
  cases map.grids cfgId with
  | none => exact .ended holds
  | some grid =>
      dsimp only
      split
      · exact .ended holds
      · rename_i goes_on
        exact (take_runs holds (not_or.mp goes_on).1).wait rfl nofun nofun

end

/-- The union of a private owner changes, which no index knows. -/
theorem Runs.privately {handler : Handler} (runs : Runs settings limits handler others map)
    (change : ℕ → Grid → Grid) (grids : ∀ id, mid.grids id = (map.grids id).map (change id))
    (same : ∀ id grid, ∃ unionId, (change id grid).owner = { grid.owner with unionId := unionId } ∧
      (isPrivate grid = false → unionId = grid.owner.unionId))
    (players : mid.playerGridIds = map.playerGridIds)
    (unions : mid.unionGridIds = map.unionGridIds) (campaigns : mid.campaigns = map.campaigns)
    (locked : mid.locked = map.locked) : Runs settings limits handler others mid := by
  have shared : ∀ id grid, grid.owner.isPrivate = false →
      (change id grid).owner = grid.owner := by
    intro id grid shared
    obtain ⟨unionId, owner_eq, public_eq⟩ := same id grid
    rw [owner_eq, public_eq (by simp [isPrivate, Owner.ownsPrivately, shared])]
  have playerId : ∀ id grid, (change id grid).owner.playerId = grid.owner.playerId := by
    intro id grid
    obtain ⟨unionId, owner_eq, _⟩ := same id grid
    rw [owner_eq]
  have isPrivate_eq : ∀ id grid, (change id grid).owner.isPrivate = grid.owner.isPrivate := by
    intro id grid
    obtain ⟨unionId, owner_eq, _⟩ := same id grid
    rw [owner_eq]
  have held : ∀ id, mid.holdsPrivate id = map.holdsPrivate id := by
    intro id
    rw [StarMap.holdsPrivate, grids, StarMap.holdsPrivate]
    cases map.grids id with
    | none => rfl
    | some grid => simp [isPrivate, Owner.ownsPrivately, playerId, isPrivate_eq]
  refine runs.next ⟨⟨⟨fun id pid named => ?_, fun id unionId named => ?_⟩, fun id grid found => ?_⟩,
    runs.kept.capped.same players unions held, campaigns ▸ runs.kept.fair⟩ locked
    fun id gone => by rw [grids, gone]; rfl
  · rw [players, grids]
    refine (runs.kept.indexed.index.players id pid named).trans ?_
    cases map.grids id <;> simp [playerId]
  · rw [unions, grids]
    refine (runs.kept.indexed.index.unions id unionId named).trans ?_
    cases map.grids id with
    | none => simp
    | some grid =>
        cases privately : grid.owner.isPrivate with
        | false => simp [shared id grid privately, privately]
        | true => simp [isPrivate_eq, privately]
  · rw [grids] at found
    obtain ⟨old, start, rfl⟩ := Option.map_eq_some_iff.mp found
    have whole := runs.kept.indexed.whole id old start
    cases privately : old.owner.isPrivate with
    | false => rwa [shared id old privately]
    | true => exact fun _ => .inr ((isPrivate_eq id old).trans privately)

theorem updatePersonalGrids_runs {handler : Handler}
    (runs : Runs settings limits handler others map) (pid unionId : ℕ) :
    Runs settings limits handler others
      (StarMap.accept settings (.updatePersonalGrids pid unionId) map).1 := by
  refine runs.privately (fun id grid =>
    if id ∈ map.playerGridIds pid then updatePersonalGrid unionId grid else grid)
    (fun id => ?_) (fun id grid => ?_) rfl rfl rfl rfl
  · simp only [StarMap.accept]
    split
    · rfl
    · exact Option.map_id'.symm
  · dsimp only
    split
    · unfold updatePersonalGrid
      split
      · rename_i privately
        exact ⟨unionId, rfl, fun shared => absurd (privately.symm.trans shared) (by decide)⟩
      · exact ⟨grid.owner.unionId, rfl, fun _ => rfl⟩
    · exact ⟨grid.owner.unionId, rfl, fun _ => rfl⟩

theorem updateOwnerInfo_runs {handler : Handler} (pid unionId : ℕ) (gridCfgIds : List ℕ)
    {map : StarMap} (runs : Runs settings limits handler others map) :
    Runs settings limits handler others (gridCfgIds.foldl
      (fun map cfgId => map.modifyGrid cfgId (updateOwnerInfo pid unionId)) map) := by
  induction gridCfgIds generalizing map with
  | nil => exact runs
  | cons cfgId gridCfgIds ih =>
      refine ih (runs.privately (fun id grid =>
        if id = cfgId then updateOwnerInfo pid unionId grid else grid)
        (fun id => ?_) (fun id grid => ?_) rfl rfl rfl rfl)
      · simp only [StarMap.modifyGrid]
        split
        · rfl
        · exact Option.map_id'.symm
      · dsimp only
        split
        · unfold updateOwnerInfo
          split
          · rename_i changes
            exact ⟨0, rfl, fun shared => absurd (changes.2.1.symm.trans shared) (by decide)⟩
          · exact ⟨grid.owner.unionId, rfl, fun _ => rfl⟩
        · exact ⟨grid.owner.unionId, rfl, fun _ => rfl⟩

theorem elapse_runs {handler : Handler} (runs : Runs settings limits handler others map)
    (seconds : ℕ) :
    Runs settings limits handler others (StarMap.accept settings (.elapse seconds) map).1 := by
  refine runs.same ⟨fun cfgId => ?_, rfl, rfl⟩ rfl rfl
  simp only [StarMap.accept, Option.map_map]
  rfl

theorem checkProtectTimeout_runs {handler : Handler}
    (runs : Runs settings limits handler others map) (cfgId : ℕ) :
    Runs settings limits handler others (map.modifyGrid cfgId checkProtectTimeout) := by
  refine runs.modifyGrid cfgId fun grid => ?_
  unfold checkProtectTimeout
  split <;> rfl

end Requests

section Answers

variable {settings : MapSettings} {limits : Option Limits} {others : List Task} {map : StarMap}

theorem task_runs {task : Task} (holds : (indexPool settings limits).Holds ⟨map, others⟩)
    (tracks : Tracks settings limits map task)
    (apart : ∀ other ∈ others, (indexPool settings limits).apart task other) :
    Runs settings limits task.handler others map :=
  ⟨holds.shared, holds.own, fun lock other mem other_lock => apart other mem lock other_lock,
    tracks.held⟩

section

variable {handler : Handler} (runs : Runs settings limits handler others map)
include runs

theorem askedUnion_runs (pid unionId : ℕ) :
    (indexPool settings limits).Keeps others (map.askedUnion handler pid unionId) := by
  unfold StarMap.askedUnion
  split
  · exact runs.done
  · split
    · exact runs.done
    · exact runs.wait rfl nofun nofun

theorem gift_runs (pid toPid : ℕ) (member : Player)
    (room : HasRoom settings limits map handler.cfgId ⟨member, false⟩)
    (quick : Quick (map.gift settings handler pid toPid member)) :
    (indexPool settings limits).Keeps others (map.gift settings handler pid toPid member) := by
  have idle : Runs settings limits handler others
      (map.modifyGrid handler.cfgId ({ · with status := .idle })) :=
    runs.modifyGrid handler.cfgId fun _ => rfl
  refine changeOwner_runs idle _ _ (fun player mem => ?_) quick
  obtain rfl := Option.mem_some_iff.mp mem
  intro limit limit_mem
  have free := room limit limit_mem
  simp only [Bool.false_eq_true, ↓reduceIte] at free ⊢
  exact free

theorem setNode_runs (pid : ℕ) (known : Bool) :
    Runs settings limits handler others (map.setNode pid known) := by
  unfold StarMap.setNode
  split
  · exact runs.same ⟨fun _ => rfl, rfl, rfl⟩ rfl rfl
  · exact runs

end

theorem hasRoom_setNode {cfgId : ℕ} {newOwner : NewOwner} (pid : ℕ) (known : Bool)
    (room : HasRoom settings limits map cfgId newOwner) :
    HasRoom settings limits (map.setNode pid known) cfgId newOwner := by
  unfold StarMap.setNode
  split
  · exact room
  · exact room

theorem goOn_runs {handler : Handler} {next : Next}
    (runs : Runs settings limits handler others map)
    (fair : ∀ attack ∈ (Task.mk handler (.getPlayerNodeByPid 0 next)).attack,
      Fair settings limits attack)
    (notLosing : !(Task.mk handler (.getPlayerNodeByPid 0 next)).losesOwner)
    (room : ∀ newOwner after, next = .changeOwner (some newOwner) after →
      HasRoom settings limits map handler.cfgId newOwner)
    (quick : Quick (map.goOn settings handler next)) :
    (indexPool settings limits).Keeps others (map.goOn settings handler next) := by
  cases next with
  | giveUp => exact giveUp_runs runs quick
  | changeOwner newOwner after =>
      refine changeOwner_runs runs newOwner after (fun player mem => ?_) quick
      obtain rfl : newOwner = some player := mem
      exact room player after rfl
  | setOwner newOwner after => exact absurd notLosing (by simp [Task.losesOwner])
  | resetGrid after => exact leaveOwner_runs runs true after
  | checkRoom attack => exact checkRoom_runs runs (fair attack rfl) quick
  | tell pids => exact tell_runs runs pids
  | endBattle attack result remainBuilds =>
      exact battleDone_runs runs (fair attack rfl) result remainBuilds quick

theorem indexPool_resume (task : Task) (reply : Reply)
    (holds : (indexPool settings limits).Holds ⟨map, others⟩)
    (tracks : Tracks settings limits map task)
    (apart : ∀ other ∈ others, (indexPool settings limits).apart task other)
    (allows : (watched settings limits).onReply task reply map others) :
    (indexPool settings limits).Keeps others ((starmapService settings).resume task reply map) := by
  have runs := task_runs holds tracks apart
  have unchanged : (indexPool settings limits).Keeps others (map, [task]) :=
    .unchanged holds tracks apart
  have quick : Quick (map.resume settings task reply) := allows.1
  rcases task with ⟨handler, call⟩
  cases reply with
  | raise => cases call <;> exact runs.done
  | done =>
      cases call with
      | update attack =>
          obtain ⟨lock, gone⟩ := tracks.missing rfl
          exact checkStart_runs (registerGrid_runs runs lock gone) (tracks.fair attack rfl)
      | handBack drop rest =>
          refine handBackAll_runs runs (fun attack ownerPid same => ?_) rest quick
          subst same
          exact tracks.fair attack rfl
      | _ => exact unchanged
  | found yes =>
      cases call with
      | findOne attack =>
          obtain ⟨lock, gone⟩ := tracks.missing rfl
          cases yes with
          | true =>
              exact checkStart_runs (registerGrid_runs runs lock gone) (tracks.fair attack rfl)
          | false => exact runs.wait rfl (fun _ => ⟨lock, gone⟩) tracks.fair
      | _ => exact unchanged
  | allowed yes =>
      cases call with
      | takeStarmapCampaignArmy attack =>
          cases yes with
          | true => exact fight_runs runs (tracks.fair attack rfl)
          | false => exact runs.done
      | checkUnionJobCanPutBuild pid =>
          cases yes with
          | true =>
              refine storeNftBuilds_runs runs ?_ quick
              nofun
          | false => exact runs.done
      | _ => exact unchanged
  | unionId unionId =>
      cases call with
      | getUnionIdByPid pid => exact askedUnion_runs runs pid unionId
      | _ => exact unchanged
  | member member =>
      cases call with
      | getUnionMember pid toPid =>
          cases member with
          | none => exact runs.done
          | some member => exact gift_runs runs pid toPid member allows.2 quick
      | _ => cases member <;> exact unchanged
  | node known =>
      cases call with
      | getPlayerNodeByPid pid next =>
          have fair : ∀ attack ∈ (Task.mk handler (.getPlayerNodeByPid 0 next)).attack,
              Fair settings limits attack := by
            cases next <;> exact tracks.fair
          have notLosing : !(Task.mk handler (.getPlayerNodeByPid 0 next)).losesOwner := by
            cases next <;> exact tracks.notLosing
          refine goOn_runs (setNode_runs runs pid known) fair notLosing ?_ quick
          rintro newOwner after rfl
          exact hasRoom_setNode pid known allows.2
      | _ => exact unchanged
  | battle result remainBuilds =>
      cases call with
      | calcBattleResult attack =>
          exact battled_runs runs (tracks.fair attack rfl) result remainBuilds quick
      | _ => exact unchanged

theorem indexPool_accept (request : Request)
    (holds : (indexPool settings limits).Holds ⟨map, others⟩)
    (allows : (watched settings limits).onRequest request map others) :
    (indexPool settings limits).Keeps others ((starmapService settings).accept request map) := by
  have quick : Quick (map.accept settings request) := allows.1
  have rests := free_runs 0 holds
  cases request with
  | startBattle cfgId attack => exact startBattle_runs holds cfgId allows.2
  | checkBattleStart campaignId remainBuilds =>
      exact checkBattleStart_runs holds campaignId remainBuilds quick
  | giveUpMyGrid pid cfgId => exact giveUpMyGrid_runs holds pid cfgId quick
  | giftWithMyGrid pid cfgId toPid => exact giftWithMyGrid_runs holds pid cfgId toPid
  | doMatchSeasonEndClear cfgId =>
      refine storeNftBuilds_runs (free_runs cfgId holds) ?_ quick
      nofun
  | dissolveUnionHandle cfgId unionId =>
      revert quick
      simp only [starmapService, StarMap.accept]
      split
      · intro quick
        refine storeNftBuilds_runs (free_runs cfgId holds) ?_ quick
        nofun
      · exact fun _ => .ended holds
  | enterStarmap pid unionId gridCfgIds =>
      exact (updateOwnerInfo_runs pid unionId gridCfgIds rests).done
  | updatePersonalGrids pid unionId => exact (updatePersonalGrids_runs rests pid unionId).done
  | setBuilds cfgId builds =>
      have placed : Runs settings limits ⟨0, .free⟩ others
          (map.modifyGrid cfgId ({ · with builds := builds })) :=
        rests.modifyGrid cfgId fun _ => rfl
      exact placed.done
  | checkProtectTimeout cfgId => exact (checkProtectTimeout_runs rests cfgId).done
  | clearCampaigns =>
      exact (rests.campaigns fun campaign mem =>
        rests.kept.fair campaign (List.mem_of_mem_filter mem)).done
  | elapse seconds => exact (elapse_runs rests seconds).done

theorem indexPool_kept (settings : MapSettings) (limits : Option Limits) :
    (indexPool settings limits).KeptBy (starmapService settings) (watched settings limits) where
  accept request _ _ := indexPool_accept request
  resume task reply _ _ holds tracks apart allows :=
    indexPool_resume task reply holds tracks apart allows

end Answers

end BasWar.Starmap.Owners
