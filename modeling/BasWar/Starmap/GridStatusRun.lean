import BasWar.Starmap.GridStatusEnds

/-!
# The status over whole runs

Handlers that have the lock know that their grid is idle, and the on-going campaign of a grid is the
one that its battles belong to.
-/

namespace BasWar.Starmap.Owners

open Cooperative

/-- The handler of a lock only makes its grid idle from here on. -/
def Next.calm : Next → Bool
  | .giveUp | .tell _ => true
  | .changeOwner _ after | .setOwner _ after | .resetGrid after => decide (after ≠ .protect)
  | .checkRoom _ | .endBattle _ _ _ => false

def Next.leaves : Next → Bool
  | .changeOwner _ .leave | .setOwner _ .leave | .resetGrid .leave => true
  | _ => false

def Knows (map : StarMap) (task : Task) : Prop :=
  match task.handler.runner with
  | .lock =>
      task.handler.cfgId ∈ map.locked ∧
        match task.call with
        | .findOne _ | .update _ => map.grids task.handler.cfgId = none
        | .takeStarmapCampaignArmy _ => map.grids task.handler.cfgId ≠ none
        | .getUnionMember _ _ => True
        | .getUnionIdByPid _ | .checkUnionJobCanPutBuild _ | .handBack (.giveUpMyGrid _) _ =>
            map.statusOf task.handler.cfgId = some .idle
        | .getPlayerNodeByPid _ next =>
            next.calm ∧ map.statusOf task.handler.cfgId = some .idle
        | .handBack _ _ | .calcBattleResult _ => False
  | .campaign campaignId =>
      match task.call with
      | .calcBattleResult _ | .getPlayerNodeByPid _ (.endBattle _ _ _) =>
          campaignId < map.uuid ∧ ∀ campaign ∈ map.campaigns, campaign.campaignId = campaignId →
            campaign.gridCfgId = task.handler.cfgId
      | _ => False
  | .free =>
      match task.call with
      | .handBack .doMatchSeasonEndClear _ | .handBack .dissolveUnionHandle _ => True
      | .getPlayerNodeByPid _ next => next.leaves
      | _ => False

def Apart (first second : Task) : Prop :=
  first.handler.runner = .lock → second.handler.runner = .lock →
    first.handler.cfgId ≠ second.handler.cfgId

def statusPool : Pool StarMap Task where
  shared := Linked
  own := Knows
  apart := Apart
  apart_symm apart second_lock first_lock same := apart first_lock second_lock same.symm

/-- What one handler knows stays true while it keeps its lock, and its grid stays as idle or as
missing as it is. -/
theorem Knows.mono {map mid : StarMap} {task : Task} (knows : Knows map task)
    (locked : task.handler.cfgId ∈ map.locked → task.handler.runner = .lock →
      task.handler.cfgId ∈ mid.locked)
    (absent : task.handler.runner = .lock →
      (mid.grids task.handler.cfgId = none ↔ map.grids task.handler.cfgId = none))
    (idle : task.handler.runner = .lock → map.statusOf task.handler.cfgId = some .idle →
      mid.statusOf task.handler.cfgId = some .idle)
    (uuid : map.uuid ≤ mid.uuid)
    (sites : ∀ campaign ∈ mid.campaigns, campaign.campaignId < map.uuid →
      ∃ old ∈ map.campaigns, old.campaignId = campaign.campaignId ∧
        old.gridCfgId = campaign.gridCfgId) : Knows mid task := by
  rcases task with ⟨⟨cfgId, runner⟩, call⟩
  cases runner with
  | lock =>
      refine ⟨locked knows.1 rfl, ?_⟩
      have known := knows.2
      have absent_iff : mid.grids cfgId = none ↔ map.grids cfgId = none := absent rfl
      have still_idle : map.statusOf cfgId = some .idle → mid.statusOf cfgId = some .idle :=
        idle rfl
      revert known
      dsimp only
      split
      · exact absent_iff.mpr
      · exact absent_iff.mpr
      · exact fun known gone => known (absent_iff.mp gone)
      · exact id
      · exact still_idle
      · exact still_idle
      · exact still_idle
      · exact fun known => ⟨known.1, still_idle known.2⟩
      · exact id
      · exact id
  | campaign campaignId =>
      have kept : (campaignId < map.uuid ∧ ∀ campaign ∈ map.campaigns,
          campaign.campaignId = campaignId → campaign.gridCfgId = cfgId) →
        campaignId < mid.uuid ∧ ∀ campaign ∈ mid.campaigns,
          campaign.campaignId = campaignId → campaign.gridCfgId = cfgId := by
        rintro ⟨issued, site⟩
        refine ⟨issued.trans_le uuid, fun campaign mem id_eq => ?_⟩
        obtain ⟨old, old_mem, old_id, old_site⟩ := sites campaign mem (id_eq ▸ issued)
        exact old_site ▸ site old old_mem (old_id.trans id_eq)
      revert knows
      simp only [Knows]
      split
      · exact kept
      · exact kept
      · exact id
  | free => exact knows

theorem Shift.idle_of_same {map mid : StarMap} (same : Same map mid) (cfgId : ℕ) :
    mid.statusOf cfgId = map.statusOf cfgId := by
  have looks := congrArg (Option.map Look.status) (same.looks cfgId)
  simpa [StarMap.statusOf, Option.map_map, Function.comp_def, look] using looks

theorem Knows.same {map mid : StarMap} {task : Task} (same : Same map mid)
    (locked : mid.locked = map.locked) (knows : Knows map task) : Knows mid task :=
  knows.mono (fun held _ => locked ▸ held) (fun _ => same.none_iff _)
    (fun _ idle => (same.idle_of_same _).trans idle) same.uuid.ge fun campaign mem _ => by
      obtain ⟨old, old_mem, id_eq, site_eq, _⟩ := same.campaign_before mem
      exact ⟨old, old_mem, id_eq, site_eq⟩

/-- A handler runs while the invariant holds. -/
structure Ready (handler : Handler) (others : List Task) (map : StarMap) : Prop where
  linked : Linked map
  knows : ∀ other ∈ others, Knows map other
  alone : handler.runner = .lock → ∀ other ∈ others, other.handler.runner = .lock →
    handler.cfgId ≠ other.handler.cfgId
  held : handler.runner = .lock → handler.cfgId ∈ map.locked

namespace Ready

variable {handler : Handler} {others : List Task} {map mid : StarMap}

theorem same (ready : Ready handler others map) (same : Same map mid)
    (locked : mid.locked = map.locked) : Ready handler others mid where
  linked := ready.linked.same same
  knows other mem := (ready.knows other mem).same same locked
  alone := ready.alone
  held lock := locked ▸ ready.held lock

theorem done (ready : Ready handler others map) : statusPool.Keeps others (map.done handler) := by
  have no_tasks : (map.done handler).2 = [] := by
    unfold StarMap.done
    split <;> rfl
  refine ⟨ready.linked.same (StarMap.same_done handler map), fun other mem => ?_, ?_, ?_, ?_⟩
  · have same := StarMap.same_done handler map
    refine (ready.knows other mem).mono (fun held lock => ?_) (fun _ => same.none_iff _)
      (fun _ idle => (same.idle_of_same _).trans idle) same.uuid.ge fun campaign found _ => ?_
    · unfold StarMap.done
      split
      · rename_i runner
        exact Finset.mem_erase.mpr ⟨(ready.alone runner other mem lock).symm, held⟩
      · exact held
      · exact held
    · obtain ⟨old, old_mem, id_eq, site_eq, _⟩ := same.campaign_before found
      exact ⟨old, old_mem, id_eq, site_eq⟩
  · rw [no_tasks]
    simp
  · rw [no_tasks]
    simp
  · rw [no_tasks]
    exact .nil

theorem wait (ready : Ready handler others map) {call : Call} (knows : Knows map ⟨handler, call⟩) :
    statusPool.Keeps others (map.wait handler call) where
  shared := ready.linked
  stable := ready.knows
  fresh := List.forall_mem_singleton.mpr knows
  apart other mem := List.forall_mem_singleton.mpr fun other_lock lock =>
    (ready.alone lock other mem other_lock).symm
  fresh_apart := List.pairwise_singleton _ _

end Ready

@[simp]
theorem StarMap.done_tasks (handler : Handler) (map : StarMap) : (map.done handler).2 = [] := by
  unfold StarMap.done
  split <;> rfl

/-- The handler has the lock of an idle grid, or finds the grid idle at its end. -/
def Calm (handler : Handler) (after : After) (map : StarMap) (result : StarMap × List Task) :
    Prop :=
  (handler.runner = .lock ∧ after ≠ .protect ∧ map.statusOf handler.cfgId = some .idle) ∨
    (handler.runner = .free ∧ after = .leave ∧
      (result.2 = [] → ∀ status ∈ map.statusOf handler.cfgId, status = .idle))

namespace Calm

variable {handler : Handler} {after : After} {map mid : StarMap} {result : StarMap × List Task}

theorem same (calm : Calm handler after map result) (same : Same map mid) :
    Calm handler after mid result := by
  unfold Calm
  rwa [same.idle_of_same]

theorem knows (calm : Calm handler after map result) (held : handler.runner = .lock →
    handler.cfgId ∈ map.locked) (pid : ℕ) {next : Next}
    (next_eq : (∃ newOwner, next = .setOwner newOwner after) ∨ next = .resetGrid after) :
    Knows map ⟨handler, .getPlayerNodeByPid pid next⟩ := by
  rcases calm with ⟨lock, quiet, idle⟩ | ⟨free, rfl, _⟩
  · have calm_next : next.calm := by
      rcases next_eq with ⟨newOwner, rfl⟩ | rfl <;> simpa [Next.calm] using quiet
    simp only [Knows, lock]
    exact ⟨held lock, calm_next, idle⟩
  · have leaves : next.leaves := by
      rcases next_eq with ⟨newOwner, rfl⟩ | rfl <;> rfl
    simp only [Knows, free]
    exact leaves

end Calm

section Change

variable {settings : MapSettings} {handler : Handler} {others : List Task} {map : StarMap}

theorem tell_keeps (ready : Ready handler others map) (lock : handler.runner = .lock)
    (idle : map.statusOf handler.cfgId = some .idle) (pids : List ℕ) :
    statusPool.Keeps others (StarMap.tell handler pids map) := by
  rcases StarMap.tell_cases handler pids map with ends | ⟨pid, rest, waits⟩
  · rw [ends]
    exact ready.done
  · rw [waits]
    refine ready.wait ?_
    simp only [Knows, lock]
    exact ⟨ready.held lock, rfl, idle⟩

theorem afterwards_keeps {after : After} (ready : Ready handler others map)
    (calm : Calm handler after map (map.afterwards settings handler after)) :
    statusPool.Keeps others (map.afterwards settings handler after) := by
  cases after with
  | leave => exact ready.done
  | protect =>
      rcases calm with ⟨_, quiet, _⟩ | ⟨_, leave, _⟩
      · exact absurd rfl quiet
      · exact nomatch leave
  | tell pids =>
      rcases calm with ⟨lock, _, idle⟩ | ⟨_, leave, _⟩
      · exact tell_keeps ready lock idle pids
      · exact nomatch leave

section

variable (newOwner : Option NewOwner) (ready : Ready handler others map)
include ready

theorem replaceOwner_keeps {after : After}
    (calm : Calm handler after map
      ((map.replaceOwner settings handler.cfgId newOwner).afterwards settings handler after)) :
    statusPool.Keeps others
      ((map.replaceOwner settings handler.cfgId newOwner).afterwards settings handler after) := by
  have idles := StarMap.idles_replaceOwner settings handler.cfgId newOwner map
  have idle : ∀ status ∈ map.statusOf handler.cfgId, status = .idle := by
    rcases calm with ⟨_, _, idle⟩ | ⟨_, rfl, idle⟩
    · intro status mem
      rw [idle] at mem
      exact (Option.some.inj mem).symm
    · exact idle (StarMap.done_tasks handler _)
  have same := idles.same_of_idle idle
  exact afterwards_keeps (ready.same same (StarMap.replaceOwner_locked settings _ newOwner map))
    (calm.same same)

theorem setOwner_keeps {after : After}
    (calm : Calm handler after map (map.setOwner settings handler newOwner after)) :
    statusPool.Keeps others (map.setOwner settings handler newOwner after) := by
  rcases StarMap.setOwner_cases settings handler map newOwner after with
    ⟨player, _, waits⟩ | ends
  · have same := StarMap.same_takeOwner handler.cfgId newOwner map
    have later := ready.same same (StarMap.takeOwner_locked handler.cfgId newOwner map)
    rw [waits]
    exact later.wait ((calm.same same).knows later.held _ (.inr rfl))
  · rw [ends] at calm ⊢
    exact replaceOwner_keeps newOwner ready calm

theorem changeOwner_keeps {after : After}
    (calm : Calm handler after map (map.changeOwner settings handler newOwner after)) :
    statusPool.Keeps others (map.changeOwner settings handler newOwner after) := by
  have same := StarMap.same_dropOwner handler.cfgId map
  have later := ready.same same (StarMap.dropOwner_locked handler.cfgId map)
  rcases StarMap.changeOwner_cases settings handler map newOwner after with
    ⟨_, ends⟩ | ⟨grid, _, ⟨_, waits⟩ | sets⟩
  · rw [ends]
    exact ready.done
  · rw [waits]
    exact later.wait ((calm.same same).knows later.held _ (.inl ⟨newOwner, rfl⟩))
  · rw [sets] at calm ⊢
    exact setOwner_keeps newOwner later (calm.same same)

end

end Change

section Battle

variable {settings : MapSettings} {handler : Handler} {others : List Task} {map : StarMap}

section

variable (ready : Ready handler others map)
include ready

theorem Ready.elsewhere {mid : StarMap} (lock : handler.runner = .lock) (linked : Linked mid)
    (locked : mid.locked = map.locked)
    (grids : ∀ cfgId, cfgId ≠ handler.cfgId → mid.grids cfgId = map.grids cfgId)
    (uuid : map.uuid ≤ mid.uuid)
    (sites : ∀ campaign ∈ mid.campaigns, campaign.campaignId < map.uuid →
      campaign ∈ map.campaigns) : Ready handler others mid where
  linked := linked
  knows other mem :=
    (ready.knows other mem).mono (fun held _ => locked ▸ held)
      (fun other_lock => by rw [grids _ (ready.alone lock other mem other_lock).symm])
      (fun other_lock idle => by
        rw [StarMap.statusOf, grids _ (ready.alone lock other mem other_lock).symm]
        exact idle)
      uuid fun campaign found issued => ⟨campaign, sites campaign found issued, rfl, rfl⟩
  alone := ready.alone
  held lock := locked ▸ ready.held lock

theorem joinCampaign_keeps (attack : Attack) (campaign : Campaign) :
    statusPool.Keeps others ((map.joinCampaign attack campaign).done handler) := by
  unfold StarMap.joinCampaign
  split
  · exact ready.done
  · have joined : Same map (map.modifyCampaign campaign.campaignId fun campaign =>
        { campaign with battleQueue := campaign.battleQueue ++ [attack] }) :=
      .modifyCampaign_same map _ fun _ => rfl
    exact (ready.same joined rfl).done

theorem fight_keeps (lock : handler.runner = .lock) (present : map.grids handler.cfgId ≠ none)
    (unprotected : map.statusOf handler.cfgId ≠ some .protect) (attack : Attack) :
    statusPool.Keeps others (map.fight settings handler attack) := by
  have begun : Ready handler others
      (if (map.getGridOnGoingCampaign handler.cfgId).isNone then
        map.createCampaign settings handler.cfgId else map) := by
    split
    · rename_i nothing
      have free : ¬ map.OnGoing handler.cfgId := by
        simpa [StarMap.OnGoing, Option.isSome_iff_ne_none] using nothing
      refine ready.elsewhere lock (ready.linked.created free present unprotected) rfl ?_
        (Nat.le_succ _) ?_
      · intro cfgId away
        simp [StarMap.createCampaign, StarMap.modifyGrid, away]
      · intro campaign mem issued
        rcases List.mem_append.mp mem with old | new
        · exact old
        · obtain rfl := List.mem_singleton.mp new
          exact absurd issued (lt_irrefl _)
    · exact ready
  unfold StarMap.fight
  dsimp only
  split
  · exact joinCampaign_keeps begun attack _
  · exact begun.done

theorem checkStart_keeps (lock : handler.runner = .lock) (attack : Attack) :
    statusPool.Keeps others (map.checkStart settings handler attack) := by
  unfold StarMap.checkStart
  cases found : map.grids handler.cfgId with
  | none => exact ready.done
  | some grid =>
      dsimp only
      split
      · exact ready.done
      · rename_i unprotected
        split
        · exact ready.done
        · split
          · refine ready.wait ?_
            simp only [Knows, lock]
            exact ⟨ready.held lock, by simp [found]⟩
          · refine fight_keeps ready lock (by simp [found]) ?_ attack
            simpa [StarMap.statusOf, found] using unprotected

theorem registerGrid_ready (lock : handler.runner = .lock) (gone : map.grids handler.cfgId = none) :
    Ready handler others (map.registerGrid settings handler.cfgId) := by
  have linked := ready.linked
  have on_going_iff : ∀ cfgId, (map.registerGrid settings handler.cfgId).OnGoing cfgId ↔
      map.OnGoing cfgId := fun _ => Iff.rfl
  have not_on_going : ¬ map.OnGoing handler.cfgId := by
    rw [StarMap.onGoing_iff]
    rintro ⟨campaign, mem, site, goes_on⟩
    exact linked.present campaign mem goes_on (site ▸ gone)
  have grid_cases : ∀ cfgId grid,
      (map.registerGrid settings handler.cfgId).grids cfgId = some grid →
        (cfgId = handler.cfgId ∧
          grid = Grid.init (settings.row handler.cfgId) map.clock) ∨
        map.grids cfgId = some grid := by
    intro cfgId grid found
    by_cases here : cfgId = handler.cfgId
    · exact .inl ⟨here, by simpa [StarMap.registerGrid, StarMap.setGrid, here] using found.symm⟩
    · exact .inr (by simpa [StarMap.registerGrid, StarMap.setGrid, here] using found)
  refine ready.elsewhere lock ⟨?_, ?_, ?_, linked.clock, linked.once, linked.ids, linked.fresh, ?_⟩
    rfl ?_ le_rfl fun campaign mem _ => mem
  · intro cfgId grid found
    rcases grid_cases cfgId grid found with ⟨rfl, rfl⟩ | old
    · exact iff_of_false (by simp [Grid.init]) not_on_going
    · exact linked.battle cfgId grid old
  · intro cfgId grid found
    rcases grid_cases cfgId grid found with ⟨rfl, rfl⟩ | old
    · simp [Grid.init]
    · exact linked.protect cfgId grid old
  · intro cfgId grid found
    rcases grid_cases cfgId grid found with ⟨rfl, rfl⟩ | old
    · exact linked.clock
    · exact linked.clocks cfgId grid old
  · intro campaign mem goes_on
    by_cases here : campaign.gridCfgId = handler.cfgId
    · simp [StarMap.registerGrid, StarMap.setGrid, here]
    · simpa [StarMap.registerGrid, StarMap.setGrid, here] using linked.present campaign mem goes_on
  · intro cfgId away
    simp [StarMap.registerGrid, StarMap.setGrid, away]

end

end Battle

section Handlers

variable {settings : MapSettings} {handler : Handler} {others : List Task} {map : StarMap}

theorem mem_getCampaign {campaignId : ℕ} {campaign : Campaign}
    (found : map.getCampaign campaignId = some campaign) :
    campaign ∈ map.campaigns ∧ campaign.campaignId = campaignId :=
  ⟨List.mem_of_find?_eq_some found, by simpa using List.find?_some found⟩

section

variable (ready : Ready handler others map)
include ready

theorem endBattle_keeps (unlocked : handler.runner ≠ .lock) {ended : Campaign}
    (mem : ended ∈ map.campaigns) (goes_on : ended.isEnd = false)
    (site : ended.gridCfgId = handler.cfgId) {result : BattleResult} {attack : Option Attack}
    {remainBuilds : List ℕ} (ends : (result = .win ∧ attack.isSome) ∨ result = .unknow)
    (nothing : (map.endBattle settings handler ended.campaignId result attack remainBuilds).2 =
      []) :
    statusPool.Keeps others
      (map.endBattle settings handler ended.campaignId result attack remainBuilds) := by
  have result_eq : map.endBattle settings handler ended.campaignId result attack remainBuilds =
      (map.endCampaign ended.campaignId).onCampaignEnd settings handler result attack
        remainBuilds := by
    rcases ends with ⟨rfl, _⟩ | rfl <;> rfl
  rw [result_eq] at nothing ⊢
  obtain ⟨mid, settles, mid_eq⟩ := onCampaignEnd_ends ends nothing
  rw [mid_eq]
  have on_going : map.OnGoing handler.cfgId :=
    StarMap.onGoing_iff.mpr ⟨ended, mem, site, goes_on⟩
  have elsewhere : ∀ cfgId, cfgId ≠ handler.cfgId →
      (mid.grids cfgId).map look = (map.grids cfgId).map look := settles.others
  have later : Ready handler others mid := by
    refine ⟨ready.linked.ended mem goes_on (site ▸ settles), fun other other_mem => ?_,
      ready.alone, fun lock => absurd lock unlocked⟩
    refine (ready.knows other other_mem).mono (fun held _ => settles.locked ▸ held)
      (fun _ => ?_) (fun _ idle => ?_) settles.uuid.ge fun campaign found _ => ?_
    · by_cases here : other.handler.cfgId = handler.cfgId
      · rw [here]
        refine ⟨fun gone => ?_, fun gone => ?_⟩
        · by_contra present
          exact settles.present present gone
        · exact absurd (site ▸ gone) (ready.linked.present ended mem goes_on)
      · have looks := congrArg Option.isSome (elsewhere _ here)
        cases found : mid.grids other.handler.cfgId <;>
          cases start : map.grids other.handler.cfgId <;> simp_all
    · by_cases here : other.handler.cfgId = handler.cfgId
      · rw [here] at idle
        obtain ⟨grid, found, status⟩ := Option.map_eq_some_iff.mp idle
        have battle := (ready.linked.battle _ grid found).mpr on_going
        exact absurd (status.symm.trans battle) (by decide)
      · have looks := congrArg (Option.map Look.status) (elsewhere _ here)
        rw [Option.map_map, Option.map_map] at looks
        exact looks.trans idle
    · have brief_mem : campaign.brief ∈ (map.endCampaign ended.campaignId).campaigns.map
          Campaign.brief := settles.campaigns ▸ List.mem_map_of_mem found
      obtain ⟨middle, middle_mem, brief_eq⟩ := List.mem_map.mp brief_mem
      simp only [Campaign.brief, Prod.mk.injEq] at brief_eq
      obtain ⟨old, old_mem, id_eq, site_eq, _⟩ := mem_endCampaign middle_mem
      exact ⟨old, old_mem, id_eq.trans brief_eq.1, site_eq.trans brief_eq.2.1⟩
  exact later.done

section

variable (lock : handler.runner = .lock) (idle : map.statusOf handler.cfgId = some .idle)
include lock idle

theorem giveUp_keeps : statusPool.Keeps others (map.giveUp settings handler) := by
  have idles : Idles handler.cfgId map
      (map.modifyGrid handler.cfgId ({ · with status := .idle })) :=
    .modifyGrid map handler.cfgId fun _ => rfl
  have same := idles.same_of_idle (by simp [idle])
  refine changeOwner_keeps none (ready.same same rfl) (.inl ⟨lock, by decide, ?_⟩)
  rw [same.idle_of_same, idle]

theorem gift_keeps (pid toPid : ℕ) (member : Player) :
    statusPool.Keeps others (map.gift settings handler pid toPid member) := by
  have idles : Idles handler.cfgId map
      (map.modifyGrid handler.cfgId ({ · with status := .idle })) :=
    .modifyGrid map handler.cfgId fun _ => rfl
  have same := idles.same_of_idle (by simp [idle])
  refine changeOwner_keeps (some ⟨member, false⟩) (ready.same same rfl)
    (.inl ⟨lock, nofun, ?_⟩)
  rw [same.idle_of_same, idle]

theorem finish_giveUp_keeps (pid : ℕ) :
    statusPool.Keeps others (map.finish settings handler (.giveUpMyGrid pid)) := by
  rcases StarMap.send_cases handler map pid .giveUp (StarMap.giveUp settings handler) with
    sent | ⟨_, waits⟩
  · rw [StarMap.finish, sent]
    exact giveUp_keeps ready lock idle
  · rw [StarMap.finish, waits]
    refine ready.wait ?_
    simp only [Knows, lock]
    exact ⟨ready.held lock, rfl, idle⟩

theorem knows_handBack_giveUp (pid : ℕ) (rest : List HandBack) :
    Knows map ⟨handler, .handBack (.giveUpMyGrid pid) rest⟩ := by
  simp only [Knows, lock]
  exact ⟨ready.held lock, idle⟩

theorem storeNftBuilds_giveUp_keeps (pid : ℕ) :
    statusPool.Keeps others (map.storeNftBuilds settings handler (.giveUpMyGrid pid)) := by
  rcases StarMap.storeNftBuilds_cases settings handler map (.giveUpMyGrid pid) with
    ⟨_, ends⟩ | ⟨rest, waits⟩ | finishes
  · rw [ends]
    exact ready.done
  · rw [waits]
    exact ready.wait (knows_handBack_giveUp ready lock idle pid rest)
  · rw [finishes]
    exact finish_giveUp_keeps ready lock idle pid

end

section

variable (free : handler.runner = .free) {drop : Drop}
  (clears : drop = .doMatchSeasonEndClear ∨ drop = .dissolveUnionHandle)
include free clears

theorem finish_clear_keeps
    (idle : (map.finish settings handler drop).2 = [] →
      ∀ status ∈ map.statusOf handler.cfgId, status = .idle) :
    statusPool.Keeps others (map.finish settings handler drop) := by
  rcases StarMap.finish_clear_cases settings handler map clears with
    ends | ⟨pid, waits⟩ | changes
  · rw [ends]
    exact ready.done
  · rw [waits]
    refine ready.wait ?_
    simp only [Knows, free]
    rfl
  · rw [changes] at idle ⊢
    exact changeOwner_keeps none ready (.inr ⟨free, rfl, idle⟩)

theorem storeNftBuilds_clear_keeps
    (idle : (map.storeNftBuilds settings handler drop).2 = [] →
      ∀ status ∈ map.statusOf handler.cfgId, status = .idle) :
    statusPool.Keeps others (map.storeNftBuilds settings handler drop) := by
  rcases StarMap.storeNftBuilds_cases settings handler map drop with
    ⟨_, ends⟩ | ⟨rest, waits⟩ | finishes
  · rw [ends]
    exact ready.done
  · rw [waits]
    refine ready.wait ?_
    rcases clears with rfl | rfl
    · simp only [Knows, free]
    · simp only [Knows, free]
  · rw [finishes] at idle ⊢
    exact finish_clear_keeps ready free clears idle

end

end

end Handlers

end BasWar.Starmap.Owners
