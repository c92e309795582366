import BasWar.Starmap.OwnerChanges
import Mathlib

/-!
# Status of a grid and its campaign

A grid is under battle while a campaign is on-going there, and it is protected until its protection
ends.  The status is written by many handlers, and some of them write it without a look at what it
was: a gift, the end of a season and the end of a union make any grid idle.
-/

namespace BasWar.Starmap.Owners

open Cooperative

namespace StarMap

def OnGoing (map : StarMap) (cfgId : ℕ) : Prop :=
  (map.getGridOnGoingCampaign cfgId).isSome
  deriving Decidable

/-- `status` of a grid that is there. -/
def statusOf (map : StarMap) (cfgId : ℕ) : Option GridStatus :=
  (map.grids cfgId).map (·.status)

theorem onGoing_iff {map : StarMap} {cfgId : ℕ} :
    map.OnGoing cfgId ↔
      ∃ campaign ∈ map.campaigns, campaign.gridCfgId = cfgId ∧ campaign.isEnd = false := by
  simp [OnGoing, getGridOnGoingCampaign, List.find?_isSome]

end StarMap

def Task.givesUp (task : Task) : Bool :=
  match task.handler.runner, task.call with
  | .lock, .getUnionIdByPid _ | .lock, .checkUnionJobCanPutBuild _
  | .lock, .handBack (.giveUpMyGrid _) _ | .lock, .getPlayerNodeByPid _ .giveUp
  | .lock, .getPlayerNodeByPid _ (.setOwner none .leave) => true
  | _, _ => false

/-- The status of each grid says what goes on there, a grid under battle stays so when its
protection is checked, and nobody gives it up. -/
structure StatusMachine (config : Config StarMap Task) : Prop where
  battle : ∀ cfgId grid, config.state.grids cfgId = some grid →
    (grid.status = .battle ↔ config.state.OnGoing cfgId)
  protect : ∀ cfgId grid, config.state.grids cfgId = some grid →
    (grid.status = .protect ↔ grid.protectEndTick ≠ 0)
  checked : ∀ cfgId grid, config.state.grids cfgId = some grid → grid.status = .battle →
    (checkProtectTimeout grid).status = .battle
  refused : ∀ cfgId grid pid, config.state.grids cfgId = some grid → grid.status = .battle →
    ∀ settings, config.state.giveUpMyGrid settings pid cfgId = (config.state, [])
  notGivenUp : ∀ task ∈ config.waiting, task.givesUp →
    ¬ config.state.OnGoing task.handler.cfgId

def StarMap.campaignGoesOn (map : StarMap) (campaignId : ℕ) : Bool :=
  (map.getCampaign campaignId).any (!·.isEnd)

/-- A battle ends its campaign, which is not over yet, without waiting for anything. -/
def StarMap.EndsOnce (settings : MapSettings) (handler : Handler) (attack : Attack)
    (result : BattleResult) (remainBuilds : List ℕ) (map : StarMap) : Prop :=
  (result = .win ∨ result = .unknow) →
    (∀ campaignId, handler.runner = .campaign campaignId → map.campaignGoesOn campaignId = true) ∧
      (map.battleDone settings handler attack result remainBuilds).2 = []

instance (settings : MapSettings) (handler : Handler) (attack : Attack) (result : BattleResult)
    (remainBuilds : List ℕ) (map : StarMap) :
    Decidable (map.EndsOnce settings handler attack result remainBuilds) :=
  have : Decidable (∀ campaignId, handler.runner = .campaign campaignId →
      map.campaignGoesOn campaignId = true) :=
    match handler.runner with
    | .campaign campaignId =>
        decidable_of_iff (map.campaignGoesOn campaignId = true)
          ⟨fun goes_on _ same => Runner.campaign.inj same ▸ goes_on, fun all => all campaignId rfl⟩
    | .lock | .free => isTrue nofun
  show Decidable (_ → _ ∧ _) from inferInstance

/-- The handler of a campaign or of a gift finds what it relies on: a grid is given away, and is
cleared for a season or a union, while it is idle; a campaign ends once and then waits for nothing;
an army of a union finds the grid unprotected; and no campaign is forgotten before its end. -/
def orderly (settings : MapSettings) : Guard StarMap Request Task Reply where
  onRequest request map _ :=
    match request with
    | .checkBattleStart campaignId _ =>
        ∀ campaign ∈ map.getCampaign campaignId, campaign.isEnd = false →
          campaign.campaignEndTick < map.clock → (map.accept settings request).2 = []
    | .doMatchSeasonEndClear cfgId =>
        (map.accept settings request).2 = [] → ∀ status ∈ map.statusOf cfgId, status = .idle
    | .dissolveUnionHandle cfgId unionId =>
        (map.accept settings request).2 = [] → ∀ grid ∈ map.grids cfgId,
          grid.owner.unionId = unionId → grid.status = .idle
    | .clearCampaigns => ∀ campaign ∈ map.campaigns, campaign.outdated map.clock → campaign.isEnd
    | _ => True
  onReply task reply map _ :=
    match task.call, reply with
    | .calcBattleResult attack, .battle result remainBuilds =>
        (attack.armyType = .union ∨ attack.attacker.playerId ∈ map.pidToNode) →
          map.EndsOnce settings task.handler attack result remainBuilds
    | .getPlayerNodeByPid pid (.endBattle attack result remainBuilds), .node known =>
        (map.setNode pid known).EndsOnce settings task.handler attack result remainBuilds
    | .takeStarmapCampaignArmy _, .allowed true =>
        map.statusOf task.handler.cfgId ≠ some .protect
    | .getUnionMember _ _, .member (some _) => map.statusOf task.handler.cfgId = some .idle
    | .handBack _ _, .done | .getPlayerNodeByPid _ _, .node _ =>
        task.handler.runner = .free → (map.resume settings task reply).2 = [] →
          ∀ status ∈ map.statusOf task.handler.cfgId, status = .idle
    | _, _ => True

instance (settings : MapSettings) (request map others) :
    Decidable ((orderly settings).onRequest request map others) := by
  unfold orderly
  dsimp only
  split <;> infer_instance

instance (settings : MapSettings) (task reply map others) :
    Decidable ((orderly settings).onReply task reply map others) := by
  unfold orderly
  dsimp only
  split <;> infer_instance

/-- No document is under battle, and exactly those with a protection are protected. -/
def Docs.Settled (docs : Docs) : Prop :=
  ∀ doc ∈ docs.docs, doc.status ≠ .battle ∧ (doc.status = .protect ↔ doc.protectEndTick ≠ 0)
  deriving Decidable

/-- What the status of a grid rests on. -/
structure Look where
  status : GridStatus
  protectEndTick : ℤ
  clock : ℤ

def look (grid : Grid) : Look :=
  ⟨grid.status, grid.protectEndTick, grid.clock⟩

/-- Id, grid and end of a campaign. -/
def Campaign.brief (campaign : Campaign) : ℕ × ℕ × Bool :=
  (campaign.campaignId, campaign.gridCfgId, campaign.isEnd)

/-- Every grid looks as `change` says, and the campaigns are the same. -/
structure Shift (change : ℕ → Look → Look) (map mid : StarMap) : Prop where
  looks : ∀ cfgId, (mid.grids cfgId).map look =
    (map.grids cfgId).map fun grid => change cfgId (look grid)
  campaigns : mid.campaigns.map Campaign.brief = map.campaigns.map Campaign.brief
  uuid : mid.uuid = map.uuid
  clock : mid.clock = map.clock

/-- Nothing that the status rests on has changed. -/
abbrev Same : StarMap → StarMap → Prop :=
  Shift fun _ grid => grid

/-- One grid is idle, and nothing else has changed. -/
abbrev Idles (cfgId : ℕ) : StarMap → StarMap → Prop :=
  Shift fun id grid => if id = cfgId then { grid with status := .idle } else grid

namespace Shift

theorem refl (map : StarMap) : Same map map :=
  ⟨fun _ => rfl, rfl, rfl, rfl⟩

theorem trans {first second : ℕ → Look → Look} {map mid last : StarMap}
    (before : Shift first map mid) (after : Shift second mid last) :
    Shift (fun cfgId grid => second cfgId (first cfgId grid)) map last where
  looks cfgId := by
    have first_looks := before.looks cfgId
    rw [after.looks]
    cases found : mid.grids cfgId <;> cases start : map.grids cfgId <;> simp_all
  campaigns := after.campaigns.trans before.campaigns
  uuid := after.uuid.trans before.uuid
  clock := after.clock.trans before.clock

theorem modifyGrid (map : StarMap) (cfgId : ℕ) {change : Grid → Grid} {shift : Look → Look}
    (looks : ∀ grid, look (change grid) = shift (look grid)) :
    Shift (fun id grid => if id = cfgId then shift grid else grid) map
      (map.modifyGrid cfgId change) where
  looks id := by
    simp only [StarMap.modifyGrid]
    cases map.grids id <;> by_cases same : id = cfgId <;> simp [same, looks]
  campaigns := rfl
  uuid := rfl
  clock := rfl

theorem modifyGrid_same (map : StarMap) (cfgId : ℕ) {change : Grid → Grid}
    (looks : ∀ grid, look (change grid) = look grid) : Same map (map.modifyGrid cfgId change) where
  looks id := by
    simp only [StarMap.modifyGrid]
    cases map.grids id <;> by_cases same : id = cfgId <;> simp [same, looks]
  campaigns := rfl
  uuid := rfl
  clock := rfl

theorem setGrid_same {map : StarMap} {cfgId : ℕ} {old new : Grid}
    (found : map.grids cfgId = some old) (looks : look new = look old) :
    Same map (map.setGrid cfgId new) where
  looks id := by
    by_cases same : id = cfgId
    · simp [StarMap.setGrid, same, found, looks]
    · simp only [StarMap.setGrid, same, ↓reduceIte]
  campaigns := rfl
  uuid := rfl
  clock := rfl

theorem modifyCampaign_same (map : StarMap) (campaignId : ℕ) {change : Campaign → Campaign}
    (brief : ∀ campaign, (change campaign).brief = campaign.brief) :
    Same map (map.modifyCampaign campaignId change) where
  looks _ := rfl
  campaigns := by
    simp only [StarMap.modifyCampaign, List.map_map]
    refine List.map_congr_left fun campaign _ => ?_
    by_cases same : campaign.campaignId = campaignId <;> simp [same, brief]
  uuid := rfl
  clock := rfl

end Shift

namespace StarMap

variable (settings : MapSettings) (handler : Handler) {map : StarMap}

theorem same_done (map : StarMap) : Same map (map.done handler).1 := by
  unfold done
  cases handler.runner with
  | lock => exact ⟨fun _ => rfl, rfl, rfl, rfl⟩
  | campaign campaignId => exact .modifyCampaign_same map campaignId fun _ => rfl
  | free => exact .refl map

theorem same_addGridOwnerCache (owner : Owner) (cfgId : ℕ) (map : StarMap) :
    Same map (map.addGridOwnerCache owner cfgId) := by
  unfold addGridOwnerCache
  dsimp only
  split <;> exact ⟨fun _ => rfl, rfl, rfl, rfl⟩

theorem same_delGridOwnerCache (owner : Owner) (cfgId : ℕ) (map : StarMap) :
    Same map (map.delGridOwnerCache owner cfgId) := by
  unfold delGridOwnerCache
  dsimp only
  split <;> exact ⟨fun _ => rfl, rfl, rfl, rfl⟩

theorem same_dropOwner (cfgId : ℕ) (map : StarMap) : Same map (map.dropOwner cfgId) := by
  unfold dropOwner
  split
  · exact .refl map
  · split
    · exact same_delGridOwnerCache _ cfgId map
    · exact .refl map

theorem same_takeOwner (cfgId : ℕ) (newOwner : Option NewOwner) (map : StarMap) :
    Same map (map.takeOwner cfgId newOwner) := by
  cases newOwner with
  | none => exact .modifyGrid_same map cfgId fun _ => rfl
  | some newOwner =>
      have owned : Same map (map.modifyGrid cfgId ({ · with owner := newOwner.owner })) :=
        .modifyGrid_same map cfgId fun _ => rfl
      exact owned.trans (same_addGridOwnerCache newOwner.owner cfgId _)

theorem idles_replaceOwner (cfgId : ℕ) (newOwner : Option NewOwner) (map : StarMap) :
    Idles cfgId map (map.replaceOwner settings cfgId newOwner) := by
  have reset : Idles cfgId (map.takeOwner cfgId newOwner)
      (map.replaceOwner settings cfgId newOwner) := .modifyGrid _ cfgId fun _ => rfl
  exact (same_takeOwner cfgId newOwner map).trans reset

end StarMap

structure Linked (map : StarMap) : Prop where
  battle : ∀ cfgId grid, map.grids cfgId = some grid →
    (grid.status = .battle ↔ map.OnGoing cfgId)
  protect : ∀ cfgId grid, map.grids cfgId = some grid →
    (grid.status = .protect ↔ grid.protectEndTick ≠ 0)
  clocks : ∀ cfgId grid, map.grids cfgId = some grid → 0 < grid.clock
  clock : 0 < map.clock
  /-- No grid has two on-going campaigns. -/
  once : ∀ first ∈ map.campaigns, ∀ second ∈ map.campaigns, first.isEnd = false →
    second.isEnd = false → first.gridCfgId = second.gridCfgId →
      first.campaignId = second.campaignId
  ids : (map.campaigns.map (·.campaignId)).Nodup
  fresh : ∀ campaign ∈ map.campaigns, campaign.campaignId < map.uuid
  present : ∀ campaign ∈ map.campaigns, campaign.isEnd = false →
    map.grids campaign.gridCfgId ≠ none

namespace Shift

variable {change : ℕ → Look → Look} {map mid : StarMap}

section

variable (shift : Shift change map mid)
include shift

theorem grid_before {cfgId : ℕ} {grid : Grid} (found : mid.grids cfgId = some grid) :
    ∃ old, map.grids cfgId = some old ∧ look grid = change cfgId (look old) := by
  have looks := shift.looks cfgId
  rw [found] at looks
  cases start : map.grids cfgId with
  | none => simp [start] at looks
  | some old => exact ⟨old, rfl, by simpa [start] using looks⟩

theorem none_iff (cfgId : ℕ) : mid.grids cfgId = none ↔ map.grids cfgId = none := by
  have looks := congrArg Option.isSome (shift.looks cfgId)
  cases found : mid.grids cfgId <;> cases start : map.grids cfgId <;> simp_all

theorem campaign_before {campaign : Campaign} (mem : campaign ∈ mid.campaigns) :
    ∃ old ∈ map.campaigns, old.campaignId = campaign.campaignId ∧
      old.gridCfgId = campaign.gridCfgId ∧ old.isEnd = campaign.isEnd := by
  have brief_mem : campaign.brief ∈ map.campaigns.map Campaign.brief :=
    shift.campaigns ▸ List.mem_map_of_mem mem
  obtain ⟨old, old_mem, brief_eq⟩ := List.mem_map.mp brief_mem
  simp only [Campaign.brief, Prod.mk.injEq] at brief_eq
  exact ⟨old, old_mem, brief_eq.1, brief_eq.2.1, brief_eq.2.2⟩

theorem campaign_after {campaign : Campaign} (mem : campaign ∈ map.campaigns) :
    ∃ later ∈ mid.campaigns, later.campaignId = campaign.campaignId ∧
      later.gridCfgId = campaign.gridCfgId ∧ later.isEnd = campaign.isEnd := by
  have brief_mem : campaign.brief ∈ mid.campaigns.map Campaign.brief :=
    shift.campaigns ▸ List.mem_map_of_mem mem
  obtain ⟨later, later_mem, brief_eq⟩ := List.mem_map.mp brief_mem
  simp only [Campaign.brief, Prod.mk.injEq] at brief_eq
  exact ⟨later, later_mem, brief_eq.1, brief_eq.2.1, brief_eq.2.2⟩

theorem onGoing_iff (cfgId : ℕ) : mid.OnGoing cfgId ↔ map.OnGoing cfgId := by
  rw [StarMap.onGoing_iff, StarMap.onGoing_iff]
  constructor
  · rintro ⟨campaign, mem, site, goes_on⟩
    obtain ⟨old, old_mem, _, site_eq, end_eq⟩ := shift.campaign_before mem
    exact ⟨old, old_mem, site_eq.trans site, end_eq.trans goes_on⟩
  · rintro ⟨campaign, mem, site, goes_on⟩
    obtain ⟨later, later_mem, _, site_eq, end_eq⟩ := shift.campaign_after mem
    exact ⟨later, later_mem, site_eq.trans site, end_eq.trans goes_on⟩

theorem ids_eq : mid.campaigns.map (·.campaignId) = map.campaigns.map (·.campaignId) := by
  have ids := congrArg (List.map Prod.fst) shift.campaigns
  simpa [List.map_map, Function.comp_def, Campaign.brief] using ids

end

end Shift

theorem look_eq {first second : Grid} (same : look first = look second) :
    first.status = second.status ∧ first.protectEndTick = second.protectEndTick ∧
      first.clock = second.clock := by
  simpa [look] using same

theorem Linked.same {map mid : StarMap} (linked : Linked map) (same : Same map mid) :
    Linked mid where
  battle cfgId grid found := by
    obtain ⟨old, start, looks⟩ := same.grid_before found
    rw [(look_eq looks).1, same.onGoing_iff]
    exact linked.battle cfgId old start
  protect cfgId grid found := by
    obtain ⟨old, start, looks⟩ := same.grid_before found
    rw [(look_eq looks).1, (look_eq looks).2.1]
    exact linked.protect cfgId old start
  clocks cfgId grid found := by
    obtain ⟨old, start, looks⟩ := same.grid_before found
    rw [(look_eq looks).2.2]
    exact linked.clocks cfgId old start
  clock := same.clock ▸ linked.clock
  once first first_mem second second_mem first_on second_on sites := by
    obtain ⟨old, old_mem, id_eq, site_eq, end_eq⟩ := same.campaign_before first_mem
    obtain ⟨other, other_mem, other_id, other_site, other_end⟩ := same.campaign_before second_mem
    rw [← id_eq, ← other_id]
    exact linked.once old old_mem other other_mem (end_eq.trans first_on)
      (other_end.trans second_on) (by rw [site_eq, other_site, sites])
  ids := same.ids_eq ▸ linked.ids
  fresh campaign mem := by
    obtain ⟨old, old_mem, id_eq, _, _⟩ := same.campaign_before mem
    rw [same.uuid, ← id_eq]
    exact linked.fresh old old_mem
  present campaign mem goes_on := by
    obtain ⟨old, old_mem, _, site_eq, end_eq⟩ := same.campaign_before mem
    rw [Ne, same.none_iff, ← site_eq]
    exact linked.present old old_mem (end_eq.trans goes_on)

theorem Shift.same_of_idle {map mid : StarMap} {cfgId : ℕ} (idles : Idles cfgId map mid)
    (idle : ∀ status ∈ map.statusOf cfgId, status = .idle) : Same map mid where
  looks id := by
    rw [idles.looks]
    cases found : map.grids id with
    | none => rfl
    | some grid =>
        by_cases same : id = cfgId
        · subst same
          have is_idle := idle grid.status (by simp [StarMap.statusOf, found])
          simp [look, is_idle]
        · simp [same]
  campaigns := idles.campaigns
  uuid := idles.uuid
  clock := idles.clock

end BasWar.Starmap.Owners
