import BasWar.Starmap.GridStatuses

/-!
# The end of a campaign and the status of its grid

A campaign that ends without waiting leaves its grid idle or protected.  A campaign that starts
finds no other one on its grid.
-/

namespace BasWar.Starmap.Owners

/-- One grid is left idle or protected, and nothing else has changed. -/
structure Settles (cfgId : ℕ) (map mid : StarMap) : Prop where
  others : ∀ id, id ≠ cfgId → (mid.grids id).map look = (map.grids id).map look
  settled : ∀ grid, mid.grids cfgId = some grid → ∃ old, map.grids cfgId = some old ∧
    grid.clock = old.clock ∧
      ((grid.status = .idle ∧ grid.protectEndTick = old.protectEndTick) ∨
        (grid.status = .protect ∧ old.clock ≤ grid.protectEndTick))
  present : map.grids cfgId ≠ none → mid.grids cfgId ≠ none
  campaigns : mid.campaigns.map Campaign.brief = map.campaigns.map Campaign.brief
  uuid : mid.uuid = map.uuid
  clock : mid.clock = map.clock
  locked : mid.locked = map.locked

namespace Settles

variable {cfgId : ℕ} {map mid last : StarMap}

theorem absent (gone : map.grids cfgId = none) : Settles cfgId map map where
  others _ _ := rfl
  settled grid found := by simp [gone] at found
  present held := absurd gone held
  campaigns := rfl
  uuid := rfl
  clock := rfl
  locked := rfl

theorem after_same (same : Same map mid) (locked : mid.locked = map.locked)
    (settles : Settles cfgId mid last) : Settles cfgId map last where
  others id away := (settles.others id away).trans (same.looks id)
  settled grid found := by
    obtain ⟨old, start, clock, ends⟩ := settles.settled grid found
    obtain ⟨first, first_found, looks⟩ := same.grid_before start
    obtain ⟨_, tick_eq, clock_eq⟩ := look_eq looks
    rw [tick_eq, clock_eq] at ends
    exact ⟨first, first_found, clock.trans clock_eq, ends⟩
  present held := settles.present fun gone => held ((same.none_iff cfgId).mp gone)
  campaigns := settles.campaigns.trans same.campaigns
  uuid := settles.uuid.trans same.uuid
  clock := settles.clock.trans same.clock
  locked := settles.locked.trans locked

theorem of_idles (idles : Idles cfgId map mid) (locked : mid.locked = map.locked) :
    Settles cfgId map mid where
  others id away := by
    rw [idles.looks]
    simp [away]
  settled grid found := by
    obtain ⟨old, start, looks⟩ := idles.grid_before found
    simp only [↓reduceIte, look, Look.mk.injEq] at looks
    exact ⟨old, start, looks.2.2, .inl ⟨looks.1, looks.2.1⟩⟩
  present held gone := held ((idles.none_iff cfgId).mp gone)
  campaigns := idles.campaigns
  uuid := idles.uuid
  clock := idles.clock
  locked := locked

theorem of_protect (settings : MapSettings) (idles : Idles cfgId map mid)
    (locked : mid.locked = map.locked) :
    Settles cfgId map (mid.modifyGrid cfgId (·.setProtectTick (settings.row cfgId))) where
  others id away := by
    simp only [StarMap.modifyGrid, away, ↓reduceIte]
    rw [idles.looks]
    simp [away]
  settled grid found := by
    simp only [StarMap.modifyGrid, ↓reduceIte, Option.map_eq_some_iff] at found
    obtain ⟨reset, reset_found, rfl⟩ := found
    obtain ⟨old, start, looks⟩ := idles.grid_before reset_found
    simp only [↓reduceIte, look, Look.mk.injEq] at looks
    refine ⟨old, start, looks.2.2, .inr ⟨rfl, ?_⟩⟩
    have nonneg := settings.protectTime_nonneg cfgId
    simp only [Grid.setProtectTick, looks.2.2]
    omega
  present held gone := by
    simp only [StarMap.modifyGrid, ↓reduceIte, Option.map_eq_none_iff] at gone
    exact held ((idles.none_iff cfgId).mp gone)
  campaigns := idles.campaigns
  uuid := idles.uuid
  clock := idles.clock
  locked := locked

end Settles

section Ends

variable (settings : MapSettings) (handler : Handler) (map : StarMap)

def EndsSettled (handler : Handler) (map : StarMap) (result : StarMap × List Task) : Prop :=
  ∃ mid, Settles handler.cfgId map mid ∧ result = mid.done handler

variable {settings handler map}

theorem EndsSettled.after_same {mid : StarMap} {result : StarMap × List Task}
    (ends : EndsSettled handler mid result) (same : Same map mid)
    (locked : mid.locked = map.locked) : EndsSettled handler map result := by
  obtain ⟨last, settles, result_eq⟩ := ends
  exact ⟨last, settles.after_same same locked, result_eq⟩

theorem StarMap.wait_tasks {handler : Handler} {call : Call} {map : StarMap} :
    (map.wait handler call).2 ≠ [] := by
  simp [StarMap.wait]

theorem changeOwner_ends {newOwner : Option NewOwner} {after : After}
    (after_eq : after = .leave ∨ after = .protect)
    (nothing : (map.changeOwner settings handler newOwner after).2 = []) :
    EndsSettled handler map (map.changeOwner settings handler newOwner after) := by
  have same := StarMap.same_dropOwner handler.cfgId map
  have locked := StarMap.dropOwner_locked handler.cfgId map
  rcases StarMap.changeOwner_cases settings handler map newOwner after with
    ⟨gone, ends⟩ | ⟨grid, _, ⟨_, waits⟩ | sets⟩
  · exact ⟨map, .absent gone, ends⟩
  · exact absurd (waits ▸ nothing) StarMap.wait_tasks
  · rcases StarMap.setOwner_cases settings handler (map.dropOwner handler.cfgId) newOwner after
      with ⟨player, _, waits⟩ | ends
    · rw [sets, waits] at nothing
      exact absurd nothing StarMap.wait_tasks
    · have idles := StarMap.idles_replaceOwner settings handler.cfgId newOwner
        (map.dropOwner handler.cfgId)
      have idles_locked := StarMap.replaceOwner_locked settings handler.cfgId newOwner
        (map.dropOwner handler.cfgId)
      rw [sets, ends]
      rcases after_eq with rfl | rfl
      · exact ⟨_, (Settles.of_idles idles idles_locked).after_same same locked, rfl⟩
      · exact ⟨_, (Settles.of_protect settings idles idles_locked).after_same same locked, rfl⟩

theorem checkRoom_ends {attack : Attack}
    (nothing : (map.checkRoom settings handler attack).2 = []) :
    EndsSettled handler map (map.checkRoom settings handler attack) := by
  revert nothing
  unfold StarMap.checkRoom
  split
  · rcases StarMap.send_cases handler map attack.attacker.playerId
      (.changeOwner (some ⟨attack.attacker, true⟩) .protect)
      (StarMap.changeOwner settings handler (some ⟨attack.attacker, true⟩) .protect) with
      sent | ⟨_, waits⟩
    · rw [sent]
      exact changeOwner_ends (.inr rfl)
    · rw [waits]
      exact fun nothing => absurd nothing StarMap.wait_tasks
  · exact changeOwner_ends (.inl rfl)

theorem campaignWin_ends {attack : Attack} {ownerPid : ℕ}
    (nothing : (map.campaignWin settings handler attack ownerPid).2 = []) :
    EndsSettled handler map (map.campaignWin settings handler attack ownerPid) := by
  revert nothing
  unfold StarMap.campaignWin
  split
  · split
    · rcases StarMap.send_cases handler map ownerPid (.checkRoom attack)
        (StarMap.checkRoom settings handler attack) with sent | ⟨_, waits⟩
      · rw [sent]
        exact checkRoom_ends
      · rw [waits]
        exact fun nothing => absurd nothing StarMap.wait_tasks
    · exact checkRoom_ends
  · split
    · exact changeOwner_ends (.inr rfl)
    · exact changeOwner_ends (.inl rfl)

theorem campaignUnknow_ends {delBuilds : List ℕ}
    (nothing : (map.campaignUnknow settings handler delBuilds).2 = []) :
    EndsSettled handler map (map.campaignUnknow settings handler delBuilds) := by
  have idles : Idles handler.cfgId map (map.modifyGrid handler.cfgId fun grid =>
      { grid with builds := grid.builds.filter (·.id ∉ delBuilds), status := .idle }) :=
    .modifyGrid map handler.cfgId fun _ => rfl
  have settles := Settles.of_idles idles rfl
  revert nothing
  unfold StarMap.campaignUnknow
  dsimp only
  split
  · intro nothing
    obtain ⟨mid, ends, result_eq⟩ := changeOwner_ends (.inl rfl) nothing
    refine ⟨mid, ?_, result_eq⟩
    refine ⟨fun id away => (ends.others id away).trans (settles.others id away), ?_,
      fun held => ends.present (settles.present held), ends.campaigns.trans settles.campaigns,
      ends.uuid.trans settles.uuid, ends.clock.trans settles.clock,
      ends.locked.trans settles.locked⟩
    intro grid found
    obtain ⟨middle, middle_found, clock, ends⟩ := ends.settled grid found
    obtain ⟨old, start, looks⟩ := idles.grid_before middle_found
    simp only [↓reduceIte, look, Look.mk.injEq] at looks
    rw [looks.2.1, looks.2.2] at ends
    exact ⟨old, start, clock.trans looks.2.2, ends⟩
  · exact fun _ => ⟨_, settles, rfl⟩

theorem finish_ends {drop : Drop} (ends : (∃ attack ownerPid, drop = .campaignWin attack ownerPid) ∨
    ∃ delBuilds, drop = .campaignUnknow delBuilds)
    (nothing : (map.finish settings handler drop).2 = []) :
    EndsSettled handler map (map.finish settings handler drop) := by
  rcases ends with ⟨attack, ownerPid, rfl⟩ | ⟨delBuilds, rfl⟩
  · exact campaignWin_ends nothing
  · exact campaignUnknow_ends nothing

theorem onCampaignEnd_ends {result : BattleResult} {attack : Option Attack}
    {remainBuilds : List ℕ} (ended : (result = .win ∧ attack.isSome) ∨ result = .unknow)
    (nothing : (map.onCampaignEnd settings handler result attack remainBuilds).2 = []) :
    EndsSettled handler map (map.onCampaignEnd settings handler result attack remainBuilds) := by
  revert nothing
  unfold StarMap.onCampaignEnd
  cases found : map.grids handler.cfgId with
  | none => exact fun _ => ⟨map, .absent found, rfl⟩
  | some grid =>
      rcases ended with ⟨rfl, fought⟩ | rfl
      · obtain ⟨attack, rfl⟩ := Option.isSome_iff_exists.mp fought
        dsimp only
        have same : Same map (map.setGrid handler.cfgId
            (grid.costDefenceBuildLife (settings.row handler.cfgId) remainBuilds)) := by
          refine .setGrid_same found ?_
          unfold Grid.costDefenceBuildLife
          split <;> rfl
        rcases StarMap.storeNftBuilds_cases settings handler (map.setGrid handler.cfgId
          (grid.costDefenceBuildLife (settings.row handler.cfgId) remainBuilds))
          (.campaignWin attack grid.owner.playerId) with
          ⟨gone, _⟩ | ⟨rest, waits⟩ | finishes
        · simp [StarMap.setGrid] at gone
        · rw [waits]
          exact fun nothing => absurd nothing StarMap.wait_tasks
        · rw [finishes]
          exact fun nothing => (finish_ends (.inl ⟨attack, _, rfl⟩) nothing).after_same same rfl
      · dsimp only
        unfold StarMap.handleNftsLife
        rw [found]
        dsimp only
        split
        · exact finish_ends (.inr ⟨_, rfl⟩)
        · have same : Same map (map.setGrid handler.cfgId
              (grid.costLife (settings.row handler.cfgId) remainBuilds)) := .setGrid_same found rfl
          rcases StarMap.handBackAll_cases settings handler (map.setGrid handler.cfgId
            (grid.costLife (settings.row handler.cfgId) remainBuilds))
            (.campaignUnknow (((grid.costLife (settings.row handler.cfgId) remainBuilds).delBuilds
              remainBuilds).map (·.id)))
            ((grid.costLife (settings.row handler.cfgId) remainBuilds).lifePlan remainBuilds) with
            ⟨later, waits⟩ | finishes
          · rw [waits]
            exact fun nothing => absurd nothing StarMap.wait_tasks
          · rw [finishes]
            exact fun nothing => (finish_ends (.inr ⟨_, rfl⟩) nothing).after_same same rfl

end Ends

theorem mem_endCampaign {map : StarMap} {campaignId : ℕ} {campaign : Campaign}
    (mem : campaign ∈ (map.endCampaign campaignId).campaigns) :
    ∃ old ∈ map.campaigns, old.campaignId = campaign.campaignId ∧
      old.gridCfgId = campaign.gridCfgId ∧
        ((old.campaignId = campaignId ∧ campaign.isEnd = true) ∨
          (old.campaignId ≠ campaignId ∧ old.isEnd = campaign.isEnd)) := by
  obtain ⟨old, old_mem, rfl⟩ := List.mem_map.mp mem
  refine ⟨old, old_mem, ?_⟩
  by_cases same : old.campaignId = campaignId <;> simp [same]

theorem endCampaign_ids (map : StarMap) (campaignId : ℕ) :
    (map.endCampaign campaignId).campaigns.map (·.campaignId) =
      map.campaigns.map (·.campaignId) := by
  simp only [StarMap.endCampaign, StarMap.modifyCampaign, List.map_map]
  refine List.map_congr_left fun campaign _ => ?_
  by_cases same : campaign.campaignId = campaignId <;> simp [same]

theorem onGoing_endCampaign {map : StarMap} (linked : Linked map) {ended : Campaign}
    (ended_mem : ended ∈ map.campaigns) (cfgId : ℕ) :
    (map.endCampaign ended.campaignId).OnGoing cfgId ↔
      map.OnGoing cfgId ∧ (cfgId = ended.gridCfgId → ended.isEnd = true) := by
  rw [StarMap.onGoing_iff, StarMap.onGoing_iff]
  constructor
  · rintro ⟨campaign, mem, site, goes_on⟩
    obtain ⟨old, old_mem, id_eq, site_eq, ⟨_, past⟩ | ⟨differs, end_eq⟩⟩ := mem_endCampaign mem
    · simp [past] at goes_on
    · refine ⟨⟨old, old_mem, site_eq.trans site, end_eq.trans goes_on⟩, fun here => ?_⟩
      by_contra still
      refine differs (linked.once old old_mem ended ended_mem (end_eq.trans goes_on)
        (by simpa using still) ?_)
      rw [site_eq, site, here]
  · rintro ⟨⟨campaign, mem, site, goes_on⟩, past⟩
    have differs : campaign.campaignId ≠ ended.campaignId := by
      intro id_eq
      have same := List.inj_on_of_nodup_map linked.ids mem ended_mem id_eq
      subst same
      simp [past site.symm] at goes_on
    refine ⟨campaign, List.mem_map.mpr ⟨campaign, mem, by simp [differs]⟩, site, goes_on⟩

/-- The grid of a campaign that ends without waiting is idle or protected. -/
theorem Linked.ended {map mid : StarMap} (linked : Linked map) {ended : Campaign}
    (mem : ended ∈ map.campaigns) (goes_on : ended.isEnd = false)
    (settles : Settles ended.gridCfgId (map.endCampaign ended.campaignId) mid) : Linked mid := by
  have on_going : map.OnGoing ended.gridCfgId :=
    StarMap.onGoing_iff.mpr ⟨ended, mem, rfl, goes_on⟩
  have not_on_going : ¬ (map.endCampaign ended.campaignId).OnGoing ended.gridCfgId := by
    rw [onGoing_endCampaign linked mem]
    simp [goes_on]
  have shift : Shift (fun _ grid => grid) (map.endCampaign ended.campaignId)
      { mid with grids := (map.endCampaign ended.campaignId).grids } :=
    ⟨fun _ => rfl, settles.campaigns, settles.uuid, settles.clock⟩
  have on_going_iff : ∀ cfgId, mid.OnGoing cfgId ↔
      (map.endCampaign ended.campaignId).OnGoing cfgId := shift.onGoing_iff
  -- Away from the campaign nothing changes.
  have elsewhere : ∀ cfgId, cfgId ≠ ended.gridCfgId → ∀ grid, mid.grids cfgId = some grid →
      ∃ old, map.grids cfgId = some old ∧ look grid = look old := by
    intro cfgId away grid found
    have looks := settles.others cfgId away
    rw [found] at looks
    obtain ⟨old, start, look_eq⟩ := Option.map_eq_some_iff.mp looks.symm
    exact ⟨old, start, look_eq.symm⟩
  refine ⟨?_, ?_, ?_, settles.clock ▸ linked.clock, ?_, ?_, ?_, ?_⟩
  · intro cfgId grid found
    by_cases here : cfgId = ended.gridCfgId
    · subst here
      obtain ⟨old, start, _, ends⟩ := settles.settled grid found
      rw [on_going_iff]
      have not_battle : grid.status ≠ .battle := by
        rcases ends with ⟨status, _⟩ | ⟨status, _⟩ <;> simp [status]
      exact iff_of_false not_battle not_on_going
    · obtain ⟨old, start, looks⟩ := elsewhere cfgId here grid found
      rw [(look_eq looks).1, on_going_iff, onGoing_endCampaign linked mem]
      simpa [here] using linked.battle cfgId old start
  · intro cfgId grid found
    by_cases here : cfgId = ended.gridCfgId
    · subst here
      obtain ⟨old, start, _, ends⟩ := settles.settled grid found
      have battle := (linked.battle _ old start).mpr on_going
      have clock := linked.clocks _ old start
      rcases ends with ⟨status, tick⟩ | ⟨status, tick⟩
      · have unprotected : old.protectEndTick = 0 := by
          by_contra ticks
          have both := (linked.protect _ old start).mpr ticks
          simp [battle] at both
        simp [status, tick, unprotected]
      · have later : grid.protectEndTick ≠ 0 := by omega
        simp [status, later]
    · obtain ⟨old, start, looks⟩ := elsewhere cfgId here grid found
      rw [(look_eq looks).1, (look_eq looks).2.1]
      exact linked.protect cfgId old start
  · intro cfgId grid found
    by_cases here : cfgId = ended.gridCfgId
    · subst here
      obtain ⟨old, start, clock, _⟩ := settles.settled grid found
      exact clock ▸ linked.clocks _ old start
    · obtain ⟨old, start, looks⟩ := elsewhere cfgId here grid found
      exact (look_eq looks).2.2 ▸ linked.clocks cfgId old start
  · intro first first_mem second second_mem first_on second_on sites
    obtain ⟨first', first'_mem, first_id, first_site, first_end⟩ := shift.campaign_before first_mem
    obtain ⟨second', second'_mem, second_id, second_site, second_end⟩ :=
      shift.campaign_before second_mem
    obtain ⟨old, old_mem, old_id, old_site, ⟨_, past⟩ | ⟨_, old_end⟩⟩ := mem_endCampaign first'_mem
    · simp [first_end.symm.trans past] at first_on
    · obtain ⟨other, other_mem, other_id, other_site, ⟨_, past⟩ | ⟨_, other_end⟩⟩ :=
        mem_endCampaign second'_mem
      · simp [second_end.symm.trans past] at second_on
      · rw [← first_id, ← second_id, ← old_id, ← other_id]
        refine linked.once old old_mem other other_mem ?_ ?_ ?_
        · rw [old_end, first_end, first_on]
        · rw [other_end, second_end, second_on]
        · rw [old_site, first_site, sites, ← second_site, ← other_site]
  · rw [shift.ids_eq, endCampaign_ids]
    exact linked.ids
  · intro campaign campaign_mem
    obtain ⟨middle, middle_mem, id_eq, _, _⟩ := shift.campaign_before campaign_mem
    obtain ⟨old, old_mem, old_id, _, _⟩ := mem_endCampaign middle_mem
    rw [settles.uuid, ← id_eq, ← old_id]
    exact linked.fresh old old_mem
  · intro campaign campaign_mem still
    obtain ⟨middle, middle_mem, _, site_eq, end_eq⟩ := shift.campaign_before campaign_mem
    obtain ⟨old, old_mem, _, old_site, ⟨_, past⟩ | ⟨_, old_end⟩⟩ := mem_endCampaign middle_mem
    · simp [end_eq.symm.trans past] at still
    · have present := linked.present old old_mem (by rw [old_end, end_eq, still])
      rw [old_site, site_eq] at present
      by_cases here : campaign.gridCfgId = ended.gridCfgId
      · rw [here] at present ⊢
        exact settles.present present
      · intro gone
        have looks := settles.others _ here
        rw [gone] at looks
        exact present (Option.map_eq_none_iff.mp looks.symm)

theorem Linked.created {settings : MapSettings} {map : StarMap} {cfgId : ℕ} (linked : Linked map)
    (free : ¬ map.OnGoing cfgId) (present : map.grids cfgId ≠ none)
    (unprotected : map.statusOf cfgId ≠ some .protect) :
    Linked (map.createCampaign settings cfgId) := by
  have shift : Shift (fun id grid => if id = cfgId then { grid with status := .battle } else grid)
      map (map.modifyGrid cfgId ({ · with status := .battle })) :=
    .modifyGrid map cfgId fun _ => rfl
  have grids_eq : (map.createCampaign settings cfgId).grids =
      (map.modifyGrid cfgId ({ · with status := .battle })).grids := rfl
  have on_going_iff : ∀ id, (map.createCampaign settings cfgId).OnGoing id ↔
      map.OnGoing id ∨ id = cfgId := by
    intro id
    simp only [StarMap.onGoing_iff, StarMap.createCampaign, List.mem_append, List.mem_singleton]
    constructor
    · rintro ⟨campaign, mem | rfl, site, goes_on⟩
      · exact .inl ⟨campaign, mem, site, goes_on⟩
      · exact .inr site.symm
    · rintro (⟨campaign, mem, site, goes_on⟩ | rfl)
      · exact ⟨campaign, .inl mem, site, goes_on⟩
      · exact ⟨_, .inr rfl, rfl, rfl⟩
  refine ⟨?_, ?_, ?_, linked.clock, ?_, ?_, ?_, ?_⟩
  · intro id grid found
    rw [grids_eq] at found
    obtain ⟨old, start, looks⟩ := shift.grid_before found
    rw [on_going_iff]
    by_cases here : id = cfgId
    · simp only [here, ↓reduceIte, look, Look.mk.injEq] at looks
      simp [looks.1, here]
    · simp only [here, ↓reduceIte, look, Look.mk.injEq] at looks
      simpa [here, looks.1] using linked.battle id old start
  · intro id grid found
    rw [grids_eq] at found
    obtain ⟨old, start, looks⟩ := shift.grid_before found
    by_cases here : id = cfgId
    · subst here
      simp only [↓reduceIte, look, Look.mk.injEq] at looks
      have not_protected : old.status ≠ .protect := fun status =>
        unprotected (by simp [StarMap.statusOf, start, status])
      have ticks : old.protectEndTick = 0 := by
        by_contra ticks
        exact not_protected ((linked.protect id old start).mpr ticks)
      simp [looks.1, looks.2.1, ticks]
    · simp only [here, ↓reduceIte, look, Look.mk.injEq] at looks
      simpa [looks.1, looks.2.1] using linked.protect id old start
  · intro id grid found
    rw [grids_eq] at found
    obtain ⟨old, start, looks⟩ := shift.grid_before found
    have clock : grid.clock = old.clock := by
      by_cases here : id = cfgId
      · simp only [here, ↓reduceIte, look, Look.mk.injEq] at looks
        exact looks.2.2
      · simp only [here, ↓reduceIte, look, Look.mk.injEq] at looks
        exact looks.2.2
    exact clock ▸ linked.clocks id old start
  · intro first first_mem second second_mem first_on second_on sites
    have busy : ∀ campaign ∈ map.campaigns, campaign.isEnd = false →
        campaign.gridCfgId ≠ cfgId := fun campaign mem goes_on site =>
      free (StarMap.onGoing_iff.mpr ⟨campaign, mem, site, goes_on⟩)
    rcases List.mem_append.mp first_mem with first_old | first_new
    · rcases List.mem_append.mp second_mem with second_old | second_new
      · exact linked.once first first_old second second_old first_on second_on sites
      · obtain rfl := List.mem_singleton.mp second_new
        exact absurd sites (busy first first_old first_on)
    · obtain rfl := List.mem_singleton.mp first_new
      rcases List.mem_append.mp second_mem with second_old | second_new
      · exact absurd sites.symm (busy second second_old second_on)
      · obtain rfl := List.mem_singleton.mp second_new
        rfl
  · simp only [StarMap.createCampaign, List.map_append, List.map_cons, List.map_nil]
    refine List.nodup_append.mpr ⟨linked.ids, by simp, ?_⟩
    rintro id id_mem other other_mem rfl
    obtain ⟨campaign, mem, rfl⟩ := List.mem_map.mp id_mem
    have issued := linked.fresh campaign mem
    have id_eq := List.mem_singleton.mp other_mem
    omega
  · intro campaign mem
    rcases List.mem_append.mp mem with old | new
    · exact (linked.fresh campaign old).trans (Nat.lt_succ_self _)
    · obtain rfl := List.mem_singleton.mp new
      exact Nat.lt_succ_self _
  · intro campaign mem goes_on
    rw [grids_eq, Ne, shift.none_iff]
    rcases List.mem_append.mp mem with old | new
    · exact linked.present campaign old goes_on
    · obtain rfl := List.mem_singleton.mp new
      exact present

end BasWar.Starmap.Owners
