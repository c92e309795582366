import BasWar.Starmap.GridStatusRun

/-!
# Every orderly run keeps the status of a grid

The invariant is kept by each request and by each answer.  A gift of a protected grid shows what
happens otherwise.
-/

namespace BasWar.Starmap.Owners

open Cooperative

section Requests

variable {settings : MapSettings} {others : List Task} {map mid : StarMap}

theorem keeps_quiet (linked : Linked mid) (knows : ∀ other ∈ others, Knows mid other) :
    statusPool.Keeps others (mid, []) :=
  ⟨linked, knows, by simp, by simp, .nil⟩

theorem keeps_same (holds : statusPool.Holds ⟨map, others⟩) (same : Same map mid)
    (locked : mid.locked = map.locked) : statusPool.Keeps others (mid, []) :=
  keeps_quiet (holds.shared.same same) fun other mem => (holds.own other mem).same same locked

theorem take_ready {cfgId : ℕ} (holds : statusPool.Holds ⟨map, others⟩)
    (unlocked : cfgId ∉ map.locked) :
    Ready ⟨cfgId, .lock⟩ others { map with locked := insert cfgId map.locked } where
  linked := holds.shared.same ⟨fun _ => rfl, rfl, rfl, rfl⟩
  knows other mem := (holds.own other mem).mono (fun held _ => Finset.mem_insert_of_mem held)
    (fun _ => Iff.rfl) (fun _ => id) le_rfl fun campaign found _ => ⟨campaign, found, rfl, rfl⟩
  alone _ other mem lock same := by
    have knows := holds.own other mem
    simp only [statusPool, Knows, lock] at knows
    have held : other.handler.cfgId = cfgId := same.symm
    exact unlocked (held ▸ knows.1)
  held _ := Finset.mem_insert_self _ _

theorem free_ready (cfgId : ℕ) (holds : statusPool.Holds ⟨map, others⟩) :
    Ready ⟨cfgId, .free⟩ others map :=
  ⟨holds.shared, holds.own, nofun, nofun⟩

section

variable (holds : statusPool.Holds ⟨map, others⟩)
include holds

theorem startBattle_keeps (cfgId : ℕ) (attack : Attack) :
    statusPool.Keeps others (map.startBattle settings cfgId attack) := by
  unfold StarMap.startBattle
  split
  · exact .ended holds
  · rename_i goes_on
    have ready := take_ready holds (not_or.mp goes_on).1
    cases found : map.grids cfgId with
    | none =>
        refine ready.wait ?_
        simp only [Knows]
        exact ⟨ready.held rfl, found⟩
    | some grid => exact checkStart_keeps ready rfl attack

theorem checkBattleStart_keeps (campaignId : ℕ) (remainBuilds : List ℕ)
    (allows : (orderly settings).onRequest (.checkBattleStart campaignId remainBuilds) map others) :
    statusPool.Keeps others (map.checkBattleStart settings campaignId remainBuilds) := by
  have nothing : ∀ campaign ∈ map.getCampaign campaignId, campaign.isEnd = false →
      campaign.campaignEndTick < map.clock →
        (map.checkBattleStart settings campaignId remainBuilds).2 = [] := allows
  revert nothing
  unfold StarMap.checkBattleStart
  cases found : map.getCampaign campaignId with
  | none => exact fun _ => .ended holds
  | some campaign =>
      obtain ⟨mem, rfl⟩ := mem_getCampaign found
      dsimp only
      split
      · exact fun _ => .ended holds
      · rename_i goes_on
        split
        · rename_i late
          intro nothing
          refine endBattle_keeps (free_ready campaign.gridCfgId holds) nofun mem
            (by simpa using goes_on) rfl (.inr rfl) ?_
          exact nothing campaign rfl (by simpa using goes_on) late
        · intro _
          split
          · exact .ended holds
          · split
            · exact .ended holds
            · rename_i attack queue _
              have same : Same map (map.modifyCampaign campaign.campaignId fun campaign =>
                  { campaign with battleQueue := queue, fighting := true }) :=
                .modifyCampaign_same map _ fun _ => rfl
              have ready : Ready ⟨campaign.gridCfgId, .campaign campaign.campaignId⟩ others map :=
                ⟨holds.shared, holds.own, nofun, nofun⟩
              refine (ready.same same rfl).wait ?_
              simp only [Knows]
              refine ⟨holds.shared.fresh campaign mem, fun other other_mem id_eq => ?_⟩
              obtain ⟨old, old_mem, old_id, site_eq, _⟩ := same.campaign_before other_mem
              rw [← site_eq]
              exact congrArg Campaign.gridCfgId
                (List.inj_on_of_nodup_map holds.shared.ids old_mem mem (old_id.trans id_eq))

theorem giveUpMyGrid_keeps (pid cfgId : ℕ) :
    statusPool.Keeps others (map.giveUpMyGrid settings pid cfgId) := by
  unfold StarMap.giveUpMyGrid
  cases found : map.grids cfgId with
  | none => exact .ended holds
  | some grid =>
      dsimp only
      split
      · exact .ended holds
      · rename_i goes_on
        obtain ⟨unlocked, _, rest, _⟩ := by simpa only [not_or] using goes_on
        have ready := take_ready holds unlocked
        have idle : StarMap.statusOf { map with locked := insert cfgId map.locked } cfgId =
            some .idle := by
          simpa [StarMap.statusOf, found] using rest
        split
        · split
          · exact .ended holds
          · exact storeNftBuilds_giveUp_keeps ready rfl idle pid
        · split
          · refine ready.wait ?_
            simp only [Knows]
            exact ⟨ready.held rfl, idle⟩
          · exact .ended holds

theorem giftWithMyGrid_keeps (pid cfgId toPid : ℕ) :
    statusPool.Keeps others (map.giftWithMyGrid pid cfgId toPid) := by
  unfold StarMap.giftWithMyGrid
  cases found : map.grids cfgId with
  | none => exact .ended holds
  | some grid =>
      dsimp only
      split
      · exact .ended holds
      · rename_i goes_on
        have ready := take_ready holds (not_or.mp goes_on).1
        refine ready.wait ?_
        simp only [Knows]
        exact ⟨ready.held rfl, trivial⟩

end

theorem same_updateOwnerInfo (pid unionId : ℕ) (gridCfgIds : List ℕ) (map : StarMap) :
    Same map (gridCfgIds.foldl
      (fun map cfgId => map.modifyGrid cfgId (updateOwnerInfo pid unionId)) map) ∧
    (gridCfgIds.foldl
      (fun map cfgId => map.modifyGrid cfgId (updateOwnerInfo pid unionId)) map).locked =
        map.locked := by
  induction gridCfgIds generalizing map with
  | nil => exact ⟨.refl map, rfl⟩
  | cons cfgId gridCfgIds ih =>
      have first : Same map (map.modifyGrid cfgId (updateOwnerInfo pid unionId)) := by
        refine .modifyGrid_same map cfgId fun grid => ?_
        unfold updateOwnerInfo
        split <;> rfl
      obtain ⟨later, locked⟩ := ih (map.modifyGrid cfgId (updateOwnerInfo pid unionId))
      exact ⟨first.trans later, locked⟩

theorem same_updatePersonalGrids (pid unionId : ℕ) (map : StarMap) :
    Same map (StarMap.accept settings (.updatePersonalGrids pid unionId) map).1 where
  looks cfgId := by
    simp only [StarMap.accept]
    split
    · cases map.grids cfgId with
      | none => rfl
      | some grid =>
          simp only [Option.map_some, updatePersonalGrid]
          split <;> rfl
    · rfl
  campaigns := rfl
  uuid := rfl
  clock := rfl

/-- A check of the protection makes a protected grid idle, and no other one. -/
theorem checkProtectTimeout_keeps (holds : statusPool.Holds ⟨map, others⟩) (cfgId : ℕ) :
    statusPool.Keeps others (map.modifyGrid cfgId checkProtectTimeout, []) := by
  have shift : Shift (fun id grid =>
      if id = cfgId then
        if grid.protectEndTick = 0 ∨ grid.clock < grid.protectEndTick then grid
        else { grid with protectEndTick := 0, status := .idle }
      else grid) map (map.modifyGrid cfgId checkProtectTimeout) := by
    refine .modifyGrid map cfgId fun grid => ?_
    by_cases rests : grid.protectEndTick = 0 ∨ grid.clock < grid.protectEndTick <;>
      simp [checkProtectTimeout, look, rests]
  have linked := holds.shared
  have cases_of : ∀ id grid, (map.modifyGrid cfgId checkProtectTimeout).grids id = some grid →
      ∃ old, map.grids id = some old ∧ (look grid = look old ∨
        (old.status = .protect ∧ grid.status = .idle ∧ grid.protectEndTick = 0 ∧
          grid.clock = old.clock)) := by
    intro id grid found
    obtain ⟨old, start, looks⟩ := shift.grid_before found
    refine ⟨old, start, ?_⟩
    by_cases here : id = cfgId
    · simp only [here, ↓reduceIte] at looks
      split at looks
      · exact .inl looks
      · rename_i past
        simp only [look, Look.mk.injEq] at looks
        exact .inr ⟨(linked.protect id old start).mpr (not_or.mp past).1, looks.1, looks.2.1,
          looks.2.2⟩
    · simp only [here, ↓reduceIte] at looks
      exact .inl looks
  refine keeps_quiet ⟨?_, ?_, ?_, linked.clock, linked.once, linked.ids, linked.fresh, ?_⟩ ?_
  · intro id grid found
    obtain ⟨old, start, looks | ⟨was, status, _, _⟩⟩ := cases_of id grid found
    · rw [(look_eq looks).1, shift.onGoing_iff]
      exact linked.battle id old start
    · have battle := linked.battle id old start
      rw [was] at battle
      rw [status, shift.onGoing_iff]
      exact iff_of_false (by simp) fun on_going => absurd (battle.mpr on_going) (by simp)
  · intro id grid found
    obtain ⟨old, start, looks | ⟨_, status, ticks, _⟩⟩ := cases_of id grid found
    · rw [(look_eq looks).1, (look_eq looks).2.1]
      exact linked.protect id old start
    · simp [status, ticks]
  · intro id grid found
    obtain ⟨old, start, looks | ⟨_, _, _, clock⟩⟩ := cases_of id grid found
    · exact (look_eq looks).2.2 ▸ linked.clocks id old start
    · exact clock ▸ linked.clocks id old start
  · intro campaign mem goes_on
    rw [Ne, shift.none_iff]
    exact linked.present campaign mem goes_on
  · intro other mem
    refine (holds.own other mem).mono (fun held _ => held) (fun _ => shift.none_iff _)
      (fun _ idle => ?_) le_rfl fun campaign found _ => ⟨campaign, found, rfl, rfl⟩
    obtain ⟨old, start, status⟩ := Option.map_eq_some_iff.mp idle
    cases found : (map.modifyGrid cfgId checkProtectTimeout).grids other.handler.cfgId with
    | none => simp [(shift.none_iff _).mp found] at start
    | some grid =>
        obtain ⟨_, same, looks | ⟨was, _, _, _⟩⟩ := cases_of _ grid found
        · obtain rfl := Option.some.inj (start.symm.trans same)
          simp [StarMap.statusOf, found, (look_eq looks).1, status]
        · obtain rfl := Option.some.inj (start.symm.trans same)
          exact absurd (status.symm.trans was) (by decide)

theorem clearCampaigns_keeps (holds : statusPool.Holds ⟨map, others⟩)
    (past : ∀ campaign ∈ map.campaigns, campaign.outdated map.clock → campaign.isEnd) :
    statusPool.Keeps others
      ({ map with campaigns := map.campaigns.filter (!·.outdated map.clock) }, []) := by
  have linked := holds.shared
  have on_going_iff : ∀ cfgId, StarMap.OnGoing
      { map with campaigns := map.campaigns.filter (!·.outdated map.clock) } cfgId ↔
        map.OnGoing cfgId := by
    intro cfgId
    simp only [StarMap.onGoing_iff, List.mem_filter]
    constructor
    · rintro ⟨campaign, ⟨mem, _⟩, site, goes_on⟩
      exact ⟨campaign, mem, site, goes_on⟩
    · rintro ⟨campaign, mem, site, goes_on⟩
      refine ⟨campaign, ⟨mem, ?_⟩, site, goes_on⟩
      by_contra outdated
      simp [past campaign mem (by simpa using outdated)] at goes_on
  refine keeps_quiet ⟨fun cfgId grid found => ?_, linked.protect, linked.clocks, linked.clock,
    fun first first_mem second second_mem => linked.once first (List.mem_of_mem_filter first_mem)
      second (List.mem_of_mem_filter second_mem), ?_, fun campaign mem =>
      linked.fresh campaign (List.mem_of_mem_filter mem), fun campaign mem =>
      linked.present campaign (List.mem_of_mem_filter mem)⟩ fun other mem => ?_
  · rw [on_going_iff]
    exact linked.battle cfgId grid found
  · exact linked.ids.sublist (List.filter_sublist.map _)
  · exact (holds.own other mem).mono (fun held _ => held) (fun _ => Iff.rfl) (fun _ => id) le_rfl
      fun campaign found _ => ⟨campaign, List.mem_of_mem_filter found, rfl, rfl⟩

theorem elapse_keeps (holds : statusPool.Holds ⟨map, others⟩) (seconds : ℕ) :
    statusPool.Keeps others (StarMap.accept settings (.elapse seconds) map) := by
  have linked := holds.shared
  have grid_before : ∀ cfgId grid,
      (StarMap.accept settings (.elapse seconds) map).1.grids cfgId = some grid →
        ∃ old, map.grids cfgId = some old ∧
          { old with clock := old.clock + 1000 * seconds } = grid := fun cfgId grid found =>
    Option.map_eq_some_iff.mp found
  refine keeps_quiet ⟨?_, ?_, ?_, ?_, linked.once, linked.ids, linked.fresh, ?_⟩ ?_
  · intro cfgId grid found
    obtain ⟨old, start, rfl⟩ := grid_before cfgId grid found
    exact linked.battle cfgId old start
  · intro cfgId grid found
    obtain ⟨old, start, rfl⟩ := grid_before cfgId grid found
    exact linked.protect cfgId old start
  · intro cfgId grid found
    obtain ⟨old, start, rfl⟩ := grid_before cfgId grid found
    have clock := linked.clocks cfgId old start
    dsimp only
    omega
  · have clock : 0 < map.clock := linked.clock
    change 0 < map.clock + 1000 * (seconds : ℤ)
    omega
  · intro campaign mem goes_on gone
    exact linked.present campaign mem goes_on (Option.map_eq_none_iff.mp gone)
  · intro other mem
    refine (holds.own other mem).mono (fun held _ => held) (fun _ => Option.map_eq_none_iff)
      (fun _ idle => ?_) le_rfl fun campaign found _ => ⟨campaign, found, rfl, rfl⟩
    obtain ⟨old, start, status⟩ := Option.map_eq_some_iff.mp idle
    refine Option.map_eq_some_iff.mpr ⟨_, Option.map_eq_some_iff.mpr ⟨old, start, rfl⟩, status⟩

end Requests

section Service

variable {settings : MapSettings} {others : List Task} {map : StarMap}

theorem statusPool_accept (request : Request) (holds : statusPool.Holds ⟨map, others⟩)
    (allows : (orderly settings).onRequest request map others) :
    statusPool.Keeps others ((starmapService settings).accept request map) := by
  cases request with
  | startBattle cfgId attack => exact startBattle_keeps holds cfgId attack
  | checkBattleStart campaignId remainBuilds =>
      exact checkBattleStart_keeps holds campaignId remainBuilds allows
  | giveUpMyGrid pid cfgId => exact giveUpMyGrid_keeps holds pid cfgId
  | giftWithMyGrid pid cfgId toPid => exact giftWithMyGrid_keeps holds pid cfgId toPid
  | doMatchSeasonEndClear cfgId =>
      exact storeNftBuilds_clear_keeps (free_ready cfgId holds) rfl (.inl rfl) allows
  | dissolveUnionHandle cfgId unionId =>
      have idle : (StarMap.accept settings (.dissolveUnionHandle cfgId unionId) map).2 = [] →
          ∀ grid ∈ map.grids cfgId, grid.owner.unionId = unionId → grid.status = .idle := allows
      revert idle
      simp only [starmapService, StarMap.accept]
      split
      · rename_i owns
        intro idle
        refine storeNftBuilds_clear_keeps (free_ready cfgId holds) rfl (.inr rfl)
          fun ends status mem => ?_
        obtain ⟨grid, found, rfl⟩ := Option.map_eq_some_iff.mp mem
        have owner : grid.owner.unionId = unionId := by
          simpa only [found, Option.any_some, decide_eq_true_eq] using owns
        exact idle ends grid found owner
      · exact fun _ => .ended holds
  | enterStarmap pid unionId gridCfgIds =>
      obtain ⟨same, locked⟩ := same_updateOwnerInfo pid unionId gridCfgIds map
      exact keeps_same holds same locked
  | updatePersonalGrids pid unionId =>
      exact keeps_same holds (@same_updatePersonalGrids settings pid unionId map) rfl
  | setBuilds cfgId builds =>
      exact keeps_same holds (.modifyGrid_same map cfgId fun _ => rfl) rfl
  | checkProtectTimeout cfgId => exact checkProtectTimeout_keeps holds cfgId
  | clearCampaigns => exact clearCampaigns_keeps holds allows
  | elapse seconds => exact @elapse_keeps settings _ _ holds seconds

theorem task_ready {task : Task} (holds : statusPool.Holds ⟨map, others⟩)
    (knows : Knows map task) (apart : ∀ other ∈ others, Apart task other) :
    Ready task.handler others map where
  linked := holds.shared
  knows := holds.own
  alone lock other mem other_lock := apart other mem lock other_lock
  held lock := by
    simp only [Knows, lock] at knows
    exact knows.1

theorem mem_of_campaignGoesOn {campaignId : ℕ} (goes_on : map.campaignGoesOn campaignId = true) :
    ∃ ended ∈ map.campaigns, ended.campaignId = campaignId ∧ ended.isEnd = false := by
  unfold StarMap.campaignGoesOn at goes_on
  cases found : map.getCampaign campaignId with
  | none => simp [found] at goes_on
  | some ended =>
      obtain ⟨mem, id_eq⟩ := mem_getCampaign found
      exact ⟨ended, mem, id_eq, by simpa [found] using goes_on⟩

theorem battleDone_keeps {cfgId campaignId : ℕ} {attack : Attack} {result : BattleResult}
    {remainBuilds : List ℕ} (ready : Ready ⟨cfgId, .campaign campaignId⟩ others map)
    (site : ∀ campaign ∈ map.campaigns, campaign.campaignId = campaignId →
      campaign.gridCfgId = cfgId)
    (once : map.EndsOnce settings ⟨cfgId, .campaign campaignId⟩ attack result remainBuilds) :
    statusPool.Keeps others
      (map.battleDone settings ⟨cfgId, .campaign campaignId⟩ attack result remainBuilds) := by
  have ends_of : (result = .win ∨ result = .unknow) → statusPool.Keeps others
      (map.battleDone settings ⟨cfgId, .campaign campaignId⟩ attack result remainBuilds) := by
    intro ends
    obtain ⟨goes_on, nothing⟩ := once ends
    obtain ⟨ended, mem, rfl, still⟩ := mem_of_campaignGoesOn (goes_on campaignId rfl)
    refine endBattle_keeps ready nofun mem still (site ended mem rfl) ?_ nothing
    exact ends.imp (⟨·, rfl⟩) id
  cases result with
  | unknow => exact ends_of (.inr rfl)
  | win => exact ends_of (.inl rfl)
  | lose => exact ready.done
  | offline => exact ready.done

theorem battled_keeps {handler : Handler} {attack : Attack} {result : BattleResult}
    {remainBuilds : List ℕ} (ready : Ready handler others map)
    (knows : Knows map ⟨handler, .calcBattleResult attack⟩)
    (once : (attack.armyType = .union ∨ attack.attacker.playerId ∈ map.pidToNode) →
      map.EndsOnce settings handler attack result remainBuilds) :
    statusPool.Keeps others (map.battled settings handler attack result remainBuilds) := by
  rcases handler with ⟨cfgId, runner⟩
  cases runner with
  | lock => exact knows.2.elim
  | free => exact knows.elim
  | campaign campaignId =>
      unfold StarMap.battled
      cases army : attack.armyType with
      | union => exact battleDone_keeps ready knows.2 (once (.inl army))
      | self =>
          dsimp only
          by_cases known : attack.attacker.playerId ∈ map.pidToNode
          · have sent : map.send ⟨cfgId, .campaign campaignId⟩ attack.attacker.playerId
                (.endBattle attack result remainBuilds)
                (StarMap.battleDone settings ⟨cfgId, .campaign campaignId⟩ attack result
                  remainBuilds) =
                map.battleDone settings ⟨cfgId, .campaign campaignId⟩ attack result
                  remainBuilds := by
              simp [StarMap.send, known]
            rw [sent]
            exact battleDone_keeps ready knows.2 (once (.inr known))
          · have waits : map.send ⟨cfgId, .campaign campaignId⟩ attack.attacker.playerId
                (.endBattle attack result remainBuilds)
                (StarMap.battleDone settings ⟨cfgId, .campaign campaignId⟩ attack result
                  remainBuilds) =
                map.wait ⟨cfgId, .campaign campaignId⟩
                  (.getPlayerNodeByPid attack.attacker.playerId
                    (.endBattle attack result remainBuilds)) := by
              simp [StarMap.send, known, attack.attacker.playerId_ne]
            rw [waits]
            exact ready.wait knows

/-- A handler goes on once the node of a player is known or not found. -/
theorem goOn_keeps {handler : Handler} {pid : ℕ} {next : Next} (ready : Ready handler others map)
    (knows : Knows map ⟨handler, .getPlayerNodeByPid pid next⟩)
    (idle : handler.runner = .free → (map.goOn settings handler next).2 = [] →
      ∀ status ∈ map.statusOf handler.cfgId, status = .idle)
    (once : ∀ attack result remainBuilds, next = .endBattle attack result remainBuilds →
      map.EndsOnce settings handler attack result remainBuilds) :
    statusPool.Keeps others (map.goOn settings handler next) := by
  rcases handler with ⟨cfgId, runner⟩
  cases runner with
  | campaign campaignId =>
      cases next with
      | endBattle attack result remainBuilds =>
          exact battleDone_keeps ready knows.2 (once attack result remainBuilds rfl)
      | _ => exact knows.elim
  | lock =>
      obtain ⟨_, calm, status⟩ := knows
      cases next with
      | giveUp => exact giveUp_keeps ready rfl status
      | changeOwner newOwner after =>
          exact changeOwner_keeps newOwner ready
            (.inl ⟨rfl, by simpa [Next.calm] using calm, status⟩)
      | setOwner newOwner after =>
          exact setOwner_keeps newOwner ready
            (.inl ⟨rfl, by simpa [Next.calm] using calm, status⟩)
      | resetGrid after =>
          have idles : Idles cfgId map
              (map.modifyGrid cfgId (resetGrid (settings.row cfgId) true)) :=
            .modifyGrid map cfgId fun _ => rfl
          have same := idles.same_of_idle (by simp [status])
          refine afterwards_keeps (ready.same same rfl)
            (.inl ⟨rfl, by simpa [Next.calm] using calm, ?_⟩)
          rw [same.idle_of_same, status]
      | tell pids => exact tell_keeps ready rfl status pids
      | checkRoom attack => exact absurd calm (by simp [Next.calm])
      | endBattle attack result remainBuilds => exact absurd calm (by simp [Next.calm])
  | free =>
      have leaves : next.leaves := knows
      have idle := idle rfl
      revert leaves idle
      cases next with
      | changeOwner newOwner after =>
          cases after with
          | leave =>
              exact fun _ idle => changeOwner_keeps newOwner ready (.inr ⟨rfl, rfl, idle⟩)
          | protect => exact fun leaves => absurd leaves Bool.false_ne_true
          | tell pids => exact fun leaves => absurd leaves Bool.false_ne_true
      | setOwner newOwner after =>
          cases after with
          | leave => exact fun _ idle => setOwner_keeps newOwner ready (.inr ⟨rfl, rfl, idle⟩)
          | protect => exact fun leaves => absurd leaves Bool.false_ne_true
          | tell pids => exact fun leaves => absurd leaves Bool.false_ne_true
      | resetGrid after =>
          cases after with
          | leave =>
              intro _ idle
              have idles : Idles cfgId map
                  (map.modifyGrid cfgId (resetGrid (settings.row cfgId) true)) :=
                .modifyGrid map cfgId fun _ => rfl
              have same := idles.same_of_idle (idle (StarMap.done_tasks _ _))
              exact (ready.same same rfl).done
          | protect => exact fun leaves => absurd leaves Bool.false_ne_true
          | tell pids => exact fun leaves => absurd leaves Bool.false_ne_true
      | giveUp => exact fun leaves => absurd leaves Bool.false_ne_true
      | checkRoom attack => exact fun leaves => absurd leaves Bool.false_ne_true
      | tell pids => exact fun leaves => absurd leaves Bool.false_ne_true
      | endBattle attack result remainBuilds => exact fun leaves => absurd leaves Bool.false_ne_true

/-- Calls that only the handlers of startBattle, giveUpMyGrid and giftWithMyGrid make. -/
def Call.OfLocked : Call → Prop
  | .findOne _ | .update _ | .takeStarmapCampaignArmy _ | .getUnionIdByPid _
  | .checkUnionJobCanPutBuild _ | .getUnionMember _ _ | .handBack (.giveUpMyGrid _) _ => True
  | _ => False

theorem statusPool_resume (task : Task) (reply : Reply) (holds : statusPool.Holds ⟨map, others⟩)
    (knows : Knows map task) (apart : ∀ other ∈ others, Apart task other)
    (allows : (orderly settings).onReply task reply map others) :
    statusPool.Keeps others ((starmapService settings).resume task reply map) := by
  have ready := task_ready holds knows apart
  have unchanged : statusPool.Keeps others (map, [task]) := .unchanged holds knows apart
  rcases task with ⟨handler, call⟩
  have locked : ∀ {call : Call}, Knows map ⟨handler, call⟩ → call.OfLocked →
      handler.runner = .lock := by
    intro call knows makes
    rcases handler with ⟨cfgId, runner⟩
    cases runner with
    | lock => rfl
    | campaign campaignId => cases call <;> simp_all [Knows, Call.OfLocked]
    | free =>
        cases call with
        | handBack drop rest => cases drop <;> simp_all [Knows, Call.OfLocked]
        | _ => simp_all [Knows, Call.OfLocked]
  cases reply with
  | raise => cases call <;> exact ready.done
  | done =>
      cases call with
      | update attack =>
          have lock := locked knows trivial
          have gone := knows
          simp only [Knows, lock] at gone
          exact checkStart_keeps (registerGrid_ready ready lock gone.2) lock attack
      | handBack drop rest =>
          have waits : ∀ later, Knows map ⟨handler, .handBack drop later⟩ := by
            rcases handler with ⟨cfgId, _ | campaignId | _⟩ <;> cases drop <;> exact fun _ => knows
          rcases StarMap.handBackAll_cases settings handler map drop rest with
            ⟨later, again⟩ | finishes
          · simp only [starmapService, StarMap.resume, again]
            exact ready.wait (waits later)
          · have idle : handler.runner = .free → (map.finish settings handler drop).2 = [] →
                ∀ status ∈ map.statusOf handler.cfgId, status = .idle := finishes ▸ allows
            simp only [starmapService, StarMap.resume, finishes]
            rcases handler with ⟨cfgId, runner⟩
            cases runner with
            | campaign campaignId => exact absurd knows (by simp [Knows])
            | lock =>
                cases drop with
                | giveUpMyGrid pid => exact finish_giveUp_keeps ready rfl knows.2 pid
                | doMatchSeasonEndClear => exact knows.2.elim
                | dissolveUnionHandle => exact knows.2.elim
                | campaignWin attack ownerPid => exact knows.2.elim
                | campaignUnknow delBuilds => exact knows.2.elim
            | free =>
                cases drop with
                | giveUpMyGrid pid => exact knows.elim
                | doMatchSeasonEndClear => exact finish_clear_keeps ready rfl (.inl rfl) (idle rfl)
                | dissolveUnionHandle => exact finish_clear_keeps ready rfl (.inr rfl) (idle rfl)
                | campaignWin attack ownerPid => exact knows.elim
                | campaignUnknow delBuilds => exact knows.elim
      | _ => exact unchanged
  | found yes =>
      cases call with
      | findOne attack =>
          have lock := locked knows trivial
          have gone := knows
          simp only [Knows, lock] at gone
          simp only [starmapService, StarMap.resume]
          split
          · exact checkStart_keeps (registerGrid_ready ready lock gone.2) lock attack
          · refine ready.wait ?_
            simp only [Knows, lock]
            exact gone
      | _ => exact unchanged
  | allowed yes =>
      cases call with
      | takeStarmapCampaignArmy attack =>
          have lock := locked knows trivial
          have present := knows
          simp only [Knows, lock] at present
          cases yes with
          | true => exact fight_keeps ready lock present.2 allows attack
          | false => exact ready.done
      | checkUnionJobCanPutBuild pid =>
          have lock := locked knows trivial
          have idle := knows
          simp only [Knows, lock] at idle
          cases yes with
          | true => exact storeNftBuilds_giveUp_keeps ready lock idle.2 pid
          | false => exact ready.done
      | _ => exact unchanged
  | unionId unionId =>
      cases call with
      | getUnionIdByPid pid =>
          have lock := locked knows trivial
          have idle := knows
          simp only [Knows, lock] at idle
          simp only [starmapService, StarMap.resume, StarMap.askedUnion]
          split
          · exact ready.done
          · split
            · exact ready.done
            · refine ready.wait ?_
              simp only [Knows, lock]
              exact idle
      | _ => exact unchanged
  | member member =>
      cases call with
      | getUnionMember pid toPid =>
          have lock := locked knows trivial
          cases member with
          | none => exact ready.done
          | some member => exact gift_keeps ready lock allows pid toPid member
      | _ => cases member <;> exact unchanged
  | node known =>
      cases call with
      | getPlayerNodeByPid pid next =>
          have same : Same map (map.setNode pid known) := by
            unfold StarMap.setNode
            split
            · exact ⟨fun _ => rfl, rfl, rfl, rfl⟩
            · exact .refl map
          have locked_eq : (map.setNode pid known).locked = map.locked := by
            unfold StarMap.setNode
            split <;> rfl
          refine goOn_keeps (ready.same same locked_eq) (knows.same same locked_eq) ?_ ?_
          · intro free
            rw [same.idle_of_same]
            cases next with
            | endBattle attack result remainBuilds =>
                obtain ⟨cfgId, runner⟩ := handler
                obtain rfl : runner = .free := free
                exact absurd knows Bool.false_ne_true
            | _ => exact allows free
          · rintro attack result remainBuilds rfl
            exact allows
      | _ => exact unchanged
  | battle result remainBuilds =>
      cases call with
      | calcBattleResult attack => exact battled_keeps ready knows allows
      | _ => exact unchanged

theorem statusPool_kept (settings : MapSettings) :
    statusPool.KeptBy (starmapService settings) (orderly settings) where
  accept request _ _ := statusPool_accept request
  resume task reply _ _ holds knows apart allows :=
    statusPool_resume task reply holds knows apart allows

end Service

theorem linked_empty {clock : ℤ} (epoch : 0 < clock) : Linked (.empty clock) :=
  ⟨nofun, nofun, nofun, epoch, nofun, .nil, nofun, nofun⟩

theorem linked_init (settings : MapSettings) {docs : Docs} (settled : docs.Settled) {clock : ℤ}
    (epoch : 0 < clock) : Linked (StarMap.init settings docs clock) := by
  have rounds : ∀ (list : List Doc) (map : StarMap), Linked map → map.campaigns = [] →
      (∀ doc ∈ list, doc.status ≠ .battle ∧
        (doc.status = .protect ↔ doc.protectEndTick ≠ 0)) →
        Linked (list.foldl (StarMap.initDoc settings) map) := by
    intro list
    induction list with
    | nil => exact fun _ linked _ _ => linked
    | cons doc list ih =>
        intro map linked quiet settled
        obtain ⟨not_battle, protect⟩ := settled doc (by simp)
        suffices first : Linked (StarMap.initDoc settings map doc) ∧
            (StarMap.initDoc settings map doc).campaigns = [] from
          ih _ first.1 first.2 fun other mem => settled other (List.mem_cons_of_mem _ mem)
        unfold StarMap.initDoc
        split
        · have loaded : Linked
              (map.setGrid doc.cfgId (deserialize (settings.row doc.cfgId) map.clock doc)) := by
            have grid_cases : ∀ cfgId grid, (map.setGrid doc.cfgId
                (deserialize (settings.row doc.cfgId) map.clock doc)).grids cfgId = some grid →
                  grid = deserialize (settings.row doc.cfgId) map.clock doc ∨
                    map.grids cfgId = some grid := by
              intro cfgId grid found
              by_cases here : cfgId = doc.cfgId
              · exact .inl (by simpa [StarMap.setGrid, here] using found.symm)
              · exact .inr (by simpa [StarMap.setGrid, here] using found)
            have nowhere : ∀ cfgId, ¬ (map.setGrid doc.cfgId
                (deserialize (settings.row doc.cfgId) map.clock doc)).OnGoing cfgId := by
              intro cfgId
              simp [StarMap.onGoing_iff, StarMap.setGrid, quiet]
            refine ⟨?_, ?_, ?_, linked.clock, linked.once, linked.ids, linked.fresh, ?_⟩
            · intro cfgId grid found
              rcases grid_cases cfgId grid found with rfl | old
              · exact iff_of_false not_battle (nowhere cfgId)
              · exact linked.battle cfgId grid old
            · intro cfgId grid found
              rcases grid_cases cfgId grid found with rfl | old
              · exact protect
              · exact linked.protect cfgId grid old
            · intro cfgId grid found
              rcases grid_cases cfgId grid found with rfl | old
              · exact linked.clock
              · exact linked.clocks cfgId grid old
            · simp [StarMap.setGrid, quiet]
          dsimp only
          split <;> split <;>
            exact ⟨loaded.same ⟨fun _ => rfl, rfl, rfl, rfl⟩, quiet⟩
        · exact ⟨linked, quiet⟩
  exact rounds docs.docs (.empty clock) (linked_empty epoch) rfl settled

theorem Knows.idle_of_givesUp {map : StarMap} {task : Task} (knows : Knows map task)
    (gives_up : task.givesUp) : map.statusOf task.handler.cfgId = some .idle := by
  rcases task with ⟨⟨cfgId, runner⟩, call⟩
  revert gives_up
  simp only [Task.givesUp]
  split
  all_goals first
    | exact fun _ => knows.2
    | exact fun _ => knows.2.2
    | nofun

theorem statusMachine_of_holds {config : Config StarMap Task} (holds : statusPool.Holds config) :
    StatusMachine config where
  battle := holds.shared.battle
  protect := holds.shared.protect
  checked cfgId grid found status := by
    have unprotected : grid.protectEndTick = 0 := by
      by_contra ticks
      have protect := (holds.shared.protect cfgId grid found).mpr ticks
      simp [status] at protect
    simp [checkProtectTimeout, unprotected, status]
  refused cfgId grid pid found status settings := by
    simp [StarMap.giveUpMyGrid, found, status]
  notGivenUp task mem gives_up on_going := by
    have idle := (holds.own task mem).idle_of_givesUp gives_up
    obtain ⟨grid, found, status⟩ := Option.map_eq_some_iff.mp idle
    have battle := (holds.shared.battle _ grid found).mpr on_going
    simp [status] at battle

/-- After every orderly run the status of each grid says what goes on there. -/
theorem statusMachine_run (settings : MapSettings) (docs : Docs) (settled : docs.Settled)
    (clock : ℤ) (epoch : 0 < clock) (events : List (Event Request Reply))
    (admits : (orderly settings).Admits (starmapService settings)
      (starmapStart settings docs clock) events) :
    StatusMachine ((starmapService settings).run (starmapStart settings docs clock) events) :=
  statusMachine_of_holds ((statusPool_kept settings).holds_run admits
    ⟨linked_init settings settled epoch, by simp [starmapStart], by simp [starmapStart]⟩)

def sampleMap : MapSettings where
  isGrid cfgId := cfgId = 1
  row _ := { sampleSettings with protectTime := 3600, abandonGridCD := 15000 }
  protectTime_nonneg _ := by decide
  campaignTime _ := 300
  gridUnionMax := 2
  gridPlayerMax _ := 2

def samplePlayer : Player := ⟨7, 5, by decide⟩

def sampleDocs : Docs := ⟨[], by decide⟩

def wonRun : List (Event Request Reply) :=
  [.request (.startBattle 1 ⟨samplePlayer, .self, 0⟩), .reply 0 (.found false), .reply 0 .done,
    .request (.checkBattleStart 0 []), .reply 0 (.battle .win []), .reply 0 (.node true)]

theorem statusMachine_wonRun :
    ((starmapService sampleMap).run (starmapStart sampleMap sampleDocs 1000) wonRun).state.statusOf
        1 = some .protect ∧
      StatusMachine
        ((starmapService sampleMap).run (starmapStart sampleMap sampleDocs 1000) wonRun) :=
  ⟨by decide +kernel, statusMachine_run sampleMap sampleDocs (by decide) 1000 (by decide) wonRun
    (by decide +kernel)⟩

/-- Player 7 gives the protected grid to player 8, who is attacked before the protection ends. -/
def giftedRun : List (Event Request Reply) :=
  wonRun ++
    [.request (.giftWithMyGrid 7 1 8), .reply 0 (.member (some ⟨8, 5, by decide⟩)),
      .reply 0 (.node true), .request (.elapse 3400),
      .request (.startBattle 1 ⟨⟨9, 6, by decide⟩, .self, 0⟩), .request (.elapse 250),
      .request (.checkProtectTimeout 1)]

/-- The grid is idle under battle. -/
theorem not_statusMachine_giftedRun :
    ¬ StatusMachine
      ((starmapService sampleMap).run (starmapStart sampleMap sampleDocs 1000) giftedRun) := by
  intro machine
  have idle : ((starmapService sampleMap).run (starmapStart sampleMap sampleDocs 1000)
      giftedRun).state.statusOf 1 = some .idle := by decide +kernel
  have on_going : ((starmapService sampleMap).run (starmapStart sampleMap sampleDocs 1000)
      giftedRun).state.OnGoing 1 := by decide +kernel
  obtain ⟨grid, found, status⟩ := Option.map_eq_some_iff.mp idle
  have battle := (machine.battle 1 grid found).mpr on_going
  exact absurd (status.symm.trans battle) (by decide)

end BasWar.Starmap.Owners
