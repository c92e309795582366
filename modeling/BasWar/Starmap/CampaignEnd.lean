import BasWar.Starmap.Campaign

/-!
# A campaign ends once

`checkBattleStart` and `doBattle` test `isEnd` on entry only.  A campaign that times out while a
battle is being calculated is therefore ended a second time when that battle is won.  As long as
every result arrives before the end, the end is final.
-/

namespace BasWar.Starmap.Campaigns

open Cooperative

/-- The task is a call of `onCampaignEnd` that has not returned. -/
def Task.ending : Task → Bool
  | .onCampaignEnd _ _ => true
  | _ => false

/-- Some call of `onCampaignEnd` has not returned. -/
def EndingWaits (config : Config Campaign Task) : Prop :=
  ∃ task ∈ config.waiting, task.ending

structure SameRecord (early late : Campaign) : Prop where
  isEnd : late.isEnd = early.isEnd
  campaignEnds : late.campaignEnds = early.campaignEnds
  builds : late.builds = early.builds
  reports : late.reports = early.reports
  attackContriDegree : late.attackContriDegree = early.attackContriDegree
  attackerStatistics : late.attackerStatistics = early.attackerStatistics

theorem SameRecord.refl (campaign : Campaign) : SameRecord campaign campaign :=
  ⟨rfl, rfl, rfl, rfl, rfl, rfl⟩

theorem SameRecord.trans {early mid late : Campaign} (first : SameRecord early mid)
    (second : SameRecord mid late) : SameRecord early late where
  isEnd := second.isEnd.trans first.isEnd
  campaignEnds := second.campaignEnds.trans first.campaignEnds
  builds := second.builds.trans first.builds
  reports := second.reports.trans first.reports
  attackContriDegree := second.attackContriDegree.trans first.attackContriDegree
  attackerStatistics := second.attackerStatistics.trans first.attackerStatistics

/-- Nothing has happened to an ended campaign, except that its call of `onCampaignEnd` may have
given the grid its owner and returned. -/
structure Frozen (early late : Config Campaign Task) : Prop where
  record : SameRecord early.state late.state
  owner : late.state.grid.owner = early.state.grid.owner ∨
    EndingWaits early ∧ ¬ EndingWaits late
  ending : EndingWaits late → EndingWaits early

theorem Frozen.refl (config : Config Campaign Task) : Frozen config config :=
  ⟨.refl _, .inl rfl, id⟩

theorem Frozen.trans {early mid late : Config Campaign Task} (first : Frozen early mid)
    (second : Frozen mid late) : Frozen early late where
  record := first.record.trans second.record
  owner := by
    rcases first.owner with same | ⟨waits, returned⟩
    · rcases second.owner with still | ⟨waits, returned⟩
      · exact .inl (still.trans same)
      · exact .inr ⟨first.ending waits, returned⟩
    · exact .inr ⟨waits, fun late_waits => returned (second.ending late_waits)⟩
  ending waits := first.ending (second.ending waits)

/-- A campaign ends at most once, and then nothing changes any more. -/
structure EndsOnce (settings : Settings) (start : Config Campaign Task)
    (events : List (Event Request Reply)) : Prop where
  once : ∀ before after, events = before ++ after →
    ((campaignService settings).run start before).state.campaignEnds.length ≤ 1
  frozen : ∀ before mid after, events = before ++ mid ++ after →
    ((campaignService settings).run start before).state.isEnd →
      Frozen ((campaignService settings).run start before)
        ((campaignService settings).run start (before ++ mid))

/-- The result of a battle arrives while the campaign is still open. -/
def timely : Guard Campaign Request Task Reply where
  onRequest _ _ _ := True
  onReply task reply campaign _ :=
    match task, reply with
    | .calcBattleResult _ _ _, .battle _ => campaign.isEnd = false
    | _, _ => True

/-- The loop of `checkBattleStart` writes the queue and the lock. -/
structure Loops (campaign : Campaign) (result : Campaign × List Task) : Prop where
  writes : ∃ queue threads,
    result.1 = { campaign with battleQueue := queue, threads := threads }
  single : result.2.length ≤ 1
  quiet : ∀ task ∈ result.2, task.ending = false

theorem Loops.stay (campaign : Campaign) : Loops campaign (campaign, []) :=
  ⟨⟨campaign.battleQueue, campaign.threads, rfl⟩, by simp, by simp⟩

variable {campaign : Campaign} {result : Campaign × List Task} {spent : Bool}
  {loop : Option (ℕ × ℕ)} {others : List Task} {config : Config Campaign Task}

theorem Loops.write (queue : List Info) (threads : List ℕ)
    (loops : Loops { campaign with battleQueue := queue, threads := threads } result) :
    Loops campaign result := by
  obtain ⟨⟨later_queue, later_threads, result_eq⟩, single, quiet⟩ := loops
  exact ⟨⟨later_queue, later_threads, result_eq⟩, single, quiet⟩

theorem checkQueue_loops (tick left : ℕ) (campaign : Campaign) :
    Loops campaign (Campaign.checkQueue tick left campaign) := by
  induction left generalizing campaign with
  | zero => exact .stay campaign
  | succ left ih =>
      rw [Campaign.checkQueue]
      split
      case h_1 => exact .stay campaign
      case h_2 info queue _ =>
        split
        case isFalse => exact .stay campaign
        case isTrue =>
          dsimp only
          split
          case isTrue =>
            unfold Campaign.doBattle
            split
            · exact .write queue _ (ih _)
            · exact ⟨⟨queue, _, rfl⟩, by simp, by simp [Task.ending]⟩
          case isFalse => exact ⟨⟨queue, _, rfl⟩, by simp, by simp [Task.ending]⟩

theorem leaveBattle_loops (loop : Option (ℕ × ℕ)) (campaign : Campaign) :
    Loops campaign (campaign.leaveBattle loop) := by
  rcases loop with _ | ⟨tick, left⟩
  · exact .stay campaign
  · exact .write campaign.battleQueue campaign.threads.tail (checkQueue_loops tick left _)

/-- What one segment does to the end of a campaign; `spent` says that the segment goes on with a
call of `onCampaignEnd`. -/
structure Segment (spent : Bool) (campaign : Campaign) (result : Campaign × List Task) : Prop where
  single : result.2.length ≤ 1
  ending : ∀ task ∈ result.2, task.ending →
    result.1.isEnd ∧ (spent = true ∨ campaign.isEnd = false)
  before_end : campaign.isEnd = false → result.1.campaignEnds.length =
    campaign.campaignEnds.length + if result.1.isEnd then 1 else 0
  record : campaign.isEnd → SameRecord campaign result.1
  owner : campaign.isEnd → result.1.grid.owner = campaign.grid.owner ∨
    spent = true ∧ ∀ task ∈ result.2, task.ending = false

theorem Loops.segment (loops : Loops campaign result) : Segment spent campaign result := by
  obtain ⟨⟨queue, threads, result_eq⟩, single, quiet⟩ := loops
  refine ⟨single, fun task task_mem ending => ?_, fun open_now => ?_, fun _ => ?_, fun _ => ?_⟩
  · rw [quiet task task_mem] at ending
    exact absurd ending (by simp)
  · simp [result_eq, open_now]
  · rw [result_eq]
    exact ⟨rfl, rfl, rfl, rfl, rfl, rfl⟩
  · exact .inl (by rw [result_eq])

theorem Segment.apart_from_record {after : Campaign} (record : SameRecord campaign after)
    (owner : after.grid.owner = campaign.grid.owner) :
    Segment spent campaign (after, []) where
  single := by simp
  ending := by simp
  before_end open_now := by simp [record.isEnd, record.campaignEnds, open_now]
  record _ := record
  owner _ := .inl owner

theorem Segment.stay {task : Task} (ended : task.ending → campaign.isEnd) :
    Segment task.ending campaign (campaign, [task]) where
  single := by simp
  ending other other_mem ending := by
    obtain rfl := List.mem_singleton.mp other_mem
    exact ⟨ended ending, .inl ending⟩
  before_end open_now := by simp [open_now]
  record _ := .refl campaign
  owner _ := .inl rfl

theorem awaitGrid_writes (loop : Option (ℕ × ℕ)) (result : Campaign × List Starmap.Task) :
    ∃ queue threads, (Campaign.awaitGrid loop result).1 =
      { result.1 with battleQueue := queue, threads := threads } := by
  unfold Campaign.awaitGrid
  split
  · exact (leaveBattle_loops loop result.1).writes
  · exact ⟨result.1.battleQueue, result.1.threads, rfl⟩

theorem awaitGrid_single {result : Campaign × List Starmap.Task} (single : result.2.length ≤ 1) :
    (Campaign.awaitGrid loop result).2.length ≤ 1 := by
  unfold Campaign.awaitGrid
  split
  · exact (leaveBattle_loops loop result.1).single
  · simpa using single

theorem awaitGrid_quiet {result : Campaign × List Starmap.Task} (none_left : result.2 = []) :
    ∀ task ∈ (Campaign.awaitGrid loop result).2, task.ending = false := by
  rw [Campaign.awaitGrid, if_pos none_left]
  exact (leaveBattle_loops loop result.1).quiet

theorem handBackAll_single (settings : Starmap.Settings) (drop : Drop) (sent : List Build)
    (rest : List HandBack) (grid : Grid) :
    (grid.handBackAll settings drop sent rest).2.length ≤ 1 := by
  cases rest <;> simp [Grid.handBackAll]

theorem onCampaignEnd_single (settings : Starmap.Settings) (campaign : CampaignEnd) (grid : Grid) :
    (grid.onCampaignEnd settings campaign).2.length ≤ 1 := by
  unfold Grid.onCampaignEnd
  split
  · exact handBackAll_single _ _ _ _ _
  · unfold Grid.handleNftsLife
    split <;> exact handBackAll_single _ _ _ _ _
  · simp

theorem proceed_done (settings : Starmap.Settings) (task : Starmap.Task) (grid : Grid) :
    (grid.proceed settings task .done).2 = [] ∨
      (grid.proceed settings task .done).2.length = 1 ∧
        (grid.proceed settings task .done).1.owner = grid.owner := by
  cases task with
  | notUse supplier asked used failed => exact .inl rfl
  | handBack drop sent rest =>
      cases rest with
      | nil => exact .inl rfl
      | cons back rest => exact .inr ⟨rfl, rfl⟩
  | _ => exact .inr ⟨rfl, rfl⟩

theorem elapse_owner (seconds : ℕ) (grid : Grid) : (grid.elapse seconds).owner = grid.owner := by
  unfold Grid.elapse
  dsimp only
  split <;> rfl

theorem updateBuilds_writes (settings : Settings) (results : List (ℕ × ℤ)) (attacker : Owner)
    (campaign : Campaign) :
    ∃ builds attackContriDegree, (campaign.updateBuilds settings results attacker).1 =
      { campaign with builds := builds, attackContriDegree := attackContriDegree } := by
  unfold Campaign.updateBuilds
  split
  · exact ⟨_, _, rfl⟩
  · unfold Campaign.addAttackContriDegree
    dsimp only
    split
    · exact ⟨_, _, rfl⟩
    · exact ⟨_, campaign.attackContriDegree, rfl⟩

theorem battleDone_writes (settings : Settings) (info : Info) (battle : BattleEnd)
    (campaign : Campaign) :
    ∃ builds attackContriDegree maxLoseHp attackerStatistics report,
      campaign.battleDone settings info battle =
        { campaign with
          builds := builds
          attackContriDegree := attackContriDegree
          maxLoseHp := maxLoseHp
          attackerStatistics := attackerStatistics
          sent := costArmyLife settings info battle :: campaign.sent
          reports := campaign.reports ++ [report] } := by
  obtain ⟨builds, attackContriDegree, updated_eq⟩ :=
    updateBuilds_writes settings battle.builds info.attacker campaign
  unfold Campaign.battleDone
  dsimp only
  rw [updated_eq]
  exact ⟨_, _, _, _, _, rfl⟩

/-- `endBattle` leaves the campaign open, or ends it with one call of `onCampaignEnd`. -/
structure EndsBattle (campaign : Campaign) (result : Campaign × List Starmap.Task) : Prop where
  single : result.2.length ≤ 1
  reports : result.1.reports = campaign.reports
  outcome : result.1.isEnd = campaign.isEnd ∧ result.1.campaignEnds = campaign.campaignEnds ∧
      result.2 = [] ∨
    result.1.isEnd = true ∧ result.1.campaignEnds.length = campaign.campaignEnds.length + 1

theorem endCampaign_ends (settings : Settings) (result : BattleResult) (winner : Option Owner)
    (hasRoom : Bool) (campaign : Campaign) :
    EndsBattle campaign (campaign.endCampaign settings result winner hasRoom) where
  single := onCampaignEnd_single _ _ _
  reports := rfl
  outcome := .inr ⟨rfl, rfl⟩

theorem countAttack_writes (attacker : Option Owner) (campaign : Campaign) :
    ∃ statistics, campaign.countAttack attacker =
      { campaign with attackerStatistics := statistics } := by
  cases attacker with
  | none => exact ⟨campaign.attackerStatistics, rfl⟩
  | some attacker => exact ⟨_, rfl⟩

theorem endBattle_ends (settings : Settings) (result : BattleResult) (attacker : Option Owner)
    (hasRoom : Bool) (campaign : Campaign) :
    EndsBattle campaign (campaign.endBattle settings result attacker hasRoom) := by
  obtain ⟨statistics, counted_eq⟩ := countAttack_writes attacker campaign
  have counted : ∀ result winner, EndsBattle campaign
      ((campaign.countAttack attacker).endCampaign settings result winner hasRoom) := by
    intro result winner
    rw [counted_eq]
    have ends := endCampaign_ends settings result winner hasRoom
      { campaign with attackerStatistics := statistics }
    exact ⟨ends.single, ends.reports, ends.outcome⟩
  have goes_on : EndsBattle campaign (campaign.countAttack attacker, []) := by
    rw [counted_eq]
    exact ⟨by simp, rfl, .inl ⟨rfl, rfl, rfl⟩⟩
  cases result with
  | win => exact counted .win attacker
  | unknow => exact counted .unknow none
  | lose => exact goes_on
  | offline => exact goes_on

theorem EndsBattle.segment {result : Campaign × List Starmap.Task}
    (ends : EndsBattle campaign result) (open_now : campaign.isEnd = false) :
    Segment spent campaign (Campaign.awaitGrid loop result) := by
  obtain ⟨queue, threads, result_eq⟩ := awaitGrid_writes loop result
  refine ⟨awaitGrid_single ends.single, fun task task_mem ending => ?_, fun _ => ?_,
    fun ended => ?_, fun ended => ?_⟩
  · refine ⟨?_, .inr open_now⟩
    rcases ends.outcome with ⟨-, -, none_left⟩ | ⟨ended, -⟩
    · rw [awaitGrid_quiet none_left task task_mem] at ending
      exact absurd ending (by simp)
    · rw [result_eq]
      exact ended
  · rw [result_eq]
    rcases ends.outcome with ⟨still_open, same, -⟩ | ⟨ended, one_more⟩
    · simp [same, still_open, open_now]
    · simp [one_more, ended]
  · exact absurd (open_now.symm.trans ended) (by simp)
  · exact absurd (open_now.symm.trans ended) (by simp)

theorem Segment.of_record {mid : Campaign} (segment : Segment spent mid result)
    (record : SameRecord campaign mid) (owner : mid.grid.owner = campaign.grid.owner) :
    Segment spent campaign result where
  single := segment.single
  ending task task_mem ending := by
    rw [← record.isEnd]
    exact segment.ending task task_mem ending
  before_end open_now := by
    rw [← record.campaignEnds]
    exact segment.before_end (record.isEnd.trans open_now)
  record ended := record.trans (segment.record (record.isEnd.trans ended))
  owner ended := by
    rw [← owner]
    exact segment.owner (record.isEnd.trans ended)

theorem accept_segment (settings : Settings) (request : Request) (campaign : Campaign) :
    Segment false campaign (campaign.accept settings request) := by
  cases request with
  | startBattle attacker armyType armyInfos =>
      unfold Campaign.accept Campaign.startBattle
      dsimp only
      split <;> exact .apart_from_record ⟨rfl, rfl, rfl, rfl, rfl, rfl⟩ rfl
  | onSecond =>
      unfold Campaign.accept Campaign.checkBattleStart
      dsimp only
      split
      case isTrue => exact (Loops.stay campaign).segment
      case isFalse open_now =>
        split
        case isTrue =>
          exact (endBattle_ends settings .unknow none false campaign).segment
            (by simpa using open_now)
        case isFalse =>
          exact (checkQueue_loops _ _ _).segment.of_record ⟨rfl, rfl, rfl, rfl, rfl, rfl⟩ rfl
  | elapse seconds =>
      exact .apart_from_record ⟨rfl, rfl, rfl, rfl, rfl, rfl⟩ (elapse_owner seconds campaign.grid)

theorem battle_segment (settings : Settings) (tick : ℕ) (info : Info) (left : ℕ)
    (battle : BattleEnd) (open_now : campaign.isEnd = false) :
    Segment false campaign
      (campaign.resume settings (.calcBattleResult tick info left) (.battle battle)) := by
  obtain ⟨builds, attackContriDegree, maxLoseHp, attackerStatistics, report, done_eq⟩ :=
    battleDone_writes settings info battle campaign
  have ends := endBattle_ends settings battle.result (some info.attacker) battle.hasRoom
    (campaign.battleDone settings info battle)
  unfold Campaign.resume
  dsimp only
  rw [done_eq] at ends ⊢
  have segment : Segment false _ (Campaign.awaitGrid (some (tick, left)) _) :=
    ends.segment open_now
  exact {
    single := segment.single
    ending := fun task task_mem ending => ⟨(segment.ending task task_mem ending).1, .inr open_now⟩
    before_end := segment.before_end
    record := fun ended => absurd (open_now.symm.trans ended) (by simp)
    owner := fun ended => absurd (open_now.symm.trans ended) (by simp) }

theorem grid_segment (settings : Settings) (loop : Option (ℕ × ℕ)) (task : Starmap.Task)
    (ended : campaign.isEnd) :
    Segment true campaign
      (campaign.resume settings (.onCampaignEnd loop task) .done) := by
  unfold Campaign.resume
  dsimp only
  obtain ⟨queue, threads, result_eq⟩ := awaitGrid_writes loop
    ({ campaign with grid := (campaign.grid.proceed settings.grid task .done).1 },
      (campaign.grid.proceed settings.grid task .done).2)
  refine ⟨awaitGrid_single ?_, fun _ _ _ => ⟨?_, .inl rfl⟩, fun open_now => ?_, fun _ => ?_,
    fun _ => ?_⟩
  · rcases proceed_done settings.grid task campaign.grid with none_left | ⟨one_left, -⟩
    · simp [none_left]
    · exact one_left.le
  · rw [result_eq]
    exact ended
  · exact absurd (open_now.symm.trans ended) (by simp)
  · rw [result_eq]
    exact ⟨rfl, rfl, rfl, rfl, rfl, rfl⟩
  · rcases proceed_done settings.grid task campaign.grid with none_left | ⟨-, same⟩
    · exact .inr ⟨rfl, awaitGrid_quiet none_left⟩
    · rw [result_eq]
      exact .inl same

theorem resume_segment (settings : Settings) (task : Task) (reply : Reply) (campaign : Campaign)
    (others : List Task) (own : task.ending → campaign.isEnd)
    (allows : timely.onReply task reply campaign others) :
    Segment task.ending campaign (campaign.resume settings task reply) := by
  cases task with
  | lock tick info left =>
      cases reply with
      | wakeup =>
          unfold Campaign.resume
          dsimp only
          split
          case isTrue =>
            unfold Campaign.doBattle
            split
            · exact (Loops.write campaign.battleQueue _ (checkQueue_loops tick left _)).segment
            · have stays : Loops campaign (campaign, [.calcBattleResult tick info left]) :=
                ⟨⟨campaign.battleQueue, campaign.threads, rfl⟩, by simp, by simp [Task.ending]⟩
              exact stays.segment
          case isFalse => exact .stay own
      | _ => exact .stay own
  | calcBattleResult tick info left =>
      cases reply with
      | battle battle => exact battle_segment settings tick info left battle allows
      | failed =>
          have loops := leaveBattle_loops (some (tick, left)) (campaign.battleFailed info)
          refine loops.segment.of_record ?_ ?_
          · unfold Campaign.battleFailed
            cases info.armyType <;> exact ⟨rfl, rfl, rfl, rfl, rfl, rfl⟩
          · unfold Campaign.battleFailed
            cases info.armyType <;> rfl
      | raise => exact .apart_from_record ⟨rfl, rfl, rfl, rfl, rfl, rfl⟩ rfl
      | _ => exact .stay own
  | onCampaignEnd loop task =>
      cases reply with
      | done => exact grid_segment settings loop task (own rfl)
      | raise =>
          cases loop <;> exact .apart_from_record ⟨rfl, rfl, rfl, rfl, rfl, rfl⟩ rfl
      | _ => exact .stay own

/-- Only an ended campaign waits for its grid, and it waits for one call. -/
def endPool : Pool Campaign Task where
  shared campaign := campaign.campaignEnds.length = if campaign.isEnd then 1 else 0
  own campaign task := task.ending → campaign.isEnd
  apart first second := ¬ (first.ending ∧ second.ending)
  apart_symm apart both := apart both.symm

theorem Segment.keeps (segment : Segment spent campaign result)
    (holds : endPool.Holds ⟨campaign, others⟩)
    (alone : spent = true → ∀ other ∈ others, other.ending = false) :
    endPool.Keeps others result where
  shared := by
    have ends_eq : campaign.campaignEnds.length = if campaign.isEnd then 1 else 0 := holds.shared
    change result.1.campaignEnds.length = _
    cases ended : campaign.isEnd with
    | false =>
        rw [segment.before_end ended, ends_eq, ended]
        simp
    | true =>
        rw [(segment.record ended).campaignEnds, (segment.record ended).isEnd, ends_eq]
  stable other other_mem ending := by
    have ended : campaign.isEnd := holds.own other other_mem ending
    rw [(segment.record ended).isEnd]
    exact ended
  fresh task task_mem ending := (segment.ending task task_mem ending).1
  apart other other_mem task task_mem both := by
    rcases (segment.ending task task_mem both.2).2 with spent_eq | open_now
    · exact absurd both.1 (by simp [alone spent_eq other other_mem])
    · have ended : campaign.isEnd := holds.own other other_mem both.1
      exact absurd (open_now.symm.trans ended) (by simp)
  fresh_apart := pairwise_of_single segment.single

theorem alone_of_apart {task : Task} (apart : ∀ other ∈ others, endPool.apart task other) :
    task.ending = true → ∀ other ∈ others, other.ending = false := by
  intro ending other other_mem
  by_contra also
  exact apart other other_mem ⟨ending, by simpa using also⟩

theorem endPool_kept (settings : Settings) : endPool.KeptBy (campaignService settings) timely where
  accept request campaign others holds _ :=
    (accept_segment settings request campaign).keeps holds (by simp)
  resume task reply campaign others holds own apart allows :=
    (resume_segment settings task reply campaign others own allows).keeps holds
      (alone_of_apart apart)

theorem endPool_start (settings : Settings) (builds : List BattleBuild) (grid : Grid) :
    endPool.Holds (campaignStart settings builds grid) :=
  ⟨rfl, by simp [campaignStart], .nil⟩

theorem Segment.frozen (segment : Segment spent config.state result) (ended : config.state.isEnd)
    (subset : ∀ other ∈ others, other ∈ config.waiting)
    (spent_waits : spent = true → EndingWaits config)
    (alone : spent = true → ∀ other ∈ others, other.ending = false) :
    Frozen config (.settle others result) where
  record := segment.record ended
  owner := by
    rcases segment.owner ended with same | ⟨spent_eq, quiet⟩
    · exact .inl same
    · refine .inr ⟨spent_waits spent_eq, ?_⟩
      rintro ⟨task, task_mem, ending⟩
      rcases List.mem_append.mp task_mem with old | new
      · exact absurd ending (by simp [alone spent_eq task old])
      · exact absurd ending (by simp [quiet task new])
  ending := by
    rintro ⟨task, task_mem, ending⟩
    rcases List.mem_append.mp task_mem with old | new
    · exact ⟨task, subset task old, ending⟩
    · rcases (segment.ending task new ending).2 with spent_eq | open_now
      · exact spent_waits spent_eq
      · exact absurd (open_now.symm.trans ended) (by simp)

theorem frozen_step (settings : Settings) (event : Event Request Reply)
    (holds : endPool.Holds config) (ended : config.state.isEnd)
    (allows : timely.Allows config event) :
    Frozen config ((campaignService settings).step config event) := by
  rcases (campaignService settings).step_cases config event with
    ⟨request, rfl, step_eq⟩ | ⟨before, task, after, reply, rfl, waiting_eq, step_eq⟩ |
      ⟨index, reply, rfl, absent, step_eq⟩
  · rw [step_eq]
    exact (accept_segment settings request config.state).frozen ended (fun _ mem => mem)
      (by simp) (by simp)
  · obtain ⟨-, own, apart⟩ := holds.split waiting_eq
    rw [step_eq]
    refine (resume_segment settings task reply config.state (before ++ after) own
      (Guard.allows_reply waiting_eq allows)).frozen ended (fun other other_mem => ?_)
      (fun ending => ⟨task, by simp [waiting_eq], ending⟩) (alone_of_apart apart)
    rw [waiting_eq]
    rcases List.mem_append.mp other_mem with left | right <;> simp [*]
  · rw [step_eq]
    exact .refl config

/-- Every admitted run from an ended campaign. -/
theorem frozen_run (settings : Settings) {events : List (Event Request Reply)}
    (holds : endPool.Holds config) (ended : config.state.isEnd)
    (admits : timely.Admits (campaignService settings) config events) :
    Frozen config ((campaignService settings).run config events) := by
  have both : endPool.Holds ((campaignService settings).run config events) ∧
      Frozen config ((campaignService settings).run config events) := by
    refine Guard.run_keeps (fun current => endPool.Holds current ∧ Frozen config current) ?_
      admits ⟨holds, .refl config⟩
    rintro current event ⟨current_holds, frozen⟩ allows
    exact ⟨(endPool_kept settings).holds_step current event current_holds allows,
      frozen.trans (frozen_step settings event current_holds
        (frozen.record.isEnd.trans ended) allows)⟩
  exact both.2

theorem battle_reports (settings : Settings) (tick : ℕ) (info : Info) (left : ℕ)
    (battle : BattleEnd) (campaign : Campaign) :
    ∃ report, (campaign.resume settings (.calcBattleResult tick info left)
      (.battle battle)).1.reports = campaign.reports ++ [report] := by
  obtain ⟨builds, attackContriDegree, maxLoseHp, attackerStatistics, report, done_eq⟩ :=
    battleDone_writes settings info battle campaign
  have ends := endBattle_ends settings battle.result (some info.attacker) battle.hasRoom
    (campaign.battleDone settings info battle)
  obtain ⟨queue, threads, result_eq⟩ := awaitGrid_writes (some (tick, left))
    ((campaign.battleDone settings info battle).endBattle settings battle.result
      (some info.attacker) battle.hasRoom)
  refine ⟨report, ?_⟩
  unfold Campaign.resume
  dsimp only
  rw [result_eq]
  exact ends.reports.trans (by rw [done_eq])

theorem not_frozen_of_refused (settings : Settings) {event : Event Request Reply}
    (refused : ¬ timely.Allows config event) :
    config.state.isEnd ∧ ¬ Frozen config ((campaignService settings).step config event) := by
  rcases event with request | ⟨index, reply⟩
  · exact absurd trivial refused
  · cases found : config.waiting[index]? with
    | none => simp [Guard.Allows, found] at refused
    | some task =>
        simp only [Guard.Allows, found, timely] at refused
        split at refused
        case h_1 tick info left battle =>
          obtain ⟨report, reports_eq⟩ :=
            battle_reports settings tick info left battle config.state
          refine ⟨by simpa using refused, fun frozen => ?_⟩
          have same := frozen.record.reports
          simp only [Service.step, found, Config.settle_state] at same
          have grown := congrArg List.length (reports_eq.symm.trans same)
          simp at grown
        case h_2 => exact absurd trivial refused

/-- Stable insertion is one way to sort. -/
def sampleSettings : Settings where
  grid := Starmap.sampleSettings
  campaignTime := 10
  battleInterval := 1
  damageToPerConquest := 1
  winCostWarshipLife := 1
  failCostWarshipLife := 1
  winCostHeroLife := 1
  failCostHeroLife := 1
  sort queue := queue.insertionSort (·.battleTick ≤ ·.battleTick)
  sort_perm queue := List.perm_insertionSort _ queue
  sort_sorted queue := List.pairwise_insertionSort _ queue

def sampleStart : Config Campaign Task :=
  campaignStart sampleSettings [⟨1, 100, 100⟩] (Grid.init Starmap.sampleSettings 0)

def sampleArmy : FightArmy := ⟨some 5, [5], [⟨1, 20⟩]⟩

/-- The campaign times out while a battle is being calculated, and then the battle is won. -/
def lateWinRun : List (Event Request Reply) :=
  [.request (.startBattle ⟨1, 9, false⟩ .self [sampleArmy]), .request (.elapse 1),
    .request .onSecond, .request (.elapse 10), .request .onSecond,
    .reply 0 (.battle ⟨.win, [(1, 0)], [], true⟩)]

end BasWar.Starmap.Campaigns
