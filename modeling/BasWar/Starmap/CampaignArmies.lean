import BasWar.Starmap.CampaignEnd

/-!
# Union armies of a campaign

A union army that joined a campaign is in the battle queue, in the hands of a tick, consumed by a
battle or returned to its union.  A tick that has popped an army and gets the lock after the end of
the campaign drops it; so does a tick whose calculation raises.
-/

namespace BasWar.Starmap.Campaigns

open Cooperative

def unionSerials (infos : List Info) : List ℕ :=
  (infos.filter (·.armyType = .union)).map (·.serial)

/-- Serial of the army that a `starmapCampaignCostArmyLife` to a union is about. -/
def Message.consumes : Message → Option ℕ
  | .unionCostArmyLife info _ => some info.serial
  | _ => none

/-- Serial of the army that a `returnBackCampaignArmy` is about. -/
def Message.returns : Message → Option ℕ
  | .returnBackCampaignArmy info => some info.serial
  | _ => none

namespace Campaign

def consumed (serial : ℕ) (campaign : Campaign) : ℕ :=
  (campaign.sent.filterMap Message.consumes).count serial

def returned (serial : ℕ) (campaign : Campaign) : ℕ :=
  (campaign.sent.filterMap Message.returns).count serial

end Campaign

/-- After the end, every union army was consumed or returned, once. -/
def ArmiesSettled (config : Config Campaign Task) : Prop :=
  config.state.isEnd → config.Idle → ∀ info ∈ config.state.joined, info.armyType = .union →
    config.state.consumed info.serial + config.state.returned info.serial = 1

/-- No tick holds a union army when the campaign has ended, and no calculation of its battle
raises. -/
def unlost : Guard Campaign Request Task Reply where
  onRequest _ _ _ := True
  onReply task reply campaign _ :=
    match task, reply with
    | .lock tick info _, .wakeup =>
        info.armyType = .union → campaign.threads.head? = some tick → campaign.isEnd = false
    | .calcBattleResult _ info _, .raise => info.armyType ≠ .union
    | _, _ => True

instance (request campaign others) : Decidable (unlost.onRequest request campaign others) :=
  .isTrue trivial

instance (task reply campaign others) : Decidable (unlost.onReply task reply campaign others) := by
  unfold unlost
  dsimp only
  split <;> infer_instance

theorem handBackAll_clock (settings : Starmap.Settings) (drop : Drop) (sent : List Build)
    (rest : List HandBack) (grid : Grid) :
    (grid.handBackAll settings drop sent rest).1.clock = grid.clock := by
  cases rest with
  | cons back rest => rfl
  | nil =>
      simp only [Grid.handBackAll]
      cases drop with
      | storeBuild buildId => rfl
      | giveUpMyGrid => rfl
      | clear => rfl
      | campaignWin attacker hasRoom =>
          simp only [Grid.finish]
          split
          · rfl
          · split <;> rfl
      | campaignUnknow delBuilds =>
          simp only [Grid.finish]
          split <;> rfl

theorem onCampaignEnd_clock (settings : Starmap.Settings) (campaign : CampaignEnd) (grid : Grid) :
    (grid.onCampaignEnd settings campaign).1.clock = grid.clock := by
  unfold Grid.onCampaignEnd
  split
  · rw [Grid.storeNftBuilds, handBackAll_clock]
    unfold Grid.costDefenceBuildLife
    split <;> rfl
  · unfold Grid.handleNftsLife
    split <;> rw [handBackAll_clock]
    rfl
  · rfl

theorem proceed_done_clock (settings : Starmap.Settings) (task : Starmap.Task) (grid : Grid) :
    (grid.proceed settings task .done).1.clock = grid.clock := by
  cases task with
  | handBack drop sent rest => exact handBackAll_clock settings drop sent rest grid
  | _ => rfl

theorem clock_le_elapse (seconds : ℕ) (grid : Grid) : grid.clock ≤ (grid.elapse seconds).clock := by
  unfold Grid.elapse
  dsimp only
  split <;> (dsimp only; omega)

@[simp]
theorem unionSerials_nil : unionSerials [] = [] := rfl

theorem unionSerials_append (first second : List Info) :
    unionSerials (first ++ second) = unionSerials first ++ unionSerials second := by
  simp [unionSerials]

theorem unionSerials_cons (info : Info) (infos : List Info) :
    unionSerials (info :: infos) = unionSerials [info] ++ unionSerials infos :=
  unionSerials_append [info] infos

theorem unionSerials_perm {first second : List Info} (perm : first.Perm second) :
    (unionSerials first).Perm (unionSerials second) :=
  (perm.filter _).map _

/-- What the campaign knows of an army: it is queued, consumed or returned, against its joining. -/
def armyLedger (serial : ℕ) : Ledger Campaign Task ℤ where
  book campaign := (unionSerials campaign.battleQueue).count serial +
    campaign.consumed serial + campaign.returned serial -
      (unionSerials campaign.joined).count serial
  carry task :=
    match task with
    | .lock _ info _ | .calcBattleResult _ info _ => (unionSerials [info]).count serial
    | .onCampaignEnd _ _ => 0

/-- An ended campaign has an empty queue and takes no more armies. -/
structure Closed (campaign : Campaign) : Prop where
  battleQueue : campaign.isEnd → campaign.battleQueue = []
  campaignEndTick : campaign.isEnd → campaign.campaignEndTick ≤ campaign.clock

structure Numbered (campaign : Campaign) : Prop where
  nodup : (campaign.joined.map (·.serial)).Nodup
  lt : ∀ info ∈ campaign.joined, info.serial < campaign.nextSerial

/-- What one segment does with an army; `spent` is what its task held. -/
structure Accounts (serial : ℕ) (spent : ℤ) (campaign : Campaign)
    (result : Campaign × List Task) : Prop where
  balances : (armyLedger serial).Balances campaign spent result
  closed : Closed result.1
  joined : result.1.joined = campaign.joined
  nextSerial : result.1.nextSerial = campaign.nextSerial

variable {serial : ℕ} {campaign : Campaign} {spent : ℤ} {result : Campaign × List Task}

theorem Accounts.stay (closed : Closed campaign) (tasks : List Task) :
    Accounts serial (tasks.map (armyLedger serial).carry).sum campaign (campaign, tasks) :=
  ⟨rfl, closed, rfl, rfl⟩

theorem Accounts.trans {mid : Campaign} (before : Accounts serial spent campaign (mid, []))
    (after : Accounts serial 0 mid result) : Accounts serial spent campaign result where
  balances := by
    have before_eq := before.balances
    have after_eq := after.balances
    simp only [Ledger.Balances, List.map_nil, List.sum_nil] at before_eq after_eq ⊢
    omega
  closed := after.closed
  joined := after.joined.trans before.joined
  nextSerial := after.nextSerial.trans before.nextSerial

theorem checkQueue_accounts (serial tick left : ℕ) (closed : Closed campaign) :
    Accounts serial 0 campaign (Campaign.checkQueue tick left campaign) := by
  cases left with
  | zero => exact .stay closed []
  | succ left =>
      rw [Campaign.checkQueue]
      split
      case h_1 => exact .stay closed []
      case h_2 info queue queue_eq =>
        have open_now : campaign.isEnd = false := by
          by_contra ended
          have empty := closed.battleQueue (by simpa using ended)
          simp [queue_eq] at empty
        have open_closed : ∀ threads,
            Closed { campaign with battleQueue := queue, threads := threads } := fun threads =>
          ⟨fun ended => absurd (open_now.symm.trans ended) (by simp),
            fun ended => absurd (open_now.symm.trans ended) (by simp)⟩
        have popped : (unionSerials campaign.battleQueue).count serial =
            (unionSerials [info]).count serial + (unionSerials queue).count serial := by
          rw [queue_eq, unionSerials_cons, List.count_append]
        split
        case isFalse => exact .stay closed []
        case isTrue =>
          dsimp only
          split
          case isTrue =>
            unfold Campaign.doBattle
            rw [if_neg (by simp [open_now])]
            refine ⟨?_, open_closed _, rfl, rfl⟩
            simp only [Ledger.Balances, armyLedger, Campaign.consumed, Campaign.returned,
              List.map_cons, List.map_nil, List.sum_cons, List.sum_nil]
            omega
          case isFalse =>
            refine ⟨?_, open_closed _, rfl, rfl⟩
            simp only [Ledger.Balances, armyLedger, Campaign.consumed, Campaign.returned,
              List.map_cons, List.map_nil, List.sum_cons, List.sum_nil]
            omega

theorem Accounts.quiet {after : Campaign} (closed : Closed after)
    (battleQueue : after.battleQueue = campaign.battleQueue) (sent : after.sent = campaign.sent)
    (joined : after.joined = campaign.joined)
    (nextSerial : after.nextSerial = campaign.nextSerial) :
    Accounts serial 0 campaign (after, []) where
  balances := by
    simp [Ledger.Balances, armyLedger, Campaign.consumed, Campaign.returned, battleQueue, sent,
      joined]
  closed := closed
  joined := joined
  nextSerial := nextSerial

theorem leaveBattle_accounts (serial : ℕ) (loop : Option (ℕ × ℕ)) (closed : Closed campaign) :
    Accounts serial 0 campaign (campaign.leaveBattle loop) := by
  rcases loop with _ | ⟨tick, left⟩
  · exact .stay closed []
  · have unlock_closed : Closed campaign.unlock := ⟨closed.battleQueue, closed.campaignEndTick⟩
    have unlocked : Accounts serial 0 campaign (campaign.unlock, []) :=
      .quiet unlock_closed rfl rfl rfl rfl
    exact unlocked.trans (checkQueue_accounts serial tick left unlock_closed)

theorem awaitGrid_accounts (serial : ℕ) (loop : Option (ℕ × ℕ)) (tasks : List Starmap.Task)
    (closed : Closed campaign) :
    Accounts serial 0 campaign (Campaign.awaitGrid loop (campaign, tasks)) := by
  unfold Campaign.awaitGrid
  split
  · exact leaveBattle_accounts serial loop closed
  · refine ⟨?_, closed, rfl, rfl⟩
    have nothing : ((tasks.map (Task.onCampaignEnd loop)).map
        (armyLedger serial).carry).sum = 0 := List.sum_eq_zero (by simp [armyLedger])
    rw [Ledger.Balances, nothing]

theorem count_sent_cons (about : Message → Option ℕ) (serial : ℕ) (message : Message)
    (sent : List Message) :
    ((message :: sent).filterMap about).count serial =
      (about message).toList.count serial + (sent.filterMap about).count serial := by
  cases told : about message <;> simp [told, List.count_cons, Nat.add_comm]

theorem count_sent_append (about : Message → Option ℕ) (serial : ℕ) (first second : List Message) :
    ((first ++ second).filterMap about).count serial =
      (first.filterMap about).count serial + (second.filterMap about).count serial := by
  rw [List.filterMap_append, List.count_append]

theorem consumed_cancelBattle (serial : ℕ) (campaign : Campaign) :
    campaign.cancelBattle.consumed serial = campaign.consumed serial := by
  rw [Campaign.consumed, Campaign.cancelBattle, count_sent_append, Campaign.consumed]
  simp [List.filterMap_reverse, Function.comp_def, Message.consumes]

theorem returned_cancelBattle (serial : ℕ) (campaign : Campaign) :
    campaign.cancelBattle.returned serial =
      (unionSerials campaign.battleQueue).count serial + campaign.returned serial := by
  rw [Campaign.returned, Campaign.cancelBattle, count_sent_append, Campaign.returned]
  simp [List.filterMap_reverse, Function.comp_def, Message.returns, unionSerials]

theorem endCampaign_accounts (serial : ℕ) (settings : Settings) (result : BattleResult)
    (winner : Option Owner) (hasRoom : Bool) (campaign : Campaign) :
    Accounts serial 0 campaign ((campaign.endCampaign settings result winner hasRoom).1, []) where
  balances := by
    have consumed_eq := consumed_cancelBattle serial campaign
    have returned_eq := returned_cancelBattle serial campaign
    simp only [Campaign.consumed, Campaign.returned, Campaign.cancelBattle]
      at consumed_eq returned_eq
    simp only [Ledger.Balances, armyLedger, Campaign.endCampaign, Campaign.cancelBattle,
      Campaign.consumed, Campaign.returned, consumed_eq, returned_eq, unionSerials_nil,
      List.count_nil, List.map_nil, List.sum_nil]
    omega
  closed := ⟨fun _ => rfl, fun _ => (onCampaignEnd_clock settings.grid _ campaign.grid).ge⟩
  joined := rfl
  nextSerial := rfl

theorem endBattle_accounts (serial : ℕ) (settings : Settings) (result : BattleResult)
    (attacker : Option Owner) (hasRoom : Bool) (closed : Closed campaign) :
    Accounts serial 0 campaign ((campaign.endBattle settings result attacker hasRoom).1, []) := by
  obtain ⟨statistics, counted_eq⟩ := countAttack_writes attacker campaign
  have counted : Accounts serial 0 campaign (campaign.countAttack attacker, []) := by
    rw [counted_eq]
    exact .quiet ⟨closed.battleQueue, closed.campaignEndTick⟩ rfl rfl rfl rfl
  cases result with
  | win => exact counted.trans (endCampaign_accounts serial settings .win attacker hasRoom _)
  | unknow => exact counted.trans (endCampaign_accounts serial settings .unknow none hasRoom _)
  | lose => exact counted
  | offline => exact counted

theorem Accounts.tell {after : Campaign} (closed : Closed campaign)
    (isEnd : after.isEnd = campaign.isEnd) (tick : after.campaignEndTick = campaign.campaignEndTick)
    (grid : after.grid = campaign.grid) (battleQueue : after.battleQueue = campaign.battleQueue)
    (joined : after.joined = campaign.joined) (nextSerial : after.nextSerial = campaign.nextSerial)
    (told : (after.consumed serial : ℤ) + after.returned serial =
      campaign.consumed serial + campaign.returned serial + spent) :
    Accounts serial spent campaign (after, []) where
  balances := by
    simp only [Ledger.Balances, armyLedger, battleQueue, joined, List.map_nil, List.sum_nil]
    omega
  closed := by
    constructor
    · rw [isEnd, battleQueue]
      exact closed.battleQueue
    · rw [isEnd, tick, Campaign.clock, grid]
      exact closed.campaignEndTick
  joined := joined
  nextSerial := nextSerial

theorem battleDone_accounts (serial : ℕ) (settings : Settings) (info : Info) (battle : BattleEnd)
    (closed : Closed campaign) :
    Accounts serial ((unionSerials [info]).count serial) campaign
      (campaign.battleDone settings info battle, []) := by
  obtain ⟨builds, attackContriDegree, maxLoseHp, attackerStatistics, report, done_eq⟩ :=
    battleDone_writes settings info battle campaign
  rw [done_eq]
  refine .tell closed rfl rfl rfl rfl rfl rfl ?_
  simp only [Campaign.consumed, Campaign.returned, count_sent_cons]
  cases kind : info.armyType with
  | self => simp [costArmyLife, Message.consumes, Message.returns, unionSerials, kind]
  | union =>
      simp only [costArmyLife, Message.consumes, Message.returns, unionSerials, kind,
        Option.toList_some, Option.toList_none, List.count_nil, decide_true,
        List.filter_cons_of_pos, List.filter_nil, List.map_cons, List.map_nil]
      omega

theorem battleFailed_accounts (serial : ℕ) (info : Info) (closed : Closed campaign) :
    Accounts serial ((unionSerials [info]).count serial) campaign
      (campaign.battleFailed info, []) := by
  unfold Campaign.battleFailed
  cases kind : info.armyType with
  | self =>
      refine .tell closed rfl rfl rfl rfl rfl rfl ?_
      simp [Campaign.consumed, Campaign.returned, Campaign.send, count_sent_cons,
        Message.consumes, Message.returns, unionSerials, kind]
  | union =>
      refine .tell closed rfl rfl rfl rfl rfl rfl ?_
      simp only [Campaign.consumed, Campaign.returned, Campaign.send, count_sent_cons,
        Message.consumes, Message.returns, unionSerials, kind, Option.toList_some,
        Option.toList_none, List.count_nil, decide_true, List.filter_cons_of_pos, List.filter_nil,
        List.map_cons, List.map_nil]
      omega

theorem newInfos_serials (settings : Settings) (attacker : Owner) (armyType : ArmyType)
    (armyInfos : List FightArmy) (campaign : Campaign) :
    (campaign.newInfos settings attacker armyType armyInfos).map (·.serial) =
      List.range' campaign.nextSerial armyInfos.length := by
  refine List.ext_getElem (by simp [Campaign.newInfos]) fun index _ _ => ?_
  simp [Campaign.newInfos]

theorem startBattle_numbered (settings : Settings) (attacker : Owner) (armyType : ArmyType)
    (armyInfos : List FightArmy) (numbered : Numbered campaign) :
    Numbered (campaign.startBattle settings attacker armyType armyInfos) := by
  unfold Campaign.startBattle
  split
  case isTrue => exact ⟨numbered.nodup, numbered.lt⟩
  case isFalse =>
    have serials := newInfos_serials settings attacker armyType armyInfos campaign
    have new_range : ∀ info ∈ campaign.newInfos settings attacker armyType armyInfos,
        campaign.nextSerial ≤ info.serial ∧
          info.serial < campaign.nextSerial + armyInfos.length := by
      intro info info_mem
      have serial_mem := List.mem_map_of_mem (f := Info.serial) info_mem
      rw [serials, List.mem_range'_1] at serial_mem
      exact serial_mem
    constructor
    · simp only [List.map_append]
      refine List.nodup_append.mpr ⟨numbered.nodup, ?_, ?_⟩
      · rw [serials]
        exact List.nodup_range'
      · rintro old old_mem new new_mem rfl
        obtain ⟨info, info_mem, rfl⟩ := List.mem_map.mp old_mem
        obtain ⟨other, other_mem, same⟩ := List.mem_map.mp new_mem
        have old_lt := numbered.lt info info_mem
        have new_ge := (new_range other other_mem).1
        omega
    · intro info info_mem
      rcases List.mem_append.mp info_mem with old | new
      · have old_lt := numbered.lt info old
        dsimp only
        omega
      · exact (new_range info new).2

theorem startBattle_balances (serial : ℕ) (settings : Settings) (attacker : Owner)
    (armyType : ArmyType) (armyInfos : List FightArmy) (campaign : Campaign) :
    (armyLedger serial).Balances campaign 0
      (campaign.startBattle settings attacker armyType armyInfos, []) := by
  unfold Campaign.startBattle
  split
  case isTrue => rfl
  case isFalse =>
    have sorted := (unionSerials_perm (settings.sort_perm (campaign.battleQueue ++
      campaign.newInfos settings attacker armyType armyInfos))).count_eq serial
    rw [unionSerials_append, List.count_append] at sorted
    simp only [Ledger.Balances, armyLedger, Campaign.consumed, Campaign.returned, sorted,
      unionSerials_append, List.count_append, List.map_nil, List.sum_nil]
    omega

theorem startBattle_closed (settings : Settings) (attacker : Owner) (armyType : ArmyType)
    (armyInfos : List FightArmy) (closed : Closed campaign) :
    Closed (campaign.startBattle settings attacker armyType armyInfos) := by
  unfold Campaign.startBattle
  split
  case isTrue => exact ⟨closed.battleQueue, closed.campaignEndTick⟩
  case isFalse in_time =>
    exact ⟨fun ended => absurd (closed.campaignEndTick ended) in_time,
      fun ended => absurd (closed.campaignEndTick ended) in_time⟩

theorem checkBattleStart_accounts (serial : ℕ) (settings : Settings) (closed : Closed campaign) :
    Accounts serial 0 campaign (campaign.checkBattleStart settings) := by
  unfold Campaign.checkBattleStart
  split
  case isTrue => exact .stay closed []
  case isFalse =>
    split
    case isTrue =>
      have ended := endBattle_accounts serial settings .unknow none false closed
      exact ended.trans (awaitGrid_accounts serial none _ ended.closed)
    case isFalse =>
      have tick_closed : Closed { campaign with nextTick := campaign.nextTick + 1 } :=
        ⟨closed.battleQueue, closed.campaignEndTick⟩
      have numbered : Accounts serial 0 campaign
          ({ campaign with nextTick := campaign.nextTick + 1 }, []) :=
        .quiet tick_closed rfl rfl rfl rfl
      exact numbered.trans (checkQueue_accounts serial _ _ tick_closed)

theorem elapse_accounts (serial seconds : ℕ) (closed : Closed campaign) :
    Accounts serial 0 campaign ({ campaign with grid := campaign.grid.elapse seconds }, []) :=
  .quiet ⟨closed.battleQueue, fun ended =>
    (closed.campaignEndTick ended).trans (clock_le_elapse seconds campaign.grid)⟩ rfl rfl rfl rfl

/-- Every admitted answer accounts for the army that its task held. -/
theorem resume_accounts (serial : ℕ) (settings : Settings) (task : Task) (reply : Reply)
    (others : List Task) (closed : Closed campaign)
    (allows : unlost.onReply task reply campaign others) :
    Accounts serial ((armyLedger serial).carry task) campaign
      (campaign.resume settings task reply) := by
  have stay : ∀ task, Accounts serial ((armyLedger serial).carry task) campaign
      (campaign, [task]) := fun task => by simpa using Accounts.stay closed [task]
  cases task with
  | lock tick info left =>
      cases reply with
      | wakeup =>
          unfold Campaign.resume
          dsimp only
          split
          case isFalse => exact stay _
          case isTrue first =>
            unfold Campaign.doBattle
            split
            case isFalse => exact stay (.calcBattleResult tick info left)
            case isTrue ended =>
              -- The army is dropped here, so it is none of a union.
              have of_player : info.armyType ≠ .union := fun of_union =>
                absurd ((allows of_union first).symm.trans ended) (by simp)
              have nothing : (armyLedger serial).carry (.lock tick info left) = 0 := by
                simp [armyLedger, unionSerials, of_player]
              rw [nothing]
              exact leaveBattle_accounts serial (some (tick, left)) closed
      | _ => exact stay _
  | calcBattleResult tick info left =>
      cases reply with
      | battle battle =>
          have done := battleDone_accounts serial settings info battle closed
          have ended := endBattle_accounts serial settings battle.result (some info.attacker)
            battle.hasRoom done.closed
          exact (done.trans ended).trans (awaitGrid_accounts serial _ _ ended.closed)
      | failed =>
          have failed := battleFailed_accounts serial info closed
          have left_battle : Accounts serial 0 (campaign.battleFailed info)
              ((campaign.battleFailed info).leaveBattle (some (tick, left))) :=
            leaveBattle_accounts serial _ failed.closed
          exact failed.trans left_battle
      | raise =>
          have nothing : (armyLedger serial).carry (.calcBattleResult tick info left) = 0 := by
            simp [armyLedger, unionSerials, show info.armyType ≠ .union from allows]
          rw [nothing]
          exact .quiet ⟨closed.battleQueue, closed.campaignEndTick⟩ rfl rfl rfl rfl
      | _ => exact stay _
  | onCampaignEnd loop task =>
      cases reply with
      | done =>
          let grid := campaign.grid.proceed settings.grid task .done
          have grid_closed : Closed { campaign with grid := grid.1 } :=
            ⟨closed.battleQueue, fun ended => (closed.campaignEndTick ended).trans
              (proceed_done_clock settings.grid task campaign.grid).ge⟩
          have moved : Accounts serial 0 campaign ({ campaign with grid := grid.1 }, []) :=
            .quiet grid_closed rfl rfl rfl rfl
          exact moved.trans (awaitGrid_accounts serial loop grid.2 grid_closed)
      | raise =>
          cases loop <;>
            exact .quiet ⟨closed.battleQueue, closed.campaignEndTick⟩ rfl rfl rfl rfl
      | _ => exact stay _

/-- The invariant of the queue and of the numbering; a tick knows nothing for itself. -/
def armyPool : Pool Campaign Task where
  shared campaign := Closed campaign ∧ Numbered campaign
  own _ _ := True
  apart _ _ := True
  apart_symm apart := apart

theorem armyPool_keeps {others : List Task} (closed : Closed result.1)
    (numbered : Numbered result.1) :
    armyPool.Keeps others result where
  shared := ⟨closed, numbered⟩
  stable _ _ := trivial
  fresh _ _ := trivial
  apart _ _ _ _ := trivial
  fresh_apart := List.pairwise_of_forall fun _ _ => trivial

theorem Numbered.of_accounts (numbered : Numbered campaign)
    (accounts : Accounts serial spent campaign result) : Numbered result.1 where
  nodup := by
    rw [accounts.joined]
    exact numbered.nodup
  lt := by
    rw [accounts.joined, accounts.nextSerial]
    exact numbered.lt

theorem armyPool_kept (settings : Settings) :
    armyPool.KeptBy (campaignService settings) unlost where
  accept request campaign others holds _ := by
    obtain ⟨closed, numbered⟩ : Closed campaign ∧ Numbered campaign := holds.shared
    cases request with
    | startBattle attacker armyType armyInfos =>
        exact armyPool_keeps (startBattle_closed settings attacker armyType armyInfos closed)
          (startBattle_numbered settings attacker armyType armyInfos numbered)
    | onSecond =>
        have accounts := checkBattleStart_accounts 0 settings closed
        exact armyPool_keeps accounts.closed (numbered.of_accounts accounts)
    | elapse seconds =>
        have accounts := elapse_accounts 0 seconds closed
        exact armyPool_keeps accounts.closed (numbered.of_accounts accounts)
  resume task reply campaign others holds _ _ allows := by
    obtain ⟨closed, numbered⟩ : Closed campaign ∧ Numbered campaign := holds.shared
    have accounts := resume_accounts 0 settings task reply others closed allows
    exact armyPool_keeps accounts.closed (numbered.of_accounts accounts)

theorem armyLedger_balanced (serial : ℕ) (settings : Settings) :
    (armyLedger serial).BalancedBy armyPool (campaignService settings) unlost where
  accept request campaign others holds _ := by
    have closed : Closed campaign := holds.shared.1
    cases request with
    | startBattle attacker armyType armyInfos =>
        exact startBattle_balances serial settings attacker armyType armyInfos campaign
    | onSecond => exact (checkBattleStart_accounts serial settings closed).balances
    | elapse seconds => exact (elapse_accounts serial seconds closed).balances
  resume task reply campaign others holds _ _ allows :=
    (resume_accounts serial settings task reply others holds.shared.1 allows).balances

theorem armyPool_start (settings : Settings) (builds : List BattleBuild) (grid : Grid) :
    armyPool.Holds (campaignStart settings builds grid) where
  shared := by
    refine ⟨⟨fun _ => rfl, fun ended => ?_⟩, ⟨List.nodup_nil, ?_⟩⟩
    · simp [campaignStart, Campaign.init] at ended
    · simp [campaignStart, Campaign.init]
  own _ _ := trivial
  apart := .nil

theorem count_joined (numbered : Numbered campaign) {info : Info} (joined : info ∈ campaign.joined)
    (of_union : info.armyType = .union) : (unionSerials campaign.joined).count info.serial = 1 := by
  have nodup : (unionSerials campaign.joined).Nodup :=
    numbered.nodup.sublist (List.Sublist.map _ List.filter_sublist)
  refine List.count_eq_one_of_mem nodup (List.mem_map.mpr ⟨info, ?_, rfl⟩)
  exact List.mem_filter.mpr ⟨joined, by simp [of_union]⟩

/-- Over every run in which no tick drops an army, each union army is settled once. -/
theorem armiesSettled_run (settings : Settings) (builds : List BattleBuild) (grid : Grid)
    (events : List (Event Request Reply))
    (admits : unlost.Admits (campaignService settings)
      (campaignStart settings builds grid) events) :
    ArmiesSettled ((campaignService settings).run (campaignStart settings builds grid) events) := by
  intro ended idle info joined of_union
  have start := armyPool_start settings builds grid
  obtain ⟨closed, numbered⟩ := ((armyPool_kept settings).holds_run admits start).shared
  have total := (armyLedger_balanced info.serial settings).total_run (armyPool_kept settings)
    admits start
  have start_total : (armyLedger info.serial).total (campaignStart settings builds grid) = 0 := rfl
  have queue_empty := closed.battleQueue ended
  have once := count_joined numbered joined of_union
  rw [start_total, Ledger.total, show Config.waiting _ = [] from idle] at total
  simp only [armyLedger, queue_empty, unionSerials_nil, List.count_nil, once, List.map_nil,
    List.sum_nil] at total
  omega

/-- Two union armies join; the first wins, and the second is returned from the queue. -/
def returnedRun : List (Event Request Reply) :=
  [.request (.startBattle ⟨1, 9, false⟩ .union [sampleArmy, sampleArmy]), .request (.elapse 1),
    .request .onSecond, .reply 0 (.battle ⟨.win, [(1, 0)], [], true⟩)]

theorem armiesSettled_returnedRun :
    ((campaignService sampleSettings).run sampleStart returnedRun).state.joined.length = 2 ∧
      ArmiesSettled ((campaignService sampleSettings).run sampleStart returnedRun) :=
  ⟨by decide, armiesSettled_run sampleSettings _ _ returnedRun (by decide)⟩

/-- A second tick pops the second army and waits for the lock while the first army wins. -/
def droppedRun : List (Event Request Reply) :=
  [.request (.startBattle ⟨1, 9, false⟩ .union [sampleArmy, sampleArmy]), .request (.elapse 1),
    .request .onSecond, .request (.elapse 1), .request .onSecond,
    .reply 0 (.battle ⟨.win, [(1, 0)], [], true⟩), .reply 0 .wakeup]

theorem not_armiesSettled_droppedRun :
    ¬ ArmiesSettled ((campaignService sampleSettings).run sampleStart droppedRun) := by
  intro settled
  have second :=
    settled (by decide) rfl ⟨1, .union, 1000, ⟨1, 9, false⟩, sampleArmy, 0, 2⟩ (by decide) rfl
  exact absurd second (by decide)

end BasWar.Starmap.Campaigns
