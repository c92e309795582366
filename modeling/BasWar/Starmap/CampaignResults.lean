import BasWar.Starmap.CampaignArmies
import Mathlib

/-!
# The results of lost attacks

A player is told the result of an attack when the counters of the player reach the number of armies
of the attack.  Every tick has counters of its own, and they are kept by player and not by attack:
what is told is right when a tick has counted for the player what the attack has fought so far.
-/

namespace BasWar.Starmap.Campaigns

open Cooperative

/-- An entry of `statistics`. -/
structure Counters where
  battleNum : ℕ
  reserveCount : Option ℤ

/-- The message `unionSelfBattleResult`; `attack` stands for the call of `startBattle` whose army
has fought. -/
structure SelfBattleResult where
  attack : ℕ
  playerId : ℕ
  battleTotal : ℕ
  reserveTotal : Option ℤ
  battleResult : BattleResult

structure Fight where
  info : Info
  battle : BattleEnd

/-- What a dead soldier adds to `reserveCount`; `trainSpace` is from `soliderConfig`. -/
def DieSolider.reserve (trainSpace : ℕ → ℤ) (armyType : ArmyType) (solider : DieSolider) : ℤ :=
  match armyType with
  | .union => solider.dieCount
  | .self => trainSpace solider.cfgId * solider.dieCount

def Fight.loss (trainSpace : ℕ → ℤ) (fight : Fight) : ℤ :=
  (fight.battle.soliders.map (DieSolider.reserve trainSpace fight.info.armyType)).sum

/-- The loops of `doBattle` that add to `reserveCount`. -/
def Counters.addReserve (trainSpace : ℕ → ℤ) (armyType : ArmyType) (dieSoliders : List DieSolider)
    (counters : Counters) : Counters :=
  dieSoliders.foldl
    (fun (counters : Counters) solider =>
      { counters with
        reserveCount :=
          some (counters.reserveCount.getD 0 + solider.reserve trainSpace armyType) })
    counters

/-- `statistics[attacker.playerId]` after a battle. -/
def Counters.count (trainSpace : ℕ → ℤ) (fight : Fight) (counters : Option Counters) : Counters :=
  let reserved := (counters.getD ⟨0, none⟩).addReserve trainSpace fight.info.armyType
    fight.battle.soliders
  { reserved with battleNum := reserved.battleNum + 1 }

/-- A campaign with the counters of its ticks and what it has told the attackers. -/
structure Telling where
  campaign : Campaign
  /-- `statistics` of each tick. -/
  statistics : ℕ → ℕ → Option Counters
  /-- What a tick tells when the grid has ended the campaign. -/
  pending : ℕ → Option SelfBattleResult
  results : List SelfBattleResult
  /-- Every army that has fought, the last one first. -/
  fought : List Fight

namespace Telling

def setCounters (tick playerId : ℕ) (counters : Option Counters) (telling : Telling) : Telling :=
  { telling with
    statistics := Function.update telling.statistics tick
      (Function.update (telling.statistics tick) playerId counters) }

/-- What `doBattle` and `endBattle` do with the counters; `waits` if the grid has hand-backs to wait
for before the attacker is told of the end. -/
def endBattle (trainSpace : ℕ → ℤ) (tick : ℕ) (fight : Fight) (waits : Bool) (telling : Telling) :
    Telling :=
  let playerId := fight.info.attacker.playerId
  let counters := Counters.count trainSpace fight (telling.statistics tick playerId)
  let result : SelfBattleResult :=
    ⟨fight.info.attack, playerId, counters.battleNum, counters.reserveCount, fight.battle.result⟩
  let fought : Telling := { telling with fought := fight :: telling.fought }
  match fight.battle.result with
  | .win =>
      let cleared := fought.setCounters tick playerId none
      if waits then { cleared with pending := Function.update cleared.pending tick (some result) }
      else { cleared with results := result :: cleared.results }
  | .lose =>
      if counters.battleNum = fight.info.battleNum then
        let cleared := fought.setCounters tick playerId none
        { cleared with results := result :: cleared.results }
      else fought.setCounters tick playerId (some counters)
  | .unknow | .offline => fought.setCounters tick playerId (some counters)

/-- The grid has ended the campaign. -/
def tellPending (tick : ℕ) (telling : Telling) : Telling :=
  { telling with
    pending := Function.update telling.pending tick none
    results := (telling.pending tick).toList ++ telling.results }

/-- `checkBattleStart` begins with a new table. -/
def accept (settings : Settings) (request : Request) (telling : Telling) : Telling × List Task :=
  let accepted := telling.campaign.accept settings request
  let next : Telling := { telling with campaign := accepted.1 }
  match request with
  | .onSecond =>
      ({ next with
        statistics := Function.update next.statistics telling.campaign.nextTick fun _ => none },
        accepted.2)
  | .startBattle _ _ _ | .elapse _ => (next, accepted.2)

def resume (settings : Settings) (trainSpace : ℕ → ℤ) (task : Task) (reply : Reply)
    (telling : Telling) : Telling × List Task :=
  let resumed := telling.campaign.resume settings task reply
  let waits := resumed.2.any Task.ending
  let next : Telling := { telling with campaign := resumed.1 }
  match task, reply with
  | .calcBattleResult tick info _, .battle battle =>
      (next.endBattle trainSpace tick ⟨info, battle⟩ waits, resumed.2)
  | .onCampaignEnd (some (tick, _)) _, .done =>
      (if waits then next else next.tellPending tick, resumed.2)
  | _, _ => (next, resumed.2)

end Telling

def tellingService (settings : Settings) (trainSpace : ℕ → ℤ) :
    Service Telling Request Task Reply where
  accept := Telling.accept settings
  resume := Telling.resume settings trainSpace

def tellingStart (settings : Settings) (builds : List BattleBuild) (grid : Grid) :
    Config Telling Task :=
  ⟨⟨Campaign.init settings builds grid, fun _ _ => none, fun _ => none, [], []⟩, []⟩

namespace Telling

/-- The armies of a call of `startBattle`. -/
def armies (telling : Telling) (attack : ℕ) : List Info :=
  telling.campaign.joined.filter (·.attack = attack)

def battles (telling : Telling) (attack : ℕ) : List Fight :=
  telling.fought.filter (·.info.attack = attack)

/-- What was told when an army of a call had fought. -/
def told (telling : Telling) (attack : ℕ) : List SelfBattleResult :=
  telling.results.filter (·.attack = attack)

/-- All armies of a call have fought and lost. -/
structure Lost (telling : Telling) (attack : ℕ) : Prop where
  armies : telling.armies attack ≠ []
  fought : ∀ info ∈ telling.armies attack, ∃ fight ∈ telling.battles attack, fight.info = info
  lost : ∀ fight ∈ telling.battles attack, fight.battle.result = .lose

/-- The attacker was told once, with the number of armies and all their losses; a count that is left
out stands for 0. -/
def ToldOnce (trainSpace : ℕ → ℤ) (telling : Telling) (attack : ℕ) : Prop :=
  ∃ result, telling.told attack = [result] ∧
    (∀ info ∈ telling.armies attack, info.attacker.playerId = result.playerId) ∧
    result.battleTotal = (telling.armies attack).length ∧
    result.reserveTotal.getD 0 = ((telling.battles attack).map (Fight.loss trainSpace)).sum ∧
    result.battleResult = .lose

end Telling

/-- When an army of the call has fought, the counters of its player in the tick stand at the number
and the losses of the earlier battles of the call. -/
def countedAlone (trainSpace : ℕ → ℤ) (attack : ℕ) : Guard Telling Request Task Reply where
  onRequest _ _ _ := True
  onReply task reply telling _ :=
    match task, reply with
    | .calcBattleResult tick info _, .battle _ =>
        info.attack = attack →
          let counters := (telling.statistics tick info.attacker.playerId).getD ⟨0, none⟩
          counters.battleNum = (telling.battles attack).length ∧
            counters.reserveCount.getD 0 =
              ((telling.battles attack).map (Fight.loss trainSpace)).sum
    | _, _ => True

instance (trainSpace : ℕ → ℤ) (attack : ℕ) (request telling others) :
    Decidable ((countedAlone trainSpace attack).onRequest request telling others) :=
  .isTrue trivial

instance (trainSpace : ℕ → ℤ) (attack : ℕ) (task reply telling others) :
    Decidable ((countedAlone trainSpace attack).onReply task reply telling others) := by
  induction task using Task.casesOn <;> induction reply using Reply.casesOn <;>
    unfold countedAlone <;> dsimp only <;> infer_instance

section Counting

variable {trainSpace : ℕ → ℤ}

theorem addReserve_spec (armyType : ArmyType) (dieSoliders : List DieSolider)
    (counters : Counters) :
    (counters.addReserve trainSpace armyType dieSoliders).battleNum = counters.battleNum ∧
      (counters.addReserve trainSpace armyType dieSoliders).reserveCount.getD 0 =
        counters.reserveCount.getD 0 +
          (dieSoliders.map (DieSolider.reserve trainSpace armyType)).sum := by
  induction dieSoliders generalizing counters with
  | nil => simp [Counters.addReserve]
  | cons solider dieSoliders ih =>
      obtain ⟨battleNum_eq, reserve_eq⟩ := ih
        { counters with
          reserveCount :=
            some (counters.reserveCount.getD 0 + solider.reserve trainSpace armyType) }
      refine ⟨battleNum_eq, reserve_eq.trans ?_⟩
      rw [List.map_cons, List.sum_cons, Option.getD_some, add_assoc]

theorem count_battleNum (fight : Fight) (counters : Option Counters) :
    (Counters.count trainSpace fight counters).battleNum =
      (counters.getD ⟨0, none⟩).battleNum + 1 :=
  congrArg (· + 1) (addReserve_spec fight.info.armyType fight.battle.soliders _).1

theorem count_reserveCount (fight : Fight) (counters : Option Counters) :
    (Counters.count trainSpace fight counters).reserveCount.getD 0 =
      (counters.getD ⟨0, none⟩).reserveCount.getD 0 + fight.loss trainSpace :=
  (addReserve_spec fight.info.armyType fight.battle.soliders _).2

namespace Telling

variable {telling : Telling} {tick : ℕ} {fight : Fight} {waits : Bool} {attack : ℕ}

@[simp]
theorem endBattle_campaign :
    (telling.endBattle trainSpace tick fight waits).campaign = telling.campaign := by
  unfold endBattle
  dsimp only
  split <;> (try split) <;> rfl

@[simp]
theorem endBattle_fought :
    (telling.endBattle trainSpace tick fight waits).fought = fight :: telling.fought := by
  unfold endBattle
  dsimp only
  split <;> (try split) <;> rfl

theorem battles_endBattle_of_own (own : fight.info.attack = attack) :
    (telling.endBattle trainSpace tick fight waits).battles attack =
      fight :: telling.battles attack := by
  rw [battles, endBattle_fought, List.filter_cons_of_pos (by simpa using own), battles]

theorem battles_endBattle_of_ne (other : fight.info.attack ≠ attack) :
    (telling.endBattle trainSpace tick fight waits).battles attack = telling.battles attack := by
  rw [battles, endBattle_fought, List.filter_cons_of_neg (by simpa using other), battles]

theorem told_endBattle_of_ne (other : fight.info.attack ≠ attack) :
    (telling.endBattle trainSpace tick fight waits).told attack = telling.told attack := by
  have drop : ∀ (result : SelfBattleResult) (results : List SelfBattleResult),
      result.attack = fight.info.attack →
      (result :: results).filter (·.attack = attack) = results.filter (·.attack = attack) := by
    intro result results same
    rw [List.filter_cons_of_neg (by simpa [same] using other)]
  unfold told endBattle
  dsimp only
  split
  · split
    · rfl
    · exact drop _ _ rfl
  · split
    · exact drop _ _ rfl
    · rfl
  · rfl
  · rfl

theorem told_endBattle_of_lose (lost : fight.battle.result = .lose)
    (own : fight.info.attack = attack) :
    (telling.endBattle trainSpace tick fight waits).told attack =
      let counters := Counters.count trainSpace fight
        (telling.statistics tick fight.info.attacker.playerId)
      if counters.battleNum = fight.info.battleNum then
        ⟨attack, fight.info.attacker.playerId, counters.battleNum, counters.reserveCount, .lose⟩ ::
          telling.told attack
      else telling.told attack := by
  unfold told endBattle
  simp only [lost, own]
  split
  · exact List.filter_cons_of_pos (by simp)
  · rfl

theorem pending_endBattle {result : SelfBattleResult} {other : ℕ}
    (pending : (telling.endBattle trainSpace tick fight waits).pending other = some result) :
    telling.pending other = some result ∨
      fight.battle.result = .win ∧ result.attack = fight.info.attack := by
  unfold endBattle at pending
  dsimp only at pending
  split at pending
  next won =>
    split at pending
    · simp only [Function.update_apply] at pending
      split at pending
      · cases pending
        exact .inr ⟨won, rfl⟩
      · exact .inl pending
    · exact .inl pending
  · split at pending <;> exact .inl pending
  · exact .inl pending
  · exact .inl pending

end Telling

end Counting

def Task.holds (info : Info) : Task → ℤ
  | .lock _ other _ | .calcBattleResult _ other _ => [other].count info
  | .onCampaignEnd _ _ => 0

/-- A segment that gets `spent` of an army queues or holds no more of it than before. -/
structure Passes (spent : Info → ℤ) (campaign : Campaign) (result : Campaign × List Task) :
    Prop where
  held : ∀ info, (result.1.battleQueue.count info : ℤ) + (result.2.map (Task.holds info)).sum ≤
    campaign.battleQueue.count info + spent info
  joined : result.1.joined = campaign.joined
  nextSerial : result.1.nextSerial = campaign.nextSerial

section Passes

variable {spent : Info → ℤ} {campaign mid : Campaign} {result : Campaign × List Task}

theorem Passes.stay (campaign : Campaign) (tasks : List Task) :
    Passes (fun info => (tasks.map (Task.holds info)).sum) campaign (campaign, tasks) :=
  ⟨fun _ => le_rfl, rfl, rfl⟩

theorem Passes.quiet {after : Campaign}
    (battleQueue : after.battleQueue = campaign.battleQueue ∨ after.battleQueue = [])
    (joined : after.joined = campaign.joined)
    (nextSerial : after.nextSerial = campaign.nextSerial) :
    Passes (fun _ => 0) campaign (after, []) where
  held info := by
    rcases battleQueue with same | empty
    · simp [same]
    · simp [empty]
  joined := joined
  nextSerial := nextSerial

theorem Passes.trans (before : Passes spent campaign (mid, []))
    (after : Passes (fun _ => 0) mid result) : Passes spent campaign result where
  held info := by
    have before_le := before.held info
    have after_le := after.held info
    simp only [List.map_nil, List.sum_nil] at before_le
    omega
  joined := after.joined.trans before.joined
  nextSerial := after.nextSerial.trans before.nextSerial

theorem Passes.drop (passes : Passes (fun _ => 0) campaign result) (task : Task) :
    Passes (fun info => task.holds info) campaign result where
  held info := by
    have held_le := passes.held info
    have nonneg : 0 ≤ task.holds info := by cases task <;> simp [Task.holds]
    omega
  joined := passes.joined
  nextSerial := passes.nextSerial

theorem checkQueue_passes (tick left : ℕ) (campaign : Campaign) :
    Passes (fun _ => 0) campaign (Campaign.checkQueue tick left campaign) := by
  induction left generalizing campaign with
  | zero => exact .stay campaign []
  | succ left ih =>
      rw [Campaign.checkQueue]
      split
      next => exact .stay campaign []
      next first queue queue_eq =>
        have popped : ∀ info, (campaign.battleQueue.count info : ℤ) =
            ([first].count info : ℤ) + (queue.count info : ℤ) := by
          intro info
          rw [queue_eq, ← List.singleton_append, List.count_append]
          exact Nat.cast_add _ _
        split
        next =>
          dsimp only
          split
          next =>
            unfold Campaign.doBattle
            split
            next =>
              have rest := ih
                { campaign with
                  battleQueue := queue
                  threads := (campaign.threads ++ [tick]).tail }
              refine ⟨fun info => ?_, rest.joined, rest.nextSerial⟩
              have popped_info := popped info
              have rest_le := rest.held info
              dsimp only [Campaign.unlock] at rest_le ⊢
              omega
            next =>
              refine ⟨fun info => ?_, rfl, rfl⟩
              have popped_info := popped info
              simp only [List.map_cons, List.map_nil, List.sum_cons, List.sum_nil, Task.holds]
              omega
          next =>
            refine ⟨fun info => ?_, rfl, rfl⟩
            have popped_info := popped info
            simp only [List.map_cons, List.map_nil, List.sum_cons, List.sum_nil, Task.holds]
            omega
        next => exact .stay campaign []

theorem leaveBattle_passes (loop : Option (ℕ × ℕ)) (campaign : Campaign) :
    Passes (fun _ => 0) campaign (campaign.leaveBattle loop) := by
  rcases loop with _ | ⟨tick, left⟩
  · exact .stay campaign []
  · have unlocked : Passes (fun _ => 0) campaign (campaign.unlock, []) := .quiet (.inl rfl) rfl rfl
    exact unlocked.trans (checkQueue_passes tick left _)

theorem awaitGrid_passes (loop : Option (ℕ × ℕ)) (campaign : Campaign)
    (tasks : List Starmap.Task) :
    Passes (fun _ => 0) campaign (Campaign.awaitGrid loop (campaign, tasks)) := by
  unfold Campaign.awaitGrid
  split
  · exact leaveBattle_passes loop campaign
  · have nothing : ∀ info,
        ((tasks.map (Task.onCampaignEnd loop)).map (Task.holds info)).sum = 0 :=
      fun _ => List.sum_eq_zero (by simp [Task.holds])
    exact ⟨fun info => by rw [nothing info], rfl, rfl⟩

theorem endBattle_passes (settings : Settings) (result : BattleResult)
    (attacker : Option Owner) (hasRoom : Bool) (campaign : Campaign) :
    Passes (fun _ => 0) campaign ((campaign.endBattle settings result attacker hasRoom).1, []) := by
  obtain ⟨statistics, counted_eq⟩ := countAttack_writes attacker campaign
  unfold Campaign.endBattle
  rw [counted_eq]
  cases result with
  | win | unknow => exact .quiet (.inr rfl) rfl rfl
  | lose | offline => exact .quiet (.inl rfl) rfl rfl

theorem battleDone_passes (settings : Settings) (other : Info) (battle : BattleEnd)
    (campaign : Campaign) :
    Passes (fun _ => 0) campaign (campaign.battleDone settings other battle, []) := by
  obtain ⟨_, _, _, _, _, done_eq⟩ := battleDone_writes settings other battle campaign
  rw [done_eq]
  exact .quiet (.inl rfl) rfl rfl

theorem battleFailed_passes (other : Info) (campaign : Campaign) :
    Passes (fun _ => 0) campaign (campaign.battleFailed other, []) := by
  unfold Campaign.battleFailed
  cases other.armyType <;> exact .quiet (.inl rfl) rfl rfl

theorem checkBattleStart_passes (settings : Settings) (campaign : Campaign) :
    Passes (fun _ => 0) campaign (campaign.checkBattleStart settings) := by
  unfold Campaign.checkBattleStart
  split
  · exact .stay campaign []
  · split
    · exact (endBattle_passes settings .unknow none false campaign).trans
        (awaitGrid_passes none _ _)
    · have numbered : Passes (fun _ => 0) campaign
          ({ campaign with nextTick := campaign.nextTick + 1 }, []) := .quiet (.inl rfl) rfl rfl
      exact numbered.trans (checkQueue_passes _ _ _)

/-- An army whose battle has a result is held no more. -/
def Task.spends (info : Info) (task : Task) (reply : Reply) : ℤ :=
  match task, reply with
  | .calcBattleResult _ _ _, .battle _ => 0
  | task, _ => task.holds info

theorem resume_passes (settings : Settings) (task : Task) (reply : Reply)
    (campaign : Campaign) :
    Passes (fun info => task.spends info reply) campaign
      (campaign.resume settings task reply) := by
  have stay : ∀ task : Task, Passes (fun info => task.holds info) campaign (campaign, [task]) :=
    fun task => by simpa using Passes.stay campaign [task]
  have unlocked : Passes (fun _ => 0) campaign (campaign.unlock, []) := .quiet (.inl rfl) rfl rfl
  cases task with
  | lock tick other left =>
      cases reply with
      | wakeup =>
          unfold Campaign.resume
          dsimp only
          split
          · unfold Campaign.doBattle
            split
            · exact (leaveBattle_passes (some (tick, left)) campaign).drop
                (.lock tick other left)
            · exact stay (.calcBattleResult tick other left)
          · exact stay (.lock tick other left)
      | _ => exact stay (.lock tick other left)
  | calcBattleResult tick other left =>
      cases reply with
      | battle battle =>
          exact ((battleDone_passes settings other battle campaign).trans
            (endBattle_passes settings _ _ _ _)).trans (awaitGrid_passes _ _ _)
      | failed =>
          exact ((battleFailed_passes other campaign).trans
            (leaveBattle_passes (some (tick, left)) _)).drop (.calcBattleResult tick other left)
      | raise => exact unlocked.drop (.calcBattleResult tick other left)
      | _ => exact stay (.calcBattleResult tick other left)
  | onCampaignEnd loop task =>
      cases reply with
      | done =>
          have moved : Passes (fun _ => 0) campaign
              ({ campaign with grid := (campaign.grid.proceed settings.grid task .done).1 }, []) :=
            .quiet (.inl rfl) rfl rfl
          exact moved.trans (awaitGrid_passes loop _ _)
      | raise =>
          cases loop with
          | none => exact .quiet (.inl rfl) rfl rfl
          | some => exact unlocked
      | _ => exact stay (.onCampaignEnd loop task)

end Passes

section Service

variable (settings : Settings) (trainSpace : ℕ → ℤ) (telling : Telling)

theorem accept_campaign (request : Request) :
    (telling.accept settings request).1.campaign = (telling.campaign.accept settings request).1 ∧
      (telling.accept settings request).2 = (telling.campaign.accept settings request).2 := by
  cases request <;> exact ⟨rfl, rfl⟩

theorem accept_told (request : Request) :
    (telling.accept settings request).1.fought = telling.fought ∧
      (telling.accept settings request).1.pending = telling.pending ∧
        (telling.accept settings request).1.results = telling.results := by
  cases request <;> exact ⟨rfl, rfl, rfl⟩

theorem resume_tasks (task : Task) (reply : Reply) :
    (telling.resume settings trainSpace task reply).2 =
      (telling.campaign.resume settings task reply).2 := by
  unfold Telling.resume
  dsimp only
  split <;> rfl

theorem resume_cases (task : Task) (reply : Reply) :
    let next : Telling :=
      { telling with campaign := (telling.campaign.resume settings task reply).1 }
    (∃ tick info left battle waits, task = .calcBattleResult tick info left ∧
      reply = .battle battle ∧ (telling.resume settings trainSpace task reply).1 =
        next.endBattle trainSpace tick ⟨info, battle⟩ waits) ∨
    (∀ info, task.spends info reply = task.holds info) ∧
      ((telling.resume settings trainSpace task reply).1 = next ∨
        ∃ tick, (telling.resume settings trainSpace task reply).1 = next.tellPending tick) := by
  cases task with
  | lock tick info left => exact .inr ⟨fun _ => rfl, .inl rfl⟩
  | calcBattleResult tick info left =>
      cases reply with
      | battle battle => exact .inl ⟨tick, info, left, battle, _, rfl, rfl, rfl⟩
      | _ => exact .inr ⟨fun _ => rfl, .inl rfl⟩
  | onCampaignEnd loop task =>
      refine .inr ⟨fun _ => rfl, ?_⟩
      rcases loop with _ | ⟨tick, left⟩
      · exact .inl rfl
      · cases reply with
        | done =>
            unfold Telling.resume
            dsimp only
            split
            · exact .inl rfl
            · exact .inr ⟨tick, rfl⟩
        | _ => exact .inl rfl

theorem resume_campaign (task : Task) (reply : Reply) :
    (telling.resume settings trainSpace task reply).1.campaign =
      (telling.campaign.resume settings task reply).1 := by
  obtain ⟨_, _, _, _, _, -, -, resumed⟩ | ⟨-, resumed | ⟨_, resumed⟩⟩ :=
    resume_cases settings trainSpace telling task reply
  · rw [resumed, Telling.endBattle_campaign]
  · rw [resumed]
  · rw [resumed]
    rfl

/-- An army that joined is queued, held, dropped or has fought. -/
def fightLedger (info : Info) : Ledger Telling Task ℤ where
  book telling := telling.campaign.battleQueue.count info +
    (telling.fought.map (·.info)).count info - telling.campaign.joined.count info
  carry := Task.holds info

theorem fightLedger_falls (info : Info) (settings : Settings) (trainSpace : ℕ → ℤ)
    (guard : Guard Telling Request Task Reply) :
    (fightLedger info).FallingBy .any (tellingService settings trainSpace) guard where
  accept request telling others _ _ := by
    obtain ⟨campaign_eq, tasks_eq⟩ := accept_campaign settings telling request
    obtain ⟨fought_eq, -⟩ := accept_told settings telling request
    simp only [Ledger.Falls, fightLedger, tellingService, campaign_eq, tasks_eq, fought_eq]
    cases request with
    | startBattle attacker armyType armyInfos =>
        simp only [Campaign.accept, Campaign.startBattle]
        split
        · simp
        · have sorted := (settings.sort_perm (telling.campaign.battleQueue ++
            telling.campaign.newInfos settings attacker armyType armyInfos)).count_eq info
          simp only [sorted, List.count_append, List.map_nil, List.sum_nil]
          omega
    | onSecond =>
        have passes := checkBattleStart_passes settings telling.campaign
        have held := passes.held info
        simp only [Campaign.accept, passes.joined]
        omega
    | elapse seconds => simp [Campaign.accept]
  resume task reply telling others _ _ _ _ := by
    have passes := resume_passes settings task reply telling.campaign
    have held := passes.held info
    have tasks_eq := resume_tasks settings trainSpace telling task reply
    have campaign_eq := resume_campaign settings trainSpace telling task reply
    simp only [Ledger.Falls, fightLedger, tellingService, campaign_eq, tasks_eq, passes.joined]
    obtain ⟨tick, other, left, battle, waits, rfl, rfl, resumed⟩ | ⟨spends, resumed⟩ :=
      resume_cases settings trainSpace telling task reply
    · rw [resumed, Telling.endBattle_fought, List.map_cons, List.count_cons]
      simp only [Task.spends, Task.holds, List.count_singleton] at held ⊢
      split at * <;> omega
    · have fought_eq :
          (telling.resume settings trainSpace task reply).1.fought = telling.fought := by
        obtain resumed | ⟨tick, resumed⟩ := resumed <;> rw [resumed]
        rfl
      rw [spends info] at held
      rw [fought_eq]
      omega

end Service

/-- Every call of `startBattle` has its own number, its player and its number of armies. -/
structure Called (campaign : Campaign) : Prop extends Numbered campaign where
  attack : ∀ info ∈ campaign.joined, info.attack < campaign.nextSerial
  battleNum : ∀ info ∈ campaign.joined,
    info.battleNum = (campaign.joined.filter (·.attack = info.attack)).length
  attacker : ∀ info ∈ campaign.joined, ∀ other ∈ campaign.joined, info.attack = other.attack →
    info.attacker = other.attacker

theorem mem_newInfos {settings : Settings} {attacker : Owner} {armyType : ArmyType}
    {armyInfos : List FightArmy} {campaign : Campaign} {info : Info}
    (info_mem : info ∈ campaign.newInfos settings attacker armyType armyInfos) :
    info.attack = campaign.nextSerial ∧ info.battleNum = armyInfos.length ∧
      info.attacker = attacker ∧ armyInfos ≠ [] := by
  simp only [Campaign.newInfos, List.mem_mapIdx] at info_mem
  obtain ⟨index, index_lt, rfl⟩ := info_mem
  refine ⟨rfl, rfl, rfl, ?_⟩
  rintro rfl
  exact absurd index_lt (Nat.not_lt_zero index)

theorem startBattle_called (settings : Settings) (attacker : Owner) (armyType : ArmyType)
    (armyInfos : List FightArmy) {campaign : Campaign} (called : Called campaign) :
    Called (campaign.startBattle settings attacker armyType armyInfos) where
  toNumbered := startBattle_numbered settings attacker armyType armyInfos called.toNumbered
  attack := by
    unfold Campaign.startBattle
    split
    · exact called.attack
    · intro info info_mem
      obtain old | new := List.mem_append.mp info_mem
      · exact (called.attack info old).trans_le (Nat.le_add_right _ _)
      · obtain ⟨attack_eq, -, -, some_army⟩ := mem_newInfos new
        have positive := List.length_pos_iff.mpr some_army
        simp only [attack_eq]
        omega
  battleNum := by
    unfold Campaign.startBattle
    split
    · exact called.battleNum
    · let infos := campaign.newInfos settings attacker armyType armyInfos
      have length_eq : infos.length = armyInfos.length := List.length_mapIdx
      intro info info_mem
      simp only [List.filter_append, List.length_append]
      obtain old | new := List.mem_append.mp info_mem
      · have none_new : infos.filter (·.attack = info.attack) = [] := by
          refine List.filter_eq_nil_iff.mpr fun other other_mem same => ?_
          have attack_lt := called.attack info old
          rw [← of_decide_eq_true same, (mem_newInfos other_mem).1] at attack_lt
          exact absurd attack_lt (lt_irrefl _)
        rw [none_new, called.battleNum info old, List.length_nil, Nat.add_zero]
      · obtain ⟨attack_eq, battleNum_eq, -⟩ := mem_newInfos new
        have none_old : campaign.joined.filter (·.attack = info.attack) = [] := by
          refine List.filter_eq_nil_iff.mpr fun other other_mem same => ?_
          have attack_lt := called.attack other other_mem
          rw [of_decide_eq_true same, attack_eq] at attack_lt
          exact absurd attack_lt (lt_irrefl _)
        have all_new : infos.filter (·.attack = info.attack) = infos := by
          refine List.filter_eq_self.mpr fun other other_mem => ?_
          rw [(mem_newInfos other_mem).1, attack_eq]
          exact decide_eq_true rfl
        rw [none_old, all_new, battleNum_eq, length_eq, List.length_nil, Nat.zero_add]
  attacker := by
    unfold Campaign.startBattle
    split
    · exact called.attacker
    · have apart : ∀ old ∈ campaign.joined,
          ∀ new ∈ campaign.newInfos settings attacker armyType armyInfos,
            old.attack ≠ new.attack := by
        intro old old_mem new new_mem same
        have attack_lt := called.attack old old_mem
        rw [same, (mem_newInfos new_mem).1] at attack_lt
        exact absurd attack_lt (lt_irrefl _)
      intro info info_mem other other_mem same
      obtain old | new := List.mem_append.mp info_mem <;>
        obtain other_old | other_new := List.mem_append.mp other_mem
      · exact called.attacker info old other other_old same
      · exact absurd same (apart info old other other_new)
      · exact absurd same.symm (apart other other_old info new)
      · rw [(mem_newInfos new).2.2.1, (mem_newInfos other_new).2.2.1]

theorem Called.of_passes {spent : Info → ℤ} {campaign : Campaign}
    {result : Campaign × List Task} (called : Called campaign)
    (passes : Passes spent campaign result) : Called result.1 := by
  obtain ⟨⟨nodup, serial_lt⟩, attack, battleNum, attacker⟩ := called
  constructor
  · exact ⟨by rwa [passes.joined], by rwa [passes.joined, passes.nextSerial]⟩
  · rwa [passes.joined, passes.nextSerial]
  · rwa [passes.joined]
  · rwa [passes.joined]

/-- What the players are told of an attack, as its battles say it: the number of armies is reached
by the battles of the attack alone. -/
def replay (trainSpace : ℕ → ℤ) : List Fight → List (ℕ × ℕ × ℤ × BattleResult)
  | [] => []
  | fight :: earlier =>
      if earlier.length + 1 = fight.info.battleNum then
        (fight.info.attacker.playerId, earlier.length + 1,
          ((fight :: earlier).map (Fight.loss trainSpace)).sum, .lose) ::
          replay trainSpace earlier
      else replay trainSpace earlier

def SelfBattleResult.content (result : SelfBattleResult) : ℕ × ℕ × ℤ × BattleResult :=
  (result.playerId, result.battleTotal, result.reserveTotal.getD 0, result.battleResult)

/-- While an attack only loses, the players are told what its battles say. -/
structure Replays (trainSpace : ℕ → ℤ) (attack : ℕ) (telling : Telling) : Prop where
  pending : ∀ tick result, telling.pending tick = some result →
    ∃ fight ∈ telling.battles result.attack, fight.battle.result = .win
  told : (∀ fight ∈ telling.battles attack, fight.battle.result = .lose) →
    (telling.told attack).map SelfBattleResult.content =
      replay trainSpace (telling.battles attack)

namespace Replays

variable {trainSpace : ℕ → ℤ} {attack : ℕ} {telling next : Telling}

theorem quiet (replays : Replays trainSpace attack telling) (fought : next.fought = telling.fought)
    (pending : next.pending = telling.pending) (results : next.results = telling.results) :
    Replays trainSpace attack next := by
  have battles : next.battles = telling.battles := by
    funext other
    rw [Telling.battles, fought, Telling.battles]
  have told : next.told = telling.told := by
    funext other
    rw [Telling.told, results, Telling.told]
  refine ⟨?_, ?_⟩
  · rw [pending, battles]
    exact replays.pending
  · rw [told, battles]
    exact replays.told

theorem tellPending (replays : Replays trainSpace attack telling) (tick : ℕ) :
    Replays trainSpace attack (telling.tellPending tick) where
  pending other result waits := by
    simp only [Telling.tellPending, Function.update_apply] at waits
    split at waits
    · cases waits
    · exact replays.pending other result waits
  told lost := by
    have told_eq : (telling.tellPending tick).told attack = telling.told attack := by
      unfold Telling.told Telling.tellPending
      dsimp only
      rw [List.filter_append]
      cases waits : telling.pending tick with
      | none => rfl
      | some result =>
          obtain ⟨fight, fight_mem, won⟩ := replays.pending tick result waits
          have other : result.attack ≠ attack := by
            rintro rfl
            exact absurd ((lost fight fight_mem).symm.trans won) (by decide)
          simp [other]
    rw [told_eq]
    exact replays.told lost

theorem endBattle (replays : Replays trainSpace attack telling) {tick : ℕ} {fight : Fight}
    (waits : Bool)
    (alone : fight.info.attack = attack →
      ((telling.statistics tick fight.info.attacker.playerId).getD ⟨0, none⟩).battleNum =
          (telling.battles attack).length ∧
        ((telling.statistics tick fight.info.attacker.playerId).getD
          ⟨0, none⟩).reserveCount.getD 0 =
            ((telling.battles attack).map (Fight.loss trainSpace)).sum) :
    Replays trainSpace attack (telling.endBattle trainSpace tick fight waits) where
  pending other result pending := by
    have kept : ∀ earlier ∈ telling.battles result.attack, earlier ∈
        (telling.endBattle trainSpace tick fight waits).battles result.attack := by
      intro earlier earlier_mem
      by_cases own : fight.info.attack = result.attack
      · rw [Telling.battles_endBattle_of_own own]
        exact List.mem_cons_of_mem _ earlier_mem
      · rwa [Telling.battles_endBattle_of_ne own]
    obtain old | ⟨won, same⟩ := Telling.pending_endBattle pending
    · obtain ⟨earlier, earlier_mem, won⟩ := replays.pending other result old
      exact ⟨earlier, kept earlier earlier_mem, won⟩
    · rw [Telling.battles_endBattle_of_own same.symm]
      exact ⟨fight, List.mem_cons_self, won⟩
  told lost := by
    by_cases own : fight.info.attack = attack
    · rw [Telling.battles_endBattle_of_own own] at lost ⊢
      have earlier_told := replays.told fun earlier earlier_mem =>
        lost earlier (List.mem_cons_of_mem _ earlier_mem)
      obtain ⟨battleNum_eq, reserve_eq⟩ := alone own
      rw [Telling.told_endBattle_of_lose (lost fight List.mem_cons_self) own, replay]
      dsimp only
      rw [count_battleNum, battleNum_eq]
      by_cases reached : (telling.battles attack).length + 1 = fight.info.battleNum
      · rw [if_pos reached, if_pos reached, List.map_cons, earlier_told, SelfBattleResult.content]
        dsimp only
        rw [count_reserveCount, reserve_eq, List.map_cons, List.sum_cons,
          add_comm (fight.loss trainSpace)]
      · rw [if_neg reached, if_neg reached, earlier_told]
    · rw [Telling.battles_endBattle_of_ne own] at lost ⊢
      rw [Telling.told_endBattle_of_ne own]
      exact replays.told lost

end Replays

def resultPool (trainSpace : ℕ → ℤ) (attack : ℕ) : Pool Telling Task where
  shared telling := Called telling.campaign ∧ Replays trainSpace attack telling
  own _ _ := True
  apart _ _ := True
  apart_symm apart := apart

theorem resultPool_keeps {trainSpace : ℕ → ℤ} {attack : ℕ} {others : List Task}
    {result : Telling × List Task} (called : Called result.1.campaign)
    (replays : Replays trainSpace attack result.1) :
    (resultPool trainSpace attack).Keeps others result where
  shared := ⟨called, replays⟩
  stable _ _ := trivial
  fresh _ _ := trivial
  apart _ _ _ _ := trivial
  fresh_apart := List.pairwise_of_forall fun _ _ => trivial

section

variable (settings : Settings) (trainSpace : ℕ → ℤ)

theorem resultPool_kept (attack : ℕ) :
    (resultPool trainSpace attack).KeptBy (tellingService settings trainSpace)
      (countedAlone trainSpace attack) where
  accept request telling others holds _ := by
    obtain ⟨called, replays⟩ : Called telling.campaign ∧ Replays trainSpace attack telling :=
      holds.shared
    obtain ⟨campaign_eq, -⟩ := accept_campaign settings telling request
    obtain ⟨fought_eq, pending_eq, results_eq⟩ := accept_told settings telling request
    refine resultPool_keeps ?_ (replays.quiet fought_eq pending_eq results_eq)
    rw [tellingService, campaign_eq]
    cases request with
    | startBattle attacker armyType armyInfos =>
        exact startBattle_called settings attacker armyType armyInfos called
    | onSecond =>
        exact called.of_passes (checkBattleStart_passes settings telling.campaign)
    | elapse seconds =>
        exact ⟨⟨called.nodup, called.lt⟩, called.attack, called.battleNum, called.attacker⟩
  resume task reply telling others holds _ _ allows := by
    obtain ⟨called, replays⟩ : Called telling.campaign ∧ Replays trainSpace attack telling :=
      holds.shared
    have called_next : Called (telling.resume settings trainSpace task reply).1.campaign := by
      rw [resume_campaign]
      exact called.of_passes (resume_passes settings task reply telling.campaign)
    refine resultPool_keeps called_next ?_
    have moved : Replays trainSpace attack
        { telling with campaign := (telling.campaign.resume settings task reply).1 } :=
      replays.quiet rfl rfl rfl
    rw [tellingService]
    obtain ⟨tick, info, left, battle, waits, rfl, rfl, resumed⟩ |
      ⟨-, resumed | ⟨tick, resumed⟩⟩ := resume_cases settings trainSpace telling task reply
    · rw [resumed]
      exact moved.endBattle waits allows
    · rw [resumed]
      exact moved
    · rw [resumed]
      exact moved.tellPending tick

theorem resultPool_start (attack : ℕ) (builds : List BattleBuild) (grid : Grid) :
    (resultPool trainSpace attack).Holds (tellingStart settings builds grid) where
  shared := by
    refine ⟨⟨⟨List.nodup_nil, ?_⟩, ?_, ?_, ?_⟩, ⟨?_, fun _ => rfl⟩⟩ <;>
      simp [tellingStart, Campaign.init]
  own _ _ := trivial
  apart := .nil

theorem count_fought_le (builds : List BattleBuild) (grid : Grid)
    (events : List (Event Request Reply)) (info : Info) :
    let telling := ((tellingService settings trainSpace).run
      (tellingStart settings builds grid) events).state
    (telling.fought.map (·.info)).count info ≤ telling.campaign.joined.count info := by
  have falls := (fightLedger_falls info settings trainSpace .free).total_run
    (Pool.any_kept _ _) (Guard.free_admits _ (tellingStart settings builds grid) events)
    (Pool.any_holds _)
  have start_total : (fightLedger info).total (tellingStart settings builds grid) = 0 := rfl
  have held_nonneg : ∀ tasks : List Task, 0 ≤ (tasks.map (Task.holds info)).sum := fun tasks =>
    List.sum_nonneg fun amount amount_mem => by
      obtain ⟨task, -, rfl⟩ := List.mem_map.mp amount_mem
      cases task <;> simp [Task.holds]
  have tasks_nonneg := held_nonneg ((tellingService settings trainSpace).run
    (tellingStart settings builds grid) events).waiting
  rw [start_total] at falls
  simp only [Ledger.total, fightLedger] at falls
  dsimp only
  omega

end

theorem replay_of_lt {trainSpace : ℕ → ℤ} {fights : List Fight} {battleNum : ℕ}
    (short : fights.length < battleNum)
    (same : ∀ fight ∈ fights, fight.info.battleNum = battleNum) :
    replay trainSpace fights = [] := by
  induction fights with
  | nil => rfl
  | cons fight earlier ih =>
      rw [List.length_cons] at short
      have fight_num := same fight List.mem_cons_self
      rw [replay, if_neg (by omega)]
      exact ih (by omega) fun other other_mem => same other (List.mem_cons_of_mem _ other_mem)

theorem replay_of_length {trainSpace : ℕ → ℤ} {fight : Fight} {earlier : List Fight}
    (same : ∀ other ∈ fight :: earlier, other.info.battleNum = earlier.length + 1) :
    replay trainSpace (fight :: earlier) =
      [(fight.info.attacker.playerId, earlier.length + 1,
        ((fight :: earlier).map (Fight.loss trainSpace)).sum, .lose)] := by
  rw [replay, if_pos (same fight List.mem_cons_self).symm, replay_of_lt (Nat.lt_succ_self _)
    fun other other_mem => same other (List.mem_cons_of_mem _ other_mem)]

/-- An attack whose armies are counted alone is told of once when all of them have lost. -/
theorem toldOnce_run (settings : Settings) (trainSpace : ℕ → ℤ) (builds : List BattleBuild)
    (grid : Grid) (events : List (Event Request Reply)) (attack : ℕ)
    (admits : (countedAlone trainSpace attack).Admits (tellingService settings trainSpace)
      (tellingStart settings builds grid) events)
    (lost : ((tellingService settings trainSpace).run (tellingStart settings builds grid)
      events).state.Lost attack) :
    ((tellingService settings trainSpace).run (tellingStart settings builds grid)
      events).state.ToldOnce trainSpace attack := by
  have holds := (resultPool_kept settings trainSpace attack).holds_run admits
    (resultPool_start settings trainSpace attack builds grid)
  have fought_le := count_fought_le settings trainSpace builds grid events
  obtain ⟨called, replays⟩ := holds.shared
  generalize ((tellingService settings trainSpace).run (tellingStart settings builds grid)
    events).state = telling at *
  have joined_nodup : telling.campaign.joined.Nodup := called.nodup.of_map
  have fought_nodup : (telling.fought.map (·.info)).Nodup := List.nodup_iff_count_le_one.mpr
    fun info => (fought_le info).trans (List.nodup_iff_count_le_one.mp joined_nodup info)
  have fought_joined : ∀ fight ∈ telling.fought, fight.info ∈ telling.campaign.joined :=
    fun fight fight_mem => List.count_pos_iff.mp
      ((List.count_pos_iff.mpr (List.mem_map_of_mem fight_mem)).trans_le (fought_le fight.info))
  have of_battles : ∀ fight ∈ telling.battles attack, fight.info ∈ telling.armies attack := by
    intro fight fight_mem
    obtain ⟨fought, own⟩ := List.mem_filter.mp fight_mem
    exact List.mem_filter.mpr ⟨fought_joined fight fought, own⟩
  -- Every army of the attack has fought once.
  have perm : ((telling.battles attack).map (·.info)).Perm (telling.armies attack) := by
    refine (List.perm_ext_iff_of_nodup (fought_nodup.sublist (List.filter_sublist.map _))
      (joined_nodup.filter _)).mpr fun info => ?_
    rw [List.mem_map]
    constructor
    · rintro ⟨fight, fight_mem, rfl⟩
      exact of_battles fight fight_mem
    · exact lost.fought info
  have length_eq : (telling.battles attack).length = (telling.armies attack).length := by
    simpa using perm.length_eq
  have battleNum : ∀ fight ∈ telling.battles attack,
      fight.info.battleNum = (telling.battles attack).length := by
    intro fight fight_mem
    obtain ⟨joined, own⟩ := List.mem_filter.mp (of_battles fight fight_mem)
    rw [called.battleNum fight.info joined, length_eq, of_decide_eq_true own, Telling.armies]
  have told := replays.told lost.lost
  obtain ⟨fight, earlier, battles_eq⟩ : ∃ fight earlier,
      telling.battles attack = fight :: earlier := by
    refine List.exists_cons_of_ne_nil fun none_fought => lost.armies ?_
    rw [none_fought, List.length_nil] at length_eq
    exact List.length_eq_zero_iff.mp length_eq.symm
  rw [battles_eq] at battleNum
  rw [battles_eq, replay_of_length battleNum] at told
  obtain ⟨result, told_eq, content⟩ := List.map_eq_singleton_iff.mp told
  simp only [SelfBattleResult.content, Prod.mk.injEq] at content
  obtain ⟨playerId, battleTotal, reserveTotal, battleResult⟩ := content
  refine ⟨result, told_eq, fun info info_mem => ?_, ?_, ?_, battleResult⟩
  · obtain ⟨joined, own⟩ := List.mem_filter.mp info_mem
    obtain ⟨fight_joined, fight_own⟩ :=
      List.mem_filter.mp (of_battles fight (battles_eq ▸ List.mem_cons_self))
    rw [playerId, called.attacker info joined fight.info fight_joined
      ((of_decide_eq_true own).trans (of_decide_eq_true fight_own).symm)]
  · rw [battleTotal, ← length_eq, battles_eq, List.length_cons]
  · rw [reserveTotal, battles_eq]

/-- Both armies of an attack lose in one tick. -/
def togetherRun : List (Event Request Reply) :=
  [.request (.startBattle ⟨1, 9, false⟩ .union [sampleArmy, sampleArmy]), .request (.elapse 1),
    .request .onSecond, .reply 0 (.battle ⟨.lose, [], [⟨1, 1, 2⟩], false⟩),
    .reply 0 (.battle ⟨.lose, [], [⟨1, 1, 3⟩], false⟩)]

theorem toldOnce_togetherRun :
    ((tellingService { sampleSettings with battleInterval := 0 } fun _ => 1).run
      (tellingStart { sampleSettings with battleInterval := 0 } [⟨1, 100, 100⟩]
        (Grid.init Starmap.sampleSettings 0)) togetherRun).state.ToldOnce (fun _ => 1) 0 :=
  toldOnce_run _ _ _ _ togetherRun 0 (by decide) ⟨by decide, by decide, by decide⟩

/-- The second army of the attack is due a second later and loses in another tick. -/
def apartRun : List (Event Request Reply) :=
  [.request (.startBattle ⟨1, 9, false⟩ .union [sampleArmy, sampleArmy]), .request (.elapse 1),
    .request .onSecond, .reply 0 (.battle ⟨.lose, [], [⟨1, 1, 2⟩], false⟩), .request (.elapse 1),
    .request .onSecond, .reply 0 (.battle ⟨.lose, [], [⟨1, 1, 3⟩], false⟩)]

theorem not_toldOnce_apartRun :
    ¬ ∀ (settings : Settings) (trainSpace : ℕ → ℤ) (builds : List BattleBuild) (grid : Grid)
      (events : List (Event Request Reply)) (attack : ℕ),
      ((tellingService settings trainSpace).run (tellingStart settings builds grid)
        events).state.Lost attack →
      ((tellingService settings trainSpace).run (tellingStart settings builds grid)
        events).state.ToldOnce trainSpace attack := by
  intro always
  obtain ⟨result, told, -⟩ := always sampleSettings (fun _ => 1) [⟨1, 100, 100⟩]
    (Grid.init Starmap.sampleSettings 0) apartRun 0 ⟨by decide, by decide, by decide⟩
  have untold : ((tellingService sampleSettings fun _ => 1).run
      (tellingStart sampleSettings [⟨1, 100, 100⟩] (Grid.init Starmap.sampleSettings 0))
      apartRun).state.told 0 = [] := by decide
  rw [untold] at told
  cases told

end BasWar.Starmap.Campaigns
