import BasWar.Starmap.CampaignEnd
import BasWar.Tables.Documents
import BasWar.Tables.Journal

/-!
# Saved campaigns

A campaign is saved as a document and loaded again when the star map starts, or when somebody asks
for its reports.  Its tables are spelled out, and of the unions that have joined only a list of ids
is kept.
-/

namespace BasWar.Starmap.SavedCampaigns

open Tables
open Campaigns (ArmyType BattleBuild BattleEnd FightArmy Info Report Statistics hitBuild)

structure Defender where
  playerId : ℕ
  playerName : String
  playerLevel : ℕ
  playerScore : ℤ
  playerHead : String
  unionName : String
  unionFlag : ℕ
  unionId : ℕ
  presidentName : String

structure Campaign where
  gridCfgId : ℕ
  campaignId : ℕ
  defender : Defender
  startTime : ℤ
  campaignEndTick : ℤ
  builds : List BattleBuild
  battleQueue : List Info
  reports : List Report
  isEnd : Bool
  /-- The union of each player who has joined. -/
  joinPids : Dict ℕ ℕ
  joinUnionIds : Dict ℕ Bool
  attackContriDegree : Dict ℕ ℚ
  attackerStatistics : Dict ℕ Statistics
  maxHp : ℤ
  maxLoseHp : ℤ

structure CampaignData where
  gridCfgId : ℕ
  campaignId : ℕ
  defender : Defender
  startTime : ℤ
  campaignEndTick : ℤ
  builds : List BattleBuild
  battleQueue : List Info
  reports : List Report
  isEnd : Bool
  joinPids : Dict String ℕ
  joinUnionIds : List ℕ
  attackContriDegree : Dict String ℚ
  attackerStatistics : Dict String Statistics
  maxHp : ℤ
  maxLoseHp : ℤ

def numbered (count : ℕ) : Dict ℕ Bool :=
  Keyed.ofList ((List.range count).map fun index => (index + 1, true))

namespace Campaign

/-- `Campaign:init` of a new campaign. -/
def init (settings : Campaigns.Settings) (gridCfgId campaignId : ℕ) (defender : Defender)
    (builds : List BattleBuild) (startTime now : ℤ) : Campaign where
  gridCfgId := gridCfgId
  campaignId := campaignId
  defender := defender
  startTime := startTime
  campaignEndTick := now + settings.campaignTime * 1000
  builds := builds
  battleQueue := []
  reports := []
  isEnd := false
  joinPids := .empty
  joinUnionIds := .empty
  attackContriDegree := .empty
  attackerStatistics := .empty
  maxHp := (builds.map BattleBuild.maxHp).sum
  maxLoseHp := 0

def serialize (campaign : Campaign) : CampaignData where
  gridCfgId := campaign.gridCfgId
  campaignId := campaign.campaignId
  defender := campaign.defender
  startTime := campaign.startTime
  campaignEndTick := campaign.campaignEndTick
  builds := campaign.builds
  battleQueue := campaign.battleQueue
  reports := campaign.reports
  isEnd := campaign.isEnd
  joinPids := Spelling.nat.toDoc campaign.joinPids
  joinUnionIds := campaign.joinUnionIds.keys
  attackContriDegree := Spelling.nat.toDoc campaign.attackContriDegree
  attackerStatistics := Spelling.nat.toDoc campaign.attackerStatistics
  maxHp := campaign.maxHp
  maxLoseHp := campaign.maxLoseHp

/-- The loop over `joinUnionIds` enters the place of each id in the list, not the id. -/
def deserialize (data : CampaignData) : Option Campaign := do
  let joinPids ← Spelling.nat.ofDoc data.joinPids
  let attackContriDegree ← Spelling.nat.ofDoc data.attackContriDegree
  let attackerStatistics ← Spelling.nat.ofDoc data.attackerStatistics
  return {
    gridCfgId := data.gridCfgId
    campaignId := data.campaignId
    defender := data.defender
    startTime := data.startTime
    campaignEndTick := data.campaignEndTick
    builds := data.builds
    battleQueue := data.battleQueue
    reports := data.reports
    isEnd := data.isEnd
    joinPids := joinPids
    joinUnionIds := numbered data.joinUnionIds.length
    attackContriDegree := attackContriDegree
    attackerStatistics := attackerStatistics
    maxHp := data.maxHp
    maxLoseHp := data.maxLoseHp }

def startBattle (settings : Campaigns.Settings) (attacker : Owner) (armyType : ArmyType)
    (armyInfos : List FightArmy) (now : ℤ) (campaign : Campaign) : Campaign :=
  if campaign.campaignEndTick ≤ now then campaign
  else
    let infos := armyInfos.mapIdx fun index army =>
      { serial := index
        armyType := armyType
        battleTick := now + index * (settings.battleInterval * 1000)
        attacker := attacker
        fightArmy := army
        attack := 0
        battleNum := armyInfos.length }
    { campaign with
      battleQueue := settings.sort (campaign.battleQueue ++ infos)
      joinPids := campaign.joinPids.assign attacker.playerId attacker.unionId
      joinUnionIds :=
        if (campaign.joinUnionIds.lookup attacker.unionId).isSome then campaign.joinUnionIds
        else campaign.joinUnionIds.assign attacker.unionId true }

def addAttackContriDegree (settings : Campaigns.Settings) (attacker : Owner) (diffHp : ℤ)
    (campaign : Campaign) : Campaign :=
  if settings.grid.belongType = .union ∧ 0 < campaign.maxHp then
    { campaign with
      attackContriDegree := campaign.attackContriDegree.assign attacker.playerId
        ((campaign.attackContriDegree.lookup attacker.playerId).getD 0 +
          diffHp / max settings.damageToPerConquest 1) }
  else campaign

/-- `updateBuilds`, with the `hp` that was lost. -/
def updateBuilds (settings : Campaigns.Settings) (results : List (ℕ × ℤ)) (attacker : Owner)
    (campaign : Campaign) : Campaign × ℤ :=
  if results = [] then (campaign, 0)
  else
    let hit := campaign.builds.map fun build =>
      hitBuild build (results.filter (·.1 = build.id))
    let diffHp := (hit.map (·.1)).sum
    let updated : Campaign := { campaign with builds := hit.flatMap (·.2) }
    (updated.addAttackContriDegree settings attacker diffHp, diffHp)

/-- `_addAttackerAtkCnt` and `_addAttackerAtkHp`. -/
def addStatistics (attacker : Owner) (atkCnt : ℕ) (atkHp : ℤ) (campaign : Campaign) : Campaign :=
  let old := (campaign.attackerStatistics.lookup attacker.playerId).getD ⟨0, 0⟩
  { campaign with
    attackerStatistics := campaign.attackerStatistics.assign attacker.playerId
      ⟨old.atkCnt + atkCnt, old.atkHp + atkHp⟩ }

def finish (now : ℤ) (campaign : Campaign) : Campaign :=
  { campaign with isEnd := true, campaignEndTick := now, battleQueue := [] }

/-- `doBattle`, once the result is there. -/
def doBattle (settings : Campaigns.Settings) (attacker : Owner) (battle : BattleEnd) (now : ℤ)
    (campaign : Campaign) : Campaign :=
  let (updated, loseHp) := campaign.updateBuilds settings battle.builds attacker
  let counted :=
    ({ updated with maxLoseHp := max updated.maxLoseHp loseHp }.addStatistics attacker 0
      loseHp).addStatistics attacker 1 0
  let leftHp := (counted.builds.map BattleBuild.hp).sum
  let reported : Campaign :=
    { counted with
      reports := counted.reports ++ [⟨attacker.playerId, battle.result, leftHp, loseHp⟩] }
  match battle.result with
  | .win | .unknow => reported.finish now
  | .lose | .offline => reported

/-- `checkBattleStart` takes the first entry, unless its time has not come. -/
def takeFirst (now : ℤ) (campaign : Campaign) : Campaign :=
  match campaign.battleQueue with
  | [] => campaign
  | info :: rest =>
      if info.battleTick < now then { campaign with battleQueue := rest } else campaign

/-- `checkBattleStart` after the end of the campaign's time. -/
def timeOut (now : ℤ) (campaign : Campaign) : Campaign :=
  if campaign.isEnd = false ∧ campaign.campaignEndTick < now then campaign.finish now else campaign

/-- The same as another campaign, as far as a document tells. -/
structure Same (loaded campaign : Campaign) : Prop where
  gridCfgId : loaded.gridCfgId = campaign.gridCfgId
  campaignId : loaded.campaignId = campaign.campaignId
  defender : loaded.defender = campaign.defender
  startTime : loaded.startTime = campaign.startTime
  campaignEndTick : loaded.campaignEndTick = campaign.campaignEndTick
  builds : loaded.builds = campaign.builds
  battleQueue : loaded.battleQueue = campaign.battleQueue
  reports : loaded.reports = campaign.reports
  isEnd : loaded.isEnd = campaign.isEnd
  joinPids : ∀ pid, loaded.joinPids.lookup pid = campaign.joinPids.lookup pid
  joinUnionIds : ∀ unionId, unionId ∈ loaded.joinUnionIds.keys ↔
    unionId ∈ campaign.joinUnionIds.keys
  attackContriDegree : ∀ pid,
    loaded.attackContriDegree.lookup pid = campaign.attackContriDegree.lookup pid
  attackerStatistics : ∀ pid,
    loaded.attackerStatistics.lookup pid = campaign.attackerStatistics.lookup pid
  maxHp : loaded.maxHp = campaign.maxHp
  maxLoseHp : loaded.maxLoseHp = campaign.maxLoseHp

/-- The campaign is the same after it is saved and loaded. -/
def RoundTrips (campaign : Campaign) : Prop :=
  ∃ loaded, deserialize campaign.serialize = some loaded ∧ loaded.Same campaign

end Campaign

inductive Event
  | startBattle (attacker : Owner) (armyType : ArmyType) (armyInfos : List FightArmy) (now : ℤ)
  | takeFirst (now : ℤ)
  | doBattle (attacker : Owner) (battle : BattleEnd) (now : ℤ)
  | timeOut (now : ℤ)
  /-- The star map starts again from what was saved. -/
  | load

def machine (settings : Campaigns.Settings) : Machine Campaign Event Unit where
  step campaign event :=
    (match event with
      | .startBattle attacker armyType armyInfos now =>
          campaign.startBattle settings attacker armyType armyInfos now
      | .takeFirst now => campaign.takeFirst now
      | .doBattle attacker battle now => campaign.doBattle settings attacker battle now
      | .timeOut now => campaign.timeOut now
      | .load => (Campaign.deserialize campaign.serialize).getD campaign,
      [])

/-- A union that joins has joined before, or its id is the number of unions then. -/
def Event.JoinsInTurn (campaign : Campaign) : Event → Prop
  | .startBattle attacker _ _ now =>
      campaign.campaignEndTick ≤ now ∨ attacker.unionId ∈ campaign.joinUnionIds.keys ∨
        attacker.unionId = campaign.joinUnionIds.keys.length + 1
  | _ => True

instance (campaign : Campaign) (event : Event) : Decidable (event.JoinsInTurn campaign) := by
  cases event <;> unfold Event.JoinsInTurn <;> dsimp only <;> infer_instance

/-- The ids of the unions that have joined are 1, 2 and so on. -/
def Campaign.CountsUp (campaign : Campaign) : Prop :=
  ∀ unionId, unionId ∈ campaign.joinUnionIds.keys ↔
    1 ≤ unionId ∧ unionId ≤ campaign.joinUnionIds.keys.length

section Loading

variable {campaign : Campaign}

theorem keys_numbered (count : ℕ) :
    (numbered count).keys = (List.range count).map fun index => index + 1 := by
  have keys_eq : ((List.range count).map fun index => (index + 1, true)).map
      (Prod.fst : ℕ × Bool → ℕ) = (List.range count).map fun index => index + 1 := by
    rw [List.map_map]
    rfl
  have nodup : ((List.range count).map fun index => index + 1).Nodup :=
    List.nodup_range.map fun first second same => by simpa using same
  rw [Dict.keys, numbered, Keyed.ofList, Keyed.foldl_set]
  · rw [Keyed.empty, List.nil_append, keys_eq]
  · rw [Keyed.empty, List.nil_append, keys_eq]
    exact nodup

theorem mem_keys_numbered {count unionId : ℕ} :
    unionId ∈ (numbered count).keys ↔ 1 ≤ unionId ∧ unionId ≤ count := by
  rw [keys_numbered, List.mem_map]
  constructor
  · rintro ⟨index, index_mem, rfl⟩
    rw [List.mem_range] at index_mem
    omega
  · intro bounds
    exact ⟨unionId - 1, List.mem_range.mpr (by omega), by omega⟩

theorem deserialize_serialize (campaign : Campaign) :
    Campaign.deserialize campaign.serialize =
      some { campaign with joinUnionIds := numbered campaign.joinUnionIds.keys.length } := by
  simp only [Campaign.deserialize, Campaign.serialize, Spelling.ofDoc_toDoc]
  rfl

theorem roundTrips_iff : campaign.RoundTrips ↔ campaign.CountsUp := by
  constructor
  · rintro ⟨loaded, loaded_eq, same⟩ unionId
    rw [deserialize_serialize] at loaded_eq
    cases loaded_eq
    rw [← same.joinUnionIds unionId]
    exact mem_keys_numbered
  · intro counts
    refine ⟨_, deserialize_serialize campaign, ?_⟩
    refine ⟨rfl, rfl, rfl, rfl, rfl, rfl, rfl, rfl, rfl, fun _ => rfl, fun unionId => ?_,
      fun _ => rfl, fun _ => rfl, rfl, rfl⟩
    rw [counts unionId]
    exact mem_keys_numbered

end Loading

section Joining

variable {settings : Campaigns.Settings} {campaign : Campaign}

theorem keys_joined (unionId : ℕ) (joinUnionIds : Dict ℕ Bool) :
    (if (joinUnionIds.lookup unionId).isSome then joinUnionIds
      else joinUnionIds.assign unionId true).keys =
      if unionId ∈ joinUnionIds.keys then joinUnionIds.keys
      else joinUnionIds.keys ++ [unionId] := by
  have present_iff : (joinUnionIds.lookup unionId).isSome ↔ unionId ∈ joinUnionIds.keys := by
    rw [Dict.lookup, Option.isSome_map, Option.isSome_iff_ne_none, ne_eq, Keyed.get_none_iff,
      not_not]
    rfl
  by_cases joined : unionId ∈ joinUnionIds.keys
  · rw [if_pos (present_iff.mpr joined), if_pos joined]
  · rw [if_neg (mt present_iff.mp joined), if_neg joined]
    have absent : joinUnionIds.get unionId = none := Keyed.get_none_iff.mpr joined
    rw [Dict.keys, Dict.assign, Keyed.set_absent absent, List.map_append]
    rfl

theorem countsUp_append {ids : List ℕ}
    (counts : ∀ unionId, unionId ∈ ids ↔ 1 ≤ unionId ∧ unionId ≤ ids.length) {joined : ℕ}
    (absent : joined ∉ ids) :
    (∀ unionId, unionId ∈ ids ++ [joined] ↔
      1 ≤ unionId ∧ unionId ≤ (ids ++ [joined]).length) ↔ joined = ids.length + 1 := by
  simp only [List.mem_append, List.mem_singleton, List.length_append, List.length_singleton,
    counts]
  rw [counts] at absent
  constructor
  · intro always
    have last := (always joined).mp (.inr rfl)
    omega
  · intro next unionId
    omega

theorem countsUp_startBattle (counts : campaign.CountsUp) (attacker : Owner)
    (armyType : ArmyType) (armyInfos : List FightArmy) (now : ℤ) :
    (campaign.startBattle settings attacker armyType armyInfos now).CountsUp ↔
      (Event.startBattle attacker armyType armyInfos now).JoinsInTurn campaign := by
  unfold Campaign.startBattle Event.JoinsInTurn
  split
  next ended => exact iff_of_true counts (.inl ended)
  next running =>
    simp only [running, false_or]
    unfold Campaign.CountsUp
    dsimp only
    rw [keys_joined]
    by_cases joined : attacker.unionId ∈ campaign.joinUnionIds.keys
    · simp only [joined, if_true, true_or, iff_true]
      exact counts
    · simp only [joined, if_false, false_or]
      exact countsUp_append counts joined

theorem doBattle_joinUnionIds (settings : Campaigns.Settings) (attacker : Owner)
    (battle : BattleEnd) (now : ℤ) (campaign : Campaign) :
    (campaign.doBattle settings attacker battle now).joinUnionIds = campaign.joinUnionIds := by
  have updated :
      (campaign.updateBuilds settings battle.builds attacker).1.joinUnionIds =
        campaign.joinUnionIds := by
    unfold Campaign.updateBuilds
    split
    · rfl
    · dsimp only
      unfold Campaign.addAttackContriDegree
      split <;> rfl
  unfold Campaign.doBattle
  dsimp only
  split <;> exact updated

theorem countsUp_step (counts : campaign.CountsUp) (event : Event) :
    ((machine settings).step campaign event).1.CountsUp ↔ event.JoinsInTurn campaign := by
  have unchanged {after : Campaign} (same : after.joinUnionIds = campaign.joinUnionIds) :
      after.CountsUp := by
    rw [Campaign.CountsUp, same]
    exact counts
  cases event with
  | startBattle attacker armyType armyInfos now =>
      exact countsUp_startBattle counts attacker armyType armyInfos now
  | takeFirst now =>
      refine iff_of_true (unchanged ?_) trivial
      simp only [machine, Campaign.takeFirst]
      split
      · rfl
      · split <;> rfl
  | doBattle attacker battle now =>
      exact iff_of_true (unchanged (doBattle_joinUnionIds settings attacker battle now campaign))
        trivial
  | timeOut now =>
      refine iff_of_true (unchanged ?_) trivial
      simp only [machine, Campaign.timeOut]
      split <;> rfl
  | load =>
      refine iff_of_true ?_ trivial
      simp only [machine, deserialize_serialize, Option.getD_some]
      intro unionId
      rw [mem_keys_numbered, keys_numbered, List.length_map, List.length_range]

end Joining

/-- A campaign is the same after it is saved and loaded, at every time of a run, exactly if its
unions join in the order of their ids, from 1 on. -/
theorem roundTrips_run (settings : Campaigns.Settings) (gridCfgId campaignId : ℕ)
    (defender : Defender) (builds : List BattleBuild) (startTime now : ℤ) (events : List Event) :
    (∀ count, ((machine settings).run
      (.init settings gridCfgId campaignId defender builds startTime now)
      (events.take count)).1.RoundTrips) ↔
      (machine settings).Allowed (fun campaign event => event.JoinsInTurn campaign)
        (.init settings gridCfgId campaignId defender builds startTime now) events := by
  simp only [roundTrips_iff]
  have counts : (Campaign.init settings gridCfgId campaignId defender builds startTime
      now).CountsUp := by
    intro unionId
    simp only [Campaign.init, Dict.keys, Keyed.empty, List.map_nil, List.not_mem_nil,
      List.length_nil, false_iff]
    omega
  revert counts
  generalize Campaign.init settings gridCfgId campaignId defender builds startTime now = campaign
  intro counts
  induction events generalizing campaign with
  | nil => simpa [Machine.run, Machine.Allowed] using counts
  | cons event events ih =>
      rw [Machine.Allowed]
      constructor
      · intro always
        have first : ((machine settings).step campaign event).1.CountsUp := always 1
        exact ⟨(countsUp_step counts event).mp first,
          (ih _ first).mp fun count => always (count + 1)⟩
      · rintro ⟨in_turn, rest⟩ count
        have first : ((machine settings).step campaign event).1.CountsUp :=
          (countsUp_step counts event).mpr in_turn
        cases count with
        | zero => exact counts
        | succ count => exact (ih _ first).mpr rest count

/-- The union 7 joins, and the campaign is loaded with the union 1 in its place. -/
theorem not_roundTrips_joined :
    ¬ ∀ (settings : Campaigns.Settings) (gridCfgId campaignId : ℕ) (defender : Defender)
      (builds : List BattleBuild) (startTime now : ℤ) (events : List Event),
      ((machine settings).run (.init settings gridCfgId campaignId defender builds startTime now)
        events).1.RoundTrips := by
  intro always
  have counts := roundTrips_iff.mp (always Campaigns.sampleSettings 1 1
    ⟨0, "", 0, 0, "", "", 0, 0, ""⟩ [⟨1, 100, 100⟩] 0 0
    [.startBattle ⟨3, 7, false⟩ .self [⟨none, [], []⟩] 5])
  exact absurd ((counts 7).mp (by decide +kernel)) (by decide +kernel)

end BasWar.Starmap.SavedCampaigns
