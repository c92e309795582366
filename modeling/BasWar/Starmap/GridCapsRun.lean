import BasWar.Starmap.GridCaps

/-!
# The indexes and the limits over whole runs

While no handler waits in the middle of a change of owner, every handler keeps the indexes; and
while there is room when a handler does not look for it, every handler keeps the limits.
-/

namespace BasWar.Starmap.Owners

open Cooperative

def Task.attack (task : Task) : Option Attack :=
  match task.call with
  | .findOne attack | .update attack | .takeStarmapCampaignArmy attack
  | .calcBattleResult attack | .handBack (.campaignWin attack _) _
  | .getPlayerNodeByPid _ (.checkRoom attack)
  | .getPlayerNodeByPid _ (.endBattle attack _ _) => some attack
  | _ => none

/-- `initGrid` is under way. -/
def Task.registers (task : Task) : Bool :=
  match task.call with
  | .findOne _ | .update _ => true
  | _ => false

structure Kept (settings : MapSettings) (limits : Option Limits) (map : StarMap) : Prop where
  indexed : Indexed map
  capped : Capped settings limits map
  fair : ∀ campaign ∈ map.campaigns, ∀ attack ∈ campaign.battleQueue,
    Fair settings limits attack

structure Tracks (settings : MapSettings) (limits : Option Limits) (map : StarMap)
    (task : Task) : Prop where
  notLosing : !task.losesOwner
  held : task.handler.runner = .lock → task.handler.cfgId ∈ map.locked
  missing : task.registers →
    task.handler.runner = .lock ∧ map.grids task.handler.cfgId = none
  fair : ∀ attack ∈ task.attack, Fair settings limits attack

def indexPool (settings : MapSettings) (limits : Option Limits) : Pool StarMap Task where
  shared := Kept settings limits
  own := Tracks settings limits
  apart first second := first.handler.runner = .lock → second.handler.runner = .lock →
    first.handler.cfgId ≠ second.handler.cfgId
  apart_symm apart second_lock first_lock same := apart first_lock second_lock same.symm

/-- A handler runs while the invariant holds. -/
structure Runs (settings : MapSettings) (limits : Option Limits) (handler : Handler)
    (others : List Task) (map : StarMap) : Prop where
  kept : Kept settings limits map
  knows : ∀ other ∈ others, Tracks settings limits map other
  alone : handler.runner = .lock → ∀ other ∈ others, other.handler.runner = .lock →
    handler.cfgId ≠ other.handler.cfgId
  held : handler.runner = .lock → handler.cfgId ∈ map.locked

/-- No handler is left in the middle of a change of owner. -/
def Quick (result : StarMap × List Task) : Prop :=
  ∀ task ∈ result.2, !task.losesOwner

section Steps

variable {settings : MapSettings} {limits : Option Limits} {handler : Handler}
  {others : List Task} {map mid : StarMap}

theorem Tracks.mono {task : Task} (tracks : Tracks settings limits map task)
    (held : task.handler.runner = .lock → task.handler.cfgId ∈ map.locked →
      task.handler.cfgId ∈ mid.locked)
    (missing : task.handler.runner = .lock → map.grids task.handler.cfgId = none →
      mid.grids task.handler.cfgId = none) : Tracks settings limits mid task where
  notLosing := tracks.notLosing
  held lock := held lock (tracks.held lock)
  missing registers := by
    obtain ⟨lock, gone⟩ := tracks.missing registers
    exact ⟨lock, missing lock gone⟩
  fair := tracks.fair

theorem Runs.next (runs : Runs settings limits handler others map)
    (kept : Kept settings limits mid) (locked : mid.locked = map.locked)
    (missing : ∀ cfgId, map.grids cfgId = none → mid.grids cfgId = none) :
    Runs settings limits handler others mid where
  kept := kept
  knows other mem := (runs.knows other mem).mono (fun _ held => locked ▸ held)
    fun _ gone => missing _ gone
  alone := runs.alone
  held lock := locked ▸ runs.held lock

theorem SameOwners.none (same : SameOwners map mid) (cfgId : ℕ)
    (gone : map.grids cfgId = none) : mid.grids cfgId = none := by
  have owner_eq := same.owners cfgId
  rw [gone] at owner_eq
  exact Option.map_eq_none_iff.mp owner_eq

theorem Kept.same (kept : Kept settings limits map) (same : SameOwners map mid)
    (campaigns : mid.campaigns = map.campaigns) : Kept settings limits mid where
  indexed := kept.indexed.same same
  capped := kept.capped.same same.players same.unions same.holdsPrivate
  fair := campaigns ▸ kept.fair

section

variable (runs : Runs settings limits handler others map)
include runs

theorem Runs.same (same : SameOwners map mid) (campaigns : mid.campaigns = map.campaigns)
    (locked : mid.locked = map.locked) : Runs settings limits handler others mid :=
  runs.next (runs.kept.same same campaigns) locked same.none

theorem Runs.modifyGrid (cfgId : ℕ) {change : Grid → Grid}
    (owner : ∀ grid, (change grid).owner = grid.owner) :
    Runs settings limits handler others (map.modifyGrid cfgId change) :=
  runs.same (.modifyGrid map cfgId owner) rfl rfl

theorem Runs.campaigns {campaigns : List Campaign}
    (fair : ∀ campaign ∈ campaigns, ∀ attack ∈ campaign.battleQueue, Fair settings limits attack) :
    Runs settings limits handler others { map with campaigns := campaigns } :=
  runs.next ⟨runs.kept.indexed.same ⟨fun _ => rfl, rfl, rfl⟩,
    runs.kept.capped.same rfl rfl fun _ => rfl, fair⟩ rfl fun _ => id

end

theorem fair_modifyCampaign (kept : Kept settings limits map) (campaignId : ℕ)
    {change : Campaign → Campaign}
    (queue : ∀ campaign ∈ map.campaigns, ∀ attack ∈ (change campaign).battleQueue,
      Fair settings limits attack) :
    ∀ campaign ∈ (map.modifyCampaign campaignId change).campaigns,
      ∀ attack ∈ campaign.battleQueue, Fair settings limits attack := by
  intro campaign mem
  obtain ⟨old, old_mem, rfl⟩ := List.mem_map.mp mem
  split
  · exact queue old old_mem
  · exact kept.fair old old_mem

theorem Runs.done (runs : Runs settings limits handler others map) :
    (indexPool settings limits).Keeps others (map.done handler) := by
  have ended : ∀ {mid : StarMap}, Kept settings limits mid →
      (∀ other ∈ others, Tracks settings limits mid other) →
        (indexPool settings limits).Keeps others (mid, []) := fun kept knows =>
    ⟨kept, knows, by simp, by simp, .nil⟩
  unfold StarMap.done
  split
  · rename_i lock
    refine ended (runs.kept.same ⟨fun _ => rfl, rfl, rfl⟩ rfl) fun other mem => ?_
    exact (runs.knows other mem).mono (fun other_lock held =>
      Finset.mem_erase.mpr ⟨(runs.alone lock other mem other_lock).symm, held⟩) fun _ => id
  · rename_i campaignId _
    have later : Runs settings limits handler others
        (map.modifyCampaign campaignId ({ · with fighting := false })) :=
      runs.campaigns (fair_modifyCampaign runs.kept campaignId runs.kept.fair)
    exact ended later.kept later.knows
  · exact ended runs.kept runs.knows

theorem Runs.wait (runs : Runs settings limits handler others map) {call : Call}
    (notLosing : !(Task.mk handler call).losesOwner)
    (missing : (Task.mk handler call).registers →
      handler.runner = .lock ∧ map.grids handler.cfgId = none)
    (fair : ∀ attack ∈ (Task.mk handler call).attack, Fair settings limits attack) :
    (indexPool settings limits).Keeps others (map.wait handler call) where
  shared := runs.kept
  stable := runs.knows
  fresh := List.forall_mem_singleton.mpr ⟨notLosing, runs.held, missing, fair⟩
  apart other mem := List.forall_mem_singleton.mpr fun other_lock lock =>
    (runs.alone lock other mem other_lock).symm
  fresh_apart := List.pairwise_singleton _ _

section

variable (runs : Runs settings limits handler others map)
include runs

theorem tell_runs (pids : List ℕ) :
    (indexPool settings limits).Keeps others (StarMap.tell handler pids map) := by
  rcases StarMap.tell_cases handler pids map with ends | ⟨pid, rest, waits⟩
  · rw [ends]
    exact runs.done
  · rw [waits]
    exact runs.wait rfl nofun nofun

theorem afterwards_runs (after : After) :
    (indexPool settings limits).Keeps others (map.afterwards settings handler after) := by
  cases after with
  | leave => exact runs.done
  | protect =>
      have later : Runs settings limits handler others
          (map.modifyGrid handler.cfgId (·.setProtectTick (settings.row handler.cfgId))) :=
        runs.modifyGrid handler.cfgId fun _ => rfl
      exact later.done
  | tell pids => exact tell_runs runs pids

theorem leaveOwner_runs (captured : Bool) (after : After) :
    (indexPool settings limits).Keeps others
      (map.leaveOwner settings handler captured after) := by
  have later : Runs settings limits handler others
      (map.modifyGrid handler.cfgId (resetGrid (settings.row handler.cfgId) captured)) :=
    runs.modifyGrid handler.cfgId fun _ => rfl
  exact afterwards_runs later after

theorem Runs.change {grid : Grid} (found : map.grids handler.cfgId = some grid)
    (newOwner : Option NewOwner)
    (room : ∀ player ∈ newOwner, HasRoom settings limits map handler.cfgId player) :
    Runs settings limits handler others
      ((map.dropOwner handler.cfgId).takeOwner handler.cfgId newOwner) := by
  refine runs.next ⟨runs.kept.indexed.change found newOwner,
    runs.kept.capped.change runs.kept.indexed found newOwner room, ?_⟩ ?_ fun cfgId gone => ?_
  · simpa only [StarMap.takeOwner_campaigns, StarMap.dropOwner_campaigns] using runs.kept.fair
  · rw [StarMap.takeOwner_locked, StarMap.dropOwner_locked]
  · rw [changed_grids, gone]
    simp

theorem changeOwner_runs (newOwner : Option NewOwner) (after : After)
    (room : ∀ player ∈ newOwner, HasRoom settings limits map handler.cfgId player)
    (quick : Quick (map.changeOwner settings handler newOwner after)) :
    (indexPool settings limits).Keeps others
      (map.changeOwner settings handler newOwner after) := by
  rcases StarMap.changeOwner_cases settings handler map newOwner after with
    ⟨_, ends⟩ | ⟨grid, found, ⟨_, waits⟩ | sets⟩
  · rw [ends]
    exact runs.done
  · rw [waits] at quick
    exact absurd (quick _ (List.mem_singleton_self _)) (by simp [Task.losesOwner])
  · have changed := runs.change found newOwner room
    rcases StarMap.setOwner_cases settings handler (map.dropOwner handler.cfgId) newOwner after
      with ⟨player, _, waits⟩ | ends
    · rw [sets, waits]
      exact changed.wait rfl nofun nofun
    · have reset : Runs settings limits handler others
          ((map.dropOwner handler.cfgId).replaceOwner settings handler.cfgId newOwner) :=
        changed.modifyGrid handler.cfgId fun _ => rfl
      rw [sets, ends]
      exact afterwards_runs reset after

end

section

variable (runs : Runs settings limits handler others map)
include runs

theorem checkRoom_runs {attack : Attack} (fair : Fair settings limits attack)
    (quick : Quick (map.checkRoom settings handler attack)) :
    (indexPool settings limits).Keeps others (map.checkRoom settings handler attack) := by
  revert quick
  unfold StarMap.checkRoom
  split
  · rename_i free
    have room : HasRoom settings limits map handler.cfgId ⟨attack.attacker, true⟩ := by
      intro limit mem
      simpa only [↓reduceIte, ← fair limit mem] using free
    rcases StarMap.send_cases handler map attack.attacker.playerId
      (.changeOwner (some ⟨attack.attacker, true⟩) .protect)
      (StarMap.changeOwner settings handler (some ⟨attack.attacker, true⟩) .protect) with
      sent | ⟨_, waits⟩
    · rw [sent]
      refine changeOwner_runs runs _ _ fun player player_mem => ?_
      obtain rfl := Option.mem_some_iff.mp player_mem
      exact room
    · rw [waits]
      exact fun _ => runs.wait rfl nofun nofun
  · exact changeOwner_runs runs none .leave nofun

theorem campaignWin_runs {attack : Attack} (fair : Fair settings limits attack) (ownerPid : ℕ)
    (quick : Quick (map.campaignWin settings handler attack ownerPid)) :
    (indexPool settings limits).Keeps others
      (map.campaignWin settings handler attack ownerPid) := by
  revert quick
  unfold StarMap.campaignWin
  split
  · split
    · rcases StarMap.send_cases handler map ownerPid (.checkRoom attack)
        (StarMap.checkRoom settings handler attack) with sent | ⟨_, waits⟩
      · rw [sent]
        exact checkRoom_runs runs fair
      · rw [waits]
        exact fun _ => runs.wait rfl nofun (by simpa [Task.attack] using fair)
    · exact checkRoom_runs runs fair
  · split
    · rename_i free
      refine changeOwner_runs runs _ _ fun player player_mem => ?_
      obtain rfl := Option.mem_some_iff.mp player_mem
      intro limit _
      simp only [Bool.false_eq_true, ↓reduceIte]
      exact fun _ => (Finset.card_le_card (Finset.erase_subset _ _)).trans_lt free
    · exact changeOwner_runs runs none .leave nofun

theorem campaignUnknow_runs (delBuilds : List ℕ)
    (quick : Quick (map.campaignUnknow settings handler delBuilds)) :
    (indexPool settings limits).Keeps others
      (map.campaignUnknow settings handler delBuilds) := by
  have cleared : Runs settings limits handler others (map.modifyGrid handler.cfgId fun grid =>
      { grid with builds := grid.builds.filter (·.id ∉ delBuilds), status := .idle }) :=
    runs.modifyGrid handler.cfgId fun _ => rfl
  revert quick
  unfold StarMap.campaignUnknow
  dsimp only
  split
  · exact changeOwner_runs cleared none .leave nofun
  · exact fun _ => cleared.done

theorem giveUp_runs (quick : Quick (map.giveUp settings handler)) :
    (indexPool settings limits).Keeps others (map.giveUp settings handler) := by
  have idle : Runs settings limits handler others
      (map.modifyGrid handler.cfgId ({ · with status := .idle })) :=
    runs.modifyGrid handler.cfgId fun _ => rfl
  exact changeOwner_runs idle none .leave nofun quick

end

variable {drop : Drop}

section

variable (runs : Runs settings limits handler others map)
include runs

theorem Runs.handsBack (rest : List HandBack)
    (fair : ∀ attack ownerPid, drop = .campaignWin attack ownerPid → Fair settings limits attack) :
    (indexPool settings limits).Keeps others (map.wait handler (.handBack drop rest)) := by
  refine runs.wait rfl nofun fun attack mem => ?_
  cases drop with
  | campaignWin other ownerPid =>
      obtain rfl := Option.mem_some_iff.mp mem
      exact fair _ ownerPid rfl
  | _ => exact nomatch mem

section

variable (fair : ∀ attack ownerPid, drop = .campaignWin attack ownerPid → Fair settings limits
  attack)
include fair

theorem finish_runs (quick : Quick (map.finish settings handler drop)) :
    (indexPool settings limits).Keeps others (map.finish settings handler drop) := by
  have clears : drop = .doMatchSeasonEndClear ∨ drop = .dissolveUnionHandle →
      (indexPool settings limits).Keeps others (map.finish settings handler drop) := by
    intro clears
    rcases StarMap.finish_clear_cases settings handler map clears with
      ends | ⟨pid, waits⟩ | changes
    · rw [ends]
      exact runs.done
    · rw [waits]
      exact runs.wait rfl nofun nofun
    · rw [changes] at quick ⊢
      exact changeOwner_runs runs none .leave nofun quick
  cases drop with
  | giveUpMyGrid pid =>
      revert quick
      unfold StarMap.finish
      dsimp only
      rcases StarMap.send_cases handler map pid .giveUp (StarMap.giveUp settings handler) with
        sent | ⟨_, waits⟩
      · rw [sent]
        exact giveUp_runs runs
      · rw [waits]
        exact fun _ => runs.wait rfl nofun nofun
  | doMatchSeasonEndClear => exact clears (.inl rfl)
  | dissolveUnionHandle => exact clears (.inr rfl)
  | campaignWin attack ownerPid =>
      exact campaignWin_runs runs (fair attack ownerPid rfl) ownerPid quick
  | campaignUnknow delBuilds => exact campaignUnknow_runs runs delBuilds quick

theorem handBackAll_runs (rest : List HandBack)
    (quick : Quick (map.handBackAll settings handler drop rest)) :
    (indexPool settings limits).Keeps others (map.handBackAll settings handler drop rest) := by
  rcases StarMap.handBackAll_cases settings handler map drop rest with ⟨later, waits⟩ | finishes
  · rw [waits]
    exact runs.handsBack later fair
  · rw [finishes] at quick ⊢
    exact finish_runs runs fair quick

theorem storeNftBuilds_runs (quick : Quick (map.storeNftBuilds settings handler drop)) :
    (indexPool settings limits).Keeps others (map.storeNftBuilds settings handler drop) := by
  rcases StarMap.storeNftBuilds_cases settings handler map drop with
    ⟨_, ends⟩ | ⟨rest, waits⟩ | finishes
  · rw [ends]
    exact runs.done
  · rw [waits]
    exact runs.handsBack rest fair
  · rw [finishes] at quick ⊢
    exact finish_runs runs fair quick

end

theorem Runs.setGrid {cfgId : ℕ} {old new : Grid} (found : map.grids cfgId = some old)
    (owner : new.owner = old.owner) : Runs settings limits handler others (map.setGrid cfgId new) :=
  runs.same (.setGrid found owner) rfl rfl

theorem handleNftsLife_runs (remainBuilds : List ℕ)
    (quick : Quick (map.handleNftsLife settings handler remainBuilds)) :
    (indexPool settings limits).Keeps others
      (map.handleNftsLife settings handler remainBuilds) := by
  revert quick
  unfold StarMap.handleNftsLife
  cases found : map.grids handler.cfgId with
  | none => exact fun _ => runs.done
  | some grid =>
      dsimp only
      split
      · exact finish_runs runs nofun
      · have paid : Runs settings limits handler others (map.setGrid handler.cfgId
            (grid.costLife (settings.row handler.cfgId) remainBuilds)) := runs.setGrid found rfl
        intro quick
        refine handBackAll_runs paid ?_ _ quick
        nofun

theorem onCampaignEnd_runs (result : BattleResult) {attack : Option Attack}
    (fair : ∀ attack' ∈ attack, Fair settings limits attack') (remainBuilds : List ℕ)
    (quick : Quick (map.onCampaignEnd settings handler result attack remainBuilds)) :
    (indexPool settings limits).Keeps others
      (map.onCampaignEnd settings handler result attack remainBuilds) := by
  revert quick
  unfold StarMap.onCampaignEnd
  cases found : map.grids handler.cfgId with
  | none => exact fun _ => runs.done
  | some grid =>
      dsimp only
      split
      · rename_i attack
        have owner : (grid.costDefenceBuildLife (settings.row handler.cfgId) remainBuilds).owner =
            grid.owner := by
          unfold Grid.costDefenceBuildLife
          split <;> rfl
        refine storeNftBuilds_runs (runs.setGrid found owner) fun other ownerPid same => ?_
        obtain rfl := (Drop.campaignWin.inj same).1
        exact fair attack rfl
      · exact handleNftsLife_runs runs remainBuilds
      · exact fun _ => runs.done

theorem endBattle_runs (campaignId : ℕ) (result : BattleResult) {attack : Option Attack}
    (fair : ∀ attack' ∈ attack, Fair settings limits attack') (remainBuilds : List ℕ)
    (quick : Quick (map.endBattle settings handler campaignId result attack remainBuilds)) :
    (indexPool settings limits).Keeps others
      (map.endBattle settings handler campaignId result attack remainBuilds) := by
  have ended : Runs settings limits handler others (map.endCampaign campaignId) :=
    runs.campaigns (fair_modifyCampaign runs.kept campaignId fun _ _ _ mem => nomatch mem)
  revert quick
  unfold StarMap.endBattle
  cases result with
  | win => exact onCampaignEnd_runs ended .win fair remainBuilds
  | unknow => exact onCampaignEnd_runs ended .unknow fair remainBuilds
  | lose => exact fun _ => runs.done
  | offline => exact fun _ => runs.done

theorem battleDone_runs {attack : Attack} (fair : Fair settings limits attack)
    (result : BattleResult) (remainBuilds : List ℕ)
    (quick : Quick (map.battleDone settings handler attack result remainBuilds)) :
    (indexPool settings limits).Keeps others
      (map.battleDone settings handler attack result remainBuilds) := by
  revert quick
  unfold StarMap.battleDone
  split
  · refine endBattle_runs runs _ result (fun other mem => ?_) remainBuilds
    obtain rfl := Option.mem_some_iff.mp mem
    exact fair
  · exact fun _ => runs.done
  · exact fun _ => runs.done

theorem battled_runs {attack : Attack} (fair : Fair settings limits attack) (result : BattleResult)
    (remainBuilds : List ℕ)
    (quick : Quick (map.battled settings handler attack result remainBuilds)) :
    (indexPool settings limits).Keeps others
      (map.battled settings handler attack result remainBuilds) := by
  revert quick
  unfold StarMap.battled
  split
  · rcases StarMap.send_cases handler map attack.attacker.playerId
      (.endBattle attack result remainBuilds)
      (StarMap.battleDone settings handler attack result remainBuilds) with sent | ⟨_, waits⟩
    · rw [sent]
      exact battleDone_runs runs fair result remainBuilds
    · rw [waits]
      exact fun _ => runs.wait rfl nofun (by simpa [Task.attack] using fair)
  · exact battleDone_runs runs fair result remainBuilds

end

end Steps

end BasWar.Starmap.Owners
