import BasWar.Starmap.Owners
import BasWar.Cooperative.Pool

/-!
# What a handler of the star map can do

A change of owner has four parts: the old owner leaves the indexes, the new one gets the grid and
enters them, and the grid is reset.  Between the parts the handler may wait for the node of a
player.  The same holds of what leads to a change of owner and of what follows it.
-/

namespace BasWar.Starmap.Owners.StarMap

variable (settings : MapSettings) (handler : Handler) (map : StarMap)

def dropOwner (cfgId : ℕ) (map : StarMap) : StarMap :=
  match map.grids cfgId with
  | none => map
  | some grid =>
      if grid.owner.playerId ≠ 0 then map.delGridOwnerCache grid.owner cfgId else map

def replaceOwner (settings : MapSettings) (cfgId : ℕ) (newOwner : Option NewOwner)
    (map : StarMap) : StarMap :=
  (map.takeOwner cfgId newOwner).modifyGrid cfgId
    (resetGrid (settings.row cfgId) newOwner.isSome)

section

variable (cfgId : ℕ)

theorem dropOwner_rest (map : StarMap) :
    (map.dropOwner cfgId).locked = map.locked ∧
      (map.dropOwner cfgId).campaigns = map.campaigns := by
  unfold dropOwner delGridOwnerCache
  split
  · exact ⟨rfl, rfl⟩
  · dsimp only
    split
    · split <;> exact ⟨rfl, rfl⟩
    · exact ⟨rfl, rfl⟩

theorem takeOwner_rest (newOwner : Option NewOwner) (map : StarMap) :
    (map.takeOwner cfgId newOwner).locked = map.locked ∧
      (map.takeOwner cfgId newOwner).campaigns = map.campaigns := by
  unfold takeOwner addGridOwnerCache
  cases newOwner with
  | none => exact ⟨rfl, rfl⟩
  | some newOwner =>
      dsimp only
      split <;> exact ⟨rfl, rfl⟩

@[simp]
theorem dropOwner_locked (map : StarMap) : (map.dropOwner cfgId).locked = map.locked :=
  (dropOwner_rest cfgId map).1

@[simp]
theorem dropOwner_campaigns (map : StarMap) : (map.dropOwner cfgId).campaigns = map.campaigns :=
  (dropOwner_rest cfgId map).2

@[simp]
theorem takeOwner_locked (newOwner : Option NewOwner) (map : StarMap) :
    (map.takeOwner cfgId newOwner).locked = map.locked :=
  (takeOwner_rest cfgId newOwner map).1

@[simp]
theorem takeOwner_campaigns (newOwner : Option NewOwner) (map : StarMap) :
    (map.takeOwner cfgId newOwner).campaigns = map.campaigns :=
  (takeOwner_rest cfgId newOwner map).2

@[simp]
theorem replaceOwner_locked (newOwner : Option NewOwner) (map : StarMap) :
    (map.replaceOwner settings cfgId newOwner).locked = map.locked :=
  takeOwner_locked cfgId newOwner map

end

theorem send_cases (pid : ℕ) (next : Next) (go : StarMap → StarMap × List Task) :
    map.send handler pid next go = go map ∨
      (pid ≠ 0 ∧ map.send handler pid next go =
        map.wait handler (.getPlayerNodeByPid pid next)) := by
  unfold send
  split
  · exact .inl rfl
  · rename_i unknown
    exact .inr ⟨fun zero => unknown (.inl zero), rfl⟩

theorem tell_cases (pids : List ℕ) (map : StarMap) :
    tell handler pids map = map.done handler ∨
      ∃ pid rest,
        tell handler pids map = map.wait handler (.getPlayerNodeByPid pid (.tell rest)) := by
  induction pids with
  | nil => exact .inl rfl
  | cons pid pids ih =>
      rcases send_cases handler map pid (.tell pids) (tell handler pids) with sent | ⟨_, waits⟩
      · rcases ih with ends | ⟨next, rest, waits⟩
        · exact .inl (sent.trans ends)
        · exact .inr ⟨next, rest, sent.trans waits⟩
      · exact .inr ⟨pid, pids, waits⟩

theorem setOwner_cases (newOwner : Option NewOwner) (after : After) :
    (∃ player, newOwner = some player ∧ map.setOwner settings handler newOwner after =
      (map.takeOwner handler.cfgId newOwner).wait handler
        (.getPlayerNodeByPid player.player.playerId (.resetGrid after))) ∨
    map.setOwner settings handler newOwner after =
      (map.replaceOwner settings handler.cfgId newOwner).afterwards settings handler after := by
  cases newOwner with
  | none => exact .inr rfl
  | some player =>
      rcases send_cases handler (map.takeOwner handler.cfgId (some player)) player.player.playerId
        (.resetGrid after) (leaveOwner settings handler true after) with sent | ⟨_, waits⟩
      · exact .inr sent
      · exact .inl ⟨player, rfl, waits⟩

theorem changeOwner_cases (newOwner : Option NewOwner) (after : After) :
    (map.grids handler.cfgId = none ∧
      map.changeOwner settings handler newOwner after = map.done handler) ∨
    (∃ grid, map.grids handler.cfgId = some grid ∧
      ((grid.owner.playerId ≠ 0 ∧ map.changeOwner settings handler newOwner after =
        (map.dropOwner handler.cfgId).wait handler
          (.getPlayerNodeByPid grid.owner.playerId (.setOwner newOwner after))) ∨
      map.changeOwner settings handler newOwner after =
        (map.dropOwner handler.cfgId).setOwner settings handler newOwner after)) := by
  unfold changeOwner dropOwner
  cases map.grids handler.cfgId with
  | none => exact .inl ⟨rfl, rfl⟩
  | some grid =>
      refine .inr ⟨grid, rfl, ?_⟩
      by_cases owned : grid.owner.playerId ≠ 0
      · simp only [owned, ↓reduceIte, not_false_eq_true, true_and, ne_eq]
        rcases send_cases handler (map.delGridOwnerCache grid.owner handler.cfgId)
          grid.owner.playerId (.setOwner newOwner after)
          (setOwner settings handler newOwner after) with sent | ⟨_, waits⟩
        · exact .inr sent
        · exact .inl waits
      · exact .inr (by simp only [owned, ↓reduceIte])

theorem storeNftBuilds_cases (drop : Drop) :
    (map.grids handler.cfgId = none ∧
      map.storeNftBuilds settings handler drop = map.done handler) ∨
    (∃ rest, map.storeNftBuilds settings handler drop =
      map.wait handler (.handBack drop rest)) ∨
    map.storeNftBuilds settings handler drop = map.finish settings handler drop := by
  unfold storeNftBuilds
  cases map.grids handler.cfgId with
  | none => exact .inl ⟨rfl, rfl⟩
  | some grid =>
      cases plan : grid.storePlan with
      | nil => exact .inr (.inr (by simp [plan, handBackAll]))
      | cons back rest => exact .inr (.inl ⟨rest, by simp [plan, handBackAll]⟩)

theorem handBackAll_cases (drop : Drop) (rest : List HandBack) :
    (∃ later, map.handBackAll settings handler drop rest =
      map.wait handler (.handBack drop later)) ∨
    map.handBackAll settings handler drop rest = map.finish settings handler drop := by
  cases rest with
  | nil => exact .inr rfl
  | cons back rest => exact .inl ⟨rest, rfl⟩

theorem finish_clear_cases {drop : Drop}
    (clears : drop = .doMatchSeasonEndClear ∨ drop = .dissolveUnionHandle) :
    map.finish settings handler drop = map.done handler ∨
    (∃ pid, map.finish settings handler drop =
      map.wait handler (.getPlayerNodeByPid pid (.changeOwner none .leave))) ∨
    map.finish settings handler drop = map.changeOwner settings handler none .leave := by
  rcases clears with rfl | rfl
  · simp only [finish]
    cases map.grids handler.cfgId with
    | none => exact .inl rfl
    | some grid =>
        by_cases held : isPrivate grid
        · simp only [held, ↓reduceIte]
          rcases send_cases handler map grid.owner.playerId (.changeOwner none .leave)
            (changeOwner settings handler none .leave) with sent | ⟨_, waits⟩
          · exact .inr (.inr sent)
          · exact .inr (.inl ⟨grid.owner.playerId, waits⟩)
        · simp only [held]
          exact .inr (.inr rfl)
  · exact .inr (.inr rfl)

end BasWar.Starmap.Owners.StarMap
