import BasWar.Starmap.GridService

/-!
# Placing handlers before the take, and handlers without the lock

A placing handler checks the owner of the grid and then asks its supplier several times.  None of
these segments changes more than what the player is told.
-/

namespace BasWar.Starmap

/-- The party that lends the buildings of a placing handler. -/
def Task.supplier : Task → Option Party
  | .getNftItemOnGrid put | .useNftItemOnGrid put => some (.player put.pid)
  | .checkPutBuild put | .getNftInfo put | .chainExclusive put _ => some (.union put.unionId)
  | .starMapTakeNft _ unionId | .starMapUseNftListToGrid _ _ unionId => some (.union unionId)
  | .getBuildListToGrid list | .useBuildListToGrid list _ => some (.player list.pid)
  | .checkPutBuildList list | .getNftList list | .chainExclusiveList list _ =>
      some (.union list.unionId)
  | .notUse supplier _ _ _ => some supplier
  | _ => none

/-- The grid belongs to a party that may lend buildings to it. -/
def Grid.Sited (grid : Grid) (party : Party) : Prop :=
  grid.owner.party = party ∧ grid.owner.isNatural = false

section Asking

variable {settings : Settings} {grid : Grid}

theorem player_of_party {owner : Owner} {pid : ℕ} (party_eq : owner.party = .player pid) :
    owner.playerId = pid ∧ pid ≠ 0 := by
  rw [Owner.party] at party_eq
  split at party_eq
  next personal =>
    cases party_eq
    exact ⟨rfl, personal.1⟩
  next => split at party_eq <;> cases party_eq

theorem union_of_party {owner : Owner} {unionId : ℕ} (party_eq : owner.party = .union unionId) :
    owner.unionId = unionId := by
  rw [Owner.party] at party_eq
  split at party_eq
  · cases party_eq
  · split at party_eq
    · cases party_eq
      rfl
    · cases party_eq

theorem updateOwnerInfo_frame (grid : Grid) (unionId : ℕ) :
    (grid.updateOwnerInfo unionId).owner.party = grid.owner.party ∧
      (grid.updateOwnerInfo unionId).owner.isNatural = grid.owner.isNatural ∧
      (grid.updateOwnerInfo unionId).builds = grid.builds := by
  rw [Grid.updateOwnerInfo]
  split
  next pid party_eq =>
    have personal : grid.owner.playerId ≠ 0 ∧ grid.owner.isPrivate := by
      by_contra other
      rw [Owner.party, if_neg other] at party_eq
      split at party_eq <;> cases party_eq
    refine ⟨?_, rfl, rfl⟩
    simp only [Owner.party]
    rw [if_pos personal, if_pos personal]
  next => exact ⟨rfl, rfl, rfl⟩

/-- A segment of a placing handler that asks its supplier next, or ends. -/
structure Asks (grid : Grid) (result : Grid × List Task) : Prop where
  same : ∃ said, result.1 = { grid with said := said }
  tasks : result.2 = [] ∨ ∃ task party, result.2 = [task] ∧ task.supplier = some party ∧
    grid.Sited party ∧ ∀ supplier asked used failed, task ≠ .notUse supplier asked used failed

theorem asks_say (grid : Grid) (error : GridError) : Asks grid (grid.say error, []) :=
  ⟨⟨_, rfl⟩, .inl rfl⟩

theorem asks_end (grid : Grid) : Asks grid (grid, []) :=
  ⟨⟨_, rfl⟩, .inl rfl⟩

theorem asks_next {task : Task} (party : Party) (supplies : task.supplier = some party)
    (sited : grid.Sited party)
    (asking : ∀ supplier asked used failed, task ≠ .notUse supplier asked used failed) :
    Asks grid (grid, [task]) :=
  ⟨⟨_, rfl⟩, .inr ⟨task, party, rfl, supplies, sited, asking⟩⟩

theorem asks_putBuild (put : Put) : Asks grid (grid.putBuild settings put) := by
  rw [Grid.putBuild]
  split
  · exact asks_say grid _
  next peopled =>
    split
    · exact asks_say grid _
    · split
      next pid party_eq =>
        split
        · exact asks_say grid _
        next mine =>
          have mine : grid.owner.playerId = put.pid := by simpa using mine
          have pid_eq : put.pid = pid := mine.symm.trans (player_of_party party_eq).1
          exact asks_next (.player put.pid) rfl ⟨by rw [pid_eq, party_eq], by simpa using peopled⟩
            (by simp)
      next unionId party_eq =>
        split
        · exact asks_say grid _
        next ours =>
          have ours : put.unionId = unionId := by simpa using ours
          exact asks_next (.union put.unionId) rfl ⟨by rw [ours, party_eq], by simpa using peopled⟩
            (by simp)
      · exact asks_end grid

theorem asks_putBuildList (list : PutList) : Asks grid (grid.putBuildList settings list) := by
  rw [Grid.putBuildList]
  split
  · exact asks_say grid _
  next peopled =>
    split
    · exact asks_say grid _
    · dsimp only
      split
      next pid party_eq =>
        split
        · exact asks_say grid _
        · split
          · exact asks_say grid _
          next mine =>
            have mine : grid.owner.playerId = list.pid := by simpa using mine
            have pid_eq : list.pid = pid := mine.symm.trans (player_of_party party_eq).1
            exact asks_next (.player list.pid) rfl
              ⟨by rw [pid_eq, party_eq], by simpa using peopled⟩ (by simp)
      next unionId party_eq =>
        split
        · exact asks_say grid _
        · split
          · exact asks_say grid _
          next ours =>
            have ours : list.unionId = unionId := by simpa using ours
            exact asks_next (.union list.unionId) rfl
              ⟨by rw [ours, party_eq], by simpa using peopled⟩ (by simp)
      · exact asks_end grid

theorem asks_putNftItem (put : Put) (data : Option BuildData)
    (sited : grid.Sited (.player put.pid)) : Asks grid (grid.putNftItem settings put data) := by
  cases data with
  | none => exact asks_say grid _
  | some data =>
      rw [Grid.putNftItem]
      split
      · exact asks_say grid _
      · exact asks_next _ rfl sited (by simp)

theorem asks_putNftInfo (put : Put) (data : BuildData) (exclusive : Option ℤ)
    (sited : grid.Sited (.union put.unionId)) :
    Asks grid (grid.putNftInfo settings put data exclusive) := by
  rw [Grid.putNftInfo]
  split
  · exact asks_say grid _
  · split
    · exact asks_say grid _
    · rw [union_of_party sited.1]
      exact asks_next _ rfl sited (by simp)

theorem asks_putListObjs (list : PutList) (objs : Option (List BuildData))
    (sited : grid.Sited (.player list.pid)) : Asks grid (grid.putListObjs list objs) := by
  unfold Grid.putListObjs
  split
  · exact asks_say grid _
  · exact asks_say grid _
  · exact asks_next _ rfl sited (by simp)

theorem asks_putListNfts (list : PutList) (objs : Option (List BuildData))
    (sited : grid.Sited (.union list.unionId)) : Asks grid (grid.putListNfts list objs) := by
  unfold Grid.putListNfts
  split
  · exact asks_say grid _
  · exact asks_say grid _
  · exact asks_next _ rfl sited (by simp)

theorem asks_putListExclusive (list : PutList) (objs : List BuildData) (exclusive : Option ℤ)
    (sited : grid.Sited (.union list.unionId)) :
    Asks grid (grid.putListExclusive list objs exclusive) := by
  rw [Grid.putListExclusive, union_of_party sited.1]
  exact asks_next _ rfl sited (by simp)

theorem asks_checked {task : Task} {party : Party} (yes : Bool)
    (supplies : task.supplier = some party) (sited : grid.Sited party)
    (asking : ∀ supplier asked used failed, task ≠ .notUse supplier asked used failed) :
    Asks grid (if yes then (grid, [task]) else (grid.say .unionNoAuthority, [])) := by
  split
  · exact asks_next party supplies sited asking
  · exact asks_say grid _

end Asking

section Lock

variable {settings : Settings} {grid : Grid}

/-- A segment that takes no part in the lock. -/
structure Unlocked (grid : Grid) (result : Grid × List Task) : Prop where
  locked : result.1.locked = grid.locked
  fresh : ∀ task ∈ result.2, task.holdsLock = false

theorem unlocked_handBackAll (settings : Settings) {drop : Drop} (unlocked : drop.holdsLock = false)
    (sent : List Build) (rest : List HandBack) :
    Unlocked grid (grid.handBackAll settings drop sent rest) := by
  cases rest with
  | nil =>
      refine ⟨?_, by simp [Grid.handBackAll]⟩
      cases drop with
      | storeBuild buildId => rfl
      | giveUpMyGrid => rfl
      | clear => rfl
      | campaignWin attacker hasRoom =>
          simp only [Grid.handBackAll, Grid.finish]
          split
          · rfl
          · split <;> rfl
      | campaignUnknow delBuilds =>
          simp only [Grid.handBackAll, Grid.finish]
          split <;> rfl
  | cons back rest => exact ⟨rfl, by simpa [Grid.handBackAll, Task.holdsLock] using unlocked⟩

theorem Unlocked.of_eq {mid : Grid} {result : Grid × List Task} (unlocked : Unlocked mid result)
    (locked_eq : mid.locked = grid.locked) : Unlocked grid result :=
  ⟨unlocked.locked.trans locked_eq, unlocked.fresh⟩

theorem unlocked_onCampaignEnd (settings : Settings) (campaign : CampaignEnd) :
    Unlocked grid (grid.onCampaignEnd settings campaign) := by
  rw [Grid.onCampaignEnd]
  split
  · refine (unlocked_handBackAll settings rfl [] _).of_eq ?_
    rw [Grid.costDefenceBuildLife]
    split <;> rfl
  · rw [Grid.handleNftsLife]
    split
    · exact unlocked_handBackAll settings rfl [] []
    · exact (unlocked_handBackAll settings rfl [] _).of_eq rfl
  · exact ⟨rfl, by simp⟩

theorem unlocked_start {request : Request} (unlocked : request.takesLock = false) :
    Unlocked grid (grid.start settings request) := by
  cases request with
  | onCampaignBegin => exact ⟨rfl, by simp [Grid.start]⟩
  | onCampaignEnd campaign => exact unlocked_onCampaignEnd settings campaign
  | doMatchSeasonEndClear => exact unlocked_handBackAll settings rfl [] _
  | dissolveUnionHandle unionId =>
      simp only [Grid.start, Grid.dissolveUnionHandle]
      split
      · exact ⟨rfl, by simp⟩
      · exact unlocked_handBackAll settings rfl [] _
  | updateOwnerInfo unionId =>
      refine ⟨?_, by simp [Grid.start]⟩
      simp only [Grid.start, Grid.updateOwnerInfo]
      split <;> rfl
  | elapse seconds =>
      refine ⟨?_, by simp [Grid.start]⟩
      simp only [Grid.start, Grid.elapse]
      split <;> rfl
  | _ => cases unlocked

theorem unlocked_proceed {task : Task} (unlocked : task.holdsLock = false) (reply : Reply) :
    Unlocked grid (grid.proceed settings task reply) := by
  cases task with
  | handBack drop sent rest =>
      cases reply with
      | done => exact unlocked_handBackAll settings unlocked sent rest
      | raise stored => exact ⟨rfl, by simp [Grid.proceed, Grid.raised]⟩
      | _ => exact ⟨rfl, by simpa [Grid.proceed, Task.holdsLock] using unlocked⟩
  | _ => cases unlocked

end Lock

end BasWar.Starmap
