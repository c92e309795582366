import BasWar.Starmap.BeginGrids

/-!
# One object for each grid

A grid without an object has been changed by nobody, and a handler that has read an object finds the
same one in the table after its call.  Two visitors in `initGrid` at once break this: the second
object replaces the first, which stays with the first visitor.
-/

namespace BasWar.Starmap.BeginGrids

open Cooperative

variable {Data : Type}

structure Sound (map : StarMap Data) : Prop where
  table : ∀ cfgId object, map.grids cfgId = some object → ∃ grid,
    map.objects object = some grid ∧ grid.cfgId = cfgId ∧
      grid.content = (map.changesOf cfgId).foldr Change.apply grid.loaded
  saved : ∀ object ∈ map.autosaved, ∃ grid,
    map.objects object = some grid ∧ map.grids grid.cfgId = some object
  untouched : ∀ cfgId, map.grids cfgId = none → map.changesOf cfgId = []
  issued : ∀ object grid, map.objects object = some grid → object < map.nextObject

def Task.reads : Task Data → Option (ℕ × ℕ)
  | .setUnionBeginGrid cfgId object _ | .transferBeginGrid cfgId object _
  | .takeStarmapCampaignArmy cfgId object _ | .edit cfgId object _ => some (cfgId, object)
  | _ => none

def Visit.lock (cfgId : ℕ) (visit : Visit Data) : Option ℕ :=
  if visit.locks then some cfgId else none

def Task.locks : Task Data → Option ℕ
  | .findOne cfgId visit | .update cfgId visit => visit.lock cfgId
  | .takeStarmapCampaignArmy cfgId _ _ => some cfgId
  | _ => none

/-- Only begin grids are visited without a lock. -/
def Visit.Fits (settings : MapSettings Data) (cfgId : ℕ) (visit : Visit Data) : Prop :=
  settings.isBeginGrid cfgId = !visit.locks

def Task.Fits (settings : MapSettings Data) : Task Data → Prop
  | .findOne cfgId visit | .update cfgId visit => visit.Fits settings cfgId
  | .getUnionBeginGridId _ dstCfgId => settings.isBeginGrid dstCfgId
  | _ => True

structure Knows (settings : MapSettings Data) (map : StarMap Data) (task : Task Data) : Prop where
  missing : ∀ cfgId ∈ task.registers, map.grids cfgId = none
  reads : ∀ read ∈ task.reads, map.grids read.1 = some read.2
  held : ∀ cfgId ∈ task.locks, cfgId ∈ map.locked
  fits : task.Fits settings

def objectPool (settings : MapSettings Data) : Pool (StarMap Data) (Task Data) where
  shared := Sound
  own := Knows settings
  apart first second := (∀ cfgId ∈ first.registers, cfgId ∉ second.registers) ∧
    ∀ cfgId ∈ first.locks, cfgId ∉ second.locks
  apart_symm apart := ⟨fun cfgId second_mem first_mem => apart.1 cfgId first_mem second_mem,
    fun cfgId second_mem first_mem => apart.2 cfgId first_mem second_mem⟩

/-- A handler runs while the invariant holds; `lock` is the grid whose lock it has. -/
structure Runs (settings : MapSettings Data) (lock : Option ℕ) (others : List (Task Data))
    (map : StarMap Data) : Prop where
  sound : Sound map
  knows : ∀ other ∈ others, Knows settings map other
  alone : ∀ cfgId ∈ lock, ∀ other ∈ others, cfgId ∉ other.locks
  held : ∀ cfgId ∈ lock, cfgId ∈ map.locked

section Objects

variable {map : StarMap Data} {cfgId object : ℕ} {content : Content Data} {change : Change Data}

theorem changesOf_changeGrid (id : ℕ) : (map.changeGrid cfgId object change).changesOf id =
    if id = cfgId then change :: map.changesOf id else map.changesOf id := by
  by_cases here : id = cfgId
  · simp [StarMap.changesOf, StarMap.changeGrid, here]
  · simp [StarMap.changesOf, StarMap.changeGrid, here, Ne.symm here]

theorem Sound.register (sound : Sound map) (gone : map.grids cfgId = none) :
    Sound (map.register cfgId content) where
  table id object held := by
    by_cases here : id = cfgId
    · subst here
      obtain rfl : map.nextObject = object := by simpa [StarMap.register] using held
      refine ⟨⟨id, content, content⟩, by simp [StarMap.register], rfl, ?_⟩
      have nothing : (map.register id content).changesOf id = [] := sound.untouched id gone
      simp [nothing]
    · have old : map.grids id = some object := by simpa [StarMap.register, here] using held
      obtain ⟨grid, found, site, content_eq⟩ := sound.table id object old
      have older : object ≠ map.nextObject := (sound.issued object grid found).ne
      exact ⟨grid, by simpa [StarMap.register, older] using found, site, content_eq⟩
  saved object mem := by
    rcases List.mem_append.mp mem with old | new
    · obtain ⟨grid, found, held⟩ := sound.saved object old
      have older : object ≠ map.nextObject := (sound.issued object grid found).ne
      have away : grid.cfgId ≠ cfgId := by
        rintro rfl
        simp [gone] at held
      exact ⟨grid, by simpa [StarMap.register, older] using found,
        by simpa [StarMap.register, away] using held⟩
    · obtain rfl := List.mem_singleton.mp new
      exact ⟨⟨cfgId, content, content⟩, by simp [StarMap.register], by simp [StarMap.register]⟩
  untouched id missing := by
    by_cases here : id = cfgId
    · simp [StarMap.register, here] at missing
    · exact sound.untouched id (by simpa [StarMap.register, here] using missing)
  issued object grid found := by
    by_cases new : object = map.nextObject
    · exact new ▸ Nat.lt_succ_self _
    · exact (sound.issued object grid (by simpa [StarMap.register, new] using found)).trans
        (Nat.lt_succ_self _)

theorem Sound.changeGrid (sound : Sound map) (held : map.grids cfgId = some object) :
    Sound (map.changeGrid cfgId object change) where
  table id other other_held := by
    obtain ⟨grid, found, site, content_eq⟩ := sound.table id other other_held
    rw [changesOf_changeGrid]
    by_cases here : id = cfgId
    · subst here
      obtain rfl : object = other := Option.some.inj (held.symm.trans other_held)
      refine ⟨{ grid with content := change.apply grid.content }, ?_, site, ?_⟩
      · simp [StarMap.changeGrid, found]
      · simp [content_eq]
    · have distinct : other ≠ object := by
        rintro rfl
        obtain ⟨same, same_found, same_site, _⟩ := sound.table cfgId other held
        obtain rfl := Option.some.inj (found.symm.trans same_found)
        exact here (site.symm.trans same_site)
      exact ⟨grid, by simpa [StarMap.changeGrid, distinct] using found, site,
        by simpa [here] using content_eq⟩
  saved other mem := by
    obtain ⟨grid, found, other_held⟩ := sound.saved other mem
    by_cases here : other = object
    · subst here
      exact ⟨{ grid with content := change.apply grid.content },
        by simp [StarMap.changeGrid, found], other_held⟩
    · exact ⟨grid, by simpa [StarMap.changeGrid, here] using found, other_held⟩
  untouched id missing := by
    have away : id ≠ cfgId := by
      rintro rfl
      exact nomatch missing.symm.trans held
    rw [changesOf_changeGrid, if_neg away]
    exact sound.untouched id missing
  issued other grid found := by
    by_cases here : other = object
    · subst here
      obtain ⟨old, start, rfl⟩ := Option.map_eq_some_iff.mp
        (show (map.objects other).map _ = some grid by simpa [StarMap.changeGrid] using found)
      exact sound.issued other old start
    · exact sound.issued other grid (by simpa [StarMap.changeGrid, here] using found)

end Objects

section Handlers

variable {settings : MapSettings Data} {lock : Option ℕ} {others : List (Task Data)}
  {map mid : StarMap Data} {cfgId object : ℕ} {content : Content Data} {visit : Visit Data}

theorem Knows.mono {task : Task Data} (knows : Knows settings map task)
    (missing : ∀ id ∈ task.registers, map.grids id = none → mid.grids id = none)
    (grids : ∀ id object, map.grids id = some object → mid.grids id = some object)
    (held : ∀ id ∈ task.locks, id ∈ map.locked → id ∈ mid.locked) : Knows settings mid task where
  missing id mem := missing id mem (knows.missing id mem)
  reads read mem := grids read.1 read.2 (knows.reads read mem)
  held id mem := held id mem (knows.held id mem)
  fits := knows.fits

theorem Runs.changeGrid (runs : Runs settings lock others map)
    (held : map.grids cfgId = some object) (change : Change Data) :
    Runs settings lock others (map.changeGrid cfgId object change) :=
  ⟨runs.sound.changeGrid held, fun other mem =>
    (runs.knows other mem).mono (fun _ _ => id) (fun _ _ => id) fun _ _ => id, runs.alone,
    runs.held⟩

theorem Runs.register (runs : Runs settings lock others map) (gone : map.grids cfgId = none)
    (alone : ∀ other ∈ others, cfgId ∉ other.registers) :
    Runs settings lock others (map.register cfgId content) where
  sound := runs.sound.register gone
  knows other mem := by
    refine (runs.knows other mem).mono (fun id registers missing => ?_) (fun id old held => ?_)
      fun _ _ => id
    · have away : id ≠ cfgId := fun same => alone other mem (same ▸ registers)
      simpa [StarMap.register, away] using missing
    · have away : id ≠ cfgId := by
        rintro rfl
        exact nomatch gone.symm.trans held
      simpa [StarMap.register, away] using held
  alone := runs.alone
  held := runs.held

theorem Runs.done (runs : Runs settings none others map) :
    (objectPool settings).Keeps others (map, []) :=
  ⟨runs.sound, runs.knows, by simp, by simp, .nil⟩

theorem Runs.unlock (runs : Runs settings (some cfgId) others map) :
    (objectPool settings).Keeps others (map.unlock cfgId, []) := by
  have sound : Sound (map.unlock cfgId) :=
    ⟨runs.sound.table, runs.sound.saved, runs.sound.untouched, runs.sound.issued⟩
  refine ⟨sound, fun other mem => ?_, by simp, by simp, .nil⟩
  refine (runs.knows other mem).mono (fun _ _ => id) (fun _ _ => id) fun id locks held => ?_
  have away : id ≠ cfgId := fun same => runs.alone cfgId rfl other mem (same ▸ locks)
  exact Finset.mem_erase.mpr ⟨away, held⟩

theorem Runs.wait (task : Task Data) (runs : Runs settings task.locks others map)
    (missing : ∀ id ∈ task.registers, map.grids id = none)
    (alone : ∀ id ∈ task.registers, ∀ other ∈ others, id ∉ other.registers)
    (reads : ∀ read ∈ task.reads, map.grids read.1 = some read.2) (fits : task.Fits settings) :
    (objectPool settings).Keeps others (map, [task]) where
  shared := runs.sound
  stable := runs.knows
  fresh := List.forall_mem_singleton.mpr ⟨missing, reads, runs.held, fits⟩
  apart other mem := List.forall_mem_singleton.mpr
    ⟨fun id other_mem task_mem => alone id task_mem other mem other_mem,
      fun id other_mem task_mem => runs.alone id task_mem other mem other_mem⟩
  fresh_apart := List.pairwise_singleton _ _

section

variable (runs : Runs settings (visit.lock cfgId) others map)
include runs

theorem visitObject_keeps (held : map.grids cfgId = some object) :
    (objectPool settings).Keeps others (map.visitObject cfgId object visit) := by
  have reads : ∀ read ∈ some (cfgId, object), map.grids read.1 = some read.2 := by
    intro read mem
    obtain rfl := Option.mem_some_iff.mp mem
    exact held
  cases visit with
  | link unionId =>
      simp only [StarMap.visitObject]
      split
      · exact runs.done
      · exact Runs.wait (.setUnionBeginGrid cfgId object unionId) runs nofun nofun reads
          trivial
  | transferBeginGrid unionId =>
      exact Runs.wait (.transferBeginGrid cfgId object unionId) runs nofun nofun reads
        trivial
  | startBattle byUnion change =>
      cases byUnion with
      | true =>
          exact Runs.wait (.takeStarmapCampaignArmy cfgId object change) runs nofun nofun
            reads trivial
      | false => exact (runs.changeGrid held (.edit change)).unlock

theorem visitGrid_keeps (fits : visit.Fits settings cfgId)
    (alone : map.grids cfgId = none → ∀ other ∈ others, cfgId ∉ other.registers)
    (isGrid : visit.locks → settings.isGrid cfgId) :
    (objectPool settings).Keeps others (map.visitGrid settings cfgId visit) := by
  unfold StarMap.visitGrid
  cases held : map.grids cfgId with
  | some object => exact visitObject_keeps runs held
  | none =>
      dsimp only
      split
      · refine Runs.wait (.findOne cfgId visit) runs (fun id mem => ?_) (fun id mem => ?_)
          nofun fits
        · obtain rfl := Option.mem_some_iff.mp mem
          exact held
        · obtain rfl := Option.mem_some_iff.mp mem
          exact alone held
      · rename_i absent
        have free : visit.locks = false := by
          by_contra locks
          exact absent (isGrid (by simpa using locks))
        rw [Visit.lock, free] at runs
        exact runs.done

theorem initialized_keeps (gone : map.grids cfgId = none)
    (alone : ∀ other ∈ others, cfgId ∉ other.registers) :
    (objectPool settings).Keeps others (map.initialized cfgId content visit) :=
  visitObject_keeps (runs.register gone alone) (by simp [StarMap.register])

theorem giveUp_keeps : (objectPool settings).Keeps others (map.giveUp cfgId visit) := by
  unfold StarMap.giveUp
  split
  · rename_i locks
    rw [Visit.lock, if_pos locks] at runs
    exact runs.unlock
  · rename_i free
    rw [Visit.lock, if_neg free] at runs
    exact runs.done

end

theorem transferred_runs (runs : Runs settings lock others map)
    (held : map.grids cfgId = some object) (unionId srcCfgId : ℕ) :
    Runs settings lock others (map.transferred cfgId object unionId srcCfgId) := by
  unfold StarMap.transferred
  cases source_held : map.grids srcCfgId with
  | none => exact runs
  | some source =>
      have left := runs.changeGrid source_held (.delUnionId unionId)
      exact left.changeGrid held (.addUnionId unionId)

end Handlers

section Service

variable {settings : MapSettings Data} {others : List (Task Data)} {map : StarMap Data}

theorem free_runs (holds : (objectPool settings).Holds ⟨map, others⟩) :
    Runs settings none others map :=
  ⟨holds.shared, holds.own, nofun, nofun⟩

theorem take_runs {cfgId : ℕ} (holds : (objectPool settings).Holds ⟨map, others⟩)
    (unlocked : cfgId ∉ map.locked) :
    Runs settings (some cfgId) others { map with locked := insert cfgId map.locked } where
  sound := ⟨holds.shared.table, holds.shared.saved, holds.shared.untouched, holds.shared.issued⟩
  knows other mem := (holds.own other mem).mono (fun _ _ => id) (fun _ _ => id)
    fun _ _ held => Finset.mem_insert_of_mem held
  alone id lock other mem locks := by
    obtain rfl := Option.mem_some_iff.mp lock
    exact unlocked ((holds.own other mem).held _ locks)
  held id lock := by
    obtain rfl := Option.mem_some_iff.mp lock
    exact Finset.mem_insert_self _ _

theorem Knows.locks_of_registers {cfgId : ℕ} {task : Task Data}
    (knows : Knows settings map task) (normal : settings.isBeginGrid cfgId = false)
    (registers : cfgId ∈ task.registers) : cfgId ∈ task.locks := by
  have fits := knows.fits
  cases task with
  | findOne id visit | update id visit =>
      obtain rfl := Option.mem_some_iff.mp registers
      have locks : visit.locks = true := by
        simpa [Task.Fits, Visit.Fits, normal] using fits
      simp [Task.locks, Visit.lock, locks]
  | _ => exact nomatch registers

theorem objectPool_accept (request : Request Data)
    (holds : (objectPool settings).Holds ⟨map, others⟩) :
    (objectPool settings).Keeps others ((gridService settings).accept request map) := by
  have runs := free_runs holds
  cases request with
  | selectBeginGrid unionId choice =>
      exact Runs.wait (.selectBeginGrid unionId choice) runs nofun nofun nofun trivial
  | transferBeginGrid unionId dstCfgId =>
      simp only [gridService, StarMap.accept]
      split
      · rename_i begins
        exact Runs.wait (.getUnionBeginGridId unionId dstCfgId) runs nofun nofun nofun begins.2
      · exact runs.done
  | startBattle cfgId byUnion change =>
      simp only [gridService, StarMap.accept]
      split
      · exact runs.done
      · rename_i fights
        obtain ⟨unlocked, isGrid, normal⟩ := by simpa only [not_or] using fights
        have normal_eq : settings.isBeginGrid cfgId = false := by simpa using normal
        refine visitGrid_keeps (take_runs holds unlocked) ?_ (fun _ other mem registers => ?_)
          fun _ => by simpa using isGrid
        · simp [Visit.Fits, Visit.locks, normal_eq]
        · have knows := holds.own other mem
          exact unlocked (knows.held cfgId (knows.locks_of_registers normal_eq registers))
  | edit cfgId change =>
      simp only [gridService, StarMap.accept]
      cases held : map.grids cfgId with
      | none => exact runs.done
      | some object =>
          refine Runs.wait (.edit cfgId object change) runs nofun nofun (fun read mem => ?_)
            trivial
          obtain rfl := Option.mem_some_iff.mp mem
          exact held

theorem objectPool_resume (task : Task Data) (reply : Reply Data)
    (holds : (objectPool settings).Holds ⟨map, others⟩) (knows : Knows settings map task)
    (apart : ∀ other ∈ others, (objectPool settings).apart task other)
    (allows : (visitsAlone settings).onReply task reply map others) :
    (objectPool settings).Keeps others ((gridService settings).resume task reply map) := by
  have unchanged : (objectPool settings).Keeps others (map, [task]) :=
    .unchanged holds knows apart
  have runs : Runs settings task.locks others map :=
    ⟨holds.shared, holds.own, fun id locks other mem => (apart other mem).2 id locks, knows.held⟩
  have alone : ∀ id ∈ task.registers, ∀ other ∈ others, id ∉ other.registers :=
    fun id registers other mem => (apart other mem).1 id registers
  cases task with
  | selectBeginGrid unionId choice =>
      cases reply with
      | beginGridId beginGridId =>
          simp only [gridService, StarMap.resume]
          split
          · rename_i chosen
            obtain ⟨rfl, listed⟩ := chosen
            refine visitGrid_keeps runs ?_ (allows listed) nofun
            simp [Visit.Fits, Visit.locks, settings.starmapBegin_begin choice listed]
          · exact runs.done
      | raise => exact runs.done
      | _ => exact unchanged
  | getUnionBeginGridId unionId dstCfgId =>
      cases reply with
      | beginGridId beginGridId =>
          cases beginGridId with
          | none => exact runs.done
          | some srcCfgId =>
              simp only [gridService, StarMap.resume]
              split
              · exact runs.done
              · rename_i chained
                obtain ⟨named, chain⟩ := not_or.mp chained
                refine visitGrid_keeps runs ?_ (allows named (not_not.mp chain)) nofun
                have begins : settings.isBeginGrid dstCfgId = true := knows.fits
                simp [Visit.Fits, Visit.locks, begins]
      | raise => exact runs.done
      | _ => exact unchanged
  | findOne cfgId visit =>
      cases reply with
      | doc doc =>
          cases doc with
          | none => exact Runs.wait (.update cfgId visit) runs knows.missing alone nofun knows.fits
          | some content =>
              exact initialized_keeps runs (knows.missing cfgId rfl) (alone cfgId rfl)
      | raise => exact giveUp_keeps runs
      | _ => exact unchanged
  | update cfgId visit =>
      cases reply with
      | done => exact initialized_keeps runs (knows.missing cfgId rfl) (alone cfgId rfl)
      | raise => exact giveUp_keeps runs
      | _ => exact unchanged
  | setUnionBeginGrid cfgId object unionId =>
      cases reply with
      | allowed yes =>
          cases yes with
          | true => exact (runs.changeGrid (knows.reads _ rfl) (.addUnionId unionId)).done
          | false => exact runs.done
      | raise => exact runs.done
      | _ => exact unchanged
  | transferBeginGrid cfgId object unionId =>
      cases reply with
      | beginGridId srcCfgId =>
          cases srcCfgId with
          | none => exact runs.done
          | some srcCfgId =>
              exact (transferred_runs runs (knows.reads _ rfl) unionId srcCfgId).done
      | raise => exact runs.done
      | _ => exact unchanged
  | takeStarmapCampaignArmy cfgId object change =>
      cases reply with
      | allowed yes =>
          cases yes with
          | true => exact (runs.changeGrid (knows.reads _ rfl) (.edit change)).unlock
          | false => exact runs.unlock
      | raise => exact runs.unlock
      | _ => exact unchanged
  | edit cfgId object change =>
      cases reply with
      | done => exact (runs.changeGrid (knows.reads _ rfl) (.edit change)).done
      | raise => exact runs.done
      | _ => exact unchanged

theorem objectPool_kept (settings : MapSettings Data) :
    (objectPool settings).KeptBy (gridService settings) (visitsAlone settings) where
  accept request _ _ holds _ := objectPool_accept request holds
  resume task reply _ _ holds knows apart allows :=
    objectPool_resume task reply holds knows apart allows

theorem sound_init (settings : MapSettings Data) (docs : Docs Data) :
    Sound (StarMap.init settings docs) := by
  have rounds : ∀ (list : List (ℕ × Content Data)) (map : StarMap Data), Sound map →
      (list.map Prod.fst).Nodup → (∀ doc ∈ list, map.grids doc.1 = none) →
        Sound (list.foldl
          (fun map doc => if settings.isGrid doc.1 then map.register doc.1 doc.2 else map)
          map) := by
    intro list
    induction list with
    | nil => exact fun _ sound _ _ => sound
    | cons doc list ih =>
        intro map sound unique absent
        obtain ⟨new, unique⟩ := List.nodup_cons.mp unique
        have later : ∀ other ∈ list, map.grids other.1 = none := fun other mem =>
          absent other (List.mem_cons_of_mem _ mem)
        rw [List.foldl_cons]
        split
        · refine ih _ (sound.register (absent doc (by simp))) unique fun other mem => ?_
          have away : other.1 ≠ doc.1 := fun same => new (List.mem_map.mpr ⟨other, mem, same⟩)
          simpa [StarMap.register, away] using later other mem
        · exact ih map sound unique later
  have start : Sound (StarMap.empty : StarMap Data) :=
    ⟨nofun, nofun, fun _ _ => rfl, nofun⟩
  exact rounds docs.docs .empty start docs.unique fun _ _ => rfl

theorem Sound.oneObject (sound : Sound map) : OneObject map where
  once first first_mem second second_mem same := by
    obtain ⟨grid, found, held⟩ := sound.saved first first_mem
    obtain ⟨other, other_found, other_held⟩ := sound.saved second second_mem
    have site : grid.cfgId = other.cfgId := by
      simpa [found, other_found] using same
    exact Option.some.inj (held.symm.trans (site ▸ other_held))
  kept cfgId object grid held found := by
    obtain ⟨same, same_found, _, content_eq⟩ := sound.table cfgId object held
    obtain rfl := Option.some.inj (found.symm.trans same_found)
    exact content_eq

/-- Every grid has one object with all its changes in every run in which no second visitor comes to
a begin grid while the first one is in `initGrid`. -/
theorem oneObject_run (settings : MapSettings Data) (docs : Docs Data)
    (events : List (Event (Request Data) (Reply Data)))
    (admits : (visitsAlone settings).Admits (gridService settings) (gridStart settings docs)
      events) :
    OneObject ((gridService settings).run (gridStart settings docs) events).state :=
  ((objectPool_kept settings).holds_run admits
    ⟨sound_init settings docs, nofun, .nil⟩).shared.oneObject

end Service

def sampleMap : MapSettings Unit where
  isGrid cfgId := cfgId = 1
  isBeginGrid cfgId := cfgId = 1
  chainID _ := 0
  starmapBegin := [1]
  starmapBegin_begin := by decide
  newGrid _ := ()

theorem sampleDocs_unique : (([] : List (ℕ × Content Unit)).map Prod.fst).Nodup :=
  .nil

def sampleDocs : Docs Unit := ⟨[], sampleDocs_unique⟩

/-- Unions 5 and 6 come to the begin grid, one after the other. -/
def linkedRun : List (Event (Request Unit) (Reply Unit)) :=
  [.request (.selectBeginGrid 5 1), .reply 0 (.beginGridId (some 0)), .reply 0 (.doc none),
    .reply 0 .done, .reply 0 (.allowed true), .request (.selectBeginGrid 6 1),
    .reply 0 (.beginGridId (some 0)), .reply 0 (.allowed true)]

theorem oneObject_linkedRun :
    ((gridService sampleMap).run (gridStart sampleMap sampleDocs) linkedRun).state.autosaved = [0] ∧
      OneObject ((gridService sampleMap).run (gridStart sampleMap sampleDocs) linkedRun).state :=
  ⟨by decide +kernel, oneObject_run sampleMap sampleDocs linkedRun (by decide +kernel)⟩

/-- Unions 5 and 6 come to the begin grid at once. -/
def racedRun : List (Event (Request Unit) (Reply Unit)) :=
  [.request (.selectBeginGrid 5 1), .request (.selectBeginGrid 6 1),
    .reply 0 (.beginGridId (some 0)), .reply 0 (.beginGridId (some 0)), .reply 0 (.doc none),
    .reply 0 (.doc none), .reply 0 .done, .reply 0 .done, .reply 0 (.allowed true),
    .reply 0 (.allowed true)]

/-- Two objects are saved for the grid, and the one in the table lacks union 5. -/
theorem not_oneObject_racedRun :
    ¬ OneObject ((gridService sampleMap).run (gridStart sampleMap sampleDocs) racedRun).state ∧
      ((gridService sampleMap).run (gridStart sampleMap sampleDocs) racedRun).state.grids 1 =
        some 1 ∧
      (((gridService sampleMap).run (gridStart sampleMap sampleDocs) racedRun).state.objects 1).map
        (·.content.unionIds) = some {6} := by
  refine ⟨fun one => ?_, by decide +kernel, by decide +kernel⟩
  have same := one.once 0 (by decide +kernel) 1 (by decide +kernel) (by decide +kernel)
  exact absurd same (by decide)

end BasWar.Starmap.BeginGrids
