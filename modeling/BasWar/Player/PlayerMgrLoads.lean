import BasWar.Player.PlayerMgr

/-!
# Loads return every change

While commands change registered objects only, and unloads and loads are not overtaken, the live
object has every change; without a live object the document has.
-/

namespace BasWar.PlayerMgr

open Cooperative

def Task.unloads : Task → Option ℕ
  | .update object _ (some _) | .updated object _ => some object
  | _ => none

def Mgr.document (mgr : Mgr) : List ℕ :=
  mgr.stored.getD []

/-- A command changes nothing, or a registered object that nobody unloads. -/
def MayChange (object : ℕ) (changes : List ℕ) (mgr : Mgr) (others : List Task) : Prop :=
  changes = [] ∨ object ∈ mgr.players ∧ ∀ task ∈ others, task.unloads ≠ some object
  deriving Decidable

/-- No change was made since the login has begun its load. -/
def After.Fresh (mgr : Mgr) : After → Prop
  | .enterGame _ since _ => mgr.made.length = since
  | .done | .exitgame _ => True

instance (mgr : Mgr) (after : After) : Decidable (after.Fresh mgr) := by
  unfold After.Fresh
  split <;> infer_instance

/-- Commands change registered objects that nobody unloads; a loaded object is made live while no
change was made since its load began; an update has all changes of the document it replaces; an
unload removes the object it has saved, or its changes are stored. -/
def orderly : Guard Mgr Request Task Reply where
  onRequest request mgr others :=
    match request with
    | .doPlayerCmd changes => ∀ object ∈ mgr.players, MayChange object changes mgr others
    | _ => True
  onReply task reply mgr others :=
    match task, reply with
    | .command object, .changes changes => MayChange object changes mgr others
    | .found _ since (.doPlayerCmd changes) (some _), .go =>
        (mgr.players = [] → mgr.made.length = since) ∧
          ∀ object ∈ mgr.players, MayChange object changes mgr others
    | .found _ since (.enterGame _) (some _), .go => mgr.players = [] → mgr.made.length = since
    | .update _ changes _, .go => mgr.document ⊆ changes
    | .update _ _ (some after), .raise => mgr.made ⊆ mgr.document ∧ after.Fresh mgr
    | .updated object after, _ =>
        (∀ other ∈ mgr.players, other = object ∨ mgr.made ⊆ mgr.document) ∧ after.Fresh mgr
    | _, _ => True

instance (request mgr others) : Decidable (orderly.onRequest request mgr others) := by
  unfold orderly
  dsimp only
  split <;> infer_instance

instance (task reply mgr others) : Decidable (orderly.onReply task reply mgr others) := by
  unfold orderly
  dsimp only
  split <;> infer_instance

/-- What holds of the registry between two segments. -/
structure Sound (mgr : Mgr) : Prop extends NothingLost mgr where
  known : ∀ object ∈ mgr.players, object < mgr.uuid
  saved : ∀ object ∈ mgr.players, (mgr.objects object).autosave = true
  live : ∀ object ∈ mgr.players, mgr.made ⊆ (mgr.objects object).changes
  dead : mgr.players = [] → mgr.made ⊆ mgr.document

/-- What a login knows of the object it has loaded. -/
def After.Knows (mgr : Mgr) : After → Prop
  | .enterGame _ since loaded =>
      since ≤ mgr.made.length ∧ (mgr.made.length = since → mgr.made ⊆ loaded)
  | .done | .exitgame _ => True

def Task.Knows (mgr : Mgr) : Task → Prop
  | .waitsLoad _ since _ | .findOne _ since _ =>
      since ≤ mgr.made.length ∧ (mgr.made.length = since → mgr.made ⊆ mgr.document)
  | .found _ since _ doc =>
      since ≤ mgr.made.length ∧ (mgr.made.length = since → mgr.made ⊆ doc.getD [])
  | .update object changes (some after) =>
      object < mgr.uuid ∧ (object ∈ mgr.players → mgr.made ⊆ changes) ∧ after.Knows mgr
  | .updated object after =>
      object < mgr.uuid ∧ (object ∈ mgr.players → mgr.made ⊆ mgr.document) ∧ after.Knows mgr
  | _ => True

/-- The registry and its handlers. -/
def mgrPool : Pool Mgr Task where
  shared := Sound
  own mgr task := task.Knows mgr
  apart _ _ := True
  apart_symm apart := apart

/-- What a segment may change without touching what other handlers know. -/
structure Follows (others : List Task) (mgr next : Mgr) : Prop where
  uuid : mgr.uuid ≤ next.uuid
  made : ∃ changes, next.made = mgr.made ++ changes ∧ (changes = [] ∨
    ∀ task ∈ others, ∀ object, task.unloads = some object → object < mgr.uuid →
      object ∉ next.players)
  document : mgr.document ⊆ next.document
  players : ∀ object ∈ next.players, object < mgr.uuid → object ∈ mgr.players

variable {mgr next : Mgr} {others : List Task} {object : ℕ} {changes loaded : List ℕ}

theorem Follows.of_same (others : List Task) (uuid : next.uuid = mgr.uuid)
    (made : next.made = mgr.made) (stored : next.stored = mgr.stored)
    (players : next.players = mgr.players) : Follows others mgr next where
  uuid := uuid.ge
  made := ⟨[], by simp [made], .inl rfl⟩
  document := by simp [Mgr.document, stored]
  players object object_mem _ := players ▸ object_mem

section

variable (follows : Follows others mgr next)
include follows

theorem Follows.length_le : mgr.made.length ≤ next.made.length := by
  obtain ⟨changes, made_eq, -⟩ := follows.made
  rw [made_eq, List.length_append]
  omega

theorem Follows.made_eq {since : ℕ} (begun : since ≤ mgr.made.length)
    (fresh : next.made.length = since) : mgr.made.length = since ∧ next.made = mgr.made := by
  obtain ⟨changes, made_eq, -⟩ := follows.made
  rw [made_eq, List.length_append] at fresh
  have none_made : changes = [] := List.length_eq_zero_iff.mp (by omega)
  rw [none_made] at made_eq fresh
  rw [List.length_nil] at fresh
  exact ⟨by omega, by rw [made_eq, List.append_nil]⟩

theorem Follows.after {after : After} (knows : after.Knows mgr) : after.Knows next := by
  cases after with
  | enterGame ticket since loaded =>
      obtain ⟨begun, has⟩ := knows
      refine ⟨begun.trans follows.length_le, fun fresh => ?_⟩
      obtain ⟨same, made_eq⟩ := follows.made_eq begun fresh
      rw [made_eq]
      exact has same
  | done => trivial
  | exitgame object => trivial

theorem Follows.unload {task : Task} (task_mem : task ∈ others)
    (unloads : task.unloads = some object) (known : object < mgr.uuid)
    (registered : object ∈ next.players) : object ∈ mgr.players ∧ next.made = mgr.made := by
  obtain ⟨changes, made_eq, unchanged | elsewhere⟩ := follows.made
  · exact ⟨follows.players object registered known, by rw [made_eq, unchanged, List.append_nil]⟩
  · exact absurd registered (elsewhere task task_mem object unloads known)

theorem Follows.knows {task : Task} (task_mem : task ∈ others) (knows : task.Knows mgr) :
    task.Knows next := by
  cases task with
  | waitsLoad ticket since loader =>
      obtain ⟨begun, has⟩ := knows
      refine ⟨begun.trans follows.length_le, fun fresh => ?_⟩
      obtain ⟨same, made_eq⟩ := follows.made_eq begun fresh
      rw [made_eq]
      exact List.Subset.trans (has same) follows.document
  | findOne ticket since loader =>
      obtain ⟨begun, has⟩ := knows
      refine ⟨begun.trans follows.length_le, fun fresh => ?_⟩
      obtain ⟨same, made_eq⟩ := follows.made_eq begun fresh
      rw [made_eq]
      exact List.Subset.trans (has same) follows.document
  | found ticket since loader doc =>
      obtain ⟨begun, has⟩ := knows
      refine ⟨begun.trans follows.length_le, fun fresh => ?_⟩
      obtain ⟨same, made_eq⟩ := follows.made_eq begun fresh
      rw [made_eq]
      exact has same
  | update object changes after =>
      cases after with
      | none => trivial
      | some after =>
          obtain ⟨known, has, after_knows⟩ := knows
          refine ⟨known.trans_le follows.uuid, fun registered => ?_, follows.after after_knows⟩
          obtain ⟨was_registered, made_eq⟩ := follows.unload task_mem rfl known registered
          rw [made_eq]
          exact has was_registered
  | updated object after =>
      obtain ⟨known, has, after_knows⟩ := knows
      refine ⟨known.trans_le follows.uuid, fun registered => ?_, follows.after after_knows⟩
      obtain ⟨was_registered, made_eq⟩ := follows.unload task_mem rfl known registered
      rw [made_eq]
      exact List.Subset.trans (has was_registered) follows.document
  | command object => trivial
  | waitsEnter ticket => trivial
  | checktoken ticket => trivial
  | replacing ticket object => trivial
  | onlogin ticket => trivial
  | ondisconnect object => trivial
  | onlogout object => trivial

end

theorem Follows.keeps {result : Mgr × List Task} (holds : mgrPool.Holds ⟨mgr, others⟩)
    (follows : Follows others mgr result.1) (sound : Sound result.1)
    (fresh : ∀ task ∈ result.2, task.Knows result.1) :
    mgrPool.Keeps others result where
  shared := sound
  stable other other_mem := follows.knows other_mem (holds.own other other_mem)
  fresh := fresh
  apart _ _ _ _ := trivial
  fresh_apart := List.pairwise_of_forall fun _ _ => trivial

/-- Flags, ticks and locks do not matter. -/
structure SameBooks (mgr next : Mgr) : Prop where
  players : next.players = mgr.players
  uuid : next.uuid = mgr.uuid
  stored : next.stored = mgr.stored
  made : next.made = mgr.made
  missed : next.missed = mgr.missed
  changes : ∀ object, (next.objects object).changes = (mgr.objects object).changes
  autosave : ∀ object, (next.objects object).autosave = (mgr.objects object).autosave

theorem SameBooks.refl (mgr : Mgr) : SameBooks mgr mgr :=
  ⟨rfl, rfl, rfl, rfl, rfl, fun _ => rfl, fun _ => rfl⟩

theorem SameBooks.trans {first second third : Mgr} (left : SameBooks first second)
    (right : SameBooks second third) : SameBooks first third where
  players := right.players.trans left.players
  uuid := right.uuid.trans left.uuid
  stored := right.stored.trans left.stored
  made := right.made.trans left.made
  missed := right.missed.trans left.missed
  changes object := (right.changes object).trans (left.changes object)
  autosave object := (right.autosave object).trans (left.autosave object)

theorem SameBooks.follows (same : SameBooks mgr next) (others : List Task) :
    Follows others mgr next :=
  .of_same others same.uuid same.made same.stored same.players

theorem SameBooks.sound (same : SameBooks mgr next) (sound : Sound mgr) : Sound next := by
  obtain ⟨⟨one, returned⟩, known, saved, live, dead⟩ := sound
  refine ⟨⟨?_, ?_⟩, ?_, ?_, ?_, ?_⟩
  · rw [same.players]
    exact one
  · rw [same.missed]
    exact returned
  · rw [same.players, same.uuid]
    exact known
  · rw [same.players]
    intro object object_mem
    rw [same.autosave]
    exact saved object object_mem
  · rw [same.players, same.made]
    intro object object_mem
    rw [same.changes]
    exact live object object_mem
  · rw [same.players, same.made, Mgr.document, same.stored]
    exact dead

theorem sameBooks_setObject (mgr : Mgr) (object : ℕ) {cplayer : Cplayer}
    (changes : cplayer.changes = (mgr.objects object).changes)
    (autosave : cplayer.autosave = (mgr.objects object).autosave) :
    SameBooks mgr (mgr.setObject object cplayer) := by
  refine ⟨rfl, rfl, rfl, rfl, rfl, fun other => ?_, fun other => ?_⟩
  · by_cases same : other = object
    · simp [Mgr.setObject, same, changes]
    · simp [Mgr.setObject, same]
  · by_cases same : other = object
    · simp [Mgr.setObject, same, autosave]
    · simp [Mgr.setObject, same]

theorem sameBooks_setplayerlasttick (mgr : Mgr) : SameBooks mgr mgr.setplayerlasttick := by
  unfold Mgr.setplayerlasttick
  split <;> exact ⟨rfl, rfl, rfl, rfl, rfl, fun _ => rfl, fun _ => rfl⟩

theorem sameBooks_returned (has : mgr.made ⊆ changes) : SameBooks mgr (mgr.returned changes) := by
  have nothing : mgr.made.filter (· ∉ changes) = [] := by
    rw [List.filter_eq_nil_iff]
    intro change change_mem
    simpa using has change_mem
  have missed : (mgr.returned changes).missed = mgr.missed := by
    rw [Mgr.returned]
    dsimp only
    rw [nothing, List.append_nil]
  exact ⟨rfl, rfl, rfl, rfl, missed, fun _ => rfl, fun _ => rfl⟩

theorem SameBooks.holds (same : SameBooks mgr next) (holds : mgrPool.Holds ⟨mgr, others⟩) :
    mgrPool.Holds ⟨next, others⟩ where
  shared := same.sound holds.shared
  own other other_mem := (same.follows others).knows other_mem (holds.own other other_mem)
  apart := holds.apart

theorem SameBooks.keeps {result : Mgr × List Task} (holds : mgrPool.Holds ⟨mgr, others⟩)
    (same : SameBooks mgr result.1) (fresh : ∀ task ∈ result.2, task.Knows result.1) :
    mgrPool.Keeps others result :=
  (same.follows others).keeps holds (same.sound holds.shared) fresh

theorem keeps_setObject {cplayer : Cplayer} {tasks : List Task} (object : ℕ)
    (holds : mgrPool.Holds ⟨mgr, others⟩) (changes : cplayer.changes = (mgr.objects object).changes)
    (autosave : cplayer.autosave = (mgr.objects object).autosave)
    (fresh : ∀ task ∈ tasks, task.Knows (mgr.setObject object cplayer)) :
    mgrPool.Keeps others (mgr.setObject object cplayer, tasks) :=
  (sameBooks_setObject mgr object changes autosave).keeps holds fresh

theorem Sound.eq_of_mem (sound : Sound mgr) {other : ℕ} (object_mem : object ∈ mgr.players)
    (other_mem : other ∈ mgr.players) : object = other := by
  have one := sound.one
  match players_eq : mgr.players with
  | [] => simp [players_eq] at object_mem
  | [only] =>
      rw [players_eq, List.mem_singleton] at object_mem other_mem
      exact object_mem.trans other_mem.symm
  | _ :: _ :: _ => simp [players_eq] at one

theorem sound_change (changes : List ℕ) (sound : Sound mgr) (registered : object ∈ mgr.players) :
    Sound (mgr.change object changes) where
  one := sound.one
  returned := sound.returned
  known := sound.known
  saved other other_mem := by
    have saved := sound.saved other other_mem
    by_cases same : other = object
    · simpa [Mgr.change, Mgr.setObject, same] using same ▸ saved
    · simpa [Mgr.change, Mgr.setObject, same] using saved
  live other other_mem := by
    obtain rfl := sound.eq_of_mem registered other_mem
    have live := sound.live object registered
    simp only [Mgr.change, Mgr.setObject, if_true]
    exact List.append_subset.mpr
      ⟨List.Subset.trans live (List.subset_append_left _ _), List.subset_append_right _ _⟩
  dead none_live := by
    rw [show (mgr.change object changes).players = mgr.players from rfl] at none_live
    rw [none_live] at registered
    cases registered

theorem follows_change (sound : Sound mgr) (may : MayChange object changes mgr others) :
    Follows others mgr (mgr.change object changes) where
  uuid := le_rfl
  made := by
    refine ⟨changes, rfl, ?_⟩
    rcases may with unchanged | ⟨registered, kept⟩
    · exact .inl unchanged
    · refine .inr fun task task_mem other unloads _ other_mem => kept task task_mem ?_
      rw [unloads, sound.eq_of_mem other_mem registered]
  document := List.Subset.refl _
  players _ object_mem _ := object_mem

theorem sameBooks_change_nil (mgr : Mgr) (object : ℕ) : SameBooks mgr (mgr.change object []) := by
  let cplayer :=
    { mgr.objects object with changes := (mgr.objects object).changes ++ [] }
  have same : SameBooks mgr (mgr.setObject object cplayer) :=
    sameBooks_setObject mgr object (List.append_nil _) rfl
  exact ⟨rfl, rfl, rfl, List.append_nil _, rfl, same.changes, same.autosave⟩

theorem keeps_change (holds : mgrPool.Holds ⟨mgr, others⟩)
    (may : MayChange object changes mgr others) :
    mgrPool.Keeps others (mgr.change object changes, [.command object]) := by
  refine (follows_change holds.shared may).keeps holds ?_ (by simp [Task.Knows])
  rcases may with rfl | ⟨registered, -⟩
  · exact (sameBooks_change_nil mgr object).sound holds.shared
  · exact sound_change changes holds.shared registered

theorem keeps_runCmd (holds : mgrPool.Holds ⟨mgr, others⟩) (registered : object ∈ mgr.players)
    (may : MayChange object changes mgr others) :
    mgrPool.Keeps others (mgr.runCmd object changes) := by
  have same : SameBooks mgr (mgr.returned (mgr.objects object).changes).setplayerlasttick :=
    (sameBooks_returned (holds.shared.live object registered)).trans
      (sameBooks_setplayerlasttick _)
  refine keeps_change (same.holds holds) ?_
  rw [MayChange, same.players]
  exact may

theorem keeps_recoverplayer (loader : Loader) (holds : mgrPool.Holds ⟨mgr, others⟩)
    (none_live : mgr.players = []) : mgrPool.Keeps others (mgr.recoverplayer loader) := by
  have has : mgr.made ⊆ mgr.document := holds.shared.dead none_live
  unfold Mgr.recoverplayer
  split
  · refine SameBooks.keeps holds ⟨rfl, rfl, rfl, rfl, rfl, fun _ => rfl, fun _ => rfl⟩ ?_
    intro task task_mem
    obtain rfl := List.mem_singleton.mp task_mem
    exact ⟨le_rfl, fun _ => has⟩
  · refine SameBooks.keeps holds ⟨rfl, rfl, rfl, rfl, rfl, fun _ => rfl, fun _ => rfl⟩ ?_
    intro task task_mem
    obtain rfl := List.mem_singleton.mp task_mem
    exact ⟨le_rfl, fun _ => has⟩

theorem sound_addplayer (linkobj : Bool) (sound : Sound mgr) (none_live : mgr.players = [])
    (has : mgr.made ⊆ loaded) : Sound (mgr.addplayer loaded linkobj) := by
  have added : mgr.addplayer loaded linkobj =
      { mgr.setObject mgr.uuid ⟨loaded, linkobj, false, false, true⟩ with
        players := [mgr.uuid]
        uuid := mgr.uuid + 1 } := by
    rw [Mgr.addplayer, none_live]
  rw [added]
  refine ⟨⟨le_rfl, sound.returned⟩, ?_, ?_, ?_, ?_⟩
  · intro object object_mem
    rw [List.mem_singleton.mp object_mem]
    exact Nat.lt_succ_self _
  · intro object object_mem
    rw [List.mem_singleton.mp object_mem]
    simp [Mgr.setObject]
  · intro object object_mem
    rw [List.mem_singleton.mp object_mem]
    simpa [Mgr.setObject] using has
  · intro none_added
    cases none_added

theorem follows_addplayer (others : List Task) (loaded : List ℕ) (linkobj : Bool)
    (none_live : mgr.players = []) : Follows others mgr (mgr.addplayer loaded linkobj) := by
  rw [Mgr.addplayer, none_live]
  refine ⟨Nat.le_succ _, ⟨[], (List.append_nil _).symm, .inl rfl⟩, List.Subset.refl _, ?_⟩
  intro object object_mem known
  rw [List.mem_singleton.mp object_mem] at known
  exact absurd known (lt_irrefl _)

theorem keeps_enterLoaded (ticket : ℕ) (holds : mgrPool.Holds ⟨mgr, others⟩)
    (none_live : mgr.players = []) (has : mgr.made ⊆ loaded) :
    mgrPool.Keeps others (mgr.enterLoaded ticket loaded) := by
  have same : SameBooks mgr (mgr.returned loaded) := sameBooks_returned has
  have follows : Follows others (mgr.returned loaded)
      ((mgr.returned loaded).addplayer loaded true) :=
    follows_addplayer others loaded true none_live
  refine follows.keeps (same.holds holds) ?_ (by simp [Mgr.enterLoaded, Task.Knows])
  exact sound_addplayer true (same.sound holds.shared) none_live has

theorem keeps_removed {after : After} (object : ℕ) (holds : mgrPool.Holds ⟨mgr, others⟩)
    (has : mgr.made ⊆ mgr.document) (knows : after.Knows mgr) (fresh : after.Fresh mgr) :
    mgrPool.Keeps others (mgr.removed object after) := by
  have follows : Follows others mgr (mgr.delobj object) :=
    ⟨le_rfl, ⟨[], (List.append_nil _).symm, .inl rfl⟩, List.Subset.refl _,
      fun _ object_mem => (List.not_mem_nil object_mem).elim⟩
  have sound : Sound (mgr.delobj object) :=
    ⟨⟨Nat.zero_le _, holds.shared.returned⟩, by simp [Mgr.delobj], by simp [Mgr.delobj],
      by simp [Mgr.delobj], fun _ => has⟩
  have next_holds : mgrPool.Holds ⟨mgr.delobj object, others⟩ :=
    ⟨sound, fun other other_mem => follows.knows other_mem (holds.own other other_mem),
      holds.apart⟩
  cases after with
  | done => exact .ended next_holds
  | enterGame ticket since loaded =>
      exact keeps_enterLoaded ticket next_holds rfl (knows.2 fresh)
  | exitgame other => exact keeps_setObject other next_holds (by rfl) (by rfl) (by simp)

theorem keeps_delplayer {after : After} (holds : mgrPool.Holds ⟨mgr, others⟩)
    (registered : object ∈ mgr.players) (knows : after.Knows mgr) :
    mgrPool.Keeps others (mgr.delplayer object after) := by
  rw [Mgr.delplayer, if_pos (holds.shared.saved object registered)]
  refine (SameBooks.refl mgr).keeps holds ?_
  intro task task_mem
  obtain rfl := List.mem_singleton.mp task_mem
  exact ⟨holds.shared.known object registered, fun _ => holds.shared.live object registered, knows⟩

theorem keeps_disconnect (object : ℕ) (holds : mgrPool.Holds ⟨mgr, others⟩) :
    mgrPool.Keeps others (mgr.disconnect object) := by
  unfold Mgr.disconnect
  split
  · exact keeps_setObject object holds (by rfl) (by rfl) (by simp [Task.Knows])
  · exact .ended holds

theorem keeps_exitgame (object : ℕ) (holds : mgrPool.Holds ⟨mgr, others⟩) :
    mgrPool.Keeps others (mgr.exitgame object) := by
  unfold Mgr.exitgame
  split
  · split
    · let cplayer := { mgr.objects object with forceExitgame := false }
      have same : SameBooks mgr (mgr.setObject object cplayer) :=
        sameBooks_setObject mgr object rfl rfl
      exact SameBooks.keeps holds
        ⟨rfl, rfl, rfl, rfl, rfl, same.changes, same.autosave⟩ (by simp)
    · rename_i live later players_eq
      exact keeps_delplayer holds (by rw [players_eq]; exact List.mem_cons_self) trivial
  · exact (sameBooks_setplayerlasttick mgr).keeps holds (by simp)

theorem keeps_enterLive (ticket object : ℕ) (holds : mgrPool.Holds ⟨mgr, others⟩) :
    mgrPool.Keeps others (mgr.enterLive ticket object) :=
  keeps_setObject object holds (by rfl) (by rfl) (by simp [Task.Knows])

theorem keeps_entergame (ticket : ℕ) (holds : mgrPool.Holds ⟨mgr, others⟩) :
    mgrPool.Keeps others (mgr.entergame ticket) := by
  unfold Mgr.entergame
  split
  · rename_i none_live
    exact keeps_recoverplayer _ holds none_live
  · split
    · exact keeps_setObject _ holds (by rfl) (by rfl) (by simp [Task.Knows])
    · exact keeps_enterLive ticket _ holds

theorem keeps_loadedCmd (changes : List ℕ) (holds : mgrPool.Holds ⟨mgr, others⟩)
    (none_live : mgr.players = []) (has : mgr.made ⊆ loaded) :
    mgrPool.Keeps others ((mgr.addplayer loaded false).runCmd mgr.uuid changes) := by
  have follows := follows_addplayer others loaded false none_live
  have added_holds : mgrPool.Holds ⟨mgr.addplayer loaded false, others⟩ :=
    ⟨sound_addplayer false holds.shared none_live has,
      fun other other_mem => follows.knows other_mem (holds.own other other_mem), holds.apart⟩
  have players_eq : (mgr.addplayer loaded false).players = [mgr.uuid] := by
    rw [Mgr.addplayer, none_live]
  have registered : mgr.uuid ∈ (mgr.addplayer loaded false).players := by
    rw [players_eq]
    exact List.mem_cons_self
  refine keeps_runCmd added_holds registered (.inr ⟨registered, fun task task_mem unloads => ?_⟩)
  -- No handler unloads an object that did not exist.
  have known : mgr.uuid < mgr.uuid := by
    have knows := holds.own task task_mem
    cases task with
    | update object changes after =>
        cases after with
        | none => cases unloads
        | some after =>
            cases unloads
            exact knows.1
    | updated object after =>
        cases unloads
        exact knows.1
    | _ => cases unloads
  exact absurd known (lt_irrefl _)

theorem keeps_loaded {ticket since : ℕ} {loader : Loader} {doc : Option (List ℕ)}
    (holds : mgrPool.Holds ⟨mgr, others⟩) (knows : (Task.found ticket since loader doc).Knows mgr)
    (allows : orderly.onReply (.found ticket since loader doc) .go mgr others) :
    mgrPool.Keeps others (mgr.loaded ticket since loader doc) := by
  have same : SameBooks mgr (mgr.releaseLoad ticket) :=
    ⟨rfl, rfl, rfl, rfl, rfl, fun _ => rfl, fun _ => rfl⟩
  have next_holds := same.holds holds
  obtain ⟨begun, has⟩ := knows
  match loader, doc, players_eq : mgr.players with
  | .doPlayerCmd changes, none, _ => exact .ended next_holds
  | .enterGame enter, none, _ =>
      exact SameBooks.keeps next_holds
        ⟨rfl, rfl, rfl, rfl, rfl, fun _ => rfl, fun _ => rfl⟩ (by simp [Mgr.loaded])
  | .doPlayerCmd changes, some loaded, [] =>
      have loaded_eq : mgr.loaded ticket since (.doPlayerCmd changes) (some loaded) =
          ((mgr.releaseLoad ticket).addplayer loaded false).runCmd mgr.uuid changes := by
        simp only [Mgr.loaded, players_eq]
      rw [loaded_eq]
      exact keeps_loadedCmd changes next_holds players_eq (has (allows.1 players_eq))
  | .doPlayerCmd changes, some loaded, object :: later =>
      have loaded_eq : mgr.loaded ticket since (.doPlayerCmd changes) (some loaded) =
          (mgr.releaseLoad ticket).runCmd object changes := by
        simp only [Mgr.loaded, players_eq]
      have registered : object ∈ mgr.players := by
        rw [players_eq]
        exact List.mem_cons_self
      rw [loaded_eq]
      exact keeps_runCmd next_holds registered (allows.2 object registered)
  | .enterGame enter, some loaded, [] =>
      have loaded_eq : mgr.loaded ticket since (.enterGame enter) (some loaded) =
          (mgr.releaseLoad ticket).enterLoaded enter loaded := by
        simp only [Mgr.loaded, players_eq]
      rw [loaded_eq]
      exact keeps_enterLoaded enter next_holds players_eq (has (allows players_eq))
  | .enterGame enter, some loaded, object :: later =>
      have loaded_eq : mgr.loaded ticket since (.enterGame enter) (some loaded) =
          (mgr.releaseLoad ticket).delplayer object (.enterGame enter since loaded) := by
        simp only [Mgr.loaded, players_eq]
      have registered : object ∈ mgr.players := by
        rw [players_eq]
        exact List.mem_cons_self
      rw [loaded_eq]
      exact keeps_delplayer next_holds registered ⟨begun, has⟩

theorem keeps_update {after : Option After} (holds : mgrPool.Holds ⟨mgr, others⟩)
    (knows : (Task.update object changes after).Knows mgr) (has : mgr.document ⊆ changes) :
    mgrPool.Keeps others
      ({ mgr with stored := some changes }, (after.map (Task.updated object)).toList) := by
  have follows : Follows others mgr { mgr with stored := some changes } :=
    ⟨le_rfl, ⟨[], (List.append_nil _).symm, .inl rfl⟩, has, fun _ object_mem _ => object_mem⟩
  have sound := holds.shared
  refine follows.keeps holds ⟨⟨sound.one, sound.returned⟩, sound.known, sound.saved, sound.live,
    fun none_live => List.Subset.trans (sound.dead none_live) has⟩ ?_
  intro task task_mem
  cases after with
  | none => simp at task_mem
  | some after =>
      obtain rfl : task = .updated object after := by simpa using task_mem
      obtain ⟨known, made, after_knows⟩ := knows
      exact ⟨known, made, follows.after after_knows⟩

theorem keeps_updated {after : After} (holds : mgrPool.Holds ⟨mgr, others⟩)
    (knows : (Task.updated object after).Knows mgr)
    (allows : (∀ other ∈ mgr.players, other = object ∨ mgr.made ⊆ mgr.document) ∧ after.Fresh mgr) :
    mgrPool.Keeps others (mgr.removed object after) := by
  obtain ⟨-, made, after_knows⟩ := knows
  refine keeps_removed object holds ?_ after_knows allows.2
  match players_eq : mgr.players with
  | [] => exact holds.shared.dead players_eq
  | other :: later =>
      have registered : other ∈ mgr.players := by
        rw [players_eq]
        exact List.mem_cons_self
      rcases allows.1 other registered with rfl | stored
      · exact made registered
      · exact stored

theorem keeps_accept (request : Request) (holds : mgrPool.Holds ⟨mgr, others⟩)
    (allows : orderly.onRequest request mgr others) :
    mgrPool.Keeps others (mgr.accept request) := by
  have unticked : mgrPool.Keeps others ({ mgr with lastTick := false }, []) :=
    SameBooks.keeps holds ⟨rfl, rfl, rfl, rfl, rfl, fun _ => rfl, fun _ => rfl⟩ (by simp)
  have first {object : ℕ} {later : List ℕ} (players_eq : mgr.players = object :: later) :
      object ∈ mgr.players := by
    rw [players_eq]
    exact List.mem_cons_self
  cases request with
  | doPlayerCmd changes =>
      match players_eq : mgr.players with
      | [] =>
          simp only [Mgr.accept, players_eq]
          exact keeps_recoverplayer _ holds players_eq
      | object :: later =>
          simp only [Mgr.accept, players_eq]
          exact keeps_runCmd holds (first players_eq) (allows object (first players_eq))
  | enterGame =>
      have same : SameBooks mgr
          { mgr with tickets := mgr.tickets + 1, entering := mgr.entering ++ [mgr.tickets + 1] } :=
        ⟨rfl, rfl, rfl, rfl, rfl, fun _ => rfl, fun _ => rfl⟩
      unfold Mgr.accept
      dsimp only
      split
      · exact same.keeps holds (by simp [Task.Knows])
      · exact same.keeps holds (by simp [Task.Knows])
  | onClose =>
      match players_eq : mgr.players with
      | [] =>
          simp only [Mgr.accept, players_eq]
          exact .ended holds
      | object :: later =>
          simp only [Mgr.accept, players_eq]
          exact keeps_disconnect object holds
  | kick =>
      match players_eq : mgr.players with
      | [] =>
          simp only [Mgr.accept, players_eq]
          exact .ended holds
      | object :: later =>
          simp only [Mgr.accept, players_eq]
          let cplayer := { mgr.objects object with forceExitgame := true }
          have same : SameBooks mgr (mgr.setObject object cplayer) :=
            sameBooks_setObject mgr object rfl rfl
          split
          · exact keeps_disconnect object (same.holds holds)
          · exact same.keeps holds (by simp [Task.Knows])
  | onMinute =>
      match players_eq : mgr.players with
      | [] =>
          have accept_eq : mgr.accept .onMinute = ({ mgr with lastTick := false }, []) := by
            simp only [Mgr.accept, players_eq]
          rw [accept_eq]
          exact unticked
      | object :: later =>
          have accept_eq : mgr.accept .onMinute =
              if mgr.lastTick then
                if (mgr.objects object).linkobj then ({ mgr with lastTick := false }, [])
                else mgr.delplayer object .done
              else (mgr, []) := by
            simp only [Mgr.accept, players_eq]
          rw [accept_eq]
          split_ifs
          · exact unticked
          · exact keeps_delplayer holds (first players_eq) trivial
          · exact .ended holds
  | ontimer object =>
      rw [Mgr.accept]
      split_ifs
      · exact (SameBooks.refl mgr).keeps holds (by simp [Task.Knows])
      · exact .ended holds

theorem keeps_resume (task : Task) (reply : Reply) (holds : mgrPool.Holds ⟨mgr, others⟩)
    (knows : task.Knows mgr) (allows : orderly.onReply task reply mgr others) :
    mgrPool.Keeps others (mgr.resume task reply) := by
  have again : mgrPool.Keeps others (mgr, [task]) := .unchanged holds knows fun _ _ => trivial
  have releasedBoth (ticket enter : ℕ) :
      mgrPool.Keeps others ((mgr.releaseLoad ticket).releaseEnter enter, []) :=
    SameBooks.keeps holds ⟨rfl, rfl, rfl, rfl, rfl, fun _ => rfl, fun _ => rfl⟩ (by simp)
  have releasedLoad (ticket : ℕ) : mgrPool.Keeps others (mgr.releaseLoad ticket, []) :=
    SameBooks.keeps holds ⟨rfl, rfl, rfl, rfl, rfl, fun _ => rfl, fun _ => rfl⟩ (by simp)
  have releasedEnter (ticket : ℕ) : mgrPool.Keeps others (mgr.releaseEnter ticket, []) :=
    SameBooks.keeps holds ⟨rfl, rfl, rfl, rfl, rfl, fun _ => rfl, fun _ => rfl⟩ (by simp)
  cases task with
  | waitsLoad ticket since loader =>
      cases reply with
      | go =>
          rw [Mgr.resume]
          split_ifs
          · exact .unchanged holds knows fun _ _ => trivial
          · exact again
      | _ => exact again
  | findOne ticket since loader =>
      cases reply with
      | go => exact .unchanged holds knows fun _ _ => trivial
      | raise =>
          cases loader with
          | doPlayerCmd changes => exact releasedLoad ticket
          | enterGame enter => exact releasedBoth ticket enter
      | _ => exact again
  | found ticket since loader doc =>
      cases reply with
      | go => exact keeps_loaded holds knows allows
      | raise =>
          cases loader with
          | doPlayerCmd changes => exact releasedLoad ticket
          | enterGame enter => exact releasedBoth ticket enter
      | _ => exact again
  | command object =>
      cases reply with
      | go => exact again
      | changes changes => exact keeps_change holds allows
      | finish => exact .ended holds
      | raise => exact .ended holds
  | update object changes after =>
      cases after with
      | none =>
          cases reply with
          | go => exact keeps_update holds knows allows
          | raise => exact .ended holds
          | _ => exact again
      | some after =>
          cases reply with
          | go => exact keeps_update holds knows allows
          | raise => exact keeps_removed object holds allows.1 knows.2.2 allows.2
          | _ => exact again
  | updated object after =>
      cases reply with
      | go => exact keeps_updated holds knows allows
      | raise => exact keeps_updated holds knows allows
      | _ => exact again
  | waitsEnter ticket =>
      cases reply with
      | go =>
          rw [Mgr.resume]
          split_ifs
          · exact (SameBooks.refl mgr).keeps holds (by simp [Task.Knows])
          · exact again
      | _ => exact again
  | checktoken ticket =>
      cases reply with
      | go => exact keeps_entergame ticket holds
      | finish => exact releasedEnter ticket
      | raise => exact releasedEnter ticket
      | changes changes => exact again
  | replacing ticket object =>
      cases reply with
      | go => exact keeps_enterLive ticket object holds
      | raise => exact releasedEnter ticket
      | _ => exact again
  | onlogin ticket =>
      cases reply with
      | go => exact releasedEnter ticket
      | raise => exact releasedEnter ticket
      | _ => exact again
  | ondisconnect object =>
      cases reply with
      | go => exact keeps_setObject object holds (by rfl) (by rfl) (by simp [Task.Knows])
      | raise => exact .ended holds
      | _ => exact again
  | onlogout object =>
      cases reply with
      | go => exact keeps_exitgame object holds
      | raise => exact keeps_exitgame object holds
      | _ => exact again

theorem mgrPool_kept : mgrPool.KeptBy playerMgr orderly where
  accept request _ _ holds allows := keeps_accept request holds allows
  resume task reply _ _ holds own _ allows := keeps_resume task reply holds own allows

theorem mgrStart_holds (stored : Option (List ℕ)) : mgrPool.Holds (mgrStart stored) where
  shared :=
    ⟨⟨Nat.zero_le _, rfl⟩, by simp [mgrStart], by simp [mgrStart], by simp [mgrStart],
      fun _ => List.nil_subset _⟩
  own _ task_mem := (List.not_mem_nil task_mem).elim
  apart := .nil

/-- In every orderly run there is at most one live object, and no load has missed a change. -/
theorem loadsReturnAll_run (stored : Option (List ℕ)) (events : List (Event Request Reply))
    (admits : orderly.Admits playerMgr (mgrStart stored) events) :
    NothingLost (playerMgr.run (mgrStart stored) events).state :=
  (mgrPool_kept.holds_run admits (mgrStart_holds stored)).shared.toNothingLost

/-- A command changes the player, who is unloaded and loaded again. -/
def unloadRun : List (Event Request Reply) :=
  [.request (.doPlayerCmd [1]), .reply 0 .go, .reply 0 .go, .reply 0 .finish,
    .request .onMinute, .reply 0 .go, .reply 0 .go,
    .request (.doPlayerCmd []), .reply 0 .go, .reply 0 .go, .reply 0 .finish]

theorem loadsReturnAll_unloadRun :
    (playerMgr.run (mgrStart (some [])) unloadRun).state.made = [1] ∧
      NothingLost (playerMgr.run (mgrStart (some [])) unloadRun).state :=
  ⟨by decide, loadsReturnAll_run _ unloadRun (by decide)⟩

/-- A login waits for the load of a command, loads the document again before the change of the
command is saved, and makes that object live. -/
def staleRun : List (Event Request Reply) :=
  [.request (.doPlayerCmd [1]), .request .enterGame, .reply 1 .go, .reply 0 .go, .reply 1 .go,
    .reply 0 .go, .reply 1 .go, .reply 1 .go, .reply 1 .go, .reply 1 .go]

theorem not_nothingLost_staleRun :
    ¬ NothingLost (playerMgr.run (mgrStart (some [])) staleRun).state :=
  fun nothing => absurd nothing.returned (by decide)

end BasWar.PlayerMgr
