import BasWar.Unions.UnionMgr

/-!
# What a request of a union can do

An operation on a union changes that union only, keeps its lock while it waits, and does one of a
few things to the members and the name of the union.
-/

namespace BasWar.Unions.UnionMgr

open Cooperative

namespace Mgr

/-- The player is in the members of the union. -/
def IsMember (mgr : Mgr) (unionId pid : ℕ) : Prop :=
  ∃ union, mgr.unions unionId = some union ∧ pid ∈ union.members

def HasName (mgr : Mgr) (unionId : ℕ) (unionName : String) : Prop :=
  ∃ union, mgr.unions unionId = some union ∧ union.info.unionName = unionName

end Mgr

namespace Union

/-- A change of a union that leaves its members alone and does not take away room. -/
structure SameMembers (change : Union → Union) : Prop where
  mem : ∀ union pid, pid ∈ (change union).members ↔ pid ∈ union.members
  memberCount : ∀ union, (change union).memberCount = union.memberCount
  memberMax : ∀ union, union.getMemberMax ≤ (change union).getMemberMax

/-- A change of a union that leaves its members and its name alone. -/
structure Mild (change : Union → Union) : Prop extends SameMembers change where
  unionName : ∀ union, (change union).info.unionName = union.info.unionName

theorem SameMembers.of_eq {change : Union → Union}
    (same : ∀ union, (change union).members = union.members ∧
      (change union).unionLevel = union.unionLevel) : SameMembers change where
  mem union pid := by rw [(same union).1]
  memberCount union := by rw [Union.memberCount, (same union).1, Union.memberCount]
  memberMax union := by rw [getMemberMax, getMemberMax, (same union).2]

theorem SameMembers.rename (info : UnionInfo) (now : ℕ) : SameMembers (·.rename info now) :=
  .of_eq fun _ => ⟨rfl, rfl⟩

theorem Mild.touch : Mild touch :=
  ⟨.of_eq fun _ => ⟨rfl, rfl⟩, fun _ => rfl⟩

theorem Mild.saved : Mild ({ · with dirty := false }) :=
  ⟨.of_eq fun _ => ⟨rfl, rfl⟩, fun _ => rfl⟩

theorem Mild.setApplys (change : List ℕ → List ℕ) : Mild (·.setApplys change) :=
  ⟨.of_eq fun _ => ⟨rfl, rfl⟩, fun _ => rfl⟩

theorem Mild.setInfo (info : UnionInfo) : Mild (·.setInfo info) :=
  ⟨.of_eq fun _ => ⟨rfl, rfl⟩, fun _ => rfl⟩

theorem memberCount_setMember_of_mem {union : Union} {pid : ℕ} (unionJob : ℕ)
    (mem : pid ∈ union.members) :
    (union.setMember pid unionJob).memberCount = union.memberCount := by
  have key_mem : pid ∈ union.members.keys := AList.mem_keys.mp mem
  have positive := List.length_pos_of_mem key_mem
  rw [memberCount, setMember, AList.keys_insert, List.length_cons, List.length_erase_of_mem key_mem,
    memberCount]
  omega

theorem memberCount_setMember_le (union : Union) (pid unionJob : ℕ) :
    (union.setMember pid unionJob).memberCount ≤ union.memberCount + 1 := by
  rw [memberCount, setMember, AList.keys_insert, List.length_cons, memberCount]
  exact Nat.succ_le_succ (List.length_erase_le ..)

theorem memberCount_eraseMember_le (union : Union) (pid : ℕ) :
    (union.eraseMember pid).memberCount ≤ union.memberCount := by
  rw [memberCount, eraseMember, AList.keys_erase, memberCount]
  exact List.length_erase_le ..

theorem Mild.editJob (pid unionJob : ℕ) : Mild (·.editJob pid unionJob) where
  mem union other := by
    unfold Union.editJob
    split
    · rename_i mem
      change other ∈ union.members.insert pid unionJob ↔ _
      rw [AList.mem_insert]
      exact ⟨fun found => found.elim (· ▸ mem) id, .inr⟩
    · exact Iff.rfl
  memberCount union := by
    unfold Union.editJob
    split
    · rename_i mem
      exact memberCount_setMember_of_mem unionJob mem
    · rfl
  memberMax union := by
    unfold Union.editJob
    split <;> exact le_rfl
  unionName union := by
    unfold Union.editJob
    split <;> rfl

theorem memberMax_mono : ∀ level < daoLevel.length,
    (match level with | 0 => 0 | below + 1 => daoLevel.getD below 0) ≤ daoLevel.getD level 0 := by
  decide

theorem Mild.levelUp : Mild levelUp where
  mem union pid := by
    unfold Union.levelUp
    split <;> exact Iff.rfl
  memberCount union := by
    unfold Union.levelUp
    split <;> rfl
  memberMax union := by
    unfold Union.levelUp
    split
    · rename_i below
      exact memberMax_mono union.unionLevel below
    · exact le_rfl
  unionName union := by
    unfold Union.levelUp
    split <;> rfl

/-- The request gives the union another name at once. -/
def TakesName (settings : Settings) (pid : ℕ) (newInfo : UnionInfo) (now : ℕ) (union : Union) :
    Prop :=
  (∃ unionJob ∈ union.members.lookup pid, jobVicePresident ≤ unionJob) ∧
    newInfo.unionName ≠ union.info.unionName ∧
    ¬ (0 < union.modifyNameTime ∧ now < union.modifyNameTime + settings.modifyCDSec) ∧
    settings.unionChangeNameCost = false

end Union

/-- The answer finds nothing that must still be as it was. -/
def Task.plain : Task → Bool
  | .returnNfts .. | .leftGrids .. | .inviteCheckCD .. | .getOnlineStatus ..
  | .dissolveUnionHandle .. => false
  | _ => true

/-- What the first segment of an operation on a union does. -/
inductive Move (settings : Settings) (unionId : ℕ) (mgr : Mgr) (op : Op) :
    Mgr × List Task → Prop
  | done : Move settings unionId mgr op (mgr, [])
  | wait (task : Task) (lock : task.lock = some unionId) (plain : task.plain = true) :
      Move settings unionId mgr op (mgr, [task])
  | change (change : Union → Union) (mild : Union.Mild change) :
      Move settings unionId mgr op (mgr.change unionId change, [])
  | enter (pid : ℕ) (union : Union) (found : mgr.unions unionId = some union)
      (free : (mgr.getUnionByPlayerId pid).isSome = false)
      (room : union.memberCount < union.getMemberMax) :
      Move settings unionId mgr op (mgr.enter unionId pid, [.joinedGrids unionId])
  | rename (pid : ℕ) (newInfo : UnionInfo) (now : ℕ) (union : Union)
      (op_eq : op = .modifyUnionInfo pid newInfo now) (found : mgr.unions unionId = some union)
      (takes : union.TakesName settings pid newInfo now) :
      Move settings unionId mgr op (mgr.change unionId (·.rename newInfo now), [])
  | invite (pid : ℕ) (union : Union) (found : mgr.unions unionId = some union) :
      Move settings unionId mgr op (mgr, [.inviteCheckCD unionId pid])
  | leaving (leaver : Leaver) (calls : ℕ) (member : mgr.IsMember unionId leaver.pid) :
      Move settings unionId mgr op
        (mgr.change unionId (·.touch), returnNfts unionId leaver calls)
  | dissolve (union : Union) (found : mgr.unions unionId = some union)
      (empty : union.members.keys = []) :
      Move settings unionId mgr op
        ({ mgr.setUnion unionId none with saving := Function.update mgr.saving unionId false },
          [.dissolveUnionHandle unionId union.info.unionName])

section Moves

variable {settings : Settings} {unionId : ℕ} {mgr : Mgr}

theorem move_endQuit (settings : Settings) (op : Op) :
    Move settings unionId mgr op (endQuit unionId mgr) := by
  unfold endQuit
  split
  · exact .done
  · rename_i union found
    split
    · rename_i empty
      exact .dissolve union found empty
    · exact .done

theorem move_joinUnion (op : Op) (pid playerScore : ℕ) :
    Move settings unionId mgr op (joinUnion unionId mgr pid playerScore) := by
  unfold joinUnion
  split
  · exact .done
  rename_i free
  split
  · exact .done
  rename_i union found
  split
  · exact .done
  split
  · exact .done
  rename_i room
  split
  · exact .done
  split
  · exact .change _ (.setApplys _)
  · exact .enter pid union found (Bool.eq_false_iff.mpr free) (not_le.mp room)

theorem move_joinUnionAnswer (op : Op) (pid applyPid : ℕ) (agree : Bool) :
    Move settings unionId mgr op (joinUnionAnswer unionId mgr pid applyPid agree) := by
  unfold joinUnionAnswer
  split
  · exact .done
  split
  · exact .done
  split
  · exact .done
  split
  · exact .done
  split
  · exact .change _ (.setApplys _)
  split
  · exact .change _ (.setApplys _)
  split
  · exact .done
  · exact .wait _ rfl rfl

theorem move_unionClearAllApply (op : Op) (pid : ℕ) :
    Move settings unionId mgr op (unionClearAllApply unionId mgr pid) := by
  unfold unionClearAllApply
  split
  · exact .done
  split
  · exact .done
  · exact .change _ (.setApplys _)

theorem move_answerUnionInvite (op : Op) (pid : ℕ) (agree : Bool) :
    Move settings unionId mgr op (answerUnionInvite unionId mgr pid agree) := by
  unfold answerUnionInvite
  split
  · exact .done
  rename_i union found
  split
  · exact .done
  split
  · exact .done
  · exact .invite pid union found

theorem move_modifyUnionInfo (pid : ℕ) (newInfo : UnionInfo) (now : ℕ) :
    Move settings unionId mgr (.modifyUnionInfo pid newInfo now)
      (modifyUnionInfo unionId mgr settings pid newInfo now) := by
  unfold modifyUnionInfo
  split
  · exact .done
  rename_i union found
  split
  · exact .done
  rename_i unionJob job_eq
  split
  · exact .done
  rename_i officer
  split
  · exact .change _ (.setInfo newInfo)
  rename_i differs
  split
  · exact .done
  rename_i rested
  split
  · exact .wait _ rfl rfl
  · rename_i free
    exact .rename pid newInfo now union rfl found
      ⟨⟨unionJob, job_eq, not_lt.mp officer⟩, differs, rested, Bool.eq_false_iff.mpr free⟩

theorem isMember_of_lookup {union : Union} {pid unionJob : ℕ}
    (found : mgr.unions unionId = some union) (job : union.members.lookup pid = some unionJob) :
    mgr.IsMember unionId pid :=
  ⟨union, found, AList.lookup_isSome.mp (Option.isSome_of_eq_some job)⟩

theorem move_quitUnion (op : Op) (pid calls : ℕ) :
    Move settings unionId mgr op (quitUnion unionId mgr pid calls) := by
  unfold quitUnion
  split
  · exact .done
  rename_i union found
  split
  · exact move_endQuit settings op
  rename_i unionJob job
  split
  · exact move_endQuit settings op
  split
  · exact move_endQuit settings op
  · exact .leaving (.quit pid) calls (isMember_of_lookup found job)

theorem move_tickOutUnion (op : Op) (pid tickedPid calls : ℕ) :
    Move settings unionId mgr op (tickOutUnion unionId mgr pid tickedPid calls) := by
  unfold tickOutUnion
  split
  · exact .done
  rename_i union found
  split
  · rename_i unionJob tickedJob _ ticked
    split
    · exact .done
    split
    · exact .done
    split
    · exact .done
    · exact .leaving (.ticked tickedPid) calls (isMember_of_lookup found ticked)
  · exact .done

theorem move_start (settings : Settings) (unionId : ℕ) (mgr : Mgr) (op : Op) :
    Move settings unionId mgr op (start unionId mgr settings op) := by
  cases op with
  | joinUnion pid playerScore => exact move_joinUnion _ pid playerScore
  | joinUnionAnswer pid applyPid agree => exact move_joinUnionAnswer _ pid applyPid agree
  | unionClearAllApply pid => exact move_unionClearAllApply _ pid
  | answerUnionInvite pid agree => exact move_answerUnionInvite _ pid agree
  | modifyUnionInfo pid newInfo now => exact move_modifyUnionInfo pid newInfo now
  | editUnionJob editedPid unionJob => exact .change _ (.editJob editedPid unionJob)
  | donateDaoItem => exact .change _ .levelUp
  | quitUnion pid calls => exact move_quitUnion _ pid calls
  | tickOutUnion pid tickedPid calls => exact move_tickOutUnion _ pid tickedPid calls

end Moves

section Locks

variable {settings : Settings} {unionId : ℕ} {mgr : Mgr}

/-- A segment that holds the lock of a union leaves the other unions alone. -/
structure Local (unionId : ℕ) (mgr : Mgr) (result : Mgr × List Task) : Prop where
  unions : ∀ other, other ≠ unionId → result.1.unions other = mgr.unions other
  locked : result.1.locked = mgr.locked
  unionSeq : result.1.unionSeq = mgr.unionSeq
  old : (result.1.unions unionId).isSome → (mgr.unions unionId).isSome
  lock : ∀ task ∈ result.2, task.lock = some unionId
  single : result.2.length ≤ 1

namespace Local

theorem done : Local unionId mgr (mgr, []) :=
  ⟨fun _ _ => rfl, rfl, rfl, id, nofun, by simp⟩

theorem wait {task : Task} (lock : task.lock = some unionId) : Local unionId mgr (mgr, [task]) :=
  ⟨fun _ _ => rfl, rfl, rfl, id, List.forall_mem_singleton.mpr lock, le_rfl⟩

variable {tasks : List Task} {next : Mgr}

theorem change (moved : Local unionId mgr (mgr, tasks)) (union : Option Union)
    (old : union.isSome → (mgr.unions unionId).isSome)
    (unions : next.unions = Function.update mgr.unions unionId union)
    (locked : next.locked = mgr.locked) (unionSeq : next.unionSeq = mgr.unionSeq) :
    Local unionId mgr (next, tasks) where
  unions other differs := by rw [unions, Function.update_of_ne differs]
  locked := locked
  unionSeq := unionSeq
  old some_union := old (by rwa [unions, Function.update_self] at some_union)
  lock := moved.lock
  single := moved.single

theorem map (moved : Local unionId mgr (mgr, tasks)) (change : Union → Union)
    (unions : next.unions = (mgr.change unionId change).unions) (locked : next.locked = mgr.locked)
    (unionSeq : next.unionSeq = mgr.unionSeq) : Local unionId mgr (next, tasks) :=
  moved.change _ (by rw [Option.isSome_map]; exact id) unions locked unionSeq

theorem known (moved : Local unionId mgr (mgr, tasks)) (unions : next.unions = mgr.unions)
    (locked : next.locked = mgr.locked) (unionSeq : next.unionSeq = mgr.unionSeq) :
    Local unionId mgr (next, tasks) where
  unions other _ := by rw [unions]
  locked := locked
  unionSeq := unionSeq
  old := by rw [unions]; exact id
  lock := moved.lock
  single := moved.single

end Local

theorem local_returnNfts (leaver : Leaver) (calls : ℕ) :
    Local unionId mgr (mgr, returnNfts unionId leaver calls) := by
  cases calls with
  | zero => exact .wait rfl
  | succ calls => exact .wait rfl

theorem Move.isLocal {op : Op} {result : Mgr × List Task}
    (move : Move settings unionId mgr op result) : Local unionId mgr result := by
  cases move with
  | done => exact .done
  | wait task lock _ => exact .wait lock
  | invite => exact .wait rfl
  | change | rename => exact Local.done.map _ rfl rfl rfl
  | enter => exact (Local.wait rfl).map _ rfl rfl rfl
  | leaving leaver calls _ => exact (local_returnNfts leaver calls).map _ rfl rfl rfl
  | dissolve => exact (Local.wait rfl).change none nofun rfl rfl rfl

/-- The answer to a handler with a lock leaves the other unions alone, too. -/
theorem local_answer {task : Task} (lock : task.lock = some unionId) (reply : Reply) :
    Local unionId mgr (answer task reply mgr) := by
  cases reply with
  | none => exact .done
  | some ret =>
      cases task with
      | genUnionId | createdGrids | selectBeginGrid | save => exact nomatch lock
      | joinedGrids => exact .done
      | answerCheckCD id applyPid =>
          obtain rfl := Option.some.inj lock
          simp only [answer, proceed]
          split
          · exact (Local.wait rfl).map _ rfl rfl rfl
          · exact .done
      | getOnlineStatus id applyPid =>
          obtain rfl := Option.some.inj lock
          exact (Local.wait rfl).known rfl rfl rfl
      | answeredGrids id applyPid =>
          obtain rfl := Option.some.inj lock
          exact Local.done.map _ rfl rfl rfl
      | inviteCheckCD id pid =>
          obtain rfl := Option.some.inj lock
          simp only [answer, proceed]
          split
          · exact (Local.wait rfl).map _ rfl rfl rfl
          · exact .done
      | returnNfts id leaver calls =>
          obtain rfl := Option.some.inj lock
          exact local_returnNfts leaver calls
      | leftGrids id leaver =>
          obtain rfl := Option.some.inj lock
          cases leaver with
          | quit pid => exact (Local.wait rfl).map _ rfl rfl rfl
          | ticked pid => exact Local.done.map _ rfl rfl rfl
      | onUnionQuitSucc id =>
          obtain rfl := Option.some.inj lock
          exact (move_endQuit ⟨true, 0⟩ .donateDaoItem).isLocal
      | dissolveUnionHandle id unionName => exact Local.done.known rfl rfl rfl
      | isResDictEnough id newInfo now =>
          obtain rfl := Option.some.inj lock
          simp only [answer, proceed]
          split
          · exact .wait rfl
          · exact .done
      | costResDict id newInfo now =>
          obtain rfl := Option.some.inj lock
          simp only [answer, proceed]
          split
          · exact Local.done.map _ rfl rfl rfl
          · exact .done

/-- A waiting handler keeps the lock of its union, and nobody else has it; what it still knows, and
what holds of the manager, depends on what is to be proved. -/
def lockedPool (shared : Mgr → Prop) (knows : Mgr → Task → Prop) : Pool Mgr Task where
  shared := shared
  own mgr task := (∀ unionId, task.lock = some unionId → mgr.locked unionId = true) ∧ knows mgr task
  apart first second := ∀ unionId, first.lock = some unionId → second.lock ≠ some unionId
  apart_symm apart unionId second_eq first_eq := apart unionId first_eq second_eq

variable {shared : Mgr → Prop} {knows : Mgr → Task → Prop} {others : List Task}

theorem keeps_lockFor {result : Mgr × List Task}
    (holds : (lockedPool shared knows).Holds ⟨mgr, others⟩)
    (alone : ∀ other ∈ others, other.lock ≠ some unionId) (moved : Local unionId mgr result)
    (keeps_shared : shared (lockFor unionId result).1)
    (stable : ∀ other ∈ others, knows (lockFor unionId result).1 other)
    (fresh : ∀ task ∈ result.2, knows (lockFor unionId result).1 task) :
    (lockedPool shared knows).Keeps others (lockFor unionId result) := by
  have locks : ∀ other, (lockFor unionId result).1.locked other =
      if other = unionId then !result.2.isEmpty else mgr.locked other := by
    intro other
    simp only [lockFor, moved.locked, Function.update_apply]
  refine ⟨keeps_shared, fun other mem => ⟨fun held lock => ?_, stable other mem⟩,
    fun task mem => ⟨fun held lock => ?_, fresh task mem⟩,
    fun other other_mem task mem held other_lock task_lock => ?_, pairwise_of_single moved.single⟩
  · have differs : held ≠ unionId := fun same => alone other mem (same ▸ lock)
    rw [locks, if_neg differs]
    exact (holds.own other mem).1 held lock
  · obtain rfl := Option.some.inj ((moved.lock task mem).symm.trans lock)
    rw [locks, if_pos rfl]
    cases tasks_eq : result.2 with
    | nil =>
        rw [show (lockFor unionId result).2 = result.2 from rfl, tasks_eq] at mem
        exact nomatch mem
    | cons => rfl
  · obtain rfl := Option.some.inj ((moved.lock task mem).symm.trans task_lock)
    exact alone other other_mem other_lock

theorem keeps_unlocked {next : Mgr} {tasks : List Task}
    (holds : (lockedPool shared knows).Holds ⟨mgr, others⟩) (keeps_shared : shared next)
    (locked : next.locked = mgr.locked) (stable : ∀ other ∈ others, knows next other)
    (fresh : ∀ task ∈ tasks, task.lock = none ∧ knows next task) (single : tasks.length ≤ 1) :
    (lockedPool shared knows).Keeps others (next, tasks) := by
  refine ⟨keeps_shared, fun other mem => ⟨fun held lock => ?_, stable other mem⟩,
    fun task mem => ⟨fun held lock => ?_, (fresh task mem).2⟩,
    fun other _ task mem held _ task_lock => ?_, pairwise_of_single single⟩
  · change next.locked held = true
    rw [locked]
    exact (holds.own other mem).1 held lock
  · rw [(fresh task mem).1] at lock
    exact nomatch lock
  · rw [(fresh task mem).1] at task_lock
    exact nomatch task_lock

theorem save_eq (unionId : ℕ) (mgr : Mgr) : ∃ docs,
    (save unionId mgr).1 = { mgr with docs } ∧
      (∀ task ∈ (save unionId mgr).2, task = .save unionId) ∧ (save unionId mgr).2.length ≤ 1 ∧
      ∀ other doc, docs.lookup other = some doc →
        mgr.docs.lookup other = some doc ∨ mgr.unions other = some doc := by
  unfold save
  split
  · exact ⟨mgr.docs, rfl, nofun, by simp, fun _ _ => .inl⟩
  · rename_i union found
    split
    · refine ⟨_, rfl, List.forall_mem_singleton.mpr rfl, le_rfl, fun other doc doc_eq => ?_⟩
      by_cases same : other = unionId
      · subst same
        rw [AList.lookup_insert] at doc_eq
        obtain rfl := Option.some.inj doc_eq
        exact .inr found
      · rw [AList.lookup_insert_ne same] at doc_eq
        exact .inl doc_eq
    · exact ⟨mgr.docs, rfl, nofun, by simp, fun _ _ => .inl⟩

end Locks

end BasWar.Unions.UnionMgr
