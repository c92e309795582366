import BasWar.Unions.UnionMoves

/-!
# Members of unions

A player is in one union at most, the manager knows in which one, and no union has more members than
its level allows, as long as nobody joins by an answer that comes after they have joined or founded
another union.
-/

namespace BasWar.Unions.UnionMgr

open Cooperative

/-- Each player is in one union at most, which is the one that is known for them; no union has too
many members. -/
structure Mgr.Functional (mgr : Mgr) : Prop where
  one : ∀ pid unionId other, mgr.IsMember unionId pid → mgr.IsMember other pid → unionId = other
  index : ∀ pid unionId, mgr.pidToUnionId pid = some unionId ↔ mgr.IsMember unionId pid
  full : ∀ unionId union, mgr.unions unionId = some union → union.memberCount ≤ union.getMemberMax

/-- The ids to come are new. -/
def Mgr.Numbered (mgr : Mgr) : Prop :=
  ∀ unionId, (mgr.unions unionId).isSome → unionId ≤ mgr.unionSeq + 100000

/-- Nobody founds a union, or accepts an invitation, who is in a union when the answer comes; an
invitation finds room; no application is accepted. -/
def freeWhenAnswered : Guard Mgr Request Task Reply where
  onRequest _ _ _ := True
  onReply task reply mgr _ :=
    match task, reply with
    | .genUnionId pid _, some _ => (mgr.getUnionByPlayerId pid).isSome = false
    | .answerCheckCD .., some true => False
    | .inviteCheckCD unionId pid, some true => (mgr.getUnionByPlayerId pid).isSome = false ∧
        ∀ union ∈ mgr.unions unionId, union.memberCount < union.getMemberMax
    | _, _ => True

instance (request mgr others) : Decidable (freeWhenAnswered.onRequest request mgr others) :=
  inferInstanceAs (Decidable True)

instance (task reply mgr others) : Decidable (freeWhenAnswered.onReply task reply mgr others) := by
  unfold freeWhenAnswered
  dsimp only
  split <;> infer_instance

namespace Mgr

variable {mgr : Mgr} {unionId pid : ℕ}

theorem IsMember.of_keys {keys : List ℕ}
    (keys_eq : (mgr.unions unionId).map (·.members.keys) = some keys) (mem : pid ∈ keys) :
    mgr.IsMember unionId pid := by
  obtain ⟨union, found, rfl⟩ := Option.map_eq_some_iff.mp keys_eq
  exact ⟨union, found, AList.mem_keys.mpr mem⟩

theorem isMember_setUnion_self {union : Option Union} :
    (mgr.setUnion unionId union).IsMember unionId pid ↔ ∃ found ∈ union, pid ∈ found.members := by
  simp only [IsMember, setUnion, Function.update_self, Option.mem_def]

theorem isMember_setUnion_of_ne {union : Option Union} {other : ℕ} (differs : other ≠ unionId) :
    (mgr.setUnion unionId union).IsMember other pid ↔ mgr.IsMember other pid := by
  simp only [IsMember, setUnion, Function.update_of_ne differs]

theorem isMember_change_of_ne {change : Union → Union} {other : ℕ} (differs : other ≠ unionId) :
    (mgr.change unionId change).IsMember other pid ↔ mgr.IsMember other pid :=
  isMember_setUnion_of_ne differs

theorem isMember_change_self {change : Union → Union} :
    (mgr.change unionId change).IsMember unionId pid ↔
      ∃ union, mgr.unions unionId = some union ∧ pid ∈ (change union).members := by
  rw [Mgr.change, isMember_setUnion_self]
  simp [Option.mem_def]

theorem isMember_same {change : Union → Union} (same_members : Union.SameMembers change)
    (other : ℕ) :
    (mgr.change unionId change).IsMember other pid ↔ mgr.IsMember other pid := by
  by_cases same : other = unionId
  · subst same
    rw [isMember_change_self]
    simp only [same_members.mem]
    rfl
  · exact isMember_change_of_ne same

theorem Functional.not_isMember (functional : mgr.Functional)
    (free : (mgr.getUnionByPlayerId pid).isSome = false) (unionId : ℕ) :
    ¬ mgr.IsMember unionId pid := by
  rintro ⟨union, found, mem⟩
  have known := (functional.index pid unionId).mpr ⟨union, found, mem⟩
  rw [getUnionByPlayerId, known] at free
  simp [found] at free

theorem Functional.change (functional : mgr.Functional) {change : Union → Union}
    (same_members : Union.SameMembers change) : (mgr.change unionId change).Functional where
  one pid first second := by
    rw [isMember_same same_members, isMember_same same_members]
    exact functional.one pid first second
  index pid other := by
    rw [isMember_same same_members]
    exact functional.index pid other
  full other union found := by
    by_cases same : other = unionId
    · subst same
      simp only [Mgr.change, setUnion, Function.update_self, Option.map_eq_some_iff] at found
      obtain ⟨before, before_eq, rfl⟩ := found
      rw [same_members.memberCount]
      exact (functional.full other before before_eq).trans (same_members.memberMax before)
    · simp only [Mgr.change, setUnion, Function.update_of_ne same] at found
      exact functional.full other union found

theorem pidToUnionId_setPid (known : Option ℕ) (other : ℕ) :
    (mgr.setPidToUnionId pid known).pidToUnionId other =
      if other = pid then known else mgr.pidToUnionId other := by
  simp only [setPidToUnionId, Function.update_apply]

theorem Functional.joined (functional : mgr.Functional) {next : Mgr} (unionId : ℕ)
    (free : ∀ other, ¬ mgr.IsMember other pid)
    (members : ∀ other player, next.IsMember other player ↔
      mgr.IsMember other player ∨ other = unionId ∧ player = pid)
    (index : next.pidToUnionId = Function.update mgr.pidToUnionId pid (some unionId))
    (full : ∀ other union, next.unions other = some union →
      union.memberCount ≤ union.getMemberMax) : next.Functional where
  one player first second first_mem second_mem := by
    rcases (members first player).mp first_mem with old | ⟨first_eq, player_eq⟩ <;>
      rcases (members second player).mp second_mem with other_old | ⟨second_eq, player_eq⟩
    · exact functional.one player first second old other_old
    · rw [player_eq] at old
      exact absurd old (free first)
    · rw [player_eq] at other_old
      exact absurd other_old (free second)
    · exact first_eq.trans second_eq.symm
  index player other := by
    rw [members, index]
    by_cases same : player = pid
    · subst same
      rw [Function.update_self]
      constructor
      · intro known
        exact .inr ⟨(Option.some.inj known).symm, rfl⟩
      · rintro (old | ⟨rfl, _⟩)
        · exact absurd old (free other)
        · rfl
    · rw [Function.update_of_ne same, functional.index]
      exact ⟨.inl, fun either => either.elim id fun new => absurd new.2 same⟩
  full := full

theorem Functional.enter (functional : mgr.Functional)
    (free : (mgr.getUnionByPlayerId pid).isSome = false) {union : Union}
    (found : mgr.unions unionId = some union) (room : union.memberCount < union.getMemberMax) :
    (mgr.enter unionId pid).Functional := by
  refine functional.joined unionId (functional.not_isMember free) ?_ rfl ?_
  · intro other player
    change (mgr.change unionId _).IsMember other player ↔ _
    by_cases same : other = unionId
    · subst same
      rw [isMember_change_self]
      constructor
      · rintro ⟨old, old_eq, mem⟩
        change player ∈ old.members.insert pid jobMember at mem
        exact (AList.mem_insert _ |>.mp mem).elim (fun new => .inr ⟨rfl, new⟩)
          fun old_mem => .inl ⟨old, old_eq, old_mem⟩
      · rintro (⟨old, old_eq, mem⟩ | ⟨_, rfl⟩)
        · exact ⟨old, old_eq, (AList.mem_insert _).mpr (.inr mem)⟩
        · exact ⟨union, found, (AList.mem_insert _).mpr (.inl rfl)⟩
    · rw [isMember_change_of_ne same]
      exact ⟨.inl, fun either => either.elim id fun new => absurd new.1 same⟩
  · intro other next next_eq
    by_cases same : other = unionId
    · subst same
      simp only [Mgr.enter, setPidToUnionId, Mgr.change, setUnion, Function.update_self, found,
        Option.map_some] at next_eq
      obtain rfl := Option.some.inj next_eq
      exact (Union.memberCount_setMember_le union pid jobMember).trans room
    · simp only [Mgr.enter, setPidToUnionId, Mgr.change, setUnion, Function.update_of_ne same]
        at next_eq
      exact functional.full other next next_eq

theorem Functional.doCreate (functional : mgr.Functional) (numbered : mgr.Numbered)
    (free : (mgr.getUnionByPlayerId pid).isSome = false) (info : UnionInfo) :
    (mgr.doCreate pid info).Functional := by
  have fresh : mgr.unions mgr.nextUnionId = none := by
    by_contra some_union
    have bound := numbered mgr.nextUnionId (Option.isSome_iff_ne_none.mpr some_union)
    unfold nextUnionId at bound
    omega
  refine functional.joined mgr.nextUnionId (functional.not_isMember free) ?_ rfl ?_
  · intro other player
    change (mgr.setUnion mgr.nextUnionId (some (.create pid info))).IsMember other player ↔ _
    by_cases same : other = mgr.nextUnionId
    · subst same
      rw [isMember_setUnion_self]
      have absent : ¬ mgr.IsMember mgr.nextUnionId player := by
        rintro ⟨union, found, _⟩
        rw [fresh] at found
        exact nomatch found
      simp [Union.create, absent, AList.mem_keys]
    · rw [isMember_setUnion_of_ne same]
      exact ⟨.inl, fun either => either.elim id fun new => absurd new.1 same⟩
  · intro other union found
    change Function.update mgr.unions mgr.nextUnionId _ other = some union at found
    by_cases same : other = mgr.nextUnionId
    · subst same
      rw [Function.update_self] at found
      obtain rfl := Option.some.inj found
      simp [Union.memberCount, Union.create, Union.getMemberMax, daoLevel]
    · rw [Function.update_of_ne same] at found
      exact functional.full other union found

/-- A member leaves the members and what is known together. -/
theorem Functional.leave (functional : mgr.Functional) (member : mgr.IsMember unionId pid) :
    (mgr.leave unionId pid).Functional := by
  have members : ∀ other player, (mgr.leave unionId pid).IsMember other player ↔
      mgr.IsMember other player ∧ player ≠ pid := by
    intro other player
    change (mgr.change unionId _).IsMember other player ↔ _
    by_cases same : other = unionId
    · subst same
      rw [isMember_change_self]
      constructor
      · rintro ⟨union, found, mem⟩
        obtain ⟨differs, old⟩ := AList.mem_erase.mp mem
        exact ⟨⟨union, found, old⟩, differs⟩
      · rintro ⟨⟨union, found, old⟩, differs⟩
        exact ⟨union, found, AList.mem_erase.mpr ⟨differs, old⟩⟩
    · rw [isMember_change_of_ne same]
      refine ⟨fun mem => ⟨mem, ?_⟩, And.left⟩
      rintro rfl
      exact same (functional.one player other unionId mem member)
  refine ⟨fun player first second first_mem second_mem => ?_, fun player other => ?_,
    fun other union found => ?_⟩
  · exact functional.one player first second ((members first player).mp first_mem).1
      ((members second player).mp second_mem).1
  · rw [members, Mgr.leave, pidToUnionId_setPid]
    split
    · rename_i same
      simp [same]
    · rename_i differs
      change mgr.pidToUnionId player = some other ↔ _
      rw [functional.index]
      exact ⟨fun mem => ⟨mem, differs⟩, And.left⟩
  · by_cases same : other = unionId
    · subst same
      simp only [Mgr.leave, setPidToUnionId, Mgr.change, setUnion, Function.update_self,
        Option.map_eq_some_iff] at found
      obtain ⟨before, before_eq, rfl⟩ := found
      exact (Union.memberCount_eraseMember_le before pid).trans
        (functional.full other before before_eq)
    · simp only [Mgr.leave, setPidToUnionId, Mgr.change, setUnion, Function.update_of_ne same]
        at found
      exact functional.full other union found

theorem Functional.dissolve (functional : mgr.Functional) {union : Union}
    (found : mgr.unions unionId = some union) (empty : union.members.keys = []) :
    (mgr.setUnion unionId none).Functional := by
  have members : ∀ other player, (mgr.setUnion unionId none).IsMember other player ↔
      mgr.IsMember other player := by
    intro other player
    by_cases same : other = unionId
    · subst same
      rw [isMember_setUnion_self]
      refine ⟨nofun, ?_⟩
      rintro ⟨before, before_eq, mem⟩
      rw [found] at before_eq
      obtain rfl := Option.some.inj before_eq
      rw [AList.mem_keys, empty] at mem
      exact nomatch mem
    · exact isMember_setUnion_of_ne same
  refine ⟨fun player first second => ?_, fun player other => ?_, fun other next next_eq => ?_⟩
  · rw [members, members]
    exact functional.one player first second
  · rw [members]
    exact functional.index player other
  · by_cases same : other = unionId
    · subst same
      simp [setUnion] at next_eq
    · simp only [setUnion, Function.update_of_ne same] at next_eq
      exact functional.full other next next_eq

end Mgr

/-- What a handler that adds or removes a member has found. -/
def Task.Knows (mgr : Mgr) : Task → Prop
  | .returnNfts unionId leaver _ | .leftGrids unionId leaver => mgr.IsMember unionId leaver.pid
  | .inviteCheckCD unionId _ => (mgr.unions unionId).isSome
  | .getOnlineStatus .. => False
  | _ => True

def membershipPool : Pool Mgr Task :=
  lockedPool (fun mgr => mgr.Functional ∧ mgr.Numbered) fun mgr task => task.Knows mgr

section Run

variable {settings : Settings} {mgr : Mgr} {others : List Task}

variable {task : Task} {next : Mgr}

theorem Task.Knows.mono (knows : task.Knows mgr)
    (members : ∀ unionId, task.lock = some unionId →
      ((mgr.unions unionId).isSome → (next.unions unionId).isSome) ∧
        ∀ pid, mgr.IsMember unionId pid → next.IsMember unionId pid) : task.Knows next := by
  cases task with
  | returnNfts unionId leaver calls | leftGrids unionId leaver =>
      exact (members unionId rfl).2 _ knows
  | inviteCheckCD unionId pid => exact (members unionId rfl).1 knows
  | getOnlineStatus => exact knows
  | _ => trivial

theorem keeps_members {unionId : ℕ} {result : Mgr × List Task}
    (holds : membershipPool.Holds ⟨mgr, others⟩)
    (alone : ∀ other ∈ others, other.lock ≠ some unionId) (moved : Local unionId mgr result)
    (functional : result.1.Functional) (knows : ∀ task ∈ result.2, task.Knows result.1) :
    membershipPool.Keeps others (lockFor unionId result) := by
  refine keeps_lockFor holds alone moved ⟨⟨functional.one, functional.index, functional.full⟩,
    fun other some_union => ?_⟩ (fun other mem => ?_)
    fun task mem => (knows task mem).mono fun _ _ => ⟨id, fun _ => id⟩
  · change other ≤ result.1.unionSeq + 100000
    rw [moved.unionSeq]
    refine holds.shared.2 other ?_
    change (result.1.unions other).isSome at some_union
    by_cases same : other = unionId
    · subst same
      exact moved.old some_union
    · rwa [moved.unions other same] at some_union
  · refine (holds.own other mem).2.mono fun held lock => ?_
    have differs : held ≠ unionId := fun same => alone other mem (same ▸ lock)
    have same_union := moved.unions held differs
    refine ⟨fun some_union => ?_, ?_⟩
    · change (result.1.unions held).isSome
      rwa [same_union]
    · rintro pid ⟨union, found, pid_mem⟩
      exact ⟨union, same_union.trans found, pid_mem⟩

theorem keeps_found {tasks : List Task} (holds : membershipPool.Holds ⟨mgr, others⟩)
    (functional : next.Functional) (numbered : next.Numbered) (locked : next.locked = mgr.locked)
    (members : ∀ unionId, ((mgr.unions unionId).isSome → (next.unions unionId).isSome) ∧
      ∀ pid, mgr.IsMember unionId pid → next.IsMember unionId pid)
    (fresh : ∀ task ∈ tasks, task.lock = none ∧ task.Knows next) (single : tasks.length ≤ 1) :
    membershipPool.Keeps others (next, tasks) :=
  keeps_unlocked holds ⟨functional, numbered⟩ locked
    (fun other mem => (holds.own other mem).2.mono fun held _ => members held) fresh single

theorem knows_returnNfts {unionId : ℕ} {leaver : Leaver} (calls : ℕ)
    (member : mgr.IsMember unionId leaver.pid) :
    ∀ task ∈ returnNfts unionId leaver calls, task.Knows mgr := by
  cases calls with
  | zero => exact List.forall_mem_singleton.mpr member
  | succ calls => exact List.forall_mem_singleton.mpr member

theorem Task.Knows.of_plain (plain : task.plain = true) : task.Knows mgr := by
  cases task <;> trivial

theorem Move.functional {unionId : ℕ} {op : Op} {result : Mgr × List Task}
    (move : Move settings unionId mgr op result) (functional : mgr.Functional) :
    result.1.Functional ∧ ∀ task ∈ result.2, task.Knows result.1 := by
  cases move with
  | done => exact ⟨functional, nofun⟩
  | wait task _ plain => exact ⟨functional, List.forall_mem_singleton.mpr (.of_plain plain)⟩
  | change change mild => exact ⟨functional.change mild.toSameMembers, nofun⟩
  | invite pid union found =>
      exact ⟨functional, List.forall_mem_singleton.mpr (Option.isSome_of_eq_some found)⟩
  | enter pid union found free room =>
      exact ⟨functional.enter free found room, List.forall_mem_singleton.mpr trivial⟩
  | rename pid newInfo now union op_eq found takes =>
      exact ⟨functional.change (.rename newInfo now), nofun⟩
  | leaving leaver calls member =>
      exact ⟨functional.change Union.Mild.touch.toSameMembers,
        knows_returnNfts calls ((Mgr.isMember_same Union.Mild.touch.toSameMembers _).mpr member)⟩
  | dissolve union found empty =>
      have ended := functional.dissolve found empty
      exact ⟨⟨ended.one, ended.index, ended.full⟩, List.forall_mem_singleton.mpr trivial⟩

/-- The answer to a handler with a lock keeps the members in order. -/
theorem answer_functional {unionId : ℕ} (lock : task.lock = some unionId) (reply : Reply)
    (functional : mgr.Functional) (knows : task.Knows mgr)
    (allows : freeWhenAnswered.onReply task reply mgr others) :
    (answer task reply mgr).1.Functional ∧
      ∀ next ∈ (answer task reply mgr).2, next.Knows (answer task reply mgr).1 := by
  cases reply with
  | none => exact ⟨functional, nofun⟩
  | some ret =>
      cases task with
      | genUnionId | createdGrids | selectBeginGrid | save => exact nomatch lock
      | joinedGrids => exact ⟨functional, nofun⟩
      | answerCheckCD id applyPid =>
          cases ret with
          | true => exact allows.elim
          | false => exact ⟨functional, nofun⟩
      | getOnlineStatus => exact knows.elim
      | answeredGrids id applyPid =>
          exact ⟨functional.change (Union.Mild.setApplys _).toSameMembers, nofun⟩
      | inviteCheckCD id pid =>
          cases ret with
          | true =>
              obtain ⟨free, room⟩ := allows
              obtain ⟨union, found⟩ := Option.isSome_iff_exists.mp knows
              exact ⟨functional.enter free found (room union found),
                List.forall_mem_singleton.mpr trivial⟩
          | false => exact ⟨functional, nofun⟩
      | returnNfts id leaver calls => exact ⟨functional, knows_returnNfts calls knows⟩
      | leftGrids id leaver =>
          cases leaver with
          | quit pid => exact ⟨functional.leave knows, List.forall_mem_singleton.mpr trivial⟩
          | ticked pid => exact ⟨functional.leave knows, nofun⟩
      | onUnionQuitSucc id =>
          exact (move_endQuit ⟨true, 0⟩ .donateDaoItem).functional functional
      | dissolveUnionHandle id unionName =>
          exact ⟨⟨functional.one, functional.index, functional.full⟩, nofun⟩
      | isResDictEnough id newInfo now =>
          cases ret with
          | true => exact ⟨functional, List.forall_mem_singleton.mpr trivial⟩
          | false => exact ⟨functional, nofun⟩
      | costResDict id newInfo now =>
          cases ret with
          | true => exact ⟨functional.change (.rename newInfo now), nofun⟩
          | false => exact ⟨functional, nofun⟩

theorem keeps_aside {tasks : List Task} (holds : membershipPool.Holds ⟨mgr, others⟩)
    (unions : next.unions = mgr.unions) (index : next.pidToUnionId = mgr.pidToUnionId)
    (locked : next.locked = mgr.locked) (unionSeq : next.unionSeq = mgr.unionSeq)
    (free : ∀ task ∈ tasks, task.lock = none ∧ task.plain = true) (single : tasks.length ≤ 1) :
    membershipPool.Keeps others (next, tasks) := by
  obtain ⟨functional, numbered⟩ := holds.shared
  have members : ∀ unionId pid, next.IsMember unionId pid ↔ mgr.IsMember unionId pid := by
    intro unionId pid
    rw [Mgr.IsMember, unions, Mgr.IsMember]
  refine keeps_found holds ⟨fun pid first second => ?_, fun pid unionId => ?_, ?_⟩ ?_ locked
    (fun unionId => ⟨by rw [unions]; exact id, fun pid => (members unionId pid).mpr⟩)
    (fun task mem => ⟨(free task mem).1, .of_plain (free task mem).2⟩) single
  · rw [members, members]
    exact functional.one pid first second
  · rw [members, index]
    exact functional.index pid unionId
  · rw [unions]
    exact functional.full
  · unfold Mgr.Numbered
    rw [unions, unionSeq]
    exact numbered

theorem keeps_save {unionId : ℕ} (holds : membershipPool.Holds ⟨mgr, others⟩)
    (unions : next.unions = mgr.unions) (index : next.pidToUnionId = mgr.pidToUnionId)
    (locked : next.locked = mgr.locked) (unionSeq : next.unionSeq = mgr.unionSeq) :
    membershipPool.Keeps others (save unionId next) := by
  obtain ⟨docs, saved_eq, tasks, single, _⟩ := save_eq unionId next
  have keeps : membershipPool.Keeps others ((save unionId next).1, (save unionId next).2) := by
    rw [saved_eq]
    refine keeps_aside holds unions index locked unionSeq (fun task mem => ?_) single
    obtain rfl := tasks task mem
    exact ⟨rfl, rfl⟩
  exact keeps

theorem keeps_doCreate {pid : ℕ} {info : UnionInfo} (holds : membershipPool.Holds ⟨mgr, others⟩)
    (free : (mgr.getUnionByPlayerId pid).isSome = false) :
    membershipPool.Keeps others (mgr.doCreate pid info, [.createdGrids mgr.nextUnionId]) := by
  have functional : mgr.Functional := holds.shared.1
  have numbered : mgr.Numbered := holds.shared.2
  have new : ∀ unionId, (mgr.unions unionId).isSome → unionId ≠ mgr.nextUnionId := by
    intro unionId some_union
    have bound := numbered unionId some_union
    unfold Mgr.nextUnionId
    omega
  have unions_of : ∀ unionId, unionId ≠ mgr.nextUnionId →
      (mgr.doCreate pid info).unions unionId = mgr.unions unionId :=
    fun unionId differs => Function.update_of_ne differs _ _
  refine keeps_found holds (functional.doCreate numbered free info) (fun unionId some_union => ?_)
    rfl (fun unionId => ⟨fun some_union => ?_, ?_⟩)
    (List.forall_mem_singleton.mpr ⟨rfl, trivial⟩) le_rfl
  · change unionId ≤ mgr.unionSeq + 1 + 100000
    by_cases same : unionId = mgr.nextUnionId
    · exact same.le
    · rw [unions_of unionId same] at some_union
      have bound := numbered unionId some_union
      omega
  · rwa [unions_of unionId (new unionId some_union)]
  · rintro player ⟨union, found, mem⟩
    have differs := new unionId (Option.isSome_of_eq_some found)
    exact ⟨union, (unions_of unionId differs).trans found, mem⟩

theorem keeps_saved {unionId : ℕ} (holds : membershipPool.Holds ⟨mgr, others⟩) :
    membershipPool.Keeps others (mgr.change unionId ({ · with dirty := false }), []) := by
  obtain ⟨functional, numbered⟩ := holds.shared
  have mild := Union.Mild.saved
  have some_iff : ∀ other, ((mgr.change unionId ({ · with dirty := false })).unions other).isSome =
      (mgr.unions other).isSome := by
    intro other
    simp only [Mgr.change, Mgr.setUnion, Function.update_apply]
    split
    · rename_i same
      rw [Option.isSome_map, same]
    · rfl
  refine keeps_found holds (functional.change mild.toSameMembers) (fun other some_union => ?_) rfl
    (fun other => ⟨?_, fun pid => (Mgr.isMember_same mild.toSameMembers other).mpr⟩) nofun (by simp)
  · rw [some_iff] at some_union
    exact numbered other some_union
  · rw [some_iff]
    exact id

theorem membershipPool_kept : membershipPool.KeptBy (unionService settings) freeWhenAnswered where
  accept request mgr others holds _ := by
    cases request with
    | createUnion pid info =>
        change membershipPool.Keeps others (accept settings (.createUnion pid info) mgr)
        unfold accept
        dsimp only
        split
        · exact .ended holds
        · split
          · exact .ended holds
          · exact keeps_aside holds rfl rfl rfl rfl
              (List.forall_mem_singleton.mpr ⟨rfl, rfl⟩) le_rfl
    | locked unionId op =>
        change membershipPool.Keeps others (accept settings (.locked unionId op) mgr)
        unfold accept
        dsimp only
        split
        · exact .ended holds
        · rename_i unlocked
          have move := move_start settings unionId mgr op
          obtain ⟨functional, knows⟩ := move.functional holds.shared.1
          exact keeps_members holds
            (fun other mem lock => unlocked ((holds.own other mem).1 _ lock))
            move.isLocal functional knows
    | save unionId => exact keeps_save holds rfl rfl rfl rfl
  resume task reply mgr others holds own apart allows := by
    change membershipPool.Keeps others (resume task reply mgr)
    unfold resume
    split
    · rename_i no_lock
      cases reply with
      | none => exact .ended holds
      | some ret =>
          cases task with
          | genUnionId pid info => exact keeps_doCreate holds allows
          | createdGrids unionId =>
              exact keeps_aside holds rfl rfl rfl rfl
                (List.forall_mem_singleton.mpr ⟨rfl, rfl⟩) le_rfl
          | selectBeginGrid unionId =>
              change membershipPool.Keeps others (proceed (.selectBeginGrid unionId) ret mgr)
              unfold proceed
              dsimp only
              split
              · exact .ended holds
              · exact keeps_save holds rfl rfl rfl rfl
          | save unionId => exact keeps_saved holds
          | _ => exact nomatch no_lock
    · rename_i unionId lock
      obtain ⟨functional, knows⟩ := answer_functional lock reply holds.shared.1 own.2 allows
      exact keeps_members holds (fun other mem => apart other mem unionId lock)
        (local_answer lock reply) functional knows

/-- Over every run, players are in one union at most, the manager knows it, and no union is over its
size, if whoever founds a union or accepts an invitation is in no union when the answer comes, the
invitation then finds room, and no application is accepted. -/
theorem functional_run (settings : Settings) (unionSeq : ℕ) (events : List (Event Request Reply))
    (admits : freeWhenAnswered.Admits (unionService settings) (unionStart unionSeq ∅) events) :
    ((unionService settings).run (unionStart unionSeq ∅) events).state.Functional := by
  have absent : ∀ unionId pid, ¬ (initUnions unionSeq ∅).IsMember unionId pid := by
    rintro unionId pid ⟨union, found, _⟩
    exact nomatch found
  have start : (initUnions unionSeq ∅).Functional :=
    ⟨fun pid first second mem => absurd mem (absent first pid),
      fun pid unionId => ⟨nofun, fun mem => absurd mem (absent unionId pid)⟩, nofun⟩
  exact (membershipPool_kept.holds_run admits ⟨⟨start, nofun⟩, nofun, .nil⟩).shared.1

end Run

def openUnion (unionName : String) : UnionInfo :=
  ⟨unionName, .unlimit, 0⟩

/-- Two unions are founded, one player joins each, and one of them leaves for the other union. -/
def joinedRun : List (Event Request Reply) :=
  [.request (.createUnion 1 (openUnion "North")), .request (.createUnion 2 (openUnion "South")),
    .reply 0 (some true), .reply 0 (some true), .request (.locked 100001 (.joinUnion 3 0)),
    .request (.locked 100002 (.joinUnion 4 0)), .reply 2 (some true), .reply 2 (some true),
    .request (.locked 100001 (.quitUnion 3 1)), .reply 2 (some true), .reply 2 (some true),
    .reply 2 (some true), .request (.locked 100002 (.answerUnionInvite 3 true)),
    .reply 2 (some true), .reply 2 (some true)]

theorem functional_joinedRun :
    (((unionService ⟨true, 0⟩).run (unionStart 0 ∅) joinedRun).state.unions 100002).map
        (·.members.keys) = some [3, 4, 2] ∧
      ((unionService ⟨true, 0⟩).run (unionStart 0 ∅) joinedRun).state.Functional :=
  ⟨by decide +kernel, functional_run ⟨true, 0⟩ 0 joinedRun (by decide +kernel)⟩

def twoFoundedRun : List (Event Request Reply) :=
  [.request (.createUnion 1 (openUnion "North")), .request (.createUnion 1 (openUnion "South")),
    .reply 0 (some true), .reply 0 (some true)]

/-- The player is a member of both. -/
theorem not_functional_twoFoundedRun :
    ¬ ((unionService ⟨true, 0⟩).run (unionStart 0 ∅) twoFoundedRun).state.Functional := by
  intro functional
  have first : ((unionService ⟨true, 0⟩).run (unionStart 0 ∅) twoFoundedRun).state.IsMember
      100001 1 :=
    .of_keys (show _ = some [1] by decide +kernel) (by decide)
  have second : ((unionService ⟨true, 0⟩).run (unionStart 0 ∅) twoFoundedRun).state.IsMember
      100002 1 :=
    .of_keys (show _ = some [1] by decide +kernel) (by decide)
  exact absurd (functional.one 1 100001 100002 first second) (by decide)

end BasWar.Unions.UnionMgr
