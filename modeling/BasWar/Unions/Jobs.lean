import Mathlib.Algebra.Order.Ring.Int
import Mathlib.Data.List.Count
import Mathlib.Data.List.Nodup

/-!
# Jobs of union members

The members of a union edit each other's jobs.  The hierarchy holds over every run whose
appointments name a job below that of the editor.
-/

namespace BasWar.Unions.Jobs

def unionJobPresident : ℤ := 9

def unionJobVicepresident : ℤ := 8

def unionJobMember : ℤ := 0

def unionJobOpTransfer : ℤ := 1

def unionJobOpAppointed : ℤ := 2

def unionJobOpRemove : ℤ := 3

def unionJobOpOutgoing : ℤ := 4

/-- A row of `daoPosition`, with the rights that an edit of a job needs. -/
structure DaoPosition where
  accessLevel : ℤ
  maxCound : ℤ
  isTransfer : ℤ
  isAppointed : ℤ
  isOutgoing : ℤ
  isRemove : ℤ

def daoPosition : List DaoPosition :=
  [⟨9, 1, 1, 1, 0, 1⟩, ⟨8, 1, 0, 1, 1, 1⟩, ⟨7, 2, 0, 0, 1, 0⟩, ⟨0, -1, 0, 0, 0, 0⟩]

def getDaoPositionCfg (unionJob : ℤ) : Option DaoPosition :=
  daoPosition.find? fun cfg => cfg.accessLevel = unionJob

def getUnionJobMaxCnt (unionJob : ℤ) : ℤ :=
  match getDaoPositionCfg unionJob with
  | none => 999999
  | some cfg => if cfg.maxCound ≤ 0 then 999999 else cfg.maxCound

def unionJobCan (right : DaoPosition → ℤ) (unionJob : ℤ) : Bool :=
  match getDaoPositionCfg unionJob with
  | none => false
  | some cfg => right cfg = 1

def unionJobCanTransfer : ℤ → Bool :=
  unionJobCan DaoPosition.isTransfer

def unionJobCanAppointed : ℤ → Bool :=
  unionJobCan DaoPosition.isAppointed

def unionJobCanRemove : ℤ → Bool :=
  unionJobCan DaoPosition.isRemove

def unionJobCanOutgoing : ℤ → Bool :=
  unionJobCan DaoPosition.isOutgoing

structure Member where
  playerId : ℕ
  playerName : String
  unionJob : ℤ
  deriving DecidableEq

inductive JobError
  | unionNotMember
  | unionNoThisMember
  | unionNoAuthority
  | unionEditSelfJob
  | unionTransferInvalid
  | unionMaxTitle

inductive Message
  | playerSay (pid : ℕ) (error : JobError)
  | onUnionJobChange (pid : ℕ) (unionJob : ℤ)
  | onUnionEditJobFinish (pid : ℕ) (editType : ℤ) (editJob : Option ℤ) (playerName : String)

/-- A union by its members, who have different ids. -/
structure Union where
  members : List Member
  nodup : (members.map Member.playerId).Nodup

/-- A client asks for an edit of a job. -/
structure EditJob where
  pid : ℕ
  editedPid : ℕ
  unionJob : ℤ
  editType : ℤ

namespace Union

def member? (union : Union) (pid : ℕ) : Option Member :=
  union.members.find? fun member => member.playerId = pid

def getCurUnionJobCnt (union : Union) (unionJob : ℤ) : ℕ :=
  union.members.countP fun member => member.unionJob = unionJob

def setUnionJob (union : Union) (pid : ℕ) (unionJob : ℤ) : Union where
  members := union.members.map fun member =>
    if member.playerId = pid then { member with unionJob := unionJob } else member
  nodup := by
    have same : (union.members.map fun member =>
        if member.playerId = pid then { member with unionJob := unionJob } else member).map
          Member.playerId = union.members.map Member.playerId := by
      rw [List.map_map]
      refine List.map_congr_left fun member _ => ?_
      simp only [Function.comp_apply]
      split <;> rfl
    rw [same]
    exact union.nodup

/-- `UNION_JOB_OP_OUTGOING`: the editor lays his own job down. -/
def outgoing (union : Union) (edit : EditJob) (member editedMember : Member) :
    Union × List Message :=
  if edit.pid ≠ edit.editedPid then (union, [])
  else if !unionJobCanOutgoing member.unionJob then
    (union, [.playerSay edit.pid .unionNoAuthority])
  else
    (union.setUnionJob edit.pid unionJobMember,
      [.onUnionJobChange edit.pid unionJobMember,
        .onUnionEditJobFinish edit.pid edit.editType none editedMember.playerName])

/-- `UNION_JOB_OP_TRANSFER`: the president changes jobs with another member. -/
def transfer (union : Union) (edit : EditJob) (member editedMember : Member) :
    Union × List Message :=
  if member.unionJob ≠ unionJobPresident then (union, [.playerSay edit.pid .unionNoAuthority])
  else if !unionJobCanTransfer member.unionJob then
    (union, [.playerSay edit.pid .unionNoAuthority])
  else if editedMember.unionJob < unionJobVicepresident then
    (union, [.playerSay edit.pid .unionTransferInvalid])
  else
    ((union.setUnionJob edit.pid editedMember.unionJob).setUnionJob edit.editedPid
      unionJobPresident,
      [.onUnionJobChange edit.pid editedMember.unionJob,
        .onUnionJobChange edit.editedPid unionJobPresident,
        .onUnionEditJobFinish edit.pid edit.editType (some unionJobPresident)
          editedMember.playerName])

/-- `UNION_JOB_OP_APPOINTED`: another member gets the job that the client names. -/
def appointed (union : Union) (edit : EditJob) (member editedMember : Member) :
    Union × List Message :=
  if edit.unionJob = unionJobPresident then (union, [])
  else if !unionJobCanAppointed member.unionJob then
    (union, [.playerSay edit.pid .unionNoAuthority])
  else if member.unionJob ≤ editedMember.unionJob then
    (union, [.playerSay edit.pid .unionNoAuthority])
  else if getUnionJobMaxCnt edit.unionJob ≤ union.getCurUnionJobCnt edit.unionJob then
    (union, [.playerSay edit.pid .unionMaxTitle])
  else
    (union.setUnionJob edit.editedPid edit.unionJob,
      [.onUnionJobChange edit.editedPid edit.unionJob,
        .onUnionEditJobFinish edit.pid edit.editType (some edit.unionJob)
          editedMember.playerName])

/-- `UNION_JOB_OP_REMOVE`: another member loses his job. -/
def remove (union : Union) (edit : EditJob) (member editedMember : Member) :
    Union × List Message :=
  if !unionJobCanRemove member.unionJob then (union, [.playerSay edit.pid .unionNoAuthority])
  else if member.unionJob ≤ editedMember.unionJob then
    (union, [.playerSay edit.pid .unionNoAuthority])
  else
    (union.setUnionJob edit.editedPid unionJobMember,
      [.onUnionJobChange edit.editedPid unionJobMember,
        .onUnionEditJobFinish edit.pid edit.editType none editedMember.playerName])

def doEditJob (union : Union) (edit : EditJob) : Union × List Message :=
  match union.member? edit.pid with
  | none => (union, [.playerSay edit.pid .unionNotMember])
  | some member =>
      match union.member? edit.editedPid with
      | none => (union, [.playerSay edit.pid .unionNoThisMember])
      | some editedMember =>
          if edit.editType = unionJobOpOutgoing then union.outgoing edit member editedMember
          else if edit.pid = edit.editedPid then
            (union, [.playerSay edit.pid .unionEditSelfJob])
          else if edit.editType = unionJobOpTransfer then union.transfer edit member editedMember
          else if edit.editType = unionJobOpAppointed then union.appointed edit member editedMember
          else if edit.editType = unionJobOpRemove then union.remove edit member editedMember
          else
            (union,
              [.onUnionEditJobFinish edit.pid edit.editType none editedMember.playerName])

def edited (union : Union) (edits : List EditJob) : Union :=
  edits.foldl (fun current edit => (current.doEditJob edit).1) union

end Union

/-- There is one president, nobody is above him, and no job has too many holders. -/
structure Hierarchy (union : Union) : Prop where
  president : union.getCurUnionJobCnt unionJobPresident = 1
  highest : ∀ member ∈ union.members, member.unionJob ≤ unionJobPresident
  counts : ∀ unionJob, (union.getCurUnionJobCnt unionJob : ℤ) ≤ getUnionJobMaxCnt unionJob

/-- Unless a president transfers his job, an edit changes other members from below the editor to
below the editor, and his own job only downwards. -/
def Respects (union : Union) (edit : EditJob) : Prop :=
  ∀ old ∈ union.members, ∀ new ∈ (union.doEditJob edit).1.members, old.playerId = new.playerId →
    new.unionJob ≠ old.unionJob → ∃ editor, union.member? edit.pid = some editor ∧
      (edit.editType = unionJobOpTransfer ∧ editor.unionJob = unionJobPresident ∨
        if old.playerId = edit.pid then new.unionJob < old.unionJob
        else old.unionJob < editor.unionJob ∧ new.unionJob < editor.unionJob)

/-- The hierarchy holds throughout a sequence of edits, and every edit respects it. -/
def Upheld (union : Union) (edits : List EditJob) : Prop :=
  Hierarchy (union.edited edits) ∧ ∀ before edit after, edits = before ++ edit :: after →
    Hierarchy (union.edited before) ∧ Respects (union.edited before) edit

/-- An appointment that the code does not refuse names a job below that of the editor. -/
def Modest (union : Union) (edit : EditJob) : Prop :=
  ∀ editor ∈ union.member? edit.pid, ∀ edited ∈ union.member? edit.editedPid,
    edit.editType = unionJobOpAppointed → edit.pid ≠ edit.editedPid →
      edit.unionJob ≠ unionJobPresident → unionJobCanAppointed editor.unionJob = true →
        edited.unionJob < editor.unionJob →
          (union.getCurUnionJobCnt edit.unionJob : ℤ) < getUnionJobMaxCnt edit.unionJob →
            edit.unionJob < editor.unionJob
  deriving Decidable

namespace Union

theorem member_split {union : Union} {pid : ℕ} {member : Member}
    (found : union.member? pid = some member) : member.playerId = pid ∧
      ∃ before after, union.members = before ++ member :: after ∧
        ∀ other ∈ before ++ after, other.playerId ≠ pid := by
  have id_eq : member.playerId = pid := by simpa using List.find?_some found
  obtain ⟨before, after, members_eq⟩ := List.append_of_mem (List.mem_of_find?_eq_some found)
  refine ⟨id_eq, before, after, members_eq, fun other other_mem same => ?_⟩
  have nodup := union.nodup
  rw [members_eq, List.map_append, List.map_cons] at nodup
  have fresh := (List.nodup_middle.mp nodup).notMem
  rw [← List.map_append] at fresh
  exact fresh (List.mem_map.mpr ⟨other, other_mem, same.trans id_eq.symm⟩)

theorem setUnionJob_split {union : Union} {pid : ℕ} {member : Member} {before after : List Member}
    {unionJob : ℤ} (members_eq : union.members = before ++ member :: after)
    (id_eq : member.playerId = pid) (others : ∀ other ∈ before ++ after, other.playerId ≠ pid) :
    (union.setUnionJob pid unionJob).members =
      before ++ { member with unionJob := unionJob } :: after := by
  have same : ∀ part : List Member, (∀ other ∈ part, other.playerId ≠ pid) →
      (part.map fun other =>
        if other.playerId = pid then { other with unionJob := unionJob } else other) = part := by
    intro part differ
    refine (List.map_congr_left fun other other_mem => ?_).trans (List.map_id part)
    simp [differ other other_mem]
  simp only [setUnionJob, members_eq, List.map_append, List.map_cons, id_eq, if_true]
  rw [same before fun other mem => others other (List.mem_append_left _ mem),
    same after fun other mem => others other (List.mem_append_right _ mem)]

theorem cnt_setUnionJob {union : Union} {pid : ℕ} {member : Member}
    (found : union.member? pid = some member) (unionJob counted : ℤ) :
    (union.setUnionJob pid unionJob).getCurUnionJobCnt counted +
        (if member.unionJob = counted then 1 else 0) =
      union.getCurUnionJobCnt counted + if unionJob = counted then 1 else 0 := by
  obtain ⟨id_eq, before, after, members_eq, others⟩ := member_split found
  simp only [getCurUnionJobCnt, setUnionJob_split members_eq id_eq others, members_eq,
    List.countP_append, List.countP_cons, decide_eq_true_eq]
  omega

theorem length_setUnionJob (union : Union) (pid : ℕ) (unionJob : ℤ) :
    (union.setUnionJob pid unionJob).members.length = union.members.length := by
  simp [setUnionJob]

theorem mem_setUnionJob {union : Union} {pid : ℕ} {unionJob : ℤ} {new : Member}
    (mem : new ∈ (union.setUnionJob pid unionJob).members) :
    (new.playerId = pid ∧ new.unionJob = unionJob) ∨ new.playerId ≠ pid ∧ new ∈ union.members := by
  obtain ⟨old, old_mem, rfl⟩ := List.mem_map.mp mem
  split
  · next same => exact .inl ⟨same, rfl⟩
  · next differ => exact .inr ⟨differ, old_mem⟩

theorem eq_of_playerId {union : Union} {first second : Member} (first_mem : first ∈ union.members)
    (second_mem : second ∈ union.members) (same : first.playerId = second.playerId) :
    first = second :=
  List.inj_on_of_nodup_map union.nodup first_mem second_mem same

theorem member_of_mem {union : Union} {member : Member} (mem : member ∈ union.members) :
    union.member? member.playerId = some member := by
  cases found : union.member? member.playerId with
  | none => simpa using List.find?_eq_none.mp found member mem
  | some other =>
      have same : other.playerId = member.playerId := by simpa using List.find?_some found
      rw [eq_of_playerId (List.mem_of_find?_eq_some found) mem same]

theorem member_setUnionJob_ne {union : Union} {pid other : ℕ} {member : Member}
    (found : union.member? other = some member) (differ : other ≠ pid) (unionJob : ℤ) :
    (union.setUnionJob pid unionJob).member? other = some member := by
  have id_eq := (member_split found).1
  have mem : member ∈ (union.setUnionJob pid unionJob).members :=
    List.mem_map.mpr ⟨member, List.mem_of_find?_eq_some found, if_neg (id_eq ▸ differ)⟩
  exact id_eq ▸ member_of_mem mem

end Union

theorem can_edit {right : DaoPosition → ℤ} {unionJob : ℤ}
    (member_not : ∀ cfg ∈ getDaoPositionCfg unionJobMember, right cfg ≠ 1)
    (can : unionJobCan right unionJob = true) : unionJobMember < unionJob := by
  unfold unionJobCan at can
  split at can
  · cases can
  · next cfg cfg_eq =>
      have level : cfg.accessLevel = unionJob := by simpa using List.find?_some cfg_eq
      have row := List.mem_of_find?_eq_some cfg_eq
      simp only [daoPosition, List.mem_cons, List.not_mem_nil, or_false] at row
      rcases row with rfl | rfl | rfl | rfl
      · exact level ▸ by decide
      · exact level ▸ by decide
      · exact level ▸ by decide
      · subst level
        exact absurd (of_decide_eq_true can) (member_not _ rfl)

namespace Hierarchy

variable {union : Union} {pid : ℕ} {member : Member} {unionJob : ℤ}

theorem setUnionJob (hierarchy : Hierarchy union) (found : union.member? pid = some member)
    (below : member.unionJob < unionJobPresident) (low : unionJob < unionJobPresident)
    (room : member.unionJob = unionJob ∨
      (union.getCurUnionJobCnt unionJob : ℤ) < getUnionJobMaxCnt unionJob) :
    Hierarchy (union.setUnionJob pid unionJob) where
  president := by
    have cnt := Union.cnt_setUnionJob found unionJob unionJobPresident
    rw [if_neg below.ne, if_neg low.ne, hierarchy.president] at cnt
    exact cnt
  highest new mem := by
    rcases Union.mem_setUnionJob mem with ⟨_, job_eq⟩ | ⟨_, old⟩
    · exact job_eq ▸ low.le
    · exact hierarchy.highest new old
  counts counted := by
    have cnt := Union.cnt_setUnionJob found unionJob counted
    have old := hierarchy.counts counted
    by_cases same : unionJob = counted
    · subst same
      rw [if_pos rfl] at cnt
      split at cnt <;> omega
    · rw [if_neg same] at cnt
      omega

theorem room (found : union.member? pid = some member) (few : union.members.length ≤ 999999) :
    member.unionJob = unionJobMember ∨
      (union.getCurUnionJobCnt unionJobMember : ℤ) < getUnionJobMaxCnt unionJobMember := by
  by_cases plain : member.unionJob = unionJobMember
  · exact .inl plain
  · have fewer : union.getCurUnionJobCnt unionJobMember < union.members.length :=
      List.countP_lt_length_iff.mpr
        ⟨member, List.mem_of_find?_eq_some found, by simpa using plain⟩
    have limit : getUnionJobMaxCnt unionJobMember = 999999 := by decide
    exact .inr (by omega)

theorem swap {other : ℕ} {otherMember : Member} (hierarchy : Hierarchy union)
    (found : union.member? pid = some member)
    (other_found : union.member? other = some otherMember) (differ : other ≠ pid)
    (president : member.unionJob = unionJobPresident) :
    Hierarchy ((union.setUnionJob pid otherMember.unionJob).setUnionJob other
      unionJobPresident) := by
  have cnt_eq : ∀ counted,
      ((union.setUnionJob pid otherMember.unionJob).setUnionJob other
        unionJobPresident).getCurUnionJobCnt counted = union.getCurUnionJobCnt counted := by
    intro counted
    have first := Union.cnt_setUnionJob found otherMember.unionJob counted
    have second := Union.cnt_setUnionJob
      (Union.member_setUnionJob_ne other_found differ otherMember.unionJob) unionJobPresident
        counted
    rw [president] at first
    omega
  refine ⟨(cnt_eq _).trans hierarchy.president, fun new mem => ?_, fun counted => ?_⟩
  · rcases Union.mem_setUnionJob mem with ⟨_, job_eq⟩ | ⟨_, mem⟩
    · exact job_eq.le
    · rcases Union.mem_setUnionJob mem with ⟨_, job_eq⟩ | ⟨_, old⟩
      · exact job_eq ▸ hierarchy.highest _ (List.mem_of_find?_eq_some other_found)
      · exact hierarchy.highest new old
  · rw [cnt_eq]
    exact hierarchy.counts counted

end Hierarchy

section Edits

variable {union : Union} {edit : EditJob}

theorem respects_of_same (same : (union.doEditJob edit).1 = union) : Respects union edit := by
  intro old old_mem new new_mem id_eq changed
  rw [same] at new_mem
  exact absurd (Union.eq_of_playerId new_mem old_mem id_eq.symm ▸ rfl) changed

theorem respects_of_set {editor target : Member} {pid : ℕ} {unionJob : ℤ}
    (found : union.member? edit.pid = some editor) (target_found : union.member? pid = some target)
    (set : (union.doEditJob edit).1 = union.setUnionJob pid unionJob)
    (lower : if pid = edit.pid then unionJob < target.unionJob
      else target.unionJob < editor.unionJob ∧ unionJob < editor.unionJob) :
    Respects union edit := by
  intro old old_mem new new_mem id_eq changed
  rw [set] at new_mem
  rcases Union.mem_setUnionJob new_mem with ⟨same, job_eq⟩ | ⟨_, new_mem⟩
  · have old_eq : old = target :=
      Union.eq_of_playerId old_mem (List.mem_of_find?_eq_some target_found)
        ((id_eq.trans same).trans (Union.member_split target_found).1.symm)
    refine ⟨editor, found, .inr ?_⟩
    rw [old_eq, (Union.member_split target_found).1, job_eq]
    exact lower
  · exact absurd (Union.eq_of_playerId new_mem old_mem id_eq.symm ▸ rfl) changed

structure Outcome (union : Union) (edit : EditJob) : Prop where
  respects : Respects union edit
  keeps : Hierarchy (union.doEditJob edit).1

theorem Outcome.of_same (hierarchy : Hierarchy union) (same : (union.doEditJob edit).1 = union) :
    Outcome union edit :=
  ⟨respects_of_same same, by rw [same]; exact hierarchy⟩

theorem Outcome.of_set {editor target : Member} {pid : ℕ} {unionJob : ℤ}
    (hierarchy : Hierarchy union) (found : union.member? edit.pid = some editor)
    (target_found : union.member? pid = some target)
    (set : (union.doEditJob edit).1 = union.setUnionJob pid unionJob)
    (lower : if pid = edit.pid then unionJob < target.unionJob
      else target.unionJob < editor.unionJob ∧ unionJob < editor.unionJob)
    (below : target.unionJob < unionJobPresident)
    (room : target.unionJob = unionJob ∨
      (union.getCurUnionJobCnt unionJob : ℤ) < getUnionJobMaxCnt unionJob) :
    Outcome union edit := by
  have editor_le := hierarchy.highest editor (List.mem_of_find?_eq_some found)
  have low : unionJob < unionJobPresident := by
    split at lower
    · exact lower.trans below
    · exact lower.2.trans_le editor_le
  exact ⟨respects_of_set found target_found set lower,
    set ▸ hierarchy.setUnionJob target_found below low room⟩

variable {editor edited : Member}

theorem outgoing_outcome (hierarchy : Hierarchy union) (few : union.members.length ≤ 999999)
    (found : union.member? edit.pid = some editor)
    (result_eq : (union.doEditJob edit).1 = (union.outgoing edit editor edited).1) :
    Outcome union edit := by
  rw [Union.outgoing] at result_eq
  split at result_eq
  · exact .of_same hierarchy result_eq
  · split at result_eq
    · exact .of_same hierarchy result_eq
    · next can =>
        have can : unionJobCanOutgoing editor.unionJob = true := by simpa using can
        have not_president : editor.unionJob ≠ unionJobPresident := by
          intro president
          rw [president] at can
          exact absurd can (by decide)
        refine .of_set hierarchy found found result_eq ?_
          ((hierarchy.highest editor (List.mem_of_find?_eq_some found)).lt_of_ne not_president)
          (Hierarchy.room found few)
        rw [if_pos rfl]
        exact can_edit (by decide) can

theorem transfer_outcome (hierarchy : Hierarchy union)
    (found : union.member? edit.pid = some editor)
    (edited_found : union.member? edit.editedPid = some edited) (differ : edit.pid ≠ edit.editedPid)
    (type_eq : edit.editType = unionJobOpTransfer)
    (result_eq : (union.doEditJob edit).1 = (union.transfer edit editor edited).1) :
    Outcome union edit := by
  rw [Union.transfer] at result_eq
  split at result_eq
  · exact .of_same hierarchy result_eq
  · next president =>
      have president : editor.unionJob = unionJobPresident := by simpa using president
      split at result_eq
      · exact .of_same hierarchy result_eq
      · split at result_eq
        · exact .of_same hierarchy result_eq
        · exact ⟨fun _ _ _ _ _ _ => ⟨editor, found, .inl ⟨type_eq, president⟩⟩,
            result_eq ▸ hierarchy.swap found edited_found differ.symm president⟩

theorem remove_outcome (hierarchy : Hierarchy union) (few : union.members.length ≤ 999999)
    (found : union.member? edit.pid = some editor)
    (edited_found : union.member? edit.editedPid = some edited) (differ : edit.pid ≠ edit.editedPid)
    (result_eq : (union.doEditJob edit).1 = (union.remove edit editor edited).1) :
    Outcome union edit := by
  rw [Union.remove] at result_eq
  split at result_eq
  · exact .of_same hierarchy result_eq
  · next can =>
      have can : unionJobCanRemove editor.unionJob = true := by simpa using can
      split at result_eq
      · exact .of_same hierarchy result_eq
      · next above =>
          have above : edited.unionJob < editor.unionJob := lt_of_not_ge above
          refine .of_set hierarchy found edited_found result_eq ?_
            (above.trans_le (hierarchy.highest editor (List.mem_of_find?_eq_some found)))
            (Hierarchy.room edited_found few)
          rw [if_neg differ.symm]
          exact ⟨above, can_edit (by decide) can⟩

/-- An appointment respects the hierarchy exactly when it names a job below that of the editor. -/
theorem appointed_outcome (hierarchy : Hierarchy union)
    (found : union.member? edit.pid = some editor)
    (edited_found : union.member? edit.editedPid = some edited) (differ : edit.pid ≠ edit.editedPid)
    (type_eq : edit.editType = unionJobOpAppointed)
    (result_eq : (union.doEditJob edit).1 = (union.appointed edit editor edited).1) :
    (Modest union edit → Outcome union edit) ∧ (Respects union edit → Modest union edit) := by
  have refused (same : (union.doEditJob edit).1 = union) (modest : Modest union edit) :
      (Modest union edit → Outcome union edit) ∧ (Respects union edit → Modest union edit) :=
    ⟨fun _ => .of_same hierarchy same, fun _ => modest⟩
  rw [Union.appointed] at result_eq
  split at result_eq
  · next president =>
      exact refused result_eq fun _ _ _ _ _ _ not_president => absurd president not_president
  · split at result_eq
    · next cannot =>
        refine refused result_eq fun other other_found _ _ _ _ _ can => ?_
        obtain rfl := Option.some.inj (found.symm.trans other_found)
        simp [can] at cannot
    · next can =>
        split at result_eq
        · next not_above =>
            refine refused result_eq fun other other_found target target_found _ _ _ _ above => ?_
            obtain rfl := Option.some.inj (found.symm.trans other_found)
            obtain rfl := Option.some.inj (edited_found.symm.trans target_found)
            exact absurd above not_above.not_gt
        · next above =>
            have above : edited.unionJob < editor.unionJob := lt_of_not_ge above
            split at result_eq
            · next full =>
                exact refused result_eq fun _ _ _ _ _ _ _ _ _ room => absurd room full.not_gt
            · next room =>
                have room := lt_of_not_ge room
                constructor
                · intro modest
                  have lower := modest editor found edited edited_found type_eq differ ‹_›
                    (by simpa using can) above room
                  refine .of_set hierarchy found edited_found result_eq ?_
                    (above.trans_le (hierarchy.highest editor (List.mem_of_find?_eq_some found)))
                    (.inr room)
                  rw [if_neg differ.symm]
                  exact ⟨above, lower⟩
                · intro respects other other_found target target_found _ _ _ _ _ _
                  obtain rfl := Option.some.inj (found.symm.trans other_found)
                  by_cases unchanged : edit.unionJob = edited.unionJob
                  · exact unchanged ▸ above
                  · have edited_id := (Union.member_split edited_found).1
                    have edited_mem := List.mem_of_find?_eq_some edited_found
                    obtain ⟨_, same_editor, allowed⟩ := respects edited edited_mem
                      { edited with unionJob := edit.unionJob }
                      (result_eq ▸ List.mem_map.mpr ⟨edited, edited_mem, if_pos edited_id⟩) rfl
                      unchanged
                    obtain rfl := Option.some.inj (found.symm.trans same_editor)
                    rcases allowed with ⟨transfers, _⟩ | allowed
                    · rw [type_eq] at transfers
                      exact absurd transfers (by decide)
                    · rw [edited_id, if_neg differ.symm] at allowed
                      exact allowed.2

theorem modest_of_ne (other_type : edit.editType ≠ unionJobOpAppointed) : Modest union edit :=
  fun _ _ _ _ type_eq => absurd type_eq other_type

theorem edit_outcome (hierarchy : Hierarchy union) (few : union.members.length ≤ 999999) :
    (Modest union edit → Outcome union edit) ∧ (Respects union edit → Modest union edit) := by
  cases found : union.member? edit.pid with
  | none =>
      exact ⟨fun _ => .of_same hierarchy (by simp [Union.doEditJob, found]),
        fun _ _ editor_found => by simp [found] at editor_found⟩
  | some editor =>
      cases edited_found : union.member? edit.editedPid with
      | none =>
          exact ⟨fun _ => .of_same hierarchy (by simp [Union.doEditJob, found, edited_found]),
            fun _ _ _ _ target_found => by simp [edited_found] at target_found⟩
      | some edited =>
          have result_eq : (union.doEditJob edit).1 = _ := rfl
          conv_rhs at result_eq => rw [Union.doEditJob, found, edited_found]
          dsimp only at result_eq
          split at result_eq
          · next type_eq =>
              exact ⟨fun _ => outgoing_outcome hierarchy few found result_eq,
                fun _ => modest_of_ne (type_eq ▸ by decide)⟩
          · split at result_eq
            · next same =>
                exact ⟨fun _ => .of_same hierarchy result_eq,
                  fun _ _ _ _ _ _ differ => absurd same differ⟩
            · next differ =>
                split at result_eq
                · next type_eq =>
                    exact ⟨fun _ => transfer_outcome hierarchy found edited_found differ type_eq
                      result_eq, fun _ => modest_of_ne (type_eq ▸ by decide)⟩
                · split at result_eq
                  · next type_eq =>
                      exact appointed_outcome hierarchy found edited_found differ type_eq result_eq
                  · next not_appointed =>
                      split at result_eq
                      · exact ⟨fun _ => remove_outcome hierarchy few found edited_found differ
                          result_eq, fun _ => modest_of_ne not_appointed⟩
                      · exact ⟨fun _ => .of_same hierarchy result_eq,
                          fun _ => modest_of_ne not_appointed⟩

end Edits

theorem length_doEditJob (union : Union) (edit : EditJob) :
    (union.doEditJob edit).1.members.length = union.members.length := by
  simp only [Union.doEditJob, Union.outgoing, Union.transfer, Union.appointed, Union.remove]
  repeat' split
  all_goals simp [Union.length_setUnionJob]

/-- Every appointment of a sequence of edits is below its editor. -/
def AllModest : Union → List EditJob → Prop
  | _, [] => True
  | union, edit :: edits => Modest union edit ∧ AllModest (union.doEditJob edit).1 edits

instance decidableAllModest : ∀ union edits, Decidable (AllModest union edits)
  | _, [] => isTrue trivial
  | union, edit :: edits =>
      have := decidableAllModest (union.doEditJob edit).1 edits
      inferInstanceAs (Decidable (Modest union edit ∧ AllModest (union.doEditJob edit).1 edits))

theorem upheld_cons {union : Union} {edit : EditJob} {edits : List EditJob} :
    Upheld union (edit :: edits) ↔
      Hierarchy union ∧ Respects union edit ∧ Upheld (union.doEditJob edit).1 edits := by
  constructor
  · rintro ⟨last, all⟩
    obtain ⟨hierarchy, respects⟩ := all [] edit edits rfl
    refine ⟨hierarchy, respects, last, fun before other after edits_eq => ?_⟩
    exact all (edit :: before) other after (by rw [edits_eq, List.cons_append])
  · rintro ⟨hierarchy, respects, last, all⟩
    refine ⟨last, fun before other after edits_eq => ?_⟩
    rcases List.cons_eq_append_iff.mp edits_eq with ⟨rfl, same⟩ | ⟨rest, rfl, rest_eq⟩
    · obtain ⟨rfl, rfl⟩ := List.cons.inj same
      exact ⟨hierarchy, respects⟩
    · exact all rest other after rest_eq

/-- The hierarchy holds throughout a sequence of edits exactly when every appointment that is not
refused names a job below that of its editor. -/
theorem upheld_iff (union : Union) (edits : List EditJob) (hierarchy : Hierarchy union)
    (few : union.members.length ≤ 999999) : Upheld union edits ↔ AllModest union edits := by
  induction edits generalizing union with
  | nil => exact ⟨fun _ => trivial, fun _ => ⟨hierarchy, by simp⟩⟩
  | cons edit edits induction =>
      obtain ⟨outcome, modest_of⟩ := @edit_outcome union edit hierarchy few
      have few_after : (union.doEditJob edit).1.members.length ≤ 999999 :=
        (length_doEditJob union edit).trans_le few
      rw [upheld_cons, AllModest]
      constructor
      · rintro ⟨_, respects, upheld⟩
        have modest := modest_of respects
        exact ⟨modest, (induction _ (outcome modest).keeps few_after).mp upheld⟩
      · rintro ⟨modest, all⟩
        obtain ⟨respects, keeps⟩ := outcome modest
        exact ⟨hierarchy, respects, (induction _ keeps few_after).mpr all⟩

theorem getUnionJobMaxCnt_nonneg (unionJob : ℤ) : 0 ≤ getUnionJobMaxCnt unionJob := by
  unfold getUnionJobMaxCnt
  split
  · decide
  · split
    · decide
    · next limited => exact (lt_of_not_ge limited).le

theorem Hierarchy.of_members {union : Union}
    (president : union.getCurUnionJobCnt unionJobPresident = 1)
    (members : ∀ member ∈ union.members, member.unionJob ≤ unionJobPresident ∧
      (union.getCurUnionJobCnt member.unionJob : ℤ) ≤ getUnionJobMaxCnt member.unionJob) :
    Hierarchy union where
  president := president
  highest member mem := (members member mem).1
  counts unionJob := by
    by_cases held : ∃ member ∈ union.members, member.unionJob = unionJob
    · obtain ⟨member, mem, rfl⟩ := held
      exact (members member mem).2
    · have none_holds : union.getCurUnionJobCnt unionJob = 0 := by
        refine List.countP_eq_zero.mpr fun member mem => ?_
        simpa using fun same => held ⟨member, mem, same⟩
      rw [none_holds]
      exact getUnionJobMaxCnt_nonneg unionJob

def sampleUnion : Union where
  members := [⟨1, "a", 9⟩, ⟨2, "b", 8⟩, ⟨3, "c", 0⟩, ⟨4, "d", 0⟩]
  nodup := by decide

theorem sampleUnion_hierarchy : Hierarchy sampleUnion :=
  .of_members (by decide) (by decide)

/-- The president transfers his job, and the new one appoints a commander, who lays it down. -/
theorem upheld_sample : Upheld sampleUnion [⟨1, 2, 0, 1⟩, ⟨2, 3, 7, 2⟩, ⟨3, 3, 0, 4⟩] :=
  (upheld_iff _ _ sampleUnion_hierarchy (by decide)).mpr (by decide)

/-- A vice president appoints a member to a job above the president's. -/
theorem not_upheld_appointed :
    ¬∀ union edits, Hierarchy union → union.members.length ≤ 999999 → Upheld union edits := by
  intro all
  have upheld := all sampleUnion [⟨2, 3, 10, 2⟩] sampleUnion_hierarchy (by decide)
  exact absurd (upheld.1.highest ⟨3, "c", 10⟩ (by decide)) (by decide)

end BasWar.Unions.Jobs
