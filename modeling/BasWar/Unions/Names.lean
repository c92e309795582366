import BasWar.Unions.UnionMoves
import Mathlib

/-!
# Names of unions

The union of each name is kept beside the unions.  A union takes its name when it is founded and
gives it back when its end is done; a restart reads the names from the documents.  A new name of an
old union is the one change that nothing is told about.
-/

namespace BasWar.Unions.UnionMgr

open Cooperative

/-- No two living unions have a name in common, and the manager knows exactly the names of the
unions that live or whose end is not done. -/
structure Indexed (config : Config Mgr Task) : Prop where
  distinct : ∀ unionName unionId other, config.state.HasName unionId unionName →
    config.state.HasName other unionName → unionId = other
  index : ∀ unionName unionId, config.state.unionNameToUnionId unionName = some unionId ↔
    config.state.HasName unionId unionName ∨
      .dissolveUnionHandle unionId unionName ∈ config.waiting

section Guard

variable (settings : Settings)

instance (pid : ℕ) (newInfo : UnionInfo) (now : ℕ) (union : Union) :
    Decidable (union.TakesName settings pid newInfo now) :=
  inferInstanceAs (Decidable ((∃ unionJob ∈ union.members.lookup pid, _) ∧ _))

/-- No union takes another name, a union is founded under a name that is free by then, and the star
map answers when a union ends. -/
def namesStay : Guard Mgr Request Task Reply where
  onRequest request mgr _ :=
    match request with
    | .locked unionId (.modifyUnionInfo pid newInfo now) =>
        ∀ union ∈ mgr.unions unionId, ¬ union.TakesName settings pid newInfo now
    | _ => True
  onReply task reply mgr _ :=
    match task, reply with
    | .genUnionId _ info, some _ => mgr.unionNameToUnionId info.unionName = none
    | .dissolveUnionHandle .., none => False
    | .costResDict .., some true => False
    | _, _ => True

instance (request mgr others) : Decidable ((namesStay settings).onRequest request mgr others) := by
  unfold namesStay
  dsimp only
  split <;> infer_instance

instance (task reply mgr others) :
    Decidable ((namesStay settings).onReply task reply mgr others) := by
  unfold namesStay
  dsimp only
  induction task using Task.casesOn <;> induction reply using Option.casesOn <;> first
    | (dsimp only; infer_instance)
    | (rename_i answer; induction answer using Bool.casesOn <;> dsimp only <;> infer_instance)

end Guard

/-- Living unions and documents are known by their names, under ids that have been given out. -/
structure Mgr.Named (mgr : Mgr) : Prop where
  living : ∀ unionName unionId, mgr.HasName unionId unionName →
    mgr.unionNameToUnionId unionName = some unionId
  stored : ∀ unionId doc, mgr.docs.lookup unionId = some doc →
    mgr.unionNameToUnionId doc.info.unionName = some unionId
  old : ∀ unionName unionId, mgr.unionNameToUnionId unionName = some unionId →
    unionId ≤ mgr.unionSeq + 100000

/-- A union whose end is under way is gone and still has its name. -/
def Task.Ends (mgr : Mgr) : Task → Prop
  | .dissolveUnionHandle unionId unionName =>
      mgr.unions unionId = none ∧ mgr.unionNameToUnionId unionName = some unionId
  | _ => True

def namesPool : Pool Mgr Task :=
  lockedPool Mgr.Named fun mgr task => task.Ends mgr

/-- A name that is known belongs to a union that lives or whose end is not done. -/
def borne : Standing Mgr Task where
  holds mgr waiting := ∀ unionName unionId, mgr.unionNameToUnionId unionName = some unionId →
    mgr.HasName unionId unionName ∨ .dissolveUnionHandle unionId unionName ∈ waiting
  perm {_ _ _} same holds unionName unionId known :=
    (holds unionName unionId known).imp_right same.mem_iff.mp

section Changes

variable {settings : Settings} {mgr : Mgr} {unionId : ℕ}

theorem hasName_change {change : Union → Union}
    (same_name : ∀ union, (change union).info.unionName = union.info.unionName) (other : ℕ)
    (unionName : String) :
    (mgr.change unionId change).HasName other unionName ↔ mgr.HasName other unionName := by
  by_cases same : other = unionId
  · subst same
    simp [Mgr.HasName, Mgr.change, Mgr.setUnion, same_name]
  · simp [Mgr.HasName, Mgr.change, Mgr.setUnion, Function.update_of_ne same]

/-- A segment after which every name is still known. -/
structure Orderly (mgr : Mgr) (result : Mgr × List Task) : Prop where
  named : result.1.Named
  kept : ∀ unionName unionId, mgr.unionNameToUnionId unionName = some unionId →
    result.1.unionNameToUnionId unionName = some unionId
  index : ∀ unionName unionId, result.1.unionNameToUnionId unionName = some unionId →
    mgr.unionNameToUnionId unionName = some unionId ∨ result.1.HasName unionId unionName
  names : ∀ unionName unionId, mgr.HasName unionId unionName →
    result.1.HasName unionId unionName ∨ .dissolveUnionHandle unionId unionName ∈ result.2
  ends : ∀ task ∈ result.2, task.Ends result.1

variable {tasks : List Task}

theorem Orderly.of_same {next : Mgr} (named : mgr.Named)
    (names : ∀ other unionName, next.HasName other unionName ↔ mgr.HasName other unionName)
    (index : next.unionNameToUnionId = mgr.unionNameToUnionId)
    (stored : ∀ other doc, next.docs.lookup other = some doc →
      mgr.docs.lookup other = some doc ∨ mgr.unions other = some doc)
    (unionSeq : next.unionSeq = mgr.unionSeq) (ends : ∀ task ∈ tasks, task.Ends next) :
    Orderly mgr (next, tasks) where
  named :=
    { living := fun unionName other has_name => by
        rw [index]
        exact named.living unionName other ((names other unionName).mp has_name)
      stored := fun other doc doc_eq => by
        rw [index]
        rcases stored other doc doc_eq with old | found
        · exact named.stored other doc old
        · exact named.living _ other ⟨doc, found, rfl⟩
      old := fun unionName other known => by
        rw [index] at known
        rw [unionSeq]
        exact named.old unionName other known }
  kept unionName other known := by
    change next.unionNameToUnionId unionName = some other
    rwa [index]
  index unionName other known := by
    change next.unionNameToUnionId unionName = some other at known
    rw [index] at known
    exact .inl known
  names unionName other has_name := .inl ((names other unionName).mpr has_name)
  ends := ends

theorem Orderly.stay (named : mgr.Named) (ends : ∀ task ∈ tasks, task.Ends mgr) :
    Orderly mgr (mgr, tasks) :=
  .of_same named (fun _ _ => Iff.rfl) rfl (fun _ _ => .inl) rfl ends

theorem Orderly.change {next : Mgr} (named : mgr.Named) {change : Union → Union}
    (unions : next.unions = (mgr.change unionId change).unions)
    (same_name : ∀ union, (change union).info.unionName = union.info.unionName)
    (index : next.unionNameToUnionId = mgr.unionNameToUnionId) (docs : next.docs = mgr.docs)
    (unionSeq : next.unionSeq = mgr.unionSeq) (ends : ∀ task ∈ tasks, task.Ends next) :
    Orderly mgr (next, tasks) := by
  refine .of_same named (fun other unionName => ?_) index (fun other doc doc_eq => ?_) unionSeq ends
  · have same : (mgr.change unionId change).HasName other unionName ↔
        mgr.HasName other unionName := hasName_change same_name other unionName
    rw [← same, Mgr.HasName, unions, Mgr.HasName]
  · rw [docs] at doc_eq
    exact .inl doc_eq

theorem Task.Ends.of_plain {task : Task} (plain : task.plain = true) : task.Ends mgr := by
  cases task <;> trivial

theorem ends_returnNfts (leaver : Leaver) (calls : ℕ) :
    ∀ task ∈ returnNfts unionId leaver calls, task.Ends mgr := by
  cases calls with
  | zero => exact List.forall_mem_singleton.mpr trivial
  | succ calls => exact List.forall_mem_singleton.mpr trivial

theorem Orderly.dissolve (named : mgr.Named) {union : Union}
    (found : mgr.unions unionId = some union) (saving : ℕ → Bool) :
    Orderly mgr ({ mgr.setUnion unionId none with saving },
      [.dissolveUnionHandle unionId union.info.unionName]) := by
  have names : ∀ other unionName, Mgr.HasName { mgr.setUnion unionId none with saving } other
      unionName → mgr.HasName other unionName := by
    rintro other unionName ⟨next, next_eq, name_eq⟩
    change Function.update mgr.unions unionId none other = some next at next_eq
    by_cases same : other = unionId
    · subst same
      rw [Function.update_self] at next_eq
      exact nomatch next_eq
    · rw [Function.update_of_ne same] at next_eq
      exact ⟨next, next_eq, name_eq⟩
  refine ⟨⟨fun unionName other has_name => named.living unionName other (names _ _ has_name),
    named.stored, named.old⟩, fun _ _ => id, fun _ _ => .inl, fun unionName other has_name => ?_,
    List.forall_mem_singleton.mpr ⟨Function.update_self .., named.living _ _ ⟨union, found, rfl⟩⟩⟩
  obtain ⟨old, old_eq, rfl⟩ := has_name
  by_cases same : other = unionId
  · subst same
    rw [found] at old_eq
    obtain rfl := Option.some.inj old_eq
    exact .inr (.head _)
  · exact .inl ⟨old, (Function.update_of_ne same _ _).trans old_eq, rfl⟩

theorem Orderly.doCreate (named : mgr.Named) {pid : ℕ} {info : UnionInfo}
    (free : mgr.unionNameToUnionId info.unionName = none) :
    Orderly mgr (mgr.doCreate pid info, [.createdGrids mgr.nextUnionId]) := by
  have index_new : (mgr.doCreate pid info).unionNameToUnionId info.unionName =
      some mgr.nextUnionId := Function.update_self ..
  have index_old : ∀ unionName, unionName ≠ info.unionName →
      (mgr.doCreate pid info).unionNameToUnionId unionName = mgr.unionNameToUnionId unionName :=
    fun _ differs => Function.update_of_ne differs _ _
  have kept : ∀ unionName other, mgr.unionNameToUnionId unionName = some other →
      (mgr.doCreate pid info).unionNameToUnionId unionName = some other := by
    intro unionName other known
    have differs : unionName ≠ info.unionName := by
      rintro rfl
      rw [free] at known
      exact nomatch known
    exact (index_old unionName differs).trans known
  have union_new : (mgr.doCreate pid info).unions mgr.nextUnionId = some (.create pid info) := by
    simp only [Mgr.doCreate, Mgr.setUnionNameToUnionId, Mgr.setPidToUnionId, Mgr.setUnion,
      Function.update_self]
  have union_old : ∀ other, other ≠ mgr.nextUnionId →
      (mgr.doCreate pid info).unions other = mgr.unions other :=
    fun _ differs => Function.update_of_ne differs _ _
  refine ⟨⟨?_, fun other doc doc_eq => kept _ _ (named.stored other doc doc_eq), ?_⟩, kept, ?_, ?_,
    List.forall_mem_singleton.mpr trivial⟩
  · rintro unionName other ⟨union, found, rfl⟩
    by_cases same : other = mgr.nextUnionId
    · subst same
      rw [union_new] at found
      obtain rfl := Option.some.inj found
      exact index_new
    · rw [union_old other same] at found
      exact kept _ _ (named.living _ other ⟨union, found, rfl⟩)
  · intro unionName other known
    change other ≤ mgr.unionSeq + 1 + 100000
    by_cases same : unionName = info.unionName
    · subst same
      rw [index_new] at known
      obtain rfl := Option.some.inj known
      exact le_rfl
    · rw [index_old unionName same] at known
      have bound := named.old unionName other known
      omega
  · intro unionName other known
    change (mgr.doCreate pid info).unionNameToUnionId unionName = some other at known
    by_cases same : unionName = info.unionName
    · subst same
      rw [index_new] at known
      obtain rfl := Option.some.inj known
      exact .inr ⟨_, union_new, rfl⟩
    · rw [index_old unionName same] at known
      exact .inl known
  · rintro unionName other ⟨union, found, rfl⟩
    have bound := named.old _ other (named.living _ other ⟨union, found, rfl⟩)
    have differs : other ≠ mgr.nextUnionId := by
      unfold Mgr.nextUnionId
      omega
    exact .inl ⟨union, (union_old other differs).trans found, rfl⟩

end Changes

section Run

variable {settings : Settings} {mgr : Mgr} {unionId : ℕ} {others : List Task}

variable {result : Mgr × List Task} {next : Mgr} {task : Task}

theorem Move.orderly {op : Op} (move : Move settings unionId mgr op result) (named : mgr.Named)
    (allows : (namesStay settings).onRequest (.locked unionId op) mgr others) :
    Orderly mgr result := by
  cases move with
  | done => exact .stay named nofun
  | wait task _ plain => exact .stay named (List.forall_mem_singleton.mpr (.of_plain plain))
  | change change mild => exact .change named rfl mild.unionName rfl rfl rfl nofun
  | enter pid union found free room =>
      exact .change named rfl (fun _ => rfl) rfl rfl rfl (List.forall_mem_singleton.mpr trivial)
  | rename pid newInfo now union op_eq found takes =>
      subst op_eq
      exact absurd takes (allows union found)
  | invite pid union found => exact .stay named (List.forall_mem_singleton.mpr trivial)
  | leaving leaver calls member =>
      exact .change named rfl (fun _ => rfl) rfl rfl rfl (ends_returnNfts leaver calls)
  | dissolve union found empty => exact .dissolve named found _

theorem orderly_endQuit (named : mgr.Named) : Orderly mgr (endQuit unionId mgr) := by
  unfold endQuit
  split
  · exact .stay named nofun
  · rename_i union found
    split
    · exact .dissolve named found _
    · exact .stay named nofun

theorem orderly_save (named : mgr.Named) (unions : next.unions = mgr.unions)
    (index : next.unionNameToUnionId = mgr.unionNameToUnionId) (docs : next.docs = mgr.docs)
    (unionSeq : next.unionSeq = mgr.unionSeq) : Orderly mgr (save unionId next) := by
  obtain ⟨saved, saved_eq, tasks, _, stored⟩ := save_eq unionId next
  have orderly : Orderly mgr ((save unionId next).1, (save unionId next).2) := by
    rw [saved_eq]
    refine .of_same named (fun other unionName => ?_) index (fun other doc doc_eq => ?_) unionSeq
      fun task mem => ?_
    · change (∃ union, next.unions other = some union ∧ _) ↔ _
      rw [unions]
      exact Iff.rfl
    · rw [← docs, ← unions]
      exact stored other doc doc_eq
    · obtain rfl := tasks task mem
      trivial
  exact orderly

/-- The answers after which no end is done. -/
theorem answer_orderly (reply : Reply) (named : mgr.Named)
    (allows : (namesStay settings).onReply task reply mgr others)
    (not_end : ∀ other unionName, task ≠ .dissolveUnionHandle other unionName) :
    Orderly mgr (answer task reply mgr) := by
  cases reply with
  | none => exact .stay named nofun
  | some ret =>
      cases task with
      | genUnionId pid info => exact .doCreate named allows
      | createdGrids id => exact .stay named (List.forall_mem_singleton.mpr trivial)
      | selectBeginGrid id =>
          change Orderly mgr (proceed (.selectBeginGrid id) ret mgr)
          unfold proceed
          dsimp only
          split
          · exact .stay named nofun
          · exact orderly_save named rfl rfl rfl rfl
      | save id => exact .change named rfl (fun _ => rfl) rfl rfl rfl nofun
      | joinedGrids id => exact .stay named nofun
      | answerCheckCD id applyPid =>
          cases ret with
          | true =>
              exact .change named rfl (fun _ => rfl) rfl rfl rfl
                (List.forall_mem_singleton.mpr trivial)
          | false => exact .stay named nofun
      | getOnlineStatus id applyPid =>
          exact .of_same named (fun _ _ => Iff.rfl) rfl (fun _ _ => .inl) rfl
            (List.forall_mem_singleton.mpr trivial)
      | answeredGrids id applyPid => exact .change named rfl (fun _ => rfl) rfl rfl rfl nofun
      | inviteCheckCD id pid =>
          cases ret with
          | true =>
              exact .change named rfl (fun _ => rfl) rfl rfl rfl
                (List.forall_mem_singleton.mpr trivial)
          | false => exact .stay named nofun
      | returnNfts id leaver calls => exact .stay named (ends_returnNfts leaver calls)
      | leftGrids id leaver =>
          cases leaver with
          | quit pid =>
              exact .change named rfl (fun _ => rfl) rfl rfl rfl
                (List.forall_mem_singleton.mpr trivial)
          | ticked pid => exact .change named rfl (fun _ => rfl) rfl rfl rfl nofun
      | onUnionQuitSucc id => exact orderly_endQuit named
      | dissolveUnionHandle id unionName => exact absurd rfl (not_end id unionName)
      | isResDictEnough id newInfo now =>
          cases ret with
          | true => exact .stay named (List.forall_mem_singleton.mpr trivial)
          | false => exact .stay named nofun
      | costResDict id newInfo now =>
          cases ret with
          | true => exact allows.elim
          | false => exact .stay named nofun

theorem Orderly.lockFor (orderly : Orderly mgr result) :
    Orderly mgr (lockFor unionId result) where
  named := ⟨orderly.named.living, orderly.named.stored, orderly.named.old⟩
  kept := orderly.kept
  index := orderly.index
  names := orderly.names
  ends task mem := by
    have ends := orderly.ends task mem
    cases task <;> exact ends

theorem Task.Ends.mono (ends : task.Ends mgr)
    (unions : ∀ other, (∃ unionName, mgr.unionNameToUnionId unionName = some other) →
      task.lock = some other → mgr.unions other = none → next.unions other = none)
    (index : ∀ unionName other, task.lock = some other →
      mgr.unionNameToUnionId unionName = some other →
        next.unionNameToUnionId unionName = some other) : task.Ends next := by
  cases task with
  | dissolveUnionHandle id unionName =>
      exact ⟨unions id ⟨unionName, ends.2⟩ rfl ends.1, index unionName id rfl ends.2⟩
  | _ => trivial

theorem keeps_names (holds : namesPool.Holds ⟨mgr, others⟩)
    (alone : ∀ other ∈ others, other.lock ≠ some unionId) (moved : Local unionId mgr result)
    (orderly : Orderly mgr result) : namesPool.Keeps others (lockFor unionId result) := by
  refine keeps_lockFor holds alone moved orderly.lockFor.named (fun other mem => ?_)
    orderly.lockFor.ends
  refine (holds.own other mem).2.mono (fun held _ lock gone => ?_)
    fun unionName held _ => orderly.kept unionName held
  have differs : held ≠ unionId := fun same => alone other mem (same ▸ lock)
  exact (moved.unions held differs).trans gone

theorem keeps_names_unlocked {tasks : List Task} (holds : namesPool.Holds ⟨mgr, others⟩)
    (orderly : Orderly mgr (next, tasks)) (locked : next.locked = mgr.locked)
    (gone : ∀ other, other ≤ mgr.unionSeq + 100000 → mgr.unions other = none →
      next.unions other = none) (free : ∀ task ∈ tasks, task.lock = none)
    (single : tasks.length ≤ 1) : namesPool.Keeps others (next, tasks) := by
  have named : mgr.Named := holds.shared
  refine keeps_unlocked holds orderly.named locked (fun other mem => ?_)
    (fun task mem => ⟨free task mem, orderly.ends task mem⟩) single
  refine (holds.own other mem).2.mono (fun held known _ => ?_)
    fun unionName held _ => orderly.kept unionName held
  obtain ⟨unionName, known⟩ := known
  exact gone held (named.old unionName held known)

theorem named_dissolved {unionName : String} (named : mgr.Named)
    (ends : Task.Ends mgr (.dissolveUnionHandle unionId unionName)) :
    (proceed (.dissolveUnionHandle unionId unionName) true mgr).1.Named := by
  obtain ⟨gone, known⟩ := ends
  have only : ∀ other, mgr.unionNameToUnionId unionName = some other → other = unionId := by
    intro other other_known
    rw [known] at other_known
    exact (Option.some.inj other_known).symm
  have index_old : ∀ name, name ≠ unionName → Function.update mgr.unionNameToUnionId unionName none
      name = mgr.unionNameToUnionId name := fun _ differs => Function.update_of_ne differs _ _
  refine ⟨fun name other has_name => ?_, fun other doc doc_eq => ?_, fun name other found => ?_⟩
  · have old_known := named.living name other has_name
    refine (index_old name ?_).trans old_known
    rintro rfl
    obtain ⟨union, found, _⟩ := has_name
    rw [only other old_known] at found
    change mgr.unions unionId = some union at found
    rw [gone] at found
    exact nomatch found
  · change (mgr.docs.erase unionId).lookup other = some doc at doc_eq
    have differs : other ≠ unionId := by
      rintro rfl
      rw [AList.lookup_erase] at doc_eq
      exact nomatch doc_eq
    rw [AList.lookup_erase_ne differs] at doc_eq
    have old_known := named.stored other doc doc_eq
    refine (index_old _ ?_).trans old_known
    intro same
    rw [same] at old_known
    exact differs (only other old_known)
  · change Function.update mgr.unionNameToUnionId unionName none name = some other at found
    by_cases same : name = unionName
    · subst same
      rw [Function.update_self] at found
      exact nomatch found
    · rw [index_old name same] at found
      exact named.old name other found

theorem keeps_dissolved {unionName : String} (holds : namesPool.Holds ⟨mgr, others⟩)
    (alone : ∀ other ∈ others, other.lock ≠ some unionId)
    (ends : Task.Ends mgr (.dissolveUnionHandle unionId unionName)) (ret : Bool) :
    namesPool.Keeps others
      (lockFor unionId (proceed (.dissolveUnionHandle unionId unionName) ret mgr)) := by
  have named : mgr.Named := holds.shared
  have dissolved := named_dissolved named ends
  have moved : Local unionId mgr (answer (.dissolveUnionHandle unionId unionName) (some ret) mgr) :=
    local_answer rfl _
  refine keeps_lockFor holds alone moved ⟨dissolved.living, dissolved.stored, dissolved.old⟩
    (fun other mem => ?_) nofun
  refine (holds.own other mem).2.mono (fun _ _ _ => id) fun name held lock held_known => ?_
  have differs : name ≠ unionName := by
    rintro rfl
    rw [ends.2] at held_known
    obtain rfl := Option.some.inj held_known
    exact alone other mem lock
  exact (Function.update_of_ne differs _ _).trans held_known

theorem Orderly.borne (orderly : Orderly mgr result) (stands : borne.holds mgr others) :
    borne.holds result.1 (others ++ result.2) := by
  intro unionName other known
  rcases orderly.index unionName other known with old | has_name
  · rcases stands unionName other old with had_name | ending
    · rcases orderly.names unionName other had_name with has_name | ends
      · exact .inl has_name
      · exact .inr (List.mem_append_right _ ends)
    · exact .inr (List.mem_append_left _ ending)
  · exact .inl has_name

theorem unlocked_answer (mgr : Mgr) (lock : task.lock = none) (reply : Reply) :
    (answer task reply mgr).1.locked = mgr.locked ∧
      (∀ other, other ≤ mgr.unionSeq + 100000 → mgr.unions other = none →
        (answer task reply mgr).1.unions other = none) ∧
      (∀ next ∈ (answer task reply mgr).2, next.lock = none) ∧
        (answer task reply mgr).2.length ≤ 1 := by
  cases reply with
  | none => exact ⟨rfl, fun _ _ => id, List.forall_mem_nil _, by simp [answer]⟩
  | some ret =>
      cases task with
      | genUnionId pid info =>
          refine ⟨rfl, fun other bound gone => ?_, List.forall_mem_singleton.mpr rfl, le_rfl⟩
          have differs : other ≠ mgr.nextUnionId := by
            unfold Mgr.nextUnionId
            omega
          exact (Function.update_of_ne differs _ _).trans gone
      | createdGrids unionId =>
          exact ⟨rfl, fun _ _ => id, List.forall_mem_singleton.mpr rfl, le_rfl⟩
      | selectBeginGrid unionId =>
          simp only [answer, proceed]
          split
          · exact ⟨rfl, fun _ _ => id, List.forall_mem_nil _, by simp⟩
          · obtain ⟨docs, saved_eq, tasks, single, _⟩ :=
              save_eq unionId { mgr with saving := Function.update mgr.saving unionId true }
            refine ⟨by rw [saved_eq], fun other _ gone => by rw [saved_eq]; exact gone,
              fun next mem => ?_, single⟩
            rw [tasks next mem]
            rfl
      | save id =>
          refine ⟨rfl, fun other _ gone => ?_, List.forall_mem_nil _, by simp [answer, proceed]⟩
          simp only [answer, proceed, Mgr.change, Mgr.setUnion, Function.update_apply]
          split
          · rename_i same
            rw [← same, gone]
            rfl
          · exact gone
      | _ => cases lock

theorem namesPool_kept : namesPool.KeptBy (unionService settings) (namesStay settings) where
  accept request mgr others holds allows := by
    have named : mgr.Named := holds.shared
    cases request with
    | createUnion pid info =>
        change namesPool.Keeps others (accept settings (.createUnion pid info) mgr)
        unfold accept
        dsimp only
        split
        · exact .ended holds
        · split
          · exact .ended holds
          · have waits : ∀ task ∈ [Task.genUnionId pid info], task.Ends mgr :=
              List.forall_mem_singleton.mpr trivial
            exact keeps_names_unlocked holds (.stay named waits) rfl (fun _ _ => id)
              (List.forall_mem_singleton.mpr rfl) le_rfl
    | locked unionId op =>
        change namesPool.Keeps others (accept settings (.locked unionId op) mgr)
        unfold accept
        dsimp only
        split
        · exact .ended holds
        · rename_i unlocked
          have move := move_start settings unionId mgr op
          exact keeps_names holds (fun other mem lock => unlocked ((holds.own other mem).1 _ lock))
            move.isLocal (move.orderly named allows)
    | save unionId =>
        obtain ⟨docs, saved_eq, tasks, single, _⟩ := save_eq unionId mgr
        have locked : (save unionId mgr).1.locked = mgr.locked := by rw [saved_eq]
        have unions : (save unionId mgr).1.unions = mgr.unions := by rw [saved_eq]
        refine keeps_names_unlocked holds (orderly_save named rfl rfl rfl rfl) locked
          (fun other _ gone => (congrFun unions other).trans gone) (fun task mem => ?_) single
        rw [tasks task mem]
        rfl
  resume task reply mgr others holds own apart allows := by
    have named : mgr.Named := holds.shared
    change namesPool.Keeps others (resume task reply mgr)
    unfold resume
    split
    · rename_i no_lock
      have orderly : Orderly mgr (answer task reply mgr) := answer_orderly reply named allows (by
        rintro other unionName rfl
        exact nomatch no_lock)
      obtain ⟨locked, gone, free, single⟩ := unlocked_answer mgr no_lock reply
      exact keeps_names_unlocked holds orderly locked gone free single
    · rename_i unionId lock
      have alone : ∀ other ∈ others, other.lock ≠ some unionId :=
        fun other mem => apart other mem unionId lock
      by_cases ending : ∃ other unionName, task = .dissolveUnionHandle other unionName
      · obtain ⟨other, unionName, rfl⟩ := ending
        obtain rfl := Option.some.inj lock
        cases reply with
        | none => exact allows.elim
        | some ret => exact keeps_dissolved holds alone own.2 ret
      · exact keeps_names holds alone (local_answer lock reply) (answer_orderly reply named allows
          fun other unionName task_eq => ending ⟨other, unionName, task_eq⟩)

theorem borne_kept : borne.KeptBy namesPool (unionService settings) (namesStay settings) where
  accept request mgr others holds stands allows := by
    have named : mgr.Named := holds.shared
    cases request with
    | createUnion pid info =>
        have orderly : Orderly mgr (accept settings (.createUnion pid info) mgr) := by
          unfold accept
          dsimp only
          split
          · exact .stay named nofun
          · split
            · exact .stay named nofun
            · exact .stay named (List.forall_mem_singleton.mpr trivial)
        exact orderly.borne stands
    | locked unionId op =>
        have orderly : Orderly mgr (accept settings (.locked unionId op) mgr) := by
          unfold accept
          dsimp only
          split
          · exact .stay named nofun
          · exact ((move_start settings unionId mgr op).orderly named allows).lockFor
        exact orderly.borne stands
    | save unionId =>
        have orderly : Orderly mgr (save unionId mgr) := orderly_save named rfl rfl rfl rfl
        exact orderly.borne stands
  resume task reply mgr others holds own _ stands allows := by
    have named : mgr.Named := holds.shared
    by_cases ending : ∃ other unionName, task = .dissolveUnionHandle other unionName
    · obtain ⟨ended, ended_name, rfl⟩ := ending
      cases reply with
      | none => exact allows.elim
      | some ret =>
          intro unionName other known
          change Function.update mgr.unionNameToUnionId ended_name none unionName = some other
            at known
          by_cases same : unionName = ended_name
          · subst same
            rw [Function.update_self] at known
            exact nomatch known
          · rw [Function.update_of_ne same] at known
            rcases stands unionName other known with has_name | waits
            · exact .inl has_name
            · rcases List.mem_cons.mp waits with this_one | still
              · exact absurd (Task.dissolveUnionHandle.inj this_one).2 same
              · exact .inr (List.mem_append_left _ still)
    · have rest : borne.holds mgr others := by
        intro unionName other known
        refine (stands unionName other known).imp_right fun waits => ?_
        rcases List.mem_cons.mp waits with this_one | still
        · exact absurd ⟨other, unionName, this_one.symm⟩ ending
        · exact still
      have orderly := answer_orderly reply named allows
        fun other unionName task_eq => ending ⟨other, unionName, task_eq⟩
      change borne.holds (resume task reply mgr).1 (others ++ (resume task reply mgr).2)
      unfold resume
      split
      · exact orderly.borne rest
      · exact orderly.lockFor.borne rest

end Run

def restart (config : Config Mgr Task) : Config Mgr Task :=
  unionStart config.state.unionSeq config.state.docs

/-- Runs of the service, each from what the one before has left in the database. -/
def lives (settings : Settings) :
    Config Mgr Task → List (List (Event Request Reply)) → Config Mgr Task
  | config, [] => config
  | config, events :: rest =>
      lives settings ((unionService settings).run (restart config) events) rest

def AdmitsLives (settings : Settings) :
    Config Mgr Task → List (List (Event Request Reply)) → Prop
  | _, [] => True
  | config, events :: rest =>
      (namesStay settings).Admits (unionService settings) (restart config) events ∧
        AdmitsLives settings ((unionService settings).run (restart config) events) rest

instance decidableAdmitsLives (settings : Settings) (config : Config Mgr Task) :
    ∀ runs, Decidable (AdmitsLives settings config runs)
  | [] => inferInstanceAs (Decidable True)
  | events :: rest =>
      have := decidableAdmitsLives settings
        ((unionService settings).run (restart config) events) rest
      inferInstanceAs
        (Decidable ((namesStay settings).Admits _ _ events ∧ AdmitsLives settings _ rest))

section Restarts

/-- `setUnionNameToUnionId` for one document. -/
def knowName (index : String → Option ℕ) (doc : Sigma fun _ : ℕ => Union) : String → Option ℕ :=
  Function.update index doc.2.info.unionName (some doc.1)

theorem foldl_known (docs : List (Sigma fun _ : ℕ => Union)) (index : String → Option ℕ)
    (unionName : String) :
    (∃ doc ∈ docs, doc.2.info.unionName = unionName ∧
        docs.foldl knowName index unionName = some doc.1) ∨
      (docs.foldl knowName index unionName = index unionName ∧
        ∀ doc ∈ docs, doc.2.info.unionName ≠ unionName) := by
  induction docs generalizing index with
  | nil => exact .inr ⟨rfl, nofun⟩
  | cons first rest ih =>
      rcases ih (knowName index first) with
        ⟨doc, mem, name_eq, known⟩ | ⟨untouched, differs⟩
      · exact .inl ⟨doc, .tail _ mem, name_eq, known⟩
      · by_cases same : first.2.info.unionName = unionName
        · subst same
          refine .inl ⟨first, .head _, rfl, untouched.trans ?_⟩
          rw [knowName, Function.update_self]
        · refine .inr ⟨untouched.trans ?_, List.forall_mem_cons.mpr ⟨same, differs⟩⟩
          rw [knowName, Function.update_of_ne (Ne.symm same)]

variable {unionSeq : ℕ} {docs : AList fun _ : ℕ => Union}

theorem hasName_initUnions (unionId : ℕ) (unionName : String) :
    (initUnions unionSeq docs).HasName unionId unionName ↔
      ∃ doc, docs.lookup unionId = some doc ∧ doc.info.unionName = unionName := by
  simp [Mgr.HasName, initUnions]

theorem initUnions_known
    (distinct : ∀ unionId doc other next, docs.lookup unionId = some doc →
      docs.lookup other = some next → doc.info.unionName = next.info.unionName → unionId = other)
    (unionName : String) (unionId : ℕ) :
    (initUnions unionSeq docs).unionNameToUnionId unionName = some unionId ↔
      ∃ doc, docs.lookup unionId = some doc ∧ doc.info.unionName = unionName := by
  rcases foldl_known docs.entries (fun _ => none) unionName with
    ⟨doc, mem, name_eq, known⟩ | ⟨untouched, differs⟩
  · have found : docs.lookup doc.1 = some doc.2 := AList.mem_lookup_iff.mpr mem
    change (initUnions unionSeq docs).unionNameToUnionId unionName = some doc.1 at known
    rw [known]
    constructor
    · intro same
      obtain rfl := Option.some.inj same
      exact ⟨doc.2, found, name_eq⟩
    · rintro ⟨next, next_eq, next_name⟩
      rw [distinct doc.1 doc.2 unionId next found next_eq (name_eq.trans next_name.symm)]
  · change (initUnions unionSeq docs).unionNameToUnionId unionName = none at untouched
    rw [untouched]
    refine ⟨nofun, ?_⟩
    rintro ⟨doc, found, name_eq⟩
    exact absurd name_eq (differs ⟨unionId, doc⟩ (AList.mem_lookup_iff.mp found))

theorem restart_holds {config : Config Mgr Task} (named : config.state.Named) :
    namesPool.Holds (restart config) ∧
      borne.holds (restart config).state (restart config).waiting := by
  have distinct : ∀ unionId doc other next, config.state.docs.lookup unionId = some doc →
      config.state.docs.lookup other = some next → doc.info.unionName = next.info.unionName →
        unionId = other := by
    intro unionId doc other next found other_found same
    have known := named.stored unionId doc found
    rw [same, named.stored other next other_found] at known
    exact (Option.some.inj known).symm
  have known : ∀ unionName unionId, (restart config).state.unionNameToUnionId unionName =
      some unionId ↔ (restart config).state.HasName unionId unionName := fun unionName unionId =>
    (initUnions_known distinct unionName unionId).trans (hasName_initUnions unionId unionName).symm
  refine ⟨⟨⟨fun unionName unionId => (known unionName unionId).mpr, fun unionId doc found => ?_,
    fun unionName unionId found => ?_⟩, nofun, .nil⟩, fun unionName unionId found =>
      .inl ((known unionName unionId).mp found)⟩
  · exact (initUnions_known distinct _ unionId).mpr ⟨doc, found, rfl⟩
  · obtain ⟨doc, doc_eq, _⟩ := (initUnions_known distinct unionName unionId).mp found
    exact named.old _ unionId (named.stored unionId doc doc_eq)

end Restarts

theorem indexed_of_holds {config : Config Mgr Task} (holds : namesPool.Holds config)
    (stands : borne.holds config.state config.waiting) : Indexed config := by
  have named : config.state.Named := holds.shared
  refine ⟨fun unionName unionId other has_name other_has => ?_, fun unionName unionId =>
    ⟨stands unionName unionId, ?_⟩⟩
  · have known := named.living unionName unionId has_name
    rw [named.living unionName other other_has] at known
    exact (Option.some.inj known).symm
  · rintro (has_name | ending)
    · exact named.living unionName unionId has_name
    · exact (holds.own _ ending).2.2

/-- "North" is founded and saved, the service restarts, "North" ends and its name is used again. -/
def reusedRuns : List (List (Event Request Reply)) :=
  [[.request (.createUnion 1 ⟨"North", .unlimit, 0⟩), .reply 0 (some true), .reply 0 (some true),
      .reply 0 (some true)],
    [.request (.createUnion 2 ⟨"North", .unlimit, 0⟩), .request (.locked 100001 (.quitUnion 1 0)),
      .reply 0 (some true), .reply 0 (some true), .reply 0 (some true),
      .request (.createUnion 2 ⟨"North", .unlimit, 0⟩), .reply 0 (some true)]]

def renamedRuns : List (List (Event Request Reply)) :=
  [[.request (.createUnion 1 ⟨"North", .unlimit, 0⟩), .reply 0 (some true),
    .request (.locked 100001 (.modifyUnionInfo 1 ⟨"South", .unlimit, 0⟩ 7)), .reply 1 (some true),
    .reply 1 (some true)]]

end BasWar.Unions.UnionMgr
