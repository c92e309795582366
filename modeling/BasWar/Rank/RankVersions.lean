import BasWar.Cooperative.Pool
import Mathlib.Algebra.Order.Ring.Int

/-!
# Versions of a ranking

The rank service keeps the ranking that was stored last in a cache with a version, the second in
which it was loaded.  A client that has the version gets nothing.  While the cache is being filled
it is an empty table that requests take for the ranking, and a version stays until the next load
has come to its end.
-/

namespace BasWar.Ranks

open Cooperative

/-- Keys of the rankings, the last one of unions. -/
inductive RankKey
  | badge
  | matchBadge
  | costMit
  | planet
  | getHydroxyl
  | unionGetHydroxyl

namespace RankKey

def rankType : RankKey → ℕ
  | .badge => 1
  | .costMit => 2
  | .planet => 3
  | .matchBadge => 4
  | .getHydroxyl => 5
  | .unionGetHydroxyl => 6

def getAward (key : RankKey) (rank : ℕ) : Option ℤ :=
  match key with
  | .badge => some (100 - rank + 1)
  | .costMit => some (300 - rank + 1)
  | .planet => some (200 - rank + 1)
  | .matchBadge | .getHydroxyl => some 0
  | .unionGetHydroxyl => none

end RankKey

/-- A row of the live ranking, of a player or a union. -/
structure NewRow where
  id : ℕ
  score : ℤ
  name : String
  headIcon : String
  unionName : String
  deriving DecidableEq

structure Row extends NewRow where
  upDown : ℤ
  deriving DecidableEq

structure CachedRow extends Row where
  award : Option ℤ

structure RankRow where
  index : ℕ
  name : String
  value : ℤ
  upDown : ℤ
  award : Option ℤ
  headIcon : String
  deriving DecidableEq

/-- The answer to a request for one's own place, from the live ranking. -/
structure MyRank where
  rankIdx : ℤ
  score : ℤ
  name : String
  headIcon : String

structure SelfRank where
  index : ℤ
  name : Option String
  value : Option ℤ
  upDown : ℤ
  award : Option ℤ
  headIcon : Option String
  deriving DecidableEq

structure Data where
  rankType : ℕ
  version : Option ℕ
  rank : List RankRow
  selfRank : Option SelfRank
  deriving DecidableEq

/-- What a client gets, with the ranking that was stored when it was composed. -/
inductive Answer
  /-- `nil`, to a client with a version. -/
  | nothing (version : ℤ) (stored : List Row)
  | data (data : Data) (stored : List Row)
  deriving DecidableEq

structure Svc where
  /-- `math.floor(skynet.timestamp() / 1000)` -/
  now : ℕ
  stored : Option (List Row)
  rankTemp : Option (List CachedRow)
  rankVersion : Option ℕ
  answers : List Answer
  /-- Versions with the rankings that were loaded for them; the source keeps the last one only. -/
  issued : List (ℕ × List Row)

def Svc.start (now : ℕ) (stored : Option (List Row)) : Svc :=
  ⟨now, stored, none, none, [], []⟩

inductive Request
  | tick
  | refreshRank
  /-- The client's own id; a player without union has none. -/
  | getRankList (who : Option ℕ) (version : ℤ)

inductive Task
  /-- `get` of a load is on its way. -/
  | load (who : Option ℕ) (version : ℤ)
  /-- The text that a load has read is on its way. -/
  | loaded (who : Option ℕ) (version : ℤ) (text : Option (List Row))
  | selfRank (data : Data) (stored : List Row)
  | newRank
  /-- `get` of a refresh is on its way. -/
  | curRank (rankNew : List NewRow)
  | refresh (rankNew : List NewRow) (text : Option (List Row))

/-- What the scripts of redis answer. -/
structure Reply where
  rankNew : List NewRow
  myRank : Option MyRank

/-- 999 for one who was not in the ranking. -/
def checkUpDown (newRank : List NewRow) (oldRank : List Row) : List Row :=
  (newRank.zipIdx 1).map fun (row, k) =>
    match oldRank.findIdx? fun old => row.id = old.id with
    | some index => { row with upDown := (index : ℤ) + 1 - k }
    | none => { row with upDown := 999 }

def withAwards (key : RankKey) (rows : List Row) : List CachedRow :=
  (rows.zipIdx 1).map fun (row, k) => { row with award := key.getAward k }

def rankRows (rows : List CachedRow) : List RankRow :=
  (rows.zipIdx 1).map fun (row, k) =>
    ⟨k, row.name, row.score, row.upDown, row.award, row.headIcon⟩

/-- The last row of a client. -/
def ownRow (who : Option ℕ) (rows : List CachedRow) : Option SelfRank :=
  (rows.zipIdx 1).foldl (fun found (row, k) =>
    if some row.id = who then
      some ⟨k, row.name, row.score, row.upDown, row.award, row.headIcon⟩
    else found) none

def liveRow (myRank : Option MyRank) : SelfRank where
  index := ((myRank.map MyRank.rankIdx).getD (-1)) + 1
  name := myRank.map MyRank.name
  value := myRank.map MyRank.score
  upDown := 0
  award := some 0
  headIcon := myRank.map MyRank.headIcon

namespace Svc

def answer (given : Answer) (svc : Svc) : Svc :=
  { svc with answers := svc.answers ++ [given] }

def ranking (svc : Svc) : List Row :=
  svc.stored.getD []

/-- `getRankList` from the comparison of the versions on. -/
def compose (key : RankKey) (who : Option ℕ) (version : ℤ) (svc : Svc) : Svc × List Task :=
  if 0 < version ∧ (svc.rankVersion.map Nat.cast) = some version then
    (svc.answer (.nothing version svc.ranking), [])
  else
    match svc.rankTemp with
    -- `ipairs` raises.
    | none => (svc, [])
    | some temp =>
        let data : Data := ⟨key.rankType, svc.rankVersion, rankRows temp, ownRow who temp⟩
        if data.selfRank = none ∧ who.isSome = true then
          (svc, [.selfRank data svc.ranking])
        else (svc.answer (.data data svc.ranking), [])

end Svc

def service (key : RankKey) : Service Svc Request Task Reply where
  accept
    | .tick, svc => ({ svc with now := svc.now + 1 }, [])
    | .refreshRank, svc => (svc, [.newRank])
    | .getRankList who version, svc =>
        match svc.rankTemp with
        | none => ({ svc with rankTemp := some [] }, [.load who version])
        | some _ => svc.compose key who version
  resume
    | .load who version, _, svc => (svc, [.loaded who version svc.stored])
    | .loaded who version text, _, svc =>
        let rankTemp := match text with
          | none => svc.rankTemp
          | some rows => some (withAwards key rows)
        { svc with
          rankTemp
          rankVersion := some svc.now
          issued := svc.issued ++ [(svc.now, text.getD [])] }.compose key who version
    | .selfRank data stored, reply, svc =>
        (svc.answer (.data { data with selfRank := some (liveRow reply.myRank) } stored), [])
    | .newRank, reply, svc => (svc, [.curRank reply.rankNew])
    | .curRank rankNew, _, svc => (svc, [.refresh rankNew svc.stored])
    | .refresh rankNew text, _, svc =>
        ({ svc with
          stored := some (checkUpDown rankNew (text.getD []))
          rankTemp := none }, [])

/-- Answers with one version have one ranking, an empty ranking was stored as such, and nothing is
given for a version only if it was issued for what is stored. -/
structure Identified (key : RankKey) (svc : Svc) : Prop where
  same : ∀ first stored, .data first stored ∈ svc.answers →
    ∀ second other, .data second other ∈ svc.answers →
      first.version = second.version → first.rank = second.rank
  nonempty : ∀ data stored, .data data stored ∈ svc.answers → data.rank = [] → stored = []
  nothing : ∀ (version : ℤ) (stored : List Row), .nothing version stored ∈ svc.answers →
    ∃ issued : ℕ, version = issued ∧ (issued, stored) ∈ svc.issued ∧
      ∀ data other, .data data other ∈ svc.answers → data.version = some issued →
        data.rank = rankRows (withAwards key stored)

def Task.loads : Task → Bool
  | .load _ _ | .loaded _ _ _ => true
  | _ => false

def Task.brings : Task → Option (Option (List Row))
  | .loaded _ _ text => some text
  | _ => none

/-- No request while the cache is being filled, no refresh that makes outdated what a load has
read, and no load that ends in the second of another ranking. -/
def guard : Guard Svc Request Task Reply where
  onRequest
    | .getRankList _ _, _, others => ∀ other ∈ others, other.loads = false
    | .tick, _, _ | .refreshRank, _, _ => True
  onReply
    | .loaded _ _ text, _, svc, _ =>
        ∀ entry ∈ svc.issued, entry.1 = svc.now → entry.2 = text.getD []
    | .refresh rankNew text, _, _, others =>
        ∀ other ∈ others, ∀ read ∈ other.brings,
          read = some (checkUpDown rankNew (text.getD []))
    | .load _ _, _, _, _ | .selfRank _ _, _, _, _ | .newRank, _, _, _ | .curRank _, _, _, _ => True

instance (request svc others) : Decidable (guard.onRequest request svc others) := by
  unfold guard
  induction request using Request.casesOn <;> dsimp only <;> infer_instance

instance (task reply svc others) : Decidable (guard.onReply task reply svc others) := by
  unfold guard
  induction task using Task.casesOn <;> dsimp only <;> infer_instance

section Kept

variable {key : RankKey} {svc : Svc}

/-- The data were composed from a ranking under the version that was issued for it. -/
def Data.Drawn (key : RankKey) (svc : Svc) (data : Data) (stored : List Row) : Prop :=
  ∃ issued, data.version = some issued ∧ (issued, stored) ∈ svc.issued ∧
    data.rank = rankRows (withAwards key stored)

def Answer.Drawn (key : RankKey) (svc : Svc) : Answer → Prop
  | .nothing version stored => ∃ issued : ℕ, version = issued ∧ (issued, stored) ∈ svc.issued
  | .data given stored => given.Drawn key svc stored

/-- Versions were issued once, in the past, and every answer was drawn from one. -/
structure Sound (key : RankKey) (svc : Svc) : Prop where
  past : ∀ entry ∈ svc.issued, entry.1 ≤ svc.now
  once : ∀ first ∈ svc.issued, ∀ second ∈ svc.issued, first.1 = second.1 → first.2 = second.2
  drawn : ∀ answer ∈ svc.answers, answer.Drawn key svc

def Task.Knows (key : RankKey) (svc : Svc) : Task → Prop
  | .load _ _ => svc.stored ≠ none ∨ svc.rankTemp = some []
  | .loaded _ _ text => text = svc.stored ∧ (text = none → svc.rankTemp = some [])
  | .selfRank data stored => data.Drawn key svc stored
  | .newRank | .curRank _ | .refresh _ _ => True

/-- Only one load is under way. -/
def pool (key : RankKey) : Pool Svc Task where
  shared := Sound key
  own := Task.Knows key
  apart first second := first.loads = true → second.loads = false
  apart_symm := by
    intro first second apart second_loads
    by_contra first_loads
    rw [Bool.not_eq_false] at first_loads
    exact absurd (apart first_loads) (by rw [second_loads]; decide)

/-- What is cached is what is stored, under a version that was issued for it. -/
def Settled (key : RankKey) (svc : Svc) : Prop :=
  ∀ temp ∈ svc.rankTemp, temp = withAwards key svc.ranking ∧
    ∃ issued, svc.rankVersion = some issued ∧ (issued, svc.ranking) ∈ svc.issued

def idle (key : RankKey) : Standing Svc Task where
  holds svc tasks := (∀ task ∈ tasks, task.loads = false) → Settled key svc
  perm perm holds quiet := holds fun task task_mem => quiet task (perm.mem_iff.mp task_mem)

theorem rankRows_eq_nil_iff (rows : List Row) :
    rankRows (withAwards key rows) = [] ↔ rows = [] := by
  simp [rankRows, withAwards]

theorem Sound.identified (sound : Sound key svc) : Identified key svc where
  same first stored first_mem second other second_mem version_eq := by
    obtain ⟨issued, first_version, first_issued, first_rank⟩ := sound.drawn _ first_mem
    obtain ⟨later, second_version, second_issued, second_rank⟩ := sound.drawn _ second_mem
    have same_version : issued = later :=
      Option.some.inj (first_version.symm.trans (version_eq.trans second_version))
    have same_ranking := sound.once _ first_issued _ second_issued same_version
    dsimp only at same_ranking
    rw [first_rank, second_rank, same_ranking]
  nonempty data stored data_mem empty := by
    obtain ⟨-, -, -, rank_eq⟩ := sound.drawn _ data_mem
    exact (rankRows_eq_nil_iff stored).mp (rank_eq.symm.trans empty)
  nothing version stored nothing_mem := by
    obtain ⟨issued, version_eq, stored_issued⟩ := sound.drawn _ nothing_mem
    refine ⟨issued, version_eq, stored_issued, fun data other data_mem version => ?_⟩
    obtain ⟨later, later_version, other_issued, rank_eq⟩ := sound.drawn _ data_mem
    have same_version : issued = later := Option.some.inj (version.symm.trans later_version)
    have same_ranking := sound.once _ stored_issued _ other_issued same_version
    dsimp only at same_ranking
    rw [rank_eq, same_ranking]

variable {after : Svc}

theorem Data.Drawn.mono {data : Data} {stored : List Row} (drawn : data.Drawn key svc stored)
    (issued_sub : svc.issued ⊆ after.issued) : data.Drawn key after stored := by
  obtain ⟨issued, version_eq, stored_issued, rank_eq⟩ := drawn
  exact ⟨issued, version_eq, issued_sub stored_issued, rank_eq⟩

theorem Answer.Drawn.mono {answer : Answer} (drawn : answer.Drawn key svc)
    (issued_sub : svc.issued ⊆ after.issued) : answer.Drawn key after := by
  cases answer with
  | nothing version stored =>
      obtain ⟨issued, version_eq, stored_issued⟩ := drawn
      exact ⟨issued, version_eq, issued_sub stored_issued⟩
  | data data stored => exact Data.Drawn.mono drawn issued_sub

theorem Sound.answer (sound : Sound key svc) {given : Answer} (drawn : given.Drawn key svc) :
    Sound key (svc.answer given) where
  past := sound.past
  once := sound.once
  drawn answer answer_mem := by
    obtain old | new := List.mem_append.mp answer_mem
    · exact Answer.Drawn.mono (sound.drawn answer old) fun _ mem => mem
    · rw [List.mem_singleton.mp new]
      exact Answer.Drawn.mono drawn fun _ mem => mem

/-- What a segment that composes an answer leaves. -/
structure Composes (key : RankKey) (svc : Svc) (result : Svc × List Task) : Prop where
  sound : Sound key result.1
  same : result.1 = { svc with answers := result.1.answers }
  tasks : ∀ task ∈ result.2, task.loads = false ∧ task.Knows key result.1
  single : result.2.length ≤ 1

theorem Svc.compose_composes (sound : Sound key svc) (settled : Settled key svc)
    {temp : List CachedRow} (found : svc.rankTemp = some temp) (who : Option ℕ) (version : ℤ) :
    Composes key svc (svc.compose key who version) := by
  obtain ⟨temp_eq, issued, version_eq, ranking_issued⟩ := settled temp found
  unfold Svc.compose
  split
  next known =>
    have same : version = issued := by
      rw [version_eq] at known
      exact (Option.some.inj known.2).symm
    exact ⟨sound.answer ⟨issued, same, ranking_issued⟩, rfl,
      fun _ mem => absurd mem List.not_mem_nil, Nat.zero_le 1⟩
  next unknown =>
    split
    next absent => exact nomatch found.symm.trans absent
    next other other_found =>
      obtain rfl := Option.some.inj (found.symm.trans other_found)
      have drawn : ∀ own, Data.Drawn key svc
          ⟨key.rankType, svc.rankVersion, rankRows temp, own⟩ svc.ranking := fun own =>
        ⟨issued, version_eq, ranking_issued, congrArg rankRows temp_eq⟩
      dsimp only
      split
      · refine ⟨sound, rfl, fun task task_mem => ?_, le_rfl⟩
        rw [List.mem_singleton.mp task_mem]
        exact ⟨rfl, drawn _⟩
      · exact ⟨sound.answer (drawn _), rfl, fun _ mem => absurd mem List.not_mem_nil,
          Nat.zero_le 1⟩

/-- The service after a segment that touches neither the cache nor the text. -/
structure Goes (before after : Svc) : Prop where
  now : before.now ≤ after.now
  issued : before.issued ⊆ after.issued
  stored : after.stored = before.stored
  rankTemp : after.rankTemp = before.rankTemp
  rankVersion : after.rankVersion = before.rankVersion

theorem Task.Knows.mono {before : Svc} {task : Task} (knows : task.Knows key before)
    (goes : Goes before after) : task.Knows key after := by
  cases task with
  | load who version =>
      unfold Task.Knows at knows ⊢
      rwa [goes.stored, goes.rankTemp]
  | loaded who version text =>
      unfold Task.Knows at knows ⊢
      rwa [goes.stored, goes.rankTemp]
  | selfRank data stored => exact Data.Drawn.mono knows goes.issued
  | newRank | curRank rankNew | refresh rankNew text => trivial

theorem Settled.mono {before : Svc} (settled : Settled key before) (goes : Goes before after) :
    Settled key after := by
  intro temp found
  have ranking_eq : after.ranking = before.ranking := congrArg (Option.getD · []) goes.stored
  rw [goes.rankTemp] at found
  obtain ⟨temp_eq, issued, version_eq, ranking_issued⟩ := settled temp found
  exact ⟨ranking_eq ▸ temp_eq, issued, goes.rankVersion.trans version_eq,
    ranking_eq ▸ goes.issued ranking_issued⟩

variable {others : List Task}

theorem keeps_of_goes {result : Svc × List Task} (holds : (pool key).Holds ⟨svc, others⟩)
    (goes : Goes svc result.1) (sound : Sound key result.1)
    (tasks : ∀ task ∈ result.2, task.loads = false ∧ task.Knows key result.1)
    (single : result.2.length ≤ 1)
    (settled : (∀ other ∈ others, other.loads = false) → Settled key svc) :
    (idle key).Keeps (pool key) others result where
  left := {
    shared := sound
    stable other other_mem := (holds.own other other_mem).mono goes
    fresh task task_mem := (tasks task task_mem).2
    apart _ _ task task_mem _ := (tasks task task_mem).1
    fresh_apart := pairwise_of_single single }
  right quiet := (settled fun other other_mem =>
    quiet other (List.mem_append_left _ other_mem)).mono goes

theorem Composes.goes {result : Svc × List Task} (composes : Composes key svc result) :
    Goes svc result.1 := by
  rw [composes.same]
  exact ⟨le_rfl, fun _ mem => mem, rfl, rfl, rfl⟩

theorem Sound.tick (sound : Sound key svc) : Sound key { svc with now := svc.now + 1 } where
  past entry entry_mem := (sound.past entry entry_mem).trans (Nat.le_succ _)
  once := sound.once
  drawn answer answer_mem := Answer.Drawn.mono (sound.drawn answer answer_mem) fun _ mem => mem

theorem Sound.issue (sound : Sound key svc) {rows : List Row} (now_eq : after.now = svc.now)
    (answers_eq : after.answers = svc.answers)
    (issued_eq : after.issued = svc.issued ++ [(svc.now, rows)])
    (unissued : ∀ entry ∈ svc.issued, entry.1 = svc.now → entry.2 = rows) : Sound key after where
  past entry entry_mem := by
    rw [issued_eq] at entry_mem
    rw [now_eq]
    obtain old | new := List.mem_append.mp entry_mem
    · exact sound.past entry old
    · rw [List.mem_singleton.mp new]
  once first first_mem second second_mem same := by
    rw [issued_eq, List.mem_append, List.mem_singleton] at first_mem second_mem
    obtain first_old | rfl := first_mem
    · obtain second_old | rfl := second_mem
      · exact sound.once first first_old second second_old same
      · exact unissued first first_old same
    · obtain second_old | rfl := second_mem
      · exact (unissued second second_old same.symm).symm
      · rfl
  drawn answer answer_mem := by
    rw [answers_eq] at answer_mem
    refine Answer.Drawn.mono (sound.drawn answer answer_mem) ?_
    rw [issued_eq]
    exact List.subset_append_left _ _

theorem accept_keeps (request : Request) (holds : (pool key).Holds ⟨svc, others⟩)
    (quiet : (idle key).holds svc others) (allowed : guard.onRequest request svc others) :
    (idle key).Keeps (pool key) others ((service key).accept request svc) := by
  cases request with
  | tick =>
      exact keeps_of_goes holds ⟨Nat.le_succ _, fun _ mem => mem, rfl, rfl, rfl⟩
        holds.shared.tick (fun _ mem => absurd mem List.not_mem_nil) (Nat.zero_le 1) quiet
  | refreshRank =>
      refine keeps_of_goes holds ⟨le_rfl, fun _ mem => mem, rfl, rfl, rfl⟩ holds.shared
        (fun task task_mem => ?_) le_rfl quiet
      rw [List.mem_singleton.mp task_mem]
      exact ⟨rfl, trivial⟩
  | getRankList who version =>
      dsimp only [service]
      split
      next absent =>
        refine ⟨⟨?_, fun other other_mem => ?_, fun task task_mem => ?_, ?_,
          List.pairwise_singleton _ _⟩, fun no_load => ?_⟩
        · exact ⟨holds.shared.past, holds.shared.once, fun answer answer_mem =>
            Answer.Drawn.mono (holds.shared.drawn answer answer_mem) fun _ mem => mem⟩
        · have other_knows := holds.own other other_mem
          have no_load := allowed other other_mem
          cases other with
          | load => exact nomatch no_load
          | loaded => exact nomatch no_load
          | selfRank data stored => exact Data.Drawn.mono other_knows fun _ mem => mem
          | newRank | curRank rankNew | refresh rankNew text => trivial
        · rw [List.mem_singleton.mp task_mem]
          exact .inr rfl
        · intro other other_mem task _ other_loads
          exact nomatch (allowed other other_mem).symm.trans other_loads
        · exact nomatch no_load _ (List.mem_append_right _ List.mem_cons_self)
      next temp found =>
        have composes := Svc.compose_composes holds.shared (quiet allowed) found who version
        exact keeps_of_goes holds composes.goes composes.sound composes.tasks composes.single quiet

theorem loaded_keeps {who : Option ℕ} {version : ℤ} {text : Option (List Row)} (reply : Reply)
    (holds : (pool key).Holds ⟨svc, others⟩)
    (knows : (Task.loaded who version text).Knows key svc)
    (apart : ∀ other ∈ others, other.loads = false)
    (unissued : ∀ entry ∈ svc.issued, entry.1 = svc.now → entry.2 = text.getD []) :
    (idle key).Keeps (pool key) others
      ((service key).resume (.loaded who version text) reply svc) := by
  obtain ⟨text_eq, unread⟩ := knows
  subst text_eq
  dsimp only [service]
  let filled : Svc := { svc with
    rankTemp := match svc.stored with
      | none => svc.rankTemp
      | some rows => some (withAwards key rows)
    rankVersion := some svc.now
    issued := svc.issued ++ [(svc.now, svc.stored.getD [])] }
  have found : filled.rankTemp = some (withAwards key svc.ranking) := by
    dsimp only [filled, Svc.ranking]
    split
    next absent =>
      rw [unread absent, absent]
      rfl
    next rows stored_eq => rw [stored_eq, Option.getD_some]
  have settled : Settled key filled := by
    intro temp temp_found
    obtain rfl := Option.some.inj (found.symm.trans temp_found)
    exact ⟨rfl, svc.now, rfl, List.mem_append_right _ List.mem_cons_self⟩
  have sound : Sound key filled := holds.shared.issue rfl rfl rfl unissued
  have composes := Svc.compose_composes sound settled found who version
  have goes := composes.goes
  have stable : ∀ other ∈ others, other.Knows key filled := by
    intro other other_mem
    have other_knows := holds.own other other_mem
    have no_load := apart other other_mem
    cases other with
    | load => exact nomatch no_load
    | loaded => exact nomatch no_load
    | selfRank data stored => exact Data.Drawn.mono other_knows (List.subset_append_left _ _)
    | newRank | curRank rankNew | refresh rankNew text => trivial
  exact keeps_of_goes ⟨sound, stable, holds.apart⟩ goes composes.sound composes.tasks
    composes.single fun _ => settled

theorem refresh_keeps {rankNew : List NewRow} {text : Option (List Row)} (reply : Reply)
    (holds : (pool key).Holds ⟨svc, others⟩)
    (unread : ∀ other ∈ others, ∀ read ∈ other.brings,
      read = some (checkUpDown rankNew (text.getD []))) :
    (idle key).Keeps (pool key) others
      ((service key).resume (.refresh rankNew text) reply svc) := by
  dsimp only [service]
  refine ⟨⟨?_, fun other other_mem => ?_, fun _ mem => absurd mem List.not_mem_nil,
    fun _ _ _ mem => absurd mem List.not_mem_nil, .nil⟩, fun _ temp found => nomatch found⟩
  · exact ⟨holds.shared.past, holds.shared.once, fun answer answer_mem =>
      Answer.Drawn.mono (holds.shared.drawn answer answer_mem) fun _ mem => mem⟩
  · have other_knows := holds.own other other_mem
    cases other with
    | load who version => exact .inl (Option.some_ne_none _)
    | loaded who version read =>
        have read_eq := unread _ other_mem read rfl
        exact ⟨read_eq, fun absent => nomatch read_eq.symm.trans absent⟩
    | selfRank data stored => exact Data.Drawn.mono other_knows fun _ mem => mem
    | newRank | curRank other_new | refresh other_new other_text => trivial

theorem resume_keeps (task : Task) (reply : Reply) (holds : (pool key).Holds ⟨svc, others⟩)
    (knows : task.Knows key svc) (apart : ∀ other ∈ others, (pool key).apart task other)
    (quiet : (idle key).holds svc (task :: others))
    (allowed : guard.onReply task reply svc others) :
    (idle key).Keeps (pool key) others ((service key).resume task reply svc) := by
  have goes : Goes svc svc := ⟨le_rfl, fun _ mem => mem, rfl, rfl, rfl⟩
  -- A task that is no load leaves the cache as it is.
  have others_quiet : task.loads = false →
      (∀ other ∈ others, other.loads = false) → Settled key svc := by
    intro no_load rest
    refine quiet fun other other_mem => ?_
    obtain rfl | old := List.mem_cons.mp other_mem
    · exact no_load
    · exact rest other old
  cases task with
  | load who version =>
      dsimp only [service]
      refine ⟨⟨holds.shared, holds.own, fun task task_mem => ?_,
        fun other other_mem task _ other_loads => ?_, List.pairwise_singleton _ _⟩,
        fun no_load => ?_⟩
      · rw [List.mem_singleton.mp task_mem]
        exact ⟨rfl, fun absent => knows.resolve_left fun stored => stored absent⟩
      · exact nomatch (apart other other_mem rfl).symm.trans other_loads
      · exact nomatch no_load _ (List.mem_append_right _ List.mem_cons_self)
  | loaded who version text =>
      exact loaded_keeps reply holds knows (fun other other_mem => apart other other_mem rfl)
        allowed
  | selfRank data stored =>
      have drawn : Answer.Drawn key svc
          (.data { data with selfRank := some (liveRow reply.myRank) } stored) := knows
      exact keeps_of_goes holds ⟨le_rfl, fun _ mem => mem, rfl, rfl, rfl⟩
        (holds.shared.answer drawn) (fun _ mem => absurd mem List.not_mem_nil) (Nat.zero_le 1)
        (others_quiet rfl)
  | newRank =>
      refine keeps_of_goes holds goes holds.shared (fun task task_mem => ?_) le_rfl
        (others_quiet rfl)
      rw [List.mem_singleton.mp task_mem]
      exact ⟨rfl, trivial⟩
  | curRank rankNew =>
      refine keeps_of_goes holds goes holds.shared (fun task task_mem => ?_) le_rfl
        (others_quiet rfl)
      rw [List.mem_singleton.mp task_mem]
      exact ⟨rfl, trivial⟩
  | refresh rankNew text => exact refresh_keeps reply holds allowed

theorem idle_kept (key : RankKey) : (idle key).KeptWith (pool key) (service key) guard where
  accept request _ _ holds quiet allowed := accept_keeps request holds quiet allowed
  resume task reply _ _ holds knows apart quiet allowed :=
    resume_keeps task reply holds knows apart quiet allowed

theorem sound_start (key : RankKey) (now : ℕ) (stored : Option (List Row)) :
    Sound key (.start now stored) where
  past _ mem := absurd mem List.not_mem_nil
  once _ mem := absurd mem List.not_mem_nil
  drawn _ mem := absurd mem List.not_mem_nil

end Kept

/-- On schedules where loads are alone and in seconds of their own, versions identify rankings. -/
theorem identified_run (key : RankKey) (now : ℕ) (stored : Option (List Row))
    (events : List (Event Request Reply))
    (admits : guard.Admits (service key) ⟨.start now stored, []⟩ events) :
    Identified key ((service key).run ⟨.start now stored, []⟩ events).state := by
  have start : (pool key).Holds ⟨.start now stored, []⟩ :=
    ⟨sound_start key now stored, fun _ mem => absurd mem List.not_mem_nil, .nil⟩
  exact ((idle_kept key).holds_run admits start fun _ _ found => nomatch found).1.shared.identified

def sampleRow : Row where
  id := 7
  score := 120
  name := "Ada"
  headIcon := ""
  unionName := ""
  upDown := 999

def sampleReply : Reply := ⟨[], none⟩

/-- A load, and a request with the version that it gave. -/
theorem identified_sampleRun :
    Identified .badge ((service .badge).run ⟨.start 10 (some [sampleRow]), []⟩
      [.request (.getRankList (some 7) 0), .reply 0 sampleReply, .reply 0 sampleReply,
        .request (.getRankList (some 7) 10)]).state :=
  identified_run .badge 10 (some [sampleRow]) _ (by decide)

/-- The second of two clients gets an empty ranking. -/
theorem not_identified_emptyRun :
    ¬ Identified .badge ((service .badge).run ⟨.start 10 (some [sampleRow]), []⟩
      [.request (.getRankList (some 7) 0), .request (.getRankList (some 7) 0),
        .reply 1 sampleReply]).state := by
  intro identified
  have empty := identified.nonempty ⟨1, none, [], some (liveRow none)⟩ [sampleRow] (by decide) rfl
  exact absurd empty (by decide)

end BasWar.Ranks
