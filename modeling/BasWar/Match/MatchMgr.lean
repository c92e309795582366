import BasWar.Match.MatchBase
import BasWar.Tables.Keyed
import Mathlib.Data.List.Find

/-!
# Joining the matches that are open

A player or a union joins matches of three types, the current season match first.  The results of
the single joins are combined by `or`, so that the first success stops the others: everything that
is open is joined as long as at most one match is.
-/

namespace BasWar.Matches.Joining

open Pots (Belong)
open Tables

/-- A row of `MatchConfig`. -/
structure Row where
  cfgId : ℕ
  belong : Belong
  matchType : MatchType
  status : ℤ
  noticeTime : ℕ
  startTime : ℕ
  endTime : ℕ
  showEndTime : ℕ

/-- The configuration that the share service has, and the time. -/
structure World where
  matchConfig : List Row
  now : ℕ

/-- An entry of `members`. -/
inductive Member
  | joined
  /-- A PVP match keeps the id that the player has joined with. -/
  | as (id : ℕ)

structure Match where
  cfgId : ℕ
  belong : Belong
  members : ℕ → Option Member
  dirty : Bool

def World.betweenTime (world : World) (time1 time2 : ℕ) : Bool :=
  decide (time1 ≤ world.now ∧ world.now ≤ time2)

namespace Match

def getMatchCfg (world : World) (self : Match) : Option Row :=
  world.matchConfig.find? (·.cfgId = self.cfgId)

def isValid (world : World) (self : Match) : Bool :=
  (self.getMatchCfg world).any fun matchCfg =>
    matchCfg.status ≠ 0 && world.betweenTime matchCfg.noticeTime matchCfg.showEndTime

def isNoticeStage (world : World) (self : Match) : Bool :=
  (self.getMatchCfg world).any fun matchCfg =>
    world.betweenTime matchCfg.noticeTime matchCfg.startTime

def isStartStage (world : World) (self : Match) : Bool :=
  (self.getMatchCfg world).any fun matchCfg =>
    world.betweenTime matchCfg.startTime matchCfg.endTime

/-- What the two classes have in common. -/
def joinAs (world : World) (name : ℕ) (member : Member) (self : Match) : Match × Bool :=
  if !self.isNoticeStage world && !self.isStartStage world then (self, false)
  else if (self.members name).isSome then (self, false)
  else ({ self with members := Function.update self.members name (some member), dirty := true },
    true)

/-- `MatchBase:joinMatch`. -/
def joinMatchBase (world : World) (_pid id : ℕ) (self : Match) : Match × Bool :=
  self.joinAs world id .joined

/-- `PvpMatch:joinMatch`. -/
def joinPvpMatch (world : World) (pid id : ℕ) (self : Match) : Match × Bool :=
  self.joinAs world pid (.as id)

def joinMatch (world : World) (pid id : ℕ) (self : Match) : Match × Bool :=
  match self.belong with
  | .starmap => self.joinMatchBase world pid id
  | .pvp => self.joinPvpMatch world pid id

end Match

/-- The table `matchs`, in the order of `pairs`. -/
abbrev MatchMgr := Keyed Match.cfgId

namespace MatchMgr

def getMatchCfgId (world : World) (belong : Belong) (matchType : MatchType) (mgr : MatchMgr) :
    List ℕ :=
  (mgr.objects.filter fun self => (self.getMatchCfg world).any fun matchCfg =>
    matchCfg.belong = belong && matchCfg.matchType = matchType).map (·.cfgId)

/-- `getCurrentMatchInfo`, of which only the id is used: the last match of the table counts.  A
match without a row is an error. -/
def getCurrentMatchInfo (world : World) (belong : Belong) (matchType : MatchType)
    (mgr : MatchMgr) : Option (Option ℕ) :=
  if mgr.objects.all fun self => (self.getMatchCfg world).isSome then
    some ((mgr.objects.filter fun self => (self.getMatchCfg world).any fun matchCfg =>
      matchCfg.belong = belong && matchCfg.matchType = matchType && self.isValid world).getLast?.map
        (·.cfgId))
  else none

/-- `ret = ret or match:joinMatch(pid, id)`. -/
def joinNext (world : World) (pid id : ℕ) (state : MatchMgr × Bool) (cfgId : ℕ) :
    MatchMgr × Bool :=
  if state.2 then state
  else
    match state.1.get cfgId with
    | none => state
    | some self =>
        let joined := self.joinMatch world pid id
        (state.1.put joined.1, joined.2)

/-- `MatchMgr:joinMatch`; the answer is `none` after an error. -/
def joinMatch (world : World) (belong : Belong) (pid id : ℕ) (mgr : MatchMgr) :
    MatchMgr × Option Bool :=
  match mgr.getCurrentMatchInfo world belong .season with
  | none => (mgr, none)
  | some matchInfo =>
      let season := matchInfo.toList.foldl (joinNext world pid id) (mgr, false)
      let week := (season.1.getMatchCfgId world belong .week).foldl (joinNext world pid id) season
      let month := (week.1.getMatchCfgId world belong .month).foldl (joinNext world pid id) week
      (month.1, some month.2)

end MatchMgr

namespace Match

/-- The name in `members` of whoever joins. -/
def memberId (pid id : ℕ) (self : Match) : ℕ :=
  match self.belong with
  | .starmap => id
  | .pvp => pid

def Has (pid id : ℕ) (self : Match) : Prop :=
  (self.members (self.memberId pid id)).isSome
  deriving Decidable

def IsOpen (world : World) (self : Match) : Prop :=
  self.isNoticeStage world ∨ self.isStartStage world
  deriving Decidable

/-- The match is one of those that the request is about, is open and has not been joined. -/
structure Joinable (world : World) (belong : Belong) (pid id : ℕ) (entry : Match) : Prop where
  listed : ∃ row ∈ entry.getMatchCfg world, row.belong = belong
  isOpen : entry.IsOpen world
  absent : ¬ entry.Has pid id

end Match

/-- Everything that is open has been joined afterwards, and the answer tells whether anything
has. -/
structure JoinsAll (world : World) (belong : Belong) (pid id : ℕ) (mgr : MatchMgr)
    (result : MatchMgr × Option Bool) : Prop where
  joins : ∀ self ∈ mgr.objects, self.Joinable world belong pid id →
    ∃ after ∈ result.1.get self.cfgId, after.Has pid id
  success : result.2 = some true ↔ ∃ self ∈ mgr.objects, ¬ self.Has pid id ∧
    ∃ after ∈ result.1.get self.cfgId, after.Has pid id

/-- At most one match can be joined.  A season match that can be is the current one, and every match
has a row. -/
structure OneOpen (world : World) (belong : Belong) (pid id : ℕ) (mgr : MatchMgr) : Prop where
  configured : ∀ self ∈ mgr.objects, self.Joinable world belong pid id →
    ∀ other ∈ mgr.objects, (other.getMatchCfg world).isSome
  single : ∀ first ∈ mgr.objects, ∀ second ∈ mgr.objects, first.Joinable world belong pid id →
    second.Joinable world belong pid id → first = second
  current : ∀ self ∈ mgr.objects, self.Joinable world belong pid id →
    ∀ row ∈ self.getMatchCfg world, row.matchType = .season →
      mgr.getCurrentMatchInfo world belong .season = some (some self.cfgId)

section Joining

variable {world : World} {belong : Belong} {pid id : ℕ} {mgr : MatchMgr} {self : Match}

namespace Match

theorem joinAs_joined {name : ℕ} {member : Member} (isOpen : self.IsOpen world)
    (absent : ¬ (self.members name).isSome) :
    self.joinAs world name member =
      ({ self with members := Function.update self.members name (some member), dirty := true },
        true) := by
  unfold joinAs
  rw [if_neg, if_neg absent]
  unfold IsOpen at isOpen
  simp only [Bool.and_eq_true, Bool.not_eq_true', ← Bool.not_eq_true, not_and, not_not]
  exact fun noNotice => isOpen.resolve_left noNotice

theorem joinAs_refused {name : ℕ} {member : Member}
    (refused : self.IsOpen world → (self.members name).isSome) :
    self.joinAs world name member = (self, false) := by
  unfold joinAs
  split
  next => rfl
  next isOpen =>
    refine if_pos (refused ?_)
    unfold IsOpen
    by_contra closed
    obtain ⟨noNotice, noStart⟩ := not_or.mp closed
    exact isOpen (by simp [noNotice, noStart])

theorem joinMatch_joined (isOpen : self.IsOpen world) (absent : ¬ self.Has pid id) :
    ∃ joined : Match, joined.cfgId = self.cfgId ∧ joined.Has pid id ∧
      self.joinMatch world pid id = (joined, true) := by
  unfold joinMatch
  unfold Has at absent
  split
  next isStarmap =>
    have name_eq : self.memberId pid id = id := by rw [memberId, isStarmap]
    rw [name_eq] at absent
    refine ⟨_, ?_, ?_, joinAs_joined isOpen absent⟩
    · rfl
    · simp [Has, memberId, isStarmap]
  next isPvp =>
    have name_eq : self.memberId pid id = pid := by rw [memberId, isPvp]
    rw [name_eq] at absent
    refine ⟨_, ?_, ?_, joinAs_joined isOpen absent⟩
    · rfl
    · simp [Has, memberId, isPvp]

theorem joinMatch_refused (refused : self.IsOpen world → self.Has pid id) :
    self.joinMatch world pid id = (self, false) := by
  unfold joinMatch
  unfold Has memberId at refused
  split
  next isStarmap =>
    rw [isStarmap] at refused
    exact joinAs_refused refused
  next isPvp =>
    rw [isPvp] at refused
    exact joinAs_refused refused

end Match

namespace MatchMgr

/-- A visit of this match joins it. -/
def Takes (world : World) (pid id : ℕ) (mgr : MatchMgr) (cfgId : ℕ) : Prop :=
  ∃ self ∈ mgr.get cfgId, self.IsOpen world ∧ ¬ self.Has pid id

instance (world : World) (pid id : ℕ) (mgr : MatchMgr) :
    DecidablePred (mgr.Takes world pid id) := fun cfgId => by
  unfold Takes
  infer_instance

variable {cfgId : ℕ} {matchInfo : Option ℕ}

theorem joinNext_refused (refused : ¬ mgr.Takes world pid id cfgId) :
    joinNext world pid id (mgr, false) cfgId = (mgr, false) := by
  unfold joinNext
  rw [if_neg Bool.false_ne_true]
  split
  next => rfl
  next self found =>
    have same : self.joinMatch world pid id = (self, false) :=
      self.joinMatch_refused fun isOpen =>
        not_not.mp fun absent => refused ⟨self, found, isOpen, absent⟩
    dsimp only at found ⊢
    obtain ⟨-, cfgId_eq⟩ := Keyed.get_mem found
    rw [same, Keyed.put_self (by rw [cfgId_eq]; exact found)]

theorem joinNext_taken (found : mgr.get cfgId = some self) (isOpen : self.IsOpen world)
    (absent : ¬ self.Has pid id) :
    ∃ joined : Match, joined.cfgId = self.cfgId ∧ joined.Has pid id ∧
      joinNext world pid id (mgr, false) cfgId = (mgr.put joined, true) := by
  obtain ⟨joined, cfgId_eq, has, joined_eq⟩ := self.joinMatch_joined isOpen absent
  refine ⟨joined, cfgId_eq, has, ?_⟩
  unfold joinNext
  rw [if_neg Bool.false_ne_true]
  dsimp only
  rw [found]
  dsimp only
  rw [joined_eq]

theorem foldl_joined {state : MatchMgr × Bool} (joined : state.2 = true) (ids : List ℕ) :
    ids.foldl (joinNext world pid id) state = state := by
  induction ids with
  | nil => rfl
  | cons cfgId ids ih => rw [List.foldl_cons, joinNext, if_pos joined, ih]

theorem foldl_joinNext (ids : List ℕ) :
    ids.foldl (joinNext world pid id) (mgr, false) =
      match ids.find? (mgr.Takes world pid id) with
      | none => (mgr, false)
      | some cfgId => joinNext world pid id (mgr, false) cfgId := by
  induction ids with
  | nil => rfl
  | cons cfgId ids ih =>
      rw [List.foldl_cons, List.find?_cons]
      by_cases takes : mgr.Takes world pid id cfgId
      · rw [decide_eq_true takes]
        obtain ⟨self, found, isOpen, absent⟩ := takes
        obtain ⟨joined, -, -, joined_eq⟩ := joinNext_taken found isOpen absent
        dsimp only
        rw [joined_eq]
        exact foldl_joined rfl ids
      · rw [joinNext_refused takes, ih, decide_eq_false takes]

theorem foldl_fresh (world : World) (pid id : ℕ) (mgr : MatchMgr) (ids : List ℕ) :
    ids.foldl (joinNext world pid id) (mgr, false) = (mgr, false) ∨
      (ids.foldl (joinNext world pid id) (mgr, false)).2 = true := by
  rw [foldl_joinNext]
  split
  next => exact .inl rfl
  next cfgId first =>
    have takes : mgr.Takes world pid id cfgId := by simpa using List.find?_some first
    obtain ⟨self, found, isOpen, absent⟩ := takes
    obtain ⟨joined, -, -, joined_eq⟩ := joinNext_taken found isOpen absent
    rw [joined_eq]
    exact .inr rfl

def visited (world : World) (belong : Belong) (matchInfo : Option ℕ) (mgr : MatchMgr) : List ℕ :=
  matchInfo.toList ++ mgr.getMatchCfgId world belong .week ++
    mgr.getMatchCfgId world belong .month

theorem joinMatch_eq (info : mgr.getCurrentMatchInfo world belong .season = some matchInfo) :
    mgr.joinMatch world belong pid id =
      match (mgr.visited world belong matchInfo).find? (mgr.Takes world pid id) with
      | none => (mgr, some false)
      | some cfgId =>
          ((joinNext world pid id (mgr, false) cfgId).1,
            some (joinNext world pid id (mgr, false) cfgId).2) := by
  have same_ids : ∀ (first : List ℕ) (ids : MatchMgr → List ℕ),
      (ids (first.foldl (joinNext world pid id) (mgr, false)).1).foldl (joinNext world pid id)
          (first.foldl (joinNext world pid id) (mgr, false)) =
        (first ++ ids mgr).foldl (joinNext world pid id) (mgr, false) := by
    intro first ids
    rw [List.foldl_append]
    obtain nothing | joined := foldl_fresh world pid id mgr first
    · rw [nothing]
    · rw [foldl_joined joined, foldl_joined joined]
  unfold joinMatch
  rw [info]
  dsimp only
  rw [same_ids _ (getMatchCfgId world belong .week), same_ids _ (getMatchCfgId world belong .month),
    ← visited, foldl_joinNext]
  split <;> rfl

theorem mem_getMatchCfgId {matchType : MatchType} :
    cfgId ∈ mgr.getMatchCfgId world belong matchType ↔ ∃ self ∈ mgr.objects,
      (∃ row ∈ self.getMatchCfg world, row.belong = belong ∧ row.matchType = matchType) ∧
        self.cfgId = cfgId := by
  simp only [getMatchCfgId, List.mem_map, List.mem_filter, Option.any_eq_true, Bool.and_eq_true,
    decide_eq_true_eq, and_assoc, Option.mem_def]

theorem getCurrentMatchInfo_mem {matchType : MatchType}
    (info : mgr.getCurrentMatchInfo world belong matchType = some (some cfgId)) :
    ∃ self ∈ mgr.objects,
      (∃ row ∈ self.getMatchCfg world, row.belong = belong ∧ row.matchType = matchType) ∧
        self.cfgId = cfgId := by
  unfold getCurrentMatchInfo at info
  split at info
  · obtain ⟨self, last, cfgId_eq⟩ := Option.map_eq_some_iff.mp (Option.some.inj info)
    obtain ⟨self_mem, current⟩ := List.mem_filter.mp (List.mem_of_getLast? last)
    simp only [Option.any_eq_true, Bool.and_eq_true, decide_eq_true_eq] at current
    obtain ⟨row, found, kind, -⟩ := current
    exact ⟨self, self_mem, ⟨row, found, kind⟩, cfgId_eq⟩
  · contradiction

theorem listed_of_visited (info : mgr.getCurrentMatchInfo world belong .season = some matchInfo)
    (cfgId_mem : cfgId ∈ mgr.visited world belong matchInfo) (found : mgr.get cfgId = some self) :
    ∃ row ∈ self.getMatchCfg world, row.belong = belong ∧
      (row.matchType = .season → matchInfo = some cfgId) := by
  obtain ⟨self_mem, self_id⟩ := Keyed.get_mem found
  have same : ∀ other ∈ mgr.objects, other.cfgId = cfgId → other = self :=
    fun other other_mem id_eq =>
      Keyed.eq_of_key_eq other_mem self_mem (id_eq.trans self_id.symm)
  simp only [visited, List.mem_append, Option.mem_toList] at cfgId_mem
  obtain (isCurrent | isWeek) | isMonth := cfgId_mem
  · subst isCurrent
    obtain ⟨other, other_mem, ⟨row, row_found, kind, -⟩, id_eq⟩ := getCurrentMatchInfo_mem info
    obtain rfl := same other other_mem id_eq
    exact ⟨row, row_found, kind, fun _ => rfl⟩
  · obtain ⟨other, other_mem, ⟨row, row_found, kind, week⟩, id_eq⟩ := mem_getMatchCfgId.mp isWeek
    obtain rfl := same other other_mem id_eq
    exact ⟨row, row_found, kind, fun season => by rw [week] at season; cases season⟩
  · obtain ⟨other, other_mem, ⟨row, row_found, kind, month⟩, id_eq⟩ :=
      mem_getMatchCfgId.mp isMonth
    obtain rfl := same other other_mem id_eq
    exact ⟨row, row_found, kind, fun season => by rw [month] at season; cases season⟩

theorem visited_of_listed (self_mem : self ∈ mgr.objects) {row : Row}
    (found : self.getMatchCfg world = some row) (kind : row.belong = belong)
    (current : row.matchType = .season → matchInfo = some self.cfgId) :
    self.cfgId ∈ mgr.visited world belong matchInfo := by
  have listed : self.cfgId ∈ mgr.getMatchCfgId world belong row.matchType :=
    mem_getMatchCfgId.mpr ⟨self, self_mem, ⟨row, found, kind, rfl⟩, rfl⟩
  simp only [visited, List.mem_append, Option.mem_toList]
  cases type_eq : row.matchType with
  | week => exact .inl (.inr (type_eq ▸ listed))
  | month => exact .inr (type_eq ▸ listed)
  | season => exact .inl (.inl (current type_eq))

/-- A request that joins nothing is right when there is nothing to join. -/
theorem joinsAll_unchanged_iff {answer : Option Bool} (failed : answer ≠ some true) :
    JoinsAll world belong pid id mgr (mgr, answer) ↔
      ∀ self ∈ mgr.objects, ¬ self.Joinable world belong pid id := by
  constructor
  · intro all self self_mem joinable
    obtain ⟨after, found, has⟩ := all.joins self self_mem joinable
    rw [Option.mem_def, Keyed.get_of_mem self_mem, Option.some.injEq] at found
    subst found
    exact joinable.absent has
  · intro nothing
    refine ⟨fun self self_mem joinable => absurd joinable (nothing self self_mem), ?_⟩
    refine iff_of_false failed ?_
    rintro ⟨self, self_mem, absent, after, found, has⟩
    rw [Option.mem_def, Keyed.get_of_mem self_mem, Option.some.injEq] at found
    subst found
    exact absent has

theorem oneOpen_of_nothing (nothing : ∀ self ∈ mgr.objects, ¬ self.Joinable world belong pid id) :
    OneOpen world belong pid id mgr where
  configured self self_mem joinable := absurd joinable (nothing self self_mem)
  single first first_mem _ _ joinable := absurd joinable (nothing first first_mem)
  current self self_mem joinable := absurd joinable (nothing self self_mem)

theorem takes_of_joinable (one : OneOpen world belong pid id mgr)
    (info : mgr.getCurrentMatchInfo world belong .season = some matchInfo)
    (self_mem : self ∈ mgr.objects) (joinable : self.Joinable world belong pid id) :
    self.cfgId ∈ mgr.visited world belong matchInfo ∧ mgr.Takes world pid id self.cfgId := by
  obtain ⟨row, found, kind⟩ := joinable.listed
  refine ⟨visited_of_listed self_mem found kind fun season => ?_,
    self, Keyed.get_of_mem self_mem, joinable.isOpen, joinable.absent⟩
  have current := one.current self self_mem joinable row found season
  exact Option.some.inj (info.symm.trans current)

/-- A request that joins a match is right when there is no other one to join. -/
theorem joinsAll_joined_iff {joined : Match} (self_mem : self ∈ mgr.objects)
    (joinable : self.Joinable world belong pid id) (cfgId_eq : joined.cfgId = self.cfgId)
    (has : joined.Has pid id) :
    JoinsAll world belong pid id mgr (mgr.put joined, some true) ↔
      ∀ other ∈ mgr.objects, other.Joinable world belong pid id → other = self := by
  have get_joined : (mgr.put joined).get self.cfgId = some joined := by
    rw [← cfgId_eq]
    exact Keyed.get_put_self (cfgId_eq ▸ Keyed.get_of_mem self_mem)
  constructor
  · intro all other other_mem other_joinable
    by_contra different
    obtain ⟨after, found, after_has⟩ := all.joins other other_mem other_joinable
    have other_id : other.cfgId ≠ joined.cfgId := fun same =>
      different (Keyed.eq_of_key_eq other_mem self_mem (same.trans cfgId_eq))
    rw [Option.mem_def, Keyed.get_put_of_ne other_id, Keyed.get_of_mem other_mem,
      Option.some.injEq] at found
    subst found
    exact other_joinable.absent after_has
  · intro only
    refine ⟨fun other other_mem other_joinable => ?_, iff_of_true rfl ?_⟩
    · rw [only other other_mem other_joinable]
      exact ⟨joined, get_joined, has⟩
    · exact ⟨self, self_mem, joinable.absent, joined, get_joined, has⟩

end MatchMgr

/-- Everything that is open is joined exactly when at most one match is. -/
theorem joinsAll_iff (world : World) (belong : Belong) (pid id : ℕ) (mgr : MatchMgr) :
    JoinsAll world belong pid id mgr (mgr.joinMatch world belong pid id) ↔
      OneOpen world belong pid id mgr := by
  cases info : mgr.getCurrentMatchInfo world belong .season with
  | none =>
      -- A match without a row stops the request before the first join.
      rw [MatchMgr.joinMatch, info]
      dsimp only
      rw [MatchMgr.joinsAll_unchanged_iff (by simp)]
      refine ⟨MatchMgr.oneOpen_of_nothing, fun one self self_mem joinable => ?_⟩
      have configured := one.configured self self_mem joinable
      rw [MatchMgr.getCurrentMatchInfo, if_pos (List.all_eq_true.mpr configured)] at info
      contradiction
  | some matchInfo =>
      have configured : ∀ other ∈ mgr.objects, (other.getMatchCfg world).isSome := by
        unfold MatchMgr.getCurrentMatchInfo at info
        split at info
        next all => exact List.all_eq_true.mp all
        next => contradiction
      rw [MatchMgr.joinMatch_eq info]
      split
      next none_takes =>
        rw [MatchMgr.joinsAll_unchanged_iff (by simp)]
        refine ⟨MatchMgr.oneOpen_of_nothing, fun one self self_mem joinable => ?_⟩
        obtain ⟨is_visited, takes⟩ := MatchMgr.takes_of_joinable one info self_mem joinable
        simpa [takes] using List.find?_eq_none.mp none_takes self.cfgId is_visited
      next cfgId first =>
        have takes : mgr.Takes world pid id cfgId := by simpa using List.find?_some first
        obtain ⟨self, found, isOpen, absent⟩ := takes
        obtain ⟨row, row_found, kind, current⟩ :=
          MatchMgr.listed_of_visited info (List.mem_of_find?_eq_some first) found
        obtain ⟨self_mem, self_id⟩ := Keyed.get_mem found
        have joinable : self.Joinable world belong pid id :=
          ⟨⟨row, row_found, kind⟩, isOpen, absent⟩
        obtain ⟨joined, cfgId_eq, has, joined_eq⟩ :=
          MatchMgr.joinNext_taken found isOpen absent
        rw [joined_eq]
        dsimp only
        rw [MatchMgr.joinsAll_joined_iff self_mem joinable cfgId_eq has]
        constructor
        · intro only
          refine ⟨fun _ _ _ => configured, ?_, ?_⟩
          · intro one one_mem other other_mem one_joinable other_joinable
            rw [only one one_mem one_joinable, only other other_mem other_joinable]
          · rintro other other_mem other_joinable otherRow other_found season
            obtain rfl := only other other_mem other_joinable
            obtain rfl := Option.some.inj (row_found.symm.trans other_found)
            rw [info, current season, self_id]
        · intro one other other_mem other_joinable
          exact one.single other other_mem self self_mem other_joinable joinable

end Joining

def sampleMatch (cfgId : ℕ) : Match := ⟨cfgId, .starmap, fun _ => none, false⟩

def sampleMgr : MatchMgr := ⟨[sampleMatch 1, sampleMatch 2], by decide⟩

def sampleRow (cfgId : ℕ) (matchType : MatchType) (noticeTime : ℕ) : Row :=
  ⟨cfgId, .starmap, matchType, 1, noticeTime, 200, 300, 400⟩

def busyWorld : World := ⟨[sampleRow 1 .week 0, sampleRow 2 .month 0], 100⟩

theorem not_joinsAll_busyWorld :
    ¬ ∀ world belong pid id mgr,
      JoinsAll world belong pid id mgr (mgr.joinMatch world belong pid id) := by
  intro all
  have joined := (all busyWorld .starmap 1 9 sampleMgr).joins (sampleMatch 2) (by simp [sampleMgr])
    ⟨⟨sampleRow 2 .month 0, rfl, rfl⟩, by decide, by decide⟩
  exact absurd joined (by decide)

end BasWar.Matches.Joining
