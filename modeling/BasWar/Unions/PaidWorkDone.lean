import BasWar.Tables.Journal
import BasWar.Unions.PaidWork
import Mathlib.Tactic.Linarith

/-!
# Paid work is done once, and in time

As long as no list, and no order of a tech, is asked for between the end of a timer and the check
of the next second, everything that was paid for is done once, at the first check after its timer
has run out.  A list that comes first stops the timer, and nobody starts it again.
-/

namespace BasWar.Unions.PaidWork

open Tables
open Upgrades (Timestamp)

namespace Entry

def work : Entry → Option Work
  | .paid work _ => some work
  | .timed work _ => some work
  | .applied work _ _ => some work
  | .checked _ => none

def paidFor (work : Work) : Entry → ℤ
  | .paid other count => if other = work then count else 0
  | _ => 0

def applies (work : Work) : Entry → Bool
  | .applied other _ _ => other = work
  | _ => false

def setsTimer (work : Work) (due : ℤ) : Entry → Bool
  | .timed other tick => other = work ∧ tick = due
  | _ => false

def usesTimer (work : Work) (due : ℤ) : Entry → Bool
  | .applied other tick _ => other = work ∧ tick = due
  | _ => false

end Entry

namespace Union

def due (union : Union) : Work → ℤ
  | .tech cfgId => ((union.techs.get cfgId).map UnionTech.levelUpTick).getD 0
  | .build cfgId => ((union.builds.get cfgId).map UnionBuild.genTick).getD 0

def pending (union : Union) : Work → ℤ
  | .tech cfgId => if union.due (.tech cfgId) = 0 then 0 else 1
  | .build cfgId => ((union.builds.get cfgId).map UnionBuild.genCount).getD 0

end Union

/-- Everything that was paid for is done once and in time. -/
structure Finished (journal : List Entry) (union : Union) : Prop where
  /-- What was paid for was done or is still to be done. -/
  settled : ∀ work, (journal.map (Entry.paidFor work)).sum =
    journal.countP (Entry.applies work) + union.pending work
  /-- Each time something is done, a timer of its own was set for it; the timer of what is still to
  be done is not used up. -/
  timers : ∀ work due, journal.countP (Entry.usesTimer work due) +
    (if union.pending work ≠ 0 ∧ union.due work = due then 1 else 0) ≤
      journal.countP (Entry.setsTimer work due)
  /-- Nothing is done before its timer has run out. -/
  punctual : ∀ work due now, Entry.applied work due now ∈ journal → due ≤ now
  /-- A timer runs for whatever is still to be done. -/
  running : ∀ work, union.pending work ≠ 0 → 0 < union.pending work ∧ 0 < union.due work
  /-- A check leaves nothing whose timer has run out. -/
  prompt : ∀ before now, journal = before ++ [.checked now] →
    ∀ work, union.pending work ≠ 0 → now < union.due work

/-- The timer of a tech does not stand still after its end. -/
def UnionTech.Unexpired (now : Timestamp) (tech : UnionTech) : Prop :=
  tech.levelUpTick = 0 ∨ now.val ≤ tech.levelUpTick

/-- The timer of a batch does not stand still after its end. -/
def UnionBuild.Unexpired (now : Timestamp) (build : UnionBuild) : Prop :=
  build.genCount = 0 ∨ build.genTick = 0 ∨ now.val ≤ build.genTick
  deriving Decidable

/-- No timer that has run out is asked for, no tech is ordered again while it is raised, and no
negative number of builds is ordered. -/
def Event.Clear (config : Config) (union : Union) : Event → Prop
  | .levelUpTech now cfgId authorized =>
      ∀ tech ∈ union.techs.objects, tech.cfgId = cfgId →
        authorized = true → (config.tech cfgId (tech.level + 1)).isSome →
          (∀ other ∈ union.techs.objects, other.Unexpired now) ∧
            (tech.levelUpTick = 0 ∨ union.queueFree config now tech = false)
  | .genDefenseBuild _ _ defenseCount _ => 0 ≤ defenseCount
  | .packUnionTechs now => ∀ tech ∈ union.techs.objects, tech.Unexpired now
  | .packUnionBuilds now => ∀ build ∈ union.builds.objects, build.Unexpired now
  | _ => True

instance (now : Timestamp) (tech : UnionTech) : Decidable (tech.Unexpired now) :=
  inferInstanceAs (Decidable (_ ∨ _))

instance (config : Config) (union : Union) (event : Event) :
    Decidable (event.Clear config union) := by
  cases event <;> unfold Event.Clear <;> dsimp only <;> infer_instance

/-- The same is to be done for a tech or a build, with the same timer. -/
def Agree (before after : Union) (work : Work) : Prop :=
  after.pending work = before.pending work ∧
    (before.pending work ≠ 0 → after.due work = before.due work)

namespace Agree

variable {first second third : Union} {work : Work}

theorem refl (union : Union) (work : Work) : Agree union union work :=
  ⟨rfl, fun _ => rfl⟩

theorem trans (earlier : Agree first second work) (later : Agree second third work) :
    Agree first third work := by
  refine ⟨later.1.trans earlier.1, fun busy => ?_⟩
  rw [later.2 (earlier.1 ▸ busy), earlier.2 busy]

theorem of_eq (pending_eq : second.pending work = first.pending work)
    (due_eq : second.due work = first.due work) : Agree first second work :=
  ⟨pending_eq, fun _ => due_eq⟩

end Agree

section Views

variable {union : Union}

variable {cfgId : ℕ}

theorem due_tech {tech : UnionTech} (found : union.techs.get cfgId = some tech) :
    union.due (.tech cfgId) = tech.levelUpTick := by
  simp [Union.due, found]

theorem due_build {build : UnionBuild} (found : union.builds.get cfgId = some build) :
    union.due (.build cfgId) = build.genTick := by
  simp [Union.due, found]

theorem pending_build {build : UnionBuild} (found : union.builds.get cfgId = some build) :
    union.pending (.build cfgId) = build.genCount := by
  simp [Union.pending, found]

theorem agree_tech {before after : Union}
    (due_eq : after.due (.tech cfgId) = before.due (.tech cfgId)) :
    Agree before after (.tech cfgId) :=
  .of_eq (by simp only [Union.pending, due_eq]) due_eq

theorem agree_unlockTech (union : Union) (row : ℕ × List (ℕ × ℕ)) (work : Work) :
    Agree union (union.unlockTech row) work := by
  unfold Union.unlockTech
  split
  · cases work with
    | tech cfgId =>
        refine agree_tech ?_
        simp only [Union.due, Keyed.get_add]
        cases union.techs.get cfgId with
        | none => split <;> rfl
        | some tech => rfl
    | build cfgId => exact .of_eq rfl rfl
  · exact .refl union work

theorem agree_applyDefenseLevel (union : Union) (effect : ℕ × ℕ) (work : Work) :
    Agree union (union.applyDefenseLevel effect) work := by
  unfold Union.applyDefenseLevel
  cases work with
  | tech cfgId => split <;> exact .of_eq rfl rfl
  | build cfgId =>
      split
      · refine .of_eq ?_ ?_
        · simp only [Union.pending, Keyed.get_add]
          cases union.builds.get cfgId with
          | none => split <;> rfl
          | some build => rfl
        · simp only [Union.due, Keyed.get_add]
          cases union.builds.get cfgId with
          | none => split <;> rfl
          | some build => rfl
      · refine .of_eq ?_ ?_
        · simp only [Union.pending, Keyed.get_map]
          cases union.builds.get cfgId with
          | none => rfl
          | some build =>
              simp only [Option.map_some, Option.getD_some]
              split <;> rfl
        · simp only [Union.due, Keyed.get_map]
          cases union.builds.get cfgId with
          | none => rfl
          | some build =>
              simp only [Option.map_some, Option.getD_some]
              split <;> rfl

theorem agree_foldl {Row : Type} {change : Union → Row → Union} {work : Work}
    (agrees : ∀ union row, Agree union (change union row) work) (rows : List Row)
    (union : Union) : Agree union (rows.foldl change union) work := by
  induction rows generalizing union with
  | nil => exact .refl union work
  | cons row rows ih => exact (agrees union row).trans (ih _)

theorem agree_onUnionTechLevelUp (config : Config) (union : Union) (work : Work) :
    Agree union (union.onUnionTechLevelUp config) work :=
  (agree_foldl (fun union row => agree_unlockTech union row work) config.unlocks union).trans
    (agree_foldl (fun union effect => agree_applyDefenseLevel union effect work) _ _)

theorem agree_putTech (union : Union) (tech : UnionTech) {work : Work}
    (other : work ≠ .tech tech.cfgId) :
    Agree union { union with techs := union.techs.put tech } work := by
  cases work with
  | tech cfgId =>
      have different : cfgId ≠ tech.cfgId := fun same => other (congrArg Work.tech same)
      exact agree_tech (by simp [Union.due, Keyed.get_put_of_ne different])
  | build cfgId => exact .of_eq rfl rfl

theorem agree_putBuild (union : Union) (build : UnionBuild) {work : Work}
    (other : work ≠ .build build.cfgId) :
    Agree union { union with builds := union.builds.put build } work := by
  cases work with
  | tech cfgId => exact .of_eq rfl rfl
  | build cfgId =>
      have different : cfgId ≠ build.cfgId := fun same => other (congrArg Work.build same)
      exact .of_eq (by simp [Union.pending, Keyed.get_put_of_ne different])
        (by simp [Union.due, Keyed.get_put_of_ne different])

theorem agree_packUnionTechs {now : Timestamp}
    (unexpired : ∀ tech ∈ union.techs.objects, tech.Unexpired now) (work : Work) :
    Agree union (union.packUnionTechs now) work := by
  cases work with
  | tech cfgId =>
      refine agree_tech ?_
      simp only [Union.due, Union.packUnionTechs, Keyed.get_map]
      cases found : union.techs.get cfgId with
      | none => rfl
      | some tech =>
          have running := unexpired tech (Keyed.get_mem found).1
          simp only [Option.map_some, Option.getD_some, UnionTech.getLessTick]
          split
          next stopped =>
            rcases stopped with is_zero | expired
            · exact is_zero.symm
            · rcases running with is_zero | later
              · exact is_zero.symm
              · omega
          · rfl
  | build cfgId => exact .of_eq rfl rfl

theorem agree_packUnionBuilds {now : Timestamp}
    (unexpired : ∀ build ∈ union.builds.objects, build.Unexpired now) (work : Work) :
    Agree union (union.packUnionBuilds now) work := by
  cases work with
  | tech cfgId => exact .of_eq rfl rfl
  | build cfgId =>
      cases found : union.builds.get cfgId with
      | none =>
          exact .of_eq (by simp [Union.pending, Union.packUnionBuilds, Keyed.get_map, found])
            (by simp [Union.due, Union.packUnionBuilds, Keyed.get_map, found])
      | some build =>
          have running := unexpired build (Keyed.get_mem found).1
          have after : (union.packUnionBuilds now).builds.get cfgId =
              some (build.getLessTick now).1 := by
            simp [Union.packUnionBuilds, Keyed.get_map, found]
          refine ⟨?_, fun busy => ?_⟩
          · rw [pending_build after, pending_build found]
            unfold UnionBuild.getLessTick
            split <;> rfl
          · rw [pending_build found] at busy
            rw [due_build after, due_build found]
            unfold UnionBuild.getLessTick
            split
            next stopped =>
              rcases stopped with is_zero | expired
              · exact is_zero.symm
              · rcases running with none_left | is_zero | later
                · exact absurd none_left busy
                · exact is_zero.symm
                · omega
            · rfl

end Views

/-- What the journal says of one tech or build, of which so much is still to be done. -/
structure Local (work : Work) (journal : List Entry) (pending due : ℤ) : Prop where
  settled : (journal.map (Entry.paidFor work)).sum =
    journal.countP (Entry.applies work) + pending
  timers : ∀ tick, journal.countP (Entry.usesTimer work tick) +
    (if pending ≠ 0 ∧ due = tick then 1 else 0) ≤ journal.countP (Entry.setsTimer work tick)
  running : pending ≠ 0 → 0 < pending ∧ 0 < due

namespace Local

variable {work : Work} {journal entries : List Entry} {pending due : ℤ}

theorem congr {other : ℤ} (here : Local work journal pending due)
    (same : pending ≠ 0 → other = due) : Local work journal pending other := by
  by_cases busy : pending = 0
  · subst busy
    exact ⟨here.settled, by simpa using here.timers, by simp⟩
  · rwa [same busy]

theorem skip (here : Local work journal pending due)
    (elsewhere : ∀ entry ∈ entries, entry.work ≠ some work) :
    Local work (journal ++ entries) pending due := by
  have paid_zero : (entries.map (Entry.paidFor work)).sum = 0 := by
    refine List.sum_eq_zero fun amount amount_mem => ?_
    obtain ⟨entry, entry_mem, rfl⟩ := List.mem_map.mp amount_mem
    have other := elsewhere entry entry_mem
    cases entry <;> simp_all [Entry.paidFor, Entry.work]
  have none_of {counted : Entry → Bool}
      (about : ∀ entry, counted entry = true → entry.work = some work) :
      entries.countP counted = 0 :=
    List.countP_eq_zero.mpr fun entry entry_mem is_counted =>
      elsewhere entry entry_mem (about entry is_counted)
  have applies_zero : entries.countP (Entry.applies work) = 0 :=
    none_of fun entry => by cases entry <;> simp +contextual [Entry.applies, Entry.work]
  have uses_zero (tick : ℤ) : entries.countP (Entry.usesTimer work tick) = 0 :=
    none_of fun entry => by cases entry <;> simp +contextual [Entry.usesTimer, Entry.work]
  refine ⟨?_, fun tick => ?_, here.running⟩
  · rw [List.map_append, List.sum_append, paid_zero, List.countP_append, applies_zero]
    simpa using here.settled
  · rw [List.countP_append, uses_zero, List.countP_append]
    have timers := here.timers tick
    omega

theorem start (here : Local work journal 0 due) {count tick : ℤ} (count_nonneg : 0 ≤ count)
    (tick_pos : 0 < tick) :
    Local work (journal ++ [.paid work count, .timed work tick]) count tick where
  settled := by simpa [Entry.paidFor, Entry.applies] using here.settled
  timers other := by
    have timers := here.timers other
    by_cases same : tick = other
    · simp only [ne_eq, not_true_eq_false, false_and, if_false] at timers
      simp only [List.countP_append, List.countP_cons, List.countP_nil, Entry.usesTimer,
        Entry.setsTimer, same]
      simp
      split <;> omega
    · simpa [Entry.usesTimer, Entry.setsTimer, same] using timers
  running busy := ⟨lt_of_le_of_ne count_nonneg (Ne.symm busy), tick_pos⟩

theorem extend (here : Local work journal pending due) (busy : pending ≠ 0) {count : ℤ}
    (count_nonneg : 0 ≤ count) :
    Local work (journal ++ [.paid work count]) (pending + count) due := by
  have running := here.running busy
  refine ⟨?_, fun tick => ?_, fun _ => ⟨by omega, running.2⟩⟩
  · have settled := here.settled
    simp only [List.map_append, List.sum_append, List.countP_append, settled]
    simp [Entry.paidFor, Entry.applies, add_assoc]
  · have timers := here.timers tick
    have still_busy : pending + count ≠ 0 := by omega
    simpa [Entry.usesTimer, Entry.setsTimer, busy, still_busy] using timers

theorem last (here : Local work journal 1 due) (now tick : ℤ) :
    Local work (journal ++ [.applied work due now]) 0 tick where
  settled := by
    have settled := here.settled
    simp only [List.map_append, List.sum_append, List.countP_append, settled]
    simp [Entry.paidFor, Entry.applies]
  timers other := by
    have timers := here.timers other
    simp only [List.countP_append, List.countP_cons, List.countP_nil, Entry.usesTimer,
      Entry.setsTimer] at timers ⊢
    by_cases same : due = other <;> simp [same] at timers ⊢ <;> omega
  running := by simp

theorem next (here : Local work journal pending due) (more : 1 < pending) (now : ℤ) {tick : ℤ}
    (tick_pos : 0 < tick) :
    Local work (journal ++ [.applied work due now, .timed work tick]) (pending - 1) tick where
  settled := by
    have settled := here.settled
    simp only [List.map_append, List.sum_append, List.countP_append, settled]
    simp [Entry.paidFor, Entry.applies]
  timers other := by
    have timers := here.timers other
    have busy : pending ≠ 0 := by omega
    simp only [List.countP_append, List.countP_cons, List.countP_nil, Entry.usesTimer,
      Entry.setsTimer, ne_eq, busy, not_false_eq_true, true_and] at timers ⊢
    by_cases used : due = other <;> by_cases set : tick = other <;>
      simp [used, set] at timers ⊢ <;> (try split) <;> omega
  running _ := ⟨by omega, tick_pos⟩

end Local

/-- The journal agrees with what is still to be done. -/
structure Sound (journal : List Entry) (union : Union) : Prop where
  everywhere : ∀ work, Local work journal (union.pending work) (union.due work)
  punctual : ∀ work due now, Entry.applied work due now ∈ journal → due ≤ now

namespace Sound

variable {journal entries : List Entry} {union after : Union}

theorem agree (sound : Sound journal union) (agrees : ∀ work, Agree union after work) :
    Sound journal after where
  everywhere work := by
    have here := (sound.everywhere work).congr (agrees work).2
    rwa [← (agrees work).1] at here
  punctual := sound.punctual

theorem change (sound : Sound journal union) (work : Work)
    (elsewhere : ∀ other, other ≠ work → Agree union after other)
    (about : ∀ entry ∈ entries, entry.work = some work)
    (here : Local work (journal ++ entries) (after.pending work) (after.due work))
    (punctual : ∀ work due now, Entry.applied work due now ∈ entries → due ≤ now) :
    Sound (journal ++ entries) after where
  everywhere other := by
    by_cases same : other = work
    · exact same ▸ here
    · have agrees := elsewhere other same
      have there := (sound.everywhere other).congr agrees.2
      rw [← agrees.1] at there
      refine there.skip fun entry entry_mem is_about => same ?_
      rw [about entry entry_mem] at is_about
      exact (Option.some.inj is_about).symm
  punctual other due now is_applied := by
    rcases List.mem_append.mp is_applied with old | new
    · exact sound.punctual other due now old
    · exact punctual other due now new

end Sound

/-- What an order leaves: a sound journal, and nothing new unless it says so. -/
structure Orders (journal : List Entry) (union : Union) (result : Union × List Entry) : Prop where
  sound : Sound (journal ++ result.2) result.1
  unchecked : ∀ now, Entry.checked now ∉ result.2
  silent : result.2 = [] → ∀ work, Agree union result.1 work

theorem Orders.nothing {journal : List Entry} {union after : Union} (sound : Sound journal union)
    (agrees : ∀ work, Agree union after work) : Orders journal union (after, []) where
  sound := by simpa using sound.agree agrees
  unchecked := by simp
  silent _ := agrees

namespace Sound

variable {journal : List Entry} {union : Union} {config : Config} {now : Timestamp}

theorem orderTech (sound : Sound journal union) {tech old : UnionTech}
    (found : union.techs.get tech.cfgId = some old) (at_rest : old.levelUpTick = 0) {due : ℤ}
    (due_pos : 0 < due) (treasury : Treasury.Union) :
    Sound (journal ++ [.paid (.tech tech.cfgId) 1, .timed (.tech tech.cfgId) due])
      { union with techs := union.techs.put { tech with levelUpTick := due }, treasury } := by
  have here := sound.everywhere (.tech tech.cfgId)
  have pending_before : union.pending (.tech tech.cfgId) = 0 := by
    simp [Union.pending, due_tech found, at_rest]
  rw [pending_before] at here
  refine sound.change (.tech tech.cfgId) (fun other different => ?_) (by simp [Entry.work]) ?_
    (by simp)
  · exact agree_putTech union { tech with levelUpTick := due } different
  · have after_found : (union.techs.put { tech with levelUpTick := due }).get tech.cfgId =
        some { tech with levelUpTick := due } := Keyed.get_put_self found
    have due_after : ({ union with
        techs := union.techs.put { tech with levelUpTick := due }, treasury } : Union).due
          (.tech tech.cfgId) = due := by
      simp [Union.due, after_found]
    simp only [Union.pending, due_after, if_neg due_pos.ne']
    exact here.start zero_le_one due_pos

theorem levelUpTech (sound : Sound journal union) (cfgId : ℕ) (authorized : Bool)
    (clear : (Event.levelUpTech now cfgId authorized).Clear config union) :
    Orders journal union (union.levelUpTech config now cfgId authorized) := by
  have unchanged := Orders.nothing sound (Agree.refl union)
  unfold Union.levelUpTech
  split_ifs with is_authorized
  · split
    · exact unchanged
    next tech found =>
      obtain ⟨tech_mem, rfl⟩ := Keyed.get_mem found
      split_ifs with top
      · exact unchanged
      · have next_level : (config.tech tech.cfgId (tech.level + 1)).isSome := by
          simpa [Option.isSome_iff_ne_none] using top
        obtain ⟨unexpired, at_rest⟩ := clear tech tech_mem rfl is_authorized next_level
        have counted_agrees := agree_packUnionTechs unexpired
        have counted_only := Orders.nothing sound counted_agrees
        dsimp only
        split
        · exact counted_only
        next cfg cfg_eq =>
          split
          next tested =>
            split
            · exact counted_only
            next treasury paid =>
              have tick_zero : tech.levelUpTick = 0 :=
                at_rest.resolve_right fun full => by simp [full] at tested
              have counted_found : (union.packUnionTechs now).techs.get tech.cfgId =
                  some (tech.getLessTick now).1 := by
                simp [Union.packUnionTechs, Keyed.get_map, found]
              have due_pos : 0 < now.val + (cfg.levelUpNeedTime : ℤ) * 1000 := by
                have now_pos := now.property
                omega
              refine ⟨(sound.agree counted_agrees).orderTech counted_found ?_ due_pos treasury,
                by simp, by simp⟩
              simp [UnionTech.getLessTick, tick_zero]
          · exact counted_only
  · exact unchanged

theorem changeBuild (sound : Sound journal union) (build : UnionBuild) {entries : List Entry}
    {old : UnionBuild} (found : union.builds.get build.cfgId = some old)
    (treasury : Treasury.Union) (about : ∀ entry ∈ entries, entry.work = some (.build build.cfgId))
    (here : Local (.build build.cfgId) (journal ++ entries) build.genCount build.genTick)
    (punctual : ∀ work due now, Entry.applied work due now ∈ entries → due ≤ now) :
    Sound (journal ++ entries) { union with builds := union.builds.put build, treasury } := by
  have after_found := Keyed.get_put_self found
  refine sound.change (.build build.cfgId) (fun other different => ?_) about ?_ punctual
  · exact agree_putBuild union build different
  · have pending_after : ({ union with
        builds := union.builds.put build, treasury } : Union).pending (.build build.cfgId) =
          build.genCount := pending_build after_found
    have due_after : ({ union with
        builds := union.builds.put build, treasury } : Union).due (.build build.cfgId) =
          build.genTick := due_build after_found
    rwa [pending_after, due_after]

theorem localBuild (sound : Sound journal union) {build : UnionBuild}
    (found : union.builds.get build.cfgId = some build) :
    Local (.build build.cfgId) journal build.genCount build.genTick := by
  have here := sound.everywhere (.build build.cfgId)
  rwa [pending_build found, due_build found] at here

theorem setGenTick_pos (config : Config) (now : Timestamp) (build : UnionBuild) :
    now.val < (build.setGenTick config now).genTick ∧
      0 < (build.setGenTick config now).genTick := by
  have need_pos := (config.build build.cfgId build.level).trainNeedTick.pos
  have now_pos := now.property
  simp only [UnionBuild.setGenTick]
  omega

theorem genDefenseBuild (sound : Sound journal union) (cfgId : ℕ) {defenseCount : ℤ}
    (nonneg : 0 ≤ defenseCount) (isMember : Bool) :
    Orders journal union (union.genDefenseBuild config now cfgId defenseCount isMember) := by
  have unchanged := Orders.nothing sound (Agree.refl union)
  unfold Union.genDefenseBuild
  split_ifs with is_member
  · split
    · exact unchanged
    next build found =>
      obtain ⟨_, rfl⟩ := Keyed.get_mem found
      dsimp only
      split_ifs with full at_rest
      · exact unchanged
      · split
        · exact unchanged
        next treasury paid =>
          have here := sound.localBuild found
          have added_eq : build.addGenBuilds config now defenseCount =
              { build.setGenTick config now with genCount := defenseCount } := by
            simp [UnionBuild.addGenBuilds, UnionBuild.setGenTick, at_rest]
          rw [at_rest] at here
          refine ⟨?_, by simp, by simp⟩
          rw [added_eq]
          exact sound.changeBuild { build.setGenTick config now with genCount := defenseCount }
            found treasury (by simp [Entry.work, UnionBuild.setGenTick])
            (here.start nonneg (setGenTick_pos config now build).2) (by simp)
      · split
        · exact unchanged
        next treasury paid =>
          have here := sound.localBuild found
          have added_eq : build.addGenBuilds config now defenseCount =
              { build with genCount := build.genCount + defenseCount } := by
            simp [UnionBuild.addGenBuilds, at_rest]
          refine ⟨?_, by simp, by simp⟩
          rw [added_eq]
          exact sound.changeBuild { build with genCount := build.genCount + defenseCount }
            found treasury (by simp [Entry.work]) (here.extend at_rest nonneg) (by simp)
  · exact unchanged

end Sound

/-- What the check of one tech or build leaves. -/
structure Checks (now : Timestamp) (journal : List Entry) (union : Union) (work : Work)
    (result : Union × List Entry) : Prop where
  sound : Sound (journal ++ result.2) result.1
  elsewhere : ∀ other, other ≠ work → Agree union result.1 other
  done : result.1.pending work ≠ 0 → now.val < result.1.due work

theorem Checks.nothing {now : Timestamp} {journal : List Entry} {union : Union} {work : Work}
    (sound : Sound journal union) (done : union.pending work ≠ 0 → now.val < union.due work) :
    Checks now journal union work (union, []) where
  sound := by simpa using sound
  elsewhere other _ := .refl union other
  done := done

namespace Sound

variable {journal : List Entry} {union : Union}

theorem checkBuild (sound : Sound journal union) (build : UnionBuild) (entries : List Entry)
    {old : UnionBuild} {now : Timestamp} (found : union.builds.get build.cfgId = some old)
    (about : ∀ entry ∈ entries, entry.work = some (.build build.cfgId))
    (here : Local (.build build.cfgId) (journal ++ entries) build.genCount build.genTick)
    (punctual : ∀ work due now, Entry.applied work due now ∈ entries → due ≤ now)
    (later : build.genCount ≠ 0 → now.val < build.genTick) :
    Checks now journal union (.build build.cfgId)
      ({ union with builds := union.builds.put build }, entries) where
  sound := sound.changeBuild build found union.treasury about here punctual
  elsewhere _ different := agree_putBuild union build different
  done busy := by
    have after_found := Keyed.get_put_self found
    simp only [Union.pending, Union.due, after_found, Option.map_some, Option.getD_some] at busy ⊢
    exact later busy

theorem finish_cases (config : Config) (now : Timestamp) (build : UnionBuild) :
    (1 < build.genCount ∧ ∃ tick, now.val < tick ∧
      build.finish config now = { build.make with genTick := tick }) ∨
    (build.genCount ≤ 1 ∧ build.finish config now = { build.make with genTick := 0 }) := by
  by_cases more : 1 < build.genCount
  · refine .inl ⟨more, _, (setGenTick_pos config now build.make).1, ?_⟩
    have left : 0 < build.make.genCount := sub_pos.mpr more
    rw [UnionBuild.finish, if_pos left]
    rfl
  · refine .inr ⟨not_lt.mp more, ?_⟩
    have none_left : ¬ 0 < build.make.genCount := fun left => more (sub_pos.mp left)
    rw [UnionBuild.finish, if_neg none_left]

theorem checkGenBuilds (sound : Sound journal union) (config : Config) (now : Timestamp)
    (cfgId : ℕ) :
    Checks now journal union (.build cfgId) (union.checkGenBuilds config now cfgId) := by
  unfold Union.checkGenBuilds
  split
  next absent => exact .nothing sound fun busy => by simp [Union.pending, absent] at busy
  next build found =>
    obtain ⟨_, rfl⟩ := Keyed.get_mem found
    have here := sound.localBuild found
    split
    next waits =>
      refine .nothing sound fun busy => ?_
      rw [pending_build found] at busy
      rw [due_build found]
      have running := here.running busy
      rcases waits with none_left | stopped | later
      · exact absurd none_left busy
      · omega
      · exact later
    next ended =>
      rw [not_or, not_or] at ended
      have running := here.running ended.1
      have tick_le : build.genTick ≤ now.val := not_lt.mp ended.2.2
      have now_pos := now.property
      rcases finish_cases config now build with ⟨more, tick, later, made_eq⟩ | ⟨last, made_eq⟩
      · have left : 0 < build.genCount - 1 := by omega
        simp only [made_eq, UnionBuild.make, if_pos left]
        refine sound.checkBuild
          { build with genCount := build.genCount - 1, count := build.count + 1, genTick := tick }
          [.applied (.build build.cfgId) build.genTick now.val, .timed (.build build.cfgId) tick]
          found (by simp [Entry.work]) (here.next more now.val (by omega))
          (fun _ _ _ is_applied => ?_) fun _ => later
        simp only [List.mem_cons, Entry.applied.injEq, reduceCtorEq, List.not_mem_nil,
          or_false] at is_applied
        rw [is_applied.2.1, is_applied.2.2]
        exact tick_le
      · have one_left : build.genCount = 1 := by omega
        rw [one_left] at here
        simp only [made_eq, UnionBuild.make, one_left, sub_self, lt_irrefl, if_false]
        refine sound.checkBuild
          { build with genCount := 0, count := build.count + 1, genTick := 0 }
          [.applied (.build build.cfgId) build.genTick now.val]
          found (by simp [Entry.work]) (here.last now.val 0) (fun _ _ _ is_applied => ?_) (by simp)
        simp only [List.mem_singleton, Entry.applied.injEq] at is_applied
        rw [is_applied.2.1, is_applied.2.2]
        exact tick_le

theorem checkLevelUp (sound : Sound journal union) (config : Config) (now : Timestamp)
    (cfgId : ℕ) :
    Checks now journal union (.tech cfgId) (union.checkLevelUp config now cfgId) := by
  unfold Union.checkLevelUp
  split
  next absent => exact .nothing sound fun busy => by simp [Union.pending, Union.due, absent] at busy
  next tech found =>
    obtain ⟨_, rfl⟩ := Keyed.get_mem found
    have here := sound.everywhere (.tech tech.cfgId)
    split
    next waits =>
      refine .nothing sound fun busy => ?_
      rw [due_tech found]
      rcases waits with stopped | later
      · simp [Union.pending, due_tech found, stopped] at busy
      · exact later
    next ended =>
      rw [not_or] at ended
      have after_found : (union.techs.put tech.raise).get tech.cfgId = some tech.raise :=
        Keyed.get_put_self found
      have due_after : ({ union with techs := union.techs.put tech.raise } : Union).due
          (.tech tech.cfgId) = 0 := by
        simp only [Union.due, after_found]
        rfl
      have pending_before : union.pending (.tech tech.cfgId) = 1 := by
        simp [Union.pending, due_tech found, ended.1]
      rw [pending_before, due_tech found] at here
      have elsewhere (other : Work) (different : other ≠ .tech tech.cfgId) :=
        agree_putTech union tech.raise different
      have raised : Sound (journal ++ [.applied (.tech tech.cfgId) tech.levelUpTick now.val])
          { union with techs := union.techs.put tech.raise } := by
        refine sound.change (.tech tech.cfgId) elsewhere (by simp [Entry.work]) ?_
          fun _ _ _ is_applied => ?_
        · simp only [Union.pending, due_after, if_true]
          exact here.last now.val 0
        · simp only [List.mem_singleton, Entry.applied.injEq] at is_applied
          rw [is_applied.2.1, is_applied.2.2]
          exact not_lt.mp ended.2
      have unlocking :=
        agree_onUnionTechLevelUp config { union with techs := union.techs.put tech.raise }
      refine ⟨raised.agree unlocking, fun other different => ?_, fun busy => ?_⟩
      · exact (elsewhere other different).trans (unlocking other)
      · rw [(unlocking _).1] at busy
        simp [Union.pending, due_after] at busy

end Sound

section CheckAll

variable {journal : List Entry} {union : Union} {now : Timestamp}

theorem checkAll_checks {check : Union → ℕ → Union × List Entry} {work : ℕ → Work}
    (work_inj : Function.Injective work)
    (checks : ∀ {journal : List Entry} {union : Union}, Sound journal union → ∀ cfgId,
      Checks now journal union (work cfgId) (check union cfgId))
    {cfgIds : List ℕ} (nodup : cfgIds.Nodup) (sound : Sound journal union) :
    Sound (journal ++ (Union.checkAll check union cfgIds).2)
        (Union.checkAll check union cfgIds).1 ∧
      (∀ other, (∀ cfgId ∈ cfgIds, other ≠ work cfgId) →
        Agree union (Union.checkAll check union cfgIds).1 other) ∧
      ∀ cfgId ∈ cfgIds, (Union.checkAll check union cfgIds).1.pending (work cfgId) ≠ 0 →
        now.val < (Union.checkAll check union cfgIds).1.due (work cfgId) := by
  induction cfgIds generalizing journal union with
  | nil => exact ⟨by simpa [Union.checkAll] using sound, fun other _ => .refl union other, by simp⟩
  | cons cfgId cfgIds ih =>
      obtain ⟨absent, rest_nodup⟩ := List.nodup_cons.mp nodup
      have first := checks sound cfgId
      obtain ⟨rest_sound, rest_elsewhere, rest_done⟩ := ih rest_nodup first.sound
      simp only [Union.checkAll, ← List.append_assoc]
      refine ⟨rest_sound, fun other different => ?_, fun checked checked_mem busy => ?_⟩
      · rw [List.forall_mem_cons] at different
        exact (first.elsewhere other different.1).trans (rest_elsewhere other different.2)
      · rcases List.mem_cons.mp checked_mem with rfl | rest_mem
        · have untouched := rest_elsewhere (work checked) fun later later_mem same =>
            absent (work_inj same ▸ later_mem)
          rw [untouched.1] at busy
          rw [untouched.2 busy]
          exact first.done busy
        · exact rest_done checked rest_mem busy

theorem pending_absentBuild {cfgId : ℕ}
    (absent : cfgId ∉ union.builds.objects.map UnionBuild.cfgId) :
    union.pending (.build cfgId) = 0 := by
  cases found : union.builds.get cfgId with
  | none => simp [Union.pending, found]
  | some build =>
      obtain ⟨build_mem, rfl⟩ := Keyed.get_mem found
      exact absurd (List.mem_map_of_mem build_mem) absent

theorem pending_absentTech {cfgId : ℕ}
    (absent : cfgId ∉ union.techs.objects.map UnionTech.cfgId) :
    union.pending (.tech cfgId) = 0 := by
  cases found : union.techs.get cfgId with
  | none => simp [Union.pending, Union.due, found]
  | some tech =>
      obtain ⟨tech_mem, rfl⟩ := Keyed.get_mem found
      exact absurd (List.mem_map_of_mem tech_mem) absent

/-- The check of a second does all that is due. -/
theorem onSecond_checks (config : Config) (now : Timestamp) (sound : Sound journal union) :
    Sound (journal ++ (union.onSecond config now).2) (union.onSecond config now).1 ∧
      ∀ work, (union.onSecond config now).1.pending work ≠ 0 →
        now.val < (union.onSecond config now).1.due work := by
  have build_inj : Function.Injective Work.build := fun _ _ same => Work.build.inj same
  have tech_inj : Function.Injective Work.tech := fun _ _ same => Work.tech.inj same
  obtain ⟨made_sound, made_elsewhere, made_done⟩ :=
    checkAll_checks build_inj (fun sound cfgId => sound.checkGenBuilds config now cfgId)
      union.builds.nodup sound
  set made := Union.checkAll (Union.checkGenBuilds config now) union
    (union.builds.objects.map UnionBuild.cfgId) with made_eq
  obtain ⟨raised_sound, raised_elsewhere, raised_done⟩ :=
    checkAll_checks tech_inj (fun sound cfgId => sound.checkLevelUp config now cfgId)
      made.1.techs.nodup made_sound
  set raised := Union.checkAll (Union.checkLevelUp config now) made.1
    (made.1.techs.objects.map UnionTech.cfgId) with raised_eq
  have second_eq : union.onSecond config now =
      (raised.1, made.2 ++ (raised.2 ++ [.checked now.val])) := rfl
  rw [second_eq]
  refine ⟨⟨fun work => ?_, ?_⟩, fun work busy => ?_⟩
  · simp only [← List.append_assoc]
    exact (raised_sound.everywhere work).skip (by simp [Entry.work])
  · intro work due time is_applied
    refine raised_sound.punctual work due time ?_
    simpa using is_applied
  · cases work with
    | tech cfgId =>
        by_cases present : cfgId ∈ made.1.techs.objects.map UnionTech.cfgId
        · exact raised_done cfgId present busy
        · have untouched := raised_elsewhere (.tech cfgId) fun other other_mem same =>
            present (Work.tech.inj same ▸ other_mem)
          exact absurd (untouched.1.trans (pending_absentTech present)) busy
    | build cfgId =>
        have untouched := raised_elsewhere (.build cfgId) fun other _ => by simp
        rw [untouched.1] at busy
        rw [untouched.2 busy]
        by_cases present : cfgId ∈ union.builds.objects.map UnionBuild.cfgId
        · exact made_done cfgId present busy
        · have absent := made_elsewhere (.build cfgId) fun other other_mem same =>
            present (Work.build.inj same ▸ other_mem)
          exact absurd (absent.1.trans (pending_absentBuild present)) busy

end CheckAll

namespace Finished

variable {journal : List Entry} {union after : Union}

theorem sound (finished : Finished journal union) : Sound journal union where
  everywhere work :=
    ⟨finished.settled work, finished.timers work, finished.running work⟩
  punctual := finished.punctual

end Finished

namespace Sound

variable {journal : List Entry} {union : Union}

theorem finished (sound : Sound journal union)
    (prompt : ∀ before now, journal = before ++ [.checked now] →
      ∀ work, union.pending work ≠ 0 → now < union.due work) : Finished journal union where
  settled work := (sound.everywhere work).settled
  timers work := (sound.everywhere work).timers
  punctual := sound.punctual
  running work := (sound.everywhere work).running
  prompt := prompt

end Sound

theorem Finished.orders {journal : List Entry} {union : Union} {result : Union × List Entry}
    (finished : Finished journal union) (orders : Orders journal union result) :
    Finished (journal ++ result.2) result.1 := by
  refine orders.sound.finished fun before now journal_eq work busy => ?_
  rcases List.eq_nil_or_concat result.2 with nothing | ⟨entries, last, entries_eq⟩
  · rw [nothing, List.append_nil] at journal_eq
    have agrees := orders.silent nothing work
    rw [agrees.1] at busy
    rw [agrees.2 busy]
    exact finished.prompt before now journal_eq work busy
  · rw [entries_eq, List.concat_eq_append, ← List.append_assoc] at journal_eq
    obtain ⟨_, same⟩ := List.append_inj' journal_eq rfl
    refine absurd ?_ (orders.unchecked now)
    rw [entries_eq, List.concat_eq_append, List.singleton_injective same]
    simp

theorem Finished.onSecond {journal : List Entry} {union : Union} (finished : Finished journal union)
    (config : Config) (now : Timestamp) :
    Finished (journal ++ (union.onSecond config now).2) (union.onSecond config now).1 := by
  obtain ⟨sound, done⟩ := onSecond_checks config now finished.sound
  refine sound.finished fun before time journal_eq work busy => ?_
  have checked_last : ∃ entries, (union.onSecond config now).2 = entries ++ [.checked now.val] := by
    simp only [Union.onSecond, ← List.append_assoc]
    exact ⟨_, rfl⟩
  obtain ⟨entries, entries_eq⟩ := checked_last
  rw [entries_eq, ← List.append_assoc] at journal_eq
  obtain ⟨_, same⟩ := List.append_inj' journal_eq rfl
  have now_eq : now.val = time := Entry.checked.inj (List.singleton_injective same)
  exact now_eq ▸ done work busy

theorem finished_step {config : Config} (journal : List Entry) (union : Union) (event : Event)
    (finished : Finished journal union) (clear : event.Clear config union) :
    Finished (journal ++ ((machine config).step union event).2)
      ((machine config).step union event).1 := by
  have nothing (after : Union) (agrees : ∀ work, Agree union after work) :
      Finished (journal ++ []) after := finished.orders (.nothing finished.sound agrees)
  cases event with
  | levelUpTech now cfgId authorized =>
      exact finished.orders (finished.sound.levelUpTech cfgId authorized clear)
  | genDefenseBuild now cfgId defenseCount isMember =>
      exact finished.orders (finished.sound.genDefenseBuild cfgId clear isMember)
  | onSecond now => exact finished.onSecond config now
  | packUnionTechs now => exact nothing _ (agree_packUnionTechs clear)
  | packUnionBuilds now => exact nothing _ (agree_packUnionBuilds clear)
  | serialize => exact nothing union (.refl union)
  | setTreasury treasury =>
      exact nothing { union with treasury } fun work => by cases work <;> exact .of_eq rfl rfl
  | getDefenseBuildInfo cfgId =>
      simp only [machine]
      split
      · exact nothing union (.refl union)
      next build found =>
        split
        · exact nothing union (.refl union)
        · refine nothing _ fun work => ?_
          obtain ⟨_, rfl⟩ := Keyed.get_mem found
          by_cases here : work = .build build.cfgId
          · have after_found : (union.builds.put { build with count := build.count - 1 }).get
                build.cfgId = some { build with count := build.count - 1 } :=
              Keyed.get_put_self found
            subst here
            refine .of_eq ?_ ?_
            · simp only [Union.pending, after_found, found, Option.map_some, Option.getD_some]
            · simp only [Union.due, after_found, found, Option.map_some, Option.getD_some]
          · exact agree_putBuild union { build with count := build.count - 1 } here

theorem initTechs_at_rest (inits : List (ℕ × ℕ)) {techs : Keyed UnionTech.cfgId}
    (at_rest : ∀ tech ∈ techs.objects, tech.levelUpTick = 0) :
    ∀ tech ∈ (inits.foldl (fun techs init => techs.add ⟨init.1, init.2, 0⟩) techs).objects,
      tech.levelUpTick = 0 := by
  induction inits generalizing techs with
  | nil => exact at_rest
  | cons init inits ih =>
      refine ih fun tech tech_mem => ?_
      rcases Keyed.mem_add tech_mem with rfl | old
      · rfl
      · exact at_rest tech old

theorem finished_new (config : Config) : Finished [] (Union.new config) := by
  have no_work (work : Work) : (Union.new config).pending work = 0 := by
    rw [Union.new, (agree_onUnionTechLevelUp config _ work).1]
    cases work with
    | build cfgId => rfl
    | tech cfgId =>
        cases found : (config.initTechs.foldl (fun techs init => techs.add ⟨init.1, init.2, 0⟩)
            (⟨[], List.nodup_nil⟩ : Keyed UnionTech.cfgId)).get cfgId with
        | none => simp [Union.pending, Union.due, found]
        | some tech =>
            have at_rest := initTechs_at_rest config.initTechs (by simp) tech
              (Keyed.get_mem found).1
            simp [Union.pending, Union.due, found, at_rest]
  have empty : Sound [] (Union.new config) :=
    { everywhere := fun work => ⟨by simp [no_work], by simp [no_work], by simp [no_work]⟩
      punctual := by simp }
  exact empty.finished fun before now journal_eq => by simp at journal_eq

/-- In every run that asks for no timer that has run out, every paid level-up and every paid build
is done once, at the first check after its timer. -/
theorem finished_run (config : Config) (events : List Event)
    (clear : (machine config).Allowed (Event.Clear config) (Union.new config) events) :
    Finished ((machine config).run (Union.new config) events).2
      ((machine config).run (Union.new config) events).1 :=
  Machine.journal_run Finished finished_step (finished_new config) clear

/-- One tech that raises one build; both cost 5 and take 10 seconds. -/
def sampleConfig : Config where
  tech cfgId level :=
    if cfgId = 1 ∧ level < 3 then
      some ⟨1, 10, fun _ => 5, [], [(7, level + 1)]⟩
    else none
  build _ _ := ⟨10, 100, fun _ => 5⟩
  unlocks := []
  initTechs := [(1, 0)]
  techLevelUpMaxCnt := 2
  modTechLevelUpMaxCnt := 1

def sampleTime (millis : ℕ) : Timestamp := ⟨millis + 1, by omega⟩

def sampleTreasury : Treasury.Union where
  balance _ := some 100
  limitAdd _ := 1000

def sampleOrders : List Event :=
  [.setTreasury sampleTreasury, .levelUpTech (sampleTime 0) 1 true,
    .genDefenseBuild (sampleTime 0) 7 2 true]

/-- The lists are asked for before the timers run out, and after the check of that second. -/
theorem finished_run_sample :
    Finished
      ((machine sampleConfig).run (Union.new sampleConfig) (sampleOrders ++
        [.packUnionTechs (sampleTime 5000), .packUnionBuilds (sampleTime 5000),
          .onSecond (sampleTime 10000), .packUnionBuilds (sampleTime 10000), .serialize,
          .onSecond (sampleTime 20000), .packUnionTechs (sampleTime 21000)])).2
      ((machine sampleConfig).run (Union.new sampleConfig) (sampleOrders ++
        [.packUnionTechs (sampleTime 5000), .packUnionBuilds (sampleTime 5000),
          .onSecond (sampleTime 10000), .packUnionBuilds (sampleTime 10000), .serialize,
          .onSecond (sampleTime 20000), .packUnionTechs (sampleTime 21000)])).1 :=
  finished_run sampleConfig _ (by decide +kernel)

/-- The list of builds is asked for just after a timer has run out: the paid builds are never
made. -/
theorem not_finished_listed :
    ¬ ∀ (config : Config) (events : List Event),
      Finished ((machine config).run (Union.new config) events).2
        ((machine config).run (Union.new config) events).1 := by
  intro always
  have running := (always sampleConfig [.setTreasury sampleTreasury,
    .genDefenseBuild (sampleTime 0) 7 2 true, .packUnionBuilds (sampleTime 10001),
    .onSecond (sampleTime 11000)]).running (.build 7)
  exact absurd running (by decide +kernel)

end BasWar.Unions.PaidWork
