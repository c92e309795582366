import BasWar.Cooperative.Pool
import BasWar.Pvp.Foundation

/-!
# The lock of a base

One base under any number of attacks.  The lock is a time stamp, and three functions clear it.
Attacks are numbered in the order in which `startAttacked` has let them in; every payment of
`endAttacked` is recorded together with whether its attack had the lock then.
-/

namespace BasWar.Pvp.BaseLock

open Cooperative

/-- An attack that `startAttacked` has let in and that has not ended. -/
structure Attack where
  id : ℕ
  tick : ℕ

structure Pay where
  attack : ℕ
  /-- The attack had the lock, and the lock had not expired. -/
  held : Bool

structure Base where
  foundation : Foundation
  now : ℕ
  loads : ℕ
  stored : Option FoundationData
  attacks : List Attack
  started : ℕ
  /-- The attack that has set the time stamp. -/
  holder : Option ℕ
  pays : List Pay

inductive Request
  | startAttacked (isFreeFight : Bool)
  | endAttacked (attack : ℕ) (result : ℤ)
  | onSecond
  | save
  | reload
  | elapse (time : ℕ)

/-- `endAttacked` waits for the running matches. -/
inductive Task
  | getInStartMatchs (load attack : ℕ) (result : ℤ) (info : EndInfo)

inductive Reply
  | matchs (inStart : Bool)
  | raise

namespace Base

/-- An attack that has neither ended nor expired. -/
def inProgress (base : Base) : List Attack :=
  base.attacks.filter fun attack => base.now < attack.tick

def pay (attack load : ℕ) (base : Base) : Base :=
  { base with
    pays := base.pays ++
      [⟨attack, decide (load = base.loads ∧ base.holder = some attack ∧
        base.now < base.foundation.attackedTick)⟩] }

/-- The second part of `endAttacked`; a bag that was unloaded meanwhile is out of reach. -/
def endAttackedRest (cfg : DefenceCfg) (load attack : ℕ) (result : ℤ)
    (isFreeBeFight inStart : Bool) (info : EndInfo) (base : Base) : Base :=
  let attacks := base.attacks.filter fun other => other.id ≠ attack
  if load = base.loads then
    { base with
      foundation :=
        (base.foundation.endAttackedRest cfg base.now result isFreeBeFight inStart info).1
      attacks := attacks
      holder := none }
  else { base with attacks := attacks }

def endAttacked (cfg : DefenceCfg) (attack : ℕ) (result : ℤ) (base : Base) : Base × List Task :=
  let isFreeBeFight := base.foundation.freeBeFight
  let plundered := base.foundation.endAttacked cfg result
  let score := base.foundation.defenceScore cfg result
  let next := { base with foundation := plundered.1 }
  if isFreeBeFight then
    (next.endAttackedRest cfg base.loads attack result true false plundered.2, [])
  else if score = 0 then
    ((next.pay attack base.loads).endAttackedRest cfg base.loads attack result false false
      plundered.2, [])
  else (next.pay attack base.loads, [.getInStartMatchs base.loads attack result plundered.2])

def startAttacked (cfg : DefenceCfg) (isFreeFight : Bool) (base : Base) : Base :=
  match base.foundation.startAttacked cfg base.now false isFreeFight with
  | none => base
  | some foundation =>
      { base with
        foundation := foundation
        attacks := base.attacks ++ [⟨base.started, foundation.attackedTick⟩]
        started := base.started + 1
        holder := some base.started }

def reload (base : Base) : Base :=
  match base.stored with
  | none => base
  | some data =>
      { base with
        foundation :=
          { base.foundation with attackedTick := 0, protectTick := 0, freeBeFight := false
            }.deserialize data
        loads := base.loads + 1
        holder := none }

def accept (cfg : DefenceCfg) (request : Request) (base : Base) : Base × List Task :=
  match request with
  | .startAttacked isFreeFight => (base.startAttacked cfg isFreeFight, [])
  | .endAttacked attack result => base.endAttacked cfg attack result
  | .onSecond =>
      let foundation := base.foundation.onSecond cfg base.now
      ({ base with
          foundation := foundation
          holder := if foundation.attackedTick = 0 then none else base.holder }, [])
  | .save => ({ base with stored := some base.foundation.serialize }, [])
  | .reload => (base.reload, [])
  | .elapse time => ({ base with now := base.now + time }, [])

def resume (cfg : DefenceCfg) (task : Task) (reply : Reply) (base : Base) : Base × List Task :=
  match task, reply with
  | .getInStartMatchs load attack result info, .matchs inStart =>
      ((base.pay attack load).endAttackedRest cfg load attack result false inStart info, [])
  | .getInStartMatchs _ _ _ _, .raise => (base, [])

end Base

def baseLock (cfg : DefenceCfg) : Service Base Request Task Reply where
  accept := Base.accept cfg
  resume := Base.resume cfg

def baseStart (foundation : Foundation) (now : ℕ) (stored : Option FoundationData) :
    Config Base Task :=
  ⟨⟨{ foundation with attackedTick := 0 }, now, 0, stored, [], 0, none, []⟩, []⟩

/-- At most one attack holds the base, whoever was paid for an attack had the lock, and a base
under attack is locked. -/
structure Locked (base : Base) : Prop where
  one : base.inProgress.length ≤ 1
  paid : ∀ pay ∈ base.pays, pay.held = true
  locked : base.inProgress ≠ [] →
    0 < base.foundation.attackedTick ∧ base.now < base.foundation.attackedTick

def InProgress (attack : ℕ) (base : Base) : Prop :=
  ∃ other ∈ base.inProgress, other.id = attack
  deriving Decidable

/-- A robot is attacked only while no attack is in progress, `endAttacked` pays only for an attack
in progress and ends a free fight only while no other attack is, and the player is not loaded again
while an attack is in progress. -/
def punctual : Guard Base Request Task Reply where
  onRequest request base _ :=
    match request with
    | .startAttacked _ => base.foundation.isGmRobotPlayer = true → base.inProgress = []
    | .endAttacked attack _ =>
        if base.foundation.freeBeFight then ∀ other ∈ base.inProgress, other.id = attack
        else InProgress attack base
    | .reload => base.stored.isSome = true → base.inProgress = []
    | _ => True
  onReply task reply base _ :=
    match task, reply with
    | .getInStartMatchs _ attack _ _, .matchs _ => InProgress attack base
    | _, _ => True

instance (request base others) : Decidable (punctual.onRequest request base others) := by
  unfold punctual
  dsimp only
  split
  · infer_instance
  · infer_instance
  · infer_instance
  · infer_instance

instance (task reply base others) : Decidable (punctual.onReply task reply base others) := by
  unfold punctual
  dsimp only
  split <;> infer_instance

structure Sound (base : Base) : Prop where
  held : ∀ attack ∈ base.inProgress,
    base.holder = some attack.id ∧ base.foundation.attackedTick = attack.tick
  fresh : ∀ attack ∈ base.attacks, attack.id < base.started
  nodup : (base.attacks.map Attack.id).Nodup
  paid : ∀ pay ∈ base.pays, pay.held = true

/-- A suspended `endAttacked` runs on the live bag while its attack is in progress. -/
def Task.Knows (base : Base) : Task → Prop
  | .getInStartMatchs load attack _ _ =>
      load ≤ base.loads ∧ attack < base.started ∧ (InProgress attack base → load = base.loads)

def basePool : Pool Base Task where
  shared := Sound
  own base task := task.Knows base
  apart _ _ := True
  apart_symm apart := apart

theorem mem_inProgress {base : Base} {attack : Attack} :
    attack ∈ base.inProgress ↔ attack ∈ base.attacks ∧ base.now < attack.tick := by
  simp [Base.inProgress]

theorem Sound.one {base : Base} (sound : Sound base) : base.inProgress.length ≤ 1 := by
  have nodup : (base.inProgress.map Attack.id).Nodup :=
    sound.nodup.sublist (List.filter_sublist.map Attack.id)
  match progress_eq : base.inProgress with
  | [] => exact Nat.zero_le _
  | [_] => exact le_rfl
  | first :: second :: later =>
      have first_held := (sound.held first (by simp [progress_eq])).1
      have second_held := (sound.held second (by simp [progress_eq])).1
      have same : first.id = second.id := Option.some.inj (first_held.symm.trans second_held)
      simp [progress_eq, same] at nodup

theorem Sound.locked {base : Base} (sound : Sound base) : Locked base where
  one := sound.one
  paid := sound.paid
  locked some_progress := by
    obtain ⟨attack, attack_mem⟩ := List.exists_mem_of_ne_nil _ some_progress
    obtain ⟨-, tick_eq⟩ := sound.held attack attack_mem
    obtain ⟨-, running⟩ := mem_inProgress.mp attack_mem
    omega

theorem Sound.eq_of_inProgress {base : Base} (sound : Sound base) {attack : ℕ} {other : Attack}
    (progress : InProgress attack base) (other_mem : other ∈ base.inProgress) :
    other.id = attack := by
  obtain ⟨first, first_mem, rfl⟩ := progress
  have first_held := (sound.held first first_mem).1
  exact Option.some.inj ((sound.held other other_mem).1.symm.trans first_held)

theorem Sound.pay {base : Base} (sound : Sound base) {attack : ℕ}
    (progress : InProgress attack base) : Sound (base.pay attack base.loads) where
  held := sound.held
  fresh := sound.fresh
  nodup := sound.nodup
  paid pay pay_mem := by
    rcases List.mem_append.mp pay_mem with earlier | last
    · exact sound.paid pay earlier
    · obtain ⟨other, other_mem, rfl⟩ := progress
      obtain ⟨holder_eq, tick_eq⟩ := sound.held other other_mem
      obtain ⟨-, running⟩ := mem_inProgress.mp other_mem
      obtain rfl := List.mem_singleton.mp last
      simp [holder_eq, tick_eq, running]

/-- A segment of a base on which a suspended `endAttacked` still knows what it knew. -/
structure Follows (base next : Base) : Prop where
  loads : base.loads ≤ next.loads
  started : base.started ≤ next.started
  progress : ∀ attack ∈ next.inProgress, attack.id < base.started →
    attack ∈ base.inProgress ∧ next.loads = base.loads

theorem Follows.knows {base next : Base} (follows : Follows base next) {task : Task}
    (knows : task.Knows base) : task.Knows next := by
  obtain ⟨load, attack, result, info⟩ := task
  obtain ⟨load_le, known, live⟩ := knows
  refine ⟨load_le.trans follows.loads, known.trans_le follows.started, ?_⟩
  rintro ⟨other, other_mem, rfl⟩
  obtain ⟨was_mem, loads_eq⟩ := follows.progress other other_mem known
  rw [loads_eq]
  exact live ⟨other, was_mem, rfl⟩

variable {others : List Task}

theorem Follows.keeps {base : Base} {result : Base × List Task}
    (holds : basePool.Holds ⟨base, others⟩) (follows : Follows base result.1)
    (sound : Sound result.1) (fresh : ∀ task ∈ result.2, task.Knows result.1) :
    basePool.Keeps others result where
  shared := sound
  stable other other_mem := follows.knows (holds.own other other_mem)
  fresh := fresh
  apart _ _ _ _ := trivial
  fresh_apart := List.pairwise_of_forall fun _ _ => trivial

section Rest

variable (cfg : DefenceCfg) (load attack : ℕ) (result : ℤ) (isFreeBeFight inStart : Bool)
  (info : EndInfo) (base : Base)

theorem endAttackedRest_attacks :
    (base.endAttackedRest cfg load attack result isFreeBeFight inStart info).attacks =
      base.attacks.filter fun other => other.id ≠ attack := by
  unfold Base.endAttackedRest
  split <;> rfl

theorem endAttackedRest_now :
    (base.endAttackedRest cfg load attack result isFreeBeFight inStart info).now = base.now := by
  unfold Base.endAttackedRest
  split <;> rfl

theorem endAttackedRest_loads :
    (base.endAttackedRest cfg load attack result isFreeBeFight inStart info).loads =
      base.loads := by
  unfold Base.endAttackedRest
  split <;> rfl

theorem endAttackedRest_started :
    (base.endAttackedRest cfg load attack result isFreeBeFight inStart info).started =
      base.started := by
  unfold Base.endAttackedRest
  split <;> rfl

theorem endAttackedRest_pays :
    (base.endAttackedRest cfg load attack result isFreeBeFight inStart info).pays = base.pays := by
  unfold Base.endAttackedRest
  split <;> rfl

theorem mem_inProgress_endAttackedRest {other : Attack} (other_mem : other ∈
    (base.endAttackedRest cfg load attack result isFreeBeFight inStart info).inProgress) :
    other ∈ base.inProgress ∧ other.id ≠ attack := by
  obtain ⟨left, running⟩ := mem_inProgress.mp other_mem
  rw [endAttackedRest_attacks] at left
  rw [endAttackedRest_now] at running
  obtain ⟨was_mem, other_ne⟩ := List.mem_filter.mp left
  exact ⟨mem_inProgress.mpr ⟨was_mem, running⟩, by simpa using other_ne⟩

theorem follows_endAttackedRest :
    Follows base (base.endAttackedRest cfg load attack result isFreeBeFight inStart info) where
  loads := (endAttackedRest_loads ..).ge
  started := (endAttackedRest_started ..).ge
  progress _ other_mem _ :=
    ⟨(mem_inProgress_endAttackedRest _ _ _ _ _ _ _ _ other_mem).1, endAttackedRest_loads ..⟩

variable {base attack}

theorem sound_endAttackedRest (sound : Sound base)
    (alone : ∀ other ∈ base.inProgress, other.id = attack) :
    Sound (base.endAttackedRest cfg load attack result isFreeBeFight inStart info) where
  held other other_mem := by
    obtain ⟨was_mem, other_ne⟩ := mem_inProgress_endAttackedRest _ _ _ _ _ _ _ _ other_mem
    exact absurd (alone other was_mem) other_ne
  fresh other other_mem := by
    rw [endAttackedRest_attacks] at other_mem
    rw [endAttackedRest_started]
    exact sound.fresh other (List.mem_filter.mp other_mem).1
  nodup := by
    rw [endAttackedRest_attacks]
    exact sound.nodup.sublist (List.filter_sublist.map Attack.id)
  paid := by
    rw [endAttackedRest_pays]
    exact sound.paid

end Rest

theorem Follows.trans {first second third : Base} (left : Follows first second)
    (right : Follows second third) : Follows first third where
  loads := left.loads.trans right.loads
  started := left.started.trans right.started
  progress attack attack_mem known := by
    obtain ⟨second_mem, second_loads⟩ :=
      right.progress attack attack_mem (known.trans_le left.started)
    obtain ⟨first_mem, first_loads⟩ := left.progress attack second_mem known
    exact ⟨first_mem, second_loads.trans first_loads⟩

theorem sound_plunder (cfg : DefenceCfg) (result : ℤ) {base : Base} (sound : Sound base) :
    Sound { base with foundation := (base.foundation.endAttacked cfg result).1 } where
  held attack attack_mem := by
    obtain ⟨holder_eq, tick_eq⟩ := sound.held attack attack_mem
    exact ⟨holder_eq, by simpa using tick_eq⟩
  fresh := sound.fresh
  nodup := sound.nodup
  paid := sound.paid

theorem follows_of_attacks {base next : Base} (loads : next.loads = base.loads)
    (started : next.started = base.started) (attacks : next.attacks = base.attacks)
    (now : base.now ≤ next.now) : Follows base next := by
  refine ⟨loads.ge, started.ge, fun attack attack_mem _ => ⟨?_, loads⟩⟩
  obtain ⟨was_mem, running⟩ := mem_inProgress.mp attack_mem
  exact mem_inProgress.mpr ⟨attacks ▸ was_mem, now.trans_lt running⟩

theorem keeps_endAttacked {cfg : DefenceCfg} {base : Base} {attack : ℕ} {result : ℤ}
    (holds : basePool.Holds ⟨base, others⟩)
    (allows : punctual.onRequest (.endAttacked attack result) base others) :
    basePool.Keeps others (base.endAttacked cfg attack result) := by
  have sound : Sound { base with foundation := (base.foundation.endAttacked cfg result).1 } :=
    sound_plunder cfg result holds.shared
  have follows : Follows base
      { base with foundation := (base.foundation.endAttacked cfg result).1 } :=
    follows_of_attacks rfl rfl rfl le_rfl
  unfold Base.endAttacked
  dsimp only
  by_cases free : base.foundation.freeBeFight = true
  · have alone : ∀ other ∈ base.inProgress, other.id = attack := by
      simpa [punctual, free] using allows
    rw [if_pos free]
    exact (follows.trans (follows_endAttackedRest ..)).keeps holds
      (sound_endAttackedRest _ _ _ _ _ _ sound alone) (by simp)
  · have progress : InProgress attack base := by simpa [punctual, free] using allows
    have paid := sound.pay progress
    have paid_follows : Follows base
        ({ base with foundation := (base.foundation.endAttacked cfg result).1 }.pay attack
          base.loads) :=
      follows_of_attacks rfl rfl rfl le_rfl
    rw [if_neg free]
    split
    · exact (paid_follows.trans (follows_endAttackedRest ..)).keeps holds
        (sound_endAttackedRest _ _ _ _ _ _ paid fun other =>
          holds.shared.eq_of_inProgress progress)
        (by simp)
    · refine paid_follows.keeps holds paid fun task task_mem => ?_
      obtain rfl := List.mem_singleton.mp task_mem
      obtain ⟨other, other_mem, rfl⟩ := progress
      exact ⟨le_rfl, holds.shared.fresh other (mem_inProgress.mp other_mem).1, fun _ => rfl⟩

theorem keeps_startAttacked {cfg : DefenceCfg} {base : Base} {isFreeFight : Bool}
    (holds : basePool.Holds ⟨base, others⟩)
    (allows : base.foundation.isGmRobotPlayer = true → base.inProgress = []) :
    basePool.Keeps others (base.startAttacked cfg isFreeFight, []) := by
  have sound : Sound base := holds.shared
  unfold Base.startAttacked
  split
  · exact .ended holds
  · rename_i foundation started
    have tick_eq := Foundation.startAttacked_attackedTick started
    -- Nobody holds the base: a player checks the lock, and a robot is left alone.
    have none_running : ∀ attack ∈ base.attacks, ¬ base.now < attack.tick := by
      intro attack attack_mem running
      have attack_progress := mem_inProgress.mpr ⟨attack_mem, running⟩
      cases robot : base.foundation.isGmRobotPlayer with
      | true =>
          rw [allows robot] at attack_progress
          cases attack_progress
      | false =>
          have free := Foundation.unlocked_of_startAttacked robot started
          have held := (sound.held attack attack_progress).2
          omega
    refine Follows.keeps holds ⟨le_rfl, Nat.le_succ _, ?_⟩ ⟨?_, ?_, ?_, sound.paid⟩ (by simp)
    · intro attack attack_mem known
      obtain ⟨member, running⟩ := mem_inProgress.mp attack_mem
      rcases List.mem_append.mp member with earlier | last
      · exact absurd running (none_running attack earlier)
      · obtain rfl := List.mem_singleton.mp last
        exact absurd known (lt_irrefl _)
    · intro attack attack_mem
      obtain ⟨member, running⟩ := mem_inProgress.mp attack_mem
      rcases List.mem_append.mp member with earlier | last
      · exact absurd running (none_running attack earlier)
      · obtain rfl := List.mem_singleton.mp last
        exact ⟨rfl, rfl⟩
    · intro attack member
      rcases List.mem_append.mp member with earlier | last
      · exact (sound.fresh attack earlier).trans (Nat.lt_succ_self _)
      · obtain rfl := List.mem_singleton.mp last
        exact Nat.lt_succ_self _
    · have new_id : base.started ∉ base.attacks.map Attack.id := by
        intro id_mem
        obtain ⟨attack, attack_mem, id_eq⟩ := List.mem_map.mp id_mem
        have known := sound.fresh attack attack_mem
        omega
      simpa [List.nodup_append] using
        ⟨sound.nodup, fun attack attack_mem id_eq =>
          new_id (id_eq ▸ List.mem_map_of_mem attack_mem)⟩

theorem keeps_reload {base : Base} (holds : basePool.Holds ⟨base, others⟩)
    (allows : base.stored.isSome = true → base.inProgress = []) :
    basePool.Keeps others (base.reload, []) := by
  have sound : Sound base := holds.shared
  unfold Base.reload
  split
  · exact .ended holds
  · rename_i data stored_eq
    have none_progress : base.inProgress = [] := allows (by simp [stored_eq])
    refine Follows.keeps holds ⟨Nat.le_succ _, le_rfl, ?_⟩
      ⟨?_, sound.fresh, sound.nodup, sound.paid⟩ (by simp)
    · intro attack attack_mem
      have was_mem : attack ∈ base.inProgress := attack_mem
      rw [none_progress] at was_mem
      cases was_mem
    · intro attack attack_mem
      have was_mem : attack ∈ base.inProgress := attack_mem
      rw [none_progress] at was_mem
      cases was_mem

theorem keeps_onSecond (cfg : DefenceCfg) {base : Base} (holds : basePool.Holds ⟨base, others⟩) :
    basePool.Keeps others (base.accept cfg .onSecond) := by
  have sound : Sound base := holds.shared
  refine Follows.keeps holds (follows_of_attacks rfl rfl rfl le_rfl)
    ⟨fun attack attack_mem => ?_, sound.fresh, sound.nodup, sound.paid⟩ (by simp [Base.accept])
  obtain ⟨holder_eq, tick_eq⟩ := sound.held attack attack_mem
  obtain ⟨-, running⟩ := mem_inProgress.mp attack_mem
  have running : base.now < attack.tick := running
  have kept : (base.foundation.onSecond cfg base.now).attackedTick = base.foundation.attackedTick :=
    Foundation.onSecond_attackedTick (by omega)
  have ticking : (base.foundation.onSecond cfg base.now).attackedTick ≠ 0 := by omega
  refine ⟨?_, kept.trans tick_eq⟩
  simp [Base.accept, ticking, holder_eq]

theorem basePool_kept (cfg : DefenceCfg) : basePool.KeptBy (baseLock cfg) punctual where
  accept request base others holds allows := by
    have sound : Sound base := holds.shared
    cases request with
    | startAttacked isFreeFight => exact keeps_startAttacked holds allows
    | endAttacked attack result => exact keeps_endAttacked holds allows
    | onSecond => exact keeps_onSecond cfg holds
    | save =>
        exact Follows.keeps holds (follows_of_attacks rfl rfl rfl le_rfl)
          ⟨sound.held, sound.fresh, sound.nodup, sound.paid⟩ (by simp [baseLock, Base.accept])
    | reload => exact keeps_reload holds allows
    | elapse time =>
        refine Follows.keeps holds (follows_of_attacks rfl rfl rfl (Nat.le_add_right _ _))
          ⟨fun attack attack_mem => ?_, sound.fresh, sound.nodup, sound.paid⟩
          (by simp [baseLock, Base.accept])
        obtain ⟨member, running⟩ := mem_inProgress.mp attack_mem
        exact sound.held attack
          (mem_inProgress.mpr ⟨member, (Nat.le_add_right _ _).trans_lt running⟩)
  resume task reply base others holds own _ allows := by
    obtain ⟨load, attack, result, info⟩ := task
    cases reply with
    | matchs inStart =>
        have progress : InProgress attack base := allows
        obtain ⟨-, -, live⟩ := own
        obtain rfl := live progress
        have paid_follows : Follows base (base.pay attack base.loads) :=
          follows_of_attacks rfl rfl rfl le_rfl
        have sound : Sound base := holds.shared
        exact (paid_follows.trans (follows_endAttackedRest ..)).keeps holds
          (sound_endAttackedRest _ _ _ _ _ _ (sound.pay progress) fun other =>
            sound.eq_of_inProgress progress)
          (by simp [baseLock, Base.resume])
    | raise => exact .ended holds

theorem baseStart_holds (foundation : Foundation) (now : ℕ) (stored : Option FoundationData) :
    basePool.Holds (baseStart foundation now stored) where
  shared :=
    ⟨fun _ attack_mem => (List.not_mem_nil attack_mem).elim,
      fun _ attack_mem => (List.not_mem_nil attack_mem).elim, List.nodup_nil,
      fun _ pay_mem => (List.not_mem_nil pay_mem).elim⟩
  own _ task_mem := (List.not_mem_nil task_mem).elim
  apart := .nil

/-- In every punctual run the base is locked by the one attack that holds it. -/
theorem locked_run (cfg : DefenceCfg) (foundation : Foundation) (now : ℕ)
    (stored : Option FoundationData) (events : List (Event Request Reply))
    (admits : punctual.Admits (baseLock cfg) (baseStart foundation now stored) events) :
    Locked ((baseLock cfg).run (baseStart foundation now stored) events).state :=
  ((basePool_kept cfg).holds_run admits (baseStart_holds foundation now stored)).shared.locked

def sampleCfg : DefenceCfg where
  fightMaxCostTime := 300
  pvpPlunderRatio := 1 / 10
  newHandPvpProtectRatio := []
  pvpFailCostGunLife := 0
  pvpDefenceFailGainPoint := -5
  pvpDefenceWinGainPoint := 5
  pvpDefenceWinGainRes := [(.tesseract, 1)]
  pvpFailGainPoint := 0
  foundationBattleProtectTime := 60

def sampleFoundation : Foundation where
  isGmRobotPlayer := false
  baseLevel := 1
  attackedTick := 0
  protectTick := 0
  freeBeFight := false
  res _ := 100
  builds := []
  rankScore := 0

/-- An attack is lost, the player is loaded again, and the next attack is won. -/
def attackedRun : List (Event Request Reply) :=
  [.request (.startAttacked false), .request (.elapse 1000), .request (.endAttacked 0 battleLose),
    .reply 0 (.matchs true), .request .save, .request .reload, .request (.startAttacked false),
    .request .onSecond, .request (.endAttacked 1 battleWin), .reply 0 (.matchs true)]

theorem locked_attackedRun :
    ((baseLock sampleCfg).run (baseStart sampleFoundation 1 none) attackedRun).state.pays.length =
        4 ∧
      Locked ((baseLock sampleCfg).run (baseStart sampleFoundation 1 none) attackedRun).state :=
  ⟨by decide +kernel, locked_run _ _ _ _ attackedRun (by decide +kernel)⟩

/-- The player is saved and loaded again while its base is attacked. -/
def reloadedRun : List (Event Request Reply) :=
  [.request (.startAttacked false), .request .save, .request .reload]

theorem not_locked_reloadedRun :
    ¬ Locked ((baseLock sampleCfg).run (baseStart sampleFoundation 1 none) reloadedRun).state :=
  fun locked => absurd (locked.locked (by decide +kernel)).1 (by decide +kernel)

end BasWar.Pvp.BaseLock
