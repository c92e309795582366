import BasWar.Cooperative.Pool
import BasWar.Pvp.Settlement

/-!
# The pots of the matches

Every writer of a pot but the PVP settlement reads it, works out a new value and writes that value
back.  Reading and writing are separate commands to redis, and anything else may happen in between.
-/

namespace BasWar.Matches.Pots

open Cooperative

inductive Belong
  | pvp
  | starmap
  deriving DecidableEq

/-- Argument of `setPvpMatchJackpot` and `setStarmapMatchJackpot`. -/
structure JackpotData where
  sysCarboxyl : Option ℤ
  plyCarboxyl : Option ℤ

def JackpotData.carboxyl (data : JackpotData) : ℤ :=
  data.sysCarboxyl.getD 0 + data.plyCarboxyl.getD 0

/-- `PVP_JACKPOT_SYSVAL` and `STARMAP_JACKPOT_SYSVAL`. -/
def sysVal : Belong → ℤ
  | .pvp => 200000000
  | .starmap => 1000000000

def starmapJackpotInfo : Jackpot :=
  ⟨sysVal .starmap, 0⟩

/-- What redis holds under the key of a pot; a missing pot is worth nothing. -/
def worth (value : Option Jackpot) : ℤ :=
  (value.map Jackpot.carboxyl).getD 0

/-- What a writer makes of the value it has read. -/
def increase (data : JackpotData) (value : Option Jackpot) : Jackpot :=
  match value with
  | none => ⟨data.sysCarboxyl.getD 0, data.plyCarboxyl.getD 0⟩
  | some info =>
      ⟨info.sysCarboxyl + data.sysCarboxyl.getD 0, info.plyCarboxyl + data.plyCarboxyl.getD 0⟩

theorem increase_carboxyl (data : JackpotData) (value : Option Jackpot) :
    (increase data value).carboxyl = worth value + data.carboxyl := by
  cases value with
  | none => simp [increase, Jackpot.carboxyl, worth, JackpotData.carboxyl]
  | some info =>
      simp only [increase, Jackpot.carboxyl, worth, JackpotData.carboxyl, Option.map_some,
        Option.getD_some]
      omega

inductive Task
  /-- `get` of a call that adds. -/
  | get (belong : Belong) (data : JackpotData)
  /-- `set` of a writer that has read `value`. -/
  | set (belong : Belong) (value : Option Jackpot) (info : Jackpot)
  /-- `getOpCfg` of the pot, on behalf of a settlement of the star map. -/
  | getOpCfgJackpot
  /-- `getOpCfg` of the share. -/
  | getOpCfgShareRatio (jackpot : Jackpot)
  | distributeMatchReward (jackpot : Jackpot) (shareRatio : ℚ)

inductive Reply
  | deliver
  /-- `getOpCfg` of the share answers. -/
  | ratio (shareRatio : ℚ)
  | raise

inductive Request
  | setPvpMatchJackpot (data : JackpotData)
  | setStarmapMatchJackpot (data : JackpotData)
  /-- `addJackpotSysVal` of a match; on the star map only a season adds. -/
  | addJackpotSysVal (belong : Belong) (isSeason : Bool)
  /-- The settlement script of a PVP season reaches redis. -/
  | getPvpMatchSettlement (shareRatio : ℚ)
  /-- `onDistributeReward` of a match on the star map. -/
  | onDistributeReward (isSeason : Bool)

structure Redis where
  jackpot : Belong → Option Jackpot
  added : Belong → ℤ
  /-- Sum of the shares that settlements took. -/
  taken : Belong → ℤ

namespace Redis

/-- First segment of `setPvpMatchJackpot` and its siblings. -/
def setMatchJackpot (belong : Belong) (data : JackpotData) (redis : Redis) : Redis × List Task :=
  ({ redis with added := Function.update redis.added belong (redis.added belong + data.carboxyl) },
    [.get belong data])

/-- A settlement has taken its share of a pot. -/
def take (belong : Belong) (jackpot : Jackpot) (shareRatio : ℚ) (redis : Redis) : Redis :=
  { redis with
    taken := Function.update redis.taken belong
      (redis.taken belong + (jackpot.carboxyl - (jackpot.deduct shareRatio).carboxyl)) }

/-- The script changes nothing when there is no pot to decode. -/
def getPvpMatchSettlement (shareRatio : ℚ) (redis : Redis) : Redis :=
  match redis.jackpot .pvp with
  | none => redis
  | some jackpot =>
      { redis.take .pvp jackpot shareRatio with
        jackpot := Function.update redis.jackpot .pvp (some (jackpot.deduct shareRatio)) }

def accept (request : Request) (redis : Redis) : Redis × List Task :=
  match request with
  | .setPvpMatchJackpot data => redis.setMatchJackpot .pvp data
  | .setStarmapMatchJackpot data => redis.setMatchJackpot .starmap data
  | .addJackpotSysVal .pvp _ => redis.setMatchJackpot .pvp ⟨some (sysVal .pvp), none⟩
  | .addJackpotSysVal .starmap isSeason =>
      if isSeason then redis.setMatchJackpot .starmap ⟨some (sysVal .starmap), none⟩
      else (redis, [])
  | .getPvpMatchSettlement shareRatio => (redis.getPvpMatchSettlement shareRatio, [])
  | .onDistributeReward isSeason => (redis, if isSeason then [.getOpCfgJackpot] else [])

def resume (task : Task) (reply : Reply) (redis : Redis) : Redis × List Task :=
  match task, reply with
  | .get belong data, .deliver =>
      (redis, [.set belong (redis.jackpot belong) (increase data (redis.jackpot belong))])
  | .set belong _ info, .deliver =>
      ({ redis with jackpot := Function.update redis.jackpot belong (some info) }, [])
  | .getOpCfgJackpot, .deliver =>
      match redis.jackpot .starmap with
      -- A missing pot is filled with its default, and the answer does not wait for it.
      | none =>
          (redis, [.set .starmap none starmapJackpotInfo, .getOpCfgShareRatio starmapJackpotInfo])
      | some jackpot => (redis, [.getOpCfgShareRatio jackpot])
  | .getOpCfgShareRatio jackpot, .ratio shareRatio =>
      (redis, [.distributeMatchReward jackpot shareRatio])
  | .distributeMatchReward jackpot shareRatio, .deliver =>
      (redis.take .starmap jackpot shareRatio,
        [.set .starmap (some jackpot) (jackpot.deduct shareRatio)])
  | task, .ratio _ => (redis, [task])
  | .getOpCfgShareRatio jackpot, .deliver => (redis, [.getOpCfgShareRatio jackpot])
  | _, .raise => (redis, [])

end Redis

/-- Both pots with everyone who writes them. -/
def pots : Service Redis Request Task Reply where
  accept := Redis.accept
  resume := Redis.resume

def potsStart (jackpot : Belong → Option Jackpot) : Config Redis Task :=
  ⟨⟨jackpot, fun _ => 0, fun _ => 0⟩, []⟩

/-- A pot is what it was, with everything added and without the shares taken. -/
def NothingLost (jackpot : Belong → Option Jackpot) (config : Config Redis Task) : Prop :=
  config.Idle → ∀ belong,
    worth (config.state.jackpot belong) =
      worth (jackpot belong) + config.state.added belong - config.state.taken belong

/-- A write finds the amount that its writer has read and is not lost, and a settlement finds a
pot. -/
def undisturbed : Guard Redis Request Task Reply where
  onRequest _ _ _ := True
  onReply task reply redis _ :=
    match task, reply with
    | .get _ data, .raise => data.carboxyl = 0
    | .set belong value _, .deliver => worth (redis.jackpot belong) = worth value
    | .set _ value info, .raise => worth value = info.carboxyl
    | .getOpCfgJackpot, .deliver => redis.jackpot .starmap ≠ none
    | _, _ => True

instance (request redis others) : Decidable (undisturbed.onRequest request redis others) :=
  .isTrue trivial

instance (task reply redis others) : Decidable (undisturbed.onReply task reply redis others) := by
  unfold undisturbed
  dsimp only
  split <;> infer_instance

def potLedger (belong : Belong) : Ledger Redis Task ℤ where
  book redis := worth (redis.jackpot belong) - redis.added belong + redis.taken belong
  carry task :=
    match task with
    | .get other data => if other = belong then data.carboxyl else 0
    | .set other value info => if other = belong then info.carboxyl - worth value else 0
    | .getOpCfgJackpot | .getOpCfgShareRatio _ | .distributeMatchReward _ _ => 0

theorem setMatchJackpot_balances (belong other : Belong) (data : JackpotData) (redis : Redis) :
    (potLedger belong).Balances redis 0 (redis.setMatchJackpot other data) := by
  by_cases same : other = belong
  · subst same
    simp only [Ledger.Balances, Redis.setMatchJackpot, potLedger, Function.update_self, if_true,
      List.map_cons, List.map_nil, List.sum_cons, List.sum_nil]
    omega
  · have kept : belong ≠ other := fun eq => same eq.symm
    simp [Ledger.Balances, Redis.setMatchJackpot, potLedger, same, kept]

theorem getPvpMatchSettlement_book (belong : Belong) (shareRatio : ℚ) (redis : Redis) :
    (potLedger belong).book (redis.getPvpMatchSettlement shareRatio) =
      (potLedger belong).book redis := by
  unfold Redis.getPvpMatchSettlement
  cases found : redis.jackpot .pvp with
  | none => rfl
  | some jackpot =>
      cases belong with
      | pvp =>
          simp only [potLedger, Redis.take, Function.update_self, worth, Option.map_some,
            Option.getD_some, found]
          omega
      | starmap => simp [potLedger, Redis.take]

theorem accept_balances (belong : Belong) (request : Request) (redis : Redis) :
    (potLedger belong).Balances redis 0 (pots.accept request redis) := by
  have nothing : (potLedger belong).Balances redis 0 (redis, []) := by
    simp [Ledger.Balances]
  cases request with
  | setPvpMatchJackpot data => exact setMatchJackpot_balances belong .pvp data redis
  | setStarmapMatchJackpot data => exact setMatchJackpot_balances belong .starmap data redis
  | addJackpotSysVal other isSeason =>
      cases other with
      | pvp => exact setMatchJackpot_balances belong .pvp _ redis
      | starmap =>
          cases isSeason with
          | true => exact setMatchJackpot_balances belong .starmap _ redis
          | false => exact nothing
  | getPvpMatchSettlement shareRatio =>
      have book_eq := getPvpMatchSettlement_book belong shareRatio redis
      simp [Ledger.Balances, pots, Redis.accept, book_eq]
  | onDistributeReward isSeason =>
      cases isSeason with
      | true => simp [Ledger.Balances, pots, Redis.accept, potLedger]
      | false => exact nothing

theorem get_balances (belong other : Belong) (data : JackpotData) (redis : Redis) :
    (potLedger belong).Balances redis ((potLedger belong).carry (.get other data))
      (pots.resume (.get other data) .deliver redis) := by
  have grown := increase_carboxyl data (redis.jackpot other)
  by_cases same : other = belong
  · simp only [Ledger.Balances, pots, Redis.resume, potLedger, same, if_true, List.map_cons,
      List.map_nil, List.sum_cons, List.sum_nil]
    rw [same] at grown
    omega
  · simp [Ledger.Balances, pots, Redis.resume, potLedger, same]

theorem set_balances (belong other : Belong) {value : Option Jackpot} (info : Jackpot)
    {redis : Redis} (unchanged : worth (redis.jackpot other) = worth value) :
    (potLedger belong).Balances redis ((potLedger belong).carry (.set other value info))
      (pots.resume (.set other value info) .deliver redis) := by
  by_cases same : other = belong
  · subst same
    have written : worth (some info) = info.carboxyl := rfl
    simp only [Ledger.Balances, pots, Redis.resume, potLedger, if_true, Function.update_self,
      List.map_nil, List.sum_nil]
    omega
  · have kept : belong ≠ other := fun eq => same eq.symm
    simp [Ledger.Balances, pots, Redis.resume, potLedger, same, kept]

theorem distributeMatchReward_balances (belong : Belong) (jackpot : Jackpot) (shareRatio : ℚ)
    (redis : Redis) :
    (potLedger belong).Balances redis 0
      (pots.resume (.distributeMatchReward jackpot shareRatio) .deliver redis) := by
  have read : worth (some jackpot) = jackpot.carboxyl := rfl
  cases belong with
  | pvp => simp [Ledger.Balances, pots, Redis.resume, Redis.take, potLedger]
  | starmap =>
      simp only [Ledger.Balances, pots, Redis.resume, Redis.take, potLedger, if_true,
        Function.update_self, List.map_cons, List.map_nil, List.sum_cons, List.sum_nil]
      omega

theorem resume_balances (belong : Belong) (task : Task) (reply : Reply) (redis : Redis)
    (others : List Task) (allows : undisturbed.onReply task reply redis others) :
    (potLedger belong).Balances redis ((potLedger belong).carry task)
      (pots.resume task reply redis) := by
  have unanswered : ∀ task, (potLedger belong).Balances redis ((potLedger belong).carry task)
      (redis, [task]) := by
    intro task
    simp [Ledger.Balances]
  have dropped : ∀ task, (potLedger belong).carry task = 0 →
      (potLedger belong).Balances redis ((potLedger belong).carry task) (redis, []) := by
    intro task no_carry
    simp [Ledger.Balances, no_carry]
  cases task with
  | get other data =>
      cases reply with
      | deliver => exact get_balances belong other data redis
      | ratio shareRatio => exact unanswered _
      | raise =>
          have nothing : data.carboxyl = 0 := allows
          exact dropped _ (by simp [potLedger, nothing])
  | set other value info =>
      cases reply with
      | deliver => exact set_balances belong other info allows
      | ratio shareRatio => exact unanswered _
      | raise =>
          have nothing : worth value = info.carboxyl := allows
          exact dropped _ (by simp [potLedger, nothing])
  | getOpCfgJackpot =>
      cases reply with
      | deliver =>
          obtain ⟨jackpot, found⟩ := Option.ne_none_iff_exists'.mp
            (show redis.jackpot .starmap ≠ none from allows)
          simp [Ledger.Balances, pots, Redis.resume, found, potLedger]
      | ratio shareRatio => exact unanswered _
      | raise => exact dropped _ rfl
  | getOpCfgShareRatio jackpot =>
      cases reply with
      | deliver => exact unanswered _
      | ratio shareRatio => simp [Ledger.Balances, pots, Redis.resume, potLedger]
      | raise => exact dropped _ rfl
  | distributeMatchReward jackpot shareRatio =>
      cases reply with
      | deliver => exact distributeMatchReward_balances belong jackpot shareRatio redis
      | ratio other => exact unanswered _
      | raise => exact dropped _ rfl

/-- Over every undisturbed run, no addition and no share is lost. -/
theorem nothingLost_run (jackpot : Belong → Option Jackpot) (events : List (Event Request Reply))
    (admits : undisturbed.Admits pots (potsStart jackpot) events) :
    NothingLost jackpot (pots.run (potsStart jackpot) events) := by
  intro idle belong
  have total := Ledger.total_run_of_balances
    (fun request redis _ _ => accept_balances belong request redis) (resume_balances belong) admits
  have start_total : (potLedger belong).total (potsStart jackpot) = worth (jackpot belong) := by
    simp [Ledger.total, potLedger, potsStart]
  rw [start_total, Ledger.total, show Config.waiting _ = [] from idle] at total
  simp only [potLedger, List.map_nil, List.sum_nil] at total
  omega

def samplePots : Belong → Option Jackpot
  | .pvp => none
  | .starmap => some ⟨100, 50⟩

/-- A call adds 8, then a settlement takes one half. -/
def shareRun : List (Event Request Reply) :=
  [.request (.setStarmapMatchJackpot ⟨none, some 8⟩), .reply 0 .deliver, .reply 0 .deliver,
    .request (.onDistributeReward true), .reply 0 .deliver, .reply 0 (.ratio (1 / 2)),
    .reply 0 .deliver, .reply 0 .deliver]

theorem nothingLost_shareRun :
    (pots.run (potsStart samplePots) shareRun).state.jackpot .starmap = some ⟨50, 29⟩ ∧
      NothingLost samplePots (pots.run (potsStart samplePots) shareRun) :=
  ⟨by decide +kernel, nothingLost_run samplePots shareRun (by decide +kernel)⟩

/-- Both calls read the pot before either writes it. -/
def overwrittenRun : List (Event Request Reply) :=
  [.request (.setStarmapMatchJackpot ⟨none, some 8⟩),
    .request (.setStarmapMatchJackpot ⟨none, some 5⟩), .reply 0 .deliver, .reply 0 .deliver,
    .reply 0 .deliver, .reply 0 .deliver]

theorem not_nothingLost_overwrittenRun :
    ¬ NothingLost samplePots (pots.run (potsStart samplePots) overwrittenRun) :=
  fun kept => absurd (kept rfl .starmap) (by decide +kernel)

end BasWar.Matches.Pots
