import BasWar.Cooperative.Pool
import BasWar.Pvp.Settlement

/-!
# Rewards of PVP seasons

A settlement writes one hash for each rewarded player.  A player takes the reward at login, or when
the match service pushes the settlement, by deleting the hash; what was deleted is paid by mail.
Reading, deleting and mailing are on their way for a while, and anything else may happen in
between.
-/

namespace BasWar.Pvp.MatchReward

open Cooperative

structure Attachment where
  cfgId : Res
  count : ℤ
  deriving DecidableEq

/-- `mailData` with the arguments of its text. -/
structure Mail where
  score : ℤ
  stageName : String
  rank : ℕ
  attachment : List Attachment
  deriving DecidableEq

/-- The mail of `_sendMatchReward`, if there is anything to send. -/
def sendMatchReward (settleData : Reward) : Option Mail :=
  if settleData.carboxyl ≤ 0 ∧ settleData.mit ≤ 0 then none
  else
    some
      { score := settleData.score
        stageName := settleData.stageName
        rank := settleData.rank
        attachment :=
          (if 0 < settleData.carboxyl then [⟨.carboxyl, settleData.carboxyl⟩] else []) ++
            (if 0 < settleData.mit then [⟨.mit, settleData.mit⟩] else []) }

/-- An entry of `matchRecords`. -/
structure Record where
  rankTime : ℕ
  season : ℕ
  score : ℤ
  rank : ℕ
  mit : ℤ
  carboxyl : ℤ

/-- The reward hashes, the players and the match service. -/
structure Rewards where
  /-- The hash of each player. -/
  reward : ℕ → Option Reward
  members : List ℕ
  /-- `matchRecords` of each player. -/
  matchRecords : ℕ → List Record
  mails : ℕ → List Mail
  settled : ℕ → List Reward

inductive Task
  /-- The answer of the script on its way to the match service. -/
  | settlementList (rows : List (ℕ × Reward))
  | onPvpMatchSettlement (pid : ℕ) (settleData : Reward)
  | hgetall (pid : ℕ)
  | del (pid : ℕ) (settleData : Reward)
  /-- The answer of `del` on its way back. -/
  | delN (pid : ℕ) (deleted : Bool) (settleData : Reward)
  | gmSendMail (pid : ℕ) (mail : Mail)

inductive Reply
  /-- The message arrives. -/
  | deliver
  /-- The message is lost, its player is offline, or the call raises. -/
  | lost

inductive Request
  | joinMatch (pid : ℕ)
  /-- The script runs in redis. -/
  | getPvpMatchSettlement (ranking : Ranking) (matchData : MatchData)
  /-- `_checkMatchSettlement` of a login. -/
  | checkMatchSettlement (pid : ℕ)

namespace Rewards

/-- The script writes the hash of one player. -/
def hset (state : Rewards) (row : ℕ × Reward) : Rewards :=
  { state with
    reward := Function.update state.reward row.1 (some row.2)
    settled := Function.update state.settled row.1 (row.2 :: state.settled row.1) }

def settle (ranking : Ranking) (matchData : MatchData) (state : Rewards) : Rewards :=
  (ranking.rewards matchData).foldl hset state

def joinMatch (pid : ℕ) (state : Rewards) : Rewards :=
  if pid ∈ state.members then state else { state with members := pid :: state.members }

/-- `onDistributeReward` after the script has answered. -/
def pushes (rows : List (ℕ × Reward)) (state : Rewards) : List Task :=
  (rows.filter fun row => row.1 ∈ state.members ∧ 0 < row.2.score).map fun row =>
    .onPvpMatchSettlement row.1 row.2

/-- `matchSettlement` after `del` has answered. -/
def matchSettlement (pid : ℕ) (settleData : Reward) (state : Rewards) : Rewards × List Task :=
  ({ state with
      matchRecords := Function.update state.matchRecords pid
        (state.matchRecords pid ++
          [{  rankTime := settleData.rankTime
              season := settleData.season
              score := settleData.score
              rank := settleData.rank
              mit := settleData.mit
              carboxyl := settleData.carboxyl }]) },
    ((sendMatchReward settleData).map (Task.gmSendMail pid)).toList)

def accept (request : Request) (state : Rewards) : Rewards × List Task :=
  match request with
  | .joinMatch pid => (state.joinMatch pid, [])
  | .getPvpMatchSettlement ranking matchData =>
      (state.settle ranking matchData, [.settlementList (ranking.rows matchData)])
  | .checkMatchSettlement pid => (state, [.hgetall pid])

def resume (task : Task) (reply : Reply) (state : Rewards) : Rewards × List Task :=
  match task, reply with
  | .settlementList rows, .deliver => (state, state.pushes rows)
  | .onPvpMatchSettlement pid settleData, .deliver => (state, [.del pid settleData])
  | .hgetall pid, .deliver => (state, ((state.reward pid).map (Task.del pid)).toList)
  | .del pid settleData, .deliver =>
      ({ state with reward := Function.update state.reward pid none },
        [.delN pid (state.reward pid).isSome settleData])
  | .delN pid deleted settleData, .deliver =>
      if deleted then state.matchSettlement pid settleData else (state, [])
  | .gmSendMail pid mail, .deliver =>
      ({ state with mails := Function.update state.mails pid (state.mails pid ++ [mail]) }, [])
  | _, .lost => (state, [])

def pending (state : Rewards) (pid : ℕ) : Option Mail :=
  (state.reward pid).bind sendMatchReward

end Rewards

/-- The settlements of all seasons and the claims of all players. -/
def matchRewards : Service Rewards Request Task Reply where
  accept := Rewards.accept
  resume := Rewards.resume

def rewardsStart : Config Rewards Task :=
  ⟨⟨fun _ => none, [], fun _ => [], fun _ => [], fun _ => []⟩, []⟩

/-- The mails that a player got and the one that is left are those of the settlements. -/
def PaidOnce (config : Config Rewards Task) : Prop :=
  config.Idle → ∀ pid,
    (config.state.mails pid ++ (config.state.pending pid).toList).Perm
      ((config.state.settled pid).filterMap sendMatchReward)

/-- No hash is overwritten while it is worth a mail, a delete finds what its claim has, or nothing,
and what was deleted reaches its player. -/
def undisturbed : Guard Rewards Request Task Reply where
  onRequest request state _ :=
    match request with
    | .getPvpMatchSettlement ranking matchData =>
        ∀ row ∈ ranking.rewards matchData, state.pending row.1 = none
    | .joinMatch _ | .checkMatchSettlement _ => True
  onReply task reply state _ :=
    match task, reply with
    | .del pid settleData, .deliver =>
        state.reward pid = none ∨ state.pending pid = sendMatchReward settleData
    | .delN _ true settleData, .lost => sendMatchReward settleData = none
    | .gmSendMail _ _, .lost => False
    | _, _ => True

instance (request state others) : Decidable (undisturbed.onRequest request state others) := by
  unfold undisturbed
  dsimp only
  split <;> infer_instance

instance (task reply state others) : Decidable (undisturbed.onReply task reply state others) := by
  unfold undisturbed
  dsimp only
  split <;> infer_instance

def copies (mail : Mail) (found : Option Mail) : ℤ :=
  if found = some mail then 1 else 0

@[simp]
theorem copies_none (mail : Mail) : copies mail none = 0 := by
  simp [copies]

theorem copies_cons (mail : Mail) (settleData : Reward) (settled : List Reward) :
    (((settleData :: settled).filterMap sendMatchReward).count mail : ℤ) =
      (settled.filterMap sendMatchReward).count mail +
        copies mail (sendMatchReward settleData) := by
  cases worth : sendMatchReward settleData with
  | none => simp [worth]
  | some other =>
      by_cases same : other = mail
      · simp [worth, copies, same]
      · simp [worth, copies, same]

theorem count_toList (mail : Mail) (found : Option Mail) :
    (found.toList.count mail : ℤ) = copies mail found := by
  cases found with
  | none => rfl
  | some other =>
      by_cases same : other = mail
      · simp [copies, same]
      · simp [copies, same]

/-- Where the copies of a mail to a player are. -/
def mailLedger (pid : ℕ) (mail : Mail) : Ledger Rewards Task ℤ where
  book state :=
    (state.mails pid).count mail + copies mail (state.pending pid) -
      ((state.settled pid).filterMap sendMatchReward).count mail
  carry task :=
    match task with
    | .delN other true settleData =>
        if other = pid then copies mail (sendMatchReward settleData) else 0
    | .gmSendMail other sent => if other = pid then copies mail (some sent) else 0
    | _ => 0

variable {state : Rewards}

section

variable (pid : ℕ) (mail : Mail)

theorem hset_book {row : ℕ × Reward} (worthless : state.pending row.1 = none) :
    (mailLedger pid mail).book (state.hset row) = (mailLedger pid mail).book state := by
  by_cases same : pid = row.1
  · subst same
    have pending_eq : (state.hset row).pending row.1 = sendMatchReward row.2 := by
      simp [Rewards.pending, Rewards.hset]
    have settled_eq : (state.hset row).settled row.1 = row.2 :: state.settled row.1 := by
      simp [Rewards.hset]
    have mails_eq : (state.hset row).mails = state.mails := rfl
    simp only [mailLedger, pending_eq, settled_eq, mails_eq, copies_cons, worthless, copies_none]
    omega
  · simp [mailLedger, Rewards.pending, Rewards.hset, same]

theorem settle_book {rows : List (ℕ × Reward)} (nodup : (rows.map Prod.fst).Nodup)
    (worthless : ∀ row ∈ rows, state.pending row.1 = none) :
    (mailLedger pid mail).book (rows.foldl Rewards.hset state) =
      (mailLedger pid mail).book state := by
  induction rows generalizing state with
  | nil => rfl
  | cons row rows ih =>
      rw [List.map_cons, List.nodup_cons] at nodup
      have later : ∀ other ∈ rows, (state.hset row).pending other.1 = none := by
        intro other other_mem
        have other_ne : other.1 ≠ row.1 := fun same =>
          nodup.1 (same ▸ List.mem_map_of_mem other_mem)
        have same_hash : (state.hset row).pending other.1 = state.pending other.1 := by
          simp [Rewards.pending, Rewards.hset, other_ne]
        rw [same_hash]
        exact worthless other (List.mem_cons_of_mem row other_mem)
      rw [List.foldl_cons, ih nodup.2 later]
      exact hset_book pid mail (worthless row List.mem_cons_self)

theorem accept_balances (request : Request) (state : Rewards) (others : List Task)
    (allows : undisturbed.onRequest request state others) :
    (mailLedger pid mail).Balances state 0 (matchRewards.accept request state) := by
  cases request with
  | joinMatch other =>
      have book_eq : (mailLedger pid mail).book (state.joinMatch other) =
          (mailLedger pid mail).book state := by
        unfold Rewards.joinMatch
        split <;> rfl
      simp [Ledger.Balances, matchRewards, Rewards.accept, book_eq]
  | getPvpMatchSettlement ranking matchData =>
      have book_eq := settle_book pid mail (ranking.rewards_nodup matchData) allows
      have no_carry : (mailLedger pid mail).carry (.settlementList (ranking.rows matchData)) = 0 :=
        rfl
      simp [Ledger.Balances, matchRewards, Rewards.accept, Rewards.settle, book_eq, no_carry]
  | checkMatchSettlement other =>
      simp [Ledger.Balances, matchRewards, Rewards.accept, mailLedger]

theorem del_balances {other : ℕ} {settleData : Reward}
    (same : state.reward other = none ∨ state.pending other = sendMatchReward settleData) :
    (mailLedger pid mail).Balances state 0
      (matchRewards.resume (.del other settleData) .deliver state) := by
  by_cases is_pid : other = pid
  · subst is_pid
    cases found : state.reward other with
    | none =>
        simp [Ledger.Balances, matchRewards, Rewards.resume, mailLedger, Rewards.pending, found]
    | some stored =>
        have worth : sendMatchReward stored = sendMatchReward settleData := by
          simpa [found, Rewards.pending] using same
        simp only [Ledger.Balances, matchRewards, Rewards.resume, mailLedger, Rewards.pending,
          found, worth, Function.update_self, Option.bind_none, Option.bind_some,
          Option.isSome_some, copies_none, List.map_cons, List.map_nil, List.sum_cons,
          List.sum_nil, if_true]
        omega
  · have kept : pid ≠ other := fun eq => is_pid eq.symm
    have no_carry :
        ∀ deleted, (mailLedger pid mail).carry (.delN other deleted settleData) = 0 := by
      intro deleted
      cases deleted <;> simp [mailLedger, is_pid]
    simp only [Ledger.Balances, matchRewards, Rewards.resume, List.map_cons, List.map_nil,
      List.sum_cons, List.sum_nil, no_carry]
    simp [mailLedger, Rewards.pending, kept]

theorem matchSettlement_balances (other : ℕ) (settleData : Reward) (state : Rewards) :
    (mailLedger pid mail).Balances state ((mailLedger pid mail).carry (.delN other true settleData))
      (state.matchSettlement other settleData) := by
  have book_eq : (mailLedger pid mail).book (state.matchSettlement other settleData).1 =
      (mailLedger pid mail).book state := rfl
  rw [Ledger.Balances, book_eq]
  cases worth : sendMatchReward settleData with
  | none => simp [Rewards.matchSettlement, mailLedger, worth]
  | some sent => simp [Rewards.matchSettlement, mailLedger, worth]

theorem pushes_carry (rows : List (ℕ × Reward)) (state : Rewards) :
    ((state.pushes rows).map (mailLedger pid mail).carry).sum = 0 := by
  apply List.sum_eq_zero
  intro amount amount_mem
  obtain ⟨task, task_mem, rfl⟩ := List.mem_map.mp amount_mem
  obtain ⟨row, row_mem, rfl⟩ := List.mem_map.mp task_mem
  rfl

theorem resume_balances (task : Task) (reply : Reply) (state : Rewards) (others : List Task)
    (allows : undisturbed.onReply task reply state others) :
    (mailLedger pid mail).Balances state ((mailLedger pid mail).carry task)
      (matchRewards.resume task reply state) := by
  cases task with
  | settlementList rows =>
      cases reply with
      | deliver =>
          have book_eq : (mailLedger pid mail).carry (.settlementList rows) = 0 := rfl
          simp only [Ledger.Balances, matchRewards, Rewards.resume, pushes_carry, book_eq]
      | lost => simp [Ledger.Balances, matchRewards, Rewards.resume, mailLedger]
  | onPvpMatchSettlement other settleData =>
      cases reply <;> simp [Ledger.Balances, matchRewards, Rewards.resume, mailLedger]
  | hgetall other =>
      cases reply with
      | deliver =>
          cases found : state.reward other <;>
            simp [Ledger.Balances, matchRewards, Rewards.resume, mailLedger, found]
      | lost => simp [Ledger.Balances, matchRewards, Rewards.resume, mailLedger]
  | del other settleData =>
      cases reply with
      | deliver => exact del_balances pid mail allows
      | lost => simp [Ledger.Balances, matchRewards, Rewards.resume, mailLedger]
  | delN other deleted settleData =>
      cases deleted with
      | false => cases reply <;> simp [Ledger.Balances, matchRewards, Rewards.resume, mailLedger]
      | true =>
          cases reply with
          | deliver => exact matchSettlement_balances pid mail other settleData state
          | lost =>
              have nothing : sendMatchReward settleData = none := allows
              simp [Ledger.Balances, matchRewards, Rewards.resume, mailLedger, nothing]
  | gmSendMail other sent =>
      cases reply with
      | deliver =>
          by_cases is_pid : other = pid
          · subst is_pid
            have counted := count_toList mail (some sent)
            simp only [Option.toList_some] at counted
            simp only [Ledger.Balances, matchRewards, Rewards.resume, mailLedger, Rewards.pending,
              Function.update_self, List.count_append, List.map_nil, List.sum_nil, if_true,
              Nat.cast_add, counted]
            omega
          · have kept : pid ≠ other := fun eq => is_pid eq.symm
            simp [Ledger.Balances, matchRewards, Rewards.resume, mailLedger, Rewards.pending, kept,
              is_pid]
      | lost => exact allows.elim

end

/-- Over every undisturbed run, each reward is paid once or still pending. -/
theorem paidOnce_run (events : List (Event Request Reply))
    (admits : undisturbed.Admits matchRewards rewardsStart events) :
    PaidOnce (matchRewards.run rewardsStart events) := by
  intro idle pid
  rw [List.perm_iff_count]
  intro mail
  have total := Ledger.total_run_of_balances (accept_balances pid mail) (resume_balances pid mail)
    admits
  have start_total : (mailLedger pid mail).total rewardsStart = 0 := rfl
  rw [start_total, Ledger.total, show Config.waiting _ = [] from idle] at total
  have counted := count_toList mail ((matchRewards.run rewardsStart events).state.pending pid)
  rw [List.count_append]
  simp only [mailLedger, List.map_nil, List.sum_nil] at total
  omega

def sampleRanking (pot : ℤ) : Ranking where
  rankList := [(1, 10)]
  nodup := by decide
  jackpot := ⟨pot, 0⟩
  shareRatio := 1
  stageRatio := [⟨1, "General", 1, 0, 100⟩]
  rankMitCfg := [⟨1, 1, 7⟩]

/-- A season is settled, and the player takes the reward at a login. -/
def claimRun : List (Event Request Reply) :=
  [.request (.getPvpMatchSettlement (sampleRanking 40) ⟨1, 100, 200⟩), .reply 0 .deliver,
    .request (.checkMatchSettlement 1), .reply 0 .deliver, .reply 0 .deliver, .reply 0 .deliver,
    .reply 0 .deliver]

theorem paidOnce_claimRun :
    (matchRewards.run rewardsStart claimRun).state.mails 1 =
        [⟨10, "General", 1, [⟨.carboxyl, 40⟩, ⟨.mit, 7⟩]⟩] ∧
      PaidOnce (matchRewards.run rewardsStart claimRun) :=
  ⟨by decide +kernel, paidOnce_run claimRun (by decide +kernel)⟩

/-- A second season is settled before the player has taken the reward of the first. -/
def wipedRun : List (Event Request Reply) :=
  [.request (.getPvpMatchSettlement (sampleRanking 40) ⟨1, 100, 200⟩), .reply 0 .deliver,
    .request (.getPvpMatchSettlement (sampleRanking 60) ⟨2, 300, 400⟩), .reply 0 .deliver]

theorem not_paidOnce_wipedRun : ¬ PaidOnce (matchRewards.run rewardsStart wipedRun) :=
  fun once => absurd (once rfl 1) (by decide +kernel)

end BasWar.Pvp.MatchReward
