import BasWar.Unions.SeasonReward

/-!
# What a union season pays

A share is booked twice: in the settlement data of the union and in the mail of the player.  The
shares of one union come to at most what it has, as long as no amount is split by weights of which
some are negative.
-/

namespace BasWar.SeasonReward

open Tables

/-! ## Both books agree -/

def listedHy (player : Player) (unionId : ℕ) : ℤ :=
  (Share.all.map fun share => ((player.rewards unionId).hy share).getD 0).sum

def listedMit (player : Player) (unionId : ℕ) : ℤ :=
  (Share.all.map fun share => ((player.rewards unionId).mit share).getD 0).sum

def Fair (reward : UnionReward) : Prop :=
  ∀ share, (∀ value ∈ reward.hy share, 0 ≤ value) ∧ ∀ value ∈ reward.mit share, 0 ≤ value

/-- Two players with the same shares and the same mail. -/
structure SameBooks (player other : Player) : Prop where
  hy : other.hy = player.hy
  mit : other.mit = player.mit
  listed : ∀ unionId, (other.rewards unionId).hy = (player.rewards unionId).hy ∧
    (other.rewards unionId).mit = (player.rewards unionId).mit

/-- What a union has paid to a player since `start`, with some shares still to come. -/
structure Booked (unionId : ℕ) (toCome : List Share) (start player : Player) : Prop where
  elsewhere : ∀ other, other ≠ unionId →
    (player.rewards other).hy = (start.rewards other).hy ∧
      (player.rewards other).mit = (start.rewards other).mit
  hy : player.hy = start.hy + listedHy player unionId
  mit : player.mit = start.mit + listedMit player unionId
  unlisted : ∀ share ∈ toCome, (player.rewards unionId).hy share = none ∧
    (player.rewards unionId).mit share = none
  fair : Fair (player.rewards unionId)

section Books

variable {unionId : ℕ} {toCome : List Share} {share : Share} {start player other : Player}

theorem Booked.of_same (booked : Booked unionId toCome start player)
    (same : SameBooks player other) : Booked unionId toCome start other := by
  obtain ⟨hy_eq, mit_eq, listed⟩ := same
  have listedHy_eq : listedHy other unionId = listedHy player unionId := by
    rw [listedHy, listedHy, (listed unionId).1]
  have listedMit_eq : listedMit other unionId = listedMit player unionId := by
    rw [listedMit, listedMit, (listed unionId).2]
  refine ⟨fun name different => ?_, ?_, ?_, fun share share_mem => ?_, fun share => ?_⟩
  · rw [(listed name).1, (listed name).2]
    exact booked.elsewhere name different
  · rw [hy_eq, listedHy_eq]
    exact booked.hy
  · rw [mit_eq, listedMit_eq]
    exact booked.mit
  · rw [(listed unionId).1, (listed unionId).2]
    exact booked.unlisted share share_mem
  · rw [(listed unionId).1, (listed unionId).2]
    exact booked.fair share

theorem Booked.skip {more : List Share} (booked : Booked unionId toCome start player)
    (fewer : more ⊆ toCome) : Booked unionId more start player :=
  ⟨booked.elsewhere, booked.hy, booked.mit, fun share share_mem =>
    booked.unlisted share (fewer share_mem), booked.fair⟩

theorem sum_update {shares : Share → Option ℤ} (unlisted : shares share = none)
    (value : Option ℤ) :
    (Share.all.map fun other => (Function.update shares share value other).getD 0).sum =
      (Share.all.map fun other => (shares other).getD 0).sum + value.getD 0 := by
  cases share <;> simp [Share.all, Function.update, unlisted] <;> ring

theorem Booked.pay {hy : ℤ} {mit : Option ℤ}
    (booked : Booked unionId (share :: toCome) start player) (once : share ∉ toCome)
    (hy_nonneg : 0 ≤ hy) (mit_nonneg : ∀ value ∈ mit, 0 ≤ value) :
    Booked unionId toCome start (player.pay unionId share hy mit) := by
  obtain ⟨hy_none, mit_none⟩ := booked.unlisted share List.mem_cons_self
  refine ⟨fun name different => ?_, ?_, ?_, fun other other_mem => ?_, fun other => ?_⟩
  · simp only [Player.pay, Function.update_of_ne different]
    exact booked.elsewhere name different
  · simp only [listedHy, Player.pay, Function.update_self]
    rw [sum_update hy_none, booked.hy, listedHy, Option.getD_some, add_assoc]
  · simp only [listedMit, Player.pay, Function.update_self]
    rw [sum_update mit_none, booked.mit, listedMit, add_assoc]
  · have different : other ≠ share := fun same => once (same ▸ other_mem)
    simp only [Player.pay, Function.update_self, Function.update_of_ne different]
    exact booked.unlisted other (List.mem_cons_of_mem share other_mem)
  · by_cases same : other = share
    · subst same
      simp only [Player.pay, Function.update_self]
      exact ⟨fun value value_eq => Option.some.inj value_eq ▸ hy_nonneg, mit_nonneg⟩
    · simp only [Player.pay, Function.update_self, Function.update_of_ne same]
      exact booked.fair other

theorem same_of_rewards {reward : UnionReward}
    (rewards_eq : other.rewards = Function.update player.rewards unionId reward)
    (hy_eq : reward.hy = (player.rewards unionId).hy)
    (mit_eq : reward.mit = (player.rewards unionId).mit) (mail_hy : other.hy = player.hy)
    (mail_mit : other.mit = player.mit) : SameBooks player other := by
  refine ⟨mail_hy, mail_mit, fun name => ?_⟩
  rw [rewards_eq]
  by_cases same : name = unionId
  · subst same
    rw [Function.update_self]
    exact ⟨hy_eq, mit_eq⟩
  · rw [Function.update_of_ne same]
    exact ⟨rfl, rfl⟩

theorem same_noteJob (config : Config) (union : Union) (unionJob : ℤ) :
    SameBooks player (player.noteJob config unionId union unionJob) :=
  same_of_rewards rfl rfl rfl rfl rfl

theorem same_noteRankJob (config : Config) (union : Union) (rankDict : RankDict) (unionJob : ℤ) :
    SameBooks player (player.noteRankJob config unionId union rankDict unionJob) :=
  same_of_rewards rfl rfl rfl rfl rfl

theorem same_noteWeigh (union : Union) (kind : Weigh) (ranked : Bool) (pid : ℕ) (pval : MemVal) :
    SameBooks player (player.noteWeigh unionId union kind ranked pid pval) := by
  unfold Player.noteWeigh
  dsimp only
  split
  · exact same_of_rewards rfl rfl rfl rfl rfl
  · exact same_of_rewards rfl rfl rfl rfl rfl

end Books

/-- A loop that lists one share for each of its players. -/
structure Pays {Value : Type*} (table : Dict ℕ Value) (unionId : ℕ) (share : Share)
    (change : ℕ → Value → Player → Player) (hy : Value → ℤ) (mit : Value → Option ℤ) : Prop where
  change_eq : ∀ pid value player, ∃ noted, SameBooks player noted ∧
    change pid value player = noted.pay unionId share (hy value) (mit value)
  hy_nonneg : ∀ entry ∈ table.objects, 0 ≤ hy entry.2
  mit_nonneg : ∀ entry ∈ table.objects, ∀ value ∈ mit entry.2, 0 ≤ value

/-! ## The amounts -/

def totalHy (players : Players) : ℤ :=
  (players.objects.map fun entry => entry.2.hy).sum

def totalMit (players : Players) : ℤ :=
  (players.objects.map fun entry => entry.2.mit).sum

/-- What is left of an amount after the shares by job. -/
def restOf (config : Config) (union : Union) (amount : ℚ) : ℚ :=
  amount - jobCost config union.members amount

/-- A positive amount with a positive total weight is not split by negative weights. -/
def FairSplit (weights : Dict ℕ ℚ) (amount : ℚ) : Prop :=
  0 < amount → 0 < totalOf weights → ∀ entry ∈ weights.objects, 0 ≤ entry.2

/-- Both parts of the rest of an amount are split so. -/
def FairAmount (config : Config) (union : Union) (amount : ℚ) : Prop :=
  FairSplit union.contriDegree (restOf config union amount * config.contributeRatio) ∧
    FairSplit union.combatDict (restOf config union amount * (1 - config.contributeRatio))

/-- The job ratios of a union come to at most 1. -/
def JobsFit (config : Config) (union : Union) : Prop :=
  (union.members.objects.map fun member => config.getUnionJobRewardRatio member.2).sum ≤ 1

section Loops

variable {Value : Type*} {table : Dict ℕ Value} {unionId : ℕ} {share : Share}
  {change : ℕ → Value → Player → Player} {hy : Value → ℤ} {mit : Value → Option ℤ}
  {toCome : List Share} {start : Player} {players : Players}

theorem Booked.loop (pays : Pays table unionId share change hy mit) (once : share ∉ toCome)
    {pid : ℕ} (booked : Booked unionId (share :: toCome) start (account players pid)) :
    Booked unionId toCome start (account (loop table change players) pid) := by
  rw [account_loop]
  cases found : table.lookup pid with
  | none => exact booked.skip (List.subset_cons_self _ _)
  | some value =>
      obtain ⟨noted, same, change_eq⟩ := pays.change_eq pid value (account players pid)
      have entry_mem := Dict.mem_of_lookup found
      dsimp only
      rw [change_eq]
      exact (booked.of_same same).pay once (pays.hy_nonneg _ entry_mem)
        (pays.mit_nonneg _ entry_mem)

theorem Pays.totalHy (pays : Pays table unionId share change hy mit) :
    totalHy (loop table change players) =
      totalHy players + (table.objects.map fun entry => hy entry.2).sum := by
  refine sum_loop Player.hy hy rfl fun pid value player => ?_
  obtain ⟨noted, same, change_eq⟩ := pays.change_eq pid value player
  rw [change_eq, ← same.hy]
  rfl

theorem Pays.totalMit (pays : Pays table unionId share change hy mit) :
    totalMit (loop table change players) =
      totalMit players + (table.objects.map fun entry => (mit entry.2).getD 0).sum := by
  refine sum_loop Player.mit (fun value => (mit value).getD 0) rfl fun pid value player => ?_
  obtain ⟨noted, same, change_eq⟩ := pays.change_eq pid value player
  rw [change_eq, ← same.mit]
  rfl

end Loops

section Amounts

variable {config : Config} {union : Union} {amount : ℚ}

theorem ratio_nonneg (config : Config) (unionJob : ℤ) :
    0 ≤ config.getUnionJobRewardRatio unionJob :=
  div_nonneg (Nat.cast_nonneg _) (by norm_num)

theorem job_nonneg (amount_nonneg : 0 ≤ amount) (unionJob : ℤ) :
    0 ≤ ⌊amount * config.getUnionJobRewardRatio unionJob⌋ :=
  Int.floor_nonneg.mpr (mul_nonneg amount_nonneg (ratio_nonneg config unionJob))

theorem jobCost_eq (amount_nonneg : 0 ≤ amount) :
    jobCost config union.members amount = (union.members.objects.map fun member =>
      ⌊amount * config.getUnionJobRewardRatio member.2⌋).sum := by
  unfold jobCost
  congr 1
  exact List.map_congr_left fun member _ => max_eq_left (job_nonneg amount_nonneg member.2)

theorem jobs_le (fit : JobsFit config union) (amount_nonneg : 0 ≤ amount) :
    (((union.members.objects.map fun member =>
      ⌊amount * config.getUnionJobRewardRatio member.2⌋).sum : ℤ) : ℚ) ≤ amount := by
  have cost_le := sum_floor_mul_le amount_nonneg fit
  rwa [List.map_map] at cost_le

theorem restOf_nonneg (fit : JobsFit config union) (amount_nonneg : 0 ≤ amount) :
    0 ≤ restOf config union amount := by
  rw [restOf, jobCost_eq amount_nonneg]
  exact sub_nonneg.mpr (jobs_le fit amount_nonneg)

theorem rewardOf_getD (value per : ℚ) : (rewardOf value per).getD 0 = max ⌊value * per⌋ 0 := by
  unfold rewardOf
  split
  next pos => exact (max_eq_left pos.le).symm
  next small => exact (max_eq_right (not_lt.mp small)).symm

theorem memVal_carboxyl (all carboxyl pval : ℚ) (mit : Option ℚ) :
    ((memVal all carboxyl mit pval).elim 0 fun val => val.carboxyl.getD 0) =
      weightShare carboxyl all pval := by
  unfold memVal weightShare
  split
  · rw [← rewardOf_getD]
    cases rewardOf carboxyl (pval / all) with
    | none =>
        dsimp only
        split <;> rfl
    | some reward => rfl
  · rfl

theorem memVal_mit (all carboxyl pval amount : ℚ) :
    ((memVal all carboxyl (some amount) pval).elim 0 fun val => val.mit.getD 0) =
      weightShare amount all pval := by
  unfold memVal weightShare
  split
  · rw [← rewardOf_getD, Option.bind_some]
    cases rewardOf amount (pval / all) with
    | none =>
        dsimp only
        split <;> rfl
    | some reward =>
        dsimp only [Option.isSome_some]
        rw [if_pos (Bool.or_true _)]
        rfl
  · rfl

variable {weights : Dict ℕ ℚ} {carboxyl : ℚ}

theorem sum_getMemVal_le {mit : Option ℚ} (field : MemVal → ℤ) (amount_nonneg : 0 ≤ amount)
    (fair : FairSplit weights amount)
    (field_eq : ∀ pval, (memVal (totalOf weights) carboxyl mit pval).elim 0 field =
      weightShare amount (totalOf weights) pval) :
    ((((getMemVal weights carboxyl mit).objects.map fun entry => field entry.2).sum : ℤ) : ℚ) ≤
      amount := by
  unfold getMemVal
  split
  · exact amount_nonneg
  · rw [Dict.sum_filterMap]
    simp only [field_eq]
    rcases amount_nonneg.eq_or_lt with zero | pos
    · have nothing (pval : ℚ) : weightShare amount (totalOf weights) pval = 0 := by
        simp [weightShare, ← zero]
      simp only [nothing, List.sum_map_zero, Int.cast_zero]
      exact amount_nonneg
    · have weights_fair : 0 < (weights.objects.map Prod.snd).sum →
          ∀ weight ∈ weights.objects.map Prod.snd, 0 ≤ weight := by
        intro total_pos weight weight_mem
        obtain ⟨entry, entry_mem, rfl⟩ := List.mem_map.mp weight_mem
        exact fair pos total_pos entry entry_mem
      have shares_le := sum_weightShare_le amount_nonneg weights_fair
      rwa [List.map_map] at shares_le

theorem sum_carboxyl_le (amount_nonneg : 0 ≤ amount) (fair : FairSplit weights amount)
    (mit : Option ℚ) :
    ((((getMemVal weights amount mit).objects.map
      fun entry => entry.2.carboxyl.getD 0).sum : ℤ) : ℚ) ≤ amount :=
  sum_getMemVal_le (fun val => val.carboxyl.getD 0) amount_nonneg fair
    fun pval => memVal_carboxyl _ _ pval mit

theorem sum_mit_le (amount_nonneg : 0 ≤ amount) (fair : FairSplit weights amount) (carboxyl : ℚ) :
    ((((getMemVal weights carboxyl (some amount)).objects.map
      fun entry => entry.2.mit.getD 0).sum : ℤ) : ℚ) ≤ amount :=
  sum_getMemVal_le (fun val => val.mit.getD 0) amount_nonneg fair
    fun pval => memVal_mit _ carboxyl pval amount

theorem memVal_nonneg {all pval : ℚ} {mit : Option ℚ} {val : MemVal}
    (found : memVal all carboxyl mit pval = some val) :
    0 ≤ val.carboxyl.getD 0 ∧ 0 ≤ val.mit.getD 0 := by
  have reward_nonneg (value per : ℚ) : 0 ≤ (rewardOf value per).getD 0 := by
    rw [rewardOf_getD]
    exact le_max_right _ _
  unfold memVal at found
  split at found
  · dsimp only at found
    split at found
    · cases found
      refine ⟨reward_nonneg _ _, ?_⟩
      cases mit with
      | none => exact le_rfl
      | some value => exact reward_nonneg value _
    · cases found
  · cases found
    exact ⟨le_rfl, le_rfl⟩

theorem getMemVal_nonneg {mit : Option ℚ} {entry : ℕ × MemVal}
    (entry_mem : entry ∈ (getMemVal weights carboxyl mit).objects) :
    0 ≤ entry.2.carboxyl.getD 0 ∧ 0 ≤ entry.2.mit.getD 0 := by
  unfold getMemVal at entry_mem
  split at entry_mem
  · cases entry_mem
  · obtain ⟨weight, _, changed⟩ := List.mem_filterMap.mp entry_mem
    obtain ⟨val, found, rfl⟩ := Option.map_eq_some_iff.mp changed
    exact memVal_nonneg found

end Amounts

/-! ## One union -/

section Unions

variable {config : Config} {unionId : ℕ} {union : Union} {rankDict : RankDict}
  {players : Players} {start : Player} {pid : ℕ}

theorem pays_job (carboxyl_nonneg : 0 ≤ union.carboxyl) :
    Pays union.members unionId .job
      (fun _ unionJob => Player.payJob config unionId union unionJob)
      (fun unionJob => ⌊union.carboxyl * config.getUnionJobRewardRatio unionJob⌋)
      fun _ => none :=
  ⟨fun _ unionJob _ => ⟨_, same_noteJob config union unionJob, rfl⟩,
    fun entry _ => job_nonneg carboxyl_nonneg entry.2, fun _ _ _ mit_eq => by cases mit_eq⟩

theorem pays_rankJob (hyt_nonneg : 0 ≤ rankDict.hyt) (mit_nonneg : 0 ≤ rankDict.mit) :
    Pays union.members unionId .rankJob
      (fun _ unionJob => Player.payRankJob config unionId union rankDict unionJob)
      (fun unionJob => ⌊rankDict.hyt * config.getUnionJobRewardRatio unionJob⌋)
      fun unionJob => some ⌊rankDict.mit * config.getUnionJobRewardRatio unionJob⌋ :=
  ⟨fun _ unionJob _ => ⟨_, same_noteRankJob config union rankDict unionJob, rfl⟩,
    fun entry _ => job_nonneg hyt_nonneg entry.2,
    fun entry _ _ mit_eq => Option.some.inj mit_eq ▸ job_nonneg mit_nonneg entry.2⟩

theorem pays_weigh (weights : Dict ℕ ℚ) (carboxyl : ℚ) (mit : Option ℚ) (kind : Weigh)
    (ranked : Bool) :
    Pays (getMemVal weights carboxyl mit) unionId (kind.share ranked)
      (Player.payWeigh unionId union kind ranked) (fun pval => pval.carboxyl.getD 0)
      fun pval => if ranked then some (pval.mit.getD 0) else none := by
  refine ⟨fun pid pval _ => ⟨_, same_noteWeigh union kind ranked pid pval, rfl⟩,
    fun entry entry_mem => (getMemVal_nonneg entry_mem).1, fun entry entry_mem value value_eq => ?_⟩
  split at value_eq
  · exact Option.some.inj value_eq ▸ (getMemVal_nonneg entry_mem).2
  · cases value_eq

theorem booked_payCarboxyl (booked : Booked unionId Share.all start (account players pid)) :
    Booked unionId [.rankJob, .rankContri, .rankCombat] start
      (account (payCarboxyl config unionId union players).2 pid) := by
  unfold payCarboxyl
  split
  next carboxyl_pos =>
    apply Booked.loop (pays_weigh _ _ none .combat false) (by decide)
    apply Booked.loop (pays_weigh _ _ none .contribute false) (by decide)
    exact booked.loop (pays_job carboxyl_pos.le) (by decide)
  · exact booked.skip (by simp [Share.all])

theorem booked_payRank (hyt_nonneg : 0 ≤ rankDict.hyt) (mit_nonneg : 0 ≤ rankDict.mit)
    (booked : Booked unionId [.rankJob, .rankContri, .rankCombat] start (account players pid)) :
    Booked unionId [] start (account (payRank config unionId union rankDict players).2 pid) := by
  unfold payRank
  split
  · dsimp only
    split
    · apply Booked.loop (pays_weigh _ _ (some _) .combat true) (by decide)
      apply Booked.loop (pays_weigh _ _ (some _) .contribute true) (by decide)
      exact booked.loop (pays_rankJob hyt_nonneg mit_nonneg) (by decide)
    · exact (booked.loop (pays_rankJob hyt_nonneg mit_nonneg) (by decide)).skip
        (List.nil_subset _)
  · exact booked.skip (List.nil_subset _)

section Totals

theorem split_le {amount : ℚ} (amount_nonneg : 0 ≤ amount) {contri combat : ℤ}
    (contri_le : (contri : ℚ) ≤ restOf config union amount * config.contributeRatio)
    (combat_le : (combat : ℚ) ≤ restOf config union amount * (1 - config.contributeRatio)) :
    (((union.members.objects.map fun member =>
        ⌊amount * config.getUnionJobRewardRatio member.2⌋).sum : ℤ) : ℚ) + contri + combat ≤
      amount := by
  have rest_eq : restOf config union amount = amount - jobCost config union.members amount := rfl
  rw [← jobCost_eq amount_nonneg]
  linarith

variable (ratio_nonneg : 0 ≤ config.contributeRatio) (ratio_le : config.contributeRatio ≤ 1)
  (fit : JobsFit config union)

include ratio_nonneg ratio_le fit

theorem total_payCarboxyl (carboxyl_nonneg : 0 ≤ union.carboxyl)
    (fair : FairAmount config union union.carboxyl) :
    (totalHy (payCarboxyl config unionId union players).2 : ℚ) ≤
        totalHy players + union.carboxyl ∧
      totalMit (payCarboxyl config unionId union players).2 = totalMit players := by
  have rest_nonneg := restOf_nonneg fit carboxyl_nonneg
  have split_all := split_le carboxyl_nonneg
    (sum_carboxyl_le (mul_nonneg rest_nonneg ratio_nonneg) fair.1 none)
    (sum_carboxyl_le (mul_nonneg rest_nonneg (sub_nonneg.mpr ratio_le)) fair.2 none)
  unfold payCarboxyl getMemValByContribute getMemValByCombatVal
  split
  · dsimp only
    constructor
    · rw [Pays.totalHy (pays_weigh _ _ none .combat false),
        Pays.totalHy (pays_weigh _ _ none .contribute false),
        Pays.totalHy (pays_job carboxyl_nonneg), Int.cast_add, Int.cast_add, Int.cast_add]
      rw [restOf] at split_all
      linarith
    · rw [Pays.totalMit (pays_weigh _ _ none .combat false),
        Pays.totalMit (pays_weigh _ _ none .contribute false),
        Pays.totalMit (pays_job carboxyl_nonneg)]
      simp
  · exact ⟨le_add_of_nonneg_right carboxyl_nonneg, rfl⟩

/-- What a union gets for its rank is not exceeded. -/
theorem total_payRank (hyt_nonneg : 0 ≤ rankDict.hyt) (mit_nonneg : 0 ≤ rankDict.mit)
    (fair_hyt : FairAmount config union rankDict.hyt)
    (fair_mit : FairAmount config union rankDict.mit) :
    (totalHy (payRank config unionId union rankDict players).2 : ℚ) ≤
        totalHy players + rankDict.hyt ∧
      (totalMit (payRank config unionId union rankDict players).2 : ℚ) ≤
        totalMit players + rankDict.mit := by
  have hyt_rest := restOf_nonneg fit hyt_nonneg
  have mit_rest := restOf_nonneg fit mit_nonneg
  have others_nonneg : 0 ≤ 1 - config.contributeRatio := sub_nonneg.mpr ratio_le
  have split_hyt := split_le hyt_nonneg
    (sum_carboxyl_le (mul_nonneg hyt_rest ratio_nonneg) fair_hyt.1
      (some (restOf config union rankDict.mit * config.contributeRatio)))
    (sum_carboxyl_le (mul_nonneg hyt_rest others_nonneg) fair_hyt.2
      (some (restOf config union rankDict.mit * (1 - config.contributeRatio))))
  have split_mit := split_le mit_nonneg
    (sum_mit_le (mul_nonneg mit_rest ratio_nonneg) fair_mit.1
      (restOf config union rankDict.hyt * config.contributeRatio))
    (sum_mit_le (mul_nonneg mit_rest others_nonneg) fair_mit.2
      (restOf config union rankDict.hyt * (1 - config.contributeRatio)))
  have hyt_jobs := jobs_le fit hyt_nonneg
  have mit_jobs := jobs_le fit mit_nonneg
  unfold payRank getMemValByContribute getMemValByCombatVal
  split
  · dsimp only
    split
    · dsimp only
      constructor
      · rw [Pays.totalHy (pays_weigh _ _ (some _) .combat true),
          Pays.totalHy (pays_weigh _ _ (some _) .contribute true),
          Pays.totalHy (pays_rankJob hyt_nonneg mit_nonneg), Int.cast_add, Int.cast_add,
          Int.cast_add]
        simp only [restOf] at split_hyt
        linarith
      · rw [Pays.totalMit (pays_weigh _ _ (some _) .combat true),
          Pays.totalMit (pays_weigh _ _ (some _) .contribute true),
          Pays.totalMit (pays_rankJob hyt_nonneg mit_nonneg), Int.cast_add, Int.cast_add,
          Int.cast_add]
        simp only [restOf] at split_mit
        simp only [if_true, Option.getD_some]
        linarith
    · dsimp only
      constructor
      · rw [Pays.totalHy (pays_rankJob hyt_nonneg mit_nonneg), Int.cast_add]
        linarith
      · rw [Pays.totalMit (pays_rankJob hyt_nonneg mit_nonneg), Int.cast_add]
        simp only [Option.getD_some]
        linarith
  · exact ⟨le_add_of_nonneg_right hyt_nonneg, le_add_of_nonneg_right mit_nonneg⟩

end Totals

end Unions

/-! ## All unions -/

def rankHyt (unionRankDict : Dict ℕ RankDict) (unionId : ℕ) : ℚ :=
  ((unionRankDict.lookup unionId).map RankDict.hyt).getD 0

def rankMit (unionRankDict : Dict ℕ RankDict) (unionId : ℕ) : ℚ :=
  ((unionRankDict.lookup unionId).map RankDict.mit).getD 0

/-- No amount of a union is negative or split by negative weights. -/
structure Payable (config : Config) (unionRankDict : Dict ℕ RankDict) (entry : ℕ × Union) :
    Prop where
  carboxyl_nonneg : 0 ≤ entry.2.carboxyl
  carboxyl_fair : FairAmount config entry.2 entry.2.carboxyl
  rank_nonneg : ∀ rankDict, unionRankDict.lookup entry.1 = some rankDict →
    0 ≤ rankDict.hyt ∧ 0 ≤ rankDict.mit
  rank_fair : ∀ rankDict, unionRankDict.lookup entry.1 = some rankDict →
    FairAmount config entry.2 rankDict.hyt ∧ FairAmount config entry.2 rankDict.mit

structure Settled (unionRankDict : Dict ℕ RankDict) (done : List (ℕ × Union)) (state : State) :
    Prop where
  hy_le : (totalHy state.players : ℚ) ≤
    (done.map fun entry => entry.2.carboxyl + rankHyt unionRankDict entry.1).sum
  mit_le : (totalMit state.players : ℚ) ≤
    (done.map fun entry => rankMit unionRankDict entry.1).sum
  hy : ∀ pid, (account state.players pid).hy =
    (done.map fun entry => listedHy (account state.players pid) entry.1).sum
  mit : ∀ pid, (account state.players pid).mit =
    (done.map fun entry => listedMit (account state.players pid) entry.1).sum
  fair : ∀ pid unionId, Fair ((account state.players pid).rewards unionId)
  fresh : ∀ pid unionId, unionId ∉ done.map Prod.fst → ∀ share,
    ((account state.players pid).rewards unionId).hy share = none ∧
      ((account state.players pid).rewards unionId).mit share = none
  ranks : ∀ unionId, unionId ∉ done.map Prod.fst →
    state.unionRankDict.lookup unionId = unionRankDict.lookup unionId

section Run

variable {config : Config} {unionRankDict : Dict ℕ RankDict} {done : List (ℕ × Union)}
  {state : State} {entry : ℕ × Union}

theorem Booked.start {unionId : ℕ} {player : Player}
    (fresh : ∀ share, (player.rewards unionId).hy share = none ∧
      (player.rewards unionId).mit share = none) :
    Booked unionId Share.all player player := by
  have nothing_hy : listedHy player unionId = 0 := by simp [listedHy, fresh]
  have nothing_mit : listedMit player unionId = 0 := by simp [listedMit, fresh]
  refine ⟨fun _ _ => ⟨rfl, rfl⟩, ?_, ?_, fun share _ => fresh share, fun share => ?_⟩
  · rw [nothing_hy, add_zero]
  · rw [nothing_mit, add_zero]
  · rw [(fresh share).1, (fresh share).2]
    exact ⟨fun _ value_eq => (by cases value_eq), fun _ value_eq => (by cases value_eq)⟩

theorem Settled.booked (settled : Settled unionRankDict done state)
    (new : entry.1 ∉ done.map Prod.fst) {next : State}
    (booked : ∀ pid, Booked entry.1 [] (account state.players pid) (account next.players pid))
    (hy_le : (totalHy next.players : ℚ) ≤
      totalHy state.players + (entry.2.carboxyl + rankHyt unionRankDict entry.1))
    (mit_le : (totalMit next.players : ℚ) ≤
      totalMit state.players + rankMit unionRankDict entry.1)
    (ranks : ∀ unionId, unionId ≠ entry.1 →
      next.unionRankDict.lookup unionId = state.unionRankDict.lookup unionId) :
    Settled unionRankDict (done ++ [entry]) next := by
  have old_of_mem {other : ℕ × Union} (other_mem : other ∈ done) : other.1 ≠ entry.1 :=
    fun same => new (same ▸ List.mem_map_of_mem other_mem)
  refine ⟨?_, ?_, fun pid => ?_, fun pid => ?_, fun pid unionId => ?_,
    fun pid unionId unsettled share => ?_, fun unionId unsettled => ?_⟩
  · rw [List.map_append, List.sum_append, List.map_singleton, List.sum_singleton]
    linarith [settled.hy_le]
  · rw [List.map_append, List.sum_append, List.map_singleton, List.sum_singleton]
    linarith [settled.mit_le]
  · have unchanged : (done.map fun other => listedHy (account next.players pid) other.1) =
        done.map fun other => listedHy (account state.players pid) other.1 :=
      List.map_congr_left fun other other_mem => by
        rw [listedHy, listedHy, ((booked pid).elsewhere _ (old_of_mem other_mem)).1]
    rw [List.map_append, List.sum_append, unchanged, ← settled.hy pid, List.map_singleton,
      List.sum_singleton]
    exact (booked pid).hy
  · have unchanged : (done.map fun other => listedMit (account next.players pid) other.1) =
        done.map fun other => listedMit (account state.players pid) other.1 :=
      List.map_congr_left fun other other_mem => by
        rw [listedMit, listedMit, ((booked pid).elsewhere _ (old_of_mem other_mem)).2]
    rw [List.map_append, List.sum_append, unchanged, ← settled.mit pid, List.map_singleton,
      List.sum_singleton]
    exact (booked pid).mit
  · by_cases same : unionId = entry.1
    · subst same
      exact (booked pid).fair
    · intro share
      obtain ⟨hy_eq, mit_eq⟩ := (booked pid).elsewhere unionId same
      rw [hy_eq, mit_eq]
      exact settled.fair pid unionId share
  · rw [List.map_append, List.mem_append, not_or, List.map_singleton, List.mem_singleton]
      at unsettled
    obtain ⟨hy_eq, mit_eq⟩ := (booked pid).elsewhere unionId unsettled.2
    rw [hy_eq, mit_eq]
    exact settled.fresh pid unionId unsettled.1 share
  · rw [List.map_append, List.mem_append, not_or, List.map_singleton, List.mem_singleton]
      at unsettled
    rw [ranks unionId unsettled.2, settled.ranks unionId unsettled.1]

theorem payCarboxyl_union (unionId : ℕ) (union : Union) (players : Players) :
    ∃ carboxyl, (payCarboxyl config unionId union players).1 = { union with carboxyl } := by
  unfold payCarboxyl
  split
  · exact ⟨_, rfl⟩
  · exact ⟨_, rfl⟩

theorem Settled.payUnion (settled : Settled unionRankDict done state)
    (ratio_nonneg : 0 ≤ config.contributeRatio) (ratio_le : config.contributeRatio ≤ 1)
    (fit : JobsFit config entry.2) (payable : Payable config unionRankDict entry)
    (new : entry.1 ∉ done.map Prod.fst) :
    Settled unionRankDict (done ++ [entry]) (payUnion config state entry) := by
  have booked (pid : ℕ) := @booked_payCarboxyl config entry.1 entry.2 state.players _ pid
    (Booked.start (settled.fresh pid entry.1 new))
  obtain ⟨hy_le, mit_eq⟩ := @total_payCarboxyl config entry.1 entry.2 state.players ratio_nonneg
    ratio_le fit payable.carboxyl_nonneg payable.carboxyl_fair
  obtain ⟨carboxyl, union_eq⟩ := @payCarboxyl_union config entry.1 entry.2 state.players
  have rank_eq := settled.ranks entry.1 new
  unfold SeasonReward.payUnion
  dsimp only
  cases found : state.unionRankDict.lookup entry.1 with
  | none =>
      have no_hyt : rankHyt unionRankDict entry.1 = 0 := by
        rw [rankHyt, ← rank_eq, found]
        rfl
      have no_mit : rankMit unionRankDict entry.1 = 0 := by
        rw [rankMit, ← rank_eq, found]
        rfl
      refine settled.booked new (fun pid => (booked pid).skip (List.nil_subset _)) ?_ ?_
        fun _ _ => rfl
      · rw [no_hyt, add_zero]
        exact hy_le
      · rw [no_mit, add_zero, mit_eq]
  | some rankDict =>
      have found_first := rank_eq.symm.trans found
      obtain ⟨hyt_nonneg, mit_nonneg⟩ := payable.rank_nonneg rankDict found_first
      obtain ⟨hyt_fair, mit_fair⟩ := payable.rank_fair rankDict found_first
      have hyt_eq : rankHyt unionRankDict entry.1 = rankDict.hyt := by
        rw [rankHyt, found_first]
        rfl
      have mit_rank_eq : rankMit unionRankDict entry.1 = rankDict.mit := by
        rw [rankMit, found_first]
        rfl
      obtain ⟨rank_hy_le, rank_mit_le⟩ := @total_payRank config entry.1
        { entry.2 with carboxyl } rankDict (payCarboxyl config entry.1 entry.2 state.players).2
        ratio_nonneg ratio_le fit hyt_nonneg mit_nonneg hyt_fair mit_fair
      refine settled.booked new (fun pid => ?_) ?_ ?_ fun unionId different => ?_
      · exact booked_payRank hyt_nonneg mit_nonneg (booked pid)
      · rw [hyt_eq, union_eq]
        dsimp only
        linarith
      · rw [mit_rank_eq, union_eq]
        dsimp only
        rwa [mit_eq] at rank_mit_le
      · exact (Dict.lookup_assign _ _ _ _).trans (if_neg different)

theorem Settled.start (unions : Dict ℕ Union) (unionRankDict : Dict ℕ RankDict) :
    Settled unionRankDict [] ⟨unions, unionRankDict, .empty⟩ :=
  ⟨le_rfl, le_rfl, fun _ => rfl, fun _ => rfl,
    fun _ _ _ => ⟨fun _ value_eq => (by cases value_eq), fun _ value_eq => (by cases value_eq)⟩,
    fun _ _ _ _ => ⟨rfl, rfl⟩, fun _ _ => rfl⟩

theorem Settled.payUnions (settled : Settled unionRankDict done state)
    (ratio_nonneg : 0 ≤ config.contributeRatio) (ratio_le : config.contributeRatio ≤ 1)
    {entries : List (ℕ × Union)} (nodup : ((done ++ entries).map Prod.fst).Nodup)
    (fit : ∀ entry ∈ entries, JobsFit config entry.2)
    (payable : ∀ entry ∈ entries, Payable config unionRankDict entry) :
    Settled unionRankDict (done ++ entries)
      (entries.foldl (SeasonReward.payUnion config) state) := by
  induction entries generalizing done state with
  | nil => rwa [List.append_nil]
  | cons entry entries ih =>
      have new : entry.1 ∉ done.map Prod.fst := by
        rw [List.map_append, List.map_cons, List.nodup_append] at nodup
        exact fun entry_mem => nodup.2.2 _ entry_mem _ List.mem_cons_self rfl
      rw [List.append_cons] at nodup ⊢
      exact ih (settled.payUnion ratio_nonneg ratio_le (fit entry List.mem_cons_self)
        (payable entry List.mem_cons_self) new) nodup
        (fun other other_mem => fit other (List.mem_cons_of_mem entry other_mem))
        fun other other_mem => payable other (List.mem_cons_of_mem entry other_mem)

end Run

/-! ## The mails -/

def mailedHy (mails : Dict ℕ MailData) (pid : ℕ) : ℤ :=
  ((mails.lookup pid).map MailData.hy).getD 0

def mailedMit (mails : Dict ℕ MailData) (pid : ℕ) : ℤ :=
  ((mails.lookup pid).map MailData.mit).getD 0

/-- The mails take no more than the unions have, no share is negative, and each player is mailed
what is listed for him. -/
structure PaidWithin (unions : Dict ℕ Union) (unionRankDict : Dict ℕ RankDict)
    (players : Players) : Prop where
  hy_le : ((((mails players).objects.map fun mail => mail.2.hy).sum : ℤ) : ℚ) ≤
    (unions.objects.map fun entry => entry.2.carboxyl + rankHyt unionRankDict entry.1).sum
  mit_le : ((((mails players).objects.map fun mail => mail.2.mit).sum : ℤ) : ℚ) ≤
    (unions.objects.map fun entry => rankMit unionRankDict entry.1).sum
  fair : ∀ pid unionId, Fair ((account players pid).rewards unionId)
  hy : ∀ pid, mailedHy (mails players) pid =
    (unions.objects.map fun entry => listedHy (account players pid) entry.1).sum
  mit : ∀ pid, mailedMit (mails players) pid =
    (unions.objects.map fun entry => listedMit (account players pid) entry.1).sum

section Mails

variable {players : Players}

theorem elim_mailOf {player : Player} (hy_nonneg : 0 ≤ player.hy) (mit_nonneg : 0 ≤ player.mit) :
    (mailOf player).elim 0 MailData.hy = player.hy ∧
      (mailOf player).elim 0 MailData.mit = player.mit := by
  unfold mailOf
  split
  · exact ⟨max_eq_left hy_nonneg, max_eq_left mit_nonneg⟩
  next nothing =>
    rw [not_or, not_lt, not_lt] at nothing
    exact ⟨le_antisymm hy_nonneg nothing.1, le_antisymm mit_nonneg nothing.2⟩

theorem listed_nonneg {player : Player} {unionId : ℕ} (fair : Fair (player.rewards unionId)) :
    0 ≤ listedHy player unionId ∧ 0 ≤ listedMit player unionId := by
  have share_nonneg {listed : Option ℤ} (nonneg : ∀ value ∈ listed, 0 ≤ value) :
      0 ≤ listed.getD 0 := by
    cases listed with
    | none => exact le_rfl
    | some value => exact nonneg value rfl
  constructor
  · refine List.sum_nonneg fun value value_mem => ?_
    obtain ⟨share, _, rfl⟩ := List.mem_map.mp value_mem
    exact share_nonneg (fair share).1
  · refine List.sum_nonneg fun value value_mem => ?_
    obtain ⟨share, _, rfl⟩ := List.mem_map.mp value_mem
    exact share_nonneg (fair share).2

theorem mailed_eq (pid : ℕ)
    (nonneg : 0 ≤ (account players pid).hy ∧ 0 ≤ (account players pid).mit) :
    mailedHy (mails players) pid = (account players pid).hy ∧
      mailedMit (mails players) pid = (account players pid).mit := by
  have mail_eq := elim_mailOf nonneg.1 nonneg.2
  rw [mailedHy, mailedMit, mails, Dict.lookup_filterMap]
  unfold account at mail_eq ⊢
  generalize players.lookup pid = found at mail_eq ⊢
  cases found with
  | none => exact ⟨rfl, rfl⟩
  | some player =>
      rw [Option.getD_some] at mail_eq ⊢
      rw [Option.bind_some]
      cases sent : mailOf player with
      | none => rwa [sent] at mail_eq
      | some mail => rwa [sent] at mail_eq

end Mails

/-- A season pays no more than the unions have, if no amount is negative or split by negative
weights. -/
theorem paid_within (config : Config) (unions : Dict ℕ Union) (rewardInfos : List RewardInfo)
    (ratio_nonneg : 0 ≤ config.contributeRatio) (ratio_le : config.contributeRatio ≤ 1)
    (fit : ∀ entry ∈ unions.objects, JobsFit config entry.2)
    (payable : ∀ entry ∈ unions.objects,
      Payable config (getMatchUnionRankData unions rewardInfos) entry) :
    PaidWithin unions (getMatchUnionRankData unions rewardInfos)
      (distributeMatchReward config unions rewardInfos).players := by
  have settled := (Settled.start unions (getMatchUnionRankData unions rewardInfos)).payUnions
    ratio_nonneg ratio_le unions.nodup fit payable
  rw [List.nil_append] at settled
  unfold distributeMatchReward
  generalize unions.objects.foldl (payUnion config) _ = state at settled ⊢
  have nonneg (pid : ℕ) : 0 ≤ (account state.players pid).hy ∧
      0 ≤ (account state.players pid).mit := by
    rw [settled.hy, settled.mit]
    constructor
    · refine List.sum_nonneg fun value value_mem => ?_
      obtain ⟨entry, _, rfl⟩ := List.mem_map.mp value_mem
      exact (listed_nonneg (settled.fair pid entry.1)).1
    · refine List.sum_nonneg fun value value_mem => ?_
      obtain ⟨entry, _, rfl⟩ := List.mem_map.mp value_mem
      exact (listed_nonneg (settled.fair pid entry.1)).2
  have own (entry : ℕ × Player) (entry_mem : entry ∈ state.players.objects) :
      0 ≤ entry.2.hy ∧ 0 ≤ entry.2.mit := by
    have entry_nonneg := nonneg entry.1
    rwa [account, Dict.lookup_of_mem entry_mem, Option.getD_some] at entry_nonneg
  refine ⟨?_, ?_, settled.fair, fun pid => ?_, fun pid => ?_⟩
  · rw [mails, Dict.sum_filterMap]
    have same : (state.players.objects.map fun entry => (mailOf entry.2).elim 0 MailData.hy) =
        state.players.objects.map fun entry => entry.2.hy :=
      List.map_congr_left fun entry entry_mem =>
        (elim_mailOf (own entry entry_mem).1 (own entry entry_mem).2).1
    rw [same]
    exact settled.hy_le
  · rw [mails, Dict.sum_filterMap]
    have same : (state.players.objects.map fun entry => (mailOf entry.2).elim 0 MailData.mit) =
        state.players.objects.map fun entry => entry.2.mit :=
      List.map_congr_left fun entry entry_mem =>
        (elim_mailOf (own entry entry_mem).1 (own entry entry_mem).2).2
    rw [same]
    exact settled.mit_le
  · rw [(mailed_eq pid (nonneg pid)).1, settled.hy]
  · rw [(mailed_eq pid (nonneg pid)).2, settled.mit]

/-! ## A former member in debt -/

theorem sample_members : (([(1, 0), (2, 0)] : List (ℕ × ℤ)).map Prod.fst).Nodup := by
  decide

theorem sample_degrees (debt : ℚ) : (([(1, 3), (2, debt)] : List (ℕ × ℚ)).map Prod.fst).Nodup := by
  simp

theorem sample_unions (union : Union) : (([(7, union)] : List (ℕ × Union)).map Prod.fst).Nodup := by
  simp

def sampleConfig : Config :=
  ⟨fun _ => 0, fun _ => none, 1⟩

def sampleUnion (debt : ℚ) : Union :=
  ⟨"union", 100, ⟨[(1, 0), (2, 0)], sample_members⟩, ⟨[(1, 3), (2, debt)], sample_degrees debt⟩,
    .empty⟩

def sampleUnions (debt : ℚ) : Dict ℕ Union :=
  ⟨[(7, sampleUnion debt)], sample_unions (sampleUnion debt)⟩

/-- A donation to a union above its limit has taken 2 from the second member; the first one is
mailed three times what the union has. -/
theorem not_paid_within : ¬ PaidWithin (sampleUnions (-2))
    (getMatchUnionRankData (sampleUnions (-2)) [])
    (distributeMatchReward sampleConfig (sampleUnions (-2)) []).players := by
  intro within
  exact absurd within.hy_le (by decide +kernel)

theorem sample_payable :
    Payable sampleConfig (getMatchUnionRankData (sampleUnions 2) [⟨7, 1, 10, 5⟩])
    (7, sampleUnion 2) := by
  have fair (amount : ℚ) : FairAmount sampleConfig (sampleUnion 2) amount :=
    ⟨fun _ _ => by decide +kernel, fun _ _ => by decide +kernel⟩
  refine ⟨by decide +kernel, fair _, fun rankDict found => ?_, fun _ _ => ⟨fair _, fair _⟩⟩
  have rank_eq : rankDict = ⟨1, 10, 5⟩ := (Option.some.inj found).symm
  subst rank_eq
  decide +kernel

/-- With 2 in the place of the debt, 100 and the 10 for the first rank are shared. -/
theorem paid_within_sample : PaidWithin (sampleUnions 2)
    (getMatchUnionRankData (sampleUnions 2) [⟨7, 1, 10, 5⟩])
    (distributeMatchReward sampleConfig (sampleUnions 2) [⟨7, 1, 10, 5⟩]).players := by
  refine paid_within sampleConfig (sampleUnions 2) [⟨7, 1, 10, 5⟩] (by decide +kernel)
    (by decide +kernel) ?_ ?_
  · intro entry entry_mem
    obtain rfl := List.mem_singleton.mp entry_mem
    unfold JobsFit
    decide +kernel
  · intro entry entry_mem
    obtain rfl := List.mem_singleton.mp entry_mem
    exact sample_payable

end BasWar.SeasonReward
