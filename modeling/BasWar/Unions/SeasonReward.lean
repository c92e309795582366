import BasWar.Tables.Accounts

/-!
# The payout of a union season

`distributeMatchReward` shares what a union has among its members, by job, and then among all that
have contributed or fought for it.  The reward for the rank of the union is shared in the same way.
A player gets one mail for all unions.  Amounts and ratios are exact rationals here.
-/

namespace BasWar.SeasonReward

open Tables

/-- The two weights that the rest is shared by. -/
inductive Weigh
  | contribute
  | combat
  deriving DecidableEq

/-- The shares that are listed for a player. -/
inductive Share
  | job
  | contri
  | combat
  | rankJob
  | rankContri
  | rankCombat
  deriving DecidableEq

def Share.all : List Share :=
  [.job, .contri, .combat, .rankJob, .rankContri, .rankCombat]

def Weigh.share (ranked : Bool) : Weigh → Share
  | .contribute => if ranked then .rankContri else .contri
  | .combat => if ranked then .rankCombat else .combat

structure Union where
  unionName : String
  carboxyl : ℚ
  members : Dict ℕ ℤ
  /-- It may name players that have left. -/
  contriDegree : Dict ℕ ℚ
  combatDict : Dict ℕ ℚ

def Union.weights (union : Union) : Weigh → Dict ℕ ℚ
  | .contribute => union.contriDegree
  | .combat => union.combatDict

structure RewardInfo where
  unionId : ℕ
  rank : ℕ
  hyt : ℚ
  mit : ℚ

structure RankDict where
  rank : ℕ
  hyt : ℚ
  mit : ℚ

structure Config where
  /-- The column of `daoPosition`, or 0 for a job without a row. -/
  rewardRatio : ℤ → ℕ
  /-- `UNION_JOB_NAME`. -/
  jobName : ℤ → Option String
  contributeRatio : ℚ

def Config.getUnionJobRewardRatio (config : Config) (unionJob : ℤ) : ℚ :=
  config.rewardRatio unionJob / 10000

/-- An entry of `playerRewardDict`; a field is absent until it is written. -/
structure UnionReward where
  totalHy : Option ℚ
  rankTotalHy : Option ℚ
  rankTotalMit : Option ℚ
  jobName : Option String
  jobRatio : Option ℚ
  /-- `contriDegree` and `combatVal`. -/
  weight : Weigh → Option ℚ
  /-- `totalDegree` and `totalCombatVal`. -/
  total : Weigh → Option ℚ
  /-- `jobHy`, `contriHy`, `combatHy`, `rankJobHy`, `rankContriHy` and `rankCombatHy`. -/
  hy : Share → Option ℤ
  /-- `rankJobMit`, `rankContriMit` and `rankcCombatMit`. -/
  mit : Share → Option ℤ

def UnionReward.empty : UnionReward :=
  ⟨none, none, none, none, none, fun _ => none, fun _ => none, fun _ => none, fun _ => none⟩

/-- An entry of `othUnionResTotal`. -/
structure OthUnion where
  unionName : Option String
  hy : ℤ
  mit : ℤ

/-- An entry of `plyMailParams`. -/
structure MailParams where
  unionName : Option String
  unionRank : Option ℕ
  jobName : Option String
  jobRatio : Option ℚ
  weight : Weigh → Option ℚ
  total : Weigh → Option ℚ
  totalHy : Option ℚ
  rankTotalHy : Option ℚ

/-- What the four tables hold for one player. -/
structure Player where
  rewards : ℕ → UnionReward
  othUnions : Dict ℕ OthUnion
  /-- `plyMailRes`, with 0 for what is absent. -/
  hy : ℤ
  mit : ℤ
  params : MailParams

instance : Inhabited Player where
  default := ⟨fun _ => .empty, .empty, 0, 0,
    ⟨none, none, none, none, fun _ => none, fun _ => none, none, none⟩⟩

abbrev Players : Type := Dict ℕ Player

/-! ## Shares by weight -/

/-- An entry of `memValDict`. -/
structure MemVal where
  carboxyl : Option ℤ
  mit : Option ℤ
  /-- `allDegree` or `allVal`. -/
  all : ℚ

/-- `_getTotalContriDegree` and `_getTotalCombatVal`. -/
def totalOf (weights : Dict ℕ ℚ) : ℚ :=
  (weights.objects.map Prod.snd).sum

/-- A reward is kept if it is positive. -/
def rewardOf (value per : ℚ) : Option ℤ :=
  if 0 < ⌊value * per⌋ then some ⌊value * per⌋ else none

/-- A weight that is not positive has no reward, but an entry. -/
def memVal (all carboxyl : ℚ) (mit : Option ℚ) (pval : ℚ) : Option MemVal :=
  if 0 < pval then
    let reward : MemVal :=
      ⟨rewardOf carboxyl (pval / all), mit.bind fun value => rewardOf value (pval / all), all⟩
    if reward.carboxyl.isSome || reward.mit.isSome then some reward else none
  else some ⟨none, none, all⟩

def getMemVal (weights : Dict ℕ ℚ) (carboxyl : ℚ) (mit : Option ℚ) : Dict ℕ MemVal :=
  if totalOf weights = 0 then .empty
  else weights.filterMap fun _ => memVal (totalOf weights) carboxyl mit

def getMemValByContribute (union : Union) : ℚ → Option ℚ → Dict ℕ MemVal :=
  getMemVal union.contriDegree

def getMemValByCombatVal (union : Union) : ℚ → Option ℚ → Dict ℕ MemVal :=
  getMemVal union.combatDict

/-! ## What is written for a player -/

namespace Player

def pay (unionId : ℕ) (share : Share) (hy : ℤ) (mit : Option ℤ) (player : Player) : Player :=
  let reward := player.rewards unionId
  { player with
    rewards := Function.update player.rewards unionId
      { reward with
        hy := Function.update reward.hy share (some hy)
        mit := Function.update reward.mit share mit }
    hy := player.hy + hy
    mit := player.mit + mit.getD 0 }

/-- What else the first loop over the members writes. -/
def noteJob (config : Config) (unionId : ℕ) (union : Union) (unionJob : ℤ) (player : Player) :
    Player :=
  let reward : UnionReward :=
    { player.rewards unionId with
      totalHy := some union.carboxyl
      rankTotalHy := some 0
      rankTotalMit := some 0
      jobName := config.jobName unionJob
      jobRatio := some (config.getUnionJobRewardRatio unionJob * 100) }
  { player with
    rewards := Function.update player.rewards unionId reward
    params :=
      { player.params with
        unionName := player.params.unionName.or (some union.unionName)
        unionRank := player.params.unionRank.or (some 0)
        jobName := player.params.jobName.or reward.jobName
        jobRatio := player.params.jobRatio.or reward.jobRatio
        totalHy := reward.totalHy
        rankTotalHy := reward.rankTotalHy } }

/-- What else the loop over the members writes for a rank. -/
def noteRankJob (config : Config) (unionId : ℕ) (union : Union) (rankDict : RankDict)
    (unionJob : ℤ) (player : Player) : Player :=
  let old := player.rewards unionId
  let reward : UnionReward :=
    { old with
      totalHy := old.totalHy.or (some union.carboxyl)
      rankTotalHy := some rankDict.hyt
      rankTotalMit := some rankDict.mit
      jobName := old.jobName.or (config.jobName unionJob)
      jobRatio := old.jobRatio.or (some (config.getUnionJobRewardRatio unionJob * 100)) }
  { player with
    rewards := Function.update player.rewards unionId reward
    params :=
      { player.params with
        unionName := player.params.unionName.or (some union.unionName)
        unionRank := some rankDict.rank
        jobName := player.params.jobName.or reward.jobName
        jobRatio := player.params.jobRatio.or reward.jobRatio
        totalHy := reward.totalHy
        rankTotalHy := reward.rankTotalHy } }

/-- What else the loops over `memValDict` write; only the loops for a rank keep the weight and the
total that are there. -/
def noteWeigh (unionId : ℕ) (union : Union) (kind : Weigh) (ranked : Bool) (pid : ℕ)
    (pval : MemVal) (player : Player) : Player :=
  let old := player.rewards unionId
  let own := some (((union.weights kind).lookup pid).getD 0)
  let weight := if ranked then (old.weight kind).or own else own
  let total := if ranked then (old.total kind).or (some pval.all) else some pval.all
  let noted :=
    { player with
      rewards := Function.update player.rewards unionId
        { old with
          weight := Function.update old.weight kind weight
          total := Function.update old.total kind total } }
  if (union.members.lookup pid).isSome then
    { noted with
      params :=
        { player.params with
          weight := Function.update player.params.weight kind
            ((player.params.weight kind).or weight)
          total := Function.update player.params.total kind
            ((player.params.total kind).or total) } }
  else
    let oth := (player.othUnions.lookup unionId).getD ⟨none, 0, 0⟩
    { noted with
      othUnions := player.othUnions.assign unionId
        { unionName := oth.unionName.or (some union.unionName)
          hy := oth.hy + pval.carboxyl.getD 0
          mit := if ranked then oth.mit + pval.mit.getD 0 else oth.mit } }

/-- A round of the first loop over the members. -/
def payJob (config : Config) (unionId : ℕ) (union : Union) (unionJob : ℤ) (player : Player) :
    Player :=
  (player.noteJob config unionId union unionJob).pay unionId .job
    ⌊union.carboxyl * config.getUnionJobRewardRatio unionJob⌋ none

/-- A round of the loop over the members for a rank. -/
def payRankJob (config : Config) (unionId : ℕ) (union : Union) (rankDict : RankDict)
    (unionJob : ℤ) (player : Player) : Player :=
  (player.noteRankJob config unionId union rankDict unionJob).pay unionId .rankJob
    ⌊rankDict.hyt * config.getUnionJobRewardRatio unionJob⌋
    (some ⌊rankDict.mit * config.getUnionJobRewardRatio unionJob⌋)

/-- A round of a loop over `memValDict`. -/
def payWeigh (unionId : ℕ) (union : Union) (kind : Weigh) (ranked : Bool) (pid : ℕ)
    (pval : MemVal) (player : Player) : Player :=
  (player.noteWeigh unionId union kind ranked pid pval).pay unionId (kind.share ranked)
    (pval.carboxyl.getD 0) (if ranked then some (pval.mit.getD 0) else none)

end Player

/-! ## Unions -/

/-- `jobCostHy` and `jobCostMit` after the loop. -/
def jobCost (config : Config) (members : Dict ℕ ℤ) (amount : ℚ) : ℤ :=
  (members.objects.map fun member =>
    max ⌊amount * config.getUnionJobRewardRatio member.2⌋ 0).sum

def payCarboxyl (config : Config) (unionId : ℕ) (union : Union) (players : Players) :
    Union × Players :=
  if 0 < union.carboxyl then
    let players := loop union.members
      (fun _ unionJob => Player.payJob config unionId union unionJob) players
    let union := { union with
      carboxyl := union.carboxyl - jobCost config union.members union.carboxyl }
    let players := loop
      (getMemValByContribute union (union.carboxyl * config.contributeRatio) none)
      (Player.payWeigh unionId union .contribute false) players
    let players := loop
      (getMemValByCombatVal union (union.carboxyl * (1 - config.contributeRatio)) none)
      (Player.payWeigh unionId union .combat false) players
    (union, players)
  else (union, players)

/-- Share what the union gets for its rank. -/
def payRank (config : Config) (unionId : ℕ) (union : Union) (rankDict : RankDict)
    (players : Players) : RankDict × Players :=
  if 0 < rankDict.hyt ∨ 0 < rankDict.mit then
    let players := loop union.members
      (fun _ unionJob => Player.payRankJob config unionId union rankDict unionJob) players
    let rankDict := { rankDict with
      hyt := rankDict.hyt - jobCost config union.members rankDict.hyt
      mit := rankDict.mit - jobCost config union.members rankDict.mit }
    if 0 < rankDict.hyt ∨ 0 < rankDict.mit then
      let players := loop
        (getMemValByContribute union (rankDict.hyt * config.contributeRatio)
          (some (rankDict.mit * config.contributeRatio)))
        (Player.payWeigh unionId union .contribute true) players
      let players := loop
        (getMemValByCombatVal union (rankDict.hyt * (1 - config.contributeRatio))
          (some (rankDict.mit * (1 - config.contributeRatio))))
        (Player.payWeigh unionId union .combat true) players
      (rankDict, players)
    else (rankDict, players)
  else (rankDict, players)

/-- `self.unions` and the local tables of the function. -/
structure State where
  unions : Dict ℕ Union
  unionRankDict : Dict ℕ RankDict
  players : Players

def payUnion (config : Config) (state : State) (entry : ℕ × Union) : State :=
  let (union, players) := payCarboxyl config entry.1 entry.2 state.players
  let unions := state.unions.assign entry.1 union
  match state.unionRankDict.lookup entry.1 with
  | none => { state with unions, players }
  | some rankDict =>
      let (rankDict, players) := payRank config entry.1 union rankDict players
      { unions, unionRankDict := state.unionRankDict.assign entry.1 rankDict, players }

/-- `_getMatchUnionRankData`: the last info about a union that there is. -/
def getMatchUnionRankData (unions : Dict ℕ Union) (rewardInfos : List RewardInfo) :
    Dict ℕ RankDict :=
  rewardInfos.foldl (fun unionRankDict info =>
    match unions.lookup info.unionId with
    | none => unionRankDict
    | some _ => unionRankDict.assign info.unionId ⟨info.rank, info.hyt, info.mit⟩) .empty

/-- A mail; an attachment of 0 is none. -/
structure MailData where
  hy : ℤ
  mit : ℤ
  params : MailParams
  othUnions : Dict ℕ OthUnion

def mailOf (player : Player) : Option MailData :=
  if 0 < player.hy ∨ 0 < player.mit then
    some ⟨max player.hy 0, max player.mit 0, player.params, player.othUnions⟩
  else none

def mails (players : Players) : Dict ℕ MailData :=
  players.filterMap fun _ => mailOf

/-- The unions and the settlement data afterwards; `mails` are then sent. -/
def distributeMatchReward (config : Config) (unions : Dict ℕ Union)
    (rewardInfos : List RewardInfo) : State :=
  unions.objects.foldl (payUnion config)
    ⟨unions, getMatchUnionRankData unions rewardInfos, .empty⟩

end BasWar.SeasonReward
