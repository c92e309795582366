import BasWar.Cooperative.Script
import BasWar.Cooperative.Service
import Mathlib.Algebra.Order.Group.Multiset
import Mathlib.Data.PNat.Basic
import Mathlib.Data.Rat.Defs

/-!
# Rewards with a receive limit

Rewards of tasks, chapters, activation boxes, recharge activities, daily gifts and gift codes are
received by requests of the client.  Each handler tests the mark of its reward, credits resources,
items and heroes, and writes the mark.  Crediting a hero or some items calls the share service to
note what is new, so that other requests run before the handler goes on; gift codes also wait for
the database.  A ledger, which the code does not have, counts for each reward how often its
crediting has begun since its mark was last renewed.
-/

namespace BasWar.Rewards

open Cooperative

/-- A state of `TASK_STATE` that `complete` can hold. -/
inductive TaskState
  | done
  | reward
  deriving DecidableEq

/-- `baseStatus` and `advStatus` of a day of the login activity. -/
inductive LoginStatus
  | lock
  | notLogin
  | loginNotGet
  | loginAndGet
  deriving DecidableEq

/-- `GIFT_CODE_STYLE` of a kind of gift codes. -/
inductive GiftStyle
  | base
  | random
  | other
  deriving DecidableEq

/-- What is received at most once, or counted against a limit. -/
inductive Reward
  | task (cfgId : ℕ)
  | chapter (chapterId : ℕ)
  | activation (cfgId : ℕ)
  | funds (cfgId : ℕ)
  | recharge
  | firestRecharge
  | dailyCheck (weekDay : ℕ)
  | loginBase (day : ℕ)
  | loginAdv (day : ℕ)
  | dailyGift (productId : String)
  | giftCode (cfgId : ℕ)
  deriving DecidableEq

/-- A part of a reward. -/
inductive Piece
  | res (cfgId amount : ℕ)
  | item (cfgId num : ℕ)
  | hero (cfgId quality level : ℕ)

structure SubTask where
  daily : Bool
  reward : List (ℕ × ℕ)
  rewardItem : List (ℕ × ℕ)
  activation : ℕ

structure ChapterTask where
  mainTaskList : List ℕ
  reward : List (ℕ × ℕ)
  rewardItem : List (ℕ × ℕ)
  nextChapter : Option ℕ

structure TaskActivation where
  activation : ℕ
  reward : ℕ

structure GiftActivity where
  status : ℕ
  startTime : ℤ
  endTime : ℤ

structure CumulativeFunds where
  baseLevel : ℕ
  cost : ℕ
  reward : ℕ

structure GiftReward where
  herosReward : List (ℕ × ℕ × ℕ)
  resReward : List (ℕ × ℕ)

structure LoginActivity where
  baseReward : List (ℕ × ℕ)
  advReward : List (ℕ × ℕ)

structure DailyGift where
  num : ℕ+
  itemCfgId : ℕ

structure GiftCode where
  style : GiftStyle
  itemCfgId : Option ℕ
  limit : ℕ
  /-- First and last second in which codes of this kind are taken. -/
  dates : Option (ℤ × ℤ)

structure Tables where
  subTask : ℕ → Option SubTask
  chapterTask : ℕ → Option ChapterTask
  taskActivation : ℕ → Option TaskActivation
  /-- `activationReward` of the row of `baseBuild` for a base level and a reward. -/
  activationReward : ℕ → ℕ → Option (List (ℕ × ℕ))
  giftActivities : ℕ → Option GiftActivity
  cumulativeFunds : ℕ → Option CumulativeFunds
  giftReward : ℕ → Option GiftReward
  /-- `reward` of the activities `RECHARGE` and `FIREST_RECHARGE`. -/
  rechargeReward : ℕ
  firestRechargeReward : ℕ
  /-- The global values `Recharge` and `FirstRecharge`. -/
  rechargeValue : ℚ
  firestRechargeValue : ℚ
  dailyCheck : ℕ → ℕ
  loginActivity : ℕ → LoginActivity
  dailyGiftBag : String → Option DailyGift
  /-- The kind of gift codes whose prefix a code has. -/
  giftCodeOf : String → Option ℕ
  giftCode : ℕ → GiftCode
  /-- Adding this item calls the share service. -/
  itemCalls : ℕ → Bool
  funds_rewarded : ∀ cfgId row, cumulativeFunds cfgId = some row → (giftReward row.reward).isSome
  dailyCheck_rewarded : ∀ day, (giftReward (dailyCheck day)).isSome

/-- `constant.CUMULATIVE_FUNDS`. -/
def cumulativeFundsId : ℕ :=
  1001

/-- `constant.FIREST_RECHARGE`. -/
def firestRechargeId : ℕ :=
  1003

/-- `constant.RECHARGE`. -/
def rechargeId : ℕ :=
  1004

/-- `constant.LOGIN_ACT`. -/
def loginActId : ℕ :=
  1010

/-- What the bags of a player hold about rewards. -/
structure Bags where
  complete : ℕ → Option TaskState
  chapterId : ℕ
  chapters : ℕ → Bool
  activation : ℕ
  activationBox : ℕ → Bool
  funds : ℕ → Bool
  costLevel : ℕ
  firstRec : Bool
  rechargeStat : Bool
  rechargeVal : ℚ
  /-- `status` of each day of the daily check. -/
  dailyCheck : ℕ → ℕ
  loginEnd : ℤ
  loginBase : ℕ → LoginStatus
  loginAdv : ℕ → LoginStatus
  dailyGift : String → ℕ
  rewardDict : ℕ → ℕ
  /-- `getBaseBuildLevel`. -/
  baseLevel : ℕ

namespace Bags

/-- The bags of a new player, whose login activity ends at a time. -/
def fresh (loginEnd : ℤ) : Bags where
  complete _ := none
  chapterId := 1
  chapters _ := false
  activation := 0
  activationBox _ := false
  funds _ := false
  costLevel := 0
  firstRec := false
  rechargeStat := false
  rechargeVal := 0
  dailyCheck _ := 0
  loginEnd := loginEnd
  loginBase _ := .notLogin
  loginAdv _ := .lock
  dailyGift _ := 0
  rewardDict _ := 0
  baseLevel := 0

/-- How often a reward is marked as received. -/
def received (bags : Bags) : Reward → ℕ
  | .task cfgId => if bags.complete cfgId = some .reward then 1 else 0
  | .chapter chapterId => (bags.chapters chapterId).toNat
  | .activation cfgId => (bags.activationBox cfgId).toNat
  | .funds cfgId => (bags.funds cfgId).toNat
  | .recharge => bags.rechargeStat.toNat
  | .firestRecharge => bags.firstRec.toNat
  | .dailyCheck weekDay => if bags.dailyCheck weekDay = 2 then 1 else 0
  | .loginBase day => if bags.loginBase day = .loginAndGet then 1 else 0
  | .loginAdv day => if bags.loginAdv day = .loginAndGet then 1 else 0
  | .dailyGift productId => bags.dailyGift productId
  | .giftCode cfgId => bags.rewardDict cfgId

/-- Write the mark of a reward; a counter is set to `count`, which flags ignore. -/
def mark (bags : Bags) (count : ℕ) : Reward → Bags
  | .task cfgId =>
      { bags with complete := Function.update bags.complete cfgId (some .reward) }
  | .chapter chapterId =>
      { bags with chapters := Function.update bags.chapters chapterId true }
  | .activation cfgId =>
      { bags with activationBox := Function.update bags.activationBox cfgId true }
  | .funds cfgId => { bags with funds := Function.update bags.funds cfgId true }
  | .recharge => { bags with rechargeStat := true }
  | .firestRecharge => { bags with firstRec := true }
  | .dailyCheck weekDay =>
      { bags with dailyCheck := Function.update bags.dailyCheck weekDay 2 }
  | .loginBase day =>
      { bags with loginBase := Function.update bags.loginBase day .loginAndGet }
  | .loginAdv day =>
      { bags with loginAdv := Function.update bags.loginAdv day .loginAndGet }
  | .dailyGift productId =>
      { bags with dailyGift := Function.update bags.dailyGift productId count }
  | .giftCode cfgId => { bags with rewardDict := Function.update bags.rewardDict cfgId count }

end Bags

/-- How often a reward may be received before its mark is renewed. -/
def Tables.limit (tables : Tables) : Reward → ℕ
  | .dailyGift productId => ((tables.dailyGiftBag productId).map fun gift => gift.num.val).getD 0
  | .giftCode cfgId => (tables.giftCode cfgId).limit
  | _ => 1

/-- What is left to do in a handler whose tests have passed. -/
inductive Act
  /-- For the ledger: the crediting of a reward with these pieces begins. -/
  | credit (reward : Reward) (pieces : List Piece)
  | add (piece : Piece)
  | mark (reward : Reward) (count : ℕ)
  | addActivation (amount : ℕ)
  | setChapter (chapterId : ℕ)

structure State where
  bags : Bags
  /-- `lastUseTick`, which all players of the server share. -/
  lastUseTick : Option ℤ
  /-- How often the crediting of a reward has begun since its mark was renewed. -/
  credited : Reward → ℕ
  /-- All pieces of the rewards whose crediting has begun. -/
  due : Multiset Piece
  added : Multiset Piece

/-- The state of a new player. -/
def State.fresh (loginEnd : ℤ) : State where
  bags := .fresh loginEnd
  lastUseTick := none
  credited _ := 0
  due := 0
  added := 0

def Act.perform : Act → State → State
  | .credit reward pieces, state =>
      { state with
        credited := Function.update state.credited reward (state.credited reward + 1)
        due := state.due + pieces }
  | .add piece, state => { state with added := state.added + {piece} }
  | .mark reward count, state => { state with bags := state.bags.mark count reward }
  | .addActivation amount, state =>
      { state with bags := { state.bags with activation := state.bags.activation + amount } }
  | .setChapter chapterId, state => { state with bags := { state.bags with chapterId } }

/-- Adding this piece calls the share service: `isNewGet` or `getUsedItem`. -/
def Piece.calls (tables : Tables) : Piece → Bool
  | .res _ _ => false
  | .item cfgId _ => tables.itemCalls cfgId
  | .hero _ _ _ => true

def Act.calls (tables : Tables) : Act → Bool
  | .add piece => piece.calls tables
  | _ => false

/-- How the acts of a handler run. -/
def script (tables : Tables) : Script State Act where
  perform := Act.perform
  calls := Act.calls tables

/-- Credit a reward, then mark it as received. -/
def payout (reward : Reward) (pieces : List Piece) : List Act :=
  .credit reward pieces :: pieces.map .add ++ [.mark reward 1]

/-- The pieces that `_doReceive` credits. -/
def doReceive (reward rewardItem : List (ℕ × ℕ)) : List Piece :=
  reward.map (fun res => .res res.1 res.2) ++ rewardItem.map fun item => .item item.1 item.2

/-- The pieces that `getReward` credits. -/
def getReward (tables : Tables) (cfgId : ℕ) : Option (List Piece) :=
  (tables.giftReward cfgId).map fun row =>
    row.herosReward.map (fun hero => .hero hero.1 hero.2.1 hero.2.2) ++
      row.resReward.map fun res => .res res.1 res.2

def isValid (tables : Tables) (now : ℤ) (cfgId : ℕ) : Bool :=
  match tables.giftActivities cfgId with
  | none => false
  | some row => row.status ≠ 0 ∧ row.startTime ≤ now ∧ now ≤ row.endTime

def receiveTaskRewards (tables : Tables) (bags : Bags) (cfgId : ℕ) : List Act :=
  match bags.complete cfgId, tables.subTask cfgId with
  | some .done, some cfg =>
      payout (.task cfgId) (doReceive cfg.reward cfg.rewardItem) ++
        if cfg.daily then [.addActivation cfg.activation] else []
  | _, _ => []

def receiveChapterRewards (tables : Tables) (bags : Bags) : List Act :=
  match tables.chapterTask bags.chapterId with
  | none => []
  | some cfg =>
      if cfg.mainTaskList.all fun task => bags.complete task = some .reward then
        if bags.chapters bags.chapterId then
          []
        else
          payout (.chapter bags.chapterId) (doReceive cfg.reward cfg.rewardItem) ++
            (cfg.nextChapter.map Act.setChapter).toList
      else
        []

def receiveActivationRewards (tables : Tables) (bags : Bags) (cfgId : ℕ) : List Act :=
  match tables.taskActivation cfgId with
  | none => []
  | some cfg =>
      if bags.activationBox cfgId ∨ bags.activation < cfg.activation then
        []
      else
        match tables.activationReward bags.baseLevel cfg.reward with
        | none => []
        | some reward => payout (.activation cfgId) (doReceive reward [])

/-- `getFundsReward`, which writes its mark even if there is no such reward. -/
def getFundsReward (tables : Tables) (now : ℤ) (bags : Bags) (cfgId : ℕ) : List Act :=
  match tables.cumulativeFunds cfgId with
  | none => []
  | some cfg =>
      if isValid tables now cumulativeFundsId ∧ bags.funds cfgId = false ∧
          (bags.costLevel = cfg.cost ∨ bags.costLevel = 400) ∧ cfg.baseLevel ≤ bags.baseLevel then
        match getReward tables cfg.reward with
        | none => [.mark (.funds cfgId) 1]
        | some pieces => payout (.funds cfgId) pieces
      else
        []

def getRechargeReward (tables : Tables) (now : ℤ) (bags : Bags) : List Act :=
  if isValid tables now firestRechargeId ∧ bags.rechargeStat = false ∧
      tables.rechargeValue ≤ bags.rechargeVal then
    ((getReward tables tables.rechargeReward).map (payout .recharge)).getD []
  else
    []

def getFirestRechargeReward (tables : Tables) (now : ℤ) (bags : Bags) : List Act :=
  if isValid tables now firestRechargeId ∧ bags.firstRec = false ∧
      tables.firestRechargeValue ≤ bags.rechargeVal then
    ((getReward tables tables.firestRechargeReward).map (payout .firestRecharge)).getD []
  else
    []

def getFirstOrRechargeReward (tables : Tables) (now : ℤ) (bags : Bags) (giftCfgId : ℕ) :
    List Act :=
  if giftCfgId = firestRechargeId then
    getFirestRechargeReward tables now bags
  else if giftCfgId = rechargeId then
    getRechargeReward tables now bags
  else
    []

/-- `getDailyCheckReward`, which writes its mark even if there is no such reward. -/
def getDailyCheckReward (tables : Tables) (bags : Bags) (weekDay : ℕ) : List Act :=
  if 1 ≤ weekDay ∧ weekDay ≤ 7 ∧ bags.dailyCheck weekDay = 1 ∧
      (weekDay = 7 → ∀ day ∈ List.range' 1 7, bags.dailyCheck day ≠ 0) then
    match getReward tables (tables.dailyCheck weekDay) with
    | none => [.mark (.dailyCheck weekDay) 1]
    | some pieces => payout (.dailyCheck weekDay) pieces
  else
    []

def isloginActEnd (tables : Tables) (now : ℤ) (bags : Bags) : Bool :=
  match tables.giftActivities loginActId with
  | none => true
  | some row => row.status = 0 ∨ bags.loginEnd < now

/-- `getLoginActDayReward`, which tests both marks of the day before it credits anything. -/
def getLoginActDayReward (tables : Tables) (now : ℤ) (bags : Bags) (day : ℕ) : List Act :=
  if isloginActEnd tables now bags ∨ day < 1 ∨ 7 < day then
    []
  else
    (if bags.loginBase day = .loginNotGet then
      payout (.loginBase day) (doReceive [] (tables.loginActivity day).baseReward)
    else
      []) ++
    if bags.loginAdv day = .loginNotGet then
      payout (.loginAdv day) (doReceive [] (tables.loginActivity day).advReward)
    else
      []

/-- `getGiftReward`, which counts before it credits. -/
def getGiftReward (tables : Tables) (bags : Bags) (productId : String) : List Act :=
  match tables.dailyGiftBag productId with
  | none => []
  | some cfg =>
      if 0 < bags.dailyGift productId ∧ bags.dailyGift productId = cfg.num then
        []
      else
        [.credit (.dailyGift productId) [.item cfg.itemCfgId 1],
          .mark (.dailyGift productId) (bags.dailyGift productId + 1),
          .add (.item cfg.itemCfgId 1)]

/-- A request to receive a reward, gift codes apart. -/
inductive Call
  | receiveTaskRewards (cfgId : ℕ)
  | receiveChapterRewards
  | receiveActivationRewards (cfgId : ℕ)
  | getFundsReward (cfgId : ℕ)
  | getFirstOrRechargeReward (giftCfgId : ℕ)
  | getDailyCheckReward (weekDay : ℕ)
  | getLoginActDayReward (day : ℕ)
  | getGiftReward (productId : String)

/-- The acts of a handler once its tests have passed, or nothing if it refuses. -/
def receive (tables : Tables) (now : ℤ) (bags : Bags) : Call → List Act
  | .receiveTaskRewards cfgId => receiveTaskRewards tables bags cfgId
  | .receiveChapterRewards => receiveChapterRewards tables bags
  | .receiveActivationRewards cfgId => receiveActivationRewards tables bags cfgId
  | .getFundsReward cfgId => getFundsReward tables now bags cfgId
  | .getFirstOrRechargeReward giftCfgId => getFirstOrRechargeReward tables now bags giftCfgId
  | .getDailyCheckReward weekDay => getDailyCheckReward tables bags weekDay
  | .getLoginActDayReward day => getLoginActDayReward tables now bags day
  | .getGiftReward productId => getGiftReward tables bags productId

inductive Task
  /-- It waits for the share service; these acts are left. -/
  | crediting (acts : List Act)
  /-- `useGiftCode` waits for `findOne`. -/
  | finding (code : String) (cfgId : ℕ)
  /-- `useGiftCode` waits for `findAndModify`. -/
  | taking (code : String) (cfgId count : ℕ)
  /-- `useGiftCode` waits for `insert`. -/
  | inserting (code : String) (cfgId count : ℕ)

inductive Reply
  /-- The share service has answered; `again` if the handler calls it once more. -/
  | noted (again : Bool)
  /-- The document of a gift code, if there is one, and whether it has a `pid`. -/
  | doc (used : Option Bool)
  /-- Whether `findAndModify` has found the unused code. -/
  | modified (found : Bool)
  | inserted

/-- The part of `useGiftCode` from the test of its count to the next call. -/
def checkCount (tables : Tables) (state : State) (code : String) (cfgId : ℕ) : List Task :=
  if (tables.giftCode cfgId).limit ≤ state.bags.rewardDict cfgId then
    []
  else
    match (tables.giftCode cfgId).style with
    | .random => [.taking code cfgId (state.bags.rewardDict cfgId)]
    | .base => [.inserting code cfgId (state.bags.rewardDict cfgId)]
    | .other => []

/-- `useGiftCode` up to its first call. -/
def useGiftCode (tables : Tables) (now : ℤ) (state : State) (code : String) :
    State × List Task :=
  if state.lastUseTick.any fun tick => now - tick ≤ 2 then
    (state, [])
  else
    let state := { state with lastUseTick := some now }
    match tables.giftCodeOf code with
    | none => (state, [])
    | some cfgId =>
        match (tables.giftCode cfgId).dates with
        | none => (state, [])
        | some (beginTime, endTime) =>
            if now < beginTime ∨ endTime < now then
              (state, [])
            else if (tables.giftCode cfgId).style = .random then
              (state, [.finding code cfgId])
            else
              (state, checkCount tables state code cfgId)

/-- The acts of `useGiftCode` once the code is taken; `count` was read before. -/
def giftActs (tables : Tables) (cfgId count : ℕ) : List Act :=
  let pieces := (tables.giftCode cfgId).itemCfgId.toList.map fun item => Piece.item item 1
  .credit (.giftCode cfgId) pieces :: .mark (.giftCode cfgId) (count + 1) :: pieces.map .add

/-- What else changes the tested values. -/
inductive Change
  /-- `_checkComplete` finds a task complete. -/
  | completeTask (cfgId : ℕ)
  /-- `resetDailyData` of the task bag. -/
  | resetDailyData
  /-- `onreset` of the task bag. -/
  | onreset
  | setFunds (costLevel : ℕ)
  | addRechargeVal (val : ℚ)
  | setBaseLevel (level : ℕ)
  | setDailyCheck (day : ℕ)
  | flushDailyCheck
  | setLoginActDay (day : ℕ)
  | unLockLoginActAdv (day : ℕ)
  | flushBuyGiftBagNum
  | setLastUseTick (now : ℤ)

def Change.renews (tables : Tables) : Change → Reward → Bool
  | .resetDailyData, .task cfgId => (tables.subTask cfgId).any SubTask.daily
  | .resetDailyData, .activation _ => true
  | .onreset, .task _ => true
  | .onreset, .chapter _ => true
  | .onreset, .activation _ => true
  | .flushDailyCheck, .dailyCheck _ => true
  | .flushBuyGiftBagNum, .dailyGift _ => true
  | _, _ => false

/-- A day of the login activity once the player has logged in on it. -/
def LoginStatus.logIn : LoginStatus → LoginStatus
  | .notLogin => .loginNotGet
  | status => status

def Change.apply (tables : Tables) (bags : Bags) : Change → Bags
  | .completeTask cfgId =>
      if bags.complete cfgId = none then
        { bags with complete := Function.update bags.complete cfgId (some .done) }
      else
        bags
  | .resetDailyData =>
      { bags with
        complete := fun cfgId =>
          if (tables.subTask cfgId).any SubTask.daily then none else bags.complete cfgId
        activation := 0
        activationBox := fun _ => false }
  | .onreset =>
      { bags with
        complete := fun _ => none
        chapterId := 1
        chapters := fun _ => false
        activation := 0
        activationBox := fun _ => false }
  | .setFunds costLevel => { bags with costLevel }
  | .addRechargeVal val => { bags with rechargeVal := bags.rechargeVal + val }
  | .setBaseLevel level => { bags with baseLevel := level }
  | .setDailyCheck day =>
      if bags.dailyCheck day = 0 then
        { bags with dailyCheck := Function.update bags.dailyCheck day 1 }
      else
        bags
  | .flushDailyCheck => { bags with dailyCheck := fun _ => 0 }
  | .setLoginActDay day =>
      { bags with
        loginBase := Function.update bags.loginBase day (bags.loginBase day).logIn
        loginAdv := Function.update bags.loginAdv day (bags.loginAdv day).logIn }
  | .unLockLoginActAdv day =>
      if bags.loginAdv day = .lock then
        { bags with
          loginAdv := Function.update bags.loginAdv day
            (if bags.loginBase day = .notLogin then .notLogin else .loginNotGet) }
      else
        bags
  | .flushBuyGiftBagNum => { bags with dailyGift := fun _ => 0 }
  | .setLastUseTick _ => bags

/-- A change, with the ledger of the renewed marks set back. -/
def State.change (tables : Tables) (state : State) (change : Change) : State :=
  { state with
    bags := change.apply tables state.bags
    lastUseTick :=
      match change with
      | .setLastUseTick now => some now
      | _ => state.lastUseTick
    credited := fun reward => if change.renews tables reward then 0 else state.credited reward }

inductive Request
  | receive (now : ℤ) (call : Call)
  | useGiftCode (now : ℤ) (code : String)
  | change (change : Change)

/-- Run acts; what is left after a call waits for the share service. -/
def proceed (tables : Tables) (acts : List Act) (state : State) : State × List Task :=
  let (state, left) := (script tables).run acts state
  (state, left.map .crediting)

def rewards (tables : Tables) : Service State Request Task Reply where
  accept request state :=
    match request with
    | .receive now call => proceed tables (receive tables now state.bags call) state
    | .useGiftCode now code => useGiftCode tables now state code
    | .change change => (state.change tables change, [])
  resume task reply state :=
    match task, reply with
    | .crediting acts, .noted again =>
        if again then (state, [.crediting acts]) else proceed tables acts state
    | .finding code cfgId, .doc used =>
        if used = some false then (state, checkCount tables state code cfgId) else (state, [])
    | .taking _ cfgId count, .modified found =>
        if found then proceed tables (giftActs tables cfgId count) state else (state, [])
    | .inserting _ cfgId count, .inserted => proceed tables (giftActs tables cfgId count) state
    | task, _ => (state, [task])

end BasWar.Rewards
