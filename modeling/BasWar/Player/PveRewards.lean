import BasWar.Player.Resources
import BasWar.Tables.Journal
import Mathlib.Algebra.Order.BigOperators.Group.List

/-!
# Rewards of PVE levels

A level pays once when it is passed, and each of its stars pays once a day, up to the best star of
the player.  Three tables decide what is open: the best stars, the stars that are paid today, and
the stars that were won today.
-/

namespace BasWar.PveRewards

open Tables Resources

/-- Amounts of resources; one can occur twice. -/
abbrev Reward := List (ResId × ℚ)

inductive StarQuest
  /-- `BASECOND` -/
  | base
  /-- `TIMECOND` -/
  | time (seconds : ℤ)
  | other

def StarQuest.met (passSec : ℤ) : StarQuest → Bool
  | .base => true
  | .time seconds => decide (passSec ≤ seconds)
  | .other => false

structure PveCfg where
  cfgId : ℕ
  passReward : Reward
  firstStarReward : Reward
  secondStarReward : Reward
  thirdStarReward : Reward
  firstStarQuest : StarQuest
  secondStarQuest : StarQuest
  thirdStarQuest : StarQuest

namespace PveCfg

def starReward (cfg : PveCfg) : ℕ → Reward
  | 1 => cfg.firstStarReward
  | 2 => cfg.secondStarReward
  | 3 => cfg.thirdStarReward
  | _ => []

/-- `STAR_CFG_KEY` -/
def starQuests (cfg : PveCfg) : List StarQuest :=
  [cfg.firstStarQuest, cfg.secondStarQuest, cfg.thirdStarQuest]

def Nonneg (reward : Reward) : Prop :=
  ∀ entry ∈ reward, 0 ≤ entry.2

end PveCfg

/-- The table of levels.  A victory is enough for the first star. -/
structure PveCfgs where
  rows : Keyed PveCfg.cfgId
  base : ∀ cfg ∈ rows.objects, cfg.firstStarQuest = .base
  passReward : ∀ cfg ∈ rows.objects, PveCfg.Nonneg cfg.passReward
  starReward : ∀ cfg ∈ rows.objects, ∀ star, PveCfg.Nonneg (cfg.starReward star)

/-- A reward that was added to the resource bag. -/
inductive Credit
  | pass (cfgId : ℕ)
  /-- The day counts the resets. -/
  | star (day cfgId star : ℕ)
  deriving DecidableEq

/-- The PVE bag of a player and the resource bag, with the credits that made it up. -/
structure Player where
  pass : Dict ℕ ℕ
  dailyRewards : Dict ℕ ℕ
  dayPass : Dict ℕ (List ℕ)
  pveScore : ℕ
  resetTick : ℤ
  resBag : Resources.ResBag
  day : ℕ
  credited : List Credit

structure Data where
  pass : Dict String ℕ
  dailyRewards : Dict String ℕ
  dayPass : Dict String (List ℕ)
  pveScore : ℕ
  resetTick : ℤ
  resBag : Resources.ResBag
  day : ℕ
  credited : List Credit

def battleResultWin : ℤ := 1

/-- It is `none` if no condition is met. -/
def getPassStar (cfgs : PveCfgs) (cfgId : ℕ) (endStep : ℤ) : Option ℕ :=
  match cfgs.rows.get cfgId with
  | none => some 1
  | some cfg =>
      let passSec := endStep / 15
      (cfg.starQuests.zipIdx 1).foldl
        (fun best entry => if entry.1.met passSec then some entry.2 else best) none

def mergeRewards (reward : Reward) (resDict : ResDict) : ResDict :=
  reward.foldl (fun resDict entry => resDict.assign entry.1 (resDict.amount entry.1 + entry.2))
    resDict

namespace Player

def doRecvRewards (resDict : ResDict) (player : Player) : Player :=
  if resDict.objects.length = 0 then player
  else { player with resBag := player.resBag.addResDict resDict }

/-- The stars that `recvStarRewards` pays. -/
def openStars (player : Player) (cfgId newStar : ℕ) : List ℕ :=
  let maxStar := ((player.dayPass.lookup cfgId).getD []).foldl max 0
  let oldRecvStar := (player.dailyRewards.lookup cfgId).getD 0
  (List.range' (oldRecvStar + 1) (newStar - oldRecvStar)).filter fun star => maxStar < star

def recvStarRewards (cfgs : PveCfgs) (cfgId newStar : ℕ) (player : Player) : Player :=
  match cfgs.rows.get cfgId with
  | none => player
  | some cfg =>
      let stars := player.openStars cfgId newStar
      let resDict := stars.foldl (fun resDict star => mergeRewards (cfg.starReward star) resDict)
        Keyed.empty
      { player with
        credited :=
          player.credited ++ stars.map (Credit.star player.day cfgId) }.doRecvRewards resDict

def recvPassRewards (cfgs : PveCfgs) (cfgId : ℕ) (player : Player) : Player :=
  match cfgs.rows.get cfgId with
  | none => player
  | some cfg =>
      { player with
        credited := player.credited ++ [Credit.pass cfgId] }.doRecvRewards
          (mergeRewards cfg.passReward Keyed.empty)

def handleWin (cfgs : PveCfgs) (cfgId : ℕ) (result endStep : ℤ) (player : Player) : Player :=
  if result ≠ battleResultWin then player
  else
    let oldStar := player.pass.lookup cfgId
    let newStar := getPassStar cfgs cfgId endStep
    let player := if oldStar = none then player.recvPassRewards cfgs cfgId else player
    let stars := (player.dayPass.lookup cfgId).getD []
    let player := { player with dayPass := player.dayPass.assign cfgId stars }
    match newStar with
    -- The subtraction of the old star raises.
    | none => player
    | some newStar =>
        if newStar ≤ oldStar.getD 0 then player
        else
          let player := { player with pass := player.pass.assign cfgId newStar }
          let player := player.recvStarRewards cfgs cfgId newStar
          { player with
            dailyRewards := player.dailyRewards.assign cfgId newStar
            dayPass := player.dayPass.assign cfgId (stars ++ [newStar])
            pveScore := player.pveScore + cfgId }

/-- The first loop of `receiveDailyRewards`. -/
def recvOpen (cfgs : PveCfgs) (entries : List (ℕ × ℕ)) (state : Player × Dict ℕ ℕ) :
    Player × Dict ℕ ℕ :=
  entries.foldl (fun (player, recvCfgIds) entry =>
    if player.dailyRewards.lookup entry.1 = none then
      (player.recvStarRewards cfgs entry.1 entry.2, recvCfgIds.assign entry.1 entry.2)
    else (player, recvCfgIds)) state

def receiveDailyRewards (cfgs : PveCfgs) (player : Player) : Player :=
  let (player, recvCfgIds) := recvOpen cfgs player.pass.objects (player, Keyed.empty)
  { player with
    dailyRewards := recvCfgIds.objects.foldl
      (fun dailyRewards entry => dailyRewards.assign entry.1 entry.2) player.dailyRewards }

/-- The end of the day of a timestamp, for a function that gives the start of the day. -/
def endOfDay (dayzerotime : ℤ → ℤ) (timestamp : ℤ) : ℤ :=
  (dayzerotime (timestamp / 1000) + 86400) * 1000

def resetData (dayzerotime : ℤ → ℤ) (timestamp : ℤ) (player : Player) : Player :=
  { player with
    resetTick := endOfDay dayzerotime timestamp
    dailyRewards := Keyed.empty
    dayPass := Keyed.empty
    day := player.day + 1 }

def checkResetData (dayzerotime : ℤ → ℤ) (timestamp : ℤ) (player : Player) : Player :=
  if timestamp ≤ player.resetTick then player else player.resetData dayzerotime timestamp

def serialize (player : Player) : Data where
  pass := Spelling.nat.toDoc player.pass
  dailyRewards := Spelling.nat.toDoc player.dailyRewards
  dayPass := Spelling.nat.toDoc player.dayPass
  pveScore := player.pveScore
  resetTick := player.resetTick
  resBag := player.resBag
  day := player.day
  credited := player.credited

/-- It raises for a key that is no number. -/
def deserialize (data : Data) : Option Player := do
  let pass ← Spelling.nat.ofDoc data.pass
  let dayPass ← Spelling.nat.ofDoc data.dayPass
  let dailyRewards ← Spelling.nat.ofDoc data.dailyRewards
  return {
    pass, dailyRewards, dayPass
    pveScore := data.pveScore
    resetTick := data.resetTick
    resBag := data.resBag
    day := data.day
    credited := data.credited }

/-- `oncreate` -/
def new (dayzerotime : ℤ → ℤ) (opening : Resources.ResBag) (timestamp : ℤ) : Player where
  pass := Keyed.empty
  dailyRewards := Keyed.empty
  dayPass := Keyed.empty
  pveScore := 0
  resetTick := endOfDay dayzerotime timestamp
  resBag := opening
  day := 0
  credited := []

end Player

/-- A player with the document that was saved last. -/
structure World where
  player : Player
  saved : Data

inductive Event
  | endBattle (cfgId : ℕ) (result endStep : ℤ)
  | receiveDailyRewards
  | onSecond (timestamp : ℤ)
  | save
  | reload

namespace World

def new (dayzerotime : ℤ → ℤ) (opening : Resources.ResBag) (timestamp : ℤ) : World :=
  let player := Player.new dayzerotime opening timestamp
  ⟨player, player.serialize⟩

def step (cfgs : PveCfgs) (dayzerotime : ℤ → ℤ) (world : World) : Event → World
  | .endBattle cfgId result endStep =>
      { world with player := world.player.handleWin cfgs cfgId result endStep }
  | .receiveDailyRewards => { world with player := world.player.receiveDailyRewards cfgs }
  | .onSecond timestamp =>
      { world with player := world.player.checkResetData dayzerotime timestamp }
  | .save => { world with saved := world.player.serialize }
  | .reload =>
      match Player.deserialize world.saved with
      | some player => { world with player }
      -- The login fails.
      | none => world

end World

def machine (cfgs : PveCfgs) (dayzerotime : ℤ → ℤ) : Machine World Event Empty where
  step world event := (world.step cfgs dayzerotime event, [])

def rewardAmount (res : ResId) (reward : Reward) : ℚ :=
  ((reward.filter fun entry => entry.1 = res).map Prod.snd).sum

def Credit.amount (cfgs : PveCfgs) (res : ResId) : Credit → ℚ
  | .pass cfgId => ((cfgs.rows.get cfgId).map fun cfg => rewardAmount res cfg.passReward).getD 0
  | .star _ cfgId index =>
      ((cfgs.rows.get cfgId).map fun cfg => rewardAmount res (cfg.starReward index)).getD 0

/-- A level of the table pays once when it is passed, and a star up to the best one at most once a
day; this makes up the balances. -/
structure Rewarded (cfgs : PveCfgs) (opening : Resources.ResBag) (player : Player) : Prop where
  once : player.credited.Nodup
  pass_iff : ∀ cfgId, .pass cfgId ∈ player.credited ↔
    (cfgs.rows.get cfgId).isSome = true ∧ (player.pass.lookup cfgId).isSome = true
  star_le : ∀ day cfgId star, .star day cfgId star ∈ player.credited →
    1 ≤ star ∧ ∃ best ∈ player.pass.lookup cfgId, star ≤ best
  paid : ∀ res, player.resBag.num res =
    opening.num res + (player.credited.map (Credit.amount cfgs res)).sum

/-- All stars up to the best one of each passed level are paid once today. -/
def ReceivedAll (cfgs : PveCfgs) (player : Player) : Prop :=
  ∀ cfgId, (cfgs.rows.get cfgId).isSome = true → ∀ best ∈ player.pass.lookup cfgId,
    ∀ star, 1 ≤ star → star ≤ best → player.credited.count (.star player.day cfgId star) = 1

section Credits

variable {cfgs : PveCfgs} {opening : Resources.ResBag} {player after : Player} {cfgId newStar : ℕ}

theorem rewardAmount_cons (res : ResId) (entry : ResId × ℚ) (reward : Reward) :
    rewardAmount res (entry :: reward) =
      (if entry.1 = res then entry.2 else 0) + rewardAmount res reward := by
  unfold rewardAmount
  by_cases same : entry.1 = res
  · rw [List.filter_cons_of_pos (by simpa using same), if_pos same, List.map_cons, List.sum_cons]
  · rw [List.filter_cons_of_neg (by simpa using same), if_neg same, zero_add]

theorem rewardAmount_nonneg {reward : Reward} (nonneg : PveCfg.Nonneg reward) (res : ResId) :
    0 ≤ rewardAmount res reward := by
  refine List.sum_nonneg fun value value_mem => ?_
  obtain ⟨entry, entry_mem, rfl⟩ := List.mem_map.mp value_mem
  exact nonneg entry (List.mem_filter.mp entry_mem).1

theorem amount_mergeRewards (reward : Reward) (resDict : ResDict) (res : ResId) :
    ResDict.amount (mergeRewards reward resDict) res =
      resDict.amount res + rewardAmount res reward := by
  unfold mergeRewards
  induction reward generalizing resDict with
  | nil => exact (add_zero _).symm
  | cons entry reward ih =>
      rw [List.foldl_cons, ih, ResDict.amount_assign, rewardAmount_cons]
      by_cases same : entry.1 = res
      · rw [if_pos same.symm, if_pos same, same, add_assoc]
      · rw [if_neg (Ne.symm same), if_neg same, zero_add]

theorem amount_empty (res : ResId) : ResDict.amount Keyed.empty res = 0 :=
  rfl

theorem amount_mergeStars (cfg : PveCfg) (stars : List ℕ) (resDict : ResDict) (res : ResId) :
    ResDict.amount
        (stars.foldl (fun resDict star => mergeRewards (cfg.starReward star) resDict) resDict) res =
      resDict.amount res + (stars.map fun star => rewardAmount res (cfg.starReward star)).sum := by
  induction stars generalizing resDict with
  | nil => exact (add_zero _).symm
  | cons star stars ih =>
      rw [List.foldl_cons, ih, amount_mergeRewards, List.map_cons, List.sum_cons, add_assoc]

/-- Credits are written down, their amounts are added, and nothing else changes. -/
structure Pays (cfgs : PveCfgs) (credits : List Credit) (player after : Player) : Prop where
  after_eq : after =
    { player with resBag := after.resBag, credited := player.credited ++ credits }
  paid : ∀ res, after.resBag.num res =
    player.resBag.num res + (credits.map (Credit.amount cfgs res)).sum

theorem Pays.refl (player : Player) : Pays cfgs [] player player where
  after_eq := by rw [List.append_nil]
  paid _ := (add_zero _).symm

theorem Pays.trans {last : Player} {credits later : List Credit}
    (first : Pays cfgs credits player after) (second : Pays cfgs later after last) :
    Pays cfgs (credits ++ later) player last where
  after_eq := by
    rw [second.after_eq, first.after_eq]
    simp only [List.append_assoc]
  paid res := by rw [second.paid, first.paid, List.map_append, List.sum_append, add_assoc]

theorem doRecvRewards_pays {resDict : ResDict} {credits : List Credit}
    (amounts : ∀ res, resDict.amount res = (credits.map (Credit.amount cfgs res)).sum)
    (nonneg : ∀ res, 0 ≤ resDict.amount res) :
    Pays cfgs credits player
      ({ player with credited := player.credited ++ credits }.doRecvRewards resDict) := by
  unfold Player.doRecvRewards
  split
  next empty =>
    refine ⟨rfl, fun res => ?_⟩
    obtain ⟨objects, _⟩ := resDict
    obtain rfl := List.eq_nil_of_length_eq_zero empty
    exact (amounts res).symm ▸ (add_zero _).symm
  next =>
    refine ⟨rfl, fun res => ?_⟩
    dsimp only
    rw [Resources.ResBag.num_addResDict, max_eq_left (nonneg res), amounts]

/-- The credits for the open stars of a level. -/
def starCredits (cfgs : PveCfgs) (player : Player) (cfgId newStar : ℕ) : List Credit :=
  if (cfgs.rows.get cfgId).isSome = true then
    (player.openStars cfgId newStar).map (Credit.star player.day cfgId)
  else []

theorem recvStarRewards_pays (player : Player) (cfgId newStar : ℕ) :
    Pays cfgs (starCredits cfgs player cfgId newStar) player
      (player.recvStarRewards cfgs cfgId newStar) := by
  unfold Player.recvStarRewards starCredits
  cases found : cfgs.rows.get cfgId with
  | none => exact .refl player
  | some cfg =>
      have amounts (res : ResId) := amount_mergeStars cfg (player.openStars cfgId newStar)
        Keyed.empty res
      simp only [amount_empty, zero_add] at amounts
      refine doRecvRewards_pays (fun res => ?_) (fun res => ?_)
      · rw [amounts, if_pos Option.isSome_some, List.map_map]
        refine congrArg List.sum (List.map_congr_left fun star _ => ?_)
        simp only [Function.comp_apply, Credit.amount, found, Option.map_some, Option.getD_some]
      · rw [amounts]
        refine List.sum_nonneg fun value value_mem => ?_
        obtain ⟨star, -, rfl⟩ := List.mem_map.mp value_mem
        exact rewardAmount_nonneg (cfgs.starReward cfg (Keyed.get_mem found).1 star) res

theorem recvStarRewards_pays_of_pass (player : Player) (pass : Dict ℕ ℕ) (cfgId newStar : ℕ) :
    Pays cfgs (starCredits cfgs player cfgId newStar) { player with pass }
      ({ player with pass }.recvStarRewards cfgs cfgId newStar) :=
  recvStarRewards_pays { player with pass } cfgId newStar

theorem recvPassRewards_pays (player : Player) (cfgId : ℕ) :
    Pays cfgs (if (cfgs.rows.get cfgId).isSome = true then [.pass cfgId] else []) player
      (player.recvPassRewards cfgs cfgId) := by
  unfold Player.recvPassRewards
  cases found : cfgs.rows.get cfgId with
  | none => exact .refl player
  | some cfg =>
      have amounts (res : ResId) := amount_mergeRewards cfg.passReward Keyed.empty res
      simp only [amount_empty, zero_add] at amounts
      refine doRecvRewards_pays (fun res => ?_) (fun res => ?_)
      · rw [amounts, if_pos Option.isSome_some]
        simp only [List.map_cons, List.map_nil, List.sum_cons, List.sum_nil, add_zero,
          Credit.amount, found, Option.map_some, Option.getD_some]
      · rw [amounts]
        exact rewardAmount_nonneg (cfgs.passReward cfg (Keyed.get_mem found).1) res

end Credits

section Kept

variable {cfgs : PveCfgs} {opening : Resources.ResBag} {player after : Player} {cfgId newStar : ℕ}

/-- The number of stars of a level that are paid today. -/
def Player.recvStar (player : Player) (cfgId : ℕ) : ℕ :=
  (player.dailyRewards.lookup cfgId).getD 0

structure Kept (cfgs : PveCfgs) (opening : Resources.ResBag) (player : Player) : Prop where
  rewarded : Rewarded cfgs opening player
  daily : ∀ cfgId, ∀ star ∈ player.dailyRewards.lookup cfgId, player.pass.lookup cfgId = some star
  dayPass : ∀ cfgId, ∀ stars ∈ player.dayPass.lookup cfgId, ∀ star ∈ stars,
    star ≤ player.recvStar cfgId
  days : ∀ day cfgId star, .star day cfgId star ∈ player.credited → day ≤ player.day
  today : ∀ cfgId star, .star player.day cfgId star ∈ player.credited ↔
    (cfgs.rows.get cfgId).isSome = true ∧ 1 ≤ star ∧ star ≤ player.recvStar cfgId

theorem foldl_max_le (stars : List ℕ) (first bound : ℕ) (first_le : first ≤ bound)
    (stars_le : ∀ star ∈ stars, star ≤ bound) : stars.foldl max first ≤ bound := by
  induction stars generalizing first with
  | nil => exact first_le
  | cons star stars ih =>
      exact ih (max first star) (max_le first_le (stars_le star List.mem_cons_self))
        fun other other_mem => stars_le other (List.mem_cons_of_mem star other_mem)

theorem mem_openStars (kept : Kept cfgs opening player) {star : ℕ} :
    star ∈ player.openStars cfgId newStar ↔ player.recvStar cfgId < star ∧ star ≤ newStar := by
  have won_le : ((player.dayPass.lookup cfgId).getD []).foldl max 0 ≤ player.recvStar cfgId := by
    refine foldl_max_le _ 0 _ (Nat.zero_le _) fun won won_mem => ?_
    cases found : player.dayPass.lookup cfgId with
    | none => simp [found] at won_mem
    | some stars => exact kept.dayPass cfgId stars found won (by simpa [found] using won_mem)
  unfold Player.recvStar at won_le ⊢
  simp only [Player.openStars, List.mem_filter, List.mem_range'_1, decide_eq_true_eq]
  omega

theorem nodup_openStars (player : Player) (cfgId newStar : ℕ) :
    (player.openStars cfgId newStar).Nodup :=
  List.Nodup.filter _ List.nodup_range'

theorem mem_starCredits (kept : Kept cfgs opening player) {credit : Credit} :
    credit ∈ starCredits cfgs player cfgId newStar ↔
      (cfgs.rows.get cfgId).isSome = true ∧ ∃ star, player.recvStar cfgId < star ∧
        star ≤ newStar ∧ credit = .star player.day cfgId star := by
  unfold starCredits
  split
  next row =>
    simp only [List.mem_map, mem_openStars kept, row, true_and]
    constructor
    · rintro ⟨star, ⟨above, le⟩, same⟩
      exact ⟨star, above, le, same.symm⟩
    · rintro ⟨star, above, le, same⟩
      exact ⟨star, ⟨above, le⟩, same.symm⟩
  next none =>
    exact ⟨fun mem => absurd mem List.not_mem_nil, fun there => absurd there.1 none⟩

/-- Levels get a star that is at least their best one, and all that is due for it. -/
structure Raises (cfgs : PveCfgs) (due : Dict ℕ ℕ) (player after : Player) : Prop where
  grows : ∀ cfgId, ∀ newStar ∈ due.lookup cfgId,
    ∃ best ∈ player.pass.lookup cfgId, best ≤ newStar
  day : after.day = player.day
  credited : after.credited = player.credited ++
    due.objects.flatMap fun entry => starCredits cfgs player entry.1 entry.2
  paid : ∀ res, after.resBag.num res = player.resBag.num res +
    ((due.objects.flatMap fun entry => starCredits cfgs player entry.1 entry.2).map
      (Credit.amount cfgs res)).sum
  pass : ∀ cfgId, after.pass.lookup cfgId =
    (due.lookup cfgId).or (player.pass.lookup cfgId)
  daily : ∀ cfgId, after.dailyRewards.lookup cfgId =
    (due.lookup cfgId).or (player.dailyRewards.lookup cfgId)
  dayPass : ∀ cfgId, ∀ stars ∈ after.dayPass.lookup cfgId, ∀ star ∈ stars,
    star ≤ after.recvStar cfgId

section Raises

variable {due : Dict ℕ ℕ}

theorem mem_dueCredits (kept : Kept cfgs opening player) {credit : Credit} :
    (credit ∈ due.objects.flatMap fun entry => starCredits cfgs player entry.1 entry.2) ↔
      ∃ cfgId, (cfgs.rows.get cfgId).isSome = true ∧ ∃ newStar ∈ due.lookup cfgId, ∃ star,
        player.recvStar cfgId < star ∧ star ≤ newStar ∧
          credit = .star player.day cfgId star := by
  simp only [List.mem_flatMap, mem_starCredits kept]
  constructor
  · rintro ⟨⟨cfgId, newStar⟩, entry_mem, row, star, above, le, rfl⟩
    exact ⟨cfgId, row, newStar, Dict.lookup_of_mem entry_mem, star, above, le, rfl⟩
  · rintro ⟨cfgId, row, newStar, found, star, above, le, rfl⟩
    exact ⟨(cfgId, newStar), Dict.mem_of_lookup found, row, star, above, le, rfl⟩

theorem nodup_dueCredits (kept : Kept cfgs opening player) :
    (due.objects.flatMap fun entry => starCredits cfgs player entry.1 entry.2).Nodup := by
  refine List.nodup_flatMap.mpr ⟨fun entry _ => ?_, ?_⟩
  · unfold starCredits
    split
    · exact (nodup_openStars player entry.1 entry.2).map fun _ _ same =>
        (Credit.star.inj same).2.2
    · exact List.nodup_nil
  · refine (List.pairwise_map.mp due.nodup).imp fun {first second} different => ?_
    intro credit first_mem second_mem
    obtain ⟨-, star, -, -, rfl⟩ := (mem_starCredits kept).mp first_mem
    obtain ⟨-, other, -, -, same⟩ := (mem_starCredits kept).mp second_mem
    exact different (Credit.star.inj same).2.1

theorem Raises.rewarded (raises : Raises cfgs due player after)
    (kept : Kept cfgs opening player) : Rewarded cfgs opening after where
  once := by
    rw [raises.credited, List.nodup_append']
    refine ⟨kept.rewarded.once, nodup_dueCredits kept, fun credit old_mem due_mem => ?_⟩
    -- A star that is due today is above those that are paid today.
    obtain ⟨cfgId, -, newStar, -, star, above, -, rfl⟩ := (mem_dueCredits kept).mp due_mem
    have paid_le := ((kept.today cfgId star).mp old_mem).2.2
    omega
  pass_iff cfgId := by
    have not_due : .pass cfgId ∉ due.objects.flatMap
        fun entry => starCredits cfgs player entry.1 entry.2 := by
      intro pass_mem
      obtain ⟨_, _, _, _, _, _, _, same⟩ := (mem_dueCredits kept).mp pass_mem
      nomatch same
    rw [raises.credited, List.mem_append, or_iff_left not_due, kept.rewarded.pass_iff, raises.pass]
    refine and_congr_right fun _ => ?_
    cases found : due.lookup cfgId with
    | none => rw [Option.none_or]
    | some newStar =>
        obtain ⟨best, best_found, -⟩ := raises.grows cfgId newStar found
        rw [best_found]
        rfl
  star_le day cfgId star star_mem := by
    rw [raises.credited, List.mem_append] at star_mem
    rw [raises.pass]
    obtain old_mem | due_mem := star_mem
    · obtain ⟨star_pos, best, best_found, le⟩ := kept.rewarded.star_le day cfgId star old_mem
      refine ⟨star_pos, ?_⟩
      cases found : due.lookup cfgId with
      | none => exact ⟨best, best_found, le⟩
      | some newStar =>
          obtain ⟨other, other_found, other_le⟩ := raises.grows cfgId newStar found
          obtain rfl := Option.some.inj (best_found.symm.trans other_found)
          exact ⟨newStar, rfl, le.trans other_le⟩
    · obtain ⟨name, -, newStar, found, index, above, le, same⟩ := (mem_dueCredits kept).mp due_mem
      obtain ⟨-, rfl, rfl⟩ := Credit.star.inj same
      rw [found]
      exact ⟨by omega, newStar, rfl, le⟩
  paid res := by
    rw [raises.paid, raises.credited, kept.rewarded.paid, List.map_append, List.sum_append,
      add_assoc]

theorem Raises.kept (raises : Raises cfgs due player after) (kept : Kept cfgs opening player) :
    Kept cfgs opening after where
  rewarded := raises.rewarded kept
  daily cfgId star found := by
    rw [raises.daily] at found
    rw [raises.pass]
    cases due_found : due.lookup cfgId with
    | none =>
        rw [due_found, Option.none_or] at found
        exact kept.daily cfgId star found
    | some newStar => rwa [due_found] at found
  dayPass := raises.dayPass
  days day cfgId star star_mem := by
    rw [raises.credited, List.mem_append] at star_mem
    rw [raises.day]
    obtain old_mem | due_mem := star_mem
    · exact kept.days day cfgId star old_mem
    · obtain ⟨_, _, _, _, _, _, _, same⟩ := (mem_dueCredits kept).mp due_mem
      exact (Credit.star.inj same).1.le
  today cfgId star := by
    have recv_eq : after.recvStar cfgId = ((due.lookup cfgId).getD (player.recvStar cfgId)) := by
      rw [Player.recvStar, raises.daily]
      cases due.lookup cfgId <;> rfl
    rw [raises.credited, List.mem_append, raises.day, kept.today, mem_dueCredits kept, recv_eq]
    cases found : due.lookup cfgId with
    | none =>
        refine or_iff_left ?_
        rintro ⟨name, -, newStar, name_found, index, -, -, same⟩
        obtain ⟨-, rfl, rfl⟩ := Credit.star.inj same
        exact nomatch found.symm.trans name_found
    | some newStar =>
        obtain ⟨best, best_found, best_le⟩ := raises.grows cfgId newStar found
        have recv_le : player.recvStar cfgId ≤ newStar := by
          unfold Player.recvStar
          cases daily_found : player.dailyRewards.lookup cfgId with
          | none => exact Nat.zero_le _
          | some paid =>
              have := kept.daily cfgId paid daily_found
              obtain rfl := Option.some.inj (this.symm.trans best_found)
              exact best_le
        dsimp only [Option.getD_some]
        constructor
        · rintro (⟨row, star_pos, le⟩ | ⟨name, row, other, name_found, index, above, le, same⟩)
          · exact ⟨row, star_pos, le.trans recv_le⟩
          · obtain ⟨-, rfl, rfl⟩ := Credit.star.inj same
            obtain rfl := Option.some.inj (found.symm.trans name_found)
            exact ⟨row, by omega, le⟩
        · rintro ⟨row, star_pos, le⟩
          by_cases paid : star ≤ player.recvStar cfgId
          · exact .inl ⟨row, star_pos, paid⟩
          · exact .inr ⟨cfgId, row, newStar, found, star, by omega, le, rfl⟩

end Raises

theorem getPassStar_pos (cfgs : PveCfgs) (cfgId : ℕ) (endStep : ℤ) :
    ∃ star ∈ getPassStar cfgs cfgId endStep, 1 ≤ star := by
  unfold getPassStar
  cases found : cfgs.rows.get cfgId with
  | none => exact ⟨1, rfl, le_rfl⟩
  | some cfg =>
      have base : cfg.firstStarQuest.met (endStep / 15) = true := by
        rw [cfgs.base cfg (Keyed.get_mem found).1]
        rfl
      simp only [PveCfg.starQuests, List.zipIdx_cons, List.zipIdx_nil, List.foldl_cons,
        List.foldl_nil, base, if_true]
      by_cases third : cfg.thirdStarQuest.met (endStep / 15) = true
      · rw [if_pos third]
        exact ⟨3, rfl, by norm_num⟩
      · rw [if_neg third]
        by_cases second : cfg.secondStarQuest.met (endStep / 15) = true
        · rw [if_pos second]
          exact ⟨2, rfl, by norm_num⟩
        · rw [if_neg second]
          exact ⟨1, rfl, le_rfl⟩

/-- The state between the first reward of a level and the stars. -/
def Player.passed (cfgs : PveCfgs) (cfgId : ℕ) (player : Player) : Player :=
  { player.recvPassRewards cfgs cfgId with pass := player.pass.assign cfgId 0 }

section

variable (kept : Kept cfgs opening player)
include kept

theorem kept_passed (unpassed : player.pass.lookup cfgId = none) :
    Kept cfgs opening (player.passed cfgs cfgId) := by
  have pays : Pays cfgs _ player (player.recvPassRewards cfgs cfgId) :=
    recvPassRewards_pays player cfgId
  unfold Player.passed
  rw [pays.after_eq]
  have only_pass : ∀ credit ∈ if (cfgs.rows.get cfgId).isSome = true then [Credit.pass cfgId]
      else [], (cfgs.rows.get cfgId).isSome = true ∧ credit = .pass cfgId := by
    intro credit credit_mem
    split at credit_mem
    next row => exact ⟨row, List.mem_singleton.mp credit_mem⟩
    next => exact absurd credit_mem List.not_mem_nil
  have star_mem_iff : ∀ day name star,
      (.star day name star ∈ player.credited ++
        if (cfgs.rows.get cfgId).isSome = true then [Credit.pass cfgId] else []) ↔
      .star day name star ∈ player.credited := fun day name star =>
    List.mem_append.trans (or_iff_left fun mem => Credit.noConfusion (only_pass _ mem).2)
  have best_of_ne : ∀ name, ∀ best ∈ player.pass.lookup name,
      (player.pass.assign cfgId 0).lookup name = some best := by
    intro name best best_found
    rw [Dict.lookup_assign, if_neg]
    · exact best_found
    · rintro rfl
      exact Option.some_ne_none _ (best_found.symm.trans unpassed)
  refine ⟨⟨?_, fun name => ?_, fun day name star mem => ?_, fun res => ?_⟩,
    fun name star found => ?_, kept.dayPass, fun day name star mem => ?_, fun name star => ?_⟩
  · rw [List.nodup_append']
    refine ⟨kept.rewarded.once, ?_, fun credit old_mem new_mem => ?_⟩
    · split
      · exact List.nodup_singleton _
      · exact List.nodup_nil
    · obtain ⟨-, rfl⟩ := only_pass credit new_mem
      simp [kept.rewarded.pass_iff, unpassed] at old_mem
  · rw [List.mem_append, kept.rewarded.pass_iff, Dict.lookup_assign]
    by_cases same : name = cfgId
    · subst same
      rw [if_pos rfl]
      by_cases row : (cfgs.rows.get name).isSome = true
      · simp [row]
      · simp [row]
    · rw [if_neg same]
      refine or_iff_left fun mem => same ?_
      exact Credit.pass.inj (only_pass _ mem).2
  · obtain ⟨star_pos, best, best_found, le⟩ :=
      kept.rewarded.star_le day name star ((star_mem_iff day name star).mp mem)
    exact ⟨star_pos, best, best_of_ne name best best_found, le⟩
  · dsimp only
    rw [pays.paid, kept.rewarded.paid, List.map_append, List.sum_append, add_assoc]
  · exact best_of_ne name star (kept.daily name star found)
  · exact kept.days day name star ((star_mem_iff day name star).mp mem)
  · exact (star_mem_iff player.day name star).trans (kept.today name star)

theorem Kept.dayPass_assign (cfgId : ℕ) :
    Kept cfgs opening { player with
      dayPass := player.dayPass.assign cfgId ((player.dayPass.lookup cfgId).getD []) } where
  rewarded := ⟨kept.rewarded.once, kept.rewarded.pass_iff, kept.rewarded.star_le,
    kept.rewarded.paid⟩
  daily := kept.daily
  days := kept.days
  today := kept.today
  dayPass name stars found star star_mem := by
    dsimp only at found
    rw [Dict.lookup_assign] at found
    split at found
    next same =>
      subst same
      obtain rfl := Option.some.inj found
      cases old : player.dayPass.lookup name with
      | none => simp [old] at star_mem
      | some won => exact kept.dayPass name won old star (by simpa [old] using star_mem)
    next => exact kept.dayPass name stars found star star_mem

/-- The last part of `handleWin` raises one level. -/
theorem raises_win {best : ℕ} (passed : player.pass.lookup cfgId = some best)
    (better : best < newStar) {stars : List ℕ}
    (stars_eq : stars = (player.dayPass.lookup cfgId).getD []) {pass : Dict ℕ ℕ}
    (pass_eq : ∀ name, pass.lookup name = (player.pass.assign cfgId newStar).lookup name)
    {paidPlayer : Player}
    (pays : Pays cfgs (starCredits cfgs player cfgId newStar) { player with pass } paidPlayer) :
    Raises cfgs (Dict.assign cfgId newStar Keyed.empty) player
      { paidPlayer with
        dailyRewards := paidPlayer.dailyRewards.assign cfgId newStar
        dayPass := paidPlayer.dayPass.assign cfgId (stars ++ [newStar])
        pveScore := paidPlayer.pveScore + cfgId } := by
  have due_eq : (Dict.assign cfgId newStar Keyed.empty).objects = [(cfgId, newStar)] :=
    Keyed.set_absent rfl
  have due_lookup : ∀ name, (Dict.assign cfgId newStar Keyed.empty).lookup name =
      if name = cfgId then some newStar else none :=
    fun name => Dict.lookup_assign Keyed.empty cfgId name newStar
  rw [pays.after_eq]
  refine ⟨fun name star found => ?_, rfl, ?_, fun res => ?_, fun name => ?_, fun name => ?_,
    fun name won found star star_mem => ?_⟩
  · rw [due_lookup] at found
    split at found
    next same =>
      obtain rfl := Option.some.inj found
      exact ⟨best, same ▸ passed, better.le⟩
    next => exact nomatch found
  · rw [due_eq, List.flatMap_cons, List.flatMap_nil, List.append_nil]
  · rw [due_eq, List.flatMap_cons, List.flatMap_nil, List.append_nil]
    exact pays.paid res
  · dsimp only
    rw [pass_eq, due_lookup, Dict.lookup_assign]
    split <;> rfl
  · dsimp only
    rw [due_lookup, Dict.lookup_assign]
    split <;> rfl
  · have recv_le : player.recvStar cfgId ≤ newStar := by
      unfold Player.recvStar
      cases daily_found : player.dailyRewards.lookup cfgId with
      | none => exact Nat.zero_le _
      | some paid =>
          have paid_eq := kept.daily cfgId paid daily_found
          obtain rfl := Option.some.inj (paid_eq.symm.trans passed)
          exact better.le
    dsimp only at found
    rw [Dict.lookup_assign] at found
    unfold Player.recvStar
    dsimp only
    rw [Dict.lookup_assign]
    split at found
    next same =>
      subst same stars_eq
      obtain rfl := Option.some.inj found
      rw [if_pos rfl, Option.getD_some]
      obtain old_mem | new_mem := List.mem_append.mp star_mem
      · refine le_trans ?_ recv_le
        cases old : player.dayPass.lookup name with
        | none => simp [old] at old_mem
        | some won => exact kept.dayPass name won old star (by simpa [old] using old_mem)
      · exact (List.mem_singleton.mp new_mem).le
    next different =>
      rw [if_neg different]
      exact kept.dayPass name won found star star_mem

theorem kept_handleWin (cfgId : ℕ) (result endStep : ℤ) :
    Kept cfgs opening (player.handleWin cfgs cfgId result endStep) := by
  unfold Player.handleWin
  dsimp only
  split
  · exact kept
  obtain ⟨newStar, newStar_eq, newStar_pos⟩ := getPassStar_pos cfgs cfgId endStep
  rw [newStar_eq]
  dsimp only
  cases passed : player.pass.lookup cfgId with
  | some best =>
      rw [if_neg (Option.some_ne_none best)]
      split
      · exact kept.dayPass_assign cfgId
      next better =>
        have kept_day := kept.dayPass_assign cfgId
        refine (raises_win kept_day passed (not_le.mp better) ?_ (fun _ => rfl)
          (recvStarRewards_pays_of_pass _ _ cfgId newStar)).kept kept_day
        rw [Dict.lookup_assign, if_pos rfl, Option.getD_some]
  | none =>
      have kept_day := (kept_passed kept passed).dayPass_assign cfgId
      have pass_eq : (player.recvPassRewards cfgs cfgId).pass = player.pass := by
        rw [(recvPassRewards_pays player cfgId).after_eq]
      have passed_zero : (player.passed cfgs cfgId).pass.lookup cfgId = some 0 :=
        (Dict.lookup_assign player.pass cfgId cfgId 0).trans (if_pos rfl)
      rw [if_pos rfl, Option.getD_none, if_neg (Nat.not_le.mpr newStar_pos)]
      refine (raises_win kept_day passed_zero newStar_pos ?_ (fun name => ?_)
        (recvStarRewards_pays_of_pass _ _ cfgId newStar)).kept kept_day
      · rw [Dict.lookup_assign, if_pos rfl, Option.getD_some]
        rfl
      · dsimp only [Player.passed]
        rw [pass_eq, Dict.lookup_assign, Dict.lookup_assign, Dict.lookup_assign]
        split <;> rfl

end

theorem recvOpen_spec (entries : List (ℕ × ℕ)) (state : Player × Dict ℕ ℕ)
    (nodup : ((state.2.objects ++ entries).map Prod.fst).Nodup)
    (pays : Pays cfgs (state.2.objects.flatMap fun entry => starCredits cfgs player entry.1 entry.2)
      player state.1) :
    let last := Player.recvOpen cfgs entries state
    last.2.objects = state.2.objects ++
        entries.filter (fun entry => player.dailyRewards.lookup entry.1 = none) ∧
      Pays cfgs (last.2.objects.flatMap fun entry => starCredits cfgs player entry.1 entry.2)
        player last.1 := by
  induction entries generalizing state with
  | nil => exact ⟨(List.append_nil _).symm, pays⟩
  | cons entry entries ih =>
      obtain ⟨now, recvCfgIds⟩ := state
      dsimp only at nodup pays
      have daily_eq : now.dailyRewards = player.dailyRewards := by rw [pays.after_eq]
      rw [Player.recvOpen, List.foldl_cons, ← Player.recvOpen]
      dsimp only
      rw [daily_eq]
      by_cases due : player.dailyRewards.lookup entry.1 = none
      · have absent : recvCfgIds.get entry.1 = none := by
          rw [Keyed.get_none_iff]
          rw [List.map_append, List.map_cons, List.nodup_append] at nodup
          exact fun name_mem => nodup.2.2 _ name_mem _ List.mem_cons_self rfl
        have appended : (recvCfgIds.assign entry.1 entry.2).objects =
            recvCfgIds.objects ++ [entry] := Keyed.set_absent absent
        have paid := pays.trans (recvStarRewards_pays now entry.1 entry.2)
        have same_credits : starCredits cfgs now entry.1 entry.2 =
            starCredits cfgs player entry.1 entry.2 := by
          rw [pays.after_eq]
          rfl
        rw [if_pos due, List.filter_cons_of_pos (by simpa using due)]
        obtain ⟨objects_eq, last_pays⟩ := ih
          (now.recvStarRewards cfgs entry.1 entry.2, recvCfgIds.assign entry.1 entry.2)
          (by rw [appended]; simpa using nodup)
          (by simpa [appended, same_credits] using paid)
        refine ⟨?_, last_pays⟩
        rw [objects_eq, appended, List.append_assoc, List.singleton_append]
      · rw [if_neg due, List.filter_cons_of_neg (by simpa using due)]
        refine ih (now, recvCfgIds) (nodup.sublist ?_) pays
        exact ((List.sublist_cons_self entry entries).append_left _).map Prod.fst

/-- `receiveDailyRewards` raises the levels that are passed and not paid today. -/
theorem raises_receive (kept : Kept cfgs opening player) :
    ∃ due : Dict ℕ ℕ, Raises cfgs due player (player.receiveDailyRewards cfgs) ∧
      ∀ cfgId, due.lookup cfgId =
        if player.dailyRewards.lookup cfgId = none then player.pass.lookup cfgId else none := by
  obtain ⟨objects_eq, pays⟩ := recvOpen_spec player.pass.objects (player, Keyed.empty)
    player.pass.nodup (Pays.refl player)
  unfold Player.receiveDailyRewards
  generalize Player.recvOpen cfgs player.pass.objects (player, Keyed.empty) = last at *
  obtain ⟨paidPlayer, due⟩ := last
  rw [Keyed.empty, List.nil_append] at objects_eq
  dsimp only at objects_eq pays ⊢
  have due_lookup : ∀ cfgId, due.lookup cfgId =
      if player.dailyRewards.lookup cfgId = none then player.pass.lookup cfgId else none := by
    intro cfgId
    have due_iff : ∀ star, due.lookup cfgId = some star ↔
        player.pass.lookup cfgId = some star ∧ player.dailyRewards.lookup cfgId = none := by
      intro star
      constructor
      · intro found
        have entry_mem := Dict.mem_of_lookup found
        rw [objects_eq, List.mem_filter, decide_eq_true_eq] at entry_mem
        exact ⟨Dict.lookup_of_mem entry_mem.1, entry_mem.2⟩
      · rintro ⟨found, unpaid⟩
        have entry_mem : (cfgId, star) ∈ due.objects := by
          rw [objects_eq, List.mem_filter, decide_eq_true_eq]
          exact ⟨Dict.mem_of_lookup found, unpaid⟩
        exact Dict.lookup_of_mem entry_mem
    refine Option.ext fun star => ?_
    rw [due_iff]
    split
    next unpaid => exact and_iff_left unpaid
    next paid => exact iff_of_false (fun both => paid both.2) (Option.some_ne_none star).symm
  have daily_eq : ∀ cfgId,
      (due.objects.foldl (fun dailyRewards entry => dailyRewards.assign entry.1 entry.2)
        paidPlayer.dailyRewards).lookup cfgId =
      (due.lookup cfgId).or (player.dailyRewards.lookup cfgId) := by
    intro cfgId
    refine (Dict.foldl_view due _ Dict.lookup (fun _ value _ => some value) ?_ ?_ _ cfgId).trans ?_
    · intro table entry name different
      rw [Dict.lookup_assign, if_neg different]
    · intro table entry
      rw [Dict.lookup_assign, if_pos rfl]
    · rw [pays.after_eq]
      cases due.lookup cfgId <;> rfl
  refine ⟨due, ⟨fun cfgId newStar found => ?_, ?_, ?_, pays.paid, fun cfgId => ?_, daily_eq,
    fun cfgId stars found star star_mem => ?_⟩, due_lookup⟩
  · rw [due_lookup] at found
    split at found
    · exact ⟨newStar, found, le_rfl⟩
    · cases found
  · rw [pays.after_eq]
  · rw [pays.after_eq]
  · have pass_eq : paidPlayer.pass = player.pass := by rw [pays.after_eq]
    dsimp only
    rw [pass_eq, due_lookup]
    split
    · cases player.pass.lookup cfgId <;> rfl
    · rfl
  · have dayPass_eq : paidPlayer.dayPass = player.dayPass := by rw [pays.after_eq]
    dsimp only at found
    rw [dayPass_eq] at found
    have star_le := kept.dayPass cfgId stars found star star_mem
    unfold Player.recvStar at star_le ⊢
    dsimp only
    rw [daily_eq]
    cases paid : player.dailyRewards.lookup cfgId with
    | none =>
        rw [paid, Option.getD_none] at star_le
        exact star_le.trans (Nat.zero_le _)
    | some recvStar =>
        rw [due_lookup, if_neg (by rw [paid]; exact Option.some_ne_none _), Option.none_or]
        rwa [paid] at star_le

theorem receivedAll_receive (kept : Kept cfgs opening player) :
    ReceivedAll cfgs (player.receiveDailyRewards cfgs) := by
  obtain ⟨due, raises, due_lookup⟩ := raises_receive kept
  have kept_after := raises.kept kept
  intro cfgId row best best_found star star_pos star_le
  refine List.count_eq_one_of_mem kept_after.rewarded.once ?_
  refine (kept_after.today cfgId star).mpr ⟨row, star_pos, star_le.trans ?_⟩
  -- What is paid today is the best star of the level.
  rw [Option.mem_def, raises.pass] at best_found
  unfold Player.recvStar
  rw [raises.daily]
  rw [due_lookup] at best_found ⊢
  cases paid : player.dailyRewards.lookup cfgId with
  | none =>
      rw [paid, if_pos rfl, Option.or_self] at best_found
      rw [if_pos rfl, best_found]
      rfl
  | some recvStar =>
      rw [paid, if_neg (Option.some_ne_none _), Option.none_or,
        kept.daily cfgId recvStar paid] at best_found
      obtain rfl := Option.some.inj best_found
      exact le_rfl

theorem kept_resetData (kept : Kept cfgs opening player) (dayzerotime : ℤ → ℤ) (timestamp : ℤ) :
    Kept cfgs opening (player.resetData dayzerotime timestamp) where
  rewarded := ⟨kept.rewarded.once, kept.rewarded.pass_iff, kept.rewarded.star_le,
    kept.rewarded.paid⟩
  daily _ _ found := nomatch found
  dayPass _ _ found := nomatch found
  days day cfgId star star_mem := (kept.days day cfgId star star_mem).trans (Nat.le_succ _)
  today cfgId star := by
    constructor
    · intro star_mem
      exact absurd (kept.days _ cfgId star star_mem) (Nat.not_succ_le_self _)
    · rintro ⟨-, star_pos, le⟩
      exact absurd (star_pos.trans le) (Nat.not_succ_le_zero 0)

theorem deserialize_serialize (player : Player) :
    Player.deserialize player.serialize = some player := by
  simp only [Player.deserialize, Player.serialize, Spelling.ofDoc_toDoc]
  rfl

theorem kept_new (cfgs : PveCfgs) (dayzerotime : ℤ → ℤ) (opening : Resources.ResBag)
    (timestamp : ℤ) : Kept cfgs opening (.new dayzerotime opening timestamp) where
  rewarded := {
    once := List.nodup_nil
    pass_iff _ := iff_of_false List.not_mem_nil fun both => nomatch both.2
    star_le _ _ _ star_mem := absurd star_mem List.not_mem_nil
    paid _ := (add_zero _).symm }
  daily _ _ found := nomatch found
  dayPass _ _ found := nomatch found
  days _ _ _ star_mem := absurd star_mem List.not_mem_nil
  today _ _ := iff_of_false List.not_mem_nil fun ⟨_, star_pos, le⟩ =>
    Nat.not_succ_le_zero 0 (star_pos.trans le)

/-- The player and the saved one are kept. -/
def KeptWorld (cfgs : PveCfgs) (opening : Resources.ResBag) (world : World) : Prop :=
  Kept cfgs opening world.player ∧
    ∃ saved, Kept cfgs opening saved ∧ world.saved = saved.serialize

theorem keptWorld_step (dayzerotime : ℤ → ℤ) (world : World) (event : Event)
    (kept : KeptWorld cfgs opening world) :
    KeptWorld cfgs opening (world.step cfgs dayzerotime event) := by
  obtain ⟨kept_player, saved, kept_saved, saved_eq⟩ := kept
  unfold World.step
  cases event with
  | endBattle cfgId result endStep =>
      exact ⟨kept_handleWin kept_player cfgId result endStep, saved, kept_saved, saved_eq⟩
  | receiveDailyRewards =>
      obtain ⟨due, raises, -⟩ := raises_receive kept_player
      exact ⟨raises.kept kept_player, saved, kept_saved, saved_eq⟩
  | onSecond timestamp =>
      refine ⟨?_, saved, kept_saved, saved_eq⟩
      dsimp only [Player.checkResetData]
      split
      · exact kept_player
      · exact kept_resetData kept_player dayzerotime timestamp
  | save => exact ⟨kept_player, world.player, kept_player, rfl⟩
  | reload =>
      dsimp only
      rw [saved_eq, deserialize_serialize]
      exact ⟨kept_saved, saved, kept_saved, rfl⟩

theorem keptWorld_run (dayzerotime : ℤ → ℤ) (timestamp : ℤ) (events : List Event) :
    KeptWorld cfgs opening
      ((machine cfgs dayzerotime).run (.new dayzerotime opening timestamp) events).1 := by
  have kept := kept_new cfgs dayzerotime opening timestamp
  exact Machine.holds_run (KeptWorld cfgs opening)
    (fun world event kept _ => keptWorld_step dayzerotime world event kept)
    ⟨kept, _, kept, rfl⟩ (Machine.allowed_true _ events)

end Kept

/-- The state of a player after some events. -/
def playerAfter (cfgs : PveCfgs) (dayzerotime : ℤ → ℤ) (opening : Resources.ResBag)
    (timestamp : ℤ) (events : List Event) : Player :=
  ((machine cfgs dayzerotime).run (.new dayzerotime opening timestamp) events).1.player

end BasWar.PveRewards
