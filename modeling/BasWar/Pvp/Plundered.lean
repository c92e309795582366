import BasWar.Pvp.Battle
import Mathlib.Algebra.BigOperators.Ring.Finset
import Mathlib.Algebra.BigOperators.Ring.List
import Mathlib.Algebra.Order.BigOperators.Group.List

/-!
# What a victory takes and gives

The loot of a victory is rounded down over the bag and over the builds, while the builds of the
defender are rounded down one by one.  The loot is at most what the defender loses.
-/

namespace BasWar.Pvp

def loot : List BaseRes :=
  [.starCoin, .ice, .titanium, .gas]

namespace Foundation

def held (res : BaseRes) (base : Foundation) : ℤ :=
  base.res res + (base.builds.map fun build => build.cur res).sum

/-- The part of the storage that is protected. -/
def resLowLimit (res : BaseRes) (base : Foundation) : ℚ :=
  (base.builds.map fun build => build.store res).sum * base.getBuildResProtectRatio

/-- Ratios between 0 and 1, stores that are not negative, and builds that are reported with no more
than they hold.  A configuration row without columns `cur..` reports 0. -/
structure Configured (cfg : DefenceCfg) (base : Foundation) : Prop where
  plunder_ratio : 0 ≤ cfg.pvpPlunderRatio ∧ cfg.pvpPlunderRatio ≤ 1
  new_hand_ratio : ∀ row ∈ cfg.newHandPvpProtectRatio, 0 ≤ row.ratio ∧ row.ratio ≤ 1
  protect_ratio : ∀ build ∈ base.builds, ∀ ratio ∈ build.resProtectRatio, 0 ≤ ratio ∧ ratio ≤ 1
  store_nonneg : ∀ build ∈ base.builds, ∀ res, 0 ≤ build.store res
  reported_le : ∀ build ∈ base.builds, ∀ res,
    build.curStore res ≤ if build.isMakeResBuild then max (build.cur res) 0 else 0

section Plunder

variable {cfg : DefenceCfg} {base : Foundation} {res : BaseRes}

section

variable (configured : base.Configured cfg)
include configured

theorem ratio_bounds :
    0 ≤ base.storeTotalPlunderRatio cfg ∧ base.storeTotalPlunderRatio cfg ≤ 1 := by
  obtain ⟨plunder_nonneg, plunder_le⟩ := configured.plunder_ratio
  have new_hand : 0 ≤ base.getNewHandProtectRatio cfg ∧ base.getNewHandProtectRatio cfg ≤ 1 := by
    unfold getNewHandProtectRatio
    split
    next row found => exact configured.new_hand_ratio row (List.mem_of_find?_eq_some found)
    · exact ⟨le_rfl, zero_le_one⟩
  have rest_nonneg := sub_nonneg.mpr new_hand.2
  exact ⟨mul_nonneg rest_nonneg plunder_nonneg,
    mul_le_one₀ (sub_le_self _ new_hand.1) plunder_nonneg plunder_le⟩

theorem protect_ratio_nonneg : 0 ≤ base.getBuildResProtectRatio := by
  unfold getBuildResProtectRatio
  cases found : (base.builds.filterMap Build.resProtectRatio).head? with
  | none => exact le_rfl
  | some ratio =>
      obtain ⟨build, build_mem, ratio_eq⟩ := List.mem_filterMap.mp (List.mem_of_head? found)
      exact (configured.protect_ratio build build_mem ratio ratio_eq).1

theorem resLowLimit_nonneg (res : BaseRes) : 0 ≤ base.resLowLimit res := by
  refine mul_nonneg (Int.cast_nonneg (List.sum_nonneg fun store store_mem => ?_))
    (protect_ratio_nonneg configured)
  obtain ⟨build, build_mem, rfl⟩ := List.mem_map.mp store_mem
  exact configured.store_nonneg build build_mem res

theorem plunderRes_le (res : BaseRes) :
    0 ≤ base.plunderRes cfg res ∧
      (base.plunderRes cfg res : ℚ) ≤ max (base.res res - base.resLowLimit res) 0 := by
  obtain ⟨ratio_nonneg, ratio_le⟩ := ratio_bounds configured
  have plunderable_eq : base.getStorePlunderable res base.getBuildResProtectRatio =
      max (base.res res - base.resLowLimit res) 0 := by
    unfold getStorePlunderable resLowLimit
    dsimp only
    rw [max_comm, max_def_lt]
  have part_nonneg := le_max_right (base.res res - base.resLowLimit res) 0
  have floor_bounds : 0 ≤ ⌊base.getStorePlunderable res base.getBuildResProtectRatio *
        base.storeTotalPlunderRatio cfg⌋ ∧
      (⌊base.getStorePlunderable res base.getBuildResProtectRatio *
        base.storeTotalPlunderRatio cfg⌋ : ℚ) ≤ max (base.res res - base.resLowLimit res) 0 := by
    rw [plunderable_eq]
    exact ⟨Int.floor_nonneg.mpr (mul_nonneg part_nonneg ratio_nonneg),
      (Int.floor_le _).trans (mul_le_of_le_one_right part_nonneg ratio_le)⟩
  cases res
  case carboxyl => exact ⟨le_rfl, by simp [plunderRes]⟩
  case tesseract => exact ⟨le_rfl, by simp [plunderRes]⟩
  all_goals exact floor_bounds

end

theorem res_costRes (base : Foundation) (res other : BaseRes) (value : ℤ) :
    (base.costRes res value).res other =
      if other = res then if value ≤ 0 then base.res other else max (base.res other - value) 0
      else base.res other := by
  unfold costRes
  by_cases small : value ≤ 0
  · simp [small]
  · by_cases same : other = res
    · subst same
      simp [small]
    · simp [small, same]

theorem res_plunder (configured : base.Configured cfg) (res : BaseRes) :
    (base.plunder cfg).res res = base.res res - base.plunderRes cfg res := by
  obtain ⟨value_nonneg, value_le⟩ := plunderRes_le configured res
  have limit_nonneg := resLowLimit_nonneg configured res
  have charged_eq : (if base.plunderRes cfg res ≤ 0 then base.res res
      else max (base.res res - base.plunderRes cfg res) 0) =
        base.res res - base.plunderRes cfg res := by
    split
    next small => omega
    next large =>
      have value_pos : (0 : ℚ) < base.plunderRes cfg res := mod_cast not_le.mp large
      have part_le : (base.plunderRes cfg res : ℚ) ≤ base.res res := by
        rcases le_max_iff.mp value_le with le | small
        · linarith
        · linarith
      exact max_eq_left (sub_nonneg.mpr (mod_cast part_le))
  refine Eq.trans ?_ charged_eq
  cases res
  case tesseract =>
    have nothing : base.plunderRes cfg .tesseract = 0 := rfl
    simp [plunder, res_costRes, nothing]
  all_goals simp [plunder, res_costRes]

end Plunder

end Foundation

namespace Build

variable {ratio : ℚ} {res : BaseRes}

theorem cur_plunder (build : Build) (ratio : ℚ) (res other : BaseRes) :
    (build.plunder ratio res).cur other =
      if other = res ∧ 0 < ratio ∧ ratio ≤ 1 ∧ build.isMakeResBuild ∧ 0 < build.cur res then
        ⌊(1 - ratio) * build.cur res⌋
      else build.cur other := by
  unfold plunder
  by_cases plundered :
      0 < ratio ∧ ratio ≤ 1 ∧ build.isMakeResBuild = true ∧ 0 < build.cur res
  · rw [if_pos plundered]
    by_cases same : other = res
    · subst same
      simp [plundered]
    · simp [same]
  · rw [if_neg plundered, if_neg fun both => plundered both.2]

@[simp]
theorem isMakeResBuild_plunder (build : Build) (ratio : ℚ) (res : BaseRes) :
    (build.plunder ratio res).isMakeResBuild = build.isMakeResBuild := by
  unfold plunder
  split <;> rfl

/-- A build after `plunderBuildRes` for all resources. -/
def plundered (ratio : ℚ) (build : Build) : Build :=
  [BaseRes.starCoin, .ice, .titanium, .gas].foldl (fun build res => build.plunder ratio res) build

theorem cur_plundered (build : Build) (ratio : ℚ) (res : BaseRes) :
    (build.plundered ratio).cur res =
      if res ∈ loot then (build.plunder ratio res).cur res else build.cur res := by
  cases res <;> simp [plundered, loot, cur_plunder]

theorem plundered_loses {build : Build} (ratio_nonneg : 0 ≤ ratio) (ratio_le : ratio ≤ 1)
    (res_mem : res ∈ loot)
    (reported_le : build.curStore res ≤ if build.isMakeResBuild then max (build.cur res) 0 else 0) :
    (build.curStore res * ratio : ℚ) ≤ build.cur res - (build.plundered ratio).cur res := by
  rw [cur_plundered, if_pos res_mem, cur_plunder]
  split
  next taken =>
    obtain ⟨-, -, -, makes, cur_pos⟩ := taken
    rw [if_pos makes, max_eq_left cur_pos.le] at reported_le
    have reported_le' : (build.curStore res : ℚ) ≤ build.cur res := mod_cast reported_le
    have part_le := mul_le_mul_of_nonneg_right reported_le' ratio_nonneg
    have floor_le := Int.floor_le ((1 - ratio) * build.cur res)
    linarith
  next kept =>
    rw [sub_self]
    rcases ratio_nonneg.eq_or_lt with rfl | ratio_pos
    · rw [mul_zero]
    · refine mul_nonpos_of_nonpos_of_nonneg ?_ ratio_nonneg
      refine Int.cast_nonpos.mpr (reported_le.trans ?_)
      split
      next makes =>
        refine (max_eq_right (not_lt.mp fun cur_pos => kept ?_)).le
        exact ⟨rfl, ratio_pos, ratio_le, makes, cur_pos⟩
      · exact le_rfl

theorem plundered_bounds (build : Build) (ratio_nonneg : 0 ≤ ratio) (ratio_le : ratio ≤ 1)
    (res : BaseRes) :
    (build.plundered ratio).cur res ≤ build.cur res ∧
      (0 ≤ build.cur res → 0 ≤ (build.plundered ratio).cur res) := by
  rw [cur_plundered]
  split
  swap
  · exact ⟨le_rfl, id⟩
  rw [cur_plunder]
  split
  next taken =>
    have cur_nonneg : (0 : ℚ) ≤ build.cur res := mod_cast taken.2.2.2.2.le
    have kept_le : (1 - ratio) * build.cur res ≤ build.cur res :=
      mul_le_of_le_one_left cur_nonneg (sub_le_self _ ratio_nonneg)
    exact ⟨Int.floor_le_iff.mpr (by linarith),
      fun _ => Int.floor_nonneg.mpr (mul_nonneg (sub_nonneg.mpr ratio_le) cur_nonneg)⟩
  · exact ⟨le_rfl, id⟩

end Build

namespace Foundation

variable {cfg : DefenceCfg} {base : Foundation} {res : BaseRes}

theorem builds_plunder (cfg : DefenceCfg) (base : Foundation) :
    (base.plunder cfg).builds =
      base.builds.map (Build.plundered (base.storeTotalPlunderRatio cfg)) := by
  have costed (kinds : List BaseRes) (value : BaseRes → ℤ) (base : Foundation) :
      (kinds.foldl (fun base res => base.costRes res (value res)) base).builds = base.builds := by
    induction kinds generalizing base with
    | nil => rfl
    | cons kind kinds ih =>
        rw [List.foldl_cons, ih]
        unfold costRes
        split <;> rfl
  exact congrArg (List.map _) (costed _ _ base)

theorem plunderStore_le (configured : base.Configured cfg) (res_mem : res ∈ loot) :
    base.plunderStore cfg res ≤
      (base.builds.map fun build => build.cur res).sum -
        ((base.plunder cfg).builds.map fun build => build.cur res).sum := by
  obtain ⟨ratio_nonneg, ratio_le⟩ := ratio_bounds configured
  have floor_eq : base.plunderStore cfg res =
      ⌊(base.builds.map fun build => build.curStore res).sum *
        base.storeTotalPlunderRatio cfg⌋ := by
    cases res
    case carboxyl => exact absurd res_mem (by decide)
    case tesseract => exact absurd res_mem (by decide)
    all_goals rfl
  have lost_le : ((base.builds.map fun build => build.curStore res).sum *
      base.storeTotalPlunderRatio cfg : ℚ) ≤
        ((base.builds.map fun build => build.cur res).sum : ℤ) -
          (((base.plunder cfg).builds.map fun build => build.cur res).sum : ℤ) := by
    rw [builds_plunder, List.map_map]
    have each := fun build build_mem => le_sub_iff_add_le.mp
      (Build.plundered_loses ratio_nonneg ratio_le res_mem
        (configured.reported_le build build_mem res))
    have builds_le := List.sum_le_sum each
    rw [List.sum_map_add, List.sum_map_mul_right] at builds_le
    rw [le_sub_iff_add_le]
    push_cast [List.map_map]
    exact builds_le
  rw [floor_eq]
  have floor_le := (Int.floor_le _).trans lost_le
  exact_mod_cast floor_le

theorem held_plunder_le (configured : base.Configured cfg) (res : BaseRes) :
    (base.plunder cfg).held res ≤ base.held res := by
  obtain ⟨ratio_nonneg, ratio_le⟩ := ratio_bounds configured
  have res_nonneg := (plunderRes_le configured res).1
  have builds_le : ((base.plunder cfg).builds.map fun build => build.cur res).sum ≤
      (base.builds.map fun build => build.cur res).sum := by
    rw [builds_plunder, List.map_map]
    exact List.sum_le_sum fun build _ => (build.plundered_bounds ratio_nonneg ratio_le res).1
  rw [held, held, res_plunder configured]
  linarith

theorem getPlunderableResInfo_le (configured : base.Configured cfg) (res_mem : res ∈ loot) :
    base.getPlunderableResInfo cfg res ≤ base.held res - (base.plunder cfg).held res := by
  have store_le := plunderStore_le configured res_mem
  rw [getPlunderableResInfo, held, held, res_plunder configured]
  linarith

theorem resInfo_amount {result : ℤ} {isFreeBeFight : Bool} {info : EndInfo}
    (res_mem : res ∈ loot) :
    (base.resInfo cfg result isFreeBeFight info).amount res = info.amount res := by
  have not_tesseract : res ≠ .tesseract := by
    rintro rfl
    exact absurd res_mem (by decide)
  unfold resInfo
  split_ifs
  · rfl
  · rfl
  · exact Function.update_of_ne not_tesseract _ _

theorem endAttacked_amount_le (configured : base.Configured cfg) (res_mem : res ∈ loot) :
    max ((base.endAttacked cfg battleWin).2.amount res) 0 ≤
      base.held res - (base.endAttacked cfg battleWin).1.held res := by
  unfold endAttacked
  split
  · exact (sub_self (base.held res)).ge
  split
  · exact max_le (getPlunderableResInfo_le configured res_mem)
      (sub_nonneg.mpr (held_plunder_le configured res))
  · exact (sub_self (base.held res)).ge

theorem endAttacked_keeps (configured : base.Configured cfg) (res : BaseRes) :
    (0 ≤ base.res res → 0 ≤ (base.endAttacked cfg battleWin).1.res res) ∧
      ((∀ build ∈ base.builds, 0 ≤ build.cur res) →
        ∀ build ∈ (base.endAttacked cfg battleWin).1.builds, 0 ≤ build.cur res) ∧
      min (base.res res : ℚ) (base.resLowLimit res) ≤
        (base.endAttacked cfg battleWin).1.res res := by
  unfold endAttacked
  split
  · exact ⟨id, id, min_le_left _ _⟩
  split
  · obtain ⟨ratio_nonneg, ratio_le⟩ := ratio_bounds configured
    obtain ⟨-, value_le⟩ := plunderRes_le configured res
    have limit_nonneg := resLowLimit_nonneg configured res
    have kept_le : min (base.res res : ℚ) (base.resLowLimit res) ≤ (base.plunder cfg).res res := by
      rw [res_plunder configured]
      push_cast
      rcases le_total (base.res res : ℚ) (base.resLowLimit res) with poor | rich
      · rw [min_eq_left poor]
        rw [max_eq_right (sub_nonpos.mpr poor)] at value_le
        linarith
      · rw [min_eq_right rich]
        rw [max_eq_left (sub_nonneg.mpr rich)] at value_le
        linarith
    refine ⟨fun res_nonneg => ?_, fun cur_nonneg build build_mem => ?_, kept_le⟩
    · have res_nonneg' : (0 : ℚ) ≤ base.res res := mod_cast res_nonneg
      exact_mod_cast (le_min res_nonneg' limit_nonneg).trans kept_le
    · rw [builds_plunder] at build_mem
      obtain ⟨old, old_mem, rfl⟩ := List.mem_map.mp build_mem
      exact (old.plundered_bounds ratio_nonneg ratio_le res).2 (cur_nonneg old old_mem)
  · exact ⟨id, id, min_le_left _ _⟩

end Foundation

namespace Battles

variable {cfg : AttackCfg} {attacker : Attacker}

theorem res_safeAddRes_le (cfg : AttackCfg) (attacker : Attacker) (res other : BaseRes)
    (count : ℤ) :
    (attacker.safeAddRes cfg res count).res other ≤
      attacker.res other + if other = res then max count 0 else 0 := by
  obtain ⟨succCount, succ_le, paid_eq⟩ : ∃ succCount ≤ count,
      attacker.safeAddRes cfg res count =
        if 0 < succCount then
          { attacker with res := Function.update attacker.res res (attacker.res res + succCount) }
        else attacker := by
    refine ⟨_, ?_, rfl⟩
    split_ifs <;> omega
  rw [paid_eq]
  by_cases same : other = res
  · subst same
    split
    · dsimp only
      rw [Function.update_self, if_pos rfl]
      omega
    · rw [if_pos rfl]
      omega
  · rw [if_neg same, add_zero]
    split
    · exact (Function.update_of_ne same _ _).le
    · exact le_rfl

theorem res_addRewards_le (cfg : AttackCfg) (battle : ℕ) (info : EndInfo) (score : ℤ)
    (attacker : Attacker) (res : BaseRes) :
    (attacker.addRewards cfg battle info score).res res ≤
      attacker.res res + max (info.amount res) 0 := by
  have paid (kinds : List BaseRes) (nodup : kinds.Nodup) (attacker : Attacker) :
      (kinds.foldl (fun attacker kind => attacker.safeAddRes cfg kind (info.amount kind))
        attacker).res res ≤
          attacker.res res + if res ∈ kinds then max (info.amount res) 0 else 0 := by
    induction kinds generalizing attacker with
    | nil => simp
    | cons kind kinds ih =>
        rw [List.nodup_cons] at nodup
        have first := res_safeAddRes_le cfg attacker kind res (info.amount kind)
        have rest := ih nodup.2 (attacker.safeAddRes cfg kind (info.amount kind))
        rw [List.foldl_cons]
        by_cases same : res = kind
        · subst same
          rw [if_pos rfl] at first
          rw [if_neg nodup.1] at rest
          rw [if_pos List.mem_cons_self]
          omega
        · rw [if_neg same] at first
          simp only [List.mem_cons, same, false_or]
          omega
  refine (paid spoils (by decide) attacker).trans ?_
  split <;> omega

theorem res_settle (cfg : AttackCfg) (battle : ℕ) (ret : ℤ) (result : BattleResult)
    (info : Option EndInfo) (attacker : Attacker) :
    (attacker.settle cfg battle ret result info).1.res = attacker.res := by
  unfold Attacker.settle
  split
  · rfl
  · dsimp only
    split <;> rfl

theorem res_askScore (cfg : AttackCfg) (battle : ℕ) (ret score : ℤ) (result : BattleResult)
    (info : Option EndInfo) (attacker : Attacker) :
    (attacker.askScore cfg battle ret score result info).1.res = attacker.res := by
  unfold Attacker.askScore
  split
  · split
    · rfl
    · exact res_settle ..
  · rfl

theorem res_endInfo_le (cfg : AttackCfg) (battle enemy : ℕ) (result : BattleResult)
    (info : EndInfo) (attacker : Attacker) {res : BaseRes} (res_mem : res ∈ loot) :
    (attacker.endInfo cfg battle enemy battleWin result (some info)).1.res res ≤
      attacker.res res + max (info.amount res) 0 := by
  have not_carboxyl : res ≠ .carboxyl := by
    rintro rfl
    exact absurd res_mem (by decide)
  have told : max ((Attacker.winInfo cfg attacker.freeFight info).amount res) 0 ≤
      max (info.amount res) 0 := by
    unfold Attacker.winInfo
    split
    · exact max_le (le_max_right _ _) (le_max_right _ _)
    · exact (congrArg (max · 0) (Function.update_of_ne not_carboxyl _ _)).le
  have paid (score : ℤ) := (res_addRewards_le cfg battle
    (Attacker.winInfo cfg attacker.freeFight info) score attacker res).trans
      (add_le_add_right told _)
  unfold Attacker.endInfo
  split
  · rw [res_settle]
    exact le_add_of_nonneg_right (le_max_right _ _)
  · rw [if_pos rfl]
    dsimp only
    split
    · rw [res_settle]
      exact paid _
    · rw [res_askScore]
      exact paid _

/-- The loot of a victory is at most what the defender loses; nothing of his becomes negative, and
the protected part of his storage stays in his bag. -/
theorem victory_creates_nothing (cfg : AttackCfg) (base later : Foundation) (attacker : Attacker)
    (battle enemy now : ℕ) (inStart : Bool) (result : BattleResult)
    (configured : base.Configured cfg.toDefenceCfg) :
    let plundered := base.endAttacked cfg.toDefenceCfg battleWin
    let info := (later.endAttackedRest cfg.toDefenceCfg now battleWin base.freeBeFight inStart
      plundered.2).2
    let paid := (attacker.endInfo cfg battle enemy battleWin result (some info)).1
    ∀ res ∈ loot,
      paid.res res - attacker.res res ≤ base.held res - plundered.1.held res ∧
        (0 ≤ base.res res → 0 ≤ plundered.1.res res) ∧
        ((∀ build ∈ base.builds, 0 ≤ build.cur res) →
          ∀ build ∈ plundered.1.builds, 0 ≤ build.cur res) ∧
        min (base.res res : ℚ) (base.resLowLimit res) ≤ plundered.1.res res := by
  intro plundered info paid res res_mem
  have lost := Foundation.endAttacked_amount_le configured res_mem
  have info_eq : info.amount res = plundered.2.amount res := Foundation.resInfo_amount res_mem
  have paid_le := res_endInfo_le cfg battle enemy result info attacker res_mem
  rw [info_eq] at paid_le
  exact ⟨(sub_le_iff_le_add'.mpr paid_le).trans lost, Foundation.endAttacked_keeps configured res⟩

/-- Half of what is not protected is plundered. -/
def halfCfg : AttackCfg where
  fightMaxCostTime := 300
  pvpPlunderRatio := 1 / 2
  newHandPvpProtectRatio := []
  pvpFailCostGunLife := 0
  pvpDefenceFailGainPoint := -5
  pvpDefenceWinGainPoint := 5
  pvpDefenceWinGainRes := []
  pvpFailGainPoint := -2
  foundationBattleProtectTime := 60
  pvpCost _ := some 10
  vipHydroxylAward := 10000
  pvpWinGainPoint := 10
  pvpWinCostHeroLife := 0
  pvpFailCostHeroLife := 0
  pvpWinCostWarShipLife := 0
  pvpFailCostWarShipLife := 0
  store _ := some 1000
  checkBattleValid := false

/-- A mine that holds 7, and a store of 100 of which a tenth is protected. -/
def mineBase : Foundation where
  isGmRobotPlayer := false
  baseLevel := 1
  attackedTick := 0
  protectTick := 0
  freeBeFight := false
  res _ := 31
  builds := [⟨false, true, true, fun _ => 0, fun _ => 0, fun _ => 7, 1, 0, none⟩,
    ⟨false, false, true, fun _ => 100, fun _ => 0, fun _ => 0, 1, 0, some (1 / 10)⟩]
  rankScore := 0

def poorAttacker : Attacker :=
  (attackerStart 100 0 (fun _ => mineBase) 1 (fun _ => 5)
    ⟨none, fun _ => none, fun _ => none, false⟩
    ).state

theorem mineBase_configured : mineBase.Configured halfCfg.toDefenceCfg where
  plunder_ratio := by decide +kernel
  new_hand_ratio := by decide +kernel
  protect_ratio := by decide +kernel
  store_nonneg build build_mem res := by
    rcases List.mem_cons.mp build_mem with rfl | build_mem
    · exact le_rfl
    · rw [List.mem_singleton.mp build_mem]
      exact Int.natCast_nonneg 100
  reported_le build build_mem res := by
    rcases List.mem_cons.mp build_mem with rfl | build_mem
    · exact Int.natCast_nonneg 7
    · rw [List.mem_singleton.mp build_mem]
      exact le_rfl

theorem mine_creates_nothing :
    let plundered := mineBase.endAttacked halfCfg.toDefenceCfg battleWin
    let info := (plundered.1.endAttackedRest halfCfg.toDefenceCfg 0 battleWin false true
      plundered.2).2
    let paid := (poorAttacker.endInfo halfCfg 0 200 battleWin ⟨battleWin, [], []⟩ (some info)).1
    paid.res .ice = 15 ∧ plundered.1.held .ice = 24 ∧
      paid.res .ice - 5 ≤ 38 - plundered.1.held .ice := by
  intro plundered info paid
  have kept := victory_creates_nothing halfCfg mineBase plundered.1 poorAttacker 0 200 0 true
    ⟨battleWin, [], []⟩ mineBase_configured .ice (by decide)
  exact ⟨by decide +kernel, by decide +kernel, kept.1⟩

end Battles

end BasWar.Pvp
