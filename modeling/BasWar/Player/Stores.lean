import BasWar.Player.Resources

/-!
# Stores that are nearly full

What `safeAddRes` and `safeAddResDict` add when a store limits the resource, and what a build hands
over to the balance of its player.
-/

namespace BasWar.Resources

open Tables

def Whole (value : ℚ) : Prop :=
  ⌊value⌋ = value
  deriving Decidable

theorem Whole.of_pos {value : ℚ} (positive : 0 < value) :
    max value 0 = max (⌊value⌋ : ℚ) 0 ↔ Whole value := by
  have floor_nonneg : (0 : ℚ) ≤ ⌊value⌋ := mod_cast Int.floor_nonneg.mpr positive.le
  rw [max_eq_left positive.le, max_eq_left floor_nonneg, Whole, eq_comm]

theorem max_floor_of_nonpos {value : ℚ} (small : value ≤ 0) : max (⌊value⌋ : ℚ) 0 = 0 :=
  max_eq_right ((Int.floor_le value).trans small)

theorem storeKey_const (stored : Stored) : storeKey stored.const = some stored := by
  cases stored <;> rfl

theorem Stored.const_injective : Function.Injective Stored.const := by
  intro first second same
  simpa [storeKey_const] using congrArg storeKey same

theorem within_of_ne {freespace : ℚ} (limited : freespace ≠ -1) (count : ℚ) :
    within freespace count = min freespace count := by
  rw [within, if_neg limited, min_def]

theorem within_le (freespace count : ℚ) : within freespace count ≤ count := by
  by_cases unlimited : freespace = -1
  · rw [within, if_pos unlimited]
  · rw [within_of_ne unlimited]
    exact min_le_right _ _

namespace Player

variable {player : Player} {res other : ResId} {stored : Stored} {count : ℚ}

theorem getResFreeSpace_const (player : Player) (stored : Stored) :
    player.getResFreeSpace stored.const =
      player.getResCount stored - player.resBag.num stored.const := by
  simp [getResFreeSpace, storeKey_const]

theorem succCount_le (player : Player) (res : ResId) (count : ℚ) :
    player.succCount res count ≤ count :=
  within_le _ _

theorem num_safeAddRes_self :
    (player.safeAddRes res count).1.resBag.num res =
      player.resBag.num res + max (⌊player.succCount res count⌋ : ℚ) 0 := by
  unfold safeAddRes
  dsimp only
  split
  · exact ResBag.num_addRes_self
  next small => rw [max_floor_of_nonpos (not_lt.mp small), add_zero]

theorem num_safeAddRes_of_ne (different : other ≠ res) :
    (player.safeAddRes res count).1.resBag.num other = player.resBag.num other := by
  unfold safeAddRes
  dsimp only
  split
  · exact ResBag.num_addRes_of_ne different
  · rfl

@[simp]
theorem builds_safeAddRes : (player.safeAddRes res count).1.builds = player.builds := by
  unfold safeAddRes
  dsimp only
  split <;> rfl

theorem reported_safeAddRes :
    (player.safeAddRes res count).2.getD 0 = max (player.succCount res count) 0 := by
  unfold safeAddRes
  dsimp only
  split
  next large => exact (max_eq_left large.le).symm
  next small => exact (max_eq_right (not_lt.mp small)).symm

/-- The store limits the balance, and what is reported has been added. -/
def Respects (player : Player) (stored : Stored) (after : Player) (reported : ℚ) : Prop :=
  after.resBag.num stored.const ≤
      max (player.resBag.num stored.const) (player.getResCount stored) ∧
    reported = after.resBag.num stored.const - player.resBag.num stored.const

/-- Either nothing is to be added, or the free space is not `-1` and the addition has no
fraction to drop. -/
def Fits (player : Player) (stored : Stored) (count : ℚ) : Prop :=
  let freespace := player.getResCount stored - player.resBag.num stored.const
  count ≤ 0 ∨ freespace ≠ -1 ∧ (freespace ≤ 0 ∨ Whole (min freespace count))

instance (player : Player) (stored : Stored) (count : ℚ) :
    Decidable (player.Fits stored count) := by
  unfold Fits
  infer_instance

/-- An addition of `succCount` respects the store exactly if the count fits. -/
theorem respects_iff {after : Player} {reported : ℚ}
    (num_eq : after.resBag.num stored.const = player.resBag.num stored.const +
      max (⌊player.succCount stored.const count⌋ : ℚ) 0)
    (reported_eq : reported = max (player.succCount stored.const count) 0) :
    player.Respects stored after reported ↔ player.Fits stored count := by
  unfold Respects Fits
  dsimp only
  rw [num_eq, reported_eq, add_sub_cancel_left]
  have space_eq := getResFreeSpace_const player stored
  obtain ⟨store, store_eq⟩ : ∃ store, player.getResCount stored = store := ⟨_, rfl⟩
  obtain ⟨total, total_eq⟩ : ∃ total, player.resBag.num stored.const = total := ⟨_, rfl⟩
  rw [store_eq, total_eq] at space_eq ⊢
  by_cases asked : count ≤ 0
  · have small := (succCount_le player stored.const count).trans asked
    simp [max_floor_of_nonpos small, max_eq_right small, asked]
  have count_pos := not_le.mp asked
  by_cases unlimited : store - total = -1
  · -- the space is taken for "no limit", so that a whole addition overflows the store
    have succ_eq : player.succCount stored.const count = count := by
      rw [succCount, space_eq, within, if_pos unlimited]
    rw [succ_eq, Whole.of_pos count_pos]
    constructor
    · rintro ⟨limited, whole⟩
      have added : (⌊count⌋ : ℚ) ≤ max (⌊count⌋ : ℚ) 0 := le_max_left _ _
      rw [max_eq_left (by linarith : store ≤ total)] at limited
      rw [Whole] at whole
      linarith
    · rintro (small | ⟨limited, _⟩)
      · exact absurd small asked
      · exact absurd unlimited limited
  · have succ_eq : player.succCount stored.const count = min (store - total) count := by
      rw [succCount, space_eq, within_of_ne unlimited]
    rw [succ_eq]
    by_cases full : store - total ≤ 0
    · have small : min (store - total) count ≤ 0 := (min_le_left _ _).trans full
      simp [max_floor_of_nonpos small, full, unlimited]
    · have positive : 0 < min (store - total) count := lt_min (not_le.mp full) count_pos
      have floor_le : max (⌊min (store - total) count⌋ : ℚ) 0 ≤ store - total :=
        max_le ((Int.floor_le _).trans (min_le_left _ _)) (not_le.mp full).le
      have limited : total + max (⌊min (store - total) count⌋ : ℚ) 0 ≤ max total store := by
        have store_le := le_max_right total store
        linarith
      rw [Whole.of_pos positive]
      simp [limited, asked, full, unlimited]

theorem safeAddEntry_of_ne {found : Player × ResDict} {entry : ResId × ℚ}
    (different : other ≠ entry.1) :
    (safeAddEntry found entry).1.resBag.num other = found.1.resBag.num other ∧
      (safeAddEntry found entry).2.amount other = found.2.amount other := by
  unfold safeAddEntry
  split
  · refine ⟨num_safeAddRes_of_ne different, ?_⟩
    dsimp only
    split
    · exact (ResDict.amount_assign _ _ _ _).trans (if_neg different)
    · rfl
  · exact ⟨rfl, rfl⟩

theorem builds_safeAddEntry (found : Player × ResDict) (entry : ResId × ℚ) :
    (safeAddEntry found entry).1.builds = found.1.builds := by
  unfold safeAddEntry
  split
  · exact builds_safeAddRes
  · rfl

theorem safeAddEntry_self (found : Player × ResDict) (entry : ResId × ℚ) :
    (safeAddEntry found entry).1.resBag.num entry.1 = found.1.resBag.num entry.1 +
        max (⌊found.1.succCount entry.1 entry.2⌋ : ℚ) 0 ∧
      (safeAddEntry found entry).2.amount entry.1 =
        if 0 < found.1.succCount entry.1 entry.2 then found.1.succCount entry.1 entry.2
        else found.2.amount entry.1 := by
  unfold safeAddEntry
  split
  · refine ⟨num_safeAddRes_self, ?_⟩
    unfold safeAddRes
    dsimp only
    by_cases added : 0 < found.1.succCount entry.1 entry.2
    · rw [if_pos added, if_pos added]
      exact (ResDict.amount_assign _ _ _ _).trans (if_pos rfl)
    · rw [if_neg added, if_neg added]
  next small =>
    have nothing : found.1.succCount entry.1 entry.2 ≤ 0 :=
      (succCount_le _ _ _).trans (not_lt.mp small)
    rw [max_floor_of_nonpos nothing, add_zero, if_neg (not_lt.mpr nothing)]
    exact ⟨rfl, rfl⟩

theorem succCount_alone (player : Player) (res : ResId) (count : ℚ) :
    succCount ⟨⟨fun _ => player.resBag.num res⟩, player.builds⟩ res count =
      player.succCount res count := by
  simp only [succCount, getResFreeSpace, getResCount, ResBag.balance_eq]

theorem safeAddResDict_added (player : Player) (resDict : ResDict) (res : ResId) :
    (player.safeAddResDict resDict).1.resBag.num res = player.resBag.num res +
        max (⌊player.succCount res (resDict.amount res)⌋ : ℚ) 0 ∧
      (player.safeAddResDict resDict).2.amount res =
        max (player.succCount res (resDict.amount res)) 0 := by
  have added := Dict.foldl_view resDict safeAddEntry
    (fun found name => (found.1.builds, found.1.resBag.num name, found.2.amount name))
    (fun name value view =>
      let succ := succCount ⟨⟨fun _ => view.2.1⟩, view.1⟩ name value
      (view.1, view.2.1 + max (⌊succ⌋ : ℚ) 0, if 0 < succ then succ else view.2.2))
    (fun found entry name different => by
      rw [builds_safeAddEntry, (safeAddEntry_of_ne different).1, (safeAddEntry_of_ne different).2])
    (fun found entry => by
      rw [succCount_alone, builds_safeAddEntry, (safeAddEntry_self found entry).1,
        (safeAddEntry_self found entry).2])
    (player, Keyed.empty) res
  change ((player.safeAddResDict resDict).1.builds,
    (player.safeAddResDict resDict).1.resBag.num res,
    (player.safeAddResDict resDict).2.amount res) = _ at added
  have nothing : ResDict.amount Keyed.empty res = 0 := rfl
  rw [ResDict.amount]
  cases found : resDict.lookup res with
  | none =>
      simp only [found, Prod.mk.injEq] at added
      have small := succCount_le player res 0
      rw [Option.getD_none, added.2.1, added.2.2, nothing, max_floor_of_nonpos small,
        max_eq_right small, add_zero]
      exact ⟨rfl, rfl⟩
  | some value =>
      simp only [found, Prod.mk.injEq, succCount_alone, nothing] at added
      rw [Option.getD_some, added.2.1, added.2.2]
      exact ⟨rfl, ((max_comm _ _).trans (max_def_lt _ _)).symm⟩

/-- A store limits what is added to its resource, and what is reported is what has been added,
exactly if the count fits. -/
theorem store_limits_iff (player : Player) :
    (∀ stored count,
      player.Respects stored (player.safeAddRes stored.const count).1
          ((player.safeAddRes stored.const count).2.getD 0) ↔
        player.Fits stored count) ∧
      ∀ (resDict : ResDict) stored,
        player.Respects stored (player.safeAddResDict resDict).1
            ((player.safeAddResDict resDict).2.amount stored.const) ↔
          player.Fits stored (resDict.amount stored.const) := by
  constructor
  · intro stored count
    exact respects_iff num_safeAddRes_self reported_safeAddRes
  · intro resDict stored
    obtain ⟨num_eq, amount_eq⟩ := safeAddResDict_added player resDict stored.const
    exact respects_iff num_eq amount_eq

instance (player : Player) (stored : Stored) (after : Player) (reported : ℚ) :
    Decidable (player.Respects stored after reported) := by
  unfold Respects
  infer_instance

/-- A store of 100 that holds 101. -/
def overfull : Player where
  resBag := ⟨fun res => if res = resIce then 101 else 0⟩
  builds := ⟨[{ id := 1, cfg := some fun _ => 100, cur := fun _ => 0 }], by decide⟩

theorem overfull_not_limited :
    ¬ overfull.Respects .ice (overfull.safeAddRes resIce 50).1
      ((overfull.safeAddRes resIce 50).2.getD 0) := by
  decide +kernel

/-- What a round of `getBuildRes` reads and writes for one resource. -/
structure Shelf where
  store : ℚ
  num : ℚ
  held : ℚ

namespace Shelf

def getCount (shelf : Shelf) : ℚ :=
  min shelf.store shelf.held

def freespace (shelf : Shelf) : ℚ :=
  shelf.store - shelf.num

/-- The shelf after the build has lost a count. -/
def take (count : ℚ) (shelf : Shelf) : Shelf :=
  { shelf with
    num := shelf.num + max (⌊within shelf.freespace count⌋ : ℚ) 0
    held := shelf.held - count }

def collect (shelf : Shelf) : Shelf :=
  if 0 < shelf.getCount then shelf.take shelf.getCount else shelf

/-- The balance rises by what the build loses, and neither becomes negative. -/
def Conserves (before after : Shelf) : Prop :=
  before.held - after.held = after.num - before.num ∧
    (0 ≤ before.held → 0 ≤ after.held) ∧ (0 ≤ before.num → 0 ≤ after.num)

/-- The count has no fraction to drop and fits into the store, if there is anything to take. -/
def HasRoom (shelf : Shelf) : Prop :=
  shelf.getCount ≤ 0 ∨
    Whole shelf.getCount ∧ (shelf.freespace = -1 ∨ shelf.getCount ≤ shelf.freespace)

theorem within_eq_iff {freespace count : ℚ} (positive : 0 < count) :
    count = max (⌊within freespace count⌋ : ℚ) 0 ↔
      Whole count ∧ (freespace = -1 ∨ count ≤ freespace) := by
  have whole_iff := Whole.of_pos positive
  rw [max_eq_left positive.le] at whole_iff
  by_cases unlimited : freespace = -1
  · rw [within, if_pos unlimited, whole_iff]
    simp [unlimited]
  rw [within_of_ne unlimited]
  by_cases fits : count ≤ freespace
  · rw [min_eq_right fits, whole_iff]
    simp [fits]
  · have short := not_le.mp fits
    rw [min_eq_left short.le]
    have less : max (⌊freespace⌋ : ℚ) 0 < count :=
      max_lt ((Int.floor_le freespace).trans_lt short) positive
    simp [less.ne', unlimited, fits]

theorem conserves_collect_iff (shelf : Shelf) : shelf.Conserves shelf.collect ↔ shelf.HasRoom := by
  unfold collect HasRoom
  split
  next positive =>
    have held_le : shelf.getCount ≤ shelf.held := min_le_right _ _
    have added : 0 ≤ max (⌊within shelf.freespace shelf.getCount⌋ : ℚ) 0 := le_max_right _ _
    have lost_eq : shelf.held - (shelf.take shelf.getCount).held = shelf.getCount :=
      sub_sub_cancel _ _
    have gained_eq : (shelf.take shelf.getCount).num - shelf.num =
        max (⌊within shelf.freespace shelf.getCount⌋ : ℚ) 0 := add_sub_cancel_left _ _
    rw [Conserves, lost_eq, gained_eq, within_eq_iff positive]
    constructor
    · exact fun conserves => .inr conserves.1
    · rintro (nothing | room)
      · exact absurd nothing (not_le.mpr positive)
      · exact ⟨room, fun _ => sub_nonneg.mpr held_le, fun nonneg => add_nonneg nonneg added⟩
  next nothing =>
    simp [Conserves, not_lt.mp nothing]

end Shelf

def shelf (id : ℤ) (player : Player) (stored : Stored) : Shelf where
  store := player.getResCount stored
  num := player.resBag.num stored.const
  held := player.held id stored

theorem shelf_take {build taken : Build} {added after : Player} {count : ℚ}
    (found : player.builds.get build.id = some build) (taken_eq : build.take stored count = taken)
    (added_eq : (player.safeAddRes stored.const count).1 = added)
    (after_eq : { added with builds := added.builds.put taken } = after) (other : Stored) :
    after.shelf build.id other =
      if other = stored then (player.shelf build.id stored).take count
      else player.shelf build.id other := by
  have id_eq : taken.id = build.id := by rw [← taken_eq]; rfl
  have builds_eq : after.builds = player.builds.put taken := by
    rw [← after_eq, ← added_eq, builds_safeAddRes]
  have taken_get : after.builds.get build.id = some taken := by
    rw [builds_eq, ← id_eq]
    exact Keyed.get_put_self (id_eq ▸ found)
  have store_eq : after.getResCount other = player.getResCount other := by
    obtain ⟨build_mem, -⟩ := Keyed.get_mem found
    have sum := Keyed.sum_put (fun build : Build => (build.cfg.map fun cfg => cfg other).getD 0)
      build_mem id_eq.symm
    have same : taken.cfg = build.cfg := by rw [← taken_eq]; rfl
    rw [same] at sum
    rw [getResCount, builds_eq]
    exact add_right_cancel sum
  have held_eq : after.held build.id other = taken.cur other := by
    rw [held, taken_get]
    rfl
  have num_eq : after.resBag = (player.safeAddRes stored.const count).1.resBag := by
    rw [← after_eq, added_eq]
  rw [shelf, store_eq, held_eq, num_eq, ← taken_eq]
  split
  next same =>
    subst same
    rw [num_safeAddRes_self, succCount, getResFreeSpace_const]
    simp [Build.take, Shelf.take, Shelf.freespace, shelf, held, found]
  next different =>
    rw [num_safeAddRes_of_ne (Stored.const_injective.ne different), shelf, held, found]
    simp [Build.take, different]

theorem shelf_getBuildStored (player : Player) (id : ℤ) (stored other : Stored) :
    (player.getBuildStored id stored).shelf id other =
      if other = stored then (player.shelf id stored).collect else player.shelf id other := by
  have count_eq : (player.shelf id stored).getCount =
      min (player.getResCount stored) (player.held id stored) := rfl
  have nothing (small : (player.shelf id stored).getCount ≤ 0) :
      player.shelf id other =
        if other = stored then (player.shelf id stored).collect else player.shelf id other := by
    rw [Shelf.collect, if_neg (not_lt.mpr small)]
    split
    next same => rw [same]
    · rfl
  unfold getBuildStored
  split
  next build found =>
    have held_eq : player.held id stored = build.cur stored := by rw [held, found]; rfl
    obtain ⟨-, rfl⟩ := Keyed.get_mem found
    have bound_eq : player.getResCount stored - player.resBag.getRes stored.const true =
        player.getResCount stored := sub_zero _
    dsimp only
    rw [bound_eq]
    rw [held_eq] at count_eq
    split
    · rw [← count_eq]
      split
      next positive =>
        rw [shelf_take found rfl rfl rfl, Shelf.collect, if_pos positive]
      next small => exact nothing (not_lt.mp small)
    next empty => exact nothing ((count_eq.le.trans (min_le_right _ _)).trans (not_lt.mp empty))
  next absent =>
    refine nothing (count_eq.le.trans ((min_le_right _ _).trans ?_))
    rw [held, absent]
    rfl

theorem shelf_getBuildRes (player : Player) (id : ℤ) (stored : Stored) :
    (player.getBuildRes id).shelf id stored = (player.shelf id stored).collect := by
  cases stored <;> simp [getBuildRes, shelf_getBuildStored]

/-- What a build hands over reaches the balance exactly if the stores have room for it. -/
theorem collected_iff (player : Player) (id : ℤ) (stored : Stored) :
    (player.shelf id stored).Conserves ((player.getBuildRes id).shelf id stored) ↔
      (player.shelf id stored).HasRoom := by
  rw [shelf_getBuildRes]
  exact Shelf.conserves_collect_iff _

instance (before after : Shelf) : Decidable (before.Conserves after) := by
  unfold Shelf.Conserves
  infer_instance

/-- A store of 100 that holds 60, and a build with an output of 50. -/
def nearlyFull : Player where
  resBag := ⟨fun res => if res = resIce then 60 else 0⟩
  builds := ⟨[{ id := 1, cfg := some fun _ => 100, cur := fun _ => 50 }], by decide⟩

/-- The build loses 50 and the balance gets 40. -/
theorem nearlyFull_loses :
    ¬ (nearlyFull.shelf 1 .ice).Conserves ((nearlyFull.getBuildRes 1).shelf 1 .ice) := by
  decide +kernel

end Player

end BasWar.Resources
