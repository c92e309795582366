import BasWar.Player.ItemStacks

/-!
# The stock of a player

New stacks get ids that no stack has had, so whatever is added to sound stacks is added in full.  A
stock keeps its stacks sound and its next id fresh.
-/

namespace BasWar.Items

open Tables
open Selling (Item)

def Below (items : Stacks) (nextId : ℤ) : Prop :=
  ∀ item ∈ items.objects, item.id < nextId

section Ids

variable {cfgs : ItemCfgs} {cfg : ItemCfg} {cfgId num left nextId : ℤ} {items after : Stacks}
  {item : Item} {room : Item → ℤ} {move : Item → ℤ → Stacks → Option Stacks} {piles : List Item}

theorem Below.put (below : Below items nextId) : Below (items.put item) nextId := by
  intro other other_mem
  obtain ⟨old, old_mem, rfl⟩ := List.mem_map.mp other_mem
  split
  next same => exact same ▸ below old old_mem
  · exact below old old_mem

theorem Below.erase (below : Below items nextId) (id : ℤ) : Below (items.erase id) nextId :=
  fun other other_mem => below other (Keyed.mem_erase.mp other_mem).1

theorem Below.addItemNum {maxNum : ℕ+} (below : Below items nextId)
    (added : addItemNum maxNum item num items = some after) : Below after nextId := by
  unfold Items.addItemNum at added
  split at added
  · contradiction
  · obtain rfl := Option.some.inj added
    exact below.put

theorem Below.costItemNum (below : Below items nextId)
    (paid : costItemNum item num items = some after) : Below after nextId := by
  unfold Items.costItemNum at paid
  dsimp only at paid
  split at paid
  · contradiction
  · split at paid
    · obtain rfl := Option.some.inj paid
      exact below.erase item.id
    · obtain rfl := Option.some.inj paid
      exact below.put

variable {final : Stacks × ℤ}

theorem Below.visit
    (moves : ∀ {item num items after}, Below items nextId → move item num items = some after →
      Below after nextId) (below : Below items nextId)
    (visited : visit room move piles left items = some final) : Below final.1 nextId := by
  induction piles generalizing left items with
  | nil =>
      obtain rfl := Option.some.inj visited
      exact below
  | cons item rest ih =>
      unfold Items.visit at visited
      obtain ⟨after, moved, later⟩ := Option.bind_eq_some_iff.mp visited
      have belowAfter := moves below moved
      split at later
      · obtain rfl := Option.some.inj later
        exact belowAfter
      · exact ih belowAfter later

theorem visit_left (room_nonneg : ∀ item ∈ piles, 0 ≤ room item) (left_nonneg : 0 ≤ left)
    (visited : visit room move piles left items = some final) : 0 ≤ final.2 ∧ final.2 ≤ left := by
  induction piles generalizing left items with
  | nil =>
      obtain rfl := Option.some.inj visited
      exact ⟨left_nonneg, le_rfl⟩
  | cons item rest ih =>
      have item_room := room_nonneg item List.mem_cons_self
      unfold Items.visit at visited
      obtain ⟨after, moved, later⟩ := Option.bind_eq_some_iff.mp visited
      split at later
      · obtain rfl := Option.some.inj later
        exact ⟨by omega, by omega⟩
      · obtain ⟨nonneg, le⟩ := ih
          (fun other other_mem => room_nonneg other (List.mem_cons_of_mem item other_mem))
          (by omega) later
        exact ⟨nonneg, by omega⟩

theorem get_of_below (below : Below items nextId) {id : ℤ} (le : nextId ≤ id) :
    items.get id = none := by
  cases found : items.get id with
  | none => rfl
  | some item =>
      obtain ⟨mem, same⟩ := Keyed.get_mem found
      exact absurd (below item mem) (same ▸ le).not_gt

theorem newItems_fresh (cfgId : ℤ) (maxNum : ℕ+) (made : ℕ) (left_nonneg : 0 ≤ left)
    (below : Below items (nextId + made)) :
    (newItems cfgId maxNum (fun made => nextId + made) made left items).2 = 0 ∧
      Below (newItems cfgId maxNum (fun made => nextId + made) made left items).1
        (nextId + made + left) := by
  induction size : left.toNat using Nat.strong_induction_on generalizing made left items with
  | _ size ih =>
      have maxNum_pos : (0 : ℤ) < maxNum := by exact_mod_cast maxNum.pos
      rw [newItems]
      split
      next none_left =>
        obtain rfl : left = 0 := by omega
        exact ⟨rfl, by simpa using below⟩
      next some_left =>
        dsimp only
        rw [if_neg (by simp [get_of_below below le_rfl])]
        have itemNum_pos : 0 < min left (maxNum : ℤ) := lt_min (not_le.mp some_left) maxNum_pos
        have belowNext : Below (items.add ⟨nextId + made, cfgId, min left (maxNum : ℤ)⟩)
            (nextId + (made + 1 : ℕ)) := by
          intro other other_mem
          push_cast
          rcases Keyed.mem_add other_mem with rfl | old
          · dsimp only
            omega
          · have := below other old
            omega
        obtain ⟨none_left, belowAll⟩ := ih (left - min left (maxNum : ℤ)).toNat (by omega)
          (made + 1) (by omega) belowNext rfl
        refine ⟨none_left, fun other other_mem => (belowAll other other_mem).trans_le ?_⟩
        push_cast
        omega

theorem addItem_fresh (found : cfgs cfgId = some cfg) (num_pos : 0 < num)
    (sound : Sound cfgs items) (below : Below items nextId) :
    ∃ after, addItem cfgs cfgId num (fun made => nextId + made) items = some (after, num) ∧
      Changes cfgs cfgId num items after ∧ Below after (nextId + num) := by
  obtain ⟨after, added, added_eq, changes⟩ :=
    addItem_spec found num_pos (fun made => nextId + made) sound
  have result := added_eq
  unfold addItem at result
  rw [if_neg num_pos.not_ge, found] at result
  obtain ⟨filled, visited, made_eq⟩ := Option.map_eq_some_iff.mp result
  have filled_below : Below filled.1 nextId :=
    Below.visit (fun below added => below.addItemNum added) below visited
  obtain ⟨left_nonneg, left_le⟩ := visit_left
    (fun item item_mem => by
      have overlay := (List.mem_filter.mp item_mem).2
      have room : item.num < cfg.maxNum := by simpa [canOverlay] using overlay
      omega) num_pos.le visited
  obtain ⟨none_left, belowAll⟩ :=
    newItems_fresh cfgId cfg.maxNum 0 left_nonneg (by simpa using filled_below)
  obtain ⟨after_eq, amount_eq⟩ := Prod.mk.inj made_eq
  rw [none_left, sub_zero] at amount_eq
  subst after_eq amount_eq
  refine ⟨_, added_eq, changes, fun item item_mem => (belowAll item item_mem).trans_le ?_⟩
  push_cast
  omega

def Grows (before after : Stacks) : Prop :=
  ∀ item ∈ before.objects, ∃ later ∈ after.objects,
    later.id = item.id ∧ later.cfgId = item.cfgId ∧ item.num ≤ later.num

theorem Grows.refl (items : Stacks) : Grows items items :=
  fun item mem => ⟨item, mem, rfl, rfl, le_rfl⟩

theorem Grows.trans {between : Stacks} (first : Grows items between)
    (second : Grows between after) : Grows items after := by
  intro item mem
  obtain ⟨later, later_mem, id_eq, kind_eq, le⟩ := first item mem
  obtain ⟨last, last_mem, id_eq', kind_eq', le'⟩ := second later later_mem
  exact ⟨last, last_mem, id_eq'.trans id_eq, kind_eq'.trans kind_eq, le.trans le'⟩

theorem grows_put (mem : item ∈ items.objects) (num_nonneg : 0 ≤ num) :
    Grows items (items.put { item with num := item.num + num }) := by
  intro other other_mem
  by_cases same : other.id = item.id
  · obtain rfl := Keyed.eq_of_key_eq other_mem mem same
    exact ⟨_, Keyed.put_mem mem rfl, rfl, rfl, by dsimp only; omega⟩
  · exact ⟨other, Keyed.mem_put_of_ne other_mem same, rfl, rfl, le_rfl⟩

theorem visit_grows {maxNum : ℕ+} (distinct : (piles.map Item.id).Nodup)
    (in_bag : ∀ item ∈ piles, item ∈ items.objects) (left_nonneg : 0 ≤ left)
    (room_nonneg : ∀ item ∈ piles, 0 ≤ room item)
    (visited : visit room (Items.addItemNum maxNum) piles left items = some final) :
    Grows items final.1 := by
  induction piles generalizing left items with
  | nil =>
      obtain rfl := Option.some.inj visited
      exact .refl items
  | cons item rest ih =>
      have item_room := room_nonneg item List.mem_cons_self
      unfold Items.visit at visited
      obtain ⟨between, moved, later⟩ := Option.bind_eq_some_iff.mp visited
      unfold Items.addItemNum at moved
      split at moved
      · contradiction
      obtain rfl := Option.some.inj moved
      have grown := grows_put (in_bag item List.mem_cons_self)
        (show 0 ≤ min left (room item) by omega)
      split at later
      · obtain rfl := Option.some.inj later
        exact grown
      · rw [List.map_cons, List.nodup_cons] at distinct
        refine grown.trans (ih distinct.2 (fun other other_mem => ?_) (by omega)
          (fun other other_mem => room_nonneg other (List.mem_cons_of_mem item other_mem)) later)
        exact Keyed.mem_put_of_ne (in_bag other (List.mem_cons_of_mem item other_mem))
          fun same => distinct.1 (same ▸ List.mem_map_of_mem other_mem)

theorem newItems_grows (cfgId : ℤ) (maxNum : ℕ+) (uuid : ℕ → ℤ) (made : ℕ) (left : ℤ)
    (items : Stacks) : Grows items (newItems cfgId maxNum uuid made left items).1 := by
  induction size : left.toNat using Nat.strong_induction_on generalizing made left items with
  | _ size ih =>
      have maxNum_pos : (0 : ℤ) < maxNum := by exact_mod_cast maxNum.pos
      rw [newItems]
      split
      · exact .refl items
      · dsimp only
        split
        · exact .refl items
        next absent =>
          have added : Grows items (items.add ⟨uuid made, cfgId, min left (maxNum : ℤ)⟩) := by
            intro item mem
            refine ⟨item, ?_, rfl, rfl, le_rfl⟩
            unfold Keyed.add
            split
            · exact List.mem_append_left _ mem
            · exact mem
          exact added.trans (ih (left - min left (maxNum : ℤ)).toNat (by omega) _ _ _ rfl)

theorem addItem_grows (found : cfgs cfgId = some cfg) (num_pos : 0 < num) {uuid : ℕ → ℤ}
    {result : Stacks × ℤ} (added : addItem cfgs cfgId num uuid items = some result) :
    Grows items result.1 := by
  unfold addItem at added
  rw [if_neg num_pos.not_ge, found] at added
  obtain ⟨filled, visited, rfl⟩ := Option.map_eq_some_iff.mp added
  refine (visit_grows ?_ ?_ num_pos.le ?_ visited).trans
    (newItems_grows cfgId cfg.maxNum uuid 0 filled.2 filled.1)
  · exact (nodup_getItemsByCfgId cfgId items).sublist (List.filter_sublist.map _)
  · exact fun item item_mem => (mem_getItemsByCfgId.mp (List.mem_filter.mp item_mem).1).1
  · intro item item_mem
    have overlay := (List.mem_filter.mp item_mem).2
    have room : item.num < cfg.maxNum := by simpa [canOverlay] using overlay
    omega

end Ids

/-- Sound stacks, and an id that the next new stack may have. -/
structure Stock (cfgs : ItemCfgs) where
  items : Stacks
  /-- The next `snowflake.uuid`. -/
  nextId : ℤ
  sound : Sound cfgs items
  below : Below items nextId

namespace Stock

variable {cfgs : ItemCfgs} {cfg : ItemCfg} {cfgId num : ℤ} {stock : Stock cfgs}

/-- `getItemNumByCfgId`. -/
def count (stock : Stock cfgs) (cfgId : ℤ) : ℤ :=
  getItemNumByCfgId cfgId stock.items

/-- `addItem`; a kind without a row and an assertion leave the stock alone. -/
def addItem (cfgId num : ℤ) (stock : Stock cfgs) : Stock cfgs :=
  match added : Items.addItem cfgs cfgId num (fun made => stock.nextId + made) stock.items with
  | none => stock
  | some after =>
      if positive : 0 < num ∧ (cfgs cfgId).isSome then
        { items := after.1
          nextId := stock.nextId + num
          sound := by
            obtain ⟨cfg, found⟩ := Option.isSome_iff_exists.mp positive.2
            obtain ⟨_, added_eq, changes, -⟩ :=
              addItem_fresh found positive.1 stock.sound stock.below
            obtain rfl := Option.some.inj (added.symm.trans added_eq)
            exact changes.sound
          below := by
            obtain ⟨cfg, found⟩ := Option.isSome_iff_exists.mp positive.2
            obtain ⟨_, added_eq, -, below⟩ :=
              addItem_fresh found positive.1 stock.sound stock.below
            obtain rfl := Option.some.inj (added.symm.trans added_eq)
            exact below }
      else stock

/-- `costItem`; an assertion leaves the stock alone. -/
def costItem (cfgId num : ℤ) (stock : Stock cfgs) : Stock cfgs :=
  match paid : Items.costItem cfgId num stock.items with
  | none => stock
  | some after =>
      if positive : 0 < num then
        { items := after.1
          nextId := stock.nextId
          sound := by
            obtain ⟨_, _, paid_eq, changes, -⟩ := costItem_spec positive stock.sound
            obtain rfl := Option.some.inj (paid.symm.trans paid_eq)
            exact changes.sound
          below := Below.visit (fun below paid => below.costItemNum paid) stock.below paid }
      else stock

theorem count_of_changes {after : Stacks} (changes : Changes cfgs cfgId num stock.items after)
    (kind : ℤ) :
    getItemNumByCfgId kind after = stock.count kind + if kind = cfgId then num else 0 := by
  by_cases same : kind = cfgId
  · subst same
    rw [if_pos rfl]
    exact changes.total
  · have among (items : Stacks) :
        getItemsByCfgId kind items = (others cfgId items).filter fun item => item.cfgId = kind := by
      unfold getItemsByCfgId others
      rw [List.filter_filter]
      refine List.filter_congr fun item _ => ?_
      by_cases ofKind : item.cfgId = kind
      · simp [ofKind, same]
      · simp [ofKind]
    rw [if_neg same, add_zero, count, getItemNumByCfgId, getItemNumByCfgId, among, among,
      changes.others]

theorem count_addItem (found : cfgs cfgId = some cfg) (num_pos : 0 < num) (stock : Stock cfgs)
    (kind : ℤ) :
    (stock.addItem cfgId num).count kind = stock.count kind + if kind = cfgId then num else 0 := by
  obtain ⟨after, added_eq, changes, -⟩ := addItem_fresh found num_pos stock.sound stock.below
  unfold addItem
  split
  next raised => exact absurd (raised.symm.trans added_eq) (Option.some_ne_none _).symm
  next filled added =>
    obtain rfl := Option.some.inj (added.symm.trans added_eq)
    rw [dif_pos ⟨num_pos, by simp [found]⟩]
    exact count_of_changes changes kind

theorem count_costItem (num_pos : 0 < num) (enough : num ≤ stock.count cfgId) (kind : ℤ) :
    (stock.costItem cfgId num).count kind =
      stock.count kind - if kind = cfgId then num else 0 := by
  obtain ⟨after, left, paid_eq, changes, left_eq⟩ := costItem_spec num_pos stock.sound
  unfold costItem
  split
  next raised => exact absurd (raised.symm.trans paid_eq) (Option.some_ne_none _).symm
  next filled paid =>
    obtain rfl := Option.some.inj (paid.symm.trans paid_eq)
    rw [dif_pos num_pos]
    have none_left : left = 0 := by
      rw [left_eq]
      exact max_eq_right (sub_nonpos.mpr enough)
    rw [none_left, sub_zero] at changes
    refine (count_of_changes changes kind).trans ?_
    split <;> ring

theorem grows_addItem (cfgId num : ℤ) (stock : Stock cfgs) :
    Grows stock.items (stock.addItem cfgId num).items := by
  unfold addItem
  split
  · exact .refl _
  next filled added =>
    split
    next positive =>
      obtain ⟨cfg, found⟩ := Option.isSome_iff_exists.mp positive.2
      exact addItem_grows found positive.1 added
    · exact .refl _

/-- `costItemNum` of an item of the bag; an assertion leaves the stock alone. -/
def costItemNum (item : Item) (count : ℤ) (stock : Stock cfgs) : Stock cfgs :=
  match paid : Items.costItemNum item count stock.items with
  | none => stock
  | some after =>
      if fits : item ∈ stock.items.objects ∧ 0 < count ∧ count ≤ item.num then
        { items := after
          nextId := stock.nextId
          sound := by
            obtain ⟨_, paid_eq, changes, -⟩ :=
              (moves_costItemNum rfl fits.2.1 fits.2.2 fits.1 stock.sound).moved
            obtain rfl := Option.some.inj (paid.symm.trans paid_eq)
            exact changes.sound
          below := stock.below.costItemNum paid }
      else stock

theorem costItemNum_spec {item : Item} (mem : item ∈ stock.items.objects) (num_pos : 0 < num)
    (covered : num ≤ item.num) :
    (∀ kind, (stock.costItemNum item num).count kind =
        stock.count kind - if kind = item.cfgId then num else 0) ∧
      (num < item.num →
        { item with num := item.num - num } ∈ (stock.costItemNum item num).items.objects) := by
  obtain ⟨after, paid_eq, changes, -⟩ :=
    (moves_costItemNum rfl num_pos covered mem stock.sound).moved
  unfold costItemNum
  split
  next raised => exact absurd (raised.symm.trans paid_eq) (Option.some_ne_none _).symm
  next filled paid =>
    obtain rfl := Option.some.inj (paid.symm.trans paid_eq)
    rw [dif_pos ⟨mem, num_pos, covered⟩]
    refine ⟨fun kind => ?_, fun some_left => ?_⟩
    · rw [neg_one_mul] at changes
      refine (count_of_changes changes kind).trans ?_
      split <;> ring
    · dsimp only
      unfold Items.costItemNum at paid
      dsimp only at paid
      rw [if_neg (by omega), if_neg (by omega)] at paid
      obtain rfl := Option.some.inj paid
      exact Keyed.put_mem mem rfl

end Stock

end BasWar.Items
