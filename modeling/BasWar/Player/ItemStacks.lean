import BasWar.Player.SkillCards
import Mathlib

/-!
# Stacks of items

Items of one kind lie in stacks of the item bag.  New items fill the stacks that have room and then
make new ones; items that are paid come from the smallest stacks first.
-/

namespace BasWar.Items

open Tables
open Selling (Item)

structure ItemCfg where
  maxNum : ℕ+
  isAutoUse : Bool

abbrev ItemCfgs : Type := ℤ → Option ItemCfg

/-- `items`, in the order of a loop over it. -/
abbrev Stacks : Type := Keyed Item.id

def getItemsByCfgId (cfgId : ℤ) (items : Stacks) : List Item :=
  items.objects.filter fun item => item.cfgId = cfgId

def getItemNumByCfgId (cfgId : ℤ) (items : Stacks) : ℤ :=
  ((getItemsByCfgId cfgId items).map Item.num).sum

def canOverlay (item : Item) (maxNum : ℕ+) : Bool :=
  !decide ((maxNum : ℤ) ≤ item.num)

/-- `none` stands for the assertion. -/
def addItemNum (maxNum : ℕ+) (item : Item) (change : ℤ) (items : Stacks) : Option Stacks :=
  if maxNum < item.num + change then none
  else some (items.put { item with num := item.num + change })

/-- `none` stands for the assertion; an empty stack is deleted. -/
def costItemNum (item : Item) (change : ℤ) (items : Stacks) : Option Stacks :=
  let new := item.num - change
  if new < 0 then none
  else if new ≤ 0 then some (items.erase item.id)
  else some (items.put { item with num := new })

/-- A loop over stacks that moves to or from each what there is room for, while anything is left. -/
def visit (room : Item → ℤ) (move : Item → ℤ → Stacks → Option Stacks) :
    List Item → ℤ → Stacks → Option (Stacks × ℤ)
  | [], left, items => some (items, left)
  | item :: rest, left, items =>
      let num := min left (room item)
      (move item num items).bind fun items =>
        if left - num ≤ 0 then some (items, left - num) else visit room move rest (left - num) items

/-- The second loop of `addItem`; `uuid` gives the ids, all the same if `args` names one.  A stack
with an id that is taken ends the loop. -/
def newItems (cfgId : ℤ) (maxNum : ℕ+) (uuid : ℕ → ℤ) (made : ℕ) (left : ℤ) (items : Stacks) :
    Stacks × ℤ :=
  if left ≤ 0 then (items, left)
  else
    let itemNum := min left maxNum
    if (items.get (uuid made)).isSome then (items, left)
    else
      newItems cfgId maxNum uuid (made + 1) (left - itemNum)
        (items.add ⟨uuid made, cfgId, itemNum⟩)
  termination_by left.toNat
  decreasing_by
    have maxNum_pos : (0 : ℤ) < maxNum := by exact_mod_cast maxNum.pos
    omega

/-- `addItem` of an item that is not used on its own, with the number that it returns; `none` stands
for an assertion. -/
def addItem (cfgs : ItemCfgs) (cfgId num : ℤ) (uuid : ℕ → ℤ) (items : Stacks) :
    Option (Stacks × ℤ) :=
  if num ≤ 0 then none
  else
    match cfgs cfgId with
    | none => some (items, -1)
    | some cfg =>
        let overlaid := (getItemsByCfgId cfgId items).filter fun item => canOverlay item cfg.maxNum
        (visit (fun item => cfg.maxNum - item.num) (addItemNum cfg.maxNum) overlaid num
          items).map fun filled =>
            let made := newItems cfgId cfg.maxNum uuid 0 filled.2 filled.1
            (made.1, num - made.2)

/-- `costItem`, with the number that it returns; `none` stands for an assertion. -/
def costItem (cfgId num : ℤ) (items : Stacks) : Option (Stacks × ℤ) :=
  let sorted := (getItemsByCfgId cfgId items).mergeSort fun first second => second.num ≤ first.num
  visit Item.num costItemNum sorted.reverse num items

/-- Every stack has something, and no more than its kind allows. -/
def Sound (cfgs : ItemCfgs) (items : Stacks) : Prop :=
  ∀ item ∈ items.objects, 0 < item.num ∧
    ∃ cfg, cfgs item.cfgId = some cfg ∧ item.num ≤ cfg.maxNum

def others (cfgId : ℤ) (items : Stacks) : List Item :=
  items.objects.filter fun item => item.cfgId ≠ cfgId

/-- Only the total of one kind has changed, and every stack is sound. -/
structure Changes (cfgs : ItemCfgs) (cfgId : ℤ) (change : ℤ) (before after : Stacks) : Prop where
  total : getItemNumByCfgId cfgId after = getItemNumByCfgId cfgId before + change
  others : others cfgId after = others cfgId before
  sound : Sound cfgs after

section Stack

variable {cfgs : ItemCfgs} {items after : Stacks} {item other : Item} {cfgId change : ℤ}

def counted (cfgId : ℤ) (item : Item) : ℤ :=
  if item.cfgId = cfgId then item.num else 0

theorem getItemNumByCfgId_eq (cfgId : ℤ) (items : Stacks) :
    getItemNumByCfgId cfgId items = (items.objects.map (counted cfgId)).sum := by
  unfold getItemNumByCfgId getItemsByCfgId
  induction items.objects with
  | nil => rfl
  | cons item rest ih =>
      by_cases same : item.cfgId = cfgId
      · rw [List.filter_cons_of_pos (by simpa using same), List.map_cons, List.sum_cons, ih,
          List.map_cons, List.sum_cons, counted, if_pos same]
      · rw [List.filter_cons_of_neg (by simpa using same), ih, List.map_cons, List.sum_cons,
          counted, if_neg same, zero_add]

theorem Changes.refl (sound : Sound cfgs items) : Changes cfgs cfgId 0 items items :=
  ⟨(add_zero _).symm, rfl, sound⟩

theorem Changes.trans {later : Stacks} {more : ℤ} (first : Changes cfgs cfgId change items after)
    (second : Changes cfgs cfgId more after later) :
    Changes cfgs cfgId (change + more) items later :=
  ⟨by rw [second.total, first.total, add_assoc], second.others.trans first.others, second.sound⟩

theorem others_put (mem : other ∈ items.objects) (same : item.id = other.id)
    (kind : item.cfgId = cfgId) (other_kind : other.cfgId = cfgId) :
    others cfgId (items.put item) = others cfgId items := by
  unfold others Keyed.put
  rw [List.filter_map]
  have kinds : ∀ old ∈ items.objects,
      ((fun old : Item => decide (old.cfgId ≠ cfgId)) ∘
        fun old => if old.id = item.id then item else old) old = decide (old.cfgId ≠ cfgId) := by
    intro old old_mem
    by_cases is_item : old.id = item.id
    · obtain rfl := Keyed.eq_of_key_eq old_mem mem (is_item.trans same)
      simp [is_item, kind, other_kind]
    · simp [is_item]
  rw [List.filter_congr kinds]
  refine (List.map_congr_left fun old old_mem => if_neg fun is_item => ?_).trans (List.map_id _)
  obtain ⟨old_mem, kind_ne⟩ := List.mem_filter.mp old_mem
  obtain rfl := Keyed.eq_of_key_eq old_mem mem (is_item.trans same)
  exact absurd other_kind (by simpa using kind_ne)

theorem changes_put {num : ℤ} (sound : Sound cfgs items) (mem : item ∈ items.objects)
    (kind : item.cfgId = cfgId) (pos : 0 < num) {cfg : ItemCfg} (found : cfgs cfgId = some cfg)
    (le : num ≤ cfg.maxNum) :
    Changes cfgs cfgId (num - item.num) items (items.put { item with num }) where
  total := by
    have sums : ((items.put { item with num }).objects.map (counted cfgId)).sum +
        counted cfgId item = (items.objects.map (counted cfgId)).sum +
          counted cfgId { item with num } := Keyed.sum_put (counted cfgId) mem rfl
    rw [getItemNumByCfgId_eq, getItemNumByCfgId_eq]
    have before : counted cfgId item = item.num := if_pos kind
    have now : counted cfgId { item with num } = num := if_pos kind
    rw [before, now] at sums
    linarith
  others := others_put mem rfl kind kind
  sound := by
    intro old old_mem
    rcases Keyed.mem_put old_mem with rfl | ⟨before, -⟩
    · exact ⟨pos, cfg, kind ▸ found, le⟩
    · exact sound old before

theorem changes_erase (sound : Sound cfgs items) (mem : item ∈ items.objects)
    (kind : item.cfgId = cfgId) : Changes cfgs cfgId (-item.num) items (items.erase item.id) where
  total := by
    have sums := Keyed.sum_erase (counted cfgId) (Keyed.get_of_mem mem)
    have own : counted cfgId item = item.num := if_pos kind
    rw [getItemNumByCfgId_eq, getItemNumByCfgId_eq]
    linarith
  others := by
    unfold others Keyed.erase
    rw [List.filter_filter]
    refine List.filter_congr fun old old_mem => ?_
    by_cases is_item : old.id = item.id
    · obtain rfl := Keyed.eq_of_key_eq old_mem mem is_item
      simp [kind]
    · simp [is_item]
  sound old old_mem := sound old (Keyed.mem_erase.mp old_mem).1

theorem changes_add {id num : ℤ} (sound : Sound cfgs items) (absent : items.get id = none)
    (pos : 0 < num) {cfg : ItemCfg} (found : cfgs cfgId = some cfg) (le : num ≤ cfg.maxNum) :
    Changes cfgs cfgId num items (items.add ⟨id, cfgId, num⟩) where
  total := by
    have sums : ((items.add ⟨id, cfgId, num⟩).objects.map (counted cfgId)).sum =
        (items.objects.map (counted cfgId)).sum + counted cfgId ⟨id, cfgId, num⟩ :=
      Keyed.sum_add (counted cfgId) absent
    have own : counted cfgId ⟨id, cfgId, num⟩ = num := if_pos rfl
    rw [getItemNumByCfgId_eq, getItemNumByCfgId_eq, sums, own]
  others := by
    have appended : (items.add ⟨id, cfgId, num⟩).objects = items.objects ++ [⟨id, cfgId, num⟩] := by
      simp [Keyed.add, absent]
    rw [others, appended, List.filter_append]
    simp [others]
  sound := by
    intro old old_mem
    rcases Keyed.mem_add old_mem with rfl | before
    · exact ⟨pos, cfg, found, le⟩
    · exact sound old before

end Stack

/-- One turn of a loop moves its part in the direction `sign` and leaves the other stacks of the
list in the bag. -/
structure Moves (cfgs : ItemCfgs) (cfgId sign : ℤ) (move : Item → ℤ → Stacks → Option Stacks)
    (item : Item) (num : ℤ) (items : Stacks) : Prop where
  moved : ∃ after, move item num items = some after ∧
    Changes cfgs cfgId (sign * num) items after ∧
    ∀ other ∈ items.objects, other.id ≠ item.id → other ∈ after.objects

section Loop

variable {cfgs : ItemCfgs} {cfgId left : ℤ} {room : Item → ℤ}
  {move : Item → ℤ → Stacks → Option Stacks} {items : Stacks} {piles : List Item}

/-- A loop moves as much as there is room for. -/
theorem visit_spec (sign : ℤ)
    (moves : ∀ item ∈ piles, ∀ num items, 0 < num → num ≤ room item →
      item ∈ items.objects → Sound cfgs items → Moves cfgs cfgId sign move item num items)
    (room_pos : ∀ item ∈ piles, 0 < room item) (distinct : (piles.map Item.id).Nodup)
    (in_bag : ∀ item ∈ piles, item ∈ items.objects) (sound : Sound cfgs items)
    (left_pos : 0 < left) :
    ∃ after, visit room move piles left items =
        some (after, max (left - (piles.map room).sum) 0) ∧
      Changes cfgs cfgId (sign * (left - max (left - (piles.map room).sum) 0)) items after := by
  induction piles generalizing left items with
  | nil =>
      refine ⟨items, ?_, ?_⟩
      · simp [visit, left_pos.le]
      · have same : Changes cfgs cfgId 0 items items := .refl sound
        simpa [left_pos.le] using same
  | cons item rest ih =>
      have item_room := room_pos item List.mem_cons_self
      have num_pos : 0 < min left (room item) := lt_min left_pos item_room
      obtain ⟨after, moved_eq, changes, still⟩ := (moves item List.mem_cons_self _ items num_pos
        (min_le_right _ _) (in_bag item List.mem_cons_self) sound).moved
      have rest_nonneg : 0 ≤ (rest.map room).sum := by
        refine List.sum_nonneg fun size size_mem => ?_
        obtain ⟨other, other_mem, rfl⟩ := List.mem_map.mp size_mem
        exact (room_pos other (List.mem_cons_of_mem item other_mem)).le
      rw [List.map_cons, List.sum_cons]
      unfold visit
      dsimp only
      rw [moved_eq, Option.bind_some]
      split
      next done =>
        have all : min left (room item) = left := by omega
        have none_left : max (left - (room item + (rest.map room).sum)) 0 = 0 := by omega
        rw [none_left]
        refine ⟨after, by rw [all, sub_self], ?_⟩
        rw [all] at changes
        rwa [sub_zero]
      next more =>
        have part : min left (room item) = room item := by omega
        rw [List.map_cons, List.nodup_cons] at distinct
        have rest_in_bag : ∀ other ∈ rest, other ∈ after.objects := by
          intro other other_mem
          refine still other (in_bag other (List.mem_cons_of_mem item other_mem)) fun same => ?_
          exact distinct.1 (same ▸ List.mem_map_of_mem other_mem)
        obtain ⟨final, final_eq, later⟩ := ih
          (fun other other_mem => moves other (List.mem_cons_of_mem item other_mem))
          (fun other other_mem => room_pos other (List.mem_cons_of_mem item other_mem))
          distinct.2 rest_in_bag changes.sound (not_le.mp more)
        rw [part] at changes later final_eq
        rw [part, final_eq, ← sub_sub]
        refine ⟨final, rfl, ?_⟩
        have both := changes.trans later
        have sum_eq : sign * room item +
            sign * (left - room item - max (left - room item - (rest.map room).sum) 0) =
            sign * (left - max (left - room item - (rest.map room).sum) 0) := by ring
        rwa [sum_eq] at both

end Loop

section Amounts

variable {cfgs : ItemCfgs} {cfg : ItemCfg} {cfgId num : ℤ} {items : Stacks} {item : Item}

theorem mem_getItemsByCfgId :
    item ∈ getItemsByCfgId cfgId items ↔ item ∈ items.objects ∧ item.cfgId = cfgId := by
  simp [getItemsByCfgId]

theorem nodup_getItemsByCfgId (cfgId : ℤ) (items : Stacks) :
    ((getItemsByCfgId cfgId items).map Item.id).Nodup :=
  items.nodup.sublist (List.filter_sublist.map _)

theorem moves_addItemNum (found : cfgs cfgId = some cfg) (kind : item.cfgId = cfgId)
    (num_pos : 0 < num) (fits : num ≤ cfg.maxNum - item.num) (mem : item ∈ items.objects)
    (sound : Sound cfgs items) :
    Moves cfgs cfgId 1 (addItemNum cfg.maxNum) item num items := by
  have item_pos := (sound item mem).1
  have le : item.num + num ≤ cfg.maxNum := by linarith
  refine ⟨_, if_neg le.not_gt, ?_, fun other other_mem different => ?_⟩
  · have changes := changes_put sound mem kind (by linarith) found le
    rw [add_sub_cancel_left] at changes
    rwa [one_mul]
  · exact Keyed.mem_put_of_ne other_mem different

theorem moves_costItemNum (kind : item.cfgId = cfgId) (num_pos : 0 < num) (covered : num ≤ item.num)
    (mem : item ∈ items.objects) (sound : Sound cfgs items) :
    Moves cfgs cfgId (-1) costItemNum item num items := by
  obtain ⟨-, cfg, found, le_maxNum⟩ := sound item mem
  unfold costItemNum
  constructor
  dsimp only
  rw [if_neg (by linarith)]
  split
  next empty =>
    have all : num = item.num := by linarith
    refine ⟨_, rfl, ?_, fun other other_mem different => ?_⟩
    · rw [all, neg_one_mul]
      exact changes_erase sound mem kind
    · exact Keyed.mem_erase.mpr ⟨other_mem, different⟩
  next kept =>
    refine ⟨_, rfl, ?_, fun other other_mem different => ?_⟩
    · have changes := changes_put sound mem kind (not_le.mp kept) (kind ▸ found) (by linarith)
      rwa [sub_sub_cancel_left, ← neg_one_mul] at changes
    · exact Keyed.mem_put_of_ne other_mem different

theorem newItems_spec (found : cfgs cfgId = some cfg) (uuid : ℕ → ℤ) (made : ℕ) {left : ℤ}
    (sound : Sound cfgs items) :
    Changes cfgs cfgId (left - (newItems cfgId cfg.maxNum uuid made left items).2) items
      (newItems cfgId cfg.maxNum uuid made left items).1 := by
  induction size : left.toNat using Nat.strong_induction_on generalizing made left items with
  | _ size ih =>
      have maxNum_pos : (0 : ℤ) < cfg.maxNum := by exact_mod_cast cfg.maxNum.pos
      rw [newItems]
      split
      · rw [sub_self]
        exact .refl sound
      next some_left =>
        dsimp only
        split
        · rw [sub_self]
          exact .refl sound
        next absent =>
          have itemNum_pos :
              0 < min left (cfg.maxNum : ℤ) := lt_min (not_le.mp some_left) maxNum_pos
          have added := changes_add sound (by simpa using absent) itemNum_pos found
            (min_le_right _ _)
          have later := ih (left - min left (cfg.maxNum : ℤ)).toNat (by omega) (made + 1)
            added.sound rfl
          have both := added.trans later
          rwa [← add_sub_assoc, add_sub_cancel] at both

theorem addItem_spec (found : cfgs cfgId = some cfg) (num_pos : 0 < num) (uuid : ℕ → ℤ)
    (sound : Sound cfgs items) :
    ∃ after added, addItem cfgs cfgId num uuid items = some (after, added) ∧
      Changes cfgs cfgId added items after := by
  have in_bag :
      ∀ item ∈ (getItemsByCfgId cfgId items).filter fun item => canOverlay item cfg.maxNum,
      item ∈ items.objects ∧ item.cfgId = cfgId ∧ item.num < cfg.maxNum := by
    intro item item_mem
    obtain ⟨item_mem, overlay⟩ := List.mem_filter.mp item_mem
    obtain ⟨item_mem, kind⟩ := mem_getItemsByCfgId.mp item_mem
    exact ⟨item_mem, kind, by simpa [canOverlay] using overlay⟩
  obtain ⟨filled, visited, fills⟩ := visit_spec 1
    (fun item item_mem num items num_pos fits mem sound =>
      moves_addItemNum found (in_bag item item_mem).2.1 num_pos fits mem sound)
    (fun item item_mem => sub_pos.mpr (in_bag item item_mem).2.2)
    ((nodup_getItemsByCfgId cfgId items).sublist (List.filter_sublist.map _))
    (fun item item_mem => (in_bag item item_mem).1) sound num_pos
  generalize max (num - _) 0 = left at visited fills
  unfold addItem
  rw [if_neg num_pos.not_ge, found]
  dsimp only
  rw [visited, Option.map_some]
  refine ⟨_, _, rfl, ?_⟩
  have makes : Changes cfgs cfgId (left - (newItems cfgId cfg.maxNum uuid 0 left filled).2) filled
      (newItems cfgId cfg.maxNum uuid 0 left filled).1 := newItems_spec found uuid 0 fills.sound
  have both := fills.trans makes
  rwa [one_mul, sub_add_sub_cancel] at both

theorem costItem_spec (num_pos : 0 < num) (sound : Sound cfgs items) :
    ∃ after left, costItem cfgId num items = some (after, left) ∧
      Changes cfgs cfgId (-(num - left)) items after ∧
      left = max (num - getItemNumByCfgId cfgId items) 0 := by
  have perm : ((getItemsByCfgId cfgId items).mergeSort
      fun first second => second.num ≤ first.num).reverse.Perm (getItemsByCfgId cfgId items) :=
    (List.reverse_perm _).trans (List.mergeSort_perm _ _)
  have in_bag : ∀ item ∈ ((getItemsByCfgId cfgId items).mergeSort
      fun first second => second.num ≤ first.num).reverse,
      item ∈ items.objects ∧ item.cfgId = cfgId :=
    fun item item_mem => mem_getItemsByCfgId.mp (perm.mem_iff.mp item_mem)
  obtain ⟨after, visited, costs⟩ := visit_spec (-1)
    (fun item item_mem num items num_pos covered mem sound =>
      moves_costItemNum (in_bag item item_mem).2 num_pos covered mem sound)
    (fun item item_mem => (sound item (in_bag item item_mem).1).1)
    ((perm.map Item.id).nodup_iff.mpr (nodup_getItemsByCfgId cfgId items))
    (fun item item_mem => (in_bag item item_mem).1) sound num_pos
  rw [(perm.map Item.num).sum_eq] at visited costs
  refine ⟨after, _, visited, ?_, rfl⟩
  rwa [neg_one_mul] at costs

/-- Adding and paying move exactly what they return, in sound stacks, and no assertion fails. -/
theorem stacks_exact (cfgs : ItemCfgs) (cfgId : ℤ) {num : ℤ} {items : Stacks}
    (sound : Sound cfgs items) (num_pos : 0 < num) :
    (∀ cfg, cfgs cfgId = some cfg → cfg.isAutoUse = false → ∀ uuid,
      ∃ after added, addItem cfgs cfgId num uuid items = some (after, added) ∧
        Changes cfgs cfgId added items after) ∧
    ∃ after left, costItem cfgId num items = some (after, left) ∧
      Changes cfgs cfgId (-(num - left)) items after ∧
      (num ≤ getItemNumByCfgId cfgId items → left = 0) := by
  refine ⟨fun cfg found _ uuid => addItem_spec found num_pos uuid sound, ?_⟩
  obtain ⟨after, left, paid, changes, left_eq⟩ := costItem_spec num_pos sound
  exact ⟨after, left, paid, changes, fun enough => by omega⟩

def sampleCfgs : ItemCfgs :=
  fun cfgId => some ⟨if cfgId = 7 then 6 else 60, false⟩

def sampleStacks : Stacks :=
  ⟨[⟨1, 7, 3⟩, ⟨2, 9, 40⟩, ⟨3, 7, 5⟩, ⟨4, 7, 1⟩], by decide⟩

theorem sampleStacks_sound : Sound sampleCfgs sampleStacks := by
  intro item item_mem
  refine ⟨?_, _, rfl, ?_⟩ <;> revert item <;> decide +kernel

/-- Thirteen items come and seven are paid. -/
theorem stacks_exact_sample :
    (∃ after added, addItem sampleCfgs 7 13 (fun made => 10 + made) sampleStacks =
        some (after, added) ∧ Changes sampleCfgs 7 added sampleStacks after) ∧
      ∃ after left, costItem 7 7 sampleStacks = some (after, left) ∧
        Changes sampleCfgs 7 (-(7 - left)) sampleStacks after ∧ left = 0 := by
  obtain ⟨adds, after, left, paid, changes, enough⟩ :=
    stacks_exact sampleCfgs 7 sampleStacks_sound (by decide : (0 : ℤ) < 7)
  have more := (stacks_exact sampleCfgs 7 sampleStacks_sound (by decide : (0 : ℤ) < 13)).1
  exact ⟨more _ rfl rfl _, after, left, paid, changes, enough (by decide +kernel)⟩

end Amounts

end BasWar.Items
