import Mathlib.Data.List.Nodup
import Mathlib.Data.Rat.Defs

/-!
# Saving a player

A player is stored as one document with a field for each component, and a save replaces the whole
document.  A table of Lua is the list of its entries in the order in which `pairs` visits them.
-/

namespace BasWar.Save

inductive Key
  | number (value : ℚ)
  | text (value : String)

inductive Value
  | number (value : ℚ)
  | text (value : String)
  | boolean (value : Bool)
  | table (entries : List (Key × Value))

def saveDataCheck : Bool :=
  true

mutual

/-- `_check`; what is not a table passes. -/
def Value.check : Value → Bool
  | .table entries => checkEntries entries []
  | .number _ | .text _ | .boolean _ => true

/-- The loop of `_check` over the entries that are left, with the numbers seen so far. -/
def checkEntries : List (Key × Value) → List ℚ → Bool
  | [], numDict =>
      (List.range numDict.length).all fun index => ((index + 1 : ℕ) : ℚ) ∈ numDict
  | (key, value) :: rest, numDict =>
      value.check &&
        match key with
        | .number number => checkEntries rest (numDict.insert number)
        | .text _ => numDict.isEmpty && checkEntries rest numDict

end

/-- What `serialize` of a component does. -/
inductive Serialized
  | raise
  /-- The component answers with some data, or with nothing. -/
  | answer (componentData : Option Value)

structure Component where
  name : String
  /-- Missing if the component has no `serialize`. -/
  serialize : Option Serialized

structure Cplayer where
  pid : ℕ
  component : List Component
  /-- `add_component` refuses a name that is taken. -/
  nodup : (component.map Component.name).Nodup
  noSaveToDb : Bool

/-- Data of some components by their names. -/
abbrev Data := List (String × Value)

structure Document where
  pid : ℕ
  component : String → Option Value

namespace Component

def entry (obj : Component) : Option (String × Value) :=
  match obj.serialize with
  | some (.answer (some componentData)) => some (obj.name, componentData)
  | some (.answer none) | some .raise | none => none

def Raises (obj : Component) : Prop :=
  match obj.serialize with
  | some .raise => True
  | some (.answer _) | none => False

instance (obj : Component) : Decidable obj.Raises := by
  unfold Raises
  split <;> infer_instance

end Component

/-- A component whose data is no table; the loop over its entries raises. -/
def Value.Walkable : Value → Prop
  | .table _ => True
  | .number _ | .text _ | .boolean _ => False

instance : DecidablePred Value.Walkable
  | .table _ => .isTrue trivial
  | .number _ | .text _ | .boolean _ => .isFalse id

/-- No entry of the data of a component fails its check. -/
def Value.Passes : Value → Prop
  | .table entries => ∀ entry ∈ entries, entry.2.check
  | .number _ | .text _ | .boolean _ => True

instance : DecidablePred Value.Passes
  | .table entries => inferInstanceAs (Decidable (∀ entry ∈ entries, entry.2.check))
  | .number _ | .text _ | .boolean _ => .isTrue trivial

namespace Cplayer

/-- `cplayer:serialize`; nothing if a component raises. -/
def serialize (player : Cplayer) : Option Data :=
  if ∃ obj ∈ player.component, obj.Raises then none
  else some (player.component.filterMap Component.entry)

/-- `checkSaveData`: the data without the components that fail, and whether to go on.  Nothing if
the check raises. -/
def checkSaveData (data : Data) : Option (Data × Bool) :=
  if ∀ entry ∈ data, entry.2.Walkable then
    let result := true
    some (data.filter fun entry => entry.2.Passes, result)
  else none

/-- The update with `data` as the whole document, if it reaches the database. -/
def update (player : Cplayer) (reaches : Bool) (data : Data) (stored : Option Document) :
    Option Document :=
  if reaches then some ⟨player.pid, fun name => data.lookup name⟩ else stored

/-- `cplayer:save_to_db`: what is stored afterwards. -/
def saveToDb (player : Cplayer) (reaches : Bool) (stored : Option Document) : Option Document :=
  if player.noSaveToDb then stored
  else
    match player.serialize with
    | none => stored
    | some data =>
        if saveDataCheck then
          match checkSaveData data with
          | none => stored
          | some (data, result) => if result then player.update reaches data stored else stored
        else player.update reaches data stored

/-- A component that takes part in saves. -/
def Persists (player : Cplayer) (obj : Component) : Prop :=
  obj ∈ player.component ∧ obj.serialize ≠ none

end Cplayer

/-- A component is in what is stored. -/
def Holds (stored : Option Document) (name : String) : Prop :=
  ∃ document, stored = some document ∧ document.component name ≠ none

/-- A save leaves the document as it was or stores every component, and no component that was
stored before goes missing. -/
structure WholeOrNothing (player : Cplayer) (stored after : Option Document) : Prop where
  whole : after = stored ∨ ∀ obj, player.Persists obj → Holds after obj.name
  kept : ∀ obj, player.Persists obj → Holds stored obj.name → Holds after obj.name

/-- The data of a component reaches the document. -/
def Component.Saves (obj : Component) : Prop :=
  ∃ componentData, obj.serialize = some (.answer (some componentData)) ∧ componentData.Passes

def Unsaved (player : Cplayer) (reaches : Bool) : Prop :=
  player.noSaveToDb = true ∨ reaches = false ∨ (∃ obj ∈ player.component, obj.Raises) ∨
    ∃ obj ∈ player.component, ∃ entry, obj.entry = some entry ∧ ¬ entry.2.Walkable

/-- What is stored is already the data of the components that pass, and nothing else. -/
def AlreadyStored (player : Cplayer) (stored : Option Document) : Prop :=
  ∃ document, stored = some document ∧ document.pid = player.pid ∧
    ∀ name componentData, document.component name = some componentData ↔
      ∃ obj ∈ player.component, obj.entry = some (name, componentData) ∧ componentData.Passes

namespace Cplayer

/-- What a save writes into the field of one component. -/
def kept (player : Cplayer) : Data :=
  (player.component.filterMap Component.entry).filter fun entry => entry.2.Passes

variable {name : String} {componentData : Value} {player : Cplayer}

theorem entry_name {obj : Component} (found : obj.entry = some (name, componentData)) :
    obj.name = name ∧ obj.serialize = some (.answer (some componentData)) := by
  unfold Component.entry at found
  split at found
  · rename_i serialized
    obtain ⟨rfl, rfl⟩ : obj.name = name ∧ _ = componentData := by simpa using found
    exact ⟨rfl, serialized⟩
  all_goals simp at found

theorem mem_kept :
    (name, componentData) ∈ player.kept ↔
      ∃ obj ∈ player.component, obj.entry = some (name, componentData) ∧ componentData.Passes := by
  simp only [kept, List.mem_filter, List.mem_filterMap, decide_eq_true_eq]
  constructor
  · rintro ⟨⟨obj, obj_mem, found⟩, passes⟩
    exact ⟨obj, obj_mem, found, passes⟩
  · rintro ⟨obj, obj_mem, found, passes⟩
    exact ⟨⟨obj, obj_mem, found⟩, passes⟩

theorem kept_nodup (player : Cplayer) : (player.kept.map Prod.fst).Nodup := by
  have names : ∀ components : List Component,
      ((components.filterMap Component.entry).map Prod.fst).Sublist
        (components.map Component.name) := by
    intro components
    induction components with
    | nil => exact .slnil
    | cons obj components ih =>
        cases found : obj.entry with
        | none =>
            rw [List.filterMap_cons_none found, List.map_cons]
            exact ih.cons obj.name
        | some entry =>
            rw [List.filterMap_cons_some found, List.map_cons, List.map_cons,
              (entry_name (show obj.entry = some (entry.1, entry.2) from found)).1]
            exact ih.cons_cons entry.1
  have sub : (player.kept.map Prod.fst).Sublist (player.component.map Component.name) :=
    (List.filter_sublist.map Prod.fst).trans (names player.component)
  exact player.nodup.sublist sub

theorem lookup_kept :
    player.kept.lookup name = some componentData ↔ (name, componentData) ∈ player.kept := by
  constructor
  · intro found
    obtain ⟨before, after, kept_eq, -⟩ := List.lookup_eq_some_iff.mp found
    rw [kept_eq]
    simp
  · intro kept_mem
    obtain ⟨before, after, kept_eq⟩ := List.append_of_mem kept_mem
    refine List.lookup_eq_some_iff.mpr ⟨before, after, kept_eq, ?_⟩
    have nodup := player.kept_nodup
    rw [kept_eq, List.map_append, List.map_cons, List.nodup_append] at nodup
    intro entry entry_mem
    have other : entry.1 ≠ name :=
      nodup.2.2 entry.1 (List.mem_map_of_mem entry_mem) name (by simp)
    simpa using other.symm

def document (player : Cplayer) : Document :=
  ⟨player.pid, fun name => player.kept.lookup name⟩

theorem saveToDb_unsaved {reaches : Bool} (stored : Option Document)
    (unsaved : Unsaved player reaches) : player.saveToDb reaches stored = stored := by
  rcases unsaved with disabled | cut | raises | ⟨obj, obj_mem, entry, found, stuck⟩
  · simp [saveToDb, disabled]
  · subst cut
    have kept_result : ∀ result : Option (Data × Bool),
        (match result with
          | none => stored
          | some (data, result) => if result then player.update false data stored else stored) =
        stored := by
      rintro (- | ⟨data, - | -⟩) <;> rfl
    cases disabled : player.noSaveToDb with
    | true => simp [saveToDb, disabled]
    | false =>
        cases answered : player.serialize with
        | none => simp [saveToDb, disabled, answered]
        | some data =>
            simp only [saveToDb, disabled, answered, saveDataCheck, if_true, Bool.false_eq_true,
              if_false]
            exact kept_result _
  · have silent : player.serialize = none := if_pos raises
    simp [saveToDb, silent]
  · by_cases raises : ∃ obj ∈ player.component, obj.Raises
    · have silent : player.serialize = none := if_pos raises
      simp [saveToDb, silent]
    · have answered : player.serialize = some (player.component.filterMap Component.entry) :=
        if_neg raises
      have unchecked : checkSaveData (player.component.filterMap Component.entry) = none :=
        if_neg fun walkable => stuck (walkable entry (List.mem_filterMap.mpr ⟨obj, obj_mem, found⟩))
      simp [saveToDb, answered, saveDataCheck, unchecked]

theorem saveToDb_saved {reaches : Bool} (stored : Option Document)
    (saved : ¬ Unsaved player reaches) : player.saveToDb reaches stored = some player.document := by
  have enabled : player.noSaveToDb = false := by
    simpa using fun disabled => saved (.inl disabled)
  have reached : reaches = true := by
    simpa using fun cut => saved (.inr (.inl cut))
  have answered : ¬ ∃ obj ∈ player.component, obj.Raises :=
    fun raises => saved (.inr (.inr (.inl raises)))
  have checked : ∀ entry ∈ player.component.filterMap Component.entry, entry.2.Walkable := by
    intro entry entry_mem
    obtain ⟨obj, obj_mem, found⟩ := List.mem_filterMap.mp entry_mem
    by_contra stuck
    exact saved (.inr (.inr (.inr ⟨obj, obj_mem, entry, found, stuck⟩)))
  simp only [saveToDb, enabled, serialize, answered, checkSaveData, saveDataCheck, update, reached,
    if_true, if_false, Bool.false_eq_true]
  rw [if_pos checked]
  rfl

theorem holds_document {obj : Component} (obj_mem : obj ∈ player.component) :
    Holds (some player.document) obj.name ↔ obj.Saves := by
  constructor
  · rintro ⟨document, document_eq, found⟩
    obtain rfl := Option.some.inj document_eq
    obtain ⟨componentData, stored⟩ := Option.ne_none_iff_exists'.mp found
    obtain ⟨other, other_mem, entry_eq, passes⟩ := mem_kept.mp (lookup_kept.mp stored)
    obtain ⟨name_eq, serialized⟩ := entry_name entry_eq
    have same : other = obj := List.inj_on_of_nodup_map player.nodup other_mem obj_mem name_eq
    exact ⟨componentData, same ▸ serialized, passes⟩
  · rintro ⟨componentData, serialized, passes⟩
    refine ⟨player.document, rfl, ?_⟩
    have entry_eq : obj.entry = some (obj.name, componentData) := by
      simp [Component.entry, serialized]
    have stored : player.document.component obj.name = some componentData :=
      lookup_kept.mpr (mem_kept.mpr ⟨obj, obj_mem, entry_eq, passes⟩)
    simp [stored]

theorem alreadyStored_iff {stored : Option Document} :
    AlreadyStored player stored ↔ some player.document = stored := by
  constructor
  · rintro ⟨document, rfl, pid_eq, component_eq⟩
    have fields : document.component = player.document.component := by
      funext name
      refine Option.ext fun componentData => ?_
      rw [component_eq, ← mem_kept, ← lookup_kept]
      rfl
    obtain ⟨pid, component⟩ := document
    simp only at pid_eq fields
    rw [pid_eq, fields]
    rfl
  · rintro rfl
    exact ⟨player.document, rfl, rfl, fun name componentData => lookup_kept.trans mem_kept⟩

end Cplayer

/-- A save is whole or nothing exactly when it is not made, when every component passes, or when
what passes is already all that is stored. -/
theorem saveToDb_whole_iff (player : Cplayer) (reaches : Bool) (stored : Option Document) :
    WholeOrNothing player stored (player.saveToDb reaches stored) ↔
      Unsaved player reaches ∨ (∀ obj, player.Persists obj → obj.Saves) ∨
        AlreadyStored player stored := by
  by_cases unsaved : Unsaved player reaches
  · rw [Cplayer.saveToDb_unsaved stored unsaved]
    exact ⟨fun _ => .inl unsaved, fun _ => ⟨.inl rfl, fun _ _ holds => holds⟩⟩
  · rw [Cplayer.saveToDb_saved stored unsaved, Cplayer.alreadyStored_iff]
    constructor
    · rintro ⟨same | whole, -⟩
      · exact .inr (.inr same)
      · exact .inr (.inl fun obj persists =>
          (Cplayer.holds_document persists.1).mp (whole obj persists))
    · rintro (impossible | saves | same)
      · exact absurd impossible unsaved
      · have whole : ∀ obj, player.Persists obj → Holds (some player.document) obj.name :=
          fun obj persists => (Cplayer.holds_document persists.1).mpr (saves obj persists)
        exact ⟨.inr whole, fun obj persists _ => whole obj persists⟩
      · exact ⟨.inl same, fun _ _ holds => same ▸ holds⟩

/-- The list of mails has a gap. -/
def gapPlayer : Cplayer where
  pid := 1
  component :=
    [⟨"mailBag", some (.answer (some (.table [(.text "mails",
        .table [(.number 1, .number 5), (.number 3, .number 6)])])))⟩]
  nodup := by decide
  noSaveToDb := false

/-- The mails of an earlier save. -/
def gapDocument : Document where
  pid := 1
  component name := if name = "mailBag" then some (.table []) else none

theorem not_wholeOrNothing_gapPlayer :
    ¬ WholeOrNothing gapPlayer (some gapDocument)
      (gapPlayer.saveToDb true (some gapDocument)) := by
  intro whole
  have persists : gapPlayer.Persists gapPlayer.component[0] := 
    ⟨List.getElem_mem _, by simp [gapPlayer]⟩
  obtain ⟨document, after_eq, found⟩ :=
    whole.kept _ persists ⟨gapDocument, rfl, by simp [gapPlayer, gapDocument]⟩
  exact found (by rw [← Option.some.inj after_eq]; decide)

end BasWar.Save
