import BasWar.Tables.Journal
import BasWar.Tables.Mirrored
import Mathlib.Data.List.Nodup

/-!
# Fight reports

A player keeps the latest reports of each kind of battle, as a list of ids and a table of reports.
A campaign is only noted: its id is in a list, and is a key of a table whose values are all `true`.
Saving writes the values of a table and loading looks for the ids in them, which a table of `true`
does not have: the notes are right until a player who has some is loaded.
-/

namespace BasWar.FightReports

open Tables

def fightReportMax : ℕ := 30

structure Report (Content : Type) where
  fightId : ℕ
  content : Content

/-- The list and the table of one kind of battle. -/
structure PvxReports (Content : Type) where
  reportIdList : List ℕ
  reports : Keyed (Report.fightId : Report Content → ℕ)

/-- A key of `starmapCampaignIdDict`. -/
inductive CampaignKey
  | id (campaignId : ℕ)
  | bool (value : Bool)
  deriving DecidableEq

structure FightReportBag (Content : Type) where
  pve : PvxReports Content
  pvp : PvxReports Content
  starmapCampaignIdList : List ℕ
  starmapCampaignIdDict : Dict CampaignKey Bool

/-- What `serialize` writes. -/
structure Data (Content : Type) where
  pveReportIdList : List ℕ
  pveReports : List (Report Content)
  pvpReportIdList : List ℕ
  pvpReports : List (Report Content)
  starmapCampaignIdList : List ℕ
  starmapCampaignIdDict : List Bool

variable {Content : Type}

/-- Take so many ids out of the list, and out of the table. -/
def removeOldest {Object Key : Type} [DecidableEq Key] {key : Object → Key} (name : ℕ → Key) :
    ℕ → List ℕ → Keyed key → List ℕ × Keyed key
  | 0, ids, table => (ids, table)
  | _ + 1, [], table => ([], table)
  | diff + 1, id :: ids, table => removeOldest name diff ids (table.erase (name id))

def PvxReports.doAddFightPvxReport (report : Report Content) (pvx : PvxReports Content) :
    PvxReports Content :=
  let reportIdList := pvx.reportIdList ++ [report.fightId]
  let reports := pvx.reports.set report
  if fightReportMax < reportIdList.length then
    let removed :=
      removeOldest id (reportIdList.length - fightReportMax) reportIdList reports
    ⟨removed.1, removed.2⟩
  else ⟨reportIdList, reports⟩

namespace FightReportBag

def new : FightReportBag Content :=
  ⟨⟨[], .empty⟩, ⟨[], .empty⟩, [], .empty⟩

def addFightPveReport (report : Option (Report Content)) (bag : FightReportBag Content) :
    FightReportBag Content :=
  match report with
  | none => bag
  | some report => { bag with pve := bag.pve.doAddFightPvxReport report }

def addFightPvpReport (report : Option (Report Content)) (bag : FightReportBag Content) :
    FightReportBag Content :=
  match report with
  | none => bag
  | some report => { bag with pvp := bag.pvp.doAddFightPvxReport report }

def addStarmapReport (campaignId : ℕ) (bag : FightReportBag Content) : FightReportBag Content :=
  if (bag.starmapCampaignIdDict.lookup (.id campaignId)).any (· = true) then bag
  else
    let count := bag.starmapCampaignIdList.length
    let kept :=
      if fightReportMax < count then
        removeOldest .id (count - fightReportMax) bag.starmapCampaignIdList
          bag.starmapCampaignIdDict
      else (bag.starmapCampaignIdList, bag.starmapCampaignIdDict)
    { bag with
      starmapCampaignIdList := kept.1 ++ [campaignId]
      starmapCampaignIdDict := Dict.assign (.id campaignId) true kept.2 }

def serialize (bag : FightReportBag Content) : Data Content where
  pveReportIdList := bag.pve.reportIdList
  pveReports := bag.pve.reports.objects
  pvpReportIdList := bag.pvp.reportIdList
  pvpReports := bag.pvp.reports.objects
  starmapCampaignIdList := bag.starmapCampaignIdList
  starmapCampaignIdDict := bag.starmapCampaignIdDict.objects.map Prod.snd

def deserialize (data : Data Content) : FightReportBag Content where
  pve := ⟨data.pveReportIdList, .ofList data.pveReports⟩
  pvp := ⟨data.pvpReportIdList, .ofList data.pvpReports⟩
  starmapCampaignIdList := data.starmapCampaignIdList
  starmapCampaignIdDict := Dict.ofEntries .bool (fun _ => true) data.starmapCampaignIdDict

end FightReportBag

/-- A player with the document that was saved last. -/
structure World (Content : Type) where
  bag : FightReportBag Content
  saved : Option (Data Content)

inductive Event (Content : Type)
  | addFightPveReport (report : Option (Report Content))
  | addFightPvpReport (report : Option (Report Content))
  | addStarmapReport (campaignId : ℕ)
  | save
  | reload

def World.new : World Content := ⟨.new, none⟩

def World.step (world : World Content) : Event Content → World Content
  | .addFightPveReport report => { world with bag := world.bag.addFightPveReport report }
  | .addFightPvpReport report => { world with bag := world.bag.addFightPvpReport report }
  | .addStarmapReport campaignId => { world with bag := world.bag.addStarmapReport campaignId }
  | .save => { world with saved := some world.bag.serialize }
  | .reload => { world with bag := (world.saved.map FightReportBag.deserialize).getD .new }

def machine : Machine (World Content) (Event Content) Empty where
  step world event := (world.step event, [])

/-- Every id has its report, and every report its id. -/
def PvxReports.Matched (pvx : PvxReports Content) : Prop :=
  ∀ id, id ∈ pvx.reportIdList ↔ (pvx.reports.get id).isSome

/-- The lists and the tables agree, and no list is too long. -/
structure Sound (bag : FightReportBag Content) : Prop where
  once : bag.starmapCampaignIdList.Nodup
  keys : ∀ key, key ∈ bag.starmapCampaignIdDict.keys ↔
    ∃ id ∈ bag.starmapCampaignIdList, key = .id id
  pve : bag.pve.Matched
  pvp : bag.pvp.Matched
  pve_length : bag.pve.reportIdList.length ≤ fightReportMax + 1
  pvp_length : bag.pvp.reportIdList.length ≤ fightReportMax + 1
  campaign_length : bag.starmapCampaignIdList.length ≤ fightReportMax + 1

/-- No report is added twice, and a player is loaded only from a document without campaigns. -/
def Allowed (world : World Content) : Event Content → Prop
  | .addFightPveReport report => ∀ added ∈ report, added.fightId ∉ world.bag.pve.reportIdList
  | .addFightPvpReport report => ∀ added ∈ report, added.fightId ∉ world.bag.pvp.reportIdList
  | .reload => ∀ data ∈ world.saved, data.starmapCampaignIdList = []
  | .addStarmapReport _ | .save => True

instance (world : World Content) (event : Event Content) : Decidable (Allowed world event) := by
  unfold Allowed
  induction event using Event.casesOn <;> dsimp only <;> infer_instance

section Step

variable {pvx : PvxReports Content} {bag : FightReportBag Content}

theorem removeOldest_spec {Object Key : Type} [DecidableEq Key] {key : Object → Key}
    {name : ℕ → Key} (diff : ℕ) {ids : List ℕ} {table : Keyed key} (nodup : (ids.map name).Nodup)
    (mirrored : Mirrored name ids table) :
    (removeOldest name diff ids table).1 = ids.drop diff ∧
      Mirrored name (ids.drop diff) (removeOldest name diff ids table).2 := by
  induction diff generalizing ids table with
  | zero => exact ⟨rfl, mirrored⟩
  | succ diff ih =>
      cases ids with
      | nil => exact ⟨rfl, mirrored⟩
      | cons id ids =>
          rw [List.map_cons, List.nodup_cons] at nodup
          exact ih nodup.2 (mirrored.erase nodup.1)

/-- A list of different ids that is not too long, and its table. -/
structure PvxReports.Kept (pvx : PvxReports Content) : Prop where
  nodup : pvx.reportIdList.Nodup
  mirrored : Mirrored id pvx.reportIdList pvx.reports
  length : pvx.reportIdList.length ≤ fightReportMax

theorem PvxReports.Kept.add (kept : pvx.Kept) {report : Report Content}
    (new : report.fightId ∉ pvx.reportIdList) : (pvx.doAddFightPvxReport report).Kept := by
  have nodup : (pvx.reportIdList ++ [report.fightId]).Nodup := by
    rw [← List.concat_eq_append]
    exact kept.nodup.concat new
  have mirrored : Mirrored id (pvx.reportIdList ++ [report.fightId]) (pvx.reports.set report) :=
    kept.mirrored.set rfl
  unfold doAddFightPvxReport
  dsimp only
  split
  next long =>
    obtain ⟨list_eq, removed⟩ := removeOldest_spec
      ((pvx.reportIdList ++ [report.fightId]).length - fightReportMax)
      (by simpa using nodup) mirrored
    refine ⟨?_, ?_, ?_⟩
    · rw [list_eq]
      exact nodup.sublist (List.drop_sublist _ _)
    · rw [list_eq]
      exact removed
    · rw [list_eq, List.length_drop]
      omega
  next short => exact ⟨nodup, mirrored, Nat.not_lt.mp short⟩

/-- The ids of the campaigns are the keys of their table. -/
structure Noted (idList : List ℕ) (idDict : Dict CampaignKey Bool) : Prop where
  nodup : idList.Nodup
  mirrored : Mirrored .id idList idDict
  values : ∀ entry ∈ idDict.objects, entry.2 = true
  length : idList.length ≤ fightReportMax + 1

theorem Noted.lookup_iff {idList : List ℕ} {idDict : Dict CampaignKey Bool}
    (noted : Noted idList idDict) (campaignId : ℕ) :
    (idDict.lookup (.id campaignId)).any (· = true) ↔ campaignId ∈ idList := by
  have isSome_iff : (idDict.lookup (.id campaignId)).isSome ↔ campaignId ∈ idList := by
    rw [Dict.lookup, Option.isSome_map, noted.mirrored, List.mem_map]
    constructor
    · rintro ⟨id, id_mem, same⟩
      cases same
      exact id_mem
    · exact fun id_mem => ⟨campaignId, id_mem, rfl⟩
  rw [← isSome_iff]
  cases found : idDict.lookup (.id campaignId) with
  | none => simp
  | some value =>
      have is_true : value = true := noted.values _ (Dict.mem_of_lookup found)
      simp [is_true]

theorem removeOldest_objects {Object Key : Type} [DecidableEq Key] {key : Object → Key}
    {name : ℕ → Key} (diff : ℕ) (ids : List ℕ) (table : Keyed key) :
    ∀ object ∈ (removeOldest name diff ids table).2.objects, object ∈ table.objects := by
  induction diff generalizing ids table with
  | zero => exact fun _ object_mem => object_mem
  | succ diff ih =>
      cases ids with
      | nil => exact fun _ object_mem => object_mem
      | cons id ids =>
          exact fun object object_mem => (Keyed.mem_erase.mp (ih ids _ object object_mem)).1

theorem Noted.add (noted : Noted bag.starmapCampaignIdList bag.starmapCampaignIdDict)
    (campaignId : ℕ) :
    Noted (bag.addStarmapReport campaignId).starmapCampaignIdList
      (bag.addStarmapReport campaignId).starmapCampaignIdDict := by
  unfold FightReportBag.addStarmapReport
  split
  next => exact noted
  next absent =>
    rw [noted.lookup_iff] at absent
    dsimp only
    -- What is left after the loop, of a list that was long or not.
    have left : ∃ diff, (if fightReportMax < bag.starmapCampaignIdList.length then
          removeOldest .id (bag.starmapCampaignIdList.length - fightReportMax)
            bag.starmapCampaignIdList bag.starmapCampaignIdDict
        else (bag.starmapCampaignIdList, bag.starmapCampaignIdDict)) =
          removeOldest .id diff bag.starmapCampaignIdList bag.starmapCampaignIdDict ∧
        (bag.starmapCampaignIdList.drop diff).length ≤ fightReportMax := by
      split
      next => exact ⟨_, rfl, by rw [List.length_drop]; omega⟩
      next short => exact ⟨0, rfl, Nat.not_lt.mp short⟩
    obtain ⟨diff, left_eq, short⟩ := left
    rw [left_eq]
    obtain ⟨list_eq, mirrored⟩ := removeOldest_spec diff
      (noted.nodup.map fun _ _ same => CampaignKey.id.inj same) noted.mirrored
    rw [list_eq]
    refine ⟨?_, mirrored.set rfl, fun entry entry_mem => ?_, ?_⟩
    · rw [← List.concat_eq_append]
      exact (noted.nodup.sublist (List.drop_sublist _ _)).concat
        fun id_mem => absent (List.mem_of_mem_drop id_mem)
    · obtain rfl | old := Keyed.mem_set entry_mem
      · rfl
      · exact noted.values entry (removeOldest_objects _ _ _ entry old)
    · rw [List.length_append, List.length_singleton]
      omega

structure Kept (bag : FightReportBag Content) : Prop where
  pve : bag.pve.Kept
  pvp : bag.pvp.Kept
  noted : Noted bag.starmapCampaignIdList bag.starmapCampaignIdDict

/-- A document from which the player is loaded as it was. -/
def Faithful (data : Data Content) : Prop :=
  ∃ bag, Kept bag ∧ data = bag.serialize

theorem kept_new : Kept (FightReportBag.new : FightReportBag Content) where
  pve := ⟨List.nodup_nil, .empty _, Nat.zero_le _⟩
  pvp := ⟨List.nodup_nil, .empty _, Nat.zero_le _⟩
  noted := ⟨List.nodup_nil, .empty _, fun _ none => absurd none List.not_mem_nil, Nat.zero_le _⟩

theorem deserialize_serialize (kept : Kept bag) (noCampaigns : bag.starmapCampaignIdList = []) :
    FightReportBag.deserialize bag.serialize = bag := by
  have no_entries : bag.starmapCampaignIdDict.objects = [] := by
    refine List.eq_nil_iff_forall_not_mem.mpr fun entry entry_mem => ?_
    have listed := (kept.noted.mirrored entry.1).mp (by rw [Keyed.get_of_mem entry_mem]; rfl)
    rw [noCampaigns] at listed
    cases listed
  have dict_eq : bag.starmapCampaignIdDict = .empty := Keyed.ext no_entries
  obtain ⟨pve, pvp, campaigns, dict⟩ := bag
  dsimp only at dict_eq noCampaigns
  subst dict_eq noCampaigns
  simp only [FightReportBag.serialize, FightReportBag.deserialize, Keyed.ofList_objects]
  rfl

theorem Kept.sound (kept : Kept bag) : Sound bag where
  once := kept.noted.nodup
  keys key := by
    rw [Dict.mem_keys_iff, Dict.lookup, Option.isSome_map, kept.noted.mirrored, List.mem_map]
    exact exists_congr fun id => and_congr_right fun _ => eq_comm
  pve id := by simpa using (kept.pve.mirrored id).symm
  pvp id := by simpa using (kept.pvp.mirrored id).symm
  pve_length := kept.pve.length.trans (Nat.le_succ _)
  pvp_length := kept.pvp.length.trans (Nat.le_succ _)
  campaign_length := kept.noted.length

/-- The player, and the document that was saved last. -/
structure KeptWorld (world : World Content) : Prop where
  bag : Kept world.bag
  saved : ∀ data ∈ world.saved, Faithful data

theorem addStarmapReport_frame (campaignId : ℕ) (bag : FightReportBag Content) :
    (bag.addStarmapReport campaignId).pve = bag.pve ∧
      (bag.addStarmapReport campaignId).pvp = bag.pvp := by
  unfold FightReportBag.addStarmapReport
  split <;> exact ⟨rfl, rfl⟩

theorem KeptWorld.step {world : World Content} (kept : KeptWorld world) (event : Event Content)
    (allowed : Allowed world event) : KeptWorld (world.step event) := by
  obtain ⟨⟨pve, pvp, noted⟩, saved⟩ := kept
  cases event with
  | addFightPveReport report =>
      cases report with
      | none => exact ⟨⟨pve, pvp, noted⟩, saved⟩
      | some report => exact ⟨⟨pve.add (allowed report rfl), pvp, noted⟩, saved⟩
  | addFightPvpReport report =>
      cases report with
      | none => exact ⟨⟨pve, pvp, noted⟩, saved⟩
      | some report => exact ⟨⟨pve, pvp.add (allowed report rfl), noted⟩, saved⟩
  | addStarmapReport campaignId =>
      obtain ⟨pve_eq, pvp_eq⟩ := addStarmapReport_frame campaignId world.bag
      refine ⟨⟨?_, ?_, noted.add campaignId⟩, saved⟩
      · exact pve_eq ▸ pve
      · exact pvp_eq ▸ pvp
  | save =>
      refine ⟨⟨pve, pvp, noted⟩, ?_⟩
      rintro _ ⟨⟩
      exact ⟨world.bag, ⟨pve, pvp, noted⟩, rfl⟩
  | reload =>
      refine ⟨?_, saved⟩
      rw [World.step]
      dsimp only
      cases saved_eq : world.saved with
      | none => exact kept_new
      | some data =>
          obtain ⟨bag, kept, rfl⟩ := saved data saved_eq
          rw [Option.map_some, Option.getD_some, deserialize_serialize kept (allowed _ saved_eq)]
          exact kept

end Step

/-- In every run without repeated ids and without loading campaigns the bag is sound. -/
theorem sound_run (events : List (Event Content))
    (allowed : machine.Allowed Allowed World.new events) :
    Sound (machine.run World.new events).1.bag := by
  have start : KeptWorld (World.new : World Content) :=
    ⟨kept_new, fun _ none => by cases none⟩
  have kept := machine.holds_run KeptWorld (fun _ event kept allowed => kept.step event allowed)
    start allowed
  exact kept.bag.sound

/-- Two reports and a campaign; the document has no campaign yet. -/
def savedRun : List (Event Unit) :=
  [.addFightPveReport (some ⟨1, ()⟩), .save, .reload, .addFightPvpReport (some ⟨2, ()⟩),
    .addStarmapReport 5]

theorem sound_savedRun : Sound (machine.run World.new savedRun).1.bag :=
  sound_run savedRun (by decide)

/-- A campaign is noted, saved, loaded and noted again. -/
def notedTwiceRun : List (Event Unit) :=
  [.addStarmapReport 5, .save, .reload, .addStarmapReport 5]

theorem not_sound_notedTwiceRun :
    ¬ ∀ events : List (Event Unit), Sound (machine.run World.new events).1.bag := by
  intro sound
  exact absurd (sound notedTwiceRun).once (by decide)

end BasWar.FightReports
