import BasWar.Starmap.OwnersKept
import BasWar.Starmap.GridStatusMachine
import Mathlib

/-!
# The start of the star map and its watched runs

The documents of the star map fill its indexes.  From there the indexes and the limits hold in
every watched run.
-/

namespace BasWar.Starmap.Owners

open Cooperative

section Start

variable {settings : MapSettings} {map : StarMap} {doc : Doc}

theorem initDoc_grids (isGrid : settings.isGrid doc.cfgId) (id : ℕ) :
    (StarMap.initDoc settings map doc).grids id =
      if id = doc.cfgId then some (deserialize (settings.row doc.cfgId) map.clock doc)
      else map.grids id := by
  by_cases owned : doc.owner.playerId = 0 <;> by_cases free : doc.owner.unionId = 0 <;>
    cases shared : doc.owner.isPrivate <;>
    simp [StarMap.initDoc, isGrid, owned, free, shared, StarMap.addPlayerGridId,
      StarMap.addUnionGridId, StarMap.setGrid]

theorem mem_initDoc_players (isGrid : settings.isGrid doc.cfgId) {pid : ℕ} (named : pid ≠ 0)
    (id : ℕ) : id ∈ (StarMap.initDoc settings map doc).playerGridIds pid ↔
      (id = doc.cfgId ∧ doc.owner.playerId = pid) ∨ id ∈ map.playerGridIds pid := by
  have players_eq : (StarMap.initDoc settings map doc).playerGridIds pid =
      if pid = doc.owner.playerId then insert doc.cfgId (map.playerGridIds pid)
      else map.playerGridIds pid := by
    by_cases owned : doc.owner.playerId = 0 <;> by_cases free : doc.owner.unionId = 0 <;>
      cases shared : doc.owner.isPrivate <;>
      simp [StarMap.initDoc, isGrid, owned, free, shared, named, StarMap.addPlayerGridId,
        StarMap.addUnionGridId, StarMap.setGrid]
  rw [players_eq]
  by_cases mine : pid = doc.owner.playerId
  · simp [← mine]
  · simp [mine, Ne.symm mine]

theorem mem_initDoc_unions (isGrid : settings.isGrid doc.cfgId) {unionId : ℕ}
    (named : unionId ≠ 0) (id : ℕ) :
    id ∈ (StarMap.initDoc settings map doc).unionGridIds unionId ↔
      (id = doc.cfgId ∧ doc.owner.unionId = unionId ∧ doc.owner.isPrivate = false) ∨
        id ∈ map.unionGridIds unionId := by
  have unions_eq : (StarMap.initDoc settings map doc).unionGridIds unionId =
      if unionId = doc.owner.unionId ∧ doc.owner.isPrivate = false then
        insert doc.cfgId (map.unionGridIds unionId)
      else map.unionGridIds unionId := by
    by_cases owned : doc.owner.playerId = 0 <;> by_cases free : doc.owner.unionId = 0 <;>
      cases shared : doc.owner.isPrivate <;>
      simp [StarMap.initDoc, isGrid, owned, free, shared, named, StarMap.addPlayerGridId,
        StarMap.addUnionGridId, StarMap.setGrid]
  rw [unions_eq]
  by_cases mine : unionId = doc.owner.unionId
  · cases shared : doc.owner.isPrivate <;> simp [← mine]
  · simp [mine, Ne.symm mine]

theorem Indexed.initDoc (indexed : Indexed map) (whole : Owner.Whole doc.owner)
    (absent : map.grids doc.cfgId = none) : Indexed (StarMap.initDoc settings map doc) := by
  by_cases isGrid : settings.isGrid doc.cfgId
  · refine ⟨⟨fun id pid named => ?_, fun id unionId named => ?_⟩, fun id grid found => ?_⟩
    · rw [mem_initDoc_players isGrid named, initDoc_grids isGrid,
        indexed.index.players id pid named]
      by_cases here : id = doc.cfgId
      · subst here
        simp [absent, deserialize]
      · simp [here]
    · rw [mem_initDoc_unions isGrid named, initDoc_grids isGrid,
        indexed.index.unions id unionId named]
      by_cases here : id = doc.cfgId
      · subst here
        simp [absent, deserialize]
      · simp [here]
    · rw [initDoc_grids isGrid] at found
      split at found
      · obtain rfl := Option.some.inj found
        exact whole
      · exact indexed.whole id grid found
  · simpa [StarMap.initDoc, isGrid] using indexed

theorem initDoc_rest : (StarMap.initDoc settings map doc).campaigns = map.campaigns := by
  unfold StarMap.initDoc
  split
  · dsimp only
    split <;> split <;> rfl
  · rfl

theorem indexed_init (settings : MapSettings) {docs : Docs} (whole : docs.Whole) (clock : ℤ) :
    Indexed (StarMap.init settings docs clock) ∧
      (StarMap.init settings docs clock).campaigns = [] := by
  have rounds : ∀ (list : List Doc) (map : StarMap), Indexed map → map.campaigns = [] →
      (list.map (·.cfgId)).Nodup → (∀ doc ∈ list, map.grids doc.cfgId = none) →
        (∀ doc ∈ list, Owner.Whole doc.owner) →
          Indexed (list.foldl (StarMap.initDoc settings) map) ∧
            (list.foldl (StarMap.initDoc settings) map).campaigns = [] := by
    intro list
    induction list with
    | nil => exact fun _ indexed quiet _ _ _ => ⟨indexed, quiet⟩
    | cons doc list ih =>
        intro map indexed quiet unique absent whole
        obtain ⟨new, unique⟩ := List.nodup_cons.mp unique
        refine ih _ (indexed.initDoc (whole doc (by simp)) (absent doc (by simp)))
          (initDoc_rest.trans quiet) unique (fun other mem => ?_)
          fun other mem => whole other (List.mem_cons_of_mem _ mem)
        have away : other.cfgId ≠ doc.cfgId := fun same =>
          new (List.mem_map.mpr ⟨other, mem, same⟩)
        by_cases isGrid : settings.isGrid doc.cfgId
        · rw [initDoc_grids isGrid, if_neg away]
          exact absent other (List.mem_cons_of_mem _ mem)
        · simpa [StarMap.initDoc, isGrid] using absent other (List.mem_cons_of_mem _ mem)
  have start : Indexed (StarMap.empty clock) :=
    ⟨⟨by simp [StarMap.empty], by simp [StarMap.empty]⟩, nofun⟩
  exact rounds docs.docs (.empty clock) start rfl docs.unique (fun _ _ => rfl) whole

theorem holds_start {limits : Option Limits} {docs : Docs} (whole : docs.Whole) (clock : ℤ)
    (capped : Capped settings limits (StarMap.init settings docs clock)) :
    (indexPool settings limits).Holds (starmapStart settings docs clock) := by
  obtain ⟨indexed, quiet⟩ := indexed_init settings whole clock
  refine ⟨⟨indexed, capped, fun campaign mem => ?_⟩, nofun, .nil⟩
  have mem_init : campaign ∈ (StarMap.init settings docs clock).campaigns := mem
  rw [quiet] at mem_init
  exact nomatch mem_init

end Start

theorem indexPool_kept_atOnce (settings : MapSettings) :
    (indexPool settings none).KeptBy (starmapService settings) (atOnce settings) where
  accept request _ _ holds allows := by
    refine (indexPool_kept settings none).accept request _ _ holds ⟨allows, ?_⟩
    split
    · rintro _ ⟨⟩
    · trivial
  resume task reply _ _ holds tracks apart allows := by
    refine (indexPool_kept settings none).resume task reply _ _ holds tracks apart ⟨allows, ?_⟩
    split
    · rintro _ ⟨⟩
    · rintro _ ⟨⟩
    · trivial

/-- The indexes agree with the owners in every run in which no change of owner waits for the node
of the old owner. -/
theorem ownerIndex_run (settings : MapSettings) (docs : Docs) (whole : docs.Whole) (clock : ℤ)
    (events : List (Event Request Reply))
    (admits : (atOnce settings).Admits (starmapService settings)
      (starmapStart settings docs clock) events) :
    OwnerIndex ((starmapService settings).run (starmapStart settings docs clock) events).state :=
  ((indexPool_kept_atOnce settings).holds_run admits
    (holds_start whole clock nofun)).shared.indexed.index

/-- Player 7 wins a grid that nobody had. -/
theorem ownerIndex_wonRun :
    ((starmapService sampleMap).run (starmapStart sampleMap sampleDocs 1000)
        wonRun).state.playerGridIds 7 = {1} ∧
      OwnerIndex
        ((starmapService sampleMap).run (starmapStart sampleMap sampleDocs 1000) wonRun).state :=
  ⟨by decide +kernel, ownerIndex_run sampleMap sampleDocs (by decide) 1000 wonRun
    (by decide +kernel)⟩

/-- Grid 2 is for unions, which may have one grid. -/
def sharedMap : MapSettings where
  isGrid cfgId := cfgId = 1 ∨ cfgId = 2
  row cfgId := { sampleMap.row cfgId with belongType := if cfgId = 2 then .union else .self }
  protectTime_nonneg := sampleMap.protectTime_nonneg
  campaignTime _ := 300
  gridUnionMax := 1
  gridPlayerMax _ := 2

def unionDocs : Docs := ⟨[⟨2, ⟨8, 5, false⟩, [], .idle, 0, 0⟩], by decide⟩

theorem nine_ne_zero : 9 ≠ 0 := by decide

/-- The season ends while player 9 wins grid 2; both changes of owner wait for player 8. -/
def clearedRun : List (Event Request Reply) :=
  [.request (.startBattle 2 ⟨⟨9, 6, nine_ne_zero⟩, .self, 0⟩), .request (.checkBattleStart 0 []),
    .request (.doMatchSeasonEndClear 2), .reply 0 (.battle .win []), .reply 1 (.node true),
    .reply 1 .done, .reply 0 .done, .reply 0 (.node true), .reply 0 (.node true)]

/-- In the end player 9 is listed for a grid that nobody owns. -/
theorem not_ownerIndex_clearedRun :
    ¬ OwnerIndex
      ((starmapService sharedMap).run
        (starmapStart sharedMap unionDocs 1000) clearedRun).state := by
  intro index
  have listed : 2 ∈ ((starmapService sharedMap).run (starmapStart sharedMap unionDocs 1000)
      clearedRun).state.playerGridIds 9 := by decide +kernel
  have nobody : (((starmapService sharedMap).run (starmapStart sharedMap unionDocs 1000)
      clearedRun).state.grids 2).map (·.owner.playerId) = some 0 := by decide +kernel
  obtain ⟨grid, found, owner_eq⟩ := (index.players 2 9 (by decide)).mp listed
  rw [found, Option.map_some, owner_eq] at nobody
  exact absurd nobody (by decide)

/-- Nobody has more grids than allowed in any run in which no change of owner waits for the node of
the old owner, VIP levels stay as they are, and there is room for a gift and for a winner whose node
has been found. -/
theorem withinCaps_run (settings : MapSettings) (limits : Limits) (docs : Docs)
    (whole : docs.Whole) (clock : ℤ)
    (start : WithinCaps settings limits (starmapStart settings docs clock).state)
    (events : List (Event Request Reply))
    (admits : (watched settings (some limits)).Admits (starmapService settings)
      (starmapStart settings docs clock) events) :
    WithinCaps settings limits
      ((starmapService settings).run (starmapStart settings docs clock) events).state := by
  have capped := (withinCaps_iff (indexed_init settings whole clock).1.index).mp start
  have holds := (indexPool_kept settings (some limits)).holds_run admits
    (holds_start whole clock capped)
  exact (withinCaps_iff holds.shared.indexed.index).mpr holds.shared.capped

def sampleLimits : Limits := ⟨fun _ => 2⟩

/-- Player 7 wins a grid and may have it. -/
theorem withinCaps_wonRun :
    ((starmapService sampleMap).run (starmapStart sampleMap sampleDocs 1000)
        wonRun).state.getPlayerGridCount 7 = 1 ∧
      WithinCaps sampleMap sampleLimits
        ((starmapService sampleMap).run (starmapStart sampleMap sampleDocs 1000) wonRun).state := by
  have nothing : ∀ owned : Finset ℕ, (∀ cfgId ∈ owned, ∃ grid,
      (starmapStart sampleMap sampleDocs 1000).state.grids cfgId = some grid) → owned = ∅ := by
    intro owned owns
    refine Finset.eq_empty_of_forall_notMem fun cfgId mem => ?_
    obtain ⟨grid, found⟩ := owns cfgId mem
    exact nomatch found
  refine ⟨by decide +kernel, withinCaps_run sampleMap sampleLimits sampleDocs (by decide) 1000
    ⟨fun pid _ owned owns => ?_, fun unionId _ owned owns => ?_⟩ wonRun (by decide +kernel)⟩
  · rw [nothing owned fun cfgId mem => (owns cfgId mem).imp fun _ held => held.1]
    simp
  · rw [nothing owned fun cfgId mem => (owns cfgId mem).imp fun _ held => held.1]
    simp

def fullDocs : Docs :=
  ⟨[⟨1, ⟨7, 5, true⟩, [], .idle, 0, 0⟩, ⟨2, ⟨8, 5, false⟩, [], .idle, 0, 0⟩], by decide⟩

/-- Player 7 gives grid 1 to player 10 of the same union. -/
def fullRun : List (Event Request Reply) :=
  [.request (.giftWithMyGrid 7 1 10), .reply 0 (.member (some ⟨10, 5, by decide⟩)),
    .reply 0 (.node true), .reply 0 (.node true)]

/-- Union 5, which may have one grid, has two. -/
theorem not_withinCaps_fullRun :
    WithinCaps sharedMap sampleLimits (starmapStart sharedMap fullDocs 1000).state ∧
      ¬ WithinCaps sharedMap sampleLimits
        ((starmapService sharedMap).run (starmapStart sharedMap fullDocs 1000) fullRun).state := by
  constructor
  · have grids_eq : ∀ id, (starmapStart sharedMap fullDocs 1000).state.grids id =
        if id = 2 then
          some (deserialize (sharedMap.row 2) 1000 ⟨2, ⟨8, 5, false⟩, [], .idle, 0, 0⟩)
        else if id = 1 then
          some (deserialize (sharedMap.row 1) 1000 ⟨1, ⟨7, 5, true⟩, [], .idle, 0, 0⟩)
        else none := fun _ => rfl
    have alone : ∀ {owned : Finset ℕ} (cfgId : ℕ), (∀ id ∈ owned, id = cfgId) → owned.card ≤ 1 :=
      fun cfgId only => Finset.card_le_one.mpr fun first first_mem second second_mem =>
        (only first first_mem).trans (only second second_mem).symm
    constructor
    · intro pid _ owned owns
      refine (alone 1 fun id mem => ?_).trans (Nat.le_succ 1)
      obtain ⟨grid, found, _, privately⟩ := owns id mem
      rw [grids_eq] at found
      split at found
      · obtain rfl := Option.some.inj found
        exact nomatch privately
      · split at found
        · assumption
        · exact nomatch found
    · intro unionId _ owned owns
      refine alone 2 fun id mem => ?_
      obtain ⟨grid, found, _, shared⟩ := owns id mem
      rw [grids_eq] at found
      split at found
      · assumption
      · split at found
        · obtain rfl := Option.some.inj found
          exact nomatch shared
        · exact nomatch found
  · intro within
    have owners : ∀ cfgId ∈ ({1, 2} : Finset ℕ), (((starmapService sharedMap).run
        (starmapStart sharedMap fullDocs 1000) fullRun).state.grids cfgId).any
          (fun grid => grid.owner.unionId = 5 ∧ grid.owner.isPrivate = false) := by decide +kernel
    have count := within.unions 5 (by decide) {1, 2} fun cfgId mem => by
      simpa [Option.any_eq_true] using owners cfgId mem
    exact absurd count (by decide)

end BasWar.Starmap.Owners
