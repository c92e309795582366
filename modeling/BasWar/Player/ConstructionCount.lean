import BasWar.Tables.Journal
import BasWar.Tables.Documents

/-!
# The construction degree of a base

The degree is the sum of the construction of all buildings but the mess.  It is kept in
`constructionCount`, which is filled when it is asked for while it is zero, counted anew when a
building goes, and adjusted when one has levelled up.  A new building is not added to it, and an
adjustment before the first filling passes for the whole degree.
-/

namespace BasWar.ConstructionCounts

open Tables

def buildTypeMess : ℕ := 8

/-- A row of `buildConfig`. -/
structure BuildCfg where
  type : ℕ
  construction : ℤ

/-- `getBuildCfg`, by kind, quality and level. -/
abbrev BuildCfgs : Type := ℕ → ℕ → ℕ → Option BuildCfg

/-- A building with its row.  One that is levelling up has a row for its next level. -/
structure Build (getBuildCfg : BuildCfgs) where
  id : ℕ
  cfgId : ℕ
  quality : ℕ
  level : ℕ
  nextTick : ℕ
  cfg : BuildCfg
  cfg_eq : getBuildCfg cfgId quality level = some cfg
  next : 0 < nextTick → (getBuildCfg cfgId quality (level + 1)).isSome

variable {getBuildCfg : BuildCfgs}

structure BuildBag (getBuildCfg : BuildCfgs) where
  builds : Keyed (Build.id : Build getBuildCfg → ℕ)
  constructionCount : ℤ

def BuildCfg.degree (cfg : BuildCfg) : ℤ :=
  if cfg.type = buildTypeMess then 0 else cfg.construction

/-- The row of the next level. -/
def Build.nextCfg (build : Build getBuildCfg) : Option BuildCfg :=
  getBuildCfg build.cfgId build.quality (build.level + 1)

/-- The building with its next level; without a row `refreshConfig` raises. -/
def Build.levelUp (build : Build getBuildCfg) : Build getBuildCfg :=
  match cfg_eq : getBuildCfg build.cfgId build.quality (build.level + 1) with
  | none => build
  | some cfg =>
      { build with
        level := build.level + 1
        nextTick := 0
        cfg := cfg
        cfg_eq := cfg_eq
        next := fun pos => absurd pos (Nat.lt_irrefl 0) }

namespace BuildBag

def updateConstructionCount (bag : BuildBag getBuildCfg) : BuildBag getBuildCfg :=
  { bag with
    constructionCount := bag.builds.objects.foldl (fun constructionCount build =>
      if build.cfg.type ≠ buildTypeMess then constructionCount + build.cfg.construction
      else constructionCount) 0 }

def addConstructionCount (cfgId quality level : ℕ) (bag : BuildBag getBuildCfg) :
    BuildBag getBuildCfg :=
  match getBuildCfg cfgId quality level, getBuildCfg cfgId quality (level - 1) with
  | some newBuildCfg, some oldBuildCfg =>
      { bag with
        constructionCount := bag.constructionCount - oldBuildCfg.construction +
          newBuildCfg.construction }
  | _, _ => bag

def constructionCountEnough (construction : ℤ) (bag : BuildBag getBuildCfg) :
    BuildBag getBuildCfg × Bool :=
  let bag := if bag.constructionCount = 0 then bag.updateConstructionCount else bag
  (bag, decide (construction ≤ bag.constructionCount))

def addBuild (build : Build getBuildCfg) (bag : BuildBag getBuildCfg) : BuildBag getBuildCfg :=
  { bag with builds := bag.builds.set build }

def delBuild (id : ℕ) (bag : BuildBag getBuildCfg) : BuildBag getBuildCfg :=
  match bag.builds.get id with
  | none => bag
  | some _ => updateConstructionCount { bag with builds := bag.builds.erase id }

/-- `setNextTick` at the end of `levelUpBuild`, which has found a row for the next level. -/
def setNextTick (id nextTick : ℕ) (bag : BuildBag getBuildCfg) : BuildBag getBuildCfg :=
  match bag.builds.get id with
  | none => bag
  | some build =>
      if next : (getBuildCfg build.cfgId build.quality (build.level + 1)).isSome then
        let waiting : Build getBuildCfg :=
          { build with nextTick := nextTick, next := fun _ => next }
        { bag with builds := bag.builds.put waiting }
      else bag

/-- The building has levelled up by now. -/
def Due (now : ℕ) (build : Build getBuildCfg) : Prop :=
  0 < build.nextTick ∧ build.nextTick ≤ now
  deriving Decidable

def checkLevelUp (id now : ℕ) (bag : BuildBag getBuildCfg) : BuildBag getBuildCfg :=
  match bag.builds.get id with
  | none => bag
  | some build =>
      if Due now build then
        addConstructionCount build.cfgId build.quality (build.level + 1)
          { bag with builds := bag.builds.put build.levelUp }
      else bag

end BuildBag

inductive Event (getBuildCfg : BuildCfgs)
  | addBuild (build : Build getBuildCfg)
  | delBuild (id : ℕ)
  | setNextTick (id nextTick : ℕ)
  | checkLevelUp (id now : ℕ)
  | constructionCountEnough (construction : ℤ)

def BuildBag.step (bag : BuildBag getBuildCfg) : Event getBuildCfg → BuildBag getBuildCfg
  | .addBuild build => bag.addBuild build
  | .delBuild id => bag.delBuild id
  | .setNextTick id nextTick => bag.setNextTick id nextTick
  | .checkLevelUp id now => bag.checkLevelUp id now
  | .constructionCountEnough construction => (bag.constructionCountEnough construction).1

def machine (getBuildCfg : BuildCfgs) :
    Machine (BuildBag getBuildCfg) (Event getBuildCfg) Empty where
  step bag event := (bag.step event, [])

namespace BuildBag

def degree (bag : BuildBag getBuildCfg) : ℤ :=
  (bag.builds.objects.map fun build => build.cfg.degree).sum

/-- The number that `constructionCountEnough` compares is the degree. -/
def Right (bag : BuildBag getBuildCfg) : Prop :=
  ∀ construction, (bag.constructionCountEnough construction).1.constructionCount = bag.degree ∧
    ((bag.constructionCountEnough construction).2 = true ↔ construction ≤ bag.degree)

end BuildBag

/-- A building is added before the count is filled, unless it makes no difference, and one levels up
only when the count is the degree, unless its construction stays the same. -/
def Allowed (bag : BuildBag getBuildCfg) : Event getBuildCfg → Prop
  | .addBuild build => bag.constructionCount = 0 ∨
      build.cfg.degree = ((bag.builds.get build.id).map (·.cfg.degree)).getD 0
  | .checkLevelUp id now => ∀ build ∈ bag.builds.get id, BuildBag.Due now build →
      ∀ cfg ∈ build.nextCfg,
        cfg.degree - build.cfg.degree = cfg.construction - build.cfg.construction ∧
          (bag.constructionCount = bag.degree ∨ cfg.construction = build.cfg.construction)
  | .delBuild _ | .setNextTick _ _ | .constructionCountEnough _ => True

instance (bag : BuildBag getBuildCfg) (event : Event getBuildCfg) :
    Decidable (Allowed bag event) := by
  unfold Allowed
  induction event using Event.casesOn <;> dsimp only <;> infer_instance

namespace BuildBag

variable {bag : BuildBag getBuildCfg}

def Filled (bag : BuildBag getBuildCfg) : Prop :=
  bag.constructionCount = 0 ∨ bag.constructionCount = bag.degree

theorem updateConstructionCount_eq (bag : BuildBag getBuildCfg) :
    bag.updateConstructionCount.constructionCount = bag.degree := by
  have loop : ∀ (builds : List (Build getBuildCfg)) (count : ℤ),
      builds.foldl (fun constructionCount build =>
        if build.cfg.type ≠ buildTypeMess then constructionCount + build.cfg.construction
        else constructionCount) count =
        count + (builds.map fun build => build.cfg.degree).sum := by
    intro builds
    induction builds with
    | nil => simp
    | cons build builds ih =>
        intro count
        rw [List.foldl_cons, ih, List.map_cons, List.sum_cons, BuildCfg.degree]
        by_cases mess : build.cfg.type = buildTypeMess
        · simp [mess]
        · simp [mess, add_assoc]
  exact (loop _ 0).trans (zero_add _)

theorem Filled.right (filled : bag.Filled) : bag.Right := by
  intro construction
  have compared : (bag.constructionCountEnough construction).1.constructionCount = bag.degree := by
    unfold constructionCountEnough
    dsimp only
    split
    next => exact bag.updateConstructionCount_eq
    next nonzero => exact filled.resolve_left nonzero
  refine ⟨compared, ?_⟩
  rw [← compared]
  exact decide_eq_true_iff

theorem filled_addBuild (filled : bag.Filled) {build : Build getBuildCfg}
    (allowed : Allowed bag (.addBuild build)) : (bag.addBuild build).Filled := by
  obtain empty | same := allowed
  · exact .inl empty
  · refine filled.imp_right fun full => ?_
    have sum_eq : (bag.addBuild build).degree +
        ((bag.builds.get build.id).map (·.cfg.degree)).getD 0 = bag.degree + build.cfg.degree :=
      Keyed.sum_set fun build : Build getBuildCfg => build.cfg.degree
    rw [← same] at sum_eq
    exact full.trans (add_right_cancel sum_eq).symm

theorem filled_delBuild (filled : bag.Filled) (id : ℕ) : (bag.delBuild id).Filled := by
  unfold delBuild
  split
  next => exact filled
  next => exact .inr (updateConstructionCount_eq _)

theorem degree_put {build : Build getBuildCfg} (new : Build getBuildCfg)
    (found : bag.builds.get new.id = some build) :
    degree { bag with builds := bag.builds.put new } = bag.degree - build.cfg.degree +
      new.cfg.degree := by
  obtain ⟨build_mem, same⟩ := Keyed.get_mem found
  have sum_eq := Keyed.sum_put (fun build : Build getBuildCfg => build.cfg.degree) build_mem same
  unfold degree
  dsimp only at sum_eq ⊢
  omega

theorem filled_setNextTick (filled : bag.Filled) (id nextTick : ℕ) :
    (bag.setNextTick id nextTick).Filled := by
  unfold setNextTick
  split
  next => exact filled
  next build found =>
    split
    next next =>
      obtain ⟨-, rfl⟩ := Keyed.get_mem found
      let waiting : Build getBuildCfg := { build with nextTick := nextTick, next := fun _ => next }
      have degree_eq := (degree_put waiting found).trans (sub_add_cancel _ _)
      exact filled.imp_right fun full => full.trans degree_eq.symm
    next => exact filled

theorem levelUp_spec {build : Build getBuildCfg} {now : ℕ} (due : Due now build) :
    ∃ cfg, build.nextCfg = some cfg ∧ build.levelUp.id = build.id ∧ build.levelUp.cfg = cfg := by
  obtain ⟨cfg, cfg_eq⟩ := Option.isSome_iff_exists.mp (build.next due.1)
  refine ⟨cfg, cfg_eq, ?_⟩
  unfold Build.levelUp
  split
  next none_eq => exact absurd (none_eq.symm.trans cfg_eq) nofun
  next found => exact ⟨rfl, Option.some.inj (found.symm.trans cfg_eq)⟩

theorem filled_checkLevelUp (filled : bag.Filled) {id now : ℕ}
    (allowed : Allowed bag (.checkLevelUp id now)) : (bag.checkLevelUp id now).Filled := by
  unfold checkLevelUp
  split
  next => exact filled
  next build found =>
    split
    next due =>
      obtain ⟨cfg, cfg_eq, id_eq, new_eq⟩ := levelUp_spec due
      obtain ⟨differs, counted⟩ := allowed build found due cfg cfg_eq
      obtain ⟨-, rfl⟩ := Keyed.get_mem found
      have row_eq : getBuildCfg build.cfgId build.quality (build.level + 1) = some cfg := cfg_eq
      have degree_eq := degree_put build.levelUp (id_eq ▸ found)
      rw [new_eq] at degree_eq
      unfold addConstructionCount
      rw [row_eq, Nat.add_sub_cancel, build.cfg_eq]
      obtain full | same := counted
      · refine .inr (Eq.trans ?_ degree_eq.symm)
        dsimp only
        omega
      · obtain empty | full := filled
        · refine .inl ?_
          dsimp only
          omega
        · refine .inr (Eq.trans ?_ degree_eq.symm)
          dsimp only
          omega
    next => exact filled

theorem filled_constructionCountEnough (filled : bag.Filled) (construction : ℤ) :
    (bag.constructionCountEnough construction).1.Filled := by
  unfold constructionCountEnough
  dsimp only
  split
  next => exact .inr bag.updateConstructionCount_eq
  next => exact filled

theorem Filled.step (filled : bag.Filled) (event : Event getBuildCfg)
    (allowed : Allowed bag event) : (bag.step event).Filled := by
  cases event with
  | addBuild build => exact filled_addBuild filled allowed
  | delBuild id => exact filled_delBuild filled id
  | setNextTick id nextTick => exact filled_setNextTick filled id nextTick
  | checkLevelUp id now => exact filled_checkLevelUp filled allowed
  | constructionCountEnough construction => exact filled_constructionCountEnough filled construction

def loaded (builds : Keyed (Build.id : Build getBuildCfg → ℕ)) : BuildBag getBuildCfg :=
  ⟨builds, 0⟩

end BuildBag

/-- After every allowed run from a loaded base, the number that is compared is the degree. -/
theorem right_run (getBuildCfg : BuildCfgs) (builds : Keyed (Build.id : Build getBuildCfg → ℕ))
    (events : List (Event getBuildCfg))
    (allowed : (machine getBuildCfg).Allowed Allowed (.loaded builds) events) :
    ((machine getBuildCfg).run (.loaded builds) events).1.Right :=
  ((machine getBuildCfg).holds_run BuildBag.Filled
    (fun _ event filled allowed => filled.step event allowed) (.inl rfl) allowed).right

def sampleCfgs : BuildCfgs := fun _ _ level => some ⟨1, 10 * level⟩

def sampleBuild (id : ℕ) : Build sampleCfgs where
  id := id
  cfgId := 1
  quality := 1
  level := 1
  nextTick := 0
  cfg := ⟨1, 10⟩
  cfg_eq := rfl
  next := fun _ => rfl

/-- The count is filled before the building levels up. -/
def filledRun : List (Event sampleCfgs) :=
  [.addBuild (sampleBuild 1), .constructionCountEnough 5, .setNextTick 1 100, .checkLevelUp 1 100,
    .delBuild 2]

theorem right_filledRun :
    ((machine sampleCfgs).run (.loaded .empty) filledRun).1.Right :=
  right_run sampleCfgs .empty filledRun (by decide)

/-- A second building is added after the count is filled. -/
def addedRun : List (Event sampleCfgs) :=
  [.addBuild (sampleBuild 1), .constructionCountEnough 5, .addBuild (sampleBuild 2)]

theorem not_right_addedRun :
    ¬ ∀ getBuildCfg builds events,
      ((machine getBuildCfg).run (.loaded builds) events).1.Right := by
  intro right
  exact absurd (right sampleCfgs .empty addedRun 15).1 (by decide)

end BasWar.ConstructionCounts
