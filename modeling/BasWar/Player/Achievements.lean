import BasWar.Tables.Documents
import BasWar.Tables.Journal
import Mathlib.Algebra.Order.Ring.Int

/-!
# Achievements

Achievements come in chains of stages with rising targets.  A player has one object for each chain,
which counts, and which is replaced by the one of the next stage when its reward is drawn.  A
request names a stage, and is only asked whether the count has reached the target of that stage: a
stage that is passed can be drawn again.
-/

namespace BasWar.Achievements

open Tables

/-- A row of the table of achievements.  The last stage has no next index: 0. -/
structure AchievementCfg where
  index : ℕ
  cfgId : ℕ
  targetValue : ℤ
  showStar : ℕ
  nextIndex : ℕ
  mit : ℤ

def getAchievementCfg (rows : Keyed AchievementCfg.index) (index : ℕ) : Option AchievementCfg :=
  if index = 0 then none else rows.get index

/-- Stages that are linked by `nextIndex`, with rising targets. -/
structure Chains where
  rows : Keyed AchievementCfg.index
  rising : ∀ row ∈ rows.objects, ∀ next, getAchievementCfg rows row.nextIndex = some next →
    next.cfgId = row.cfgId ∧ row.targetValue < next.targetValue

structure Achievement where
  index : ℕ
  cfgId : ℕ
  value : ℤ
  drawed : Bool

abbrev AchievementBag : Type := Keyed Achievement.cfgId

/-- A reward that was drawn, with the object of its chain before and after. -/
structure Credit where
  index : ℕ
  mit : ℤ
  before : Achievement
  after : Achievement

/-- A player with the rewards that are in the resource bag. -/
structure Player where
  achievements : AchievementBag
  credited : List Credit

structure Data where
  achievements : List Achievement
  credited : List Credit

/-- What `updateAchievement` does with the value. -/
inductive UpdateKind
  | setValue
  /-- Sets a value that is larger. -/
  | setLarger
  | addValue
  /-- Reaches the target, once, with a value that does not exceed it. -/
  | inTime

/-- The branches of `updateAchievement`. -/
def updateKind (cfgId : ℕ) : Option UpdateKind :=
  if cfgId = 1 then some .setValue
  else if cfgId = 9 ∨ cfgId = 11 ∨ cfgId = 12 then some .setLarger
  else if cfgId = 30 then some .inTime
  else if 1 < cfgId ∧ cfgId ≤ 31 then some .addValue
  else none

namespace Achievement

def setValue (cfgInfo : AchievementCfg) (value : ℤ) (self : Achievement) : Achievement :=
  if cfgInfo.targetValue ≤ self.value then self
  else { self with value := min value cfgInfo.targetValue }

def addValue (cfgInfo : AchievementCfg) (value : ℤ) (self : Achievement) : Achievement :=
  if cfgInfo.targetValue ≤ self.value then self
  else { self with value := min cfgInfo.targetValue (self.value + value) }

def update (kind : UpdateKind) (cfgInfo : AchievementCfg) (value : ℤ) (self : Achievement) :
    Achievement :=
  match kind with
  | .setValue => self.setValue cfgInfo value
  | .setLarger => if value ≤ self.value then self else self.setValue cfgInfo value
  | .addValue => self.addValue cfgInfo value
  | .inTime =>
      if cfgInfo.targetValue < value then self
      else if self.value ≠ 0 ∧ self.value ≤ cfgInfo.targetValue then self
      else { self with value := cfgInfo.targetValue }

end Achievement

namespace AchievementBag

def init (rows : List AchievementCfg) (bag : AchievementBag) : AchievementBag :=
  rows.foldl (fun bag row =>
    if row.showStar = 1 ∧ bag.get row.cfgId = none then bag.set ⟨row.index, row.cfgId, 0, false⟩
    else bag) bag

def updateAchievement (chains : Chains) (cfgId : ℕ) (value : ℤ) (bag : AchievementBag) :
    AchievementBag :=
  match bag.get cfgId with
  | none => bag
  | some achievement =>
      match getAchievementCfg chains.rows achievement.index, updateKind cfgId with
      | some cfgInfo, some kind => bag.set (achievement.update kind cfgInfo value)
      | _, _ => bag

/-- What takes the place of an achievement whose reward is drawn. -/
def successor (chains : Chains) (cfgInfo : AchievementCfg) (achievement : Achievement) :
    Achievement :=
  match getAchievementCfg chains.rows cfgInfo.nextIndex with
  | none => { achievement with drawed := true }
  | some nextCfgInfo =>
      -- `assert` raises once the reward has been added.
      if nextCfgInfo.cfgId = cfgInfo.cfgId then
        ⟨cfgInfo.nextIndex, cfgInfo.cfgId, achievement.value, false⟩
      else achievement

end AchievementBag

namespace Player

def drawAchievement (chains : Chains) (index : ℕ) (player : Player) : Player :=
  match getAchievementCfg chains.rows index with
  | none => player
  | some cfgInfo =>
      match player.achievements.get cfgInfo.cfgId with
      | none => player
      | some achievement =>
          if achievement.value < cfgInfo.targetValue then player
          else if achievement.drawed = true then player
          else
            let after := AchievementBag.successor chains cfgInfo achievement
            { achievements := player.achievements.set after
              credited := player.credited ++ [⟨index, cfgInfo.mit, achievement, after⟩] }

def serialize (player : Player) : Data where
  achievements := player.achievements.objects
  credited := player.credited

/-- `deserialize`, and then `init` in `onload`. -/
def load (chains : Chains) (data : Data) : Player where
  achievements := AchievementBag.init chains.rows.objects (.ofList data.achievements)
  credited := data.credited

def new (chains : Chains) : Player :=
  load chains ⟨[], []⟩

end Player

/-- A player with the document that was saved last. -/
structure World where
  player : Player
  saved : Data

inductive Event
  | updateAchievement (cfgId : ℕ) (value : ℤ)
  | drawAchievement (index : ℕ)
  | save
  | reload

def World.new (chains : Chains) : World := ⟨.new chains, ⟨[], []⟩⟩

def World.step (chains : Chains) (world : World) : Event → World
  | .updateAchievement cfgId value =>
      { world with
        player := { world.player with
          achievements :=
            AchievementBag.updateAchievement chains cfgId value world.player.achievements } }
  | .drawAchievement index => { world with player := world.player.drawAchievement chains index }
  | .save => { world with saved := world.player.serialize }
  | .reload => { world with player := .load chains world.saved }

def machine (chains : Chains) : Machine World Event Empty where
  step world event := (world.step chains event, [])

/-- No stage is paid twice, and every stage is paid when it is the current one and its target is
reached; the count goes on. -/
structure InOrder (chains : Chains) (player : Player) : Prop where
  once : (player.credited.map (·.index)).Nodup
  paid : ∀ credit ∈ player.credited, ∃ row ∈ getAchievementCfg chains.rows credit.index,
    credit.mit = row.mit ∧ credit.before.index = credit.index ∧
      credit.before.cfgId = row.cfgId ∧ row.targetValue ≤ credit.before.value
  counted : ∀ credit ∈ player.credited, credit.after.value = credit.before.value

/-- A request that would be paid names the current stage. -/
def Allowed (chains : Chains) (world : World) : Event → Prop
  | .drawAchievement index =>
      ∀ row ∈ getAchievementCfg chains.rows index,
        ∀ achievement ∈ world.player.achievements.get row.cfgId,
          row.targetValue ≤ achievement.value → achievement.drawed = false →
            achievement.index = index
  | .updateAchievement _ _ | .save | .reload => True

instance (chains : Chains) (world : World) (event : Event) :
    Decidable (Allowed chains world event) := by
  unfold Allowed
  induction event using Event.casesOn <;> dsimp only <;> infer_instance

section Kept

variable {chains : Chains} {player : Player} {bag : AchievementBag}

/-- A stage is behind the current one of its chain, or is the last one and drawn. -/
def Behind (chains : Chains) (bag : AchievementBag) (index : ℕ) : Prop :=
  ∃ row ∈ getAchievementCfg chains.rows index, ∃ achievement ∈ bag.get row.cfgId,
    (∃ current ∈ getAchievementCfg chains.rows achievement.index,
        row.targetValue < current.targetValue) ∨
      achievement.index = index ∧ achievement.drawed = true

def Staged (chains : Chains) (bag : AchievementBag) : Prop :=
  ∀ achievement ∈ bag.objects, ∀ row ∈ getAchievementCfg chains.rows achievement.index,
    row.cfgId = achievement.cfgId

structure Kept (chains : Chains) (player : Player) : Prop where
  inOrder : InOrder chains player
  staged : Staged chains player.achievements
  behind : ∀ credit ∈ player.credited, Behind chains player.achievements credit.index

variable {index : ℕ} {cfgInfo : AchievementCfg} {achievement : Achievement}

theorem getAchievementCfg_spec {row : AchievementCfg}
    (found : getAchievementCfg chains.rows index = some row) :
    row ∈ chains.rows.objects ∧ row.index = index := by
  unfold getAchievementCfg at found
  split at found
  · contradiction
  · exact Keyed.get_mem found

/-- The object that takes the place of another is on a later stage, or is drawn. -/
structure Succeeds (chains : Chains) (cfgInfo : AchievementCfg) (achievement after : Achievement) :
    Prop where
  cfgId : after.cfgId = cfgInfo.cfgId
  value : after.value = achievement.value
  staged : ∀ row ∈ getAchievementCfg chains.rows after.index, row.cfgId = after.cfgId
  later : (∃ current ∈ getAchievementCfg chains.rows after.index,
      cfgInfo.targetValue < current.targetValue) ∨
    after.index = cfgInfo.index ∧ after.drawed = true

theorem successor_succeeds (found : getAchievementCfg chains.rows cfgInfo.index = some cfgInfo)
    (index_eq : achievement.index = cfgInfo.index) (cfgId_eq : achievement.cfgId = cfgInfo.cfgId) :
    Succeeds chains cfgInfo achievement (AchievementBag.successor chains cfgInfo achievement) := by
  unfold AchievementBag.successor
  split
  next =>
    refine ⟨cfgId_eq, rfl, fun row row_found => ?_, .inr ⟨index_eq, rfl⟩⟩
    dsimp only at row_found ⊢
    rw [index_eq, found] at row_found
    obtain rfl := Option.some.inj row_found
    exact cfgId_eq.symm
  next next next_found =>
    obtain ⟨same, rises⟩ :=
      chains.rising cfgInfo (getAchievementCfg_spec found).1 next next_found
    rw [if_pos same]
    refine ⟨rfl, rfl, fun row row_found => ?_, .inl ⟨next, next_found, rises⟩⟩
    obtain rfl := Option.some.inj (next_found.symm.trans row_found)
    exact same

theorem Staged.set (staged : Staged chains bag)
    (ofChain : ∀ row ∈ getAchievementCfg chains.rows achievement.index,
      row.cfgId = achievement.cfgId) : Staged chains (bag.set achievement) := by
  intro other other_mem
  obtain rfl | old := Keyed.mem_set other_mem
  · exact ofChain
  · exact staged other old

/-- Every object stays on its stage, drawn or not. -/
def SameStages (bag after : AchievementBag) : Prop :=
  ∀ name, ∀ achievement ∈ bag.get name, ∃ other ∈ after.get name,
    other.index = achievement.index ∧ other.drawed = achievement.drawed

theorem Behind.of_same {after : AchievementBag} (behind : Behind chains bag index)
    (same : SameStages bag after) : Behind chains after index := by
  obtain ⟨row, row_found, achievement, found, later⟩ := behind
  obtain ⟨other, other_found, index_eq, drawed_eq⟩ := same row.cfgId achievement found
  rw [← index_eq, ← drawed_eq] at later
  exact ⟨row, row_found, other, other_found, later⟩

theorem Kept.of_same (kept : Kept chains player) {after : AchievementBag}
    (same : SameStages player.achievements after) (staged : Staged chains after) :
    Kept chains { player with achievements := after } where
  inOrder := ⟨kept.inOrder.once, kept.inOrder.paid, kept.inOrder.counted⟩
  staged := staged
  behind credit credit_mem := (kept.behind credit credit_mem).of_same same

theorem Achievement.update_frame (kind : UpdateKind) (cfgInfo : AchievementCfg) (value : ℤ)
    (self : Achievement) : (self.update kind cfgInfo value).index = self.index ∧
      (self.update kind cfgInfo value).cfgId = self.cfgId ∧
        (self.update kind cfgInfo value).drawed = self.drawed := by
  have set_frame : (self.setValue cfgInfo value).index = self.index ∧
      (self.setValue cfgInfo value).cfgId = self.cfgId ∧
        (self.setValue cfgInfo value).drawed = self.drawed := by
    unfold setValue
    split <;> exact ⟨rfl, rfl, rfl⟩
  unfold update
  split
  · exact set_frame
  · split
    · exact ⟨rfl, rfl, rfl⟩
    · exact set_frame
  · unfold addValue
    split <;> exact ⟨rfl, rfl, rfl⟩
  · split
    · exact ⟨rfl, rfl, rfl⟩
    · split <;> exact ⟨rfl, rfl, rfl⟩

theorem kept_updateAchievement (kept : Kept chains player) (cfgId : ℕ) (value : ℤ) :
    Kept chains { player with
      achievements :=
        AchievementBag.updateAchievement chains cfgId value player.achievements } := by
  unfold AchievementBag.updateAchievement
  split
  next => exact kept
  next achievement found =>
    split
    next cfgInfo kind cfg_found _ =>
      obtain ⟨index_eq, cfgId_eq, drawed_eq⟩ := achievement.update_frame kind cfgInfo value
      obtain ⟨achievement_mem, rfl⟩ := Keyed.get_mem found
      refine kept.of_same (fun name other other_found => ?_) (kept.staged.set ?_)
      · rw [Keyed.get_set, cfgId_eq]
        split
        next same =>
          subst same
          obtain rfl := Option.some.inj (found.symm.trans other_found)
          exact ⟨_, rfl, index_eq, drawed_eq⟩
        next => exact ⟨other, other_found, rfl, rfl⟩
      · rw [index_eq, cfgId_eq]
        exact kept.staged achievement achievement_mem
    next => exact kept

theorem init_spec (rows : List AchievementCfg) (rows_sub : ∀ row ∈ rows, row ∈ chains.rows.objects)
    (staged : Staged chains bag) :
    SameStages bag (AchievementBag.init rows bag) ∧
      Staged chains (AchievementBag.init rows bag) := by
  induction rows generalizing bag with
  | nil => exact ⟨fun _ achievement found => ⟨achievement, found, rfl, rfl⟩, staged⟩
  | cons row rows ih =>
      have later := fun other other_mem => rows_sub other (List.mem_cons_of_mem row other_mem)
      rw [AchievementBag.init, List.foldl_cons]
      split
      next absent =>
        have row_mem := rows_sub row List.mem_cons_self
        have staged_set : Staged chains (bag.set ⟨row.index, row.cfgId, 0, false⟩) :=
          staged.set fun other found => by
            obtain ⟨other_mem, index_eq⟩ := getAchievementCfg_spec found
            rw [Keyed.eq_of_key_eq other_mem row_mem index_eq]
        obtain ⟨same, staged_after⟩ := ih later staged_set
        refine ⟨fun name achievement found => ?_, staged_after⟩
        refine same name achievement ?_
        rw [Option.mem_def, Keyed.get_set, if_neg]
        · exact found
        · rintro rfl
          exact (Option.some_ne_none _ (found.symm.trans absent.2)).elim
      next => exact ih later staged

theorem kept_load (kept : Kept chains player) : Kept chains (.load chains player.serialize) := by
  unfold Player.load Player.serialize
  rw [Keyed.ofList_objects]
  obtain ⟨same, staged⟩ := init_spec chains.rows.objects (fun _ row_mem => row_mem) kept.staged
  exact kept.of_same same staged

theorem ne_of_behind (found : bag.get cfgInfo.cfgId = some achievement)
    (current : getAchievementCfg chains.rows achievement.index = some cfgInfo)
    (undrawn : ¬ achievement.drawed = true) (behind : Behind chains bag index) :
    index ≠ achievement.index := by
  rintro rfl
  obtain ⟨row, row_found, other, other_found, later⟩ := behind
  obtain rfl := Option.some.inj (current.symm.trans row_found)
  obtain rfl := Option.some.inj (found.symm.trans other_found)
  obtain ⟨reached, reached_found, rises⟩ | ⟨-, drawn⟩ := later
  · obtain rfl := Option.some.inj (current.symm.trans reached_found)
    exact lt_irrefl _ rises
  · exact undrawn drawn

theorem Behind.drawn {after : Achievement} (behind : Behind chains bag index)
    (found : bag.get cfgInfo.cfgId = some achievement)
    (current : getAchievementCfg chains.rows achievement.index = some cfgInfo)
    (undrawn : ¬ achievement.drawed = true) (succeeds : Succeeds chains cfgInfo achievement after) :
    Behind chains (bag.set after) index := by
  obtain ⟨row, row_found, other, other_found, later⟩ := behind
  refine ⟨row, row_found, ?_⟩
  rw [Keyed.get_set, succeeds.cfgId]
  split
  next same =>
    rw [same] at other_found
    obtain rfl := Option.some.inj (found.symm.trans other_found)
    refine ⟨after, rfl, .inl ?_⟩
    obtain ⟨reached, reached_found, rises⟩ | ⟨-, drawn⟩ := later
    · obtain rfl := Option.some.inj (current.symm.trans reached_found)
      obtain ⟨next, next_found, next_rises⟩ | ⟨index_eq, -⟩ := succeeds.later
      · exact ⟨next, next_found, rises.trans next_rises⟩
      · rw [index_eq, (getAchievementCfg_spec current).2]
        exact ⟨_, current, rises⟩
    · exact absurd drawn undrawn
  next => exact ⟨other, other_found, later⟩

theorem Succeeds.behind {after : Achievement} (succeeds : Succeeds chains cfgInfo achievement after)
    (cfg_found : getAchievementCfg chains.rows cfgInfo.index = some cfgInfo) :
    Behind chains (bag.set after) cfgInfo.index := by
  refine ⟨cfgInfo, cfg_found, after, ?_, succeeds.later⟩
  rw [Option.mem_def, Keyed.get_set, if_pos succeeds.cfgId.symm]

theorem kept_drawAchievement {saved : Data} (kept : Kept chains player)
    (allowed : Allowed chains ⟨player, saved⟩ (.drawAchievement index)) :
    Kept chains (player.drawAchievement chains index) := by
  unfold Player.drawAchievement
  split
  next => exact kept
  next cfgInfo cfg_found =>
    split
    next => exact kept
    next achievement found =>
      split
      next => exact kept
      next reached =>
        split
        next => exact kept
        next undrawn =>
          obtain ⟨-, cfgId_eq⟩ := Keyed.get_mem found
          obtain ⟨-, rfl⟩ := getAchievementCfg_spec cfg_found
          have target : cfgInfo.targetValue ≤ achievement.value := not_lt.mp reached
          have index_eq : achievement.index = cfgInfo.index :=
            allowed cfgInfo cfg_found achievement found target (by simpa using undrawn)
          have current : getAchievementCfg chains.rows achievement.index = some cfgInfo :=
            index_eq ▸ cfg_found
          have succeeds := successor_succeeds cfg_found index_eq cfgId_eq
          obtain ⟨⟨once, paid, counted⟩, staged, behind⟩ := kept
          refine ⟨⟨?_, ?_, ?_⟩, staged.set succeeds.staged, ?_⟩
          · rw [List.map_append, List.map_singleton, ← List.concat_eq_append]
            refine once.concat fun index_mem => ?_
            obtain ⟨credit, credit_mem, same⟩ := List.mem_map.mp index_mem
            exact ne_of_behind found current undrawn (behind credit credit_mem)
              (same.trans index_eq.symm)
          · intro credit credit_mem
            obtain old | new := List.mem_append.mp credit_mem
            · exact paid credit old
            · obtain rfl := List.mem_singleton.mp new
              exact ⟨cfgInfo, cfg_found, rfl, index_eq, cfgId_eq, target⟩
          · intro credit credit_mem
            obtain old | new := List.mem_append.mp credit_mem
            · exact counted credit old
            · obtain rfl := List.mem_singleton.mp new
              exact succeeds.value
          · intro credit credit_mem
            obtain old | new := List.mem_append.mp credit_mem
            · exact (behind credit old).drawn found current undrawn succeeds
            · obtain rfl := List.mem_singleton.mp new
              exact succeeds.behind cfg_found

structure KeptWorld (chains : Chains) (world : World) : Prop where
  player : Kept chains world.player
  saved : ∃ player, Kept chains player ∧ world.saved = player.serialize

theorem keptWorld_new : KeptWorld chains (.new chains) := by
  have empty : Kept chains ⟨.empty, []⟩ :=
    ⟨⟨List.nodup_nil, nofun, nofun⟩, nofun, nofun⟩
  exact ⟨kept_load empty, _, empty, rfl⟩

theorem KeptWorld.step {world : World} (kept : KeptWorld chains world) (event : Event)
    (allowed : Allowed chains world event) : KeptWorld chains (world.step chains event) := by
  obtain ⟨player, saved⟩ := kept
  cases event with
  | updateAchievement cfgId value => exact ⟨kept_updateAchievement player cfgId value, saved⟩
  | drawAchievement index => exact ⟨kept_drawAchievement player allowed, saved⟩
  | save => exact ⟨player, world.player, player, rfl⟩
  | reload =>
      refine ⟨?_, saved⟩
      obtain ⟨last, last_kept, saved_eq⟩ := saved
      rw [World.step, saved_eq]
      exact kept_load last_kept

end Kept

/-- In every run whose paid requests name the current stage, the stages are paid once and in
order. -/
theorem inOrder_run (chains : Chains) (events : List Event)
    (allowed : (machine chains).Allowed (Allowed chains) (.new chains) events) :
    InOrder chains ((machine chains).run (.new chains) events).1.player :=
  ((machine chains).holds_run (KeptWorld chains)
    (fun _ event kept allowed => kept.step event allowed) keptWorld_new allowed).player.inOrder

def sampleChains : Chains where
  rows := ⟨[⟨1, 3, 5, 1, 2, 10⟩, ⟨2, 3, 20, 2, 0, 20⟩], by decide⟩
  rising := by
    intro row row_mem next found
    simp only [List.mem_cons, List.not_mem_nil, or_false] at row_mem
    obtain rfl | rfl := row_mem
    · obtain rfl := Option.some.inj (found.symm.trans rfl)
      decide
    · contradiction

/-- Both stages are drawn in turn, with a save and a reload between them. -/
def inTurnRun : List Event :=
  [.updateAchievement 3 7, .drawAchievement 1, .save, .reload, .updateAchievement 3 30,
    .drawAchievement 2, .drawAchievement 2]

theorem inOrder_inTurnRun :
    InOrder sampleChains ((machine sampleChains).run (.new sampleChains) inTurnRun).1.player :=
  inOrder_run sampleChains inTurnRun (by decide)

def drawnTwiceRun : List Event :=
  [.updateAchievement 3 7, .drawAchievement 1, .drawAchievement 1]

theorem not_inOrder_drawnTwiceRun :
    ¬ ∀ chains events, InOrder chains ((machine chains).run (.new chains) events).1.player := by
  intro inOrder
  exact absurd (inOrder sampleChains drawnTwiceRun).once (by decide)

end BasWar.Achievements
