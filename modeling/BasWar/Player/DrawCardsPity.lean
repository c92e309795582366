import BasWar.Player.DrawCardsPaid
import BasWar.Tables.Journal
import BasWar.Tables.Periods

/-!
# The guarantee of a card pool

A pool with a `minimumCount` gives a good card at least once in so many draws: the counter is the
number of draws since the last good one.  Only the first reward can break this, when it takes the
place of a guaranteed card, which it does in a pool that guarantees every draw.
-/

namespace BasWar.DrawCards

open Tables (Machine sinceReset sinceReset_concat Limited limited_nil)

variable {tables : CardTables} {pool : PoolCfg} {data later : CardData} {draws : List Drawn}
  {drawn : Drawn}

inductive Event (tables : CardTables)
  | initOne (cfgId : ℤ)
  | drawCard (world : World) (request : Request)
  /-- The other requests change anything but the records of the pools. -/
  | other (bags : Player tables)

/-- A player, with a journal of the cards and their pools. -/
def machine (tables : CardTables) : Machine (Player tables) (Event tables) (ℤ × Drawn) where
  step player
    | .initOne cfgId => (player.initOne cfgId, [])
    | .drawCard world request =>
        match player.drawCard world request with
        | some (after, .drawn drawn) => (after, drawn.map (Prod.mk request.cfgId))
        | some (after, .refused _) => (after, [])
        | none => (player, [])
    | .other bags => ({ bags with cardPool := player.cardPool }, [])

def drawsOf (cfgId : ℤ) (journal : List (ℤ × Drawn)) : List Drawn :=
  (journal.filter (·.1 = cfgId)).map (·.2)

/-- The card has the quality that the pool guarantees. -/
def PoolCfg.fine (tables : CardTables) (pool : PoolCfg) (itemCfgId : ℤ) : Bool :=
  (tables.items itemCfgId).any fun row => pool.minQuality ≤ row.quality

/-- The card has that quality or was chosen from `minimumGroup`. -/
def PoolCfg.good (tables : CardTables) (pool : PoolCfg) (drawn : Drawn) : Bool :=
  drawn.guaranteed || pool.fine tables drawn.itemCfgId

/-- The counter stays below `minimumCount`, and so many draws in a row have a good one. -/
structure Pity (tables : CardTables) (pool : PoolCfg) (data : Option CardData)
    (draws : List Drawn) : Prop where
  count_lt : ∀ record, data = some record → record.count < pool.minimumCount
  window : ∀ window, window <:+: draws → (window.length : ℤ) = pool.minimumCount →
    ∃ drawn ∈ window, pool.good tables drawn

/-- Every draw is guaranteed, and the first reward is a poor card. -/
def PoorFirst (tables : CardTables) (pool : PoolCfg) : Prop :=
  pool.minimumCount = 1 ∧
    ∃ itemCfgId, pool.firstReward.head? = some itemCfgId ∧ pool.fine tables itemCfgId = false

/-- Some rounds of the loop of `drawCard`. -/
inductive Rounds (tables : CardTables) (pool : PoolCfg) : CardData → List Drawn → CardData → Prop
  | nil (data : CardData) : Rounds tables pool data [] data
  | cons {data later : CardData} {drawn : Drawn} {rest : List Drawn} {dice : ℕ} {row : ItemRow} :
      pool.choose dice data = some drawn → tables.items drawn.itemCfgId = some row →
      Rounds tables pool (pool.counted row.quality data) rest later →
      Rounds tables pool data (drawn :: rest) later

structure Follows (tables : CardTables) (pool : PoolCfg) (data : CardData) (draws : List Drawn) :
    Prop where
  first : data.first = true ↔ draws = []
  count_lt : data.count < pool.minimumCount
  head : ∀ itemCfgId, pool.firstReward.head? = some itemCfgId →
    ∀ drawn, draws.head? = some drawn → drawn = ⟨itemCfgId, false⟩
  counted : ¬ PoorFirst tables pool →
    data.count = sinceReset (pool.good tables) (fun _ => true) draws
  limited : ¬ PoorFirst tables pool →
    Limited (pool.good tables) (fun _ => true) (pool.minimumCount.toNat - 1) draws

theorem follows_new (minimum : 0 < pool.minimumCount) : Follows tables pool .new [] where
  first := iff_of_true rfl rfl
  count_lt := minimum
  head := fun _ _ _ absurd => by simp at absurd
  counted := fun _ => rfl
  limited := fun _ => limited_nil

namespace Follows

theorem stamped (follows : Follows tables pool data draws) (drawTime : ℤ) :
    Follows tables pool { data with drawTime } draws :=
  ⟨follows.first, follows.count_lt, follows.head, follows.counted, follows.limited⟩

variable {dice : ℕ}

theorem choose_cases (chosen_eq : pool.choose dice data = some drawn) :
    (∃ itemCfgId, data.first = true ∧ pool.firstReward.head? = some itemCfgId ∧
      drawn = ⟨itemCfgId, false⟩) ∨
    ((data.first = true → pool.firstReward.head? = none) ∧
      drawn.guaranteed = pool.guarantee data) := by
  unfold PoolCfg.choose PoolCfg.firstItem at chosen_eq
  cases first : data.first with
  | false =>
      rw [first] at chosen_eq
      obtain ⟨cfgId, -, rfl⟩ := Option.map_eq_some_iff.mp chosen_eq
      exact .inr ⟨fun impossible => by contradiction, rfl⟩
  | true =>
      rw [first, if_pos rfl] at chosen_eq
      cases head : pool.firstReward.head? with
      | none =>
          rw [head] at chosen_eq
          obtain ⟨cfgId, -, rfl⟩ := Option.map_eq_some_iff.mp chosen_eq
          exact .inr ⟨fun _ => rfl, rfl⟩
      | some itemCfgId =>
          rw [head] at chosen_eq
          exact .inl ⟨itemCfgId, rfl, rfl, (Option.some.inj chosen_eq).symm⟩

/-- The counter is reset by good cards only, unless the first reward is poor. -/
theorem good_iff (follows : Follows tables pool data draws) (fair : ¬ PoorFirst tables pool)
    {row : ItemRow} (chosen_eq : pool.choose dice data = some drawn)
    (found : tables.items drawn.itemCfgId = some row) :
    pool.good tables drawn = true ↔
      pool.guarantee data = true ∨ pool.minQuality ≤ row.quality := by
  have fine_iff : pool.fine tables drawn.itemCfgId = true ↔ pool.minQuality ≤ row.quality := by
    simp [PoolCfg.fine, found]
  rw [PoolCfg.good, Bool.or_eq_true, fine_iff]
  rcases choose_cases chosen_eq with ⟨itemCfgId, first, head, rfl⟩ | ⟨-, guaranteed⟩
  · -- the first reward is fine in itself if it takes the place of a guaranteed card
    refine ⟨fun good => .inr (good.resolve_left Bool.false_ne_true), ?_⟩
    rintro (due | fine)
    · have none_yet := follows.first.mp first
      have count_zero := follows.counted fair
      rw [none_yet] at count_zero
      obtain ⟨positive, le⟩ := decide_eq_true_eq.mp due
      have every : pool.minimumCount = 1 := by
        have : data.count = 0 := count_zero
        omega
      refine .inr (fine_iff.mp ?_)
      by_contra poor
      exact fair ⟨every, itemCfgId, head, by simpa using poor⟩
    · exact .inr fine
  · rw [guaranteed]

theorem next (follows : Follows tables pool data draws) (minimum : 0 < pool.minimumCount)
    {row : ItemRow} (chosen_eq : pool.choose dice data = some drawn)
    (found : tables.items drawn.itemCfgId = some row) :
    Follows tables pool (pool.counted row.quality data) (draws ++ [drawn]) := by
  have count_lt : (pool.counted row.quality data).count < pool.minimumCount := by
    unfold PoolCfg.counted
    dsimp only
    split
    · exact minimum
    next kept =>
      have due := mt Or.inl kept
      simp only [PoolCfg.guarantee, decide_eq_true_eq, not_and, not_le] at due
      exact due minimum
  have counted : ¬ PoorFirst tables pool → (pool.counted row.quality data).count =
      sinceReset (pool.good tables) (fun _ => true) (draws ++ [drawn]) := by
    intro fair
    have good_iff := follows.good_iff fair chosen_eq found
    rw [sinceReset_concat, PoolCfg.counted]
    dsimp only
    by_cases good : pool.good tables drawn = true
    · rw [if_pos (good_iff.mp good), if_pos good]
      rfl
    · rw [if_neg (mt good_iff.mpr good), if_neg good, follows.counted fair]
      simp
  refine ⟨by simp [PoolCfg.counted], count_lt, ?_, counted, fun fair => ?_⟩
  · intro itemCfgId head first first_eq
    cases draws with
    | nil =>
        obtain rfl := Option.some.inj first_eq
        rcases choose_cases chosen_eq with ⟨other, -, head', rfl⟩ | ⟨none_left, -⟩
        · rw [Option.some.inj (head.symm.trans head')]
        · rw [none_left (follows.first.mpr rfl)] at head
          contradiction
    | cons other rest => exact follows.head itemCfgId head first first_eq
  · refine (follows.limited fair).concat ?_
    have within := counted fair
    omega

theorem rounds {rest : List Drawn} (minimum : 0 < pool.minimumCount)
    (more : Rounds tables pool data rest later) (follows : Follows tables pool data draws) :
    Follows tables pool later (draws ++ rest) := by
  induction more generalizing draws with
  | nil => rwa [List.append_nil]
  | cons chosen_eq found _ ih =>
      rw [List.append_cons]
      exact ih (follows.next minimum chosen_eq found)

end Follows

namespace Player

variable {player after : Player tables}

theorem cardPool_give (cfgId : ℤ) (row : ItemRow) (dice : ℕ) :
    (player.give cfgId row dice).cardPool = player.cardPool := by
  unfold give
  split
  · rfl
  · split <;> rfl

theorem drawOne_cases {cfgId now : ℤ} {dice : ℕ × ℕ}
    (drawn_eq : player.drawOne cfgId pool now dice data = some (after, later, drawn)) :
    ∃ row, pool.choose dice.1 data = some drawn ∧ tables.items drawn.itemCfgId = some row ∧
      later = pool.counted row.quality data ∧
      after.cardPool = Function.update player.cardPool cfgId (some later) := by
  unfold drawOne at drawn_eq
  obtain ⟨chosenCard, chosen_eq, given⟩ := Option.bind_eq_some_iff.mp drawn_eq
  obtain ⟨row, row_found, result⟩ := Option.map_eq_some_iff.mp given
  obtain ⟨rfl, rest⟩ := Prod.mk.inj result
  obtain ⟨rfl, rfl⟩ := Prod.mk.inj rest
  refine ⟨row, chosen_eq, (Option.filter_eq_some_iff.mp row_found).1, rfl, ?_⟩
  unfold setCardData addRecord
  dsimp only
  rw [cardPool_give]

theorem drawLoop_cases {cfgId now : ℤ} {rolls : List (ℕ × ℕ)}
    (has : player.cardPool cfgId = some data)
    (drawn_eq : player.drawLoop cfgId pool now rolls data = some (after, later, draws)) :
    Rounds tables pool data draws later ∧
      after.cardPool = Function.update player.cardPool cfgId (some later) := by
  induction rolls generalizing player data draws with
  | nil =>
      obtain ⟨rfl, rest⟩ := Prod.mk.inj (Option.some.inj drawn_eq)
      obtain ⟨rfl, rfl⟩ := Prod.mk.inj rest
      exact ⟨.nil data, by rw [← has, Function.update_eq_self]⟩
  | cons dice rolls ih =>
      unfold drawLoop at drawn_eq
      obtain ⟨⟨between, next, first⟩, one_eq, others⟩ := Option.bind_eq_some_iff.mp drawn_eq
      obtain ⟨⟨final, last, rest⟩, loop_eq, result⟩ := Option.map_eq_some_iff.mp others
      obtain ⟨rfl, pair⟩ := Prod.mk.inj result
      obtain ⟨rfl, rfl⟩ := Prod.mk.inj pair
      obtain ⟨row, chosen_eq, found, rfl, between_eq⟩ := drawOne_cases one_eq
      have has_next : between.cardPool cfgId = some (pool.counted row.quality data) := by
        rw [between_eq, Function.update_self]
      obtain ⟨more, final_eq⟩ := ih has_next loop_eq
      refine ⟨.cons chosen_eq found more, ?_⟩
      rw [final_eq, between_eq, Function.update_idem]

theorem cardPool_pay (player : Player tables) (pool : PoolCfg) (world : World) (cost : ℤ) :
    (player.pay world pool cost).1.cardPool = player.cardPool := by
  have res_eq : ∀ price, (player.payRes price).1.cardPool = player.cardPool := by
    intro price
    unfold payRes
    split
    · rfl
    · split <;> rfl
  have item_eq : ∀ (payer : Player tables) price,
      (payer.payItem price).1.cardPool = payer.cardPool := by
    intro payer price
    unfold payItem
    split
    · rfl
    · split <;> rfl
  unfold pay
  dsimp only
  split
  · exact res_eq _
  · rw [item_eq, res_eq]

theorem drawCard_cases {world : World} {request : Request} {answer : Answer}
    (called : player.drawCard world request = some (after, answer)) :
    ((∃ refusal, answer = .refused refusal) ∧ after.cardPool = player.cardPool) ∨
      ∃ pool data later drawTime draws, answer = .drawn draws ∧
        tables.cardPool request.cfgId = some pool ∧ player.cardPool request.cfgId = some data ∧
        Rounds tables pool data draws later ∧
        after.cardPool =
          Function.update player.cardPool request.cfgId (some { later with drawTime }) := by
  by_cases reaches : Admitted world request ∧ (tables.cardPool request.cfgId).isSome ∧
      (player.cardPool request.cfgId).isSome
  · obtain ⟨admitted, pool_some, data_some⟩ := reaches
    obtain ⟨pool, found⟩ := Option.isSome_iff_exists.mp pool_some
    obtain ⟨data, has⟩ := Option.isSome_iff_exists.mp data_some
    rw [drawCard_admitted admitted found has] at called
    dsimp only at called
    have paid_eq := player.cardPool_pay pool world
      (costCount pool world.now request.drawCount data)
    split at called
    next refusal _ =>
      obtain ⟨rfl, rfl⟩ := Prod.mk.inj (Option.some.inj called)
      exact .inl ⟨⟨refusal, rfl⟩, paid_eq⟩
    next =>
      unfold draws at called
      obtain ⟨⟨final, later, drawn⟩, loop_eq, result⟩ := Option.map_eq_some_iff.mp called
      obtain ⟨after_eq, rfl⟩ := Prod.mk.inj result
      obtain ⟨more, final_eq⟩ := drawLoop_cases ((congrFun paid_eq _).trans has) loop_eq
      rw [paid_eq] at final_eq
      refine .inr ⟨pool, data, later, ?_, drawn, rfl, found, has, more, ?_⟩
      · exact if 0 < pool.freeTime ∧ request.drawCount = 1 ∧
          later.drawTime + pool.freeTime ≤ world.now then world.now else later.drawTime
      · rw [← after_eq]
        dsimp only
        split
        · unfold setCardData
          dsimp only
          rw [final_eq, Function.update_idem]
        · exact final_eq
  · obtain ⟨refusal, refused_eq⟩ := drawCard_refused reaches
    obtain ⟨rfl, rfl⟩ := Prod.mk.inj (Option.some.inj (refused_eq.symm.trans called))
    exact .inl ⟨⟨refusal, rfl⟩, rfl⟩

end Player

structure Kept (cfgId : ℤ) (pool : PoolCfg) (journal : List (ℤ × Drawn)) (player : Player tables) :
    Prop where
  none : player.cardPool cfgId = none → drawsOf cfgId journal = []
  follows : ∀ data, player.cardPool cfgId = some data →
    Follows tables pool data (drawsOf cfgId journal)

section Run

variable {cfgId : ℤ} {journal : List (ℤ × Drawn)} {player after : Player tables}

theorem drawsOf_same (journal : List (ℤ × Drawn)) (draws : List Drawn) :
    drawsOf cfgId (journal ++ draws.map (Prod.mk cfgId)) = drawsOf cfgId journal ++ draws := by
  simp [drawsOf, List.filter_map, Function.comp_def]

theorem drawsOf_other {other : ℤ} (different : other ≠ cfgId) (journal : List (ℤ × Drawn))
    (draws : List Drawn) :
    drawsOf cfgId (journal ++ draws.map (Prod.mk other)) = drawsOf cfgId journal := by
  simp [drawsOf, List.filter_map, Function.comp_def, different]

section

variable (kept : Kept cfgId pool journal player)
include kept

theorem Kept.of_same (same : after.cardPool cfgId = player.cardPool cfgId) :
    Kept cfgId pool (journal ++ []) after := by
  rw [List.append_nil]
  exact ⟨fun none => kept.none (same ▸ none), fun data has => kept.follows data (same ▸ has)⟩

theorem Kept.initOne (minimum : 0 < pool.minimumCount) (other : ℤ) :
    Kept cfgId pool (journal ++ []) (player.initOne other) := by
  unfold Player.initOne
  split
  next none =>
    split
    · by_cases same : cfgId = other
      · subst same
        rw [List.append_nil]
        have no_draws := kept.none none
        refine ⟨fun _ => no_draws, fun data has => ?_⟩
        simp only [Player.setCardData, Function.update_self, Option.some.injEq] at has
        rw [no_draws, ← has]
        exact follows_new minimum
      · exact kept.of_same (Function.update_of_ne same ..)
    · exact kept.of_same rfl
  · exact kept.of_same rfl

theorem Kept.drawCard (found : tables.cardPool cfgId = some pool) (minimum : 0 < pool.minimumCount)
    {world : World} {request : Request} {draws : List Drawn}
    (called : player.drawCard world request = some (after, .drawn draws)) :
    Kept cfgId pool (journal ++ draws.map (Prod.mk request.cfgId)) after := by
  rcases Player.drawCard_cases called with ⟨⟨_, refused⟩, -⟩ |
    ⟨pool', data, later, drawTime, draws', same, found', has, more, after_eq⟩
  · contradiction
  · obtain rfl := Answer.drawn.inj same
    by_cases this : request.cfgId = cfgId
    · rw [this] at found' has after_eq ⊢
      obtain rfl := Option.some.inj (found.symm.trans found')
      have has_after : after.cardPool cfgId = some { later with drawTime } := by
        rw [after_eq, Function.update_self]
      constructor
      · intro none
        rw [has_after] at none
        contradiction
      · intro record has_record
        rw [drawsOf_same]
        obtain rfl := Option.some.inj (has_after.symm.trans has_record)
        exact ((kept.follows data has).rounds minimum more).stamped drawTime
    · have same_record : after.cardPool cfgId = player.cardPool cfgId := by
        rw [after_eq, Function.update_of_ne (Ne.symm this)]
      refine ⟨fun none => ?_, fun record has_record => ?_⟩
      · rw [drawsOf_other this]
        exact kept.none (same_record ▸ none)
      · rw [drawsOf_other this]
        exact kept.follows record (same_record ▸ has_record)

theorem Kept.step (found : tables.cardPool cfgId = some pool) (minimum : 0 < pool.minimumCount)
    (event : Event tables) :
    Kept cfgId pool (journal ++ ((machine tables).step player event).2)
      ((machine tables).step player event).1 := by
  cases event with
  | initOne other => exact kept.initOne minimum other
  | other bags => exact kept.of_same rfl
  | drawCard world request =>
      dsimp only [machine]
      cases called : player.drawCard world request with
      | none => exact kept.of_same rfl
      | some result =>
          obtain ⟨after, answer⟩ := result
          cases answer with
          | drawn draws => exact kept.drawCard found minimum called
          | refused refusal =>
              rcases Player.drawCard_cases called with ⟨-, same⟩ | ⟨_, _, _, _, _, drawn, -⟩
              · exact kept.of_same (congrFun same cfgId)
              · contradiction

end

end Run

def Player.fresh (player : Player tables) : Player tables :=
  { player with cardPool := fun _ => none }

structure GuaranteedPool (tables : CardTables) where
  cfgId : ℤ
  pool : PoolCfg
  found : tables.cardPool cfgId = some pool
  minimum : 0 < pool.minimumCount

theorem window_of_limited (minimum : 0 < pool.minimumCount)
    (limited : Limited (pool.good tables) (fun _ => true) (pool.minimumCount.toNat - 1) draws)
    (window : List Drawn) (inside : window <:+: draws)
    (length_eq : (window.length : ℤ) = pool.minimumCount) :
    ∃ drawn ∈ window, pool.good tables drawn := by
  by_contra none_good
  have within := limited window inside fun drawn drawn_mem => by
    by_contra good
    exact none_good ⟨drawn, drawn_mem, by simpa using good⟩
  rw [List.countP_true] at within
  omega

/-- A run keeps the guarantee of a pool exactly when its first reward, if it took the place of a
guaranteed card, was a good one. -/
theorem pity_iff (config : Config) (guaranteed : GuaranteedPool config.tables)
    (player : Player config.tables) (events : List (Event config.tables)) :
    Pity config.tables guaranteed.pool
        (((machine config.tables).run player.fresh events).1.cardPool guaranteed.cfgId)
        (drawsOf guaranteed.cfgId ((machine config.tables).run player.fresh events).2) ↔
      ¬ PoorFirst config.tables guaranteed.pool ∨
        drawsOf guaranteed.cfgId ((machine config.tables).run player.fresh events).2 = [] := by
  obtain ⟨cfgId, pool, found, minimum⟩ := guaranteed
  dsimp only
  have start : Kept cfgId pool [] player.fresh := ⟨fun _ => rfl, fun _ none => by contradiction⟩
  have kept := Machine.journal_run (Kept cfgId pool)
    (fun journal state event kept _ => kept.step found minimum event) start
    (Machine.allowed_true player.fresh events)
  rw [List.nil_append] at kept
  generalize drawsOf_eq : drawsOf cfgId ((machine config.tables).run player.fresh events).2 = draws
  obtain ⟨no_draws, follows⟩ := kept
  rw [drawsOf_eq] at no_draws follows
  constructor
  · rintro ⟨-, window⟩
    by_contra broken
    obtain ⟨poor, some_draw⟩ := not_or.mp broken
    obtain ⟨every, itemCfgId, head, not_fine⟩ := not_not.mp poor
    obtain ⟨first, rest, rfl⟩ := List.exists_cons_of_ne_nil some_draw
    obtain ⟨data, has⟩ := Option.ne_none_iff_exists'.mp fun none => some_draw (no_draws none)
    obtain rfl := (follows data has).head itemCfgId head first rfl
    obtain ⟨drawn, drawn_mem, good⟩ := window [⟨itemCfgId, false⟩] ⟨[], rest, rfl⟩ (by simp [every])
    rw [List.mem_singleton.mp drawn_mem] at good
    simp [PoolCfg.good, not_fine] at good
  · intro fair
    refine ⟨fun data has => (follows data has).count_lt, fun window inside length_eq => ?_⟩
    rcases fair with fair | none_yet
    · cases has : ((machine config.tables).run player.fresh events).1.cardPool cfgId with
      | none =>
          rw [no_draws has] at inside
          rw [List.eq_nil_of_infix_nil inside] at length_eq
          exact absurd minimum (length_eq ▸ lt_irrefl 0)
      | some data =>
          exact window_of_limited minimum ((follows data has).limited fair) window inside length_eq
    · rw [none_yet] at inside
      rw [List.eq_nil_of_infix_nil inside] at length_eq
      exact absurd minimum (length_eq ▸ lt_irrefl 0)

/-- Every draw is guaranteed, and the first one gives hero 8. -/
def poorPool : PoolCfg where
  available := true
  commonGroup := [(8, 1)]
  minimumCount := 1
  minQuality := 5
  minimumGroup := [(9, 1)]
  freeTime := 0
  costItem := none
  costRes := none
  costItemInMuilt := none
  costResInMuilt := none
  firstReward := [8]

/-- A hero of quality 1. -/
def poorRow : ItemRow :=
  { sampleRow with itemType := .hero }

def poorTables : CardTables :=
  { sampleTables with
    items := fun _ => some poorRow
    cardPool := fun cfgId => if cfgId = 1 then some poorPool else none }

theorem poorTables_filled : poorTables.Filled := by
  have only : ∀ cfgId pool, poorTables.cardPool cfgId = some pool → pool = poorPool := by
    intro cfgId pool found
    simp only [poorTables] at found
    split at found
    · exact (Option.some.inj found).symm
    · contradiction
  constructor
  · intro cfgId pool found _
    rw [only cfgId pool found]
    decide
  · intro cfgId pool found _ _
    rw [only cfgId pool found]
    decide
  · exact fun _ _ _ _ _ _ => ⟨poorRow, rfl, rfl⟩

theorem poorPlayer_below : ∀ item ∈ ([] : List Selling.Item), item.id < 1 :=
  fun _ none => absurd none List.not_mem_nil

def poorPlayer : Player poorTables where
  resBag := ⟨fun _ => 0⟩
  stock :=
    { items := ⟨[], List.nodup_nil⟩
      nextId := 1
      sound := fun _ none => absurd none List.not_mem_nil
      below := poorPlayer_below }
  heros := []
  autoUsed := []
  used := fun _ => false
  cardPool := fun _ => none
  cardGetRecords := []

/-- The first reward takes the place of the guaranteed card. -/
theorem not_pity_poorFirst :
    ¬ ∀ (config : Config) (guaranteed : GuaranteedPool config.tables)
        (player : Player config.tables) (events : List (Event config.tables)),
      Pity config.tables guaranteed.pool
        (((machine config.tables).run player.fresh events).1.cardPool guaranteed.cfgId)
        (drawsOf guaranteed.cfgId ((machine config.tables).run player.fresh events).2) := by
  intro holds
  have pity := holds ⟨poorTables, poorTables_filled⟩ ⟨1, poorPool, rfl, by decide⟩ poorPlayer
    [.initOne 1, .drawCard sampleWorld ⟨1, 1, false⟩]
  have draws : drawsOf 1 ((machine poorTables).run poorPlayer.fresh
      [.initOne 1, .drawCard sampleWorld ⟨1, 1, false⟩]).2 = [⟨8, false⟩] := by
    decide +kernel
  obtain ⟨drawn, drawn_mem, good⟩ := pity.window [⟨8, false⟩] (by rw [draws]) rfl
  rw [List.mem_singleton.mp drawn_mem] at good
  exact absurd good (by decide)

end BasWar.DrawCards
