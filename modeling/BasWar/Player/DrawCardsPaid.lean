import BasWar.Player.DrawCards

/-!
# Draws are paid in full or not at all

`drawCard` takes the resource part of a price before it looks at the items.  A player who has the
resource but not the items loses the resource for nothing.
-/

namespace BasWar.DrawCards

open Items Resources

/-- CardTables that the game can be run with. -/
structure Config where
  tables : CardTables
  filled : tables.Filled

/-- A player with records of available pools only, as `_initOne` makes them. -/
structure Account (tables : CardTables) where
  player : Player tables
  listed : ∀ cfgId pool, tables.cardPool cfgId = some pool → (player.cardPool cfgId).isSome →
    pool.available

variable {tables : CardTables} {player : Player tables} {pool : PoolCfg} {data : CardData}

def Player.held (player : Player tables) (cfgId : ℤ) : ℤ :=
  player.stock.count cfgId + player.autoUsed.count cfgId + (player.heros.map Hero.cfgId).count cfgId

def resCost (price : Option (ResId × ℚ)) (res : ResId) : ℚ :=
  match price with
  | none => 0
  | some (resCfgId, resCount) => if res = resCfgId then resCount else 0

def itemCost (price : Option (ℤ × ℤ)) (cfgId : ℤ) : ℤ :=
  match price with
  | none => 0
  | some (itemCfgId, itemCount) => if cfgId = itemCfgId then itemCount else 0

/-- Balance, items, free-draw times and counters are what they were. -/
structure Unchanged (before after : Player tables) : Prop where
  resBag : after.resBag = before.resBag
  items : after.stock.items = before.stock.items
  cardPool : after.cardPool = before.cardPool

/-- The full price has been taken and so many cards have been given. -/
structure Taken (world : World) (request : Request) (pool : PoolCfg) (data : CardData)
    (drawn : List Drawn) (before after : Player tables) : Prop where
  length : (drawn.length : ℤ) = request.drawCount
  res : ∀ res, after.resBag.num res = before.resBag.num res -
    resCost (resPrice tables world.discounted pool
      (costCount pool world.now request.drawCount data)) res
  given : ∀ cfgId, after.held cfgId = before.held cfgId -
    itemCost (itemPrice pool (costCount pool world.now request.drawCount data)) cfgId +
      (drawn.map Drawn.itemCfgId).count cfgId

/-- `drawCard` changes nothing, or it takes the price and gives the cards. -/
def AllOrNothing (world : World) (request : Request) (before : Player tables) : Prop :=
  ∃ after answer, before.drawCard world request = some (after, answer) ∧
    match answer with
    | .refused _ => Unchanged before after
    | .drawn drawn => ∃ pool data, tables.cardPool request.cfgId = some pool ∧
        before.cardPool request.cfgId = some data ∧
        Taken world request pool data drawn before after

/-- The request reaches the prices. -/
structure Admitted (world : World) (request : Request) : Prop where
  gm : ¬ (request.isGm = true ∧ ¬ world.inner = true)
  drawCount : 1 ≤ request.drawCount
  space : ¬ world.noSpace = true

/-- There are not enough items for a price. -/
def ItemShort (player : Player tables) (price : Option (ℤ × ℤ)) : Prop :=
  ∃ itemCfgId itemCount, price = some (itemCfgId, itemCount) ∧
    player.stock.count itemCfgId < itemCount

/-- No resource is taken for items that are not there, and none in part. -/
def Covered (world : World) (request : Request) (player : Player tables) : Prop :=
  ∀ pool data resCfgId resCount, Admitted world request →
    tables.cardPool request.cfgId = some pool → player.cardPool request.cfgId = some data →
    resPrice tables world.discounted pool (costCount pool world.now request.drawCount data) =
      some (resCfgId, resCount) →
    resCount ≤ player.resBag.num resCfgId →
    (ItemShort player (itemPrice pool (costCount pool world.now request.drawCount data)) →
      resCount < 1) ∧
    (¬ ItemShort player (itemPrice pool (costCount pool world.now request.drawCount data)) →
      resCount = ⌊resCount⌋)

theorem PoolCfg.choose_spec (filled : tables.Filled) {cfgId : ℤ}
    (found : tables.cardPool cfgId = some pool) (available : pool.available) (dice : ℕ)
    (data : CardData) :
    ∃ drawn, pool.choose dice data = some drawn ∧ drawn.itemCfgId ∈ pool.cards := by
  unfold choose
  split
  next first isFirst =>
    unfold firstItem at isFirst
    split at isFirst
    · exact ⟨_, rfl, List.mem_append_right _ (List.mem_of_mem_head? isFirst)⟩
    · contradiction
  next =>
    by_cases due : pool.guarantee data = true
    · have total_pos := filled.minimum cfgId pool found available (decide_eq_true_eq.mp due).1
      obtain ⟨entry, entry_mem, chosen_eq⟩ := chooseByValue_spec total_pos dice
      rw [if_pos due, chosen_eq]
      exact ⟨_, rfl, List.mem_append_left _
        (List.mem_append_right _ (List.mem_map_of_mem entry_mem))⟩
    · have total_pos := filled.common cfgId pool found available
      obtain ⟨entry, entry_mem, chosen_eq⟩ := chooseByValue_spec total_pos dice
      rw [if_neg due, chosen_eq]
      exact ⟨_, rfl, List.mem_append_left _
        (List.mem_append_left _ (List.mem_map_of_mem entry_mem))⟩

namespace Player

theorem held_addRecord (record : Record) (cfgId : ℤ) :
    (player.addRecord record).held cfgId = player.held cfgId := by
  unfold held addRecord
  rfl

theorem held_setCardData (pool : ℤ) (cfgId : ℤ) :
    (player.setCardData pool data).held cfgId = player.held cfgId := by
  unfold held setCardData
  rfl

theorem resBag_addRecord (record : Record) : (player.addRecord record).resBag = player.resBag := by
  unfold addRecord
  rfl

theorem resBag_setCardData (pool : ℤ) : (player.setCardData pool data).resBag = player.resBag :=
  rfl

theorem resBag_give (cfgId : ℤ) (row : ItemRow) (dice : ℕ) :
    (player.give cfgId row dice).resBag = player.resBag := by
  unfold give
  split
  · rfl
  · split <;> rfl

variable {cfgId : ℤ}

theorem held_give {row : ItemRow} (found : tables.items cfgId = some row) (dice : ℕ) (kind : ℤ) :
    (player.give cfgId row dice).held kind = player.held kind + if cfgId = kind then 1 else 0 := by
  have cfg_found : tables.cfgs cfgId = some row.toItemCfg := by simp [CardTables.cfgs, found]
  unfold give
  split
  · simp only [held, List.map_append, List.map_cons, List.map_nil, List.count_append,
      List.count_singleton, beq_iff_eq]
    split <;> push_cast <;> ring
  · split
    · simp only [held, List.count_append, List.count_singleton, beq_iff_eq]
      split <;> push_cast <;> ring
    · simp only [held, Stock.count_addItem cfg_found Int.one_pos, eq_comm]
      ring

/-- What some cards add to a player. -/
structure Adds (drawn : List Drawn) (before after : Player tables) : Prop where
  resBag : after.resBag = before.resBag
  held : ∀ cfgId, after.held cfgId =
    before.held cfgId + (drawn.map Drawn.itemCfgId).count cfgId

theorem Adds.nil (player : Player tables) : Adds [] player player where
  resBag := rfl
  held := fun _ => (add_zero _).symm

theorem Adds.cons {first : Drawn} {rest : List Drawn} {before between after : Player tables}
    (one : Adds [first] before between) (others : Adds rest between after) :
    Adds (first :: rest) before after where
  resBag := others.resBag.trans one.resBag
  held := fun cfgId => by
    rw [others.held, one.held, List.map_cons, List.map_cons, List.map_nil, List.count_cons,
      List.count_cons, List.count_nil]
    push_cast
    ring

theorem drawOne_spec (filled : tables.Filled) (found : tables.cardPool cfgId = some pool)
    (available : pool.available) (now : ℤ) (dice : ℕ × ℕ) (data : CardData)
    (player : Player tables) :
    ∃ after later drawn, player.drawOne cfgId pool now dice data = some (after, later, drawn) ∧
      Adds [drawn] player after := by
  obtain ⟨drawn, chosen_eq, listed⟩ := PoolCfg.choose_spec filled found available dice.1 data
  obtain ⟨row, row_found, complete⟩ :=
    filled.rows cfgId pool found available drawn.itemCfgId listed
  let given := (player.give drawn.itemCfgId row dice.2).addRecord ⟨now, cfgId, drawn.itemCfgId⟩
  let later := pool.counted row.quality data
  refine ⟨given.setCardData cfgId later, later, drawn, ?_, ?_⟩
  · unfold drawOne
    rw [chosen_eq, Option.bind_some, row_found, Option.filter_some_pos complete]
    rfl
  · constructor
    · rw [resBag_setCardData, resBag_addRecord, resBag_give]
    · intro kind
      rw [held_setCardData, held_addRecord, held_give row_found, List.map_singleton,
        List.count_singleton]
      simp

theorem drawLoop_spec (filled : tables.Filled) (found : tables.cardPool cfgId = some pool)
    (available : pool.available) (now : ℤ) (rolls : List (ℕ × ℕ)) (data : CardData)
    (player : Player tables) :
    ∃ after later drawn, player.drawLoop cfgId pool now rolls data = some (after, later, drawn) ∧
      drawn.length = rolls.length ∧ Adds drawn player after := by
  induction rolls generalizing data player with
  | nil => exact ⟨player, data, [], rfl, rfl, Adds.nil player⟩
  | cons dice rolls ih =>
      obtain ⟨between, next, first, one_eq, one⟩ :=
        drawOne_spec filled found available now dice data player
      obtain ⟨after, later, rest, rest_eq, length_eq, others⟩ := ih next between
      refine ⟨after, later, first :: rest, ?_, by simp [length_eq], one.cons others⟩
      unfold drawLoop
      rw [one_eq, Option.bind_some, rest_eq]
      rfl

theorem draws_spec (filled : tables.Filled) (world : World) (request : Request)
    (found : tables.cardPool request.cfgId = some pool) (available : pool.available)
    (drawCount : 1 ≤ request.drawCount) (data : CardData) (player : Player tables) :
    ∃ after drawn, player.draws world request pool data = some (after, .drawn drawn) ∧
      (drawn.length : ℤ) = request.drawCount ∧ Adds drawn player after := by
  obtain ⟨after, later, drawn, loop_eq, length_eq, adds⟩ := drawLoop_spec filled found available
    world.now ((List.range request.drawCount.toNat).map world.dice) data player
  unfold draws
  rw [loop_eq]
  refine ⟨_, drawn, rfl, ?_, ?_⟩
  · rw [length_eq, List.length_map, List.length_range, Int.toNat_of_nonneg (by omega)]
  · dsimp only
    split
    · exact ⟨by rw [resBag_setCardData, adds.resBag],
        fun cfgId => by rw [held_setCardData, adds.held]⟩
    · exact adds

theorem payItem_cases {price : Option (ℤ × ℤ)} (price_pos : ∀ item, price = some item → 0 < item.2)
    (player : Player tables) :
    ItemShort player price ∧ player.payItem price = (player, some .itemNotEnough) ∨
      ¬ ItemShort player price ∧ ∃ after, player.payItem price = (after, none) ∧
        after.resBag = player.resBag ∧
        ∀ cfgId, after.held cfgId = player.held cfgId - itemCost price cfgId := by
  unfold payItem
  cases price with
  | none =>
      refine .inr ⟨?_, player, rfl, rfl, fun cfgId => (sub_zero _).symm⟩
      rintro ⟨_, _, priced, -⟩
      contradiction
  | some item =>
      obtain ⟨itemCfgId, itemCount⟩ := item
      dsimp only
      by_cases short : player.stock.count itemCfgId < itemCount
      · exact .inl ⟨⟨itemCfgId, itemCount, rfl, short⟩, if_pos short⟩
      · rw [if_neg short]
        refine .inr ⟨?_, _, rfl, rfl, fun cfgId => ?_⟩
        · rintro ⟨_, _, priced, isShort⟩
          obtain ⟨rfl, rfl⟩ := Prod.mk.inj (Option.some.inj priced)
          exact short isShort
        · simp only [held, itemCost, Stock.count_costItem (price_pos _ rfl) (not_lt.mp short)]
          ring

end Player

theorem itemPrice_pos {costCount : ℤ} {item : ℤ × ℤ}
    (priced : itemPrice pool costCount = some item) : 0 < item.2 := by
  unfold itemPrice at priced
  split at priced
  next positive =>
    obtain ⟨price, -, rfl⟩ := Option.map_eq_some_iff.mp priced
    exact mul_pos price.num_pos positive
  · contradiction

theorem resPrice_nonneg {discounted : Bool} {costCount : ℤ} {res : ResId × ℚ}
    (priced : resPrice tables discounted pool costCount = some res) : 0 ≤ res.2 := by
  unfold resPrice at priced
  split at priced
  next positive =>
    obtain ⟨price, -, rfl⟩ := Option.map_eq_some_iff.mp priced
    have num_nonneg : (0 : ℚ) ≤ price.num := mod_cast price.num_pos.le
    have count_nonneg : (0 : ℚ) ≤ costCount := mod_cast positive.le
    refine mul_nonneg (mul_nonneg num_nonneg count_nonneg) ?_
    split
    · exact tables.discount_nonneg
    · exact zero_le_one
  · contradiction

theorem num_costRes {bag : Resources.ResBag} {resCfgId : ResId} {resCount : ℚ}
    (nonneg : 0 ≤ resCount)
    (covered : resCount ≤ bag.num resCfgId) (res : ResId) :
    (bag.costRes resCfgId resCount).num res =
      bag.num res - resCost (some (resCfgId, (⌊resCount⌋ : ℚ))) res := by
  unfold resCost
  dsimp only
  split
  next same =>
    subst same
    have floor_nonneg : (0 : ℚ) ≤ ⌊resCount⌋ := mod_cast Int.floor_nonneg.mpr nonneg
    rw [Resources.ResBag.num_costRes_covered covered, max_eq_left floor_nonneg]
  next other => rw [Resources.ResBag.num_costRes_of_ne other, sub_zero]

/-- A charge is no charge when it is less than one unit. -/
theorem costRes_eq_self_iff {bag : Resources.ResBag} {resCfgId : ResId} {resCount : ℚ}
    (nonneg : 0 ≤ resCount) (covered : resCount ≤ bag.num resCfgId) :
    bag.costRes resCfgId resCount = bag ↔ resCount < 1 := by
  have floor_nonneg : 0 ≤ ⌊resCount⌋ := Int.floor_nonneg.mpr nonneg
  have charged := num_costRes nonneg covered
  have below_one : ⌊resCount⌋ = 0 ↔ resCount < 1 := by
    rw [Int.floor_eq_zero_iff, Set.mem_Ico]
    exact and_iff_right nonneg
  rw [← below_one]
  constructor
  · intro same
    have atRes : bag.num resCfgId = bag.num resCfgId - (⌊resCount⌋ : ℚ) := by
      have charge := charged resCfgId
      rwa [same, resCost, if_pos rfl] at charge
    have floor_zero : (⌊resCount⌋ : ℚ) = 0 := by linarith
    exact_mod_cast floor_zero
  · intro none
    refine Resources.ResBag.ext (funext fun res => ?_)
    rw [charged, none]
    simp [resCost]

namespace Player

section Pay

variable {world : World} {cost : ℤ} {resCfgId : ResId} {resCount : ℚ}

theorem pay_of_none (player : Player tables)
    (priced : resPrice tables world.discounted pool cost = none) :
    player.pay world pool cost = player.payItem (itemPrice pool cost) := by
  simp [pay, payRes, priced]

theorem pay_of_poor
    (priced : resPrice tables world.discounted pool cost = some (resCfgId, resCount))
    (poor : ¬ resCount ≤ player.resBag.num resCfgId) :
    player.pay world pool cost = (player, some (.resNotEnough resCfgId)) := by
  have refused := mt Resources.ResBag.enoughRes_iff.mp poor
  simp [pay, payRes, priced, refused]

theorem pay_of_rich
    (priced : resPrice tables world.discounted pool cost = some (resCfgId, resCount))
    (rich : resCount ≤ player.resBag.num resCfgId) :
    player.pay world pool cost =
      ({ player with resBag := player.resBag.costRes resCfgId resCount } : Player tables).payItem
        (itemPrice pool cost) := by
  have enough := Resources.ResBag.enoughRes_iff.mpr rich
  simp [pay, payRes, priced, enough]

end Pay

theorem drawCard_admitted {world : World} {request : Request} (admitted : Admitted world request)
    (found : tables.cardPool request.cfgId = some pool)
    (has : player.cardPool request.cfgId = some data) :
    player.drawCard world request =
      let paid := player.pay world pool (costCount pool world.now request.drawCount data)
      match paid.2 with
      | some refusal => some (paid.1, .refused refusal)
      | none => paid.1.draws world request pool data := by
  unfold drawCard
  rw [if_neg admitted.gm, if_neg (not_lt.mpr admitted.drawCount), found, has]
  dsimp only
  exact if_neg admitted.space

theorem drawCard_refused {world : World} {request : Request}
    (refused : ¬ (Admitted world request ∧ (tables.cardPool request.cfgId).isSome ∧
      (player.cardPool request.cfgId).isSome)) :
    ∃ refusal, player.drawCard world request = some (player, .refused refusal) := by
  unfold drawCard
  split
  · exact ⟨_, rfl⟩
  next gm =>
    split
    · exact ⟨_, rfl⟩
    next drawCount =>
      split
      · exact ⟨_, rfl⟩
      next found =>
        split
        · exact ⟨_, rfl⟩
        next has =>
          split
          · exact ⟨_, rfl⟩
          next space =>
            exact absurd ⟨⟨gm, not_lt.mp drawCount, space⟩, by simp [found], by simp [has]⟩ refused

end Player

theorem Unchanged.refl (player : Player tables) : Unchanged player player :=
  ⟨rfl, rfl, rfl⟩

section Call

variable {world : World} {request : Request} {after : Player tables}

theorem allOrNothing_refused {refusal : Refusal}
    (called : player.drawCard world request = some (after, .refused refusal)) :
    AllOrNothing world request player ↔ Unchanged player after := by
  constructor
  · rintro ⟨other, answer, other_eq, holds⟩
    obtain ⟨rfl, rfl⟩ := Prod.mk.inj (Option.some.inj (called.symm.trans other_eq))
    exact holds
  · exact fun unchanged => ⟨after, _, called, unchanged⟩

theorem allOrNothing_drawn {drawn : List Drawn}
    (found : tables.cardPool request.cfgId = some pool)
    (has : player.cardPool request.cfgId = some data)
    (called : player.drawCard world request = some (after, .drawn drawn)) :
    AllOrNothing world request player ↔ Taken world request pool data drawn player after := by
  constructor
  · rintro ⟨other, answer, other_eq, holds⟩
    obtain ⟨rfl, rfl⟩ := Prod.mk.inj (Option.some.inj (called.symm.trans other_eq))
    obtain ⟨otherPool, otherData, found', has', taken⟩ := holds
    obtain rfl := Option.some.inj (found.symm.trans found')
    obtain rfl := Option.some.inj (has.symm.trans has')
    exact taken
  · exact fun taken => ⟨after, _, called, pool, data, found, has, taken⟩

/-- A call whose price is paid takes whole units of the resource and gives all its cards. -/
theorem taken_iff (filled : tables.Filled) (admitted : Admitted world request)
    (found : tables.cardPool request.cfgId = some pool)
    (has : player.cardPool request.cfgId = some data) (available : pool.available)
    {paid : Player tables}
    (pay_eq : player.pay world pool (costCount pool world.now request.drawCount data) =
      (paid, none))
    (held : ∀ cfgId, paid.held cfgId = player.held cfgId -
      itemCost (itemPrice pool (costCount pool world.now request.drawCount data)) cfgId) :
    AllOrNothing world request player ↔ ∀ res, paid.resBag.num res = player.resBag.num res -
      resCost (resPrice tables world.discounted pool
        (costCount pool world.now request.drawCount data)) res := by
  obtain ⟨final, drawn, draws_eq, length_eq, adds⟩ :=
    Player.draws_spec filled world request found available admitted.drawCount data paid
  have called : player.drawCard world request = some (final, .drawn drawn) := by
    rw [Player.drawCard_admitted admitted found has]
    dsimp only
    rw [pay_eq]
    exact draws_eq
  rw [allOrNothing_drawn found has called]
  constructor
  · intro taken res
    rw [← taken.res res, adds.resBag]
  · intro charged
    exact
      { length := length_eq
        res := fun res => by rw [adds.resBag, charged]
        given := fun cfgId => by rw [adds.held, held] }

end Call

section Priced

variable {world : World} {request : Request}

theorem drawCard_short (admitted : Admitted world request)
    (found : tables.cardPool request.cfgId = some pool)
    (has : player.cardPool request.cfgId = some data) {paid : Player tables} {refusal : Refusal}
    (pay_eq : player.pay world pool (costCount pool world.now request.drawCount data) =
      (paid, some refusal)) :
    player.drawCard world request = some (paid, .refused refusal) := by
  rw [Player.drawCard_admitted admitted found has]
  dsimp only
  rw [pay_eq]

theorem allOrNothing_of_none (filled : tables.Filled) (admitted : Admitted world request)
    (found : tables.cardPool request.cfgId = some pool)
    (has : player.cardPool request.cfgId = some data) (available : pool.available)
    (priced : resPrice tables world.discounted pool
      (costCount pool world.now request.drawCount data) = none) :
    AllOrNothing world request player := by
  have pay_eq := player.pay_of_none priced
  rcases player.payItem_cases fun _ => itemPrice_pos with
    ⟨-, item_eq⟩ | ⟨-, after, item_eq, resBag_eq, held⟩
  · have called := drawCard_short admitted found has (pay_eq.trans item_eq)
    exact (allOrNothing_refused called).mpr (Unchanged.refl player)
  · refine (taken_iff filled admitted found has available (pay_eq.trans item_eq) held).mpr ?_
    intro res
    rw [resBag_eq, priced, resCost, sub_zero]

theorem allOrNothing_of_poor (admitted : Admitted world request)
    (found : tables.cardPool request.cfgId = some pool)
    (has : player.cardPool request.cfgId = some data) {resCfgId : ResId} {resCount : ℚ}
    (priced : resPrice tables world.discounted pool
      (costCount pool world.now request.drawCount data) = some (resCfgId, resCount))
    (poor : ¬ resCount ≤ player.resBag.num resCfgId) :
    AllOrNothing world request player := by
  have called := drawCard_short admitted found has (Player.pay_of_poor priced poor)
  exact (allOrNothing_refused called).mpr (Unchanged.refl player)

theorem allOrNothing_of_rich (filled : tables.Filled) (admitted : Admitted world request)
    (found : tables.cardPool request.cfgId = some pool)
    (has : player.cardPool request.cfgId = some data) (available : pool.available)
    {resCfgId : ResId} {resCount : ℚ}
    (priced : resPrice tables world.discounted pool
      (costCount pool world.now request.drawCount data) = some (resCfgId, resCount))
    (rich : resCount ≤ player.resBag.num resCfgId) :
    AllOrNothing world request player ↔
      (ItemShort player (itemPrice pool (costCount pool world.now request.drawCount data)) →
        resCount < 1) ∧
      (¬ ItemShort player (itemPrice pool (costCount pool world.now request.drawCount data)) →
        resCount = ⌊resCount⌋) := by
  have nonneg : 0 ≤ resCount := resPrice_nonneg priced
  have pay_eq := Player.pay_of_rich priced rich
  rcases Player.payItem_cases (fun _ => itemPrice_pos)
      ({ player with resBag := player.resBag.costRes resCfgId resCount } : Player tables) with
    ⟨short, item_eq⟩ | ⟨enough, after, item_eq, resBag_eq, held⟩
  · have short : ItemShort player
        (itemPrice pool (costCount pool world.now request.drawCount data)) := short
    have called := drawCard_short admitted found has (pay_eq.trans item_eq)
    rw [allOrNothing_refused called, ← costRes_eq_self_iff nonneg rich]
    constructor
    · exact fun unchanged => ⟨fun _ => unchanged.resBag, fun enough => absurd short enough⟩
    · exact fun small => ⟨small.1 short, rfl, rfl⟩
  · have enough : ¬ ItemShort player
        (itemPrice pool (costCount pool world.now request.drawCount data)) := enough
    rw [taken_iff filled admitted found has available (pay_eq.trans item_eq) held, resBag_eq,
      priced]
    dsimp only
    constructor
    · intro charged
      refine ⟨fun short => absurd short enough, fun _ => ?_⟩
      have atRes := charged resCfgId
      rw [num_costRes nonneg rich, resCost, resCost, if_pos rfl, if_pos rfl] at atRes
      linarith
    · intro whole res
      rw [num_costRes nonneg rich, ← whole.2 enough]

end Priced

/-- A call takes nothing by mistake exactly when its resource price, if there is one, is whole and
not taken before the items turn out to be missing. -/
theorem allOrNothing_iff (config : Config) (account : Account config.tables) (world : World)
    (request : Request) :
    AllOrNothing world request account.player ↔ Covered world request account.player := by
  obtain ⟨tables, filled⟩ := config
  obtain ⟨player, listed⟩ := account
  dsimp only at listed ⊢
  by_cases reaches : Admitted world request ∧ (tables.cardPool request.cfgId).isSome ∧
      (player.cardPool request.cfgId).isSome
  · obtain ⟨admitted, pool_some, data_some⟩ := reaches
    obtain ⟨pool, found⟩ := Option.isSome_iff_exists.mp pool_some
    obtain ⟨data, has⟩ := Option.isSome_iff_exists.mp data_some
    have available := listed request.cfgId pool found data_some
    constructor
    · intro holds otherPool otherData resCfgId resCount _ found' has' priced rich
      obtain rfl := Option.some.inj (found.symm.trans found')
      obtain rfl := Option.some.inj (has.symm.trans has')
      exact (allOrNothing_of_rich filled admitted found has available priced rich).mp holds
    · intro covered
      cases priced : resPrice tables world.discounted pool
          (costCount pool world.now request.drawCount data) with
      | none => exact allOrNothing_of_none filled admitted found has available priced
      | some res =>
          by_cases rich : res.2 ≤ player.resBag.num res.1
          · exact (allOrNothing_of_rich filled admitted found has available priced rich).mpr
              (covered pool data res.1 res.2 admitted found has priced rich)
          · exact allOrNothing_of_poor admitted found has priced rich
  · obtain ⟨refusal, refused_eq⟩ := Player.drawCard_refused reaches
    refine iff_of_true ⟨player, .refused refusal, refused_eq, Unchanged.refl player⟩ ?_
    intro pool data resCfgId resCount admitted found has
    exact absurd ⟨admitted, by simp [found], by simp [has]⟩ reaches

def sampleRow : ItemRow where
  maxNum := ⟨1, Nat.one_pos⟩
  isAutoUse := false
  itemType := .build
  quality := 1
  unique := false
  skill := none

def samplePool : PoolCfg where
  available := true
  commonGroup := [(7, 1)]
  minimumCount := 0
  minQuality := 99
  minimumGroup := []
  freeTime := 0
  costItem := some ⟨9, 1, Int.one_pos⟩
  costRes := some ⟨resStarCoin, 5, Int.natCast_pos.mpr (Nat.succ_pos 4)⟩
  costItemInMuilt := none
  costResInMuilt := none
  firstReward := []

def sampleTables : CardTables where
  items := fun _ => some sampleRow
  cardPool := fun cfgId => if cfgId = 1 then some samplePool else none
  heroConfig := fun _ _ => true
  skillConfig := fun _ _ => true
  life := fun _ => none
  drawCardDiscount := 1
  discount_nonneg := zero_le_one

theorem sampleTables_filled : sampleTables.Filled := by
  have only : ∀ cfgId pool, sampleTables.cardPool cfgId = some pool → pool = samplePool := by
    intro cfgId pool found
    simp only [sampleTables] at found
    split at found
    · exact (Option.some.inj found).symm
    · contradiction
  constructor
  · intro cfgId pool found _
    rw [only cfgId pool found]
    decide
  · intro cfgId pool found _ minimum
    rw [only cfgId pool found] at minimum
    exact absurd minimum (by decide)
  · exact fun _ _ _ _ _ _ => ⟨sampleRow, rfl, rfl⟩

def samplePlayer : Player sampleTables where
  resBag := ⟨fun _ => 10⟩
  stock :=
    { items := ⟨[], List.nodup_nil⟩
      nextId := 1
      sound := fun _ none => absurd none List.not_mem_nil
      below := fun _ none => absurd none List.not_mem_nil }
  heros := []
  autoUsed := []
  used := fun _ => false
  cardPool := fun cfgId => if cfgId = 1 then some .new else none
  cardGetRecords := []

theorem samplePlayer_listed (cfgId : ℤ) (pool : PoolCfg)
    (found : sampleTables.cardPool cfgId = some pool)
    (_ : (samplePlayer.cardPool cfgId).isSome) : pool.available := by
  simp only [sampleTables] at found
  split at found
  · obtain rfl := Option.some.inj found
    rfl
  · contradiction

def sampleWorld : World where
  now := 1000
  inner := false
  noSpace := false
  discounted := false
  dice := fun _ => (0, 0)

/-- The star coins are gone, and there is no card. -/
theorem not_allOrNothing :
    ¬ ∀ (config : Config) (account : Account config.tables) (world : World) (request : Request),
      AllOrNothing world request account.player := by
  intro holds
  obtain ⟨after, answer, called, outcome⟩ := holds ⟨sampleTables, sampleTables_filled⟩
    ⟨samplePlayer, samplePlayer_listed⟩ sampleWorld ⟨1, 1, false⟩
  have refused : (samplePlayer.drawCard sampleWorld ⟨1, 1, false⟩).map
      (fun result => (result.2, result.1.resBag.num resStarCoin)) =
        some (.refused .itemNotEnough, 5) := by
    decide +kernel
  rw [called] at refused
  obtain ⟨rfl, left⟩ := Prod.mk.inj (Option.some.inj refused)
  rw [outcome.resBag] at left
  exact absurd left (by decide +kernel)

end BasWar.DrawCards
