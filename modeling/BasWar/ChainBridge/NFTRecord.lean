import BasWar.ChainBridge.Withdraw

/-!
# The record of an NFT

A withdrawal writes what has become of an NFT to its document in the collection `nftInfo`; a
recharge makes a new entity of the document.  The end of a season sets the level of every document
back.
-/

namespace BasWar.ChainBridge.NFTRecord

def skills : EntityBag → ℕ
  | .warShipBag => 4
  | .heroBag => 3
  | .buildBag => 0

/-- A warship, hero or building with what a document can keep of it. -/
structure NFT extends Entity where
  bag : EntityBag
  quality : ℕ
  level : ℕ
  mintCount : ℕ
  /-- `skill1` to `skill4`. -/
  skill : Fin 4 → ℕ
  /-- `skillLevel1` to `skillLevel4`. -/
  skillLevel : Fin 4 → ℕ
  /-- 0 stands for the fields that it does not have. -/
  unused : ∀ index : Fin 4, skills bag ≤ index → skill index = 0 ∧ skillLevel index = 0

/-- A document of the collection `nftInfo`. -/
structure NFTInfo where
  kind : NFTKind
  race : Option ℕ
  style : Option ℕ
  quality : Option ℕ
  level : Option ℕ
  mintType : Option ℤ
  life : Option ℤ
  curLife : Option ℤ
  skill : Fin 4 → Option ℕ
  skillLevel : Fin 4 → Option ℕ
  mintCount : Option ℕ

structure Tables where
  /-- `getNFTWarShipCfg`, `getNFTHeroCfg` and `getNFTBuildCfg`: the configuration of an entity. -/
  getNFTCfg : EntityBag → (race style quality level : ℕ) → Option ℕ
  /-- `getWarShipCfg`, `getHeroCfg` and `getBuildCfg`: the list `initSkill`. -/
  initSkill : EntityBag → (cfgId quality level : ℕ) → Option (List ℕ)

/-! ## Withdrawing -/

/-- What `syncNFTInfo` sets; it leaves out the fields that the entity does not have. -/
def NFTInfo.setFrom (entity : NFT) (info : NFTInfo) : NFTInfo :=
  { info with
    level := some entity.level
    life := some entity.life
    curLife := some entity.curLife
    skill := fun index =>
      if index < skills entity.bag then some (entity.skill index) else info.skill index
    skillLevel := fun index =>
      if index < skills entity.bag then some (entity.skillLevel index) else info.skillLevel index }

/-- It does not write a new document. -/
def syncNFTInfo (tokenId : ℕ) (entity : NFT) (nftInfo : ℕ → Option NFTInfo) :
    ℕ → Option NFTInfo :=
  Function.update nftInfo tokenId ((nftInfo tokenId).map (NFTInfo.setFrom entity))

/-- The checks of `doWithdrawNFT`. -/
def NFT.withdrawable (entity : NFT) : Bool :=
  0 < entity.chain && (Withdraw.withdrawError entity.toEntity).isNone

def resetLevels (nftInfo : ℕ → Option NFTInfo) : ℕ → Option NFTInfo :=
  fun tokenId => (nftInfo tokenId).map fun info => { info with level := some 1 }

/-! ## Recharging -/

/-- A skill that the entity does not have is the one of its configuration. -/
def refreshSkill (initSkill : List ℕ) (skill : Fin 4 → ℕ) (index : Fin 4) : Bool :=
  skill index = 0 && (initSkill[index]?).getD 0 ≠ 0

def NFT.refreshConfig (initSkill : List ℕ) (entity : NFT) : NFT :=
  let refreshed := fun index : Fin 4 =>
    decide (index < skills entity.bag) && refreshSkill initSkill entity.skill index
  { entity with
    skill := fun index =>
      if refreshed index then (initSkill[index]?).getD 0 else entity.skill index
    skillLevel := fun index => if refreshed index then 1 else entity.skillLevel index
    unused := by
      intro index outside
      have not_refreshed : refreshed index = false := by
        simp [refreshed, Nat.not_lt.mpr outside]
      simp only [not_refreshed]
      exact entity.unused index outside }

/-- A field of a document, for a skill that the entity has room for. -/
def readSkill (bag : EntityBag) (fields : Fin 4 → Option ℕ) (index : Fin 4) : ℕ :=
  if index < skills bag then (fields index).getD 0 else 0

/-- `deserialize`, with the life that an NFT is recharged with. -/
def NFTInfo.read (tokenId : ℕ) (bag : EntityBag) (cfgId quality level : ℕ) (randomLife : ℤ)
    (info : NFTInfo) : NFT :=
  let life := if 0 < info.life.getD 0 then info.life.getD 0 else randomLife
  { id := tokenId
    cfgId := cfgId
    chain := info.mintType.getD 0
    life := life
    curLife := life
    ref := .none
    upgrading := false
    bag := bag
    quality := quality
    level := level
    mintCount := info.mintCount.getD 0
    skill := readSkill bag info.skill
    skillLevel := readSkill bag info.skillLevel
    unused := fun index outside => by simp [readSkill, Nat.not_lt.mpr outside] }

/-- `initialWarShipNFT`, `initialHeroNFT` and `initialBuildNFT`. -/
def initialNFT (tables : Tables) (bag : EntityBag) (tokenId : ℕ) (info : NFTInfo)
    (randomLife : ℤ) : Option NFT := do
  let race ← info.race
  let style ← info.style
  let quality ← info.quality
  let level ← info.level
  let cfgId ← tables.getNFTCfg bag race style quality level
  let initSkill ← tables.initSkill bag cfgId quality level
  return (info.read tokenId bag cfgId quality level randomLife).refreshConfig initSkill

/-- The entity that `dealRechargeNFT` makes of a document. -/
def rechargeNFT (tables : Tables) (tokenId : ℕ) (nftInfo : ℕ → Option NFTInfo)
    (randomLife : ℤ) : Option NFT :=
  (nftInfo tokenId).bind fun info =>
    info.kind.bag?.bind fun bag => initialNFT tables bag tokenId info randomLife

/-! ## There and back -/

/-- An NFT that is withdrawn and recharged; seasons may end in between. -/
structure Crossing (tables : Tables) where
  entity : NFT
  withdrawable : entity.withdrawable = true
  nftInfo : ℕ → Option NFTInfo
  seasons : ℕ
  /-- A new life that the recharge may draw. -/
  randomLife : ℤ
  new : NFT
  new_eq : rechargeNFT tables entity.id
    (resetLevels^[seasons] (syncNFTInfo entity.id entity nftInfo)) randomLife = some new

variable {tables : Tables}

/-- The configuration has no skill where the entity has none. -/
def NFT.Settled (initSkill : List ℕ) (entity : NFT) : Prop :=
  ∀ index : Fin 4, index < skills entity.bag → entity.skill index = 0 →
    (initSkill[index]?).getD 0 = 0

/-- The new entity is like the one that was withdrawn. -/
structure Crossing.Survives (crossing : Crossing tables) : Prop where
  bag : crossing.new.bag = crossing.entity.bag
  cfgId : crossing.new.cfgId = crossing.entity.cfgId
  quality : crossing.new.quality = crossing.entity.quality
  level : crossing.new.level = crossing.entity.level
  life : crossing.new.life = crossing.entity.life
  curLife : crossing.new.curLife = crossing.entity.curLife
  skill : crossing.new.skill = crossing.entity.skill
  skillLevel : crossing.new.skillLevel = crossing.entity.skillLevel
  mintCount : crossing.new.mintCount = crossing.entity.mintCount

/-- The document that the withdrawal finds says the same as the entity where it is not written, and
nothing that is written changes on the way. -/
structure Crossing.Faithful (crossing : Crossing tables) (info : NFTInfo) : Prop where
  kind : info.kind.bag? = some crossing.entity.bag
  quality : info.quality = some crossing.entity.quality
  mintCount : info.mintCount.getD 0 = crossing.entity.mintCount
  level : crossing.seasons = 0 ∨ crossing.entity.level = 1
  cfgId : ∀ race ∈ info.race, ∀ style ∈ info.style,
    tables.getNFTCfg crossing.entity.bag race style crossing.entity.quality
      crossing.entity.level = some crossing.entity.cfgId
  life : 0 < crossing.entity.life ∨ crossing.randomLife = crossing.entity.life
  curLife : crossing.entity.curLife = crossing.entity.life
  skill : ∀ initSkill ∈ tables.initSkill crossing.entity.bag crossing.entity.cfgId
    crossing.entity.quality crossing.entity.level, crossing.entity.Settled initSkill

section Proofs

theorem resetLevels_iterate (seasons tokenId : ℕ) (nftInfo : ℕ → Option NFTInfo) :
    resetLevels^[seasons] nftInfo tokenId = (nftInfo tokenId).map fun info =>
      { info with level := if seasons = 0 then info.level else some 1 } := by
  induction seasons generalizing nftInfo with
  | zero => simp
  | succ seasons ih =>
      rw [Function.iterate_succ_apply, ih, resetLevels, Option.map_map]
      congr 1
      funext info
      simp

theorem initialNFT_eq_some {bag : EntityBag} {tokenId : ℕ} {info : NFTInfo} {randomLife : ℤ}
    {new : NFT} (created : initialNFT tables bag tokenId info randomLife = some new) :
    ∃ race style quality level cfgId initSkill,
      info.race = some race ∧ info.style = some style ∧ info.quality = some quality ∧
      info.level = some level ∧ tables.getNFTCfg bag race style quality level = some cfgId ∧
      tables.initSkill bag cfgId quality level = some initSkill ∧
      new = (info.read tokenId bag cfgId quality level randomLife).refreshConfig initSkill := by
  unfold initialNFT at created
  simp only [Option.bind_eq_bind, Option.bind_eq_some_iff, Option.pure_def,
    Option.some.injEq] at created
  obtain ⟨race, race_eq, style, style_eq, quality, quality_eq, level, level_eq, cfgId, cfgId_eq,
    initSkill, initSkill_eq, rfl⟩ := created
  exact ⟨race, style, quality, level, cfgId, initSkill, race_eq, style_eq, quality_eq, level_eq,
    cfgId_eq, initSkill_eq, rfl⟩

theorem readSkill_setFrom (entity : NFT) (info : NFTInfo) :
    readSkill entity.bag (info.setFrom entity).skill = entity.skill ∧
      readSkill entity.bag (info.setFrom entity).skillLevel = entity.skillLevel := by
  constructor <;> funext index <;> unfold readSkill <;> split
  · simp [NFTInfo.setFrom, *]
  · exact (entity.unused index (by omega)).1.symm
  · simp [NFTInfo.setFrom, *]
  · exact (entity.unused index (by omega)).2.symm

variable {initSkill : List ℕ} {entity : NFT}

theorem NFT.Settled.not_refreshed (settled : entity.Settled initSkill) (index : Fin 4) :
    (decide (index < skills entity.bag) && refreshSkill initSkill entity.skill index) = false := by
  simp only [refreshSkill, Bool.and_eq_false_imp, decide_eq_true_eq, decide_eq_false_iff_not,
    not_not]
  exact settled index

theorem refreshConfig_skill :
    (entity.refreshConfig initSkill).skill = entity.skill ↔ entity.Settled initSkill := by
  constructor
  · intro same index inside absent
    have at_index : (entity.refreshConfig initSkill).skill index = 0 :=
      (congrFun same index).trans absent
    simpa [NFT.refreshConfig, refreshSkill, inside, absent] using at_index
  · intro settled
    funext index
    simp only [NFT.refreshConfig, settled.not_refreshed]
    rfl

theorem refreshConfig_skillLevel (settled : entity.Settled initSkill) :
    (entity.refreshConfig initSkill).skillLevel = entity.skillLevel := by
  funext index
  simp only [NFT.refreshConfig, settled.not_refreshed]
  rfl

/-- The document that an NFT is recharged from. -/
def Crossing.sent (crossing : Crossing tables) (info : NFTInfo) : NFTInfo :=
  { info.setFrom crossing.entity with
    level := if crossing.seasons = 0 then some crossing.entity.level else some 1 }

theorem Crossing.new_spec (crossing : Crossing tables) :
    ∃ info bag, crossing.nftInfo crossing.entity.id = some info ∧ info.kind.bag? = some bag ∧
      initialNFT tables bag crossing.entity.id (crossing.sent info) crossing.randomLife =
        some crossing.new := by
  have new_eq := crossing.new_eq
  rw [rechargeNFT, resetLevels_iterate, syncNFTInfo, Function.update_self, Option.map_map] at new_eq
  cases info_eq : crossing.nftInfo crossing.entity.id with
  | none => simp [info_eq] at new_eq
  | some info =>
      rw [info_eq, Option.map_some, Option.bind_some, Option.bind_eq_some_iff] at new_eq
      obtain ⟨bag, bag_eq, created⟩ := new_eq
      exact ⟨info, bag, rfl, bag_eq, created⟩

/-- The skills of the new entity are those of the old one if their configuration adds none. -/
theorem Crossing.skills_iff (crossing : Crossing tables) {info : NFTInfo} {cfgId quality level : ℕ}
    (new_eq : crossing.new = ((crossing.sent info).read crossing.entity.id crossing.entity.bag cfgId
      quality level crossing.randomLife).refreshConfig initSkill) :
    (crossing.new.skill = crossing.entity.skill ∧
      crossing.new.skillLevel = crossing.entity.skillLevel) ↔
        crossing.entity.Settled initSkill := by
  obtain ⟨skill_eq, skillLevel_eq⟩ := readSkill_setFrom crossing.entity info
  have settled_iff : ((crossing.sent info).read crossing.entity.id crossing.entity.bag cfgId quality
      level crossing.randomLife).Settled initSkill ↔ crossing.entity.Settled initSkill := by
    simp only [NFT.Settled, NFTInfo.read, sent, skill_eq]
  rw [← settled_iff, ← refreshConfig_skill, ← new_eq]
  constructor
  · exact fun same => same.1.trans skill_eq.symm
  · intro same
    refine ⟨same.trans skill_eq, ?_⟩
    rw [new_eq] at same ⊢
    exact (refreshConfig_skillLevel (refreshConfig_skill.mp same)).trans skillLevel_eq

/-- An NFT survives the bridge exactly if the document that the withdrawal found agrees with it on
what is not written, and nothing that is written is changed on the way. -/
theorem survives_iff (tables : Tables) (crossing : Crossing tables) :
    crossing.Survives ↔
      ∃ info ∈ crossing.nftInfo crossing.entity.id, crossing.Faithful info := by
  obtain ⟨info, bag, info_eq, bag_eq, created⟩ := crossing.new_spec
  obtain ⟨race, style, quality, level, cfgId, initSkill, race_eq, style_eq, quality_eq, level_eq,
    cfgId_eq, initSkill_eq, new_eq⟩ := initialNFT_eq_some created
  have new_bag : crossing.new.bag = bag := by rw [new_eq]; rfl
  have new_cfgId : crossing.new.cfgId = cfgId := by rw [new_eq]; rfl
  have new_quality : crossing.new.quality = quality := by rw [new_eq]; rfl
  have new_level : crossing.new.level = level := by rw [new_eq]; rfl
  have new_mintCount : crossing.new.mintCount = info.mintCount.getD 0 := by rw [new_eq]; rfl
  have new_life : crossing.new.life =
      if 0 < crossing.entity.life then crossing.entity.life else crossing.randomLife := by
    rw [new_eq]
    rfl
  have new_curLife : crossing.new.curLife = crossing.new.life := by rw [new_eq]; rfl
  simp only [info_eq, Option.mem_some_iff, exists_eq_left']
  constructor
  · intro survives
    obtain rfl : bag = crossing.entity.bag := new_bag.symm.trans survives.bag
    obtain rfl : cfgId = crossing.entity.cfgId := new_cfgId.symm.trans survives.cfgId
    obtain rfl : quality = crossing.entity.quality := new_quality.symm.trans survives.quality
    obtain rfl : level = crossing.entity.level := new_level.symm.trans survives.level
    refine ⟨bag_eq, quality_eq, new_mintCount.symm.trans survives.mintCount, ?_, ?_, ?_, ?_, ?_⟩
    · by_cases never : crossing.seasons = 0
      · exact .inl never
      · have reset : (crossing.sent info).level = some 1 := if_neg never
        exact .inr (Option.some.inj (level_eq.symm.trans reset))
    · intro other other_eq second second_eq
      cases race_eq.symm.trans other_eq
      cases style_eq.symm.trans second_eq
      exact cfgId_eq
    · by_cases alive : 0 < crossing.entity.life
      · exact .inl alive
      · rw [if_neg alive] at new_life
        exact .inr (new_life.symm.trans survives.life)
    · rw [← survives.curLife, new_curLife, survives.life]
    · intro other other_eq
      cases initSkill_eq.symm.trans other_eq
      exact (crossing.skills_iff new_eq).mp ⟨survives.skill, survives.skillLevel⟩
  · intro faithful
    obtain rfl : bag = crossing.entity.bag :=
      Option.some.inj (bag_eq.symm.trans faithful.kind)
    obtain rfl : quality = crossing.entity.quality :=
      Option.some.inj (quality_eq.symm.trans faithful.quality)
    have sent_level : (crossing.sent info).level = some crossing.entity.level := by
      obtain never | first := faithful.level
      · exact if_pos never
      · simp only [Crossing.sent, first, ite_self]
    obtain rfl : level = crossing.entity.level :=
      Option.some.inj (level_eq.symm.trans sent_level)
    obtain rfl : cfgId = crossing.entity.cfgId :=
      Option.some.inj (cfgId_eq.symm.trans (faithful.cfgId race race_eq style style_eq))
    have same_life : crossing.new.life = crossing.entity.life := by
      rw [new_life]
      split
      · rfl
      next dead => exact faithful.life.resolve_left dead
    obtain ⟨same_skill, same_skillLevel⟩ :=
      (crossing.skills_iff new_eq).mpr (faithful.skill initSkill initSkill_eq)
    exact ⟨new_bag, new_cfgId, new_quality, new_level, same_life,
      new_curLife.trans (same_life.trans faithful.curLife.symm), same_skill, same_skillLevel,
      new_mintCount.trans faithful.mintCount⟩

end Proofs

def mintedTables : Tables where
  getNFTCfg _ _ _ _ _ := some 7
  initSkill _ _ _ _ := some []

def mintedHero : NFT where
  id := 1002
  cfgId := 7
  chain := 97
  life := 50
  curLife := 50
  ref := .none
  upgrading := false
  bag := .heroBag
  quality := 2
  level := 4
  mintCount := 1
  skill _ := 0
  skillLevel _ := 0
  unused _ _ := ⟨rfl, rfl⟩

/-- The document that the hero was recharged from. -/
def mintedInfo : NFTInfo where
  kind := .hero
  race := some 1
  style := some 1
  quality := some 2
  level := some 1
  mintType := some 97
  life := some 50
  curLife := some 50
  skill _ := none
  skillLevel _ := none
  mintCount := none

/-- It is recharged in the same season. -/
def mintedCrossing : Crossing mintedTables where
  entity := mintedHero
  withdrawable := rfl
  nftInfo tokenId := if tokenId = 1002 then some mintedInfo else none
  seasons := 0
  randomLife := 50
  new := ((mintedInfo.setFrom mintedHero).read 1002 .heroBag 7 2 4 50).refreshConfig []
  new_eq := rfl

/-- It may mint again as if it never had. -/
theorem not_survives_minted :
    ¬∀ (tables : Tables) (crossing : Crossing tables), crossing.Survives := by
  intro survives
  exact absurd (survives mintedTables mintedCrossing).mintCount (by decide +kernel)

end BasWar.ChainBridge.NFTRecord
