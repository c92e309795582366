import BasWar.Pvp.SkillSystem
import Mathlib.Data.List.Perm.Subperm

/-!
# The skill system is closed

What is collected refers to nothing that is left out, and the collecting ends: every search lists an
entry that was not listed, and every summoning lists soldiers that were not listed.  It fails at a
reference of a building, a soldier or a hero to a skill that has no row.
-/

namespace BasWar.Pvp.SkillSystem

open Tables

variable {cfg : BattleCfg} {battle : Battle}

/-! ## What can be reached -/

def BattleCfg.summons (cfg : BattleCfg) (skillEffect : SkillEffectCfg) : Option SoliderCfg :=
  if skillEffect.entityCfgId = 0 then none
  else skillEffect.args.bind fun args => cfg.getSoliderCfg skillEffect.entityCfgId args[0]?

/-- The entry that a reference leads to; a skill that is given stands for its id. -/
def leads (cfg : BattleCfg) (battle : Battle) (ref : Ref) : Option Item :=
  match ref with
  | .skill cfgId =>
      if battle.skills.any fun skill => skill.cfgId = cfgId then none else cfg.get (.skill cfgId)
  | ref => cfg.get ref

/-- The entries that the references of a battle lead to. -/
inductive Reached (cfg : BattleCfg) (battle : Battle) : Item → Prop
  | given {skill : SkillCfg} : skill ∈ battle.skills → Reached cfg battle (.skill skill)
  | heroSkill {skill : SkillCfg} : skill ∈ battle.heroSkills → Reached cfg battle (.skill skill)
  | fights {cfgId : ℤ} {item : Item} : cfgId ∈ battle.skillIds →
      leads cfg battle (.skill cfgId) = some item → Reached cfg battle item
  | follows {item other : Item} {ref : Ref} : Reached cfg battle item → ref ∈ item.refs →
      leads cfg battle ref = some other → Reached cfg battle other
  | summoned {skillEffect : SkillEffectCfg} {solider : SoliderCfg} {cfgId : ℤ} {item : Item} :
      Reached cfg battle (.skillEffect skillEffect) → cfg.summons skillEffect = some solider →
      cfgId ∈ solider.skillIds → leads cfg battle (.skill cfgId) = some item →
      Reached cfg battle item

/-- A skill id that can be asked for: it has a row, or a skill with the id was given. -/
def Known (cfg : BattleCfg) (battle : Battle) (cfgId : ℤ) : Prop :=
  cfgId = 0 ∨ (cfg.getSkillCfg cfgId).isSome = true ∨ ∃ skill ∈ battle.skills, skill.cfgId = cfgId

/-- The fighters have their skills, and the summoned soldiers have their rows, each at one level. -/
structure Resolvable (cfg : BattleCfg) (battle : Battle) : Prop where
  fights : ∀ cfgId ∈ battle.skillIds, Known cfg battle cfgId
  summons : ∀ skillEffect, Reached cfg battle (.skillEffect skillEffect) →
    skillEffect.entityCfgId ≠ 0 → (cfg.summons skillEffect).isSome = true
  summoned : ∀ skillEffect solider, Reached cfg battle (.skillEffect skillEffect) →
    cfg.summons skillEffect = some solider → ∀ cfgId ∈ solider.skillIds, Known cfg battle cfgId
  levels : ∀ first second soliders others, Reached cfg battle (.skillEffect first) →
    Reached cfg battle (.skillEffect second) → cfg.summons first = some soliders →
    cfg.summons second = some others → soliders.cfgId = others.cfgId → soliders = others

/-- Skill effects that name the same soldier have both a row for it, or none. -/
def Uniform (cfg : BattleCfg) (battle : Battle) : Prop :=
  ∀ first second, Reached cfg battle (.skillEffect first) →
    Reached cfg battle (.skillEffect second) → first.entityCfgId = second.entityCfgId →
    first.args.isSome = true → second.args.isSome = true →
    (cfg.summons first).isSome = (cfg.summons second).isSome

/-- The collecting ends with lists that have each id once and all that can be reached. -/
def Collects (cfg : BattleCfg) (battle : Battle) : Prop :=
  ∃ lists, (∃ enough, ∀ fuel, enough ≤ fuel → collect cfg battle fuel = .ok lists) ∧
    (lists.skillEffects.map SkillEffectCfg.cfgId).Nodup ∧ (lists.buffs.map BuffCfg.cfgId).Nodup ∧
    (lists.summonSoliders.map fun solider => solider.cfgId).Nodup ∧
    (∀ skillEffect, Reached cfg battle (.skillEffect skillEffect) →
      skillEffect ∈ lists.skillEffects) ∧
    (∀ buff, Reached cfg battle (.buff buff) → buff ∈ lists.buffs) ∧
    ∀ skillEffect solider, Reached cfg battle (.skillEffect skillEffect) →
      cfg.summons skillEffect = some solider →
      ∃ entry ∈ lists.summonSoliders, entry.toSoliderCfg = solider

/-! ## Lists that grow -/

namespace Lists

def Mem (lists : Lists) : Item → Prop
  | .skill skill => skill ∈ lists.skills
  | .skillEffect skillEffect => skillEffect ∈ lists.skillEffects
  | .buff buff => buff ∈ lists.buffs

/-- Entries are only appended. -/
structure Grows (lists after : Lists) : Prop where
  skills : lists.skills <+: after.skills
  skillEffects : lists.skillEffects <+: after.skillEffects
  buffs : lists.buffs <+: after.buffs
  summonSoliders : lists.summonSoliders <+: after.summonSoliders

theorem Grows.refl (lists : Lists) : lists.Grows lists :=
  ⟨List.prefix_rfl, List.prefix_rfl, List.prefix_rfl, List.prefix_rfl⟩

theorem Grows.trans {lists between after : Lists} (first : lists.Grows between)
    (second : between.Grows after) : lists.Grows after :=
  ⟨first.skills.trans second.skills, first.skillEffects.trans second.skillEffects,
    first.buffs.trans second.buffs, first.summonSoliders.trans second.summonSoliders⟩

theorem repeatCfgId_iff {lists : Lists} {ref : Ref} :
    lists.repeatCfgId ref = true ↔ ∃ item, lists.Mem item ∧ item.ref = ref := by
  constructor
  · intro listed
    cases ref with
    | skill cfgId =>
        obtain ⟨entry, entry_mem, same⟩ := List.any_eq_true.mp listed
        exact ⟨.skill entry, entry_mem, congrArg Ref.skill (of_decide_eq_true same)⟩
    | skillEffect cfgId =>
        obtain ⟨entry, entry_mem, same⟩ := List.any_eq_true.mp listed
        exact ⟨.skillEffect entry, entry_mem, congrArg Ref.skillEffect (of_decide_eq_true same)⟩
    | buff cfgId =>
        obtain ⟨entry, entry_mem, same⟩ := List.any_eq_true.mp listed
        exact ⟨.buff entry, entry_mem, congrArg Ref.buff (of_decide_eq_true same)⟩
  · rintro ⟨item, item_mem, rfl⟩
    cases item with
    | skill entry => exact List.any_eq_true.mpr ⟨entry, item_mem, decide_eq_true rfl⟩
    | skillEffect entry => exact List.any_eq_true.mpr ⟨entry, item_mem, decide_eq_true rfl⟩
    | buff entry => exact List.any_eq_true.mpr ⟨entry, item_mem, decide_eq_true rfl⟩

theorem repeatSolider_iff {lists : Lists} {cfgId : ℤ} :
    lists.repeatSolider cfgId = true ↔
      ∃ solider ∈ lists.summonSoliders, solider.cfgId = cfgId := by
  simp [repeatSolider]

theorem Grows.mem {lists after : Lists} (grows : lists.Grows after) {item : Item}
    (item_mem : lists.Mem item) : after.Mem item := by
  cases item with
  | skill => exact grows.skills.subset item_mem
  | skillEffect => exact grows.skillEffects.subset item_mem
  | buff => exact grows.buffs.subset item_mem

theorem Grows.extends {lists after : Lists} (grows : lists.Grows after) (ref : Ref)
    (listed : lists.repeatCfgId ref = true) : after.repeatCfgId ref = true := by
  rw [repeatCfgId_iff] at *
  obtain ⟨item, item_mem, same⟩ := listed
  exact ⟨item, grows.mem item_mem, same⟩

theorem grows_insert (lists : Lists) (item : Item) : lists.Grows (lists.insert item) := by
  cases item <;>
    constructor <;> first | exact List.prefix_append _ _ | exact List.prefix_rfl

theorem mem_insert {lists : Lists} {item other : Item} :
    (lists.insert item).Mem other ↔ lists.Mem other ∨ other = item := by
  cases item <;> cases other <;> simp [insert, Mem]

theorem Grows.repeatSolider {lists after : Lists} (grows : lists.Grows after) {cfgId : ℤ}
    (listed : lists.repeatSolider cfgId = true) : after.repeatSolider cfgId = true := by
  rw [repeatSolider_iff] at *
  obtain ⟨solider, solider_mem, same⟩ := listed
  exact ⟨solider, grows.summonSoliders.subset solider_mem, same⟩

theorem grows_summon (lists : Lists) (solider : Solider) : lists.Grows (lists.summon solider) :=
  ⟨List.prefix_rfl, List.prefix_rfl, List.prefix_rfl, List.prefix_append _ _⟩

end Lists

/-! ## What every list has -/

/-- All that is listed can be reached and has its row, and no id is listed twice. -/
structure Sound (cfg : BattleCfg) (battle : Battle) (lists : Lists) : Prop where
  given : ∀ skill ∈ battle.skills, skill ∈ lists.skills
  reached : ∀ item, lists.Mem item → Reached cfg battle item
  rows : ∀ item, lists.Mem item →
    cfg.get item.ref = some item ∨ ∃ skill ∈ battle.skills, item = .skill skill
  soliders : ∀ solider ∈ lists.summonSoliders, ∃ skillEffect,
    Reached cfg battle (.skillEffect skillEffect) ∧
      cfg.summons skillEffect = some solider.toSoliderCfg
  skillEffects_nodup : (lists.skillEffects.map SkillEffectCfg.cfgId).Nodup
  buffs_nodup : (lists.buffs.map BuffCfg.cfgId).Nodup
  soliders_nodup : (lists.summonSoliders.map fun solider => solider.cfgId).Nodup

/-- The references of an entry that `getBuffAndSkillEffect` follows are listed. -/
abbrev Complete (cfg : BattleCfg) (lists : Lists) (item : Item) : Prop :=
  (following cfg).Complete lists item

section Steps

variable {lists after base : Lists} {item : Item}

theorem Lists.Grows.complete (grows : lists.Grows after) (complete : Complete cfg lists item) :
    Complete cfg after item :=
  Following.Complete.mono complete grows.extends

theorem Sound.leads_eq (sound : Sound cfg battle lists) {ref : Ref}
    (absent : lists.repeatCfgId ref = false) : leads cfg battle ref = cfg.get ref := by
  cases ref with
  | skillEffect cfgId => rfl
  | buff cfgId => rfl
  | skill cfgId =>
      refine if_neg fun given => ?_
      obtain ⟨skill, skill_mem, same⟩ := List.any_eq_true.mp given
      have listed := Lists.repeatCfgId_iff.mpr ⟨.skill skill, sound.given skill skill_mem,
        congrArg Ref.skill (of_decide_eq_true same)⟩
      rw [absent] at listed
      cases listed

theorem nodup_append_id {Entry : Type*} {name : Entry → ℤ} {entries : List Entry} {entry : Entry}
    (nodup : (entries.map name).Nodup) (absent : ∀ other ∈ entries, name other ≠ name entry) :
    ((entries ++ [entry]).map name).Nodup := by
  rw [List.map_append, List.map_singleton, List.nodup_append]
  refine ⟨nodup, List.nodup_singleton _, fun first first_mem second second_mem => ?_⟩
  obtain ⟨other, other_mem, rfl⟩ := List.mem_map.mp first_mem
  rw [List.mem_singleton.mp second_mem]
  exact absent other other_mem

theorem Sound.insert (sound : Sound cfg battle lists) {ref : Ref}
    (absent : lists.repeatCfgId ref = false) (found : cfg.get ref = some item)
    (reached : Reached cfg battle item) : Sound cfg battle (lists.insert item) := by
  have ref_eq := get_ref found
  have fresh : ∀ other, lists.Mem other → other.ref ≠ item.ref := by
    intro other other_mem same
    have listed := Lists.repeatCfgId_iff.mpr ⟨other, other_mem, same.trans ref_eq⟩
    rw [absent] at listed
    cases listed
  refine ⟨fun skill skill_mem => ?_, fun other other_mem => ?_, fun other other_mem => ?_,
    ?_, ?_, ?_, ?_⟩
  · exact (lists.grows_insert item).skills.subset (sound.given skill skill_mem)
  · obtain old | rfl := Lists.mem_insert.mp other_mem
    · exact sound.reached other old
    · exact reached
  · obtain old | rfl := Lists.mem_insert.mp other_mem
    · exact sound.rows other old
    · exact .inl (ref_eq ▸ found)
  · cases item <;> exact sound.soliders
  · cases item with
    | skill => exact sound.skillEffects_nodup
    | skillEffect entry =>
        refine nodup_append_id sound.skillEffects_nodup fun other other_mem same => ?_
        exact fresh (.skillEffect other) other_mem (congrArg Ref.skillEffect same)
    | buff => exact sound.skillEffects_nodup
  · cases item with
    | skill => exact sound.buffs_nodup
    | skillEffect => exact sound.buffs_nodup
    | buff entry =>
        refine nodup_append_id sound.buffs_nodup fun other other_mem same => ?_
        exact fresh (.buff other) other_mem (congrArg Ref.buff same)
  · cases item <;> exact sound.soliders_nodup

theorem Sound.summon (sound : Sound cfg battle lists) {skillEffect : SkillEffectCfg}
    {solider : Solider} (absent : lists.repeatSolider solider.cfgId = false)
    (reached : Reached cfg battle (.skillEffect skillEffect))
    (summons : cfg.summons skillEffect = some solider.toSoliderCfg) :
    Sound cfg battle (lists.summon solider) := by
  refine ⟨sound.given, fun item => ?_, fun item => ?_, fun other other_mem => ?_,
    sound.skillEffects_nodup, sound.buffs_nodup, ?_⟩
  · have same : (lists.summon solider).Mem item = lists.Mem item := by cases item <;> rfl
    rw [same]
    exact sound.reached item
  · have same : (lists.summon solider).Mem item = lists.Mem item := by cases item <;> rfl
    rw [same]
    exact sound.rows item
  · obtain old | new := List.mem_append.mp other_mem
    · exact sound.soliders other old
    · rw [List.mem_singleton.mp new]
      exact ⟨skillEffect, reached, summons⟩
  · refine nodup_append_id sound.soliders_nodup fun other other_mem same => ?_
    have listed := Lists.repeatSolider_iff.mpr ⟨other, other_mem, same⟩
    rw [absent] at listed
    cases listed

end Steps

/-- A run that returns leaves what it should, one that fails has met a missing row, and one that had
too few rounds was not given enough. -/
def Meets (cfg : BattleCfg) (battle : Battle) (enough : Prop) (result : Except Stop Lists)
    (post : Lists → Prop) : Prop :=
  match result with
  | .ok after => post after
  | .error .raise => ¬Resolvable cfg battle
  | .error .rounds => ¬enough

section Meets

variable {enough : Prop} {result : Except Stop Lists} {post : Lists → Prop}

theorem Meets.bind {next : Lists → Except Stop Lists} {last : Lists → Prop}
    (met : Meets cfg battle enough result post)
    (rest : ∀ after, post after → Meets cfg battle enough (next after) last) :
    Meets cfg battle enough (result >>= next) last :=
  match result with
  | .ok after => rest after met
  | .error .raise => met
  | .error .rounds => met

theorem Meets.imp {last : Lists → Prop} {less : Prop} (met : Meets cfg battle enough result post)
    (suffices' : less → enough) (implies : ∀ after, post after → last after) :
    Meets cfg battle less result last :=
  match result with
  | .ok after => implies after met
  | .error .raise => met
  | .error .rounds => fun is_less => met (suffices' is_less)

end Meets

/-! ## Following -/

/-- All entries with a row that can be followed. -/
def BattleCfg.keys (cfg : BattleCfg) : List Ref :=
  cfg.skills.objects.map (fun row => .skill row.cfgId) ++
    cfg.skillEffects.objects.map (fun row => .skillEffect row.cfgId) ++
    cfg.buffs.objects.map fun row => .buff row.cfgId

theorem mem_keys {ref : Ref} {item : Item} (found : cfg.get ref = some item) :
    ref ∈ cfg.keys := by
  obtain ⟨rfl, row⟩ := get_row found
  unfold BattleCfg.keys
  cases item with
  | skill => exact List.mem_append_left _ (List.mem_append_left _ (List.mem_map_of_mem row))
  | skillEffect => exact List.mem_append_left _ (List.mem_append_right _ (List.mem_map_of_mem row))
  | buff => exact List.mem_append_right _ (List.mem_map_of_mem row)

structure Extended (cfg : BattleCfg) (battle : Battle) (base after : Lists) : Prop where
  sound : Sound cfg battle after
  grows : base.Grows after
  summonSoliders : after.summonSoliders = base.summonSoliders
  complete : ∀ item, after.Mem item → base.Mem item ∨ Complete cfg after item

structure Underway (cfg : BattleCfg) (battle : Battle) (base after : Lists) : Prop where
  sound : Sound cfg battle after
  grows : base.Grows after
  summonSoliders : after.summonSoliders = base.summonSoliders
  new : ∀ item, after.Mem item → base.Mem item ∨
    (cfg.get item.ref = some item ∧ base.repeatCfgId item.ref = false)

section Following

variable {base after lists : Lists} {item : Item}

theorem underway_kept (base : Lists) :
    (following cfg).Kept (Reached cfg battle) (Underway cfg battle base) where
  met underway absent reached ref_mem found :=
    reached.follows ref_mem ((underway.sound.leads_eq absent).trans found)
  insert := by
    intro lists ref item underway absent found reached
    have ref_eq := get_ref found
    refine ⟨underway.sound.insert absent found reached,
      underway.grows.trans (lists.grows_insert item), ?_, fun other other_mem => ?_⟩
    · cases item <;> exact underway.summonSoliders
    · obtain old | rfl := Lists.mem_insert.mp other_mem
      · exact underway.new other old
      · refine .inr ⟨ref_eq ▸ found, ?_⟩
        by_contra listed
        have still := underway.grows.extends _ (by simpa using listed)
        rw [ref_eq] at still
        exact Bool.false_ne_true (absent.symm.trans still)

theorem getBuffAndSkillEffect_meets (fuel : ℕ) (sound : Sound cfg battle lists)
    (reached : Reached cfg battle item) :
    Meets cfg battle (cfg.keys.length < fuel) (getBuffAndSkillEffect cfg fuel item lists)
      fun after => Extended cfg battle lists after ∧ Complete cfg after item := by
  unfold getBuffAndSkillEffect
  cases followed : (following cfg).follow fuel item lists with
  | none =>
      intro enough
      have left : (following cfg).unlisted cfg.keys lists < fuel :=
        lt_of_le_of_lt (List.length_filter_le _ _) enough
      obtain ⟨after, after_eq⟩ :=
        Following.follow_returns (fun _ _ found => mem_keys found) left item
      rw [followed] at after_eq
      cases after_eq
  | some after =>
      obtain ⟨underway, closes, complete⟩ := Following.follow_spec (underway_kept lists) reached
        ⟨sound, .refl lists, rfl, fun _ old => .inl old⟩ followed
      refine ⟨⟨underway.sound, underway.grows, underway.summonSoliders, fun other other_mem => ?_⟩,
        complete⟩
      refine (underway.new other other_mem).imp_right fun ⟨found, fresh⟩ => ?_
      obtain ⟨same, same_eq, same_complete⟩ := closes.closed other.ref
        (Lists.repeatCfgId_iff.mpr ⟨other, other_mem, rfl⟩) fresh
      cases found.symm.trans same_eq
      exact same_complete

structure Armed (cfg : BattleCfg) (battle : Battle) (ids : List ℤ) (base after : Lists) :
    Prop where
  sound : Sound cfg battle after
  grows : base.Grows after
  skillEffects : after.skillEffects = base.skillEffects
  buffs : after.buffs = base.buffs
  summonSoliders : after.summonSoliders = base.summonSoliders
  listed : ∀ cfgId ∈ ids, cfgId ≠ 0 → after.repeatCfgId (.skill cfgId) = true

/-- The ids of skills that fighters ask for. -/
structure Asked (cfg : BattleCfg) (battle : Battle) (ids : List ℤ) : Prop where
  reached : ∀ cfgId ∈ ids, ∀ item, leads cfg battle (.skill cfgId) = some item →
    Reached cfg battle item
  known : Resolvable cfg battle → ∀ cfgId ∈ ids, Known cfg battle cfgId

theorem addSkill_meets {cfgId : ℤ} (asked : Asked cfg battle [cfgId])
    (sound : Sound cfg battle lists) :
    Meets cfg battle True (addSkill cfg lists cfgId) (Armed cfg battle [cfgId] lists) := by
  unfold addSkill
  split
  next passed =>
    refine ⟨sound, .refl lists, rfl, rfl, rfl, fun other other_mem named => ?_⟩
    rw [List.mem_singleton.mp other_mem] at named ⊢
    exact passed.resolve_left named
  next new =>
    obtain ⟨named, absent⟩ := not_or.mp new
    rw [Bool.not_eq_true] at absent
    split
    next none_eq =>
      intro resolvable
      obtain zero | row | ⟨skill, skill_mem, same⟩ :=
        asked.known resolvable cfgId (List.mem_singleton_self _)
      · exact named zero
      · rw [none_eq] at row
        cases row
      · have listed := Lists.repeatCfgId_iff.mpr
          ⟨.skill skill, sound.given skill skill_mem, congrArg Ref.skill same⟩
        rw [absent] at listed
        cases listed
    next skill skill_eq =>
      have found : cfg.get (.skill cfgId) = some (.skill skill) := by
        simp [BattleCfg.get, named, skill_eq]
      have reached := asked.reached cfgId (List.mem_singleton_self _) _
        ((sound.leads_eq absent).trans found)
      refine ⟨sound.insert absent found reached, lists.grows_insert _, rfl, rfl, rfl, ?_⟩
      intro other other_mem _
      rw [List.mem_singleton.mp other_mem]
      exact repeatCfgId_insert.mpr (.inl (get_ref found).symm)

theorem addSkills_meets {ids : List ℤ} (asked : Asked cfg battle ids)
    (sound : Sound cfg battle lists) :
    Meets cfg battle True (ids.foldlM (addSkill cfg) lists) (Armed cfg battle ids lists) := by
  induction ids generalizing lists with
  | nil => exact ⟨sound, .refl lists, rfl, rfl, rfl, by simp⟩
  | cons cfgId ids ih =>
      have first : Asked cfg battle [cfgId] := by
        refine ⟨fun other other_mem => ?_, fun resolvable other other_mem => ?_⟩ <;>
          rw [List.mem_singleton.mp other_mem]
        · exact asked.reached cfgId List.mem_cons_self
        · exact asked.known resolvable cfgId List.mem_cons_self
      have others : Asked cfg battle ids :=
        ⟨fun other other_mem => asked.reached other (List.mem_cons_of_mem _ other_mem),
          fun resolvable other other_mem =>
            asked.known resolvable other (List.mem_cons_of_mem _ other_mem)⟩
      rw [List.foldlM_cons]
      refine (addSkill_meets first sound).bind fun next armed => ?_
      refine (ih others armed.sound).imp id fun after last => ?_
      refine ⟨last.sound, armed.grows.trans last.grows, last.skillEffects.trans armed.skillEffects,
        last.buffs.trans armed.buffs, last.summonSoliders.trans armed.summonSoliders, ?_⟩
      intro other other_mem named
      obtain rfl | other_mem := List.mem_cons.mp other_mem
      · exact last.grows.extends _ (armed.listed other (List.mem_singleton_self _) named)
      · exact last.listed other other_mem named

structure Effected (cfg : BattleCfg) (battle : Battle) (roots : List SkillCfg)
    (base after : Lists) : Prop where
  sound : Sound cfg battle after
  grows : base.Grows after
  skills : after.skills = base.skills
  buffs : after.buffs = base.buffs
  summonSoliders : after.summonSoliders = base.summonSoliders
  complete : ∀ skill ∈ roots, Complete cfg after (.skill skill)

theorem addSkillEffect_effected {skill : SkillCfg} (reached : Reached cfg battle (.skill skill))
    (sound : Sound cfg battle lists) :
    Effected cfg battle [skill] lists (addSkillEffect cfg lists skill) := by
  have complete_of : ∀ after : Lists, ((cfg.get (.skillEffect skill.skillEffectCfgId)).isSome →
      after.repeatCfgId (.skillEffect skill.skillEffectCfgId) = true) →
      ∀ other ∈ [skill], Complete cfg after (.skill other) := by
    intro after listed other other_mem ref ref_mem
    rw [List.mem_singleton.mp other_mem] at ref_mem
    rw [List.mem_singleton.mp ref_mem]
    exact listed
  unfold addSkillEffect
  split
  next listed =>
    exact ⟨sound, .refl lists, rfl, rfl, rfl, complete_of lists fun _ => listed⟩
  next absent =>
    rw [Bool.not_eq_true] at absent
    split
    next none_eq =>
      refine ⟨sound, .refl lists, rfl, rfl, rfl, complete_of lists fun found => ?_⟩
      rw [none_eq] at found
      cases found
    next item found =>
      have item_reached : Reached cfg battle item :=
        reached.follows (List.mem_singleton_self _) found
      have ref_eq := get_ref found
      cases item with
      | skillEffect entry =>
          exact ⟨sound.insert absent found item_reached, lists.grows_insert _, rfl, rfl, rfl,
            complete_of _ fun _ => repeatCfgId_insert.mpr (.inl ref_eq.symm)⟩
      | skill entry => cases ref_eq
      | buff entry => cases ref_eq

theorem addSkillEffects_effected {skills : List SkillCfg}
    (reached : ∀ skill ∈ skills, Reached cfg battle (.skill skill))
    (sound : Sound cfg battle lists) :
    Effected cfg battle skills lists (skills.foldl (addSkillEffect cfg) lists) := by
  induction skills generalizing lists with
  | nil => exact ⟨sound, .refl lists, rfl, rfl, rfl, by simp⟩
  | cons skill skills ih =>
      have first := addSkillEffect_effected (reached skill List.mem_cons_self) sound
      have last := ih (fun other other_mem => reached other (List.mem_cons_of_mem _ other_mem))
        first.sound
      rw [List.foldl_cons]
      refine ⟨last.sound, first.grows.trans last.grows, last.skills.trans first.skills,
        last.buffs.trans first.buffs, last.summonSoliders.trans first.summonSoliders, ?_⟩
      intro other other_mem
      obtain rfl | other_mem := List.mem_cons.mp other_mem
      · exact last.grows.complete (first.complete other (List.mem_singleton_self _))
      · exact last.complete other other_mem

theorem Sound.skillEffects_length (sound : Sound cfg battle lists) :
    lists.skillEffects.length ≤ cfg.keys.length := by
  have refs_nodup : (lists.skillEffects.map fun entry => Ref.skillEffect entry.cfgId).Nodup := by
    have map_eq : (lists.skillEffects.map fun entry => Ref.skillEffect entry.cfgId) =
        (lists.skillEffects.map SkillEffectCfg.cfgId).map Ref.skillEffect := by
      rw [List.map_map]
      rfl
    rw [map_eq]
    exact sound.skillEffects_nodup.map fun _ _ same => Ref.skillEffect.inj same
  have inside : (lists.skillEffects.map fun entry => Ref.skillEffect entry.cfgId) ⊆ cfg.keys := by
    intro ref ref_mem
    obtain ⟨entry, entry_mem, rfl⟩ := List.mem_map.mp ref_mem
    obtain found | ⟨skill, -, same⟩ := sound.rows (.skillEffect entry) entry_mem
    · exact mem_keys found
    · cases same
  rw [← List.length_map (f := fun entry : SkillEffectCfg => Ref.skillEffect entry.cfgId)]
  exact (refs_nodup.subperm inside).length_le

/-- The loop over the skill effects completes those from its index on. -/
theorem followAll_meets (fuel rounds index : ℕ) (sound : Sound cfg battle lists)
    (inside : index ≤ lists.skillEffects.length)
    (rest : ∀ item, lists.Mem item → Complete cfg lists item ∨
      ∃ entry ∈ lists.skillEffects.drop index, item = .skillEffect entry) :
    Meets cfg battle (cfg.keys.length < fuel ∧ cfg.keys.length < rounds + index)
      (followAll cfg fuel rounds index lists) fun after =>
        Sound cfg battle after ∧ lists.Grows after ∧
          after.summonSoliders = lists.summonSoliders ∧
          ∀ item, after.Mem item → Complete cfg after item := by
  induction rounds generalizing index lists with
  | zero =>
      intro enough
      have bounded := sound.skillEffects_length
      omega
  | succ rounds ih =>
      unfold followAll
      cases entry_eq : lists.skillEffects[index]? with
      | none =>
          refine ⟨sound, .refl lists, rfl, fun item item_mem => ?_⟩
          refine (rest item item_mem).resolve_right ?_
          rw [List.drop_eq_nil_of_le (List.getElem?_eq_none_iff.mp entry_eq)]
          simp
      | some entry =>
          have entry_mem := List.mem_of_getElem? entry_eq
          have index_lt : index < lists.skillEffects.length :=
            (List.getElem?_eq_some_iff.mp entry_eq).1
          have drop_eq : lists.skillEffects.drop index =
              entry :: lists.skillEffects.drop (index + 1) := by
            rw [List.drop_eq_getElem_cons index_lt, (List.getElem?_eq_some_iff.mp entry_eq).2]
          have entry_reached := sound.reached (.skillEffect entry) entry_mem
          refine ((getBuffAndSkillEffect_meets fuel sound entry_reached).imp And.left
            fun _ => id).bind fun next ⟨extended, complete⟩ => ?_
          obtain ⟨appended, appended_eq⟩ := extended.grows.skillEffects
          have next_inside : index + 1 ≤ next.skillEffects.length := by
            rw [← appended_eq, List.length_append]
            omega
          refine (ih (index + 1) extended.sound next_inside fun item item_mem => ?_).imp ?_ ?_
          · obtain old | new := extended.complete item item_mem
            · obtain done | ⟨other, other_mem, rfl⟩ := rest item old
              · exact .inl (extended.grows.complete done)
              · rw [drop_eq] at other_mem
                obtain rfl | later := List.mem_cons.mp other_mem
                · exact .inl complete
                · refine .inr ⟨other, ?_, rfl⟩
                  rw [← appended_eq, List.drop_append_of_le_length index_lt]
                  exact List.mem_append_left _ later
            · exact .inl new
          · exact fun enough => ⟨enough.1, by omega⟩
          · rintro after ⟨after_sound, grows, summons_eq, all⟩
            exact ⟨after_sound, extended.grows.trans grows,
              summons_eq.trans extended.summonSoliders, all⟩

end Following

/-! ## Summoning -/

/-- Lists whose entries are complete and whose soldiers have their skills. -/
structure Inner (cfg : BattleCfg) (battle : Battle) (lists : Lists) : Prop where
  sound : Sound cfg battle lists
  complete : ∀ item, lists.Mem item → Complete cfg lists item
  armed : ∀ solider ∈ lists.summonSoliders, ∀ cfgId ∈ solider.skillIds, cfgId ≠ 0 →
    lists.repeatCfgId (.skill cfgId) = true

def Done (lists : Lists) (entry : SkillEffectCfg) : Prop :=
  entry.entityCfgId ≠ 0 → entry.args.isSome = true ∧ lists.repeatSolider entry.entityCfgId = true

/-- Nothing is left to be collected. -/
structure Closed (cfg : BattleCfg) (battle : Battle) (lists : Lists) : Prop
    extends Inner cfg battle lists where
  done : ∀ entry ∈ lists.skillEffects, Done lists entry

/-- How many kinds of soldiers are not summoned. -/
def unsummoned (cfg : BattleCfg) (lists : Lists) : ℕ :=
  remaining lists.repeatSolider (cfg.soliders.objects.map fun row => row.cfgId)

def Enough (cfg : BattleCfg) (fuel : ℕ) (lists : Lists) : Prop :=
  cfg.keys.length + 1 + unsummoned cfg lists < fuel

section Summoning

variable {lists after : Lists} {nested : Lists → Except Stop Lists} {fuel : ℕ}

variable {entry : SkillEffectCfg}

theorem summons_eq_some {solider : SoliderCfg} (summons : cfg.summons entry = some solider) :
    entry.entityCfgId ≠ 0 ∧ entry.args.isSome = true ∧ solider.cfgId = entry.entityCfgId ∧
      solider ∈ cfg.soliders.objects := by
  unfold BattleCfg.summons at summons
  split at summons
  next => cases summons
  next named =>
    obtain ⟨args, args_eq, summons⟩ := Option.bind_eq_some_iff.mp summons
    obtain ⟨level, -, solider_eq⟩ := Option.bind_eq_some_iff.mp summons
    obtain ⟨solider_mem, key_eq⟩ := Keyed.get_mem solider_eq
    rw [Prod.mk.injEq] at key_eq
    exact ⟨named, by rw [args_eq]; rfl, key_eq.1, solider_mem⟩

theorem unsummoned_le (grows : lists.Grows after) : unsummoned cfg after ≤ unsummoned cfg lists :=
  remaining_le _ fun _ listed => grows.repeatSolider listed

theorem unsummoned_lt {solider : Solider} (summons : cfg.summons entry = some solider.toSoliderCfg)
    (absent : lists.repeatSolider solider.cfgId = false) :
    unsummoned cfg (lists.summon solider) < unsummoned cfg lists := by
  refine remaining_lt (fun _ listed => (lists.grows_summon solider).repeatSolider listed)
    (List.mem_map_of_mem (summons_eq_some summons).2.2.2) absent ?_
  exact Lists.repeatSolider_iff.mpr
    ⟨solider, List.mem_append_right _ (List.mem_singleton_self _), rfl⟩

/-- What collecting with new soldiers comes to. -/
def NestedMeets (cfg : BattleCfg) (battle : Battle) (fuel : ℕ)
    (nested : Lists → Except Stop Lists) : Prop :=
  ∀ lists entry solider, Inner cfg battle lists → Reached cfg battle (.skillEffect entry) →
    cfg.summons entry = some solider.toSoliderCfg → lists.repeatSolider solider.cfgId = false →
    Meets cfg battle (Enough cfg fuel (lists.summon solider)) (nested (lists.summon solider))
      fun after => Closed cfg battle after ∧ (lists.summon solider).Grows after

theorem summonBy_meets (nested_meets : NestedMeets cfg battle fuel nested)
    (inner : Inner cfg battle lists) (entry_mem : entry ∈ lists.skillEffects) :
    Meets cfg battle (cfg.keys.length + unsummoned cfg lists < fuel)
      (summonBy cfg nested entry lists) fun after =>
        lists.Grows after ∧ (after = lists ∧ Done lists entry ∨ Closed cfg battle after) := by
  have reached := inner.sound.reached (.skillEffect entry) entry_mem
  unfold summonBy
  split
  next none_named =>
    exact ⟨.refl lists, .inl ⟨rfl, fun named => absurd none_named named⟩⟩
  next named =>
    split
    next args_eq =>
      intro resolvable
      have summoned := resolvable.summons entry reached named
      rw [BattleCfg.summons, if_neg named, args_eq] at summoned
      cases summoned
    next args args_eq =>
      split
      next listed =>
        exact ⟨.refl lists, .inl ⟨rfl, fun _ => ⟨by rw [args_eq]; rfl, listed⟩⟩⟩
      next absent =>
        have summons_eq : cfg.summons entry =
            cfg.getSoliderCfg entry.entityCfgId args[0]? := by
          rw [BattleCfg.summons, if_neg named, args_eq, Option.bind_some]
        split
        next none_eq =>
          intro resolvable
          have summoned := resolvable.summons entry reached named
          rw [summons_eq, none_eq] at summoned
          cases summoned
        next solider solider_eq =>
          let new : Solider := ⟨solider, args[1]?⟩
          have summons : cfg.summons entry = some new.toSoliderCfg := summons_eq.trans solider_eq
          have fresh : lists.repeatSolider new.cfgId = false := by
            have same : new.cfgId = entry.entityCfgId := (summons_eq_some summons).2.2.1
            rw [same]
            exact Bool.not_eq_true _ ▸ absent
          refine (nested_meets lists entry new inner reached summons fresh).imp
            (fun enough => ?_) fun after ⟨closed, grows⟩ =>
              ⟨(lists.grows_summon new).trans grows, .inr closed⟩
          have fewer := unsummoned_lt summons fresh
          unfold Enough
          omega

/-- The last loop leaves nothing to be collected. -/
theorem summonAll_meets (nested_meets : NestedMeets cfg battle fuel nested) (rounds index : ℕ)
    (inner : Inner cfg battle lists) (inside : index ≤ lists.skillEffects.length)
    (done : ∀ entry ∈ lists.skillEffects.take index, Done lists entry) :
    Meets cfg battle
      (cfg.keys.length + unsummoned cfg lists < fuel ∧ cfg.keys.length < rounds + index)
      (summonAll cfg nested rounds index lists) fun after =>
        Closed cfg battle after ∧ lists.Grows after := by
  induction rounds generalizing index lists with
  | zero =>
      intro enough
      have bounded := inner.sound.skillEffects_length
      omega
  | succ rounds ih =>
      unfold summonAll
      cases entry_eq : lists.skillEffects[index]? with
      | none =>
          rw [List.take_of_length_le (List.getElem?_eq_none_iff.mp entry_eq)] at done
          exact ⟨⟨inner, done⟩, .refl lists⟩
      | some entry =>
          obtain ⟨index_lt, at_index⟩ := List.getElem?_eq_some_iff.mp entry_eq
          refine ((summonBy_meets nested_meets inner (List.mem_of_getElem? entry_eq)).imp
            And.left fun _ => id).bind fun next ⟨grows, outcome⟩ => ?_
          have next_inside : index + 1 ≤ next.skillEffects.length :=
            index_lt.trans_le grows.skillEffects.length_le
          have next_inner : Inner cfg battle next := by
            obtain ⟨rfl, -⟩ | closed := outcome
            · exact inner
            · exact closed.toInner
          have next_done : ∀ other ∈ next.skillEffects.take (index + 1), Done next other := by
            obtain ⟨rfl, entry_done⟩ | closed := outcome
            · intro other other_mem
              rw [List.take_succ_eq_append_getElem index_lt, List.mem_append, List.mem_singleton,
                at_index] at other_mem
              obtain earlier | rfl := other_mem
              · exact done other earlier
              · exact entry_done
            · exact fun other other_mem => closed.done other (List.mem_of_mem_take other_mem)
          refine (ih (index + 1) next_inner next_inside next_done).imp (fun enough => ?_) ?_
          · have fewer : unsummoned cfg next ≤ unsummoned cfg lists := unsummoned_le grows
            omega
          · exact fun after ⟨closed, last⟩ => ⟨closed, grows.trans last⟩

end Summoning

/-- What `getSkillSystem` is called with. -/
structure Ready (cfg : BattleCfg) (battle : Battle) (ids : List ℤ) (lists : Lists) : Prop where
  sound : Sound cfg battle lists
  asked : Asked cfg battle ids
  buffs : ∀ buff ∈ lists.buffs, Complete cfg lists (.buff buff)
  soliders : ∀ solider ∈ lists.summonSoliders, ∀ cfgId ∈ solider.skillIds, cfgId ∈ ids

theorem Inner.ready {lists : Lists} {entry : SkillEffectCfg} {solider : Solider}
    (inner : Inner cfg battle lists) (reached : Reached cfg battle (.skillEffect entry))
    (summons : cfg.summons entry = some solider.toSoliderCfg)
    (absent : lists.repeatSolider solider.cfgId = false) :
    Ready cfg battle
      ((lists.summon solider).summonSoliders.flatMap fun solider => solider.skillIds)
      (lists.summon solider) := by
  have sound := inner.sound.summon absent reached summons
  have summoned : ∀ cfgId ∈
      (lists.summon solider).summonSoliders.flatMap fun solider => solider.skillIds,
      ∃ effect row, Reached cfg battle (.skillEffect effect) ∧ cfg.summons effect = some row ∧
        cfgId ∈ row.skillIds := by
    intro cfgId id_mem
    obtain ⟨other, other_mem, inside⟩ := List.mem_flatMap.mp id_mem
    obtain ⟨effect, effect_reached, effect_summons⟩ := sound.soliders other other_mem
    exact ⟨effect, other.toSoliderCfg, effect_reached, effect_summons, inside⟩
  refine ⟨sound, ⟨fun cfgId id_mem item found => ?_, fun resolvable cfgId id_mem => ?_⟩, ?_, ?_⟩
  · obtain ⟨effect, row, effect_reached, effect_summons, inside⟩ := summoned cfgId id_mem
    exact .summoned effect_reached effect_summons inside found
  · obtain ⟨effect, row, effect_reached, effect_summons, inside⟩ := summoned cfgId id_mem
    exact resolvable.summoned effect row effect_reached effect_summons cfgId inside
  · exact fun buff buff_mem =>
      (lists.grows_summon solider).complete (inner.complete (.buff buff) buff_mem)
  · exact fun other other_mem cfgId inside => List.mem_flatMap.mpr ⟨other, other_mem, inside⟩

/-- What `getSkillSystem` returns. -/
structure Whole (cfg : BattleCfg) (battle : Battle) (ids : List ℤ) (lists after : Lists) :
    Prop where
  closed : Closed cfg battle after
  grows : lists.Grows after
  listed : ∀ cfgId ∈ ids, cfgId ≠ 0 → after.repeatCfgId (.skill cfgId) = true
  heroSkills : ∀ skill ∈ battle.heroSkills, Complete cfg after (.skill skill)

theorem getSkillSystem_meets (fuel : ℕ) {ids : List ℤ} {lists : Lists}
    (ready : Ready cfg battle ids lists) :
    Meets cfg battle (Enough cfg fuel lists)
      (getSkillSystem cfg battle.heroSkills fuel ids lists) (Whole cfg battle ids lists) := by
  induction fuel generalizing ids lists with
  | zero =>
      intro enough
      unfold Enough at enough
      omega
  | succ fuel ih =>
      unfold getSkillSystem
      refine ((addSkills_meets ready.asked ready.sound).imp (fun _ => trivial) fun _ => id).bind
        fun withSkills armed => ?_
      have roots_reached : ∀ skill ∈ withSkills.skills ++ battle.heroSkills,
          Reached cfg battle (.skill skill) := by
        intro skill skill_mem
        obtain listed | given := List.mem_append.mp skill_mem
        · exact armed.sound.reached (.skill skill) listed
        · exact .heroSkill given
      have effected := addSkillEffects_effected roots_reached armed.sound
      generalize (withSkills.skills ++ battle.heroSkills).foldl (addSkillEffect cfg) withSkills =
        withEffects at effected
      have grown : lists.Grows withEffects := armed.grows.trans effected.grows
      have rest : ∀ item, withEffects.Mem item → Complete cfg withEffects item ∨
          ∃ entry ∈ withEffects.skillEffects.drop 0, item = .skillEffect entry := by
        intro item item_mem
        cases item with
        | skill skill =>
            have listed : skill ∈ withSkills.skills := effected.skills ▸ item_mem
            exact .inl (effected.complete skill (List.mem_append_left _ listed))
        | skillEffect entry => exact .inr ⟨entry, item_mem, rfl⟩
        | buff buff =>
            have old : buff ∈ lists.buffs := (effected.buffs.trans armed.buffs) ▸ item_mem
            exact .inl (grown.complete (ready.buffs buff old))
      refine ((followAll_meets fuel fuel 0 effected.sound (Nat.zero_le _) rest).imp
        (fun enough => ?_) fun _ => id).bind
          fun followed ⟨sound, grows, summons_eq, complete⟩ => ?_
      · unfold Enough at enough
        omega
      have soliders_eq : followed.summonSoliders = lists.summonSoliders :=
        summons_eq.trans (effected.summonSoliders.trans armed.summonSoliders)
      have inner : Inner cfg battle followed := by
        refine ⟨sound, complete, fun solider solider_mem cfgId inside named => ?_⟩
        rw [soliders_eq] at solider_mem
        exact (effected.grows.trans grows).extends _
          (armed.listed cfgId (ready.soliders solider solider_mem cfgId inside) named)
      have nested_meets : NestedMeets cfg battle fuel fun lists =>
          getSkillSystem cfg battle.heroSkills fuel
            (lists.summonSoliders.flatMap fun solider => solider.skillIds) lists :=
        fun _ _ _ inner reached summons absent =>
          (ih (inner.ready reached summons absent)).imp id
            fun _ whole => ⟨whole.closed, whole.grows⟩
      refine (summonAll_meets nested_meets fuel 0 inner (Nat.zero_le _) (by simp)).imp
        (fun enough => ?_) fun after ⟨closed, last⟩ => ?_
      · have fewer : unsummoned cfg followed ≤ unsummoned cfg lists :=
          unsummoned_le (grown.trans grows)
        unfold Enough at enough
        omega
      · exact ⟨closed, (grown.trans grows).trans last,
          fun cfgId id_mem named => ((effected.grows.trans grows).trans last).extends _
            (armed.listed cfgId id_mem named),
          fun skill skill_mem => (grows.trans last).complete
            (effected.complete skill (List.mem_append_right _ skill_mem))⟩

/-! ## More rounds -/

/-- With more rounds a run returns or fails as before, if it did. -/
def More (result later : Except Stop Lists) : Prop :=
  result = .error .rounds ∨ later = result

section More

variable {result later : Except Stop Lists}

theorem More.bind {next next' : Lists → Except Stop Lists} (more : More result later)
    (rest : ∀ lists, More (next lists) (next' lists)) :
    More (result >>= next) (later >>= next') := by
  obtain rfl | rfl := more
  · exact .inl rfl
  · match later with
    | .ok lists => exact rest lists
    | .error _ => exact .inr rfl

theorem More.refl (result : Except Stop Lists) : More result result :=
  .inr rfl

theorem getBuffAndSkillEffect_more (fuel : ℕ) (item : Item) (lists : Lists) :
    More (getBuffAndSkillEffect cfg fuel item lists)
      (getBuffAndSkillEffect cfg (fuel + 1) item lists) := by
  unfold getBuffAndSkillEffect
  cases followed : (following cfg).follow fuel item lists with
  | none => exact .inl rfl
  | some after =>
      rw [Following.follow_succ followed]
      exact .inr rfl

theorem followAll_more (fuel rounds index : ℕ) (lists : Lists) :
    More (followAll cfg fuel rounds index lists)
      (followAll cfg (fuel + 1) (rounds + 1) index lists) := by
  induction rounds generalizing index lists with
  | zero => exact .inl rfl
  | succ rounds ih =>
      unfold followAll
      cases lists.skillEffects[index]? with
      | none => exact .inr rfl
      | some entry =>
          exact (getBuffAndSkillEffect_more fuel _ lists).bind fun after => ih (index + 1) after

theorem summonAll_more {nested nested' : Lists → Except Stop Lists}
    (more : ∀ lists, More (nested lists) (nested' lists)) (rounds index : ℕ) (lists : Lists) :
    More (summonAll cfg nested rounds index lists)
      (summonAll cfg nested' (rounds + 1) index lists) := by
  induction rounds generalizing index lists with
  | zero => exact .inl rfl
  | succ rounds ih =>
      unfold summonAll
      cases lists.skillEffects[index]? with
      | none => exact .inr rfl
      | some entry =>
          refine More.bind ?_ fun after => ih (index + 1) after
          unfold summonBy
          split
          · exact .inr rfl
          · split
            · exact .inr rfl
            · split
              · exact .inr rfl
              · split
                · exact .inr rfl
                · exact more _

theorem getSkillSystem_more (heroSkills : List SkillCfg) (fuel : ℕ) (ids : List ℤ)
    (lists : Lists) :
    More (getSkillSystem cfg heroSkills fuel ids lists)
      (getSkillSystem cfg heroSkills (fuel + 1) ids lists) := by
  induction fuel generalizing ids lists with
  | zero => exact .inl rfl
  | succ fuel ih =>
      unfold getSkillSystem
      exact (More.refl _).bind fun _ => (followAll_more fuel fuel 0 _).bind fun _ =>
        summonAll_more (fun _ => ih _ _) fuel 0 _

end More

/-! ## The whole run -/

abbrev Battle.lists (battle : Battle) : Lists :=
  ⟨battle.skills, [], [], []⟩

theorem Battle.ready : Ready cfg battle battle.skillIds battle.lists where
  sound := by
    refine ⟨fun _ skill_mem => skill_mem, fun item item_mem => ?_, fun item item_mem => ?_, by simp,
      List.nodup_nil, List.nodup_nil, List.nodup_nil⟩
    · cases item with
      | skill skill => exact .given item_mem
      | skillEffect entry => cases item_mem
      | buff entry => cases item_mem
    · cases item with
      | skill skill => exact .inr ⟨skill, item_mem, rfl⟩
      | skillEffect entry => cases item_mem
      | buff entry => cases item_mem
  asked := ⟨fun _ id_mem _ leads => .fights id_mem leads, fun resolvable => resolvable.fights⟩
  buffs := by simp
  soliders := by simp

theorem collect_meets (cfg : BattleCfg) (battle : Battle) (fuel : ℕ) :
    Meets cfg battle (Enough cfg fuel battle.lists) (collect cfg battle fuel)
      (Whole cfg battle battle.skillIds battle.lists) :=
  getSkillSystem_meets fuel Battle.ready

theorem collect_more {few : ℕ} {result : Except Stop Lists}
    (collected : collect cfg battle few = result) (ended : result ≠ .error .rounds) {fuel : ℕ}
    (more : few ≤ fuel) :
    collect cfg battle fuel = result := by
  induction fuel, more using Nat.le_induction with
  | base => exact collected
  | succ fuel _ ih =>
      obtain few_rounds | same :=
        getSkillSystem_more battle.heroSkills fuel battle.skillIds battle.lists
      · exact absurd (ih.symm.trans few_rounds) ended
      · exact same.trans ih

theorem collect_ends (cfg : BattleCfg) (battle : Battle) :
    ∃ enough result, result ≠ .error .rounds ∧
      ∀ fuel, enough ≤ fuel → collect cfg battle fuel = result := by
  let enough := cfg.keys.length + 1 + unsummoned cfg battle.lists + 1
  have ended : collect cfg battle enough ≠ .error .rounds := by
    intro few
    have met := collect_meets cfg battle enough
    rw [few] at met
    exact met (Nat.lt_succ_self _)
  exact ⟨enough, _, ended, fun _ more => collect_more rfl ended more⟩

/-! ## What the lists have -/

section Whole

variable {lists : Lists}

theorem Sound.mem_leads (sound : Sound cfg battle lists) {ref : Ref} {item : Item}
    (leads_eq : leads cfg battle ref = some item) (listed : lists.repeatCfgId ref = true) :
    lists.Mem item := by
  obtain ⟨entry, entry_mem, rfl⟩ := Lists.repeatCfgId_iff.mp listed
  obtain found | ⟨skill, skill_mem, rfl⟩ := sound.rows entry entry_mem
  · have same : cfg.get entry.ref = some item := by
      cases entry with
      | skillEffect => exact leads_eq
      | buff => exact leads_eq
      | skill skill =>
          simp only [Item.ref, leads] at leads_eq
          split at leads_eq
          · cases leads_eq
          · exact leads_eq
    rw [found, Option.some.injEq] at same
    exact same ▸ entry_mem
  · have given : (battle.skills.any fun other => other.cfgId = skill.cfgId) = true :=
      List.any_eq_true.mpr ⟨skill, skill_mem, decide_eq_true rfl⟩
    simp only [Item.ref, leads, if_pos given] at leads_eq
    cases leads_eq

theorem get_of_leads {ref : Ref} {item : Item} (leads_eq : leads cfg battle ref = some item) :
    cfg.get ref = some item := by
  cases ref with
  | skillEffect => exact leads_eq
  | buff => exact leads_eq
  | skill cfgId =>
      simp only [leads] at leads_eq
      split at leads_eq
      · cases leads_eq
      · exact leads_eq

theorem ne_zero_of_leads {cfgId : ℤ} {item : Item}
    (leads_eq : leads cfg battle (.skill cfgId) = some item) : cfgId ≠ 0 := by
  intro zero
  have found := get_of_leads leads_eq
  rw [BattleCfg.get, if_pos zero] at found
  cases found

theorem Closed.mem_summons (closed : Closed cfg battle lists) (resolvable : Resolvable cfg battle)
    {entry : SkillEffectCfg} {solider : SoliderCfg} (entry_mem : entry ∈ lists.skillEffects)
    (summons : cfg.summons entry = some solider) :
    ∃ summoned ∈ lists.summonSoliders, summoned.toSoliderCfg = solider := by
  obtain ⟨named, -, same, -⟩ := summons_eq_some summons
  obtain ⟨-, listed⟩ := closed.done entry entry_mem named
  obtain ⟨summoned, summoned_mem, id_eq⟩ := Lists.repeatSolider_iff.mp listed
  obtain ⟨other, other_reached, other_summons⟩ := closed.sound.soliders summoned summoned_mem
  have entry_reached := closed.sound.reached (.skillEffect entry) entry_mem
  exact ⟨summoned, summoned_mem, resolvable.levels other entry _ _ other_reached entry_reached
    other_summons summons (id_eq.trans same.symm)⟩

theorem Whole.mem_reached (whole : Whole cfg battle battle.skillIds battle.lists lists)
    (resolvable : Resolvable cfg battle) {item : Item} (reached : Reached cfg battle item) :
    lists.Mem item ∨ ∃ skill ∈ battle.heroSkills, item = .skill skill := by
  have sound := whole.closed.sound
  induction reached with
  | given skill_mem => exact .inl (sound.given _ skill_mem)
  | heroSkill skill_mem => exact .inr ⟨_, skill_mem, rfl⟩
  | fights id_mem leads_eq =>
      exact .inl (sound.mem_leads leads_eq (whole.listed _ id_mem (ne_zero_of_leads leads_eq)))
  | @follows item other ref _ ref_mem leads_eq known =>
      have complete : Complete cfg lists item := by
        obtain item_mem | ⟨skill, skill_mem, rfl⟩ := known
        · exact whole.closed.complete item item_mem
        · exact whole.heroSkills skill skill_mem
      have listed := complete ref ref_mem
        (Option.isSome_of_eq_some (get_of_leads leads_eq))
      exact .inl (sound.mem_leads leads_eq listed)
  | @summoned entry solider cfgId item _ summons id_mem leads_eq known =>
      have entry_mem : entry ∈ lists.skillEffects :=
        known.resolve_right fun ⟨_, _, same⟩ => by cases same
      obtain ⟨summoned, summoned_mem, rfl⟩ :=
        whole.closed.mem_summons resolvable entry_mem summons
      exact .inl (sound.mem_leads leads_eq
        (whole.closed.armed summoned summoned_mem cfgId id_mem (ne_zero_of_leads leads_eq)))

theorem collects_of_resolvable (resolvable : Resolvable cfg battle) : Collects cfg battle := by
  obtain ⟨enough, result, ended, collected⟩ := collect_ends cfg battle
  have met := collect_meets cfg battle enough
  rw [collected enough le_rfl] at met
  match result with
  | .error .rounds => exact absurd rfl ended
  | .error .raise => exact absurd resolvable met
  | .ok lists =>
      have whole : Whole cfg battle battle.skillIds battle.lists lists := met
      have sound := whole.closed.sound
      have effect_mem : ∀ entry, Reached cfg battle (.skillEffect entry) →
          entry ∈ lists.skillEffects := fun entry reached =>
        (whole.mem_reached resolvable reached).resolve_right fun ⟨_, _, same⟩ => by cases same
      refine ⟨lists, ⟨enough, collected⟩, sound.skillEffects_nodup, sound.buffs_nodup,
        sound.soliders_nodup, effect_mem, fun entry reached => ?_, fun entry solider reached => ?_⟩
      · exact (whole.mem_reached resolvable reached).resolve_right fun ⟨_, _, same⟩ => by cases same
      · exact whole.closed.mem_summons resolvable (effect_mem entry reached)

theorem Sound.known (sound : Sound cfg battle lists) {cfgId : ℤ}
    (listed : cfgId ≠ 0 → lists.repeatCfgId (.skill cfgId) = true) : Known cfg battle cfgId := by
  by_cases zero : cfgId = 0
  · exact .inl zero
  · obtain ⟨entry, entry_mem, same⟩ := Lists.repeatCfgId_iff.mp (listed zero)
    obtain found | ⟨skill, skill_mem, rfl⟩ := sound.rows entry entry_mem
    · rw [same, BattleCfg.get, if_neg zero] at found
      obtain ⟨row, row_eq, -⟩ := Option.map_eq_some_iff.mp found
      exact .inr (.inl (by rw [row_eq]; rfl))
    · exact .inr (.inr ⟨skill, skill_mem, Ref.skill.inj same⟩)

theorem resolvable_of_collects (uniform : Uniform cfg battle) (collects : Collects cfg battle) :
    Resolvable cfg battle := by
  obtain ⟨lists, ⟨enough, collected⟩, -, -, nodup, effect_mem, -, summoned_mem⟩ := collects
  have met := collect_meets cfg battle enough
  rw [collected enough le_rfl] at met
  have whole : Whole cfg battle battle.skillIds battle.lists lists := met
  have sound := whole.closed.sound
  refine ⟨fun cfgId id_mem => sound.known (whole.listed cfgId id_mem), ?_, ?_, ?_⟩
  · intro entry reached named
    obtain ⟨decoded, listed⟩ := whole.closed.done entry (effect_mem entry reached) named
    obtain ⟨summoned, mem, id_eq⟩ := Lists.repeatSolider_iff.mp listed
    obtain ⟨other, other_reached, other_summons⟩ := sound.soliders summoned mem
    obtain ⟨-, other_decoded, other_same, -⟩ := summons_eq_some other_summons
    rw [uniform entry other reached other_reached (id_eq.symm.trans other_same) decoded
      other_decoded, other_summons]
    rfl
  · intro entry solider reached summons cfgId id_mem
    obtain ⟨summoned, mem, rfl⟩ := summoned_mem entry solider reached summons
    exact sound.known (whole.closed.armed summoned mem cfgId id_mem)
  · intro first second soliders others first_reached second_reached first_summons
      second_summons same
    obtain ⟨one, one_mem, rfl⟩ := summoned_mem first soliders first_reached first_summons
    obtain ⟨other, other_mem, rfl⟩ := summoned_mem second others second_reached second_summons
    rw [List.inj_on_of_nodup_map nodup one_mem other_mem same]

end Whole

/-- All that can be reached is collected exactly if the skills and the soldiers that are asked for
have rows and every soldier is summoned at one level. -/
theorem collects_iff (uniform : Uniform cfg battle) :
    Collects cfg battle ↔ Resolvable cfg battle :=
  ⟨resolvable_of_collects uniform, collects_of_resolvable⟩

/-! ## A battle with a cycle -/

theorem Reached.mem_skillEffects {entry : SkillEffectCfg}
    (reached : Reached cfg battle (.skillEffect entry)) : entry ∈ cfg.skillEffects.objects := by
  cases reached with
  | fights _ leads_eq => exact (get_row (get_of_leads leads_eq)).2
  | follows _ _ leads_eq => exact (get_row (get_of_leads leads_eq)).2
  | summoned _ _ _ leads_eq => exact (get_row (get_of_leads leads_eq)).2

/-- Skill effects 1 and 2 refer to each other, and the soldier of the second has the skill of the
first. -/
def cyclicCfg : BattleCfg where
  skills := ⟨[⟨1, 1, 1⟩], by decide⟩
  skillEffects := ⟨[⟨1, 1, 2, 0, 0, none⟩, ⟨2, 0, 1, 0, 1, some [1, 3]⟩], by decide⟩
  buffs := ⟨[⟨1, 2⟩], by decide⟩
  soliders := ⟨[⟨⟨1, 0, 0⟩, 1, 1⟩], by decide⟩

def buildBattle (atkSkillId : ℤ) : Battle :=
  ⟨[⟨atkSkillId, 0, 0, 0⟩], [], [], [], []⟩

/-- All that can be reached is collected, also where the skill effects refer to each other. -/
theorem collects_cyclic : Collects cyclicCfg (buildBattle 1) := by
  have rows : ∀ entry, Reached cyclicCfg (buildBattle 1) (.skillEffect entry) →
      entry = ⟨1, 1, 2, 0, 0, none⟩ ∨ entry = ⟨2, 0, 1, 0, 1, some [1, 3]⟩ := by
    intro entry reached
    simpa [cyclicCfg] using reached.mem_skillEffects
  have summons : ∀ entry solider, Reached cyclicCfg (buildBattle 1) (.skillEffect entry) →
      cyclicCfg.summons entry = some solider → solider = ⟨⟨1, 0, 0⟩, 1, 1⟩ := by
    intro entry solider reached summons
    obtain rfl | rfl := rows entry reached <;> cases summons
    rfl
  have known : ∀ cfgId, cfgId = 1 ∨ cfgId = 0 → Known cyclicCfg (buildBattle 1) cfgId := by
    rintro cfgId (rfl | rfl)
    · exact .inr (.inl rfl)
    · exact .inl rfl
  refine (collects_iff fun first second first_reached second_reached same _ _ => ?_).mpr
    ⟨fun cfgId id_mem => known cfgId ?_, fun entry reached named => ?_,
      fun entry solider reached entry_summons cfgId id_mem => known cfgId ?_,
      fun first second soliders others first_reached second_reached first_summons
        second_summons _ => ?_⟩
  · obtain rfl | rfl := rows first first_reached <;>
      obtain rfl | rfl := rows second second_reached <;> first | rfl | cases same
  · simpa [buildBattle, Battle.skillIds, Build.skillIds] using id_mem
  · obtain rfl | rfl := rows entry reached
    · exact absurd rfl named
    · rfl
  · rw [summons entry solider reached entry_summons] at id_mem
    simpa [Fighter.skillIds] using id_mem
  · rw [summons first soliders first_reached first_summons,
      summons second others second_reached second_summons]

/-- A building with a skill that has no row stops the collecting. -/
theorem not_collects_missing : ¬∀ cfg battle, Collects cfg battle := by
  intro always
  obtain ⟨lists, ⟨enough, collected⟩, -⟩ := always cyclicCfg (buildBattle 9)
  have raised : collect cyclicCfg (buildBattle 9) (enough + 1) = .error .raise := rfl
  rw [collected (enough + 1) (Nat.le_succ enough)] at raised
  cases raised

end BasWar.Pvp.SkillSystem
