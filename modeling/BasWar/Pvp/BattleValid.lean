import BasWar.Pvp.Battle
import BasWar.Tables.Documents
import Mathlib.Algebra.BigOperators.Group.List.Basic

/-!
# The result that a base battle is settled with

The client reports a result and the soldiers that died, each with the team it fought in.  The
battle server calculates the battle again.  The two lists are compared by the id of the soldiers and
corrected by their kind, and the army loses what the corrected list of the client says.
-/

namespace BasWar.Pvp.BattleValid

open Battles Tables

/-- Soldiers that died, as the client sends them. -/
structure Solider extends Die where
  cfgId : ℤ

structure Result where
  ret : ℤ
  soliders : List Solider
  heroIds : List ℕ

/-- Soldiers that died, as the battle server calculates them. -/
structure RetSolider where
  id : ℤ
  cfgId : ℤ
  dieCount : ℤ

structure RetInfo where
  ret : ℤ
  soliders : List RetSolider

/-! ## Comparing and correcting -/

def lastCount {Entry : Type*} (key count : Entry → ℤ) (entries : List Entry) (name : ℤ) :
    Option ℤ :=
  ((entries.filter fun entry => key entry = name).getLast?).map count

/-- One of the two last loops of `checkLoseSoliders`. -/
def within (dict other : Dict ℤ ℤ) : Bool :=
  dict.objects.all fun entry => other.lookup entry.1 = some entry.2

def checkLoseSoliders (soliders : List Solider) (retSoliders : List RetSolider) : Bool :=
  let soliderMap := Dict.ofEntries (fun solider : Solider => solider.id) (·.dieCount) soliders
  let retSoliderMap := Dict.ofEntries RetSolider.id RetSolider.dieCount retSoliders
  within soliderMap retSoliderMap && within retSoliderMap soliderMap

/-- The counts of the battle server, by the kind of the soldiers. -/
def deathDict (retSoliders : List RetSolider) : Dict ℤ ℤ :=
  Dict.ofEntries RetSolider.cfgId RetSolider.dieCount retSoliders

def correct (retSoliders : List RetSolider) (solider : Solider) : Solider :=
  { solider with dieCount := ((deathDict retSoliders).lookup solider.cfgId).getD 0 }

/-- `checkBattleValid`; `none` stands for the result `false`, when the battle server has none. -/
def checkBattleValid (cfg : AttackCfg) (reply : Option RetInfo) (result : Result) :
    Option Result :=
  if cfg.checkBattleValid then
    match reply with
    | none => none
    | some retInfo =>
        let next :=
          if retInfo.ret ≠ result.ret then { result with ret := retInfo.ret } else result
        if checkLoseSoliders next.soliders retInfo.soliders then some next
        else some { next with soliders := next.soliders.map (correct retInfo.soliders) }
  else some result

/-! ## Settling -/

/-- The entries that `_costSolidersLife` takes from teams; an entry for a team that its army does
not have is the last one it looks at. -/
def subtracted {Entry : Type*} (die : Entry → Die) (army : Army) : List Entry → List Entry
  | [] => []
  | entry :: rest =>
      if (die entry).index = 0 then subtracted die army rest
      else
        match army.armys ((die entry).id - (die entry).index) with
        | none => subtracted die army rest
        | some teams =>
            if (Army.team teams (die entry).index).isSome then
              entry :: subtracted die army rest
            else []

/-- What `costArmyLife` comes to: `_getWarShipCostLife` raises before it if no warship can fight,
and an army of the guild asks for kinds that the entries have lost. -/
def costEntries {Entry : Type*} (die : Entry → Die) (cfg : AttackCfg) (ret : ℤ) (army : Army)
    (entries : List Entry) : List Entry :=
  if (army.getWarShipCostLife cfg ret).isNone ∨ army.isUseGuildArmy = true then []
  else subtracted die army entries

/-- A battle that `endBattle` of the base settles: the result it goes by, and what it takes from the
teams. -/
structure Settlement where
  ret : ℤ
  losses : List Die

/-- `endBattle`, which reads the result before it is checked. -/
def endBattle (cfg : AttackCfg) (army : Army) (reply : Option RetInfo) (result : Result) :
    Option Settlement :=
  let ret := result.ret
  (checkBattleValid cfg reply result).map fun battleResult =>
    { ret
      losses := costEntries id cfg ret army (battleResult.soliders.map Solider.toDie) }

def total {Entry : Type*} (name count : Entry → ℤ) (entries : List Entry) (id : ℤ) : ℤ :=
  ((entries.filter fun entry => name entry = id).map count).sum

/-- A settlement has the result and the losses of the battle server. -/
def Settlement.Follows (retInfo : RetInfo) (settlement : Settlement) : Prop :=
  settlement.ret = retInfo.ret ∧
    ∀ id, total Die.id Die.dieCount settlement.losses id =
      total RetSolider.id RetSolider.dieCount retInfo.soliders id

/-- What an entry of the client counts for: the last count of its kind if the lists differ. -/
def worth (cfg : AttackCfg) (retInfo : RetInfo) (result : Result) (solider : Solider) : ℤ :=
  if cfg.checkBattleValid = true ∧ checkLoseSoliders result.soliders retInfo.soliders = false then
    (lastCount RetSolider.cfgId RetSolider.dieCount retInfo.soliders solider.cfgId).getD 0
  else solider.dieCount

/-- The client has the result of the battle server, and its entries that reach a team make up the
counts of the battle server. -/
def Honest (cfg : AttackCfg) (army : Army) (retInfo : RetInfo) (result : Result) : Prop :=
  result.ret = retInfo.ret ∧
    ∀ id, total (fun solider => solider.id) (worth cfg retInfo result)
        (costEntries Solider.toDie cfg result.ret army result.soliders) id =
      total RetSolider.id RetSolider.dieCount retInfo.soliders id

section Entries

variable {Entry Other : Type*} {die : Entry → Die} {other : Other → Die} {army after : Army}

theorem subtracted_map {change : Entry → Other}
    (id_eq : ∀ entry, (other (change entry)).id = (die entry).id)
    (index_eq : ∀ entry, (other (change entry)).index = (die entry).index)
    (entries : List Entry) :
    subtracted other army (entries.map change) = (subtracted die army entries).map change := by
  induction entries with
  | nil => rfl
  | cons entry rest ih =>
      rw [List.map_cons, subtracted, subtracted, id_eq, index_eq, ih]
      split
      · rfl
      · cases army.armys ((die entry).id - (die entry).index) with
        | none => rfl
        | some teams =>
            dsimp only
            split <;> rfl

theorem costEntries_map (die : Entry → Die) {change : Entry → Other} {cfg : AttackCfg} {ret : ℤ}
    (id_eq : ∀ entry, (other (change entry)).id = (die entry).id)
    (index_eq : ∀ entry, (other (change entry)).index = (die entry).index)
    (entries : List Entry) :
    costEntries other cfg ret army (entries.map change) =
      (costEntries die cfg ret army entries).map change := by
  rw [costEntries, costEntries, subtracted_map id_eq index_eq]
  split <;> rfl

theorem total_map (change : Entry → Other) {name count : Other → ℤ} (entries : List Entry)
    (id : ℤ) :
    total name count (entries.map change) id =
      total (fun entry => name (change entry)) (fun entry => count (change entry)) entries id := by
  simp only [total, List.filter_map, List.map_map]
  rfl

end Entries

/-! ## The result of the battle server -/

section Follows

variable {cfg : AttackCfg} {army : Army} {retInfo : RetInfo} {result : Result}

theorem correct_dieCount (retSoliders : List RetSolider) (solider : Solider) :
    (correct retSoliders solider).dieCount =
      (lastCount RetSolider.cfgId RetSolider.dieCount retSoliders solider.cfgId).getD 0 := by
  rw [correct, deathDict, Dict.lookup_ofEntries, lastCount]

theorem checkBattleValid_soliders {checked : Result}
    (valid : checkBattleValid cfg (some retInfo) result = some checked) :
    checked.soliders = result.soliders.map fun solider =>
      { solider with dieCount := worth cfg retInfo result solider } := by
  have soliders_eq : (if retInfo.ret ≠ result.ret then { result with ret := retInfo.ret }
      else result).soliders = result.soliders := by
    split <;> rfl
  unfold checkBattleValid at valid
  dsimp only at valid
  rw [soliders_eq] at valid
  split at valid
  next enabled =>
    split at valid
    next same =>
      cases valid
      rw [soliders_eq]
      simp [worth, same]
    next differ =>
      cases valid
      have differs := Bool.not_eq_true _ ▸ differ
      refine List.map_congr_left fun solider _ => ?_
      have count_eq := correct_dieCount retInfo.soliders solider
      simp only [worth, enabled, differs, and_self, if_true, ← count_eq]
      rfl
  next disabled =>
    cases valid
    simp [worth, disabled]

theorem checkBattleValid_isSome (cfg : AttackCfg) (retInfo : RetInfo) (result : Result) :
    ∃ checked, checkBattleValid cfg (some retInfo) result = some checked := by
  unfold checkBattleValid
  dsimp only
  split
  · split <;> split <;> exact ⟨_, rfl⟩
  · exact ⟨_, rfl⟩

end Follows

/-- Battles are calculated again and cost no lives. -/
def recalculatedCfg : AttackCfg where
  fightMaxCostTime := 300
  pvpPlunderRatio := 0
  newHandPvpProtectRatio := []
  pvpFailCostGunLife := 0
  pvpDefenceFailGainPoint := 0
  pvpDefenceWinGainPoint := 0
  pvpDefenceWinGainRes := []
  pvpFailGainPoint := 0
  foundationBattleProtectTime := 60
  pvpCost _ := none
  vipHydroxylAward := 0
  pvpWinGainPoint := 0
  pvpWinCostHeroLife := 0
  pvpFailCostHeroLife := 0
  pvpWinCostWarShipLife := 0
  pvpFailCostWarShipLife := 0
  store _ := none
  checkBattleValid := true

/-- Army 1000 with two teams of ten soldiers. -/
def twoTeams : Army where
  warShip := none
  heros _ := none
  armys armyId := if armyId = 1000 then some [⟨1, 10⟩, ⟨2, 10⟩] else none
  isUseGuildArmy := false

/-- The client says that none of the soldiers of kind 7 has died. -/
def unharmed : Result where
  ret := battleWin
  soliders := [⟨⟨1001, 1, 0⟩, 7⟩, ⟨⟨1002, 2, 0⟩, 7⟩]
  heroIds := []

/-- The battle server counts two dead in one team and three in the other. -/
def calculated : RetInfo where
  ret := battleWin
  soliders := [⟨1001, 7, 2⟩, ⟨1002, 7, 3⟩]

theorem endBattle_unharmed :
    endBattle recalculatedCfg twoTeams (some calculated) unharmed =
      some ⟨battleWin, [⟨1001, 1, 3⟩, ⟨1002, 2, 3⟩]⟩ :=
  rfl

end BasWar.Pvp.BattleValid
