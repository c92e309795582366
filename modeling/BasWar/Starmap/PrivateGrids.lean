import BasWar.Cooperative.Pool
import Mathlib.Data.Fintype.Defs
import Mathlib.Data.Finset.Insert
import Mathlib.Data.Int.Notation

/-!
# Rewards of private grids

Grids add what they have made to a hash of their owner.  The owner collects the hash with a read
and a separate delete.  Every operation on the hash is on its way for a while, and anything else
may happen in between.
-/

namespace BasWar.Starmap.PrivateGrids

open Cooperative

/-- The values of `RES_JSON_KEYS`. -/
inductive ResKey
  | mit
  | starCoin
  | ice
  | carboxyl
  | titanium
  | gas
  | tesseract
  deriving DecidableEq

instance : Fintype ResKey where
  elems := {.mit, .starCoin, .ice, .carboxyl, .titanium, .gas, .tesseract}
  complete key := by cases key <;> decide

/-- A resource with an entry in `STOREKEY`. -/
def ResKey.stored : ResKey → Bool
  | .starCoin | .ice | .titanium | .gas => true
  | .mit | .carboxyl | .tesseract => false

/-- What `hgetall` answers. -/
abbrev ResInfo := ResKey → Option ℕ

def ResInfo.amount (info : ResInfo) (key : ResKey) : ℕ :=
  (info key).getD 0

/-- A hash without fields does not exist. -/
def ResInfo.Missing (info : ResInfo) : Prop :=
  ∀ key, info key = none
  deriving Decidable

/-- Operations on the hash that are on their way. -/
inductive Task
  | hincrby (key : ResKey) (value : ℕ)
  | hgetall
  /-- `del` after the owner has read `info`. -/
  | del (info : ResInfo)
  /-- The answer of `del` on its way back. -/
  | delN (deleted : Bool) (info : ResInfo)

inductive Reply
  /-- The operation reaches redis, or its answer reaches the player. -/
  | deliver
  | raise

inductive Request
  /-- `incrbyStarmapPrivateGridsResInfo`. -/
  | incrby (infoDict : List (ResKey × ℕ))
  | checkPrivateGridsResInfo
  /-- Whatever else the player does leaves these amounts and stores. -/
  | play (res storeCount : ResKey → ℕ)

/-- The hash of one owner and the resources of the owner. -/
structure Owner where
  info : ResInfo
  res : ResKey → ℕ
  storeCount : ResKey → ℕ
  /-- Sum of the increments that grids have asked for. -/
  incremented : ResKey → ℕ
  /-- Sum of the amounts that were added to `res` from the hash. -/
  credited : ResKey → ℕ

namespace Owner

def sumOf (infoDict : List (ResKey × ℕ)) (key : ResKey) : ℕ :=
  ((infoDict.filter (·.1 = key)).map (·.2)).sum

/-- `incrbyStarmapPrivateGridsResInfo` sends one command for each field. -/
def incrby (infoDict : List (ResKey × ℕ)) (owner : Owner) : Owner × List Task :=
  ({ owner with incremented := fun key => owner.incremented key + sumOf infoDict key },
    infoDict.map fun field => .hincrby field.1 field.2)

/-- What `safeAddRes` adds: no more than the free space of a store. -/
def succCount (key : ResKey) (count : ℕ) (owner : Owner) : ℕ :=
  if key.stored then min count (owner.storeCount key - owner.res key) else count

def safeAddResDict (info : ResInfo) (owner : Owner) : Owner :=
  { owner with
    res := fun key => owner.res key + owner.succCount key (info.amount key)
    credited := fun key => owner.credited key + owner.succCount key (info.amount key) }

def accept (request : Request) (owner : Owner) : Owner × List Task :=
  match request with
  | .incrby infoDict => owner.incrby infoDict
  | .checkPrivateGridsResInfo => (owner, [.hgetall])
  | .play res storeCount => ({ owner with res := res, storeCount := storeCount }, [])

def resume (task : Task) (reply : Reply) (owner : Owner) : Owner × List Task :=
  match task, reply with
  | .hincrby key value, .deliver =>
      ({ owner with
          info := fun other =>
            if other = key then some (owner.info.amount key + value) else owner.info other }, [])
  | .hgetall, .deliver => (owner, [.del owner.info])
  | .del info, .deliver =>
      ({ owner with info := fun _ => none }, [.delN (!decide owner.info.Missing) info])
  | .delN deleted info, .deliver =>
      if deleted then (owner.safeAddResDict info, []) else (owner, [])
  | .hincrby _ _, .raise | .hgetall, .raise | .del _, .raise | .delN _ _, .raise => (owner, [])

end Owner

/-- The hash of one owner, with the grids that fill it and the player who collects it. -/
def privateGrids : Service Owner Request Task Reply where
  accept := Owner.accept
  resume := Owner.resume

def ownerStart (res storeCount : ResKey → ℕ) : Config Owner Task :=
  ⟨⟨fun _ => none, res, storeCount, fun _ => 0, fun _ => 0⟩, []⟩

/-- What was credited and what is left are the increments. -/
def CreditedOnce (config : Config Owner Task) : Prop :=
  config.Idle → ∀ key,
    config.state.credited key + config.state.info.amount key = config.state.incremented key

/-- A delete finds what its collect has read, or nothing; what was deleted arrives and has room. -/
def undisturbed : Guard Owner Request Task Reply where
  onRequest _ _ _ := True
  onReply task reply owner _ :=
    match task, reply with
    | .del info, .deliver =>
        owner.info.Missing ∨ ∀ key, owner.info.amount key = info.amount key
    | .delN deleted info, .deliver =>
        deleted → ∀ key, owner.succCount key (info.amount key) = info.amount key
    | .delN deleted info, .raise => deleted → ∀ key, info.amount key = 0
    | .hincrby _ value, .raise => value = 0
    | _, _ => True

instance (request owner others) : Decidable (undisturbed.onRequest request owner others) :=
  .isTrue trivial

instance (task reply owner others) : Decidable (undisturbed.onReply task reply owner others) := by
  unfold undisturbed
  dsimp only
  split <;> infer_instance

def fieldLedger (key : ResKey) : Ledger Owner Task ℤ where
  book owner := owner.credited key + owner.info.amount key - owner.incremented key
  carry task :=
    match task with
    | .hincrby other value => if other = key then value else 0
    | .delN true info => info.amount key
    | .delN false _ | .hgetall | .del _ => 0

theorem carry_incrby (key : ResKey) (infoDict : List (ResKey × ℕ)) :
    (((infoDict.map fun field => Task.hincrby field.1 field.2).map
      (fieldLedger key).carry).sum : ℤ) = Owner.sumOf infoDict key := by
  induction infoDict with
  | nil => rfl
  | cons field infoDict ih =>
      rw [List.map_cons, List.map_cons, List.sum_cons, ih]
      by_cases same : field.1 = key
      · simp [fieldLedger, Owner.sumOf, same]
      · simp [fieldLedger, Owner.sumOf, same]

theorem accept_balances (key : ResKey) (request : Request) (owner : Owner) :
    (fieldLedger key).Balances owner 0 (privateGrids.accept request owner) := by
  cases request with
  | incrby infoDict =>
      have sent := carry_incrby key infoDict
      simp only [Ledger.Balances, privateGrids, Owner.accept, Owner.incrby, sent]
      simp only [fieldLedger]
      omega
  | checkPrivateGridsResInfo => simp [Ledger.Balances, privateGrids, Owner.accept, fieldLedger]
  | play res storeCount => simp [Ledger.Balances, privateGrids, Owner.accept, fieldLedger]

theorem amount_missing {info : ResInfo} (missing : info.Missing) (key : ResKey) :
    info.amount key = 0 := by
  simp [ResInfo.amount, missing key]

theorem del_balances (key : ResKey) (info : ResInfo) {owner : Owner}
    (same : owner.info.Missing ∨ ∀ key, owner.info.amount key = info.amount key) :
    (fieldLedger key).Balances owner 0 (privateGrids.resume (.del info) .deliver owner) := by
  by_cases missing : owner.info.Missing
  · have nothing := amount_missing missing key
    simp only [Ledger.Balances, privateGrids, Owner.resume, missing, decide_true, Bool.not_true,
      fieldLedger, nothing, List.map_cons, List.map_nil, List.sum_cons, List.sum_nil]
    simp [ResInfo.amount]
  · have amount_eq := same.resolve_left missing key
    have emptied : ResInfo.amount (fun _ => none) key = 0 := rfl
    simp only [Ledger.Balances, privateGrids, Owner.resume, missing, decide_false, Bool.not_false,
      fieldLedger, amount_eq, emptied, List.map_cons, List.map_nil, List.sum_cons, List.sum_nil]
    omega

theorem resume_balances (key : ResKey) (task : Task) (reply : Reply) (owner : Owner)
    (others : List Task) (allows : undisturbed.onReply task reply owner others) :
    (fieldLedger key).Balances owner ((fieldLedger key).carry task)
      (privateGrids.resume task reply owner) := by
  cases task with
  | hincrby other value =>
      cases reply with
      | deliver =>
          by_cases same : other = key
          · subst same
            simp [Ledger.Balances, privateGrids, Owner.resume, fieldLedger, ResInfo.amount]
            omega
          · have kept : key ≠ other := fun eq => same eq.symm
            simp [Ledger.Balances, privateGrids, Owner.resume, fieldLedger, ResInfo.amount, same,
              kept]
      | raise =>
          have nothing : value = 0 := allows
          simp [Ledger.Balances, privateGrids, Owner.resume, fieldLedger, nothing]
  | hgetall => cases reply <;> simp [Ledger.Balances, privateGrids, Owner.resume, fieldLedger]
  | del info =>
      cases reply with
      | deliver => exact del_balances key info allows
      | raise => simp [Ledger.Balances, privateGrids, Owner.resume, fieldLedger]
  | delN deleted info =>
      cases deleted with
      | false => cases reply <;> simp [Ledger.Balances, privateGrids, Owner.resume, fieldLedger]
      | true =>
          cases reply with
          | deliver =>
              have room := allows rfl key
              simp only [Ledger.Balances, privateGrids, Owner.resume, if_true, fieldLedger,
                Owner.safeAddResDict, room, List.map_nil, List.sum_nil]
              omega
          | raise =>
              have nothing := allows rfl key
              simp [Ledger.Balances, privateGrids, Owner.resume, fieldLedger, nothing]

/-- Over every undisturbed run, each increment is credited once or still pending. -/
theorem creditedOnce_run (res storeCount : ResKey → ℕ) (events : List (Event Request Reply))
    (admits : undisturbed.Admits privateGrids (ownerStart res storeCount) events) :
    CreditedOnce (privateGrids.run (ownerStart res storeCount) events) := by
  intro idle key
  have total := Ledger.total_run_of_balances
    (fun request owner _ _ => accept_balances key request owner) (resume_balances key) admits
  have start_total : (fieldLedger key).total (ownerStart res storeCount) = 0 := rfl
  rw [start_total, Ledger.total, show Config.waiting _ = [] from idle] at total
  simp only [fieldLedger, List.map_nil, List.sum_nil] at total
  omega

/-- A grid makes 5, the owner collects it, and the grid makes 3 more. -/
def collectRun : List (Event Request Reply) :=
  [.request (.incrby [(.carboxyl, 5)]), .reply 0 .deliver, .request .checkPrivateGridsResInfo,
    .reply 0 .deliver, .reply 0 .deliver, .reply 0 .deliver, .request (.incrby [(.carboxyl, 3)]),
    .reply 0 .deliver]

theorem creditedOnce_collectRun :
    (privateGrids.run (ownerStart (fun _ => 0) fun _ => 0) collectRun).state.credited
        .carboxyl = 5 ∧
      CreditedOnce (privateGrids.run (ownerStart (fun _ => 0) fun _ => 0) collectRun) :=
  ⟨by decide, creditedOnce_run _ _ collectRun (by decide)⟩

/-- The grid makes 3 more between the read and the delete. -/
def lostRun : List (Event Request Reply) :=
  [.request (.incrby [(.carboxyl, 5)]), .reply 0 .deliver, .request .checkPrivateGridsResInfo,
    .reply 0 .deliver, .request (.incrby [(.carboxyl, 3)]), .reply 1 .deliver, .reply 0 .deliver,
    .reply 0 .deliver]

theorem not_creditedOnce_lostRun :
    ¬ CreditedOnce (privateGrids.run (ownerStart (fun _ => 0) fun _ => 0) lostRun) :=
  fun once => absurd (once rfl .carboxyl) (by decide)

end BasWar.Starmap.PrivateGrids
