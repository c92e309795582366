import Mathlib.Data.Nat.ModEq

/-!
# Unique ids

An id is made of a time in milliseconds, the index of a node and a counter that every service has
for itself.
-/

namespace BasWar.Snowflake

/-- What a call of `uuid` is given: the index of the node and the time that it reads. -/
structure Reading where
  nodeId : ℕ
  timestamp : ℕ

/-- All three have 64 bits. -/
def composeUUID (timestamp nodeId sequence : ℕ) : ℕ :=
  timestamp <<< (10 + 12) % 2 ^ 64 ||| nodeId <<< 12 % 2 ^ 64 ||| sequence

def getTimestampByUUID (uuid : ℕ) : ℕ := uuid >>> (10 + 12) &&& 1 <<< 41 - 1

def getNodeIdByUUID (uuid : ℕ) : ℕ := uuid >>> 12 &&& 1 <<< 10 - 1

def getSequenceByUUID (uuid : ℕ) : ℕ := uuid &&& 1 <<< 12 - 1

def genNodeId (nodeId : ℕ) : ℕ := nodeId % 1 <<< 10

/-- The counter has 32 bits. -/
def genIncrement (sequence : ℕ) : ℕ := (sequence + 1) &&& (2 ^ 32 - 1 - 1 <<< 12)

/-- `uuid`, which also moves the counter. -/
def uuid (reading : Reading) (sequence : ℕ) : ℕ × ℕ :=
  let sequence := genIncrement sequence
  (composeUUID reading.timestamp (genNodeId reading.nodeId) sequence, sequence)

/-- The ids that a service gets. -/
def uuids : List Reading → ℕ → List ℕ
  | [], _ => []
  | reading :: readings, sequence =>
      let (id, sequence) := uuid reading sequence
      id :: uuids readings sequence

theorem genIncrement_eq {sequence : ℕ} (small : sequence < 4096) :
    genIncrement sequence = (sequence + 1) % 4096 := by
  have low : ∀ i < 12, (2 ^ 32 - 1 - 1 <<< 12).testBit i = true := by decide
  rw [genIncrement]
  obtain below | full := Nat.lt_or_ge (sequence + 1) 4096
  · rw [Nat.mod_eq_of_lt below]
    refine Nat.eq_of_testBit_eq fun i => ?_
    rw [Nat.testBit_and]
    obtain inside | outside := Nat.lt_or_ge i 12
    · rw [low i inside, Bool.and_true]
    · have power : 2 ^ 12 ≤ 2 ^ i := Nat.pow_le_pow_right (by decide) outside
      rw [Nat.testBit_lt_two_pow (by omega), Bool.false_and]
  · obtain rfl : sequence = 4095 := by omega
    decide

theorem composeUUID_eq {nodeId sequence : ℕ} (timestamp : ℕ) (node_lt : nodeId < 1024)
    (sequence_lt : sequence < 4096) : composeUUID timestamp nodeId sequence =
      timestamp % 2 ^ 42 * 2 ^ 22 + nodeId * 2 ^ 12 + sequence := by
  have time : timestamp <<< (10 + 12) % 2 ^ 64 = (timestamp % 2 ^ 42) <<< 22 := by
    simp only [Nat.shiftLeft_eq]
    omega
  have node : nodeId <<< 12 % 2 ^ 64 = nodeId <<< 12 := by
    rw [Nat.shiftLeft_eq]
    omega
  have low : nodeId <<< 12 ||| sequence = nodeId * 2 ^ 12 + sequence := by
    rw [← Nat.shiftLeft_add_eq_or_of_lt sequence_lt, Nat.shiftLeft_eq]
  have low_lt : nodeId * 2 ^ 12 + sequence < 2 ^ 22 := by omega
  rw [composeUUID, time, node, Nat.or_assoc, low, ← Nat.shiftLeft_add_eq_or_of_lt low_lt,
    Nat.shiftLeft_eq, Nat.add_assoc]

theorem uuid_eq (reading : Reading) {sequence : ℕ} (small : sequence < 4096) :
    uuid reading sequence = (reading.timestamp % 2 ^ 42 * 2 ^ 22 +
      reading.nodeId % 1024 * 2 ^ 12 + (sequence + 1) % 4096, (sequence + 1) % 4096) := by
  change (composeUUID _ (reading.nodeId % 1024) (genIncrement sequence), genIncrement sequence) = _
  rw [genIncrement_eq small,
    composeUUID_eq _ (Nat.mod_lt _ (by decide)) (Nat.mod_lt _ (by decide))]

theorem getElem?_uuids (readings : List Reading) {sequence : ℕ} (small : sequence < 4096) (i : ℕ) :
    (uuids readings sequence)[i]? = readings[i]?.map fun reading =>
      reading.timestamp % 2 ^ 42 * 2 ^ 22 + reading.nodeId % 1024 * 2 ^ 12 +
        (sequence + 1 + i) % 4096 := by
  induction readings generalizing sequence i with
  | nil => rfl
  | cons reading readings ih =>
      simp only [uuids, uuid_eq reading small]
      cases i with
      | zero => rfl
      | succ i =>
          have counted : ((sequence + 1) % 4096 + 1 + i) % 4096 =
              (sequence + 1 + (i + 1)) % 4096 := by omega
          simp only [List.getElem?_cons_succ, ih (Nat.mod_lt _ (by decide)), counted]

/-- The id of a call of a service. -/
def idOf (readings : List Reading) (call : Fin readings.length) : ℕ :=
  (uuids readings 0)[call.val]?.getD 0

theorem idOf_eq (readings : List Reading) (call : Fin readings.length) :
    idOf readings call = readings[call].timestamp % 2 ^ 42 * 2 ^ 22 +
      readings[call].nodeId % 1024 * 2 ^ 12 + (call + 1) % 4096 := by
  simp [idOf, getElem?_uuids readings (show 0 < 4096 by decide), Nat.add_comm 1]

/-- Two calls, of one service or of two, get the same id exactly if they read the same time for the
same node and the services have made the same number of ids, up to whole rounds of the counter. -/
theorem idOf_eq_iff (first second : List Reading) (i : Fin first.length) (j : Fin second.length) :
    idOf first i = idOf second j ↔
      first[i].timestamp ≡ second[j].timestamp [MOD 2 ^ 42] ∧
        first[i].nodeId ≡ second[j].nodeId [MOD 1024] ∧ (i : ℕ) ≡ j [MOD 4096] := by
  rw [idOf_eq, idOf_eq]
  unfold Nat.ModEq
  constructor
  · intro same
    omega
  · rintro ⟨time, node, count⟩
    omega

/-- An id tells the time up to 41 bits, the node, and how many ids the service had made. -/
theorem parts_idOf (readings : List Reading) (call : Fin readings.length) :
    getTimestampByUUID (idOf readings call) = readings[call].timestamp % 2 ^ 41 ∧
      getNodeIdByUUID (idOf readings call) = readings[call].nodeId % 1024 ∧
      getSequenceByUUID (idOf readings call) = (call + 1) % 4096 := by
  simp only [getTimestampByUUID, getNodeIdByUUID, getSequenceByUUID, Nat.shiftRight_eq_div_pow,
    Nat.one_shiftLeft, Nat.and_two_pow_sub_one_eq_mod, idOf_eq]
  omega

end BasWar.Snowflake
