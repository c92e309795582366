import BasWar.Pvp.MatchInfo
import BasWar.Tables.Documents
import Mathlib.Data.List.Sort

/-!
# The search for opponents

The script widens a range of scores until it has enough players within the level bounds, adds
players of any level if there are still too few, and cuts a window out of the pool.  It also lowers
`rangeCount` for the players that it refuses, which nothing reads any more.
-/

namespace BasWar.Pvp

open Tables

/-- What a search finds in redis, and its arguments but for the random value. -/
structure Search where
  /-- Members of the sorted set with their scores, lowest first. -/
  rank : Dict ℕ ℤ
  baseInfo : BaseInfos
  /-- In milliseconds. -/
  time : ℕ
  pid : ℕ
  score : ℤ
  scoreBoundary : ℤ
  searchCount : ℤ
  beAttackLv : ℤ
  beAttackSec : ℤ
  expandScope : ℤ
  maxScope : ℤ
  /-- 0 where nobody is excluded. -/
  excludePid : ℕ
  expandLv : ℤ
  lvBoundary : ℤ

/-- An entry of `poolDict`. -/
structure Found where
  pid : ℕ
  score : ℤ
  level : ℤ

/-- `poolList` with `poolDict`, and the level bounds in force. -/
structure Pool where
  lvBoundary : ℤ
  list : List Found

/-- A player is added once. -/
def Pool.add (found : Found) (pool : Pool) : Pool :=
  if pool.list.any fun other => other.pid = found.pid then pool
  else { pool with list := pool.list ++ [found] }

/-- `score_boundary` with the pool. -/
structure Scope where
  boundary : ℤ
  pool : Pool

structure Opponent where
  playerId : ℕ
  playerScore : ℤ
  playerName : String
  playerLevel : ℤ
  protectTick : ℤ
  playerHead : String
  unionName : String
  diffTick : ℤ
  diffScore : ℤ

/-- The order of the returned list. -/
def Opponent.Before (first second : Opponent) : Prop :=
  first.diffScore < second.diffScore ∨
    first.diffScore = second.diffScore ∧ second.diffTick ≤ first.diffTick

instance : DecidableRel Opponent.Before :=
  fun first second => inferInstanceAs (Decidable (first.diffScore < second.diffScore ∨
    first.diffScore = second.diffScore ∧ second.diffTick ≤ first.diffTick))

/-- The window of `searchCount` players that a random value picks out of a larger pool. -/
def window {Member : Type*} (randValue : ℚ) (searchCount : ℤ) (poolList : List Member) :
    List Member :=
  let psize : ℤ := poolList.length
  if psize ≤ searchCount then poolList
  else
    let startIdx := ⌊randValue * psize⌋
    let startIdx :=
      if psize - startIdx < searchCount - 1 then psize - searchCount + 1 else startIdx
    let startIdx := if startIdx ≤ 0 then 1 else startIdx
    let endIdx := startIdx + searchCount - 1
    (poolList.drop (startIdx - 1).toNat).take (endIdx - startIdx + 1).toNat

namespace Search

variable (search : Search)

/-- The clock of redis, in seconds. -/
def now : ℤ :=
  (search.time / 1000 : ℕ)

/-- The caller's score; -1 stands for the one in the rank table. -/
def ownScore : Option ℤ :=
  if search.score = -1 then search.rank.lookup search.pid else some search.score

def level (other : ℕ) : ℤ :=
  (search.baseInfo.values other).level.getD 1

/-- The protection time is compared with the seconds of the clock. -/
def Refuses (other : ℕ) : Prop :=
  search.now < (search.baseInfo.values other).protectTick.getD search.now

/-- A level is within the bounds around the caller's. -/
def InBounds (lvBoundary level : ℤ) : Prop :=
  search.level search.pid - lvBoundary ≤ level ∧ level ≤ search.level search.pid + lvBoundary

instance (other : ℕ) : Decidable (search.Refuses other) :=
  Int.decLt _ _

instance (lvBoundary level : ℤ) : Decidable (search.InBounds lvBoundary level) :=
  instDecidableAnd

/-- `ZRANGEBYSCORE`. -/
def range (score boundary : ℤ) : List (ℕ × ℤ) :=
  search.rank.objects.filter fun member =>
    score - boundary ≤ member.2 ∧ member.2 ≤ score + boundary

/-- `ZCOUNT`. -/
def rangeCount (score boundary : ℤ) : ℤ :=
  (search.range score boundary).length

/-- One round of `do_select`.  A player outside of the bounds is added if they are widened, also
if he is still outside. -/
def select (isFilterLv : Bool) (pool : Pool) (member : ℕ × ℤ) : Pool :=
  let found : Found := ⟨member.1, member.2, search.level member.1⟩
  if member.1 = search.pid ∨ member.1 = search.excludePid then pool
  else if search.Refuses member.1 then pool
  else if isFilterLv ∧ ¬ search.InBounds pool.lvBoundary found.level then
    if search.expandLv = 1 then { pool with lvBoundary := pool.lvBoundary * 2 }.add found else pool
  else pool.add found

def doSelect (isFilterLv : Bool) (score boundary : ℤ) (pool : Pool) : Pool :=
  (search.range score boundary).foldl (search.select isFilterLv) pool

/-- The body of the loop, without its end. -/
def expandOnce (score : ℤ) (scope : Scope) : Scope :=
  let boundary := scope.boundary * 2
  { boundary
    pool :=
      if search.searchCount ≤ search.rangeCount score boundary then
        search.doSelect true score boundary scope.pool
      else scope.pool }

/-- The loop, for so many rounds at most. -/
def expand (score : ℤ) : ℕ → Scope → Option Scope
  | 0, _ => none
  | rounds + 1, scope =>
      if scope.boundary < search.maxScope then
        let next := search.expandOnce score scope
        if search.searchCount ≤ next.pool.list.length then some next
        else expand score rounds next
      else some scope

def start : Scope :=
  ⟨search.scoreBoundary, search.lvBoundary, []⟩

/-- What is found within the level bounds. -/
def filtered (score : ℤ) (rounds : ℕ) : Option Scope :=
  if search.rangeCount score search.scoreBoundary ≤ search.searchCount then
    if search.expandScope = 1 then search.expand score rounds search.start
    else some search.start
  else
    some { search.start with
      pool := search.doSelect true score search.scoreBoundary search.start.pool }

/-- The pool; players of any level are added to one that is too small. -/
def poolOf (score : ℤ) (scope : Scope) : List Found :=
  if scope.pool.list.length < search.searchCount then
    (search.doSelect false score scope.boundary scope.pool).list
  else scope.pool.list

/-- A selected player, unless the script leaves him out as too weak and too new, or the caller of
the script because of his protection. -/
def opponent (found : Found) : Option Opponent :=
  let values := search.baseInfo.values found.pid
  let level := values.level.getD 0
  let createTime := values.createTime.getD search.now
  let protectTick := values.protectTick.getD 0
  if search.beAttackLv ≤ level ∨ search.beAttackSec ≤ search.now - createTime then
    if search.pid ≠ found.pid ∧ protectTick < search.time then
      some
        { playerId := found.pid
          playerScore := found.score
          playerName := values.name.getD ""
          playerLevel := level
          protectTick
          playerHead := values.headIcon.getD ""
          unionName := values.unionName.getD ""
          diffTick := search.time - protectTick
          diffScore := |search.score - found.score| }
    else none
  else none

/-- The returned list; `pairs` yields the selected players in the order of the pool here. -/
def searchPlayersByBadge (randValue : ℚ) (rounds : ℕ) : Option (List Opponent) :=
  match search.ownScore with
  | none => some []
  | some score =>
      (search.filtered score rounds).map fun scope =>
        ((window randValue search.searchCount (search.poolOf score scope)).filterMap
          search.opponent).insertionSort Opponent.Before

end Search

end BasWar.Pvp
