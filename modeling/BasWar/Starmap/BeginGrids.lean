import BasWar.Cooperative.Pool
import Mathlib

/-!
# Grid objects of the star map

A grid gets its object when somebody visits it first.  The visit looks for a document, may save a
new one, and only then puts the object into the table; an object that a handler has read from the
table stays with the handler over its calls.
-/

namespace BasWar.Starmap.BeginGrids

open Cooperative

variable {Data : Type}

/-- What a grid stores: the unions that begin there, and the rest. -/
structure Content (Data : Type) where
  unionIds : Finset ℕ
  data : Data

inductive Change (Data : Type)
  | addUnionId (unionId : ℕ)
  | delUnionId (unionId : ℕ)
  | edit (change : Data → Data)

/-- `BeginGrid:addUnionId`, `BeginGrid:delUnionId`, and any other change. -/
def Change.apply (change : Change Data) (content : Content Data) : Content Data :=
  match change with
  | .addUnionId unionId => { content with unionIds := insert unionId content.unionIds }
  | .delUnionId unionId => { content with unionIds := content.unionIds.erase unionId }
  | .edit change => { content with data := change content.data }

structure GridObject (Data : Type) where
  cfgId : ℕ
  loaded : Content Data
  content : Content Data

structure MapSettings (Data : Type) where
  /-- There is a row of `starmapConfig`. -/
  isGrid : ℕ → Bool
  /-- The type of the row is `STARMAP_BEGIN_GRID`. -/
  isBeginGrid : ℕ → Bool
  chainID : ℕ → ℕ
  starmapBegin : List ℕ
  starmapBegin_begin : ∀ cfgId ∈ starmapBegin, isBeginGrid cfgId
  /-- What `init` gives a new grid. -/
  newGrid : ℕ → Data

/-- What a visitor wants from the grid. -/
inductive Visit (Data : Type)
  /-- `linkUnionToBeginGrid`. -/
  | link (unionId : ℕ)
  | transferBeginGrid (unionId : ℕ)
  /-- `startBattle` with an army of the union or of the player, and what the battle changes. -/
  | startBattle (byUnion : Bool) (change : Data → Data)

/-- A handler that waits for a call; `object` is a grid object that it has read. -/
inductive Task (Data : Type)
  /-- `selectBeginGrid` asks the union; `choice` is what `randBeginGrid` will draw. -/
  | selectBeginGrid (unionId choice : ℕ)
  /-- `transferBeginGrid` asks the union. -/
  | getUnionBeginGridId (unionId dstCfgId : ℕ)
  /-- `initGrid` looks for a document. -/
  | findOne (cfgId : ℕ) (visit : Visit Data)
  /-- `initGrid` saves the new grid. -/
  | update (cfgId : ℕ) (visit : Visit Data)
  | setUnionBeginGrid (cfgId object unionId : ℕ)
  | transferBeginGrid (cfgId object unionId : ℕ)
  | takeStarmapCampaignArmy (cfgId object : ℕ) (change : Data → Data)
  /-- Any other operation on a grid. -/
  | edit (cfgId object : ℕ) (change : Data → Data)

inductive Reply (Data : Type)
  | done
  | beginGridId (cfgId : Option ℕ)
  | doc (doc : Option (Content Data))
  | allowed (yes : Bool)
  | raise

inductive Request (Data : Type)
  /-- `selectBeginGrid`, also at the end of `enterStarmap`. -/
  | selectBeginGrid (unionId choice : ℕ)
  | transferBeginGrid (unionId dstCfgId : ℕ)
  /-- `startBattle`, when `canBattle` finds nothing else against it. -/
  | startBattle (cfgId : ℕ) (byUnion : Bool) (change : Data → Data)
  /-- An operation that reads the table, waits and then changes the grid. -/
  | edit (cfgId : ℕ) (change : Data → Data)

structure StarMap (Data : Type) where
  /-- All objects that were put into the table. -/
  objects : ℕ → Option (GridObject Data)
  nextObject : ℕ
  grids : ℕ → Option ℕ
  /-- The objects that `savemgr:autosave` has. -/
  autosaved : List ℕ
  locked : Finset ℕ
  /-- The changes that were made, newest first. -/
  changes : List (ℕ × Change Data)

def Visit.locks : Visit Data → Bool
  | .startBattle _ _ => true
  | .link _ | .transferBeginGrid _ => false

namespace StarMap

/-- `self.grids[cfgId] = grid` and `autosave`. -/
def register (cfgId : ℕ) (content : Content Data) (map : StarMap Data) : StarMap Data :=
  { map with
    objects := fun object =>
      if object = map.nextObject then some ⟨cfgId, content, content⟩ else map.objects object
    nextObject := map.nextObject + 1
    grids := fun id => if id = cfgId then some map.nextObject else map.grids id
    autosaved := map.autosaved ++ [map.nextObject] }

def changeGrid (cfgId object : ℕ) (change : Change Data) (map : StarMap Data) : StarMap Data :=
  { map with
    objects := fun id =>
      if id = object then
        (map.objects id).map fun grid => { grid with content := change.apply grid.content }
      else map.objects id
    changes := (cfgId, change) :: map.changes }

def unlock (cfgId : ℕ) (map : StarMap Data) : StarMap Data :=
  { map with locked := map.locked.erase cfgId }

def visitObject (cfgId object : ℕ) (visit : Visit Data) (map : StarMap Data) :
    StarMap Data × List (Task Data) :=
  match visit with
  | .link unionId =>
      if (map.objects object).any (unionId ∈ ·.content.unionIds) then (map, [])
      else (map, [.setUnionBeginGrid cfgId object unionId])
  | .transferBeginGrid unionId => (map, [.transferBeginGrid cfgId object unionId])
  | .startBattle byUnion change =>
      if byUnion then (map, [.takeStarmapCampaignArmy cfgId object change])
      else ((map.changeGrid cfgId object (.edit change)).unlock cfgId, [])

/-- After `initGrid` the visitor reads the table again. -/
def initialized (cfgId : ℕ) (content : Content Data) (visit : Visit Data) (map : StarMap Data) :
    StarMap Data × List (Task Data) :=
  (map.register cfgId content).visitObject cfgId map.nextObject visit

/-- A visit to a grid that may have no object yet. -/
def visitGrid (settings : MapSettings Data) (cfgId : ℕ) (visit : Visit Data)
    (map : StarMap Data) : StarMap Data × List (Task Data) :=
  match map.grids cfgId with
  | some object => map.visitObject cfgId object visit
  | none => if settings.isGrid cfgId then (map, [.findOne cfgId visit]) else (map, [])

/-- A visit ends without its grid. -/
def giveUp (cfgId : ℕ) (visit : Visit Data) (map : StarMap Data) :
    StarMap Data × List (Task Data) :=
  if visit.locks then (map.unlock cfgId, []) else (map, [])

def accept (settings : MapSettings Data) (request : Request Data) (map : StarMap Data) :
    StarMap Data × List (Task Data) :=
  match request with
  | .selectBeginGrid unionId choice => (map, [.selectBeginGrid unionId choice])
  | .transferBeginGrid unionId dstCfgId =>
      if settings.isGrid dstCfgId ∧ settings.isBeginGrid dstCfgId then
        (map, [.getUnionBeginGridId unionId dstCfgId])
      else (map, [])
  | .startBattle cfgId byUnion change =>
      if cfgId ∈ map.locked ∨ !settings.isGrid cfgId ∨ settings.isBeginGrid cfgId then (map, [])
      else
        { map with locked := insert cfgId map.locked }.visitGrid settings cfgId
          (.startBattle byUnion change)
  | .edit cfgId change =>
      match map.grids cfgId with
      | none => (map, [])
      | some object => (map, [.edit cfgId object change])

/-- `transferBeginGrid`, once the union has transferred its begin grid. -/
def transferred (cfgId object unionId srcCfgId : ℕ) (map : StarMap Data) : StarMap Data :=
  match map.grids srcCfgId with
  | none => map
  | some source =>
      (map.changeGrid srcCfgId source (.delUnionId unionId)).changeGrid cfgId object
        (.addUnionId unionId)

def resume (settings : MapSettings Data) (task : Task Data) (reply : Reply Data)
    (map : StarMap Data) : StarMap Data × List (Task Data) :=
  match task, reply with
  | .findOne cfgId visit, .raise | .update cfgId visit, .raise => map.giveUp cfgId visit
  | .takeStarmapCampaignArmy cfgId _ _, .raise => (map.unlock cfgId, [])
  | _, .raise => (map, [])
  | .selectBeginGrid unionId choice, .beginGridId beginGridId =>
      if beginGridId = some 0 ∧ choice ∈ settings.starmapBegin then
        map.visitGrid settings choice (.link unionId)
      else (map, [])
  | .getUnionBeginGridId unionId dstCfgId, .beginGridId beginGridId =>
      match beginGridId with
      | none => (map, [])
      | some srcCfgId =>
          if srcCfgId = 0 ∨ settings.chainID srcCfgId ≠ settings.chainID dstCfgId then (map, [])
          else map.visitGrid settings dstCfgId (.transferBeginGrid unionId)
  | .findOne cfgId visit, .doc (some content) => map.initialized cfgId content visit
  | .findOne cfgId visit, .doc none => (map, [.update cfgId visit])
  | .update cfgId visit, .done => map.initialized cfgId ⟨∅, settings.newGrid cfgId⟩ visit
  | .setUnionBeginGrid cfgId object unionId, .allowed yes =>
      if yes then (map.changeGrid cfgId object (.addUnionId unionId), []) else (map, [])
  | .transferBeginGrid cfgId object unionId, .beginGridId srcCfgId =>
      match srcCfgId with
      | none => (map, [])
      | some srcCfgId => (map.transferred cfgId object unionId srcCfgId, [])
  | .takeStarmapCampaignArmy cfgId object change, .allowed yes =>
      if yes then ((map.changeGrid cfgId object (.edit change)).unlock cfgId, [])
      else (map.unlock cfgId, [])
  | .edit cfgId object change, .done => (map.changeGrid cfgId object (.edit change), [])
  | _, _ => (map, [task])

/-- `Starmap:ctor`. -/
def empty : StarMap Data where
  objects _ := none
  nextObject := 0
  grids _ := none
  autosaved := []
  locked := ∅
  changes := []

end StarMap

/-- The documents that are found at the start; `IDX_CFGID` is a unique index. -/
structure Docs (Data : Type) where
  docs : List (ℕ × Content Data)
  unique : (docs.map Prod.fst).Nodup

def StarMap.init (settings : MapSettings Data) (docs : Docs Data) : StarMap Data :=
  docs.docs.foldl
    (fun map doc => if settings.isGrid doc.1 then map.register doc.1 doc.2 else map) .empty

def gridService (settings : MapSettings Data) :
    Service (StarMap Data) (Request Data) (Task Data) (Reply Data) where
  accept := StarMap.accept settings
  resume := StarMap.resume settings

def gridStart (settings : MapSettings Data) (docs : Docs Data) :
    Config (StarMap Data) (Task Data) :=
  ⟨StarMap.init settings docs, []⟩

def StarMap.changesOf (map : StarMap Data) (cfgId : ℕ) : List (Change Data) :=
  (map.changes.filter (·.1 = cfgId)).map Prod.snd

/-- No two objects of one grid are saved, and the object in the table has had all changes. -/
structure OneObject (map : StarMap Data) : Prop where
  once : ∀ first ∈ map.autosaved, ∀ second ∈ map.autosaved,
    (map.objects first).map (·.cfgId) = (map.objects second).map (·.cfgId) → first = second
  kept : ∀ cfgId object grid, map.grids cfgId = some object → map.objects object = some grid →
    grid.content = (map.changesOf cfgId).foldr Change.apply grid.loaded

/-- The handler is in `initGrid`. -/
def Task.registers : Task Data → Option ℕ
  | .findOne cfgId _ | .update cfgId _ => some cfgId
  | _ => none

/-- Nobody else is in `initGrid` of the grid when it is missing. -/
def VisitsAlone (map : StarMap Data) (others : List (Task Data)) (cfgId : ℕ) : Prop :=
  map.grids cfgId = none → ∀ other ∈ others, other.registers ≠ some cfgId
  deriving Decidable

/-- No second visitor comes to a begin grid while the first one is in `initGrid`. -/
def visitsAlone (settings : MapSettings Data) :
    Guard (StarMap Data) (Request Data) (Task Data) (Reply Data) where
  onRequest _ _ _ := True
  onReply task reply map others :=
    match task, reply with
    | .selectBeginGrid _ choice, .beginGridId (some 0) =>
        choice ∈ settings.starmapBegin → VisitsAlone map others choice
    | .getUnionBeginGridId _ dstCfgId, .beginGridId (some srcCfgId) =>
        srcCfgId ≠ 0 → settings.chainID srcCfgId = settings.chainID dstCfgId →
          VisitsAlone map others dstCfgId
    | _, _ => True

instance (settings : MapSettings Data) (request : Request Data) (map : StarMap Data)
    (others : List (Task Data)) :
    Decidable ((visitsAlone settings).onRequest request map others) :=
  inferInstanceAs (Decidable True)

instance (settings : MapSettings Data) (task : Task Data) (reply : Reply Data)
    (map : StarMap Data) (others : List (Task Data)) :
    Decidable ((visitsAlone settings).onReply task reply map others) := by
  unfold visitsAlone
  dsimp only
  split <;> infer_instance

end BasWar.Starmap.BeginGrids
