import BasWar.Cooperative.Pool
import BasWar.Mail.PlyMail
import Mathlib.Algebra.Order.Ring.Int
import Mathlib.Logic.Function.Basic

/-!
# Receiving the attachments of mails

A handler of the mail bag goes through its mails, through the attachments of each mail, and, for
an item, through the stacks that take it.  It is suspended where `addItem` calls another service.
Between two calls it runs alone: no other handler moves while one is running.  A loaded player is
a new object; handlers of the old object no longer reach it.
-/

namespace BasWar.Mails

open Cooperative

structure ItemCfg where
  maxNum : ℕ
  maxNum_pos : 0 < maxNum
  /-- `ITEM_SKILL`. -/
  isSkill : Bool
  isAutoUse : Bool
  unique : Bool
  /-- The effect of the item calls another service. -/
  effectCalls : Bool

structure Tables where
  gamelog : ℕ → Bool
  item : ℕ → Option ItemCfg

/-- `not source.logType or not gamelog[source.logType]`, negated. -/
def Tables.logs (tables : Tables) (logType : Option ℕ) : Bool :=
  (logType.map tables.gamelog).getD false

structure Item where
  id : ℕ
  cfgId : ℕ
  num : ℕ

/-- What one turn of the loops of `addItem` places: on a stack that has room, or as a new one. -/
structure Chunk where
  item : Option ℕ
  num : ℕ

/-- The turns of the first loop of `addItem`, and what they leave. -/
def overlay (maxNum : ℕ) : List Item → ℕ → List Chunk × ℕ
  | [], left => ([], left)
  | item :: items, left =>
      if item.num < maxNum then
        let num := min left (maxNum - item.num)
        if left - num = 0 then ([⟨some item.id, num⟩], 0)
        else
          let later := overlay maxNum items (left - num)
          (⟨some item.id, num⟩ :: later.1, later.2)
      else overlay maxNum items left

/-- The turns of the second loop of `addItem`. -/
def newItems (maxNum left : ℕ) : List Chunk :=
  List.replicate (left / maxNum) ⟨none, maxNum⟩ ++
    if left % maxNum = 0 then [] else [⟨none, left % maxNum⟩]

/-- All turns of `addItem`. -/
def turns (itemCfg : ItemCfg) (items : List Item) (num : ℕ) : List Chunk :=
  let first := overlay itemCfg.maxNum items num
  first.1 ++ newItems itemCfg.maxNum first.2

/-- What `addItem` does after a chunk is placed. -/
inductive Call
  | isNewGet
  | autoUseItem (id num : ℕ)

structure Player where
  mailsDict : Mailbox
  res : ℕ → ℤ
  items : List Item
  /-- Uses of items that are used on their own. -/
  used : ℕ → ℕ
  /-- What each attachment of each mail has brought so far. -/
  credited : ℕ → ℕ → ℤ
  /-- Mails of which a receive has begun and not ended. -/
  receiving : List ℕ

structure State where
  player : Player
  stored : Player
  loads : ℕ
  /-- Last id that `snowflake.uuid` gave. -/
  uuid : ℕ
  /-- A handler is between two calls. -/
  running : Bool

/-- Variables of the loop over the attachments of one mail. -/
structure Receipt where
  id : ℕ
  index : ℕ
  logType : Option ℕ
  /-- Attachments from `index` on. -/
  rest : List Attach
  ids : List ℕ

/-- Variables of `addItem`. -/
structure Adding where
  itemCfg : ItemCfg
  cfgId : ℕ
  chunks : List Chunk

inductive Point
  | mails (ids : List ℕ)
  | attachments (receipt : Receipt)
  /-- At the loops of `addItem` for the first of the attachments that are left. -/
  | chunks (receipt : Receipt) (adding : Adding)
  /-- In a turn of these loops, with calls to make. -/
  | calls (receipt : Receipt) (adding : Adding) (left : List Call)
  | waits (receipt : Receipt) (adding : Adding) (call : Call) (left : List Call)

structure Task where
  /-- The load of the object that the handler works on. -/
  loads : ℕ
  point : Point

inductive Reply
  | resume
  /-- The item was used before. -/
  | refused
  | raise
  deriving DecidableEq

inductive Request
  | getMail (id : ℕ)
  | delMail (id : ℕ)
  | oneKeyDelMails
  /-- `ids` are the keys of `readMails` as `table.keys` gives them. -/
  | oneKeyReadMails (ids : List ℕ)
  | receiveMailAttach (id : ℕ)
  | checkExpireMails (now : ℕ)
  | saveToDb
  /-- The player is unloaded, and loaded again. -/
  | load

namespace Player

/-- `addResDict` of one resource that `mail` attaches. -/
def addRes (receipt : Receipt) (attach : Attach) (player : Player) : Player :=
  if attach.count ≤ 0 then player
  else
    { player with
      res := Function.update player.res attach.cfgId (player.res attach.cfgId + attach.count)
      credited := Function.update player.credited receipt.id
        (Function.update (player.credited receipt.id) receipt.index
          (player.credited receipt.id receipt.index + attach.count)) }

/-- The stack that a chunk goes to is in the bag. -/
def Placeable (chunk : Chunk) (player : Player) : Prop :=
  ∀ id, chunk.item = some id → id ∈ player.items.map Item.id

instance (chunk : Chunk) (player : Player) : Decidable (player.Placeable chunk) :=
  match found : chunk.item with
  | none => isTrue (by simp [Placeable, found])
  | some id => decidable_of_iff (id ∈ player.items.map Item.id) (by simp [Placeable, found])

/-- `addItemNum` or `addItemObj`; a stack that has left the bag takes nothing to the player. -/
def place (receipt : Receipt) (cfgId uuid : ℕ) (chunk : Chunk) (player : Player) : Player :=
  if player.Placeable chunk then
    { player with
      items :=
        match chunk.item with
        | some id =>
            player.items.map fun item =>
              if item.id = id then { item with num := item.num + chunk.num } else item
        | none => player.items ++ [⟨uuid, cfgId, chunk.num⟩]
      credited := Function.update player.credited receipt.id
        (Function.update (player.credited receipt.id) receipt.index
          (player.credited receipt.id receipt.index + chunk.num)) }
  else player

/-- `autoUseItem` after its checks: the effect and `costItemNum`. -/
def autoUseItem (cfgId id num : ℕ) (player : Player) : Player :=
  if ∃ item ∈ player.items, item.id = id ∧ num ≤ item.num then
    { player with
      items := (player.items.map fun item =>
        if item.id = id then { item with num := item.num - num } else item).filter
          fun item => item.id ≠ id ∨ 0 < item.num
      used := Function.update player.used cfgId (player.used cfgId + num) }
  else player

/-- The mails that `oneKeyReadMails` reads. -/
def unread (player : Player) : List ℕ :=
  (player.mailsDict.mails.filter fun mail => !mail.read || !mail.get).map PlyMail.id

end Player

/-- The calls of a turn of `addItem`. -/
def Chunk.calls (itemCfg : ItemCfg) (uuid : ℕ) (chunk : Chunk) : List Call :=
  match chunk.item with
  | some id => if itemCfg.isAutoUse then [.autoUseItem id chunk.num] else []
  | none =>
      (if itemCfg.isSkill then [.isNewGet] else []) ++
        if itemCfg.isAutoUse then [.autoUseItem uuid chunk.num] else []

def Call.suspends (itemCfg : ItemCfg) : Call → Bool
  | .isNewGet => true
  | .autoUseItem _ _ => itemCfg.unique || itemCfg.effectCalls

namespace Point

/-- The handler is between two calls. -/
def runs : Point → Bool
  | .mails _ | .attachments _ | .chunks _ _ | .calls _ _ _ => true
  | .waits _ _ _ _ => false

end Point

namespace State

def setPlayer (player : Player) (state : State) : State :=
  { state with player := player }

def goOn (point : Point) (state : State) : State × List Task :=
  ({ state with running := point.runs }, [⟨state.loads, point⟩])

def finish (state : State) : State × List Task :=
  ({ state with running := false }, [])

/-- One turn of the loop over the mails. -/
def nextMail (ids : List ℕ) (state : State) : State × List Task :=
  match ids with
  | [] => state.finish
  | id :: ids =>
      match state.player.mailsDict.find id with
      | none => state.goOn (.mails ids)
      | some mail =>
          match mail.attachment with
          | none => state.goOn (.mails ids)
          | some attachment =>
              (state.setPlayer
                { state.player with receiving := id :: state.player.receiving }).goOn
                  (.attachments ⟨id, 0, mail.logType, attachment, ids⟩)

/-- The loop over the attachments has ended. -/
def markGet (receipt : Receipt) (state : State) : State × List Task :=
  (state.setPlayer
    { state.player with
      mailsDict := state.player.mailsDict.setGet receipt.id
      receiving := state.player.receiving.filter (· ≠ receipt.id) }).goOn (.mails receipt.ids)

/-- Move on to the next attachment. -/
def skip (receipt : Receipt) (rest : List Attach) (state : State) : State × List Task :=
  state.goOn (.attachments { receipt with index := receipt.index + 1, rest := rest })

/-- One turn of the loop over the attachments, up to the loops of `addItem`. -/
def nextAttachment (tables : Tables) (receipt : Receipt) (state : State) : State × List Task :=
  match receipt.rest with
  | [] => state.markGet receipt
  | attach :: rest =>
      match attach.type with
      | .res =>
          if tables.logs receipt.logType then
            (state.setPlayer (state.player.addRes receipt attach)).skip receipt rest
          else state.skip receipt rest
      | .item =>
          if tables.logs receipt.logType then
            if attach.count ≤ 0 then state.finish
            else
              match tables.item attach.cfgId with
              | none => state.skip receipt rest
              | some itemCfg =>
                  state.goOn (.chunks { receipt with rest := rest }
                    ⟨itemCfg, attach.cfgId,
                      turns itemCfg (state.player.items.filter (·.cfgId = attach.cfgId))
                        attach.count.toNat⟩)
          else state.skip receipt rest
      | .other => state.skip receipt rest

/-- One turn of the loops of `addItem`. -/
def nextChunk (receipt : Receipt) (adding : Adding) (state : State) : State × List Task :=
  match adding.chunks with
  | [] => state.skip receipt receipt.rest
  | chunk :: chunks =>
      let uuid := state.uuid + 1
      ({ state with
          player := state.player.place receipt adding.cfgId uuid chunk
          uuid := uuid }).goOn
        (.calls receipt { adding with chunks := chunks } (chunk.calls adding.itemCfg uuid))

/-- What a call does to the player once it is answered. -/
def answer (adding : Adding) (call : Call) (state : State) : State :=
  match call with
  | .isNewGet => state
  | .autoUseItem id num => state.setPlayer (state.player.autoUseItem adding.cfgId id num)

/-- The rest of a turn of the loops of `addItem`. -/
def nextCall (receipt : Receipt) (adding : Adding) (left : List Call) (state : State) :
    State × List Task :=
  match left with
  | [] => state.goOn (.chunks receipt adding)
  | call :: left =>
      if call.suspends adding.itemCfg then state.goOn (.waits receipt adding call left)
      else (state.answer adding call).goOn (.calls receipt adding left)

def accept (request : Request) (state : State) : State × List Task :=
  if state.running then (state, [])
  else
    match request with
    | .getMail id =>
        (state.setPlayer
          { state.player with mailsDict := state.player.mailsDict.setRead [id] }, [])
    | .delMail id =>
        (state.setPlayer
          { state.player with
            mailsDict := state.player.mailsDict.keep fun mail => mail.id ≠ id ∨ !mail.canDel }, [])
    | .oneKeyDelMails =>
        (state.setPlayer
          { state.player with
            mailsDict := state.player.mailsDict.keep fun mail => !mail.canDel }, [])
    | .oneKeyReadMails ids =>
        if ids.Perm state.player.unread then
          (state.setPlayer
            { state.player with mailsDict := state.player.mailsDict.setRead ids }).goOn
              (.mails ids)
        else (state, [])
    | .receiveMailAttach id =>
        match state.player.mailsDict.find id with
        | none => (state, [])
        | some mail =>
            if mail.get then (state, [])
            else if mail.attachment = none then (state, [])
            else state.goOn (.mails [id])
    | .checkExpireMails now =>
        (state.setPlayer
          { state.player with
            mailsDict := state.player.mailsDict.keep fun mail => !mail.isExpire now }, [])
    | .saveToDb => ({ state with stored := state.player }, [])
    | .load => ({ state with player := state.stored, loads := state.loads + 1 }, [])

def resume (tables : Tables) (task : Task) (reply : Reply) (state : State) : State × List Task :=
  -- A handler of an object that was unloaded changes nothing that is left.
  if task.loads ≠ state.loads then (state, [])
  else
    match task.point, reply with
    | .mails ids, .resume => state.nextMail ids
    | .attachments receipt, .resume => state.nextAttachment tables receipt
    | .chunks receipt adding, .resume => state.nextChunk receipt adding
    | .calls receipt adding left, .resume => state.nextCall receipt adding left
    | .waits receipt adding call left, reply =>
        if state.running then (state, [task])
        else
          match call, reply with
          | call, .resume => (state.answer adding call).goOn (.calls receipt adding left)
          | .autoUseItem _ _, .refused =>
              if adding.itemCfg.unique then state.goOn (.calls receipt adding left)
              else (state, [task])
          | .isNewGet, .refused => (state, [task])
          | _, .raise => (state, [])
    | _, _ => (state, [task])

end State

def mailBag (tables : Tables) : Service State Request Task Reply where
  accept := State.accept
  resume := State.resume tables

end BasWar.Mails
