import BasWar.Cooperative.Pool

/-!
# The registry of players

The maps and locks of the player manager are kept by player id, and this is one player.  An object
is made live when it enters the registry.  Loading, saving and unloading call the database; so do
the segments of a command call other services.  A change that a command makes to an object is a
number, and what a document or an object contains is the list of its changes.
-/

namespace BasWar.PlayerMgr

open Cooperative

structure Cplayer where
  changes : List ℕ
  linkobj : Bool
  disconnecting : Bool
  forceExitgame : Bool
  /-- The object is in the save manager. -/
  autosave : Bool

structure Mgr where
  objects : ℕ → Cplayer
  /-- Number of objects that were made live. -/
  uuid : ℕ
  players : List ℕ
  lastTick : Bool
  /-- Tickets at the lock of `recoverplayer`; the first one has it. -/
  loading : List ℕ
  /-- Tickets at the lock of `C2S_EnterGame`. -/
  entering : List ℕ
  tickets : ℕ
  stored : Option (List ℕ)
  /-- Every change that a command has made. -/
  made : List ℕ
  /-- Changes that were made and that a later load did not return. -/
  missed : List ℕ

inductive Loader
  /-- `doPlayerCmd` of a command that makes some changes before its first call. -/
  | doPlayerCmd (changes : List ℕ)
  | enterGame (ticket : ℕ)

inductive After
  | done
  /-- The login makes the object live that it has loaded. -/
  | enterGame (ticket since : ℕ) (loaded : List ℕ)
  | exitgame (object : ℕ)

/-- `since` is the number of changes when the load began. -/
inductive Task
  | waitsLoad (ticket since : ℕ) (loader : Loader)
  | findOne (ticket since : ℕ) (loader : Loader)
  /-- The answer of `findOne` on its way, or the load of its components. -/
  | found (ticket since : ℕ) (loader : Loader) (doc : Option (List ℕ))
  | command (object : ℕ)
  | update (object : ℕ) (changes : List ℕ) (after : Option After)
  /-- The answer of the update of an unload. -/
  | updated (object : ℕ) (after : After)
  | waitsEnter (ticket : ℕ)
  | checktoken (ticket : ℕ)
  /-- `ondisconnect` of an object whose link is replaced. -/
  | replacing (ticket object : ℕ)
  | onlogin (ticket : ℕ)
  | ondisconnect (object : ℕ)
  | onlogout (object : ℕ)

inductive Reply
  | go
  /-- A command makes some changes before its next call. -/
  | changes (changes : List ℕ)
  /-- A command returns, or a login is refused. -/
  | finish
  | raise

inductive Request
  | doPlayerCmd (changes : List ℕ)
  | enterGame
  | onClose
  | kick
  /-- `onMinute` when the last tick is too old. -/
  | onMinute
  /-- The timer of the save manager. -/
  | ontimer (object : ℕ)

namespace Mgr

def setObject (object : ℕ) (cplayer : Cplayer) (mgr : Mgr) : Mgr :=
  { mgr with objects := fun other => if other = object then cplayer else mgr.objects other }

def setplayerlasttick (mgr : Mgr) : Mgr :=
  match mgr.players with
  | [] => { mgr with lastTick := false }
  | object :: _ => { mgr with lastTick := !(mgr.objects object).linkobj }

def change (object : ℕ) (changes : List ℕ) (mgr : Mgr) : Mgr :=
  { mgr.setObject object
      { mgr.objects object with changes := (mgr.objects object).changes ++ changes } with
    made := mgr.made ++ changes }

/-- A load has returned an object that contains `changes`. -/
def returned (changes : List ℕ) (mgr : Mgr) : Mgr :=
  { mgr with missed := mgr.missed ++ mgr.made.filter (· ∉ changes) }

/-- `addplayer`; it raises if there is an object. -/
def addplayer (changes : List ℕ) (linkobj : Bool) (mgr : Mgr) : Mgr :=
  match mgr.players with
  | [] =>
      { mgr.setObject mgr.uuid ⟨changes, linkobj, false, false, true⟩ with
        players := [mgr.uuid]
        uuid := mgr.uuid + 1 }
  | _ :: _ => mgr

/-- The segments of `doPlayerCmd` once its player is registered. -/
def runCmd (object : ℕ) (changes : List ℕ) (mgr : Mgr) : Mgr × List Task :=
  let mgr := mgr.returned (mgr.objects object).changes
  (mgr.setplayerlasttick.change object changes, [.command object])

/-- `recoverplayer` up to the call of `findOne`. -/
def recoverplayer (loader : Loader) (mgr : Mgr) : Mgr × List Task :=
  let ticket := mgr.tickets + 1
  let next := { mgr with tickets := ticket, loading := mgr.loading ++ [ticket] }
  match mgr.loading with
  | [] => (next, [.findOne ticket mgr.made.length loader])
  | _ :: _ => (next, [.waitsLoad ticket mgr.made.length loader])

/-- `setplayerlasttick` and `delplayer` leave the lock of the login alone; this releases it. -/
def releaseEnter (ticket : ℕ) (mgr : Mgr) : Mgr :=
  { mgr with entering := mgr.entering.erase ticket }

def releaseLoad (ticket : ℕ) (mgr : Mgr) : Mgr :=
  { mgr with loading := mgr.loading.erase ticket }

/-- A login makes its object live. -/
def enterLoaded (ticket : ℕ) (loaded : List ℕ) (mgr : Mgr) : Mgr × List Task :=
  ((mgr.returned loaded).addplayer loaded true, [.onlogin ticket])

/-- An object leaves the save manager and the registry. -/
def delobj (object : ℕ) (mgr : Mgr) : Mgr :=
  { mgr.setObject object { mgr.objects object with autosave := false } with
    players := []
    lastTick := false }

/-- The segment of `delplayer` after the save. -/
def removed (object : ℕ) (after : After) (mgr : Mgr) : Mgr × List Task :=
  let next := mgr.delobj object
  match after with
  | .done => (next, [])
  | .enterGame ticket _ loaded => next.enterLoaded ticket loaded
  | .exitgame object =>
      (next.setObject object { next.objects object with forceExitgame := false }, [])

/-- `delplayer` up to the call of `update`. -/
def delplayer (object : ℕ) (after : After) (mgr : Mgr) : Mgr × List Task :=
  if (mgr.objects object).autosave then
    (mgr, [.update object (mgr.objects object).changes (some after)])
  else mgr.removed object after

/-- The login binds a registered object. -/
def enterLive (ticket object : ℕ) (mgr : Mgr) : Mgr × List Task :=
  (mgr.setObject object { mgr.objects object with linkobj := true, disconnecting := false },
    [.onlogin ticket])

/-- `_entergame` after `checktoken`. -/
def entergame (ticket : ℕ) (mgr : Mgr) : Mgr × List Task :=
  match mgr.players with
  | [] => mgr.recoverplayer (.enterGame ticket)
  | object :: _ =>
      if (mgr.objects object).linkobj && !(mgr.objects object).disconnecting then
        (mgr.setObject object { mgr.objects object with disconnecting := true },
          [.replacing ticket object])
      else mgr.enterLive ticket object

/-- The load has ended. -/
def loaded (ticket since : ℕ) (loader : Loader) (doc : Option (List ℕ)) (mgr : Mgr) :
    Mgr × List Task :=
  let next := mgr.releaseLoad ticket
  match loader, doc, mgr.players with
  | .doPlayerCmd _, none, _ => (next, [])
  | .enterGame ticket, none, _ => (next.releaseEnter ticket, [])
  | .doPlayerCmd changes, some loaded, [] =>
      (next.addplayer loaded false).runCmd mgr.uuid changes
  | .doPlayerCmd changes, some _, object :: _ => next.runCmd object changes
  | .enterGame ticket, some loaded, [] => next.enterLoaded ticket loaded
  | .enterGame ticket, some loaded, object :: _ =>
      next.delplayer object (.enterGame ticket since loaded)

/-- `disconnect` up to the call of `ondisconnect`; nothing if the object is disconnected. -/
def disconnect (object : ℕ) (mgr : Mgr) : Mgr × List Task :=
  if (mgr.objects object).linkobj && !(mgr.objects object).disconnecting then
    (mgr.setObject object { mgr.objects object with disconnecting := true },
      [.ondisconnect object])
  else (mgr, [])

/-- `exitgame` after `onlogout`. -/
def exitgame (object : ℕ) (mgr : Mgr) : Mgr × List Task :=
  if (mgr.objects object).forceExitgame then
    match mgr.players with
    | [] =>
        ({ mgr.setObject object { mgr.objects object with forceExitgame := false } with
            lastTick := false }, [])
    | live :: _ => mgr.delplayer live (.exitgame object)
  else (mgr.setplayerlasttick, [])

def accept (request : Request) (mgr : Mgr) : Mgr × List Task :=
  match request, mgr.players with
  | .doPlayerCmd changes, [] => mgr.recoverplayer (.doPlayerCmd changes)
  | .doPlayerCmd changes, object :: _ => mgr.runCmd object changes
  | .enterGame, _ =>
      let ticket := mgr.tickets + 1
      let next := { mgr with tickets := ticket, entering := mgr.entering ++ [ticket] }
      match mgr.entering with
      | [] => (next, [.checktoken ticket])
      | _ :: _ => (next, [.waitsEnter ticket])
  | .onClose, object :: _ => mgr.disconnect object
  | .kick, object :: _ =>
      let next := mgr.setObject object { mgr.objects object with forceExitgame := true }
      if (mgr.objects object).linkobj && !(mgr.objects object).disconnecting then
        next.disconnect object
      else (next, [.onlogout object])
  | .onMinute, object :: _ =>
      if mgr.lastTick then
        if (mgr.objects object).linkobj then ({ mgr with lastTick := false }, [])
        else mgr.delplayer object .done
      else (mgr, [])
  | .onMinute, [] => ({ mgr with lastTick := false }, [])
  | .ontimer object, _ =>
      if object < mgr.uuid ∧ (mgr.objects object).autosave then
        (mgr, [.update object (mgr.objects object).changes none])
      else (mgr, [])
  | .onClose, [] | .kick, [] => (mgr, [])

def resume (task : Task) (reply : Reply) (mgr : Mgr) : Mgr × List Task :=
  match task, reply with
  | .waitsLoad ticket since loader, .go =>
      if mgr.loading.head? = some ticket then (mgr, [.findOne ticket since loader])
      else (mgr, [.waitsLoad ticket since loader])
  | .findOne ticket since loader, .go => (mgr, [.found ticket since loader mgr.stored])
  | .findOne ticket _ loader, .raise | .found ticket _ loader _, .raise =>
      match loader with
      | .doPlayerCmd _ => (mgr.releaseLoad ticket, [])
      | .enterGame enter => ((mgr.releaseLoad ticket).releaseEnter enter, [])
  | .found ticket since loader doc, .go => mgr.loaded ticket since loader doc
  | .command object, .changes changes => (mgr.change object changes, [.command object])
  | .command _, .finish | .command _, .raise => (mgr, [])
  | .update object changes after, .go =>
      ({ mgr with stored := some changes }, (after.map (Task.updated object)).toList)
  -- The save manager catches the error of a save.
  | .update _ _ none, .raise => (mgr, [])
  | .update object _ (some after), .raise => mgr.removed object after
  | .updated object after, .go | .updated object after, .raise => mgr.removed object after
  | .waitsEnter ticket, .go =>
      if mgr.entering.head? = some ticket then (mgr, [.checktoken ticket])
      else (mgr, [.waitsEnter ticket])
  | .checktoken ticket, .go => mgr.entergame ticket
  | .checktoken ticket, .finish | .checktoken ticket, .raise => (mgr.releaseEnter ticket, [])
  | .replacing ticket object, .go => mgr.enterLive ticket object
  | .replacing ticket _, .raise => (mgr.releaseEnter ticket, [])
  | .onlogin ticket, .go | .onlogin ticket, .raise => (mgr.releaseEnter ticket, [])
  | .ondisconnect object, .go =>
      (mgr.setObject object { mgr.objects object with linkobj := false, disconnecting := false },
        [.onlogout object])
  | .ondisconnect _, .raise => (mgr, [])
  -- An error of `onlogout` is caught.
  | .onlogout object, .go | .onlogout object, .raise => mgr.exitgame object
  | task, _ => (mgr, [task])

end Mgr

def playerMgr : Service Mgr Request Task Reply where
  accept := Mgr.accept
  resume := Mgr.resume

def mgrStart (stored : Option (List ℕ)) : Config Mgr Task :=
  ⟨⟨fun _ => ⟨[], false, false, false, false⟩, 0, [], false, [], [], 0, stored, [], []⟩, []⟩

/-- There is at most one live object, and every load has returned all changes made before it. -/
structure NothingLost (mgr : Mgr) : Prop where
  one : mgr.players.length ≤ 1
  returned : mgr.missed = []

end BasWar.PlayerMgr
