/-
**Hosting sessions.**

A host runs many games on one engine, and holds the sessions that it has created until they end.  A
session that the host no longer holds is still there for those who play in it: it can be looked at
and saved, but only active sessions can be played.  Times are given by the caller.

Main definitions:

* `Storyworld.GameSession` — a game that a host runs;
* `Storyworld.Host` — the host, with the sessions that it holds and those that it held;
* `Storyworld.Host.create`, `Storyworld.Host.finish`, `Storyworld.Host.cleanUp` — **how sessions
  begin and end**;
* `Storyworld.Host.play`, `Storyworld.Host.look` — moves in a session, and looking at it.
-/

import Storyworld.Game.Save

set_option relaxedAutoImplicit false
set_option autoImplicit false

namespace Storyworld

/-! ### Sessions -/

inductive Status where
  | active
  | completed
  | abandoned
deriving DecidableEq

def Status.name : Status → String
  | active => "active"
  | completed => "completed"
  | abandoned => "abandoned"

/-- How a session ends for a reason: anything but completion abandons it. -/
def Status.ofReason (reason : String) : Status :=
  if reason = "completed" then completed else abandoned

/-- A game that a host runs. -/
structure GameSession where
  id : String
  state : GameState
  status : Status
  /-- when the last move was made -/
  lastActive : Rat
  /-- what the last move ended with -/
  lastView : Option SceneView

namespace GameSession

def isActive (s : GameSession) : Bool := s.status = .active

/-- Makes a move in a session, which must be active.  A move that fails does not count as
activity. -/
def play (s : GameSession) (now : Rat) (move : Turn SceneView) (shared : Shared) :
    Except Fault SceneView × GameSession × Shared :=
  if s.isActive then
    match shared.carryOut s.state move with
    | (.ok view, state, shared) =>
      (.ok view, { s with state, lastActive := now, lastView := some view }, shared)
    | (.error f, state, shared) => (.error f, { s with state }, shared)
  else (.error (.sessionOver s.id s.status.name), s, shared)

/-- Looks at the scene of a session, which may be over. -/
def look (e : Engine) (s : GameSession) (shared : Shared) :
    Except Fault SceneView × GameSession × Shared :=
  let (view, state, shared) := shared.carryOut s.state e.look
  (view, { s with state }, shared)

end GameSession

/-! ### Hosts -/

/-- What a session begins with. -/
inductive Beginning where
  | newGame (seed : Json)
  | resume (saved : Saved)

/-- The state that a session begins with. -/
def Beginning.state (e : Engine) (shared : Shared) : Beginning → Except Fault GameState × Shared
  | newGame seed =>
    match Character.ofSeed seed with
    | .ok c => (.ok (e.newGame c shared).1, (e.newGame c shared).2)
    | .error f => (.error f, shared)
  | resume saved =>
    match e.restore saved with
    | ⟨_, some s, _⟩ => (.ok s, shared)
    | ⟨issues, none, _⟩ => (.error (.cannotResume issues), shared)

/-- A session that was created by a host, and whether the host holds it. -/
structure Hosted extends GameSession where
  isHeld : Bool

/-- A host: an engine, what its games share, and all sessions that were created, in the order of
their creation. -/
structure Host where
  engine : Engine
  shared : Shared
  sessions : List Hosted

namespace Host

/-- The session with an id, whether or not the host holds it. -/
def session? (h : Host) (id : String) : Option GameSession :=
  (h.sessions.find? (·.id == id)).map Hosted.toGameSession

/-- The sessions that the host holds. -/
def held (h : Host) : List GameSession := (h.sessions.filter Hosted.isHeld).map Hosted.toGameSession

/-- The session with an id, if the host holds it. -/
def held? (h : Host) (id : String) : Option GameSession := h.held.find? (·.id == id)

/-- The ids of the active sessions that the host holds. -/
def active (h : Host) : List String := (h.held.filter GameSession.isActive).map (·.id)

/-- Puts a session in the place of that with its id. -/
def replace (h : Host) (s : GameSession) : Host :=
  { h with sessions := h.sessions.map fun old =>
      if old.id = s.id then { old with toGameSession := s } else old }

/-- Lets go of the session with an id. -/
def release (h : Host) (id : String) : Host :=
  { h with sessions := h.sessions.map fun s => if s.id = id then { s with isHeld := false } else s }

/-- Holds a session that was created. -/
def hold (h : Host) (s : GameSession) : Host := { h with sessions := h.sessions ++ [⟨s, true⟩] }

/-- **Creates a session** under an id that is not in use, and enters its scene if that is wanted.
Only a session that could begin is held. -/
def create (h : Host) (id : String) (now : Rat) (beginning : Beginning) (enter : Bool) :
    Except Fault GameSession × Host :=
  match beginning.state h.engine h.shared with
  | (.error f, shared) => (.error f, { h with shared })
  | (.ok state, shared) =>
    let s : GameSession := ⟨id, state, .active, now, none⟩
    if enter then
      match s.play now (h.engine.enter state.currentSceneId) shared with
      | (.ok _, s, shared) => (.ok s, { h with shared }.hold s)
      | (.error f, _, shared) => (.error f, { h with shared })
    else (.ok s, { h with shared }.hold s)

/-- Makes a move in a session, if there is one with the id. -/
def play (h : Host) (id : String) (now : Rat) (move : Turn SceneView) :
    Option (Except Fault SceneView × Host) :=
  (h.session? id).map fun s =>
    let (view, s, shared) := s.play now move h.shared
    (view, { h with shared }.replace s)

/-- Enters the scene of a session again. -/
def start (h : Host) (id : String) (now : Rat) : Option (Except Fault SceneView × Host) :=
  h.play id now do h.engine.enter (← Turn.state).currentSceneId

/-- Looks at the scene of a session, if there is one with the id. -/
def look (h : Host) (id : String) : Option (Except Fault SceneView × Host) :=
  (h.session? id).map fun s =>
    let (view, s, shared) := s.look h.engine h.shared
    (view, { h with shared }.replace s)

/-- **Ends a session**, if the host holds it. -/
def finish (h : Host) (id reason : String) : Option GameSession × Host :=
  match h.held? id with
  | some s =>
    let s := { s with status := .ofReason reason }
    (some s, (h.release id).replace s)
  | none => (none, h)

/-- Whether a session has been idle for longer than so many seconds. -/
def isStale (now maxIdle : Rat) (s : GameSession) : Bool := maxIdle < now - s.lastActive

/-- **Ends the sessions that have been idle for too long**, and says which. -/
def cleanUp (h : Host) (now maxIdle : Rat) : List String × Host :=
  let stale := (h.held.filter (isStale now maxIdle)).map (·.id)
  (stale, stale.foldl (fun h id => (h.finish id "stale").2) h)

end Host

end Storyworld
