/-
**The state of a game.**

A state holds where the player is, the player's character, flags, variables and whatever optional
sections are in use, and a log of what has happened.  The log is only ever added to, and each of
its entries carries its own index.

Main definitions:

* `Storyworld.Character`, `Storyworld.SessionState` — parts of a state;
* `Storyworld.Event` — an entry of the log;
* `Storyworld.GameState` — the state of a game;
* `Storyworld.GameState.record` — **adding to the log**;
* `Storyworld.GameState.scopeWith`, `Storyworld.GameState.scope` — what expressions can see of a
  state.
-/

import Storyworld.Expression.Eval
import Storyworld.Game.Inventory
import Storyworld.Game.Party

set_option relaxedAutoImplicit false
set_option autoImplicit false

namespace Storyworld

/-- The time that every entry carries: games do not depend on clocks. -/
def defaultTimestamp : String := "1970-01-01T00:00:00.000Z"

/-- The version of a state that names none. -/
def defaultVersion : String := "0.1.0"

/-- The version of the shape of states. -/
def defaultSchemaVersion : String := "1.0"

/-! ### The character -/

/-- The player's character. -/
structure Character where
  id : Option String
  name : String
  stats : Table Number
  inventory : Inventory
  raceId : Option String
  factionIds : Option (List String)
  flags : Option (Table Bool)

/-- The value of a stat; a stat that is not there is zero. -/
def Character.stat (c : Character) (key : String) : Number := (c.stats.get? key).getD (.int 0)

/-! ### Sessions -/

structure Player where
  id : String
  name : Option String
  role : Option String
deriving DecidableEq

/-- A vote of a player for an action or an exit. -/
structure Vote where
  playerId : String
  actionId : Option String
  exitLabel : Option String
  time : String
  seq : Int
deriving DecidableEq

/-- Players who share a game, and their votes. -/
structure SessionState where
  id : String
  players : List Player
  currentTurn : Option Int
  pending : Option (List Vote)
deriving DecidableEq

/-- The player of a session with an id. -/
def SessionState.player? (s : SessionState) (id : String) : Option Player :=
  s.players.find? (·.id == id)

/-! ### The log -/

/-- The kinds of entries of the log. -/
inductive EventKind where
  | sceneEnter
  | sceneExit
  | action
  | effect
  | rule
deriving DecidableEq

def EventKind.name : EventKind → String
  | sceneEnter => "sceneEnter"
  | sceneExit => "sceneExit"
  | action => "action"
  | effect => "effect"
  | rule => "rule"

/-- The kinds of entries, in the order in which messages list them. -/
def EventKind.all : List EventKind := [sceneEnter, sceneExit, action, effect, rule]

/-- An entry of the log. -/
structure Event where
  time : String
  seq : Int
  kind : EventKind
  sceneId : Option String
  actionId : Option String
  data : Option (Table Json)

/-! ### States -/

/-- The state of a game. -/
structure GameState where
  version : String
  schemaVersion : Option String
  storyBundleId : String
  loreBundleIds : Option (List String)
  currentSceneId : String
  currentLocationId : Option String
  character : Character
  flags : Table Bool
  vars : Table Json
  loreKnowledge : Option (Table String)
  reputation : Option (Table Number)
  companions : Option Party
  relationships : Option (Table Relationship)
  session : Option SessionState
  history : List Event

namespace GameState

/-- **Adds an entry to the log.**  Its number is its index. -/
def record (s : GameState) (kind : EventKind) (sceneId actionId : Option String)
    (data : Option (Table Json)) : GameState :=
  { s with history := s.history ++
      [⟨defaultTimestamp, s.history.length, kind, sceneId, actionId, data⟩] }

/-- The party, which is empty if the section is not in use. -/
def party (s : GameState) : Party := s.companions.getD []

/-- The value of a flag, as conditions see it: null if it is not set. -/
def flagValue (s : GameState) (key : String) : Json :=
  match s.flags.get? key with
  | some b => .bool b
  | none => .null

/-- What expressions can see of a state, if the lists and tables that its variables hold are objects
with such names.  A flag that is not set is false, a stat or reputation that is not there is zero, a
variable that is not there is null. -/
def scopeWith (s : GameState) (objects : String → String) : Expression.Scope where
  flag key := .bool ((s.flags.get? key).getD false)
  stat key := .ofNumber (s.character.stat key)
  var key := (s.vars.get? key).getD .null
  object := objects
  reputation key := .ofNumber (((s.reputation.getD []).get? key).getD (.int 0))
  itemCount itemId := s.character.inventory.count itemId

/-- What expressions can see of a state in a game, where every variable holds an object of its
own. -/
def scope (s : GameState) : Expression.Scope := s.scopeWith id

/-- What follows the first entries of a log. -/
def eventsSince (s : GameState) (count : Nat) : List Event := s.history.drop count

end GameState

end Storyworld
