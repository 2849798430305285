/-
**States as documents.**

A state is saved as a document and taken from one.  Sections that are not in use are left out.

Main definitions:

* `Storyworld.Game.stateShape` — the shape of a state, with those of its parts;
* `Storyworld.GameState.ofDocument`, `Storyworld.GameState.toDocument` — a state from a document
  and as one;
* `Storyworld.Game.readState`, `Storyworld.Game.readCharacter` — from any document, or a fault.
-/

import Storyworld.Game.State
import Storyworld.Story.Load

set_option relaxedAutoImplicit false
set_option autoImplicit false

namespace Storyworld

/-! ### Shapes -/

namespace Game

open Schema Story

/-- A field that has a value when it is absent. -/
def usual (name : String) (value : Json) (shape : Shape) (rest : Fields) : Fields :=
  .field name (.defaulted value) shape rest

def inventoryEntryShape : Shape :=
  record "InventoryEntry" <| need "item" itemShape <| need "count" .integer .done

def characterShape : Shape :=
  record "Character" <| may "id" .text <| usual "name" (.str "Player") .text <|
    usual "stats" (.obj []) (.table .number) <| many "inventory" inventoryEntryShape <|
    may "raceId" .text <| may "factionIds" textList <| may "flags" flagTable .done

def relationshipShape : Shape :=
  record "RelationshipState" <| usual "value" (.int 0) .number <| may "stage" .text <|
    may "flags" flagTable .done

def companionshipShape : Shape :=
  record "CompanionState" <| need "id" .text <| need "name" .text <| may "role" .text <|
    may "relationship" relationshipShape <| may "flags" flagTable .done

def playerShape : Shape :=
  record "SessionPlayer" <| need "id" .text <| may "name" .text <| may "role" .text .done

def voteShape : Shape :=
  record "SessionAction" <| need "playerId" .text <| may "actionId" .text <|
    may "exitLabel" .text <| usual "at" (.str defaultTimestamp) .text <|
    usual "seq" (.int 0) .integer .done

def sessionShape : Shape :=
  record "SessionState" <| need "id" .text <| many "players" playerShape <|
    may "currentTurn" .integer <| may "pendingActions" (.list voteShape) .done

def eventShape : Shape :=
  record "HistoryEvent" <| usual "at" (.str defaultTimestamp) .text <| usual "seq" (.int 0) .integer <|
    need "type" (.word (EventKind.all.map EventKind.name)) <| may "sceneId" .text <|
    may "actionId" .text <| may "data" anyTable .done

/-- The character of a state that names none. -/
def defaultCharacter : Json :=
  .obj [("name", .str "Player"), ("stats", .obj []), ("inventory", .arr [])]

/-- The shape of a state. -/
def stateShape : Shape :=
  record "GameState" <| usual "version" (.str defaultVersion) .text <|
    .field "schemaVersion" (.optionalDefaulted (.str defaultSchemaVersion)) .text <|
    need "storyBundleId" .text <| may "loreBundleIds" textList <| need "currentSceneId" .text <|
    may "currentLocationId" .text <| usual "character" defaultCharacter characterShape <|
    usual "flags" (.obj []) flagTable <| usual "vars" (.obj []) anyTable <|
    may "loreKnowledge" (.table .text) <| may "reputation" (.table .number) <|
    may "companions" (.list companionshipShape) <|
    may "relationships" (.table relationshipShape) <| may "session" sessionShape <|
    many "history" eventShape .done

end Game

/-! ### Parts of a state -/

def Character.ofDocument (j : Json) : Character where
  id := j.text? "id"
  name := j.text "name"
  stats := j.tableOf Json.number? "stats"
  inventory := (j.items "inventory").map fun e =>
    ⟨.ofDocument (e.anything "item"), e.integer "count"⟩
  raceId := j.text? "raceId"
  factionIds := j.texts? "factionIds"
  flags := j.tableOf? Json.bool? "flags"

def InventoryEntry.toDocument (e : InventoryEntry) : Json :=
  .obj [("item", e.item.toDocument), ("count", .int e.count)]

def Character.toDocument (c : Character) : Json :=
  .record [("id", c.id.map .str), ("name", some (.str c.name)),
    ("stats", some (.ofTable .ofNumber c.stats)),
    ("inventory", some (.arr (c.inventory.map InventoryEntry.toDocument))),
    ("raceId", c.raceId.map .str), ("factionIds", c.factionIds.map .ofTexts),
    ("flags", c.flags.map (.ofTable .bool))]

def Relationship.ofDocument (j : Json) : Relationship :=
  ⟨j.quantity "value", j.text? "stage", j.tableOf? Json.bool? "flags"⟩

def Relationship.toDocument (r : Relationship) : Json :=
  .record [("value", some (.ofNumber r.value)), ("stage", r.stage.map .str),
    ("flags", r.flags.map (.ofTable .bool))]

def Companionship.ofDocument (j : Json) : Companionship where
  id := j.text "id"
  name := j.text "name"
  role := j.text? "role"
  relationship := (j.given? "relationship").map Relationship.ofDocument
  flags := j.tableOf? Json.bool? "flags"

def Companionship.toDocument (c : Companionship) : Json :=
  .record [("id", some (.str c.id)), ("name", some (.str c.name)), ("role", c.role.map .str),
    ("relationship", c.relationship.map Relationship.toDocument),
    ("flags", c.flags.map (.ofTable .bool))]

def Player.ofDocument (j : Json) : Player := ⟨j.text "id", j.text? "name", j.text? "role"⟩

def Player.toDocument (p : Player) : Json :=
  .record [("id", some (.str p.id)), ("name", p.name.map .str), ("role", p.role.map .str)]

def Vote.ofDocument (j : Json) : Vote :=
  ⟨j.text "playerId", j.text? "actionId", j.text? "exitLabel", j.text "at", j.integer "seq"⟩

def Vote.toDocument (v : Vote) : Json :=
  .record [("playerId", some (.str v.playerId)), ("actionId", v.actionId.map .str),
    ("exitLabel", v.exitLabel.map .str), ("at", some (.str v.time)), ("seq", some (.int v.seq))]

def SessionState.ofDocument (j : Json) : SessionState where
  id := j.text "id"
  players := (j.items "players").map Player.ofDocument
  currentTurn := j.integer? "currentTurn"
  pending := (j.items? "pendingActions").map (·.map Vote.ofDocument)

def SessionState.toDocument (s : SessionState) : Json :=
  .record [("id", some (.str s.id)), ("players", some (.arr (s.players.map Player.toDocument))),
    ("currentTurn", s.currentTurn.map .int),
    ("pendingActions", s.pending.map fun vs => .arr (vs.map Vote.toDocument))]

/-- The kind of entry with a name. -/
def EventKind.ofName (name : String) : EventKind :=
  (EventKind.all.find? (·.name == name)).getD .rule

def Event.ofDocument (j : Json) : Event where
  time := j.text "at"
  seq := j.integer "seq"
  kind := .ofName (j.text "type")
  sceneId := j.text? "sceneId"
  actionId := j.text? "actionId"
  data := j.fields? "data"

def Event.toDocument (e : Event) : Json :=
  .record [("at", some (.str e.time)), ("seq", some (.int e.seq)),
    ("type", some (.str e.kind.name)), ("sceneId", e.sceneId.map .str),
    ("actionId", e.actionId.map .str), ("data", e.data.map .obj)]

/-! ### States -/

def GameState.ofDocument (j : Json) : GameState where
  version := j.text "version"
  schemaVersion := j.text? "schemaVersion"
  storyBundleId := j.text "storyBundleId"
  loreBundleIds := j.texts? "loreBundleIds"
  currentSceneId := j.text "currentSceneId"
  currentLocationId := j.text? "currentLocationId"
  character := .ofDocument (j.anything "character")
  flags := j.tableOf Json.bool? "flags"
  vars := (j.fields? "vars").getD []
  loreKnowledge := j.tableOf? Json.str? "loreKnowledge"
  reputation := j.tableOf? Json.number? "reputation"
  companions := (j.items? "companions").map (·.map Companionship.ofDocument)
  relationships := (j.fields? "relationships").map fun fields =>
    fields.map fun (k, v) => (k, Relationship.ofDocument v)
  session := (j.given? "session").map SessionState.ofDocument
  history := (j.items "history").map Event.ofDocument

/-- The fields of a state but for its log. -/
def GameState.fields (s : GameState) : List (String × Option Json) :=
  [("version", some (.str s.version)), ("schemaVersion", s.schemaVersion.map .str),
    ("storyBundleId", some (.str s.storyBundleId)),
    ("loreBundleIds", s.loreBundleIds.map .ofTexts),
    ("currentSceneId", some (.str s.currentSceneId)),
    ("currentLocationId", s.currentLocationId.map .str),
    ("character", some s.character.toDocument), ("flags", some (.ofTable .bool s.flags)),
    ("vars", some (.obj s.vars)), ("loreKnowledge", s.loreKnowledge.map (.ofTable .str)),
    ("reputation", s.reputation.map (.ofTable .ofNumber)),
    ("companions", s.companions.map fun cs => .arr (cs.map Companionship.toDocument)),
    ("relationships", s.relationships.map (.ofTable Relationship.toDocument)),
    ("session", s.session.map SessionState.toDocument)]

/-- **A state as a document.** -/
def GameState.toDocument (s : GameState) : Json :=
  .record (s.fields ++ [("history", some (.arr (s.history.map Event.toDocument)))])

namespace Game

/-! ### From any document -/

/-- The state that a document describes. -/
def readState (j : Json) : Except Fault GameState := (fit stateShape j).map .ofDocument

/-- The character that a document describes. -/
def readCharacter (j : Json) : Except Fault Character := (fit characterShape j).map .ofDocument

end Game

end Storyworld
