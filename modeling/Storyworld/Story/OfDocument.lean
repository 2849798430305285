/-
**Stories and lore from documents, and back.**

A document that is in its shape is taken apart into the parts of a story.  Items and effects are
also written as documents again.

Main definitions:

* `Storyworld.Condition.ofDocument`, `Storyworld.Effect.ofDocument`,
  `Storyworld.Narrative.ofDocument` — the unions;
* `Storyworld.Scene.ofDocument`, `Storyworld.StoryBundle.ofDocument`,
  `Storyworld.LoreBundle.ofDocument` — the parts of bundles;
* `Storyworld.Item.toDocument`, `Storyworld.Effect.toDocument` — items and effects as documents.
-/

import Storyworld.Story.Basic

set_option relaxedAutoImplicit false
set_option autoImplicit false

namespace Storyworld

/-! ### Conditions and effects -/

/-- The condition that a document in the shape of conditions is. -/
def Condition.ofDocument (j : Json) : Condition :=
  match j.text "type" with
  | "flag" => .flag (j.text "key") (j.text? "operator") (j.truth? "value")
  | "stat" => .stat (j.text "key") (j.text "operator") (j.quantity "value")
  | "inventory" => .inventory (j.text "key") (j.text? "operator") (j.quantity? "value")
  | "expression" => .expression (j.text "expr")
  | "lore" => .lore (j.text "key") (j.text? "operator") (j.anything "value")
  | type => .custom type ((j.obj?.getD []).filter fun f => f.1 != "type")

/-- The condition in a field, if there is one. -/
def conditionAt? (j : Json) (k : String) : Option Condition :=
  (j.given? k).map Condition.ofDocument

def Item.ofDocument (j : Json) : Item where
  id := j.text "id"
  name := j.text "name"
  description := j.text? "description"
  tags := j.texts? "tags"
  loreItemId := j.text? "loreItemId"
  properties := j.fields? "properties"

def Item.toDocument (i : Item) : Json :=
  .record [("id", some (.str i.id)), ("name", some (.str i.name)),
    ("description", i.description.map .str), ("tags", i.tags.map .ofTexts),
    ("loreItemId", i.loreItemId.map .str), ("properties", i.properties.map .obj)]

def Change.ofDocument (j : Json) : Change :=
  ⟨j.quantity "delta", j.quantity? "min", j.quantity? "max"⟩

/-- The fields of a change. -/
def Change.fields (c : Change) : List (String × Option Json) :=
  [("delta", some (.ofNumber c.delta)), ("min", c.low.map .ofNumber),
   ("max", c.high.map .ofNumber)]

/-- The effect that a document in the shape of effects is. -/
def Effect.ofDocument (j : Json) : Effect :=
  match j.text "type" with
  | "setFlag" => .setFlag (j.text "key") (j.truth "value")
  | "modifyStat" => .modifyStat (j.text "key") (.ofDocument j)
  | "addItem" => .addItem (.ofDocument (j.anything "item")) (j.integer? "count")
  | "removeItem" => .removeItem (j.text "itemId") (j.integer? "count")
  | "setVar" => .setVar (j.text "key") (j.anything "value")
  | "modifyVar" => .modifyVar (j.text "key") (j.anything "delta")
  | "teleport" => .teleport (j.text "targetScene") (j.text? "targetLocationId")
  | "setReputation" => .setReputation (j.text "factionId") (j.quantity "value")
  | "setRelationship" =>
    .setRelationship (j.text "targetId") (j.quantity "value") (j.text? "stage")
      (j.tableOf? Json.bool? "flags")
  | "modifyRelationship" => .modifyRelationship (j.text "targetId") (.ofDocument j)
  | "addCompanion" => .addCompanion (j.text "companionId")
  | "removeCompanion" => .removeCompanion (j.text "companionId")
  | "setCompanionFlag" =>
    .setCompanionFlag (j.text "companionId") (j.text "key") (j.truth "value")
  | _ => .modifyCompanionRelationship (j.text "companionId") (.ofDocument j)

/-- The fields of an effect behind its type. -/
def Effect.fields : Effect → List (String × Option Json)
  | setFlag key value => [("key", some (.str key)), ("value", some (.bool value))]
  | modifyStat key change => ("key", some (.str key)) :: change.fields
  | addItem item count => [("item", some item.toDocument), ("count", count.map .int)]
  | removeItem itemId count => [("itemId", some (.str itemId)), ("count", count.map .int)]
  | setVar key value => [("key", some (.str key)), ("value", some value)]
  | modifyVar key delta => [("key", some (.str key)), ("delta", some delta)]
  | teleport targetScene targetLocation =>
    [("targetScene", some (.str targetScene)), ("targetLocationId", targetLocation.map .str)]
  | setReputation factionId value =>
    [("factionId", some (.str factionId)), ("value", some (.ofNumber value))]
  | setRelationship targetId value stage flags =>
    [("targetId", some (.str targetId)), ("value", some (.ofNumber value)),
     ("stage", stage.map .str), ("flags", flags.map (.ofTable .bool))]
  | modifyRelationship targetId change => ("targetId", some (.str targetId)) :: change.fields
  | addCompanion companionId => [("companionId", some (.str companionId))]
  | removeCompanion companionId => [("companionId", some (.str companionId))]
  | setCompanionFlag companionId key value =>
    [("companionId", some (.str companionId)), ("key", some (.str key)),
     ("value", some (.bool value))]
  | modifyCompanionRelationship companionId change =>
    ("companionId", some (.str companionId)) :: change.fields

/-- The fields of an effect that have a value; null is none. -/
def Effect.toDocument (e : Effect) : Json :=
  .record (("type", some (.str e.kind)) :: e.fields.filter fun f =>
    !(f.2 matches some .null))

/-! ### Scenes -/

def Hook.ofDocument (j : Json) : Hook :=
  ⟨j.text? "moduleId", j.text "type", j.fields? "payload"⟩

def Variant.ofDocument (j : Json) : Variant :=
  ⟨j.text "text", j.quantity? "weight", conditionAt? j "condition"⟩

def Translation.ofDocument (j : Json) : Translation := ⟨j.text "locale", j.text "text"⟩

/-- The narrative that a document in the shape of narratives is. -/
def Narrative.ofDocument : Json → Narrative
  | .str s => .plain s
  | .arr (first :: rest) =>
    if (first.field? "locale").isSome then
      .localized ((first :: rest).map Translation.ofDocument)
    else .variants ((first :: rest).map Variant.ofDocument)
  | _ => .variants []

def Exit.ofDocument (j : Json) : Exit where
  label := j.text "label"
  targetScene := j.text "targetScene"
  condition := conditionAt? j "condition"
  document := j

def Action.ofDocument (j : Json) : Action where
  id := j.text "id"
  label := j.text "label"
  condition := conditionAt? j "condition"
  effects := (j.items "effects").map Effect.ofDocument
  hooks := (j.items "ruleHooks").map Hook.ofDocument
  document := j

def LoreRef.ofDocument (j : Json) : LoreRef := ⟨j.text "type", j.text "id"⟩

/-- The assets that an ambience mentions: its soundscape, its music, its imagery, and the asset of
its voice. -/
def Ambience.ofDocument (j : Json) : Ambience where
  assetIds :=
    ((j.given? "soundscape").toList ++ (j.given? "music").toList ++ j.items "imagery" ++
      ((j.given? "voice").bind fun v => v.given? "narrationAsset").toList).map fun r => r.text "id"
  document := j

def Scene.ofDocument (j : Json) : Scene where
  id := j.text "id"
  narrative := .ofDocument ((j.anything "narrative").anything "text")
  loreRefs := ((j.anything "narrative").items "loreRefs").map LoreRef.ofDocument
  ambience := (j.given? "ambience").map Ambience.ofDocument
  exits := (j.items "exits").map Exit.ofDocument
  actions := (j.items "actions").map Action.ofDocument
  entryRules := (j.items "entryRules").map Hook.ofDocument
  exitRules := (j.items "exitRules").map Hook.ofDocument
  locationId := j.text? "locationId"
  document := j

/-! ### The world -/

def Layout.ofDocument (j : Json) : Layout where
  nodes := (j.items "nodes").map fun n => ⟨n.text "id", n.text "sceneId"⟩
  connections := (j.items "connections").map fun c =>
    ⟨c.text "from", c.text "to", conditionAt? c "lockedBy"⟩

def Location.ofDocument (j : Json) : Location where
  id := j.text "id"
  entryScene := j.text "entryScene"
  layout := (j.given? "layout").map Layout.ofDocument
  document := j

def RelationshipSeed.ofDocument (j : Json) : RelationshipSeed :=
  ⟨j.quantity "value", j.text? "stage", j.tableOf? Json.bool? "flags"⟩

def Companion.ofDocument (j : Json) : Companion where
  id := j.text "id"
  name := j.text "name"
  role := j.text? "role"
  relationship := (j.given? "defaultRelationship").map RelationshipSeed.ofDocument
  document := j

def World.ofDocument (j : Json) : World where
  locations := (j.items "locations").map Location.ofDocument
  companions := (j.items "companions").map Companion.ofDocument
  edgeConditions :=
    ((j.anything "spatialGraph").items "edges").map fun e => conditionAt? e "condition"

/-! ### Bundles -/

def ModuleRef.ofDocument (j : Json) : ModuleRef :=
  ⟨j.text "id", j.text "system", j.fields? "config"⟩

def StoryBundle.ofDocument (j : Json) : StoryBundle where
  id := j.text "id"
  version := j.text "version"
  schemaVersion := j.text? "schemaVersion"
  name := j.text "name"
  world := .ofDocument (j.anything "world")
  scenes := ((j.anything "story").items "scenes").map Scene.ofDocument
  startScene := (j.anything "story").text "startScene"
  ruleModules := (j.items "ruleModules").map ModuleRef.ofDocument
  assets := (j.items "assets").map fun a => ⟨a.text "id", a⟩
  document := j

def LoreBundle.ofDocument (j : Json) : LoreBundle where
  id := j.text "id"
  entries := loreCategories.flatMap fun c =>
    (j.items c.field).map fun e => ⟨c.name, e.text "id", e⟩
  document := j

end Storyworld
