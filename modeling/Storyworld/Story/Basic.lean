/-
**Stories and lore.**

The parts of a story as the engine uses them.  Where a part is also shown or looked up as a whole,
it keeps the document that it was taken from.

Main definitions:

* `Storyworld.Condition` — what a choice or a variant may depend on;
* `Storyworld.Effect` — a change to a game, of one of fourteen kinds;
* `Storyworld.Hook` — a point at which rule modules are asked;
* `Storyworld.Narrative` — a text, in several languages or variants;
* `Storyworld.Scene`, `Storyworld.Exit`, `Storyworld.Action` — the graph of scenes;
* `Storyworld.StoryBundle`, `Storyworld.LoreBundle` — whole bundles.
-/

import Storyworld.Schema.Parts

set_option relaxedAutoImplicit false
set_option autoImplicit false

namespace Storyworld

/-! ### Conditions and effects -/

/-- What a choice or a variant of a text may depend on. -/
inductive Condition where
  | flag (key : String) (operator : Option String) (value : Option Bool)
  | stat (key operator : String) (value : Number)
  | inventory (itemId : String) (operator : Option String) (value : Option Number)
  | expression (text : String)
  | lore (key : String) (operator : Option String) (value : Json)
  | custom (type : String) (further : Table Json)

/-- The type of a condition, as modules are asked about it. -/
def Condition.type : Condition → String
  | flag _ _ _ => "flag"
  | stat _ _ _ => "stat"
  | inventory _ _ _ => "inventory"
  | expression _ => "expression"
  | lore _ _ _ => "lore"
  | custom type _ => type

/-- An item that a player may carry. -/
structure Item where
  id : String
  name : String
  description : Option String
  tags : Option (List String)
  loreItemId : Option String
  properties : Option (Table Json)

/-- A change of a number, held between optional bounds. -/
structure Change where
  delta : Number
  low : Option Number
  high : Option Number
deriving DecidableEq

/-- A change to a game. -/
inductive Effect where
  | setFlag (key : String) (value : Bool)
  | modifyStat (key : String) (change : Change)
  | addItem (item : Item) (count : Option Int)
  | removeItem (itemId : String) (count : Option Int)
  | setVar (key : String) (value : Json)
  | modifyVar (key : String) (delta : Json)
  | teleport (targetScene : String) (targetLocation : Option String)
  | setReputation (factionId : String) (value : Number)
  | setRelationship (targetId : String) (value : Number) (stage : Option String)
      (flags : Option (Table Bool))
  | modifyRelationship (targetId : String) (change : Change)
  | addCompanion (companionId : String)
  | removeCompanion (companionId : String)
  | setCompanionFlag (companionId key : String) (value : Bool)
  | modifyCompanionRelationship (companionId : String) (change : Change)

/-- The name of the kind of an effect. -/
def Effect.kind : Effect → String
  | setFlag _ _ => "setFlag"
  | modifyStat _ _ => "modifyStat"
  | addItem _ _ => "addItem"
  | removeItem _ _ => "removeItem"
  | setVar _ _ => "setVar"
  | modifyVar _ _ => "modifyVar"
  | teleport _ _ => "teleport"
  | setReputation _ _ => "setReputation"
  | setRelationship _ _ _ _ => "setRelationship"
  | modifyRelationship _ _ => "modifyRelationship"
  | addCompanion _ => "addCompanion"
  | removeCompanion _ => "removeCompanion"
  | setCompanionFlag _ _ _ => "setCompanionFlag"
  | modifyCompanionRelationship _ _ => "modifyCompanionRelationship"

/-! ### Scenes -/

/-- A point at which rule modules are asked.  With a module named, only that one is. -/
structure Hook where
  moduleId : Option String
  type : String
  payload : Option (Table Json)

/-- The text of a narrative in one language. -/
structure Translation where
  locale : String
  text : String
deriving DecidableEq

/-- A variant of a narrative, with its share among the variants and what it depends on. -/
structure Variant where
  text : String
  weight : Option Number
  condition : Option Condition

/-- A narrative: one text, texts in several languages, or variants to draw from. -/
inductive Narrative where
  | plain (text : String)
  | localized (translations : List Translation)
  | variants (variants : List Variant)

/-- A way out of a scene. -/
structure Exit where
  label : String
  targetScene : String
  condition : Option Condition
  document : Json

/-- A choice within a scene. -/
structure Action where
  id : String
  label : String
  condition : Option Condition
  effects : List Effect
  hooks : List Hook
  document : Json

/-- A mention of a lore entry in a narrative. -/
structure LoreRef where
  category : String
  id : String
deriving DecidableEq

/-- What surrounds a scene; only the assets it mentions matter here. -/
structure Ambience where
  assetIds : List String
  document : Json

/-- A scene. -/
structure Scene where
  id : String
  narrative : Narrative
  loreRefs : List LoreRef
  ambience : Option Ambience
  exits : List Exit
  actions : List Action
  entryRules : List Hook
  exitRules : List Hook
  locationId : Option String
  document : Json

/-- The action of a scene with an id. -/
def Scene.action? (s : Scene) (id : String) : Option Action := s.actions.find? (·.id == id)

/-! ### The world -/

structure LayoutNode where
  id : String
  sceneId : String
deriving DecidableEq

structure LayoutConnection where
  source : String
  target : String
  lockedBy : Option Condition

/-- How the scenes of a location lie to each other. -/
structure Layout where
  nodes : List LayoutNode
  connections : List LayoutConnection

structure Location where
  id : String
  entryScene : String
  layout : Option Layout
  document : Json

/-- The relationship that a companion starts with. -/
structure RelationshipSeed where
  value : Number
  stage : Option String
  flags : Option (Table Bool)

structure Companion where
  id : String
  name : String
  role : Option String
  relationship : Option RelationshipSeed
  document : Json

structure World where
  locations : List Location
  companions : List Companion
  /-- the conditions of the edges of the spatial graph -/
  edgeConditions : List (Option Condition)

/-- The companion of a world with an id. -/
def World.companion? (w : World) (id : String) : Option Companion :=
  w.companions.find? (·.id == id)

/-! ### Bundles -/

/-- A rule module that a story needs. -/
structure ModuleRef where
  id : String
  system : String
  config : Option (Table Json)

structure Asset where
  id : String
  document : Json

/-- A whole story. -/
structure StoryBundle where
  id : String
  version : String
  schemaVersion : Option String
  name : String
  world : World
  scenes : List Scene
  startScene : String
  ruleModules : List ModuleRef
  assets : List Asset
  document : Json

/-- A category of lore entries, with the field of a lore bundle that holds them. -/
structure LoreCategory where
  name : String
  field : String
deriving DecidableEq

/-- The categories of lore. -/
def loreCategories : List LoreCategory :=
  [⟨"race", "races"⟩, ⟨"faction", "factions"⟩, ⟨"deity", "deities"⟩, ⟨"trait", "traits"⟩,
   ⟨"location", "locations"⟩, ⟨"item", "items"⟩, ⟨"event", "history"⟩]

/-- A lore entry of a category. -/
structure LoreEntry where
  category : String
  id : String
  document : Json

/-- A whole lore bundle; its entries stand category by category. -/
structure LoreBundle where
  id : String
  entries : List LoreEntry
  document : Json

end Storyworld
