/-
**The Lantern Road.**

The story that comes with the program, with its lore: a short walk from a border village into the
hills after dark.

Main definitions:

* `Storyworld.LanternRoad.story` — the story as a document;
* `Storyworld.LanternRoad.lore` — its lore as a document.
-/

import Storyworld.Json.Value

set_option relaxedAutoImplicit false
set_option autoImplicit false

namespace Storyworld.LanternRoad

/-! ### Building documents -/

/-- A field that holds a text. -/
def field (name text : String) : String × Json := (name, .str text)

def texts (ts : List String) : Json := .arr (ts.map .str)

/-- A table with an id and a name. -/
def entry (id name : String) (more : List (String × Json)) : Json :=
  .obj (field "id" id :: field "name" name :: more)

/-- A table with a type. -/
def typed (type : String) (more : List (String × Json)) : Json := .obj (field "type" type :: more)

def expression (text : String) : Json := typed "expression" [field "expr" text]

def flag (key : String) : Json := typed "flag" [field "key" key]

def setFlag (key : String) : Json := typed "setFlag" [field "key" key, ("value", .bool true)]

def teleport (scene : String) : Json := typed "teleport" [field "targetScene" scene]

def hook (moduleId type : String) (more : List (String × Json)) : Json :=
  .obj (field "moduleId" moduleId :: field "type" type :: more)

def exit (label scene : String) (more : List (String × Json)) : Json :=
  .obj (field "label" label :: field "targetScene" scene :: more)

def action (id label : String) (more : List (String × Json)) : Json :=
  .obj (field "id" id :: field "label" label :: more)

def scene (id title location : String) (narrative more : List (String × Json)) : Json :=
  .obj (field "id" id :: field "title" title :: field "locationId" location ::
    ("narrative", .obj narrative) :: more)

/-- A narrative that mentions a lore entry. -/
def mentioning (text : Json) (type id : String) : List (String × Json) :=
  [("text", text), ("loreRefs", .arr [.obj [field "type" type, field "id" id]])]

/-! ### The world -/

def village : Json :=
  entry "loc.village" "Ashford" [field "type" "town", field "entryScene" "scene.gate",
    ("sceneIds", texts ["scene.gate", "scene.chapel"]),
    ("layout", .obj [field "layoutType" "nodeGraph",
      ("nodes", .arr [
        .obj [field "id" "node.gate", field "sceneId" "scene.gate", field "label" "Gate"],
        .obj [field "id" "node.chapel", field "sceneId" "scene.chapel", field "label" "Chapel"]]),
      ("connections", .arr [
        .obj [field "from" "node.gate", field "to" "node.chapel", field "direction" "north",
          ("lockedBy", expression "flag.met.keeper == false")]])])]

def hills : Json :=
  entry "loc.hills" "The Hills" [field "type" "wilderness", field "entryScene" "scene.road",
    ("sceneIds", texts ["scene.road", "scene.hollow", "scene.ridge"])]

def mara : Json :=
  entry "comp.mara" "Mara" [field "role" "guide",
    field "description" "A warden who knows the hill paths.",
    ("defaultRelationship", .obj [("value", .int 10), field "stage" "wary"])]

/-! ### The scenes -/

def gate : Json :=
  scene "scene.gate" "The Village Gate" "loc.village"
    (mentioning (.arr [
      .obj [field "text" "Rain ticks on the gatehouse roof. The keeper watches the road.",
        ("weight", .int 2)],
      .obj [field "text" "Fog rolls over the gate. Somewhere a dog barks once, then stops.",
        ("weight", .int 1)],
      .obj [field "text" "The keeper nods at you like an old friend.", ("weight", .int 5),
        ("condition", flag "met.keeper")]]) "faction" "wardens")
    [("ambience", .obj [field "mood" "uneasy", field "lighting" "dusk"]),
      ("actions", .arr [
        action "act.talk" "Ask the keeper about the road" [field "category" "talk",
          ("effects", .arr [setFlag "met.keeper",
            typed "modifyVar" [field "key" "rumours", ("delta", .int 1)]]),
          ("ruleHooks", .arr [hook "rules.sample" "sampleNarrative" []])],
        action "act.lantern" "Take the lantern from its hook" [field "category" "search",
          ("condition", typed "inventory" [field "key" "lantern", field "operator" "notHas"]),
          ("effects", .arr [typed "addItem"
            [("item", entry "lantern" "Storm lantern" [field "loreItemId" "lantern"])]])],
        action "act.recruit" "Ask Mara to come along" [field "category" "talk",
          ("condition", expression "flag.met.keeper && !flag.mara.joined"),
          ("effects", .arr [typed "addCompanion" [field "companionId" "comp.mara"],
            setFlag "mara.joined"])]]),
      ("exits", .arr [exit "Take the road north" "scene.road" [],
        exit "Step into the chapel" "scene.chapel" [("condition", flag "met.keeper")]])]

def chapel : Json :=
  scene "scene.chapel" "Wayside Chapel" "loc.village"
    (mentioning (.str "Candles gutter before a worn carving of the Lamplighter.") "deity"
      "lamplighter")
    [("actions", .arr [
        action "act.pray" "Say a prayer for the road" [("effects", .arr [
          typed "setVar" [field "key" "knows.lamplighter", ("value", .bool true)],
          typed "setReputation" [field "factionId" "wardens", ("value", .int 5)]])]]),
      ("exits", .arr [exit "Back to the gate" "scene.gate" []])]

def road : Json :=
  scene "scene.road" "The North Road" "loc.hills"
    [("text", .arr [
      .obj [field "locale" "en", field "text" "The road climbs into the dark hills."],
      .obj [field "locale" "de", field "text" "Die Strasse steigt in die dunklen Huegel."]])]
    [("actions", .arr [
        action "act.climb" "Scramble up the scree to the ridge" [field "category" "move",
          ("ruleHooks", .arr [hook "rules.dice" "skillCheck" [("payload", .obj [
            field "stat" "str", ("dc", .int 12),
            field "successText" "You haul yourself over the lip of the ridge.",
            field "failureText" "The scree slides and you skin your hands.",
            ("successEffects", .arr [teleport "scene.ridge"]),
            ("failureEffects", .arr [typed "modifyStat"
              [field "key" "hp", ("delta", .int (-1)), ("min", .int 0)]])])]])]]),
      ("exits", .arr [exit "Return to Ashford" "scene.gate" [],
        exit "Follow the marsh lights" "scene.hollow"
          [("condition", expression "hasItem('lantern')")]])]

def hollow : Json :=
  scene "scene.hollow" "The Hollow" "loc.hills"
    [field "text" "Your lantern shows a ring of standing stones."]
    [("entryRules", .arr [hook "rules.sample" "sampleEffect" [],
        hook "rules.sample" "sampleNarrative" []]),
      ("exits", .arr [exit "Climb out toward the ridge" "scene.ridge" [],
        exit "Retreat to the road" "scene.road" []])]

def ridge : Json :=
  scene "scene.ridge" "The Ridge" "loc.hills"
    [("text", .arr [
      .obj [field "text" "Far below, Ashford is a handful of sparks."],
      .obj [field "text" "Mara points out the warden fires along the border.",
        ("condition", expression "flag.mara.joined"), ("weight", .int 3)]])]
    [("exits", .arr [exit "Head back down" "scene.road" []])]

/-! ### The story and its lore -/

/-- The story as a document. -/
def story : Json :=
  .obj [field "id" "story.lantern-road", field "version" "1.0.0", field "schemaVersion" "1.0",
    field "name" "The Lantern Road",
    field "description" "A short walk from a border village into the hills after dark.",
    ("loreRefs", .arr [.obj [field "id" "lore.marches"]]),
    ("ruleModules", .arr [
      .obj [field "id" "rules.core", field "system" "Custom"],
      .obj [field "id" "rules.sample", field "system" "Custom"],
      .obj [field "id" "rules.dice", field "system" "d20",
        ("config", .obj [field "defaultDice" "1d20"])]]),
    ("world", entry "world.marches" "The Marches"
      [("locations", .arr [village, hills]), ("companions", .arr [mara])]),
    ("story", .obj [field "startScene" "scene.gate",
      ("scenes", .arr [gate, chapel, road, hollow, ridge])])]

/-- The lore as a document. -/
def lore : Json :=
  .obj [field "id" "lore.marches", field "version" "1.0.0", field "schemaVersion" "1.0",
    field "name" "The Marches",
    ("races", .arr [
      entry "human" "Human" [field "description" "Border folk.", ("playable", .bool true)],
      entry "elf" "Elf"
        [field "description" "Rarely seen this far south.", ("playable", .bool true)]]),
    ("factions", .arr [
      entry "wardens" "The Wardens" [field "description" "Keepers of the border fires.",
        ("goals", texts ["Keep the fires lit"])]]),
    ("deities", .arr [
      entry "lamplighter" "The Lamplighter" [("domains", texts ["light", "travel"])]]),
    ("items", .arr [
      entry "lantern" "Storm lantern" [field "description" "Burns in any weather."]]),
    ("history", .arr [
      entry "long-dark" "The Long Dark" [field "description" "The winter the fires went out."]])]

end Storyworld.LanternRoad
