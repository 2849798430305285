/-
**The shapes of stories and lore.**

A story bundle holds a graph of scenes, a world of locations and companions, references to the rule
modules that it needs, and assets.  A lore bundle holds canon: races, factions, deities, traits,
locations, items and events.

Main definitions:

* `Storyworld.Story.conditionShape`, `Storyworld.Story.effectShape`,
  `Storyworld.Story.narrativeShape` — the unions that stories are made of;
* `Storyworld.Story.sceneShape`, `Storyworld.Story.exitShape` — scenes and exits;
* `Storyworld.Story.storyShape`, `Storyworld.Story.loreShape` — whole bundles.
-/

import Storyworld.Schema.Conform

set_option relaxedAutoImplicit false
set_option autoImplicit false

namespace Storyworld.Story

open Schema

/-! ### Building records -/

/-- A field that must be given. -/
def need (name : String) (shape : Shape) (rest : Fields) : Fields :=
  .field name .required shape rest

/-- A field that may be absent or null. -/
def may (name : String) (shape : Shape) (rest : Fields) : Fields :=
  .field name .optional shape rest

/-- A list that is empty when it is absent. -/
def many (name : String) (item : Shape) (rest : Fields) : Fields :=
  .field name (.defaulted (.arr [])) (.list item) rest

/-- A record that takes no further fields. -/
def record (name : String) (fields : Fields) : Shape := .record name fields false

/-- The field that names the case of a union. -/
def tagField (tag : String) (rest : Fields) : Fields := need "type" (.word [tag]) rest

def textList : Shape := .list .text

def flagTable : Shape := .table .boolean

def anyTable : Shape := .table .anything

/-! ### Items, conditions and effects -/

def itemShape : Shape :=
  record "Item" <| need "id" .text <| need "name" .text <| may "description" .text <|
    may "tags" textList <| may "loreItemId" .text <| may "properties" anyTable .done

/-- A condition.  A type that is not one of the five known ones is for rule modules to answer. -/
def conditionShape : Shape :=
  .union .condition <|
    .case "flag" (record "FlagCondition" <| tagField "flag" <| need "key" .text <|
      may "operator" .text <| may "value" .boolean .done) <|
    .case "stat" (record "StatCondition" <| tagField "stat" <| need "key" .text <|
      need "operator" .text <| need "value" .number .done) <|
    .case "inventory" (record "InventoryCondition" <| tagField "inventory" <| need "key" .text <|
      may "operator" .text <| may "value" .number .done) <|
    .case "expression" (record "ExpressionCondition" <| tagField "expression" <|
      need "expr" .text .done) <|
    .case "lore" (record "LoreCondition" <| tagField "lore" <| need "key" .text <|
      may "operator" .text <| may "value" .anything .done) <|
    .case "custom" (.record "CustomCondition" (need "type" .text .done) true) .done

/-- A change with optional bounds. -/
def boundedChange (rest : Fields) : Fields :=
  need "delta" .number <| may "min" .number <| may "max" .number rest

/-- One case of an effect. -/
def effectCase (tag name : String) (fields : Fields) (rest : Cases) : Cases :=
  .case tag (record name (tagField tag fields)) rest

/-- An effect, of one of fourteen types. -/
def effectShape : Shape :=
  .union .effect <|
    effectCase "setFlag" "SetFlagEffect" (need "key" .text <| need "value" .boolean .done) <|
    effectCase "modifyStat" "ModifyStatEffect" (need "key" .text <| boundedChange .done) <|
    effectCase "addItem" "AddItemEffect" (need "item" itemShape <| may "count" .integer .done) <|
    effectCase "removeItem" "RemoveItemEffect" (need "itemId" .text <| may "count" .integer .done) <|
    effectCase "setVar" "SetVarEffect" (need "key" .text <| may "value" .anything .done) <|
    effectCase "modifyVar" "ModifyVarEffect" (need "key" .text <| may "delta" .anything .done) <|
    effectCase "teleport" "TeleportEffect" (need "targetScene" .text <|
      may "targetLocationId" .text .done) <|
    effectCase "setReputation" "SetReputationEffect" (need "factionId" .text <|
      need "value" .number .done) <|
    effectCase "setRelationship" "SetRelationshipEffect" (need "targetId" .text <|
      need "value" .number <| may "stage" .text <| may "flags" flagTable .done) <|
    effectCase "modifyRelationship" "ModifyRelationshipEffect" (need "targetId" .text <|
      boundedChange .done) <|
    effectCase "addCompanion" "AddCompanionEffect" (need "companionId" .text .done) <|
    effectCase "removeCompanion" "RemoveCompanionEffect" (need "companionId" .text .done) <|
    effectCase "setCompanionFlag" "SetCompanionFlagEffect" (need "companionId" .text <|
      need "key" .text <| need "value" .boolean .done) <|
    effectCase "modifyCompanionRelationship" "ModifyCompanionRelationshipEffect"
      (need "companionId" .text <| boundedChange .done) .done

def ruleModuleRefShape : Shape :=
  record "RuleModuleRef" <| need "id" .text <| need "system" .text <| may "version" .text <|
    may "config" anyTable .done

def hookShape : Shape :=
  record "RuleHook" <| may "moduleId" .text <| need "type" .text <| may "payload" anyTable .done

/-! ### Scenes -/

def localizedShape : Shape :=
  record "LocalizedText" <| need "locale" .text <| need "text" .text .done

def variantShape : Shape :=
  record "TextVariant" <| need "text" .text <| may "weight" .number <|
    may "condition" conditionShape .done

/-- The text of a narrative: plain, in several languages, or in weighted variants. -/
def narrativeShape : Shape :=
  .union .narrative <| .case "plain" .text <| .case "localized" (.list localizedShape) <|
    .case "variants" (.list variantShape) .done

def loreRefShape : Shape :=
  record "LoreRef" <| need "type" .text <| need "id" .text <| may "note" .text .done

def narrativeBlockShape : Shape :=
  record "NarrativeBlock" <| need "text" narrativeShape <| may "pov" .text <| may "tone" .text <|
    may "loreRefs" (.list loreRefShape) <| may "authorNotes" .text .done

def exitShape : Shape :=
  record "Exit" <| need "label" .text <| need "targetScene" .text <|
    may "condition" conditionShape <| may "travelText" narrativeShape .done

def actionShape : Shape :=
  record "Action" <| need "id" .text <| need "label" .text <| may "condition" conditionShape <|
    may "effects" (.list effectShape) <| may "ruleHooks" (.list hookShape) <|
    may "category" .text .done

def assetRefShape : Shape := record "AssetRef" <| need "id" .text <| may "uri" .text .done

def voiceShape : Shape :=
  record "VoiceSpec" <| need "mode" .text <| may "narrationAsset" assetRefShape <|
    may "voiceId" .text <| may "scope" .text .done

def ambienceShape : Shape :=
  record "AmbienceBlock" <| may "soundscape" assetRefShape <| may "music" assetRefShape <|
    may "imagery" (.list assetRefShape) <| may "voice" voiceShape <| may "lighting" .text <|
    may "mood" .text .done

def sceneShape : Shape :=
  record "Scene" <| need "id" .text <| may "title" .text <| need "narrative" narrativeBlockShape <|
    may "ambience" ambienceShape <| many "exits" exitShape <| many "actions" actionShape <|
    many "entryRules" hookShape <| many "exitRules" hookShape <| may "tags" textList <|
    may "locationId" .text .done

def storyGraphShape : Shape :=
  record "StoryGraph" <| need "scenes" (.list sceneShape) <| need "startScene" .text .done

/-! ### The world -/

def gridTileShape : Shape :=
  record "GridTile" <| need "sceneId" .text <| may "walkable" .boolean <|
    may "tags" textList .done

def gridLayoutShape : Shape :=
  record "GridLayout" <| need "width" .integer <| need "height" .integer <|
    need "tiles" (.table gridTileShape) .done

def layoutNodeShape : Shape :=
  record "LayoutNode" <| need "id" .text <| need "sceneId" .text <| may "tags" textList <|
    may "label" .text .done

def layoutConnectionShape : Shape :=
  record "LayoutConnection" <| need "from" .text <| need "to" .text <| may "direction" .text <|
    may "lockedBy" conditionShape <| may "label" .text .done

def layoutShape : Shape :=
  record "LocationLayout" <| need "layoutType" .text <| may "nodes" (.list layoutNodeShape) <|
    may "connections" (.list layoutConnectionShape) <| may "grid" gridLayoutShape .done

def locationShape : Shape :=
  record "Location" <| need "id" .text <| need "name" .text <| need "type" .text <|
    may "description" .text <| need "entryScene" .text <| may "sceneIds" textList <|
    may "layout" layoutShape <| may "loreLocationId" .text <| may "tags" textList .done

def regionShape : Shape :=
  record "Region" <| need "id" .text <| need "name" .text <| may "description" .text <|
    may "climate" .text <| may "themes" textList <| may "locationIds" textList .done

def spatialNodeShape : Shape :=
  record "SpatialNode" <| need "id" .text <| need "type" .text <| may "refId" .text <|
    may "name" .text <| may "tags" textList .done

def spatialEdgeShape : Shape :=
  record "SpatialEdge" <| need "from" .text <| need "to" .text <| may "travelMode" .text <|
    may "distance" .number <| may "condition" conditionShape .done

def spatialGraphShape : Shape :=
  record "SpatialGraph" <| need "nodes" (.list spatialNodeShape) <|
    need "edges" (.list spatialEdgeShape) .done

def relationshipSeedShape : Shape :=
  record "RelationshipSeed" <| need "value" .number <| may "stage" .text <|
    may "flags" flagTable .done

def companionShape : Shape :=
  record "CompanionDefinition" <| need "id" .text <| need "name" .text <| may "role" .text <|
    may "description" .text <| may "defaultRelationship" relationshipSeedShape <|
    may "tags" textList .done

def worldShape : Shape :=
  record "WorldDefinition" <| may "id" .text <| may "name" .text <| may "description" .text <|
    may "regions" (.list regionShape) <| need "locations" (.list locationShape) <|
    may "companions" (.list companionShape) <| may "spatialGraph" spatialGraphShape .done

/-! ### Story bundles -/

def loreBundleRefShape : Shape := record "LoreBundleRef" <| need "id" .text .done

def assetShape : Shape :=
  record "Asset" <| need "id" .text <| need "type" .text <| need "path" .text <|
    may "mimeType" .text <| may "durationMs" .integer <| may "width" .integer <|
    may "height" .integer <| may "tags" textList .done

def metadataShape : Shape :=
  record "BundleMetadata" <| may "author" .text <| may "license" .text <| may "createdAt" .text <|
    may "updatedAt" .text <| may "themes" textList <| may "contentRating" .text .done

def storyShape : Shape :=
  record "StoryBundle" <| need "id" .text <| need "version" .text <| may "schemaVersion" .text <|
    need "name" .text <| may "description" .text <| may "loreRefs" (.list loreBundleRefShape) <|
    need "world" worldShape <| need "story" storyGraphShape <|
    many "ruleModules" ruleModuleRefShape <| may "assets" (.list assetShape) <|
    may "metadata" metadataShape .done

/-! ### Lore bundles -/

/-- The fields that most lore entries begin with. -/
def loreEntry (rest : Fields) : Fields :=
  need "id" .text <| need "name" .text <| need "description" .text rest

def traitShape : Shape := record "Trait" <| loreEntry .done

def raceShape : Shape :=
  record "Race" <| loreEntry <| may "culture" .text <| may "physiology" .text <|
    .field "playable" (.defaulted (.bool false)) .boolean <| may "traitIds" textList <|
    may "statModifiers" (.table .number) <| may "tags" textList .done

def factionRelationshipShape : Shape :=
  record "FactionRelationship" <| need "factionId" .text <| need "stance" .text <|
    may "note" .text .done

def factionShape : Shape :=
  record "Faction" <| loreEntry <| may "ideology" .text <| may "alignment" .text <|
    may "goals" textList <| may "relationships" (.list factionRelationshipShape) <|
    may "tags" textList .done

def deityShape : Shape :=
  record "Deity" <| need "id" .text <| need "name" .text <| need "domains" textList <|
    may "alignment" .text <| may "worshipperFactionIds" textList <| may "tags" textList .done

def loreLocationShape : Shape :=
  record "LoreLocation" <| loreEntry <| may "region" .text <| may "tags" textList .done

def loreItemShape : Shape :=
  record "LoreItem" <| loreEntry <| may "rarity" .text <| may "myth" .text <|
    may "tags" textList .done

def loreEventShape : Shape :=
  record "LoreEvent" <| loreEntry <| may "era" .text <| may "relatedFactionIds" textList <|
    may "tags" textList .done

def loreShape : Shape :=
  record "LoreBundle" <| need "id" .text <| need "version" .text <| may "schemaVersion" .text <|
    need "name" .text <| may "description" .text <| may "races" (.list raceShape) <|
    may "factions" (.list factionShape) <| may "deities" (.list deityShape) <|
    may "traits" (.list traitShape) <| may "locations" (.list loreLocationShape) <|
    may "items" (.list loreItemShape) <| may "history" (.list loreEventShape) <|
    may "tags" textList <| may "metadata" metadataShape .done

end Storyworld.Story
