/-
**Checking a story.**

A story that loads may still be broken: identifiers may be blank or repeated, and references may
lead nowhere.  What the engine relies on is an error; references that only enrich a story, and
expressions that do not parse, are warnings.

Main definitions:

* `Storyworld.cameBefore` — whether an id came before;
* `Storyworld.checkScene`, `Storyworld.checkLayout` — the issues of one scene or layout;
* `Storyworld.StoryBundle.check` — the issues of a story together with its lore.
-/

import Storyworld.Expression.Syntax
import Storyworld.Issue
import Storyworld.Story.Basic
import Storyworld.Text.Blank

set_option relaxedAutoImplicit false
set_option autoImplicit false

namespace Storyworld

/-! ### Small checks -/

/-- Whether a text has nothing but blanks. -/
def isBlankText (s : String) : Bool := s.toList.all Text.isBlank

/-- An issue if a test holds. -/
def issueIf (b : Bool) (i : Issue) : List Issue := if b then [i] else []

/-- The issues of each entry of a list, given its index. -/
def issuesOfEach {α : Type} (f : Nat → α → List Issue) (xs : List α) : List Issue :=
  (xs.zipIdx.map fun (x, i) => f i x).flatten

/-- Whether the id of the entry at an index came before. -/
def cameBefore (ids : List String) (i : Nat) (id : String) : Bool := (ids.take i).contains id

/-- A warning if a condition is an expression that does not parse. -/
def checkCondition (path : String) : Option Condition → List Issue
  | some (.expression text) =>
    match Expression.parse text with
    | .error f => [.warning path s!"Expression parse warning: {f.message}"]
    | .ok _ => []
  | _ => []

/-! ### Layouts -/

/-- The issues of the layout of a location.  A layout without nodes has none. -/
def checkLayout (sceneIds : List String) (path : String) (l : Layout) : List Issue :=
  let nodeIds := l.nodes.map (·.id)
  if l.nodes.isEmpty then []
  else
    issuesOfEach (fun i n =>
      issueIf (cameBefore nodeIds i n.id)
        (.error s!"{path}/layout/nodes/{i}/id" s!"Duplicate layout node id {n.id}") ++
      issueIf (!sceneIds.contains n.sceneId)
        (.error s!"{path}/layout/nodes/{i}/sceneId"
          s!"Layout node sceneId {n.sceneId} not found")) l.nodes ++
    issuesOfEach (fun i c =>
      issueIf (!nodeIds.contains c.source)
        (.error s!"{path}/layout/connections/{i}/from"
          s!"Layout connection from {c.source} not found") ++
      issueIf (!nodeIds.contains c.target)
        (.error s!"{path}/layout/connections/{i}/to"
          s!"Layout connection to {c.target} not found") ++
      checkCondition s!"{path}/layout/connections/{i}/lockedBy" c.lockedBy) l.connections

/-! ### Scenes -/

/-- What the references of a scene may lead to. -/
structure Targets where
  sceneIds : List String
  locationIds : List String
  assetIds : List String
  lore : List LoreEntry

/-- The issues of the variants of a narrative. -/
def checkNarrative (path : String) : Narrative → List Issue
  | .variants vs => issuesOfEach (fun i v => checkCondition s!"{path}/{i}/condition" v.condition) vs
  | _ => []

/-- The issues of an exit. -/
def checkExit (targets : Targets) (path : String) (e : Exit) : List Issue :=
  issueIf (!targets.sceneIds.contains e.targetScene)
    (.error s!"{path}/targetScene" s!"Exit targetScene {e.targetScene} not found") ++
  checkCondition s!"{path}/condition" e.condition

/-- An error if an effect teleports to a scene that is not there. -/
def checkEffect (targets : Targets) (path : String) : Effect → List Issue
  | .teleport scene _ =>
    issueIf (!targets.sceneIds.contains scene)
      (.error s!"{path}/targetScene" s!"Teleport targetScene {scene} not found")
  | _ => []

/-- The issues of an action, but for its id. -/
def checkAction (targets : Targets) (path : String) (a : Action) : List Issue :=
  checkCondition s!"{path}/condition" a.condition ++
  issuesOfEach (fun i e => checkEffect targets s!"{path}/effects/{i}" e) a.effects

/-- Whether a mention of lore leads to an entry.  Category `other` need not. -/
def LoreRef.resolves (lore : List LoreEntry) (r : LoreRef) : Bool :=
  r.category == "other" || lore.any fun e => e.category == r.category && e.id == r.id

/-- The issues of a scene. -/
def checkScene (targets : Targets) (path : String) (s : Scene) : List Issue :=
  let location := s.locationId.getD ""
  issueIf (location != "" && !targets.locationIds.contains location)
    (.warning s!"{path}/locationId" s!"Scene locationId {location} not found") ++
  checkNarrative s!"{path}/narrative/text" s.narrative ++
  issuesOfEach (fun i r =>
    issueIf (!r.resolves targets.lore)
      (.warning s!"{path}/narrative/loreRefs/{i}"
        s!"LoreRef {r.category}:{r.id} does not resolve")) s.loreRefs ++
  issuesOfEach (fun i id =>
    issueIf (!targets.assetIds.contains id)
      (.warning s!"{path}/ambience/{i}" s!"AssetRef {id} not found in story assets"))
    ((s.ambience.map Ambience.assetIds).getD []) ++
  issuesOfEach (fun i e => checkExit targets s!"{path}/exits/{i}" e) s.exits ++
  issuesOfEach (fun i a =>
    issueIf (cameBefore (s.actions.map (·.id)) i a.id)
      (.error s!"{path}/actions/{i}/id" s!"Duplicate action id {a.id}") ++
    checkAction targets s!"{path}/actions/{i}" a) s.actions

/-! ### Stories -/

/-- Errors for the names of a story that are blank. -/
def checkNames (story : StoryBundle) : List Issue :=
  [("id", story.id), ("version", story.version), ("name", story.name)].flatMap fun (field, value) =>
    issueIf (isBlankText value) (.error s!"/{field}" "Expected non-empty string")

/-- The issues of the ids of the scenes. -/
def checkSceneIds (story : StoryBundle) : List Issue :=
  issuesOfEach (fun i s =>
    issueIf (isBlankText s.id) (.error s!"/story/scenes/{i}/id" "Expected non-empty string") ++
    issueIf (cameBefore (story.scenes.map (·.id)) i s.id)
      (.error s!"/story/scenes/{i}/id" s!"Duplicate scene id {s.id}")) story.scenes

/-- The issues of the locations. -/
def checkLocations (sceneIds : List String) (story : StoryBundle) : List Issue :=
  issuesOfEach (fun i l =>
    let path := s!"/world/locations/{i}"
    issueIf (cameBefore (story.world.locations.map (·.id)) i l.id)
      (.error s!"{path}/id" s!"Duplicate location id {l.id}") ++
    issueIf (!sceneIds.contains l.entryScene)
      (.error s!"{path}/entryScene" s!"Location entryScene {l.entryScene} not found") ++
    ((l.layout.map (checkLayout sceneIds path)).getD [])) story.world.locations

/-- **The issues of a story together with its lore.** -/
def StoryBundle.check (story : StoryBundle) (lore : List LoreBundle) : List Issue :=
  let sceneIds := story.scenes.map (·.id)
  let assetIds := story.assets.map (·.id)
  let targets : Targets :=
    ⟨sceneIds, story.world.locations.map (·.id), assetIds, lore.flatMap (·.entries)⟩
  checkNames story ++
  checkSceneIds story ++
  checkLocations sceneIds story ++
  issueIf (!sceneIds.contains story.startScene)
    (.error "/story/startScene" s!"Start scene {story.startScene} not found") ++
  issuesOfEach (fun i a =>
    issueIf (cameBefore assetIds i a.id)
      (.error s!"/assets/{i}/id" s!"Duplicate asset id {a.id}")) story.assets ++
  issuesOfEach (fun i s => checkScene targets s!"/story/scenes/{i}" s) story.scenes ++
  issuesOfEach (fun i c => checkCondition s!"/world/spatialGraph/edges/{i}/condition" c)
    story.world.edgeConditions

end Storyworld
