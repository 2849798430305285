/-
**What a player sees.**

A view of a scene shows its narrative and the exits and actions whose conditions hold.  It is what
every move ends with.  Looking at a scene again draws its narrative with a copy of the generator,
so that looking costs no chance.

Main definitions:

* `Storyworld.SceneView` — a view;
* `Storyworld.Engine.view` — the view of a scene;
* `Storyworld.Engine.look` — **the view of the scene where the player is**;
* `Storyworld.SceneView.toDocument` — a view as a document.
-/

import Storyworld.Play.Narrative

set_option relaxedAutoImplicit false
set_option autoImplicit false

namespace Storyworld

/-- What a player sees of a scene. -/
structure SceneView where
  sceneId : String
  locationId : Option String
  narrative : String
  ambience : Option Ambience
  exits : List Exit
  actions : List Action
  /-- what the last action told -/
  recent : List String

/-- Paragraphs of a narrative; empty ones are left out. -/
def paragraphs (parts : List String) : String := "\n\n".intercalate (parts.filter (· != ""))

namespace Engine

/-- The scene with an id, which must be there. -/
def requireScene (e : Engine) (id : String) : Turn Scene :=
  match e.scene? id with
  | some scene => pure scene
  | none => throw (.sceneNotFound id)

/-- **The view of a scene**, with what its hooks and the last action told. -/
def view (e : Engine) (scene : Scene) (overlays recent : List String) : Turn SceneView := do
  let base ← e.tell scene.narrative
  let exits ← e.available Exit.condition scene.exits
  let actions ← e.available Action.condition scene.actions
  return {
    sceneId := scene.id
    locationId := scene.locationId
    narrative := paragraphs (base :: overlays)
    ambience := scene.ambience
    exits
    actions
    recent
  }

/-- **The view of the scene where the player is.**  The generator stays as it was. -/
def look (e : Engine) : Turn SceneView := do
  let scene ← e.requireScene (← Turn.state).currentSceneId
  (e.view scene [] []).withCopy

end Engine

/-! ### Views as documents -/

def Exit.toJson (e : Exit) : Json := Schema.written Story.exitShape e.document

def Action.toJson (a : Action) : Json := Schema.written Story.actionShape a.document

def Ambience.toJson (a : Ambience) : Json := Schema.written Story.ambienceShape a.document

/-- A view as a document. -/
def SceneView.toDocument (v : SceneView) : Json :=
  .record [("sceneId", some (.str v.sceneId)), ("narrativeText", some (.str v.narrative)),
    ("availableExits", some (.arr (v.exits.map Exit.toJson))),
    ("availableActions", some (.arr (v.actions.map Action.toJson))),
    ("locationId", v.locationId.map .str), ("ambience", v.ambience.map Ambience.toJson),
    ("recentNarrative", if v.recent.isEmpty then none else some (.ofTexts v.recent))]

end Storyworld
