/-
**Saving and loading games.**

A save is the state of a game as an indented document.  A game is loaded from a whole save, or from
a small one that names a scene and as many other things as it likes; the rest is as in a new game.
A save is refused if it cannot be read, is for another story, or is at a scene that the story does
not have.  What the lore does not know is only warned of.

Main definitions:

* `Storyworld.GameState.save` — **a state as text**;
* `Storyworld.isFullSave`, `Storyworld.Engine.fillIn` — whole and small saves;
* `Storyworld.Engine.restore` — the state in a save, with all checks;
* `Storyworld.Engine.load` — **loading a save**, and entering its scene again if that is wanted.
-/

import Storyworld.Game.NewGame
import Storyworld.Json.Printer
import Storyworld.Play.Move

set_option relaxedAutoImplicit false
set_option autoImplicit false

namespace Storyworld

/-! ### Saving -/

mutual

/-- Whether no integer in a document has more digits than a text may hold. -/
def Json.isWritable : Json → Bool
  | .int n => n.natAbs < Nat.pow 10 Json.maxDigits
  | .arr items => Json.areWritable items
  | .obj fields => Json.areWritableFields fields
  | _ => true

def Json.areWritable : List Json → Bool
  | [] => true
  | v :: vs => v.isWritable && Json.areWritable vs

def Json.areWritableFields : List (String × Json) → Bool
  | [] => true
  | (_, v) :: fields => v.isWritable && Json.areWritableFields fields

end

/-- How many lists and tables in a document that is written may stand inside one another. -/
def Json.maxWritten : Nat := 255

/-- **A state as text**, if it has no integer that is too long, and if nothing in it stands too deep
inside lists and tables. -/
def GameState.save (s : GameState) : Except Fault String :=
  if s.toDocument.isWritable && s.toDocument.nesting ≤ Json.maxWritten then
    .ok s.toDocument.pretty
  else .error .unwritable

/-! ### Reading a save -/

/-- What a game is loaded from. -/
inductive Saved where
  | source (s : Source)
  | state (s : GameState)

namespace Game

open Schema Story

/-- The shape of a small save. -/
def smallSaveShape : Shape :=
  record "SaveGameInput" <| may "currentScene" .text <| may "currentSceneId" .text <|
    may "currentLocationId" .text <| may "storyBundleId" .text <| may "version" .text <|
    may "schemaVersion" .text <| may "loreBundleIds" textList <| may "character" anyTable <|
    may "flags" flagTable <| may "vars" anyTable <| may "reputation" (.table .number) <|
    may "history" (.list eventShape) .done

end Game

/-- A field of a save under its name or its other name. -/
def saveField (j : Json) (name : String) : Json :=
  match j with
  | .obj fields => ((Schema.lookup? fields name).map Prod.snd).getD .null
  | _ => .null

/-- Whether a save is whole: it names its story and its scene, and has a character, flags and
variables. -/
def isFullSave (j : Json) : Bool :=
  (saveField j "storyBundleId").str?.isSome && (saveField j "currentSceneId").str?.isSome &&
  ["character", "flags", "vars"].all fun name => !(saveField j name matches .null)

/-- The document in a source, or an issue: whatever is wrong with a text, it is reported. -/
def readSave (source : Source) : Except (List Issue) Json :=
  match source.read with
  | .error (.undecodable f) => .error [.error "/" s!"Invalid JSON: {f.message}"]
  | .error (.unreadable f) => .error [.error "/" s!"Invalid JSON: {f.message}"]
  | .ok (.obj fields) => .ok (.obj fields)
  | .ok _ => .error [.error "/" "Save must be a JSON object"]

namespace Engine

/-- The state of a small save that has been brought into its shape: a new game with that character
at that scene, and with all else that the save carries. -/
def fillIn (e : Engine) (save : Json) (sceneId : String) (c : Character) : GameState :=
  let s := e.fresh c
  let s := s.moveTo ((e.scene? sceneId).bind Scene.locationId)
  { s with
    currentSceneId := sceneId
    currentLocationId := save.text? "currentLocationId" <|> s.currentLocationId
    storyBundleId := (save.text? "storyBundleId").getD s.storyBundleId
    version := (save.text? "version").getD s.version
    schemaVersion := save.text? "schemaVersion" <|> s.schemaVersion
    loreBundleIds := save.texts? "loreBundleIds" <|> s.loreBundleIds
    flags := (save.tableOf? Json.bool? "flags").getD s.flags
    vars := (save.fields? "vars").getD s.vars
    reputation := save.tableOf? Json.number? "reputation" <|> s.reputation
    history := ((save.items? "history").map (·.map Event.ofDocument)).getD s.history }

/-- The state that a small save describes. -/
def readSmallSave (e : Engine) (j : Json) : Except (List Issue) GameState := do
  let save ← (fit Game.smallSaveShape j).mapError Fault.issues
  let named (k : String) : Option String := (save.text? k).filter (· != "")
  match named "currentSceneId" <|> named "currentScene" with
  | none => .error [.error "/currentSceneId" "Missing currentSceneId"]
  | some sceneId =>
    let c ← (Game.readCharacter (.obj ((save.fields? "character").getD []))).mapError Fault.issues
    return e.fillIn save sceneId c

/-- The state that a save describes, not yet checked against the story. -/
def readSaved (e : Engine) : Saved → Except (List Issue) GameState
  | .state s => .ok s
  | .source source => do
    let j ← readSave source
    if isFullSave j then (Game.readState j).mapError Fault.issues else e.readSmallSave j

/-! ### Checking a save -/

/-- Warnings for items that the lore does not know, if it knows any. -/
def inventoryWarnings (e : Engine) (s : GameState) : List Issue :=
  if (e.loreOf "item").isEmpty then []
  else (s.character.inventory.zipIdx.filter fun x => !e.hasLore "item" x.1.item.id).map
    fun (entry, i) =>
      Issue.warning s!"/character/inventory/{i}/item/id"
        s!"Item {entry.item.id} not found in lore items"

/-- How far lore can be revealed. -/
def revealStates : List String := ["known", "discoverable", "hidden"]

/-- The parts of a lore key before and behind its first colon. -/
def keyParts (key : String) : String × String :=
  let (category, rest) := key.toList.span (· != ':')
  (String.ofList category, String.ofList (rest.drop 1))

/-- A word with a capital. -/
def capitalized (word : String) : String :=
  match word.toList with
  | [] => ""
  | c :: cs => String.ofList (c.toUpper :: cs)

/-- The warnings for one entry of what the player knows of the lore. -/
def knowledgeWarning (e : Engine) (key reveal : String) : List Issue :=
  let path := s!"/loreKnowledge/{key}"
  let (category, id) := keyParts key
  (if revealStates.contains reveal then []
    else [Issue.warning path "Lore reveal state must be known, discoverable, or hidden"]) ++
  if id = "" then
    [.warning path "Lore key should include a category prefix (e.g. race:elf)"]
  else if category = "other" then []
  else if loreCategories.any (·.name == category) then
    if e.hasLore category id then []
    else [.warning path s!"{capitalized category} {id} not found in lore"]
  else [.warning path s!"Unknown lore category prefix {category}"]

/-- Warnings for what the player knows of the lore, if the engine reveals lore. -/
def knowledgeWarnings (e : Engine) (s : GameState) : List Issue :=
  if e.features.loreReveals then
    (s.loreKnowledge.getD []).flatMap fun (key, reveal) => e.knowledgeWarning key reveal
  else []

/-- What is wrong with a state in the light of the story and the lore. -/
def checkState (e : Engine) (s : GameState) : List Issue :=
  if s.storyBundleId = e.story.id then
    (if (e.scene? s.currentSceneId).isSome then []
      else [.error "/currentSceneId" s!"Scene {s.currentSceneId} not found"]) ++
    e.inventoryWarnings s ++ e.loreWarnings s.character ++ e.knowledgeWarnings s
  else
    [.error "/storyBundleId"
      s!"Save storyBundleId {s.storyBundleId} does not match {e.story.id}"]

end Engine

/-! ### Loading -/

/-- What comes of loading a save: issues, and unless one of them is an error a state.  There is a
view if the scene was entered again. -/
structure Loaded where
  issues : List Issue
  state : Option GameState
  view : Option SceneView

namespace Engine

/-- **The state in a save**, with all checks. -/
def restore (e : Engine) (saved : Saved) : Loaded :=
  match e.readSaved saved with
  | .error issues => ⟨issues, none, none⟩
  | .ok s =>
    let s := e.withDefaults s
    let issues := e.checkState s
    ⟨issues, if Issue.hasError issues then none else some s, none⟩

/-- **Loads a save**, and enters its scene again if that is wanted. -/
def load (e : Engine) (saved : Saved) (again : Bool) (shared : Shared) :
    Except Fault Loaded × Shared :=
  let loaded := e.restore saved
  match loaded.state, again with
  | some s, true =>
    match shared.carryOut s (e.enter s.currentSceneId) with
    | (.ok view, s, shared) => (.ok { loaded with state := some s, view := some view }, shared)
    | (.error f, _, shared) => (.error f, shared)
  | _, _ => (.ok loaded, shared)

end Engine

end Storyworld
