/-
**New games.**

A new game begins at the start scene of its story, with the character that the player brings.  The
hooks of the start scene have not been asked yet; that is for entering it.

Main definitions:

* `Storyworld.Character.ofSeed` — the character that a player brings;
* `Storyworld.Engine.fresh` — the state of a new game;
* `Storyworld.Engine.loreWarnings` — what the lore does not know about a character;
* `Storyworld.Engine.newGame` — **a new game**.
-/

import Storyworld.Engine.Basic
import Storyworld.Game.Document
import Storyworld.Json.Pairs
import Storyworld.Play.Turn

set_option relaxedAutoImplicit false
set_option autoImplicit false

namespace Storyworld

/-- The character that a player brings.  What is not filled gives the usual character. -/
def Character.ofSeed (seed : Json) : Except Fault Character := do
  let fields ← if seed.isFilled then seed.givenFields else .ok []
  Game.readCharacter (.obj fields)

namespace Engine

/-- **The state of a new game.** -/
def fresh (e : Engine) (c : Character) : GameState :=
  e.withDefaults {
    version := e.story.version
    schemaVersion := e.story.schemaVersion
    storyBundleId := e.story.id
    loreBundleIds := if e.lore.isEmpty then none else some (e.lore.map (·.id))
    currentSceneId := e.story.startScene
    currentLocationId := (e.scene? e.story.startScene).bind Scene.locationId
    character := c
    flags := []
    vars := []
    loreKnowledge := none
    reputation := none
    companions := none
    relationships := none
    session := none
    history := []
  }

/-- Warnings for the race and the factions of a character that the lore does not know. -/
def loreWarnings (e : Engine) (c : Character) : List Issue :=
  let race := c.raceId.getD ""
  (if race = "" ∨ e.hasLore "race" race then []
    else [Issue.warning "/character/raceId" s!"Race {race} not found in lore"]) ++
  ((c.factionIds.getD []).zipIdx.filter fun f => !e.hasLore "faction" f.1).map fun (id, i) =>
    Issue.warning s!"/character/factionIds/{i}" s!"Faction {id} not found in lore"

/-- **A new game.**  What the lore does not know about the character is only warned of. -/
def newGame (e : Engine) (c : Character) (shared : Shared) : GameState × Shared :=
  let s := e.fresh c
  (s, { shared with warnings := shared.warnings ++ e.loreWarnings s.character })

end Engine

end Storyworld
