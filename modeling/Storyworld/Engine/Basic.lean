/-
**Engines.**

An engine is what every game on one story shares and no game changes: the story and its lore, the
rule modules, and the settings of the host.  Optional features add sections to the states of games.

Main definitions:

* `Storyworld.Features` — the optional features;
* `Storyworld.Engine` — an engine;
* `Storyworld.Engine.scene?`, `Storyworld.Engine.loreEntry?` — what an id leads to;
* `Storyworld.Companion.joined` — a companion as it joins the party;
* `Storyworld.Engine.withDefaults` — a state with the sections of the enabled features.
-/

import Storyworld.Rules.Module

set_option relaxedAutoImplicit false
set_option autoImplicit false

namespace Storyworld

/-- The optional features of an engine. -/
structure Features where
  loreReveals : Bool
  companions : Bool
  relationships : Bool
  sessions : Bool
deriving DecidableEq

/-- What the games on one story share. -/
structure Engine where
  story : StoryBundle
  lore : List LoreBundle
  modules : Registry
  locale : Option String
  /-- whether the modules answer conditions that the engine cannot answer -/
  consultsModules : Bool
  features : Features
  /-- how many teleports may follow each other -/
  maxHops : Int

namespace Engine

/-! ### What an id leads to -/

def scene? (e : Engine) (id : String) : Option Scene := e.story.scenes.find? (·.id == id)

def location? (e : Engine) (id : String) : Option Location :=
  e.story.world.locations.find? (·.id == id)

def asset? (e : Engine) (id : String) : Option Asset := e.story.assets.find? (·.id == id)

/-- The lore entries of a category. -/
def loreOf (e : Engine) (category : String) : List LoreEntry :=
  (e.lore.flatMap (·.entries)).filter (·.category == category)

/-- The lore entry of a category with an id.  The last one counts. -/
def loreEntry? (e : Engine) (category id : String) : Option LoreEntry :=
  (e.loreOf category).reverse.find? (·.id == id)

/-- Whether a category of lore has an entry with an id. -/
def hasLore (e : Engine) (category id : String) : Bool := (e.loreEntry? category id).isSome

end Engine

/-! ### Engines in messages -/

/-- A module in messages. -/
def RuleModule.shown (m : RuleModule) : String :=
  s!"{m.kind}(id={Text.quoted m.id}, system={Text.quoted m.system})"

/-- An engine in messages. -/
def Engine.shown (e : Engine) : String :=
  let ids := Json.arr (e.modules.map fun m => .str m.id)
  s!"RuntimeContext(story={Text.quoted e.story.id}, modules={ids.display})"

/-! ### Sections of states -/

/-- An optional table; an empty one counts as none. -/
def nonEmpty? (flags : Option (Table Bool)) : Option (Table Bool) := flags.filter fun t => !t.isEmpty

/-- The relationship that a seed gives. -/
def RelationshipSeed.grown (r : RelationshipSeed) : Relationship :=
  ⟨r.value, r.stage, nonEmpty? r.flags⟩

/-- A companion as it joins the party. -/
def Companion.joined (c : Companion) : Companionship :=
  ⟨c.id, c.name, c.role, c.relationship.map RelationshipSeed.grown, none⟩

/-- The id of a session that was not named. -/
def defaultSessionId : String := "session.local"

/-- A session that nobody has joined. -/
def SessionState.unopened : SessionState := ⟨defaultSessionId, [], none, none⟩

/-- An optional section: what is there stays, and an enabled feature begins with a value. -/
def section? {α : Type} (enabled : Bool) (beginning : α) (current : Option α) : Option α :=
  match current with
  | some a => some a
  | none => if enabled then some beginning else none

/-- **A state with the sections of the enabled features.** -/
def Engine.withDefaults (e : Engine) (s : GameState) : GameState :=
  { s with
    loreKnowledge := section? e.features.loreReveals [] s.loreKnowledge
    relationships := section? e.features.relationships [] s.relationships
    companions := section? e.features.companions (e.story.world.companions.map Companion.joined)
      s.companions
    session := section? e.features.sessions .unopened s.session }

end Storyworld
