/-
**What effects do.**

Effects are applied in order, and each leaves an entry in the log.  A teleport does not move the
player; it says where the player is to go, and the last teleport among some effects counts.

Main definitions:

* `Storyworld.Change.apply` — a number changed and held between its bounds;
* `Storyworld.Effect.outcome` — a state after one effect, and the warning that the effect gives;
* `Storyworld.Engine.applyAll` — **applying effects**;
* `Storyworld.lastTarget?` — where the last teleport leads.
-/

import Storyworld.Engine.Basic
import Storyworld.Play.Turn

set_option relaxedAutoImplicit false
set_option autoImplicit false

namespace Storyworld

/-! ### Parts of a state -/

/-- A number changed and held between its bounds.  The sum may be out of reach. -/
def Change.apply (c : Change) (n : Number) : Except Fault Number :=
  match n.add? c.delta with
  | some sum => .ok (sum.clamp c.low c.high)
  | none => .error .tooLarge

/-- A relationship after a change of its value. -/
def Relationship.changed (r : Relationship) (c : Change) : Except Fault Relationship :=
  (c.apply r.value).map fun value => { r with value }

namespace GameState

def setFlag (s : GameState) (key : String) (value : Bool) : GameState :=
  { s with flags := s.flags.put key value }

def setVar (s : GameState) (key : String) (value : Json) : GameState :=
  { s with vars := s.vars.put key value }

def setStat (s : GameState) (key : String) (value : Number) : GameState :=
  { s with character := { s.character with stats := s.character.stats.put key value } }

def setInventory (s : GameState) (inventory : Inventory) : GameState :=
  { s with character := { s.character with inventory } }

def setReputation (s : GameState) (faction : String) (value : Number) : GameState :=
  { s with reputation := some ((s.reputation.getD []).put faction value) }

def setRelationship (s : GameState) (target : String) (r : Relationship) : GameState :=
  { s with relationships := some ((s.relationships.getD []).put target r) }

def setParty (s : GameState) (party : Party) : GameState := { s with companions := some party }

/-- Moves to a location, unless it has no name. -/
def moveTo (s : GameState) (location : Option String) : GameState :=
  match location.filter (· != "") with
  | some l => { s with currentLocationId := some l }
  | none => s

end GameState

/-! ### One effect -/

/-- The companion who joins under an id.  One whom the world does not define has no more than a
name. -/
def Engine.recruit (e : Engine) (id : String) : Companionship × Option Issue :=
  match e.story.world.companion? id with
  | some c => (c.joined, none)
  | none =>
    (⟨id, id, none, none, none⟩,
      some (.warning "/runtime/effects/addCompanion"
        s!"Companion {id} has no definition in the world"))

/-- A state after someone joins the party.  Who is in the party does not join again. -/
def Engine.join (e : Engine) (id : String) (s : GameState) : GameState × Option Issue :=
  if (s.party.find? id).isSome then (s, none)
  else (s.setParty (s.party ++ [(e.recruit id).1]), (e.recruit id).2)

/-- A state after a change to a companion, which must be in the party for that. -/
def changeCompanion (kind id : String) (s : GameState)
    (f : Companionship → Except Fault Companionship) : Except Fault (GameState × Option Issue) :=
  match s.party.find? id with
  | none =>
    .ok (s, some (.warning s!"/runtime/effects/{kind}" s!"Companion {id} is not in the party"))
  | some c => (f c).map fun c' => (s.setParty (s.party.update id fun _ => c'), none)

/-- **A state after one effect**, and the warning that the effect gives. -/
def Effect.outcome (e : Engine) (s : GameState) : Effect → Except Fault (GameState × Option Issue)
  | setFlag key value => .ok (s.setFlag key value, none)
  | modifyStat key change =>
    (change.apply (s.character.stat key)).map fun n => (s.setStat key n, none)
  | addItem item count =>
    .ok (s.setInventory (s.character.inventory.add item (count.getD 1)), none)
  | removeItem itemId count =>
    .ok (s.setInventory (s.character.inventory.remove itemId (count.getD 1)), none)
  | setVar key value => .ok (s.setVar key value, none)
  | modifyVar key delta =>
    match Coercion.combine? ((s.vars.get? key).getD .null) delta with
    | some v => .ok (s.setVar key v, none)
    | none => .error .tooLarge
  | teleport _ location => .ok (s.moveTo location, none)
  | setReputation faction value => .ok (s.setReputation faction value, none)
  | setRelationship target value stage flags =>
    .ok (s.setRelationship target ⟨value, stage, nonEmpty? flags⟩, none)
  | modifyRelationship target change =>
    ((((s.relationships.getD []).get? target).getD .neutral).changed change).map fun r =>
      (s.setRelationship target r, none)
  | addCompanion id => .ok (e.join id s)
  | removeCompanion id =>
    .ok ({ s with companions := s.companions.map (·.without id) }, none)
  | setCompanionFlag id key value =>
    changeCompanion "setCompanionFlag" id s fun c =>
      .ok { c with flags := some ((c.flags.getD []).put key value) }
  | modifyCompanionRelationship id change =>
    changeCompanion "modifyCompanionRelationship" id s fun c =>
      ((c.relationship.getD .neutral).changed change).map fun r => { c with relationship := some r }

/-! ### Effects in order -/

/-- Where an effect leads, if it is a teleport. -/
def Effect.target? : Effect → Option String
  | teleport scene _ => some scene
  | _ => none

/-- Where the last teleport among some effects leads. -/
def lastTarget? (effects : List Effect) : Option String := (effects.filterMap Effect.target?).getLast?

/-- Applies one effect and notes it in the log. -/
def Engine.applyOne (e : Engine) (effect : Effect) : Turn Unit := do
  let (s, warning) ← Turn.ofExcept (effect.outcome e (← Turn.state))
  Turn.change fun _ => s
  warning.forM Turn.warn
  Turn.record .effect none none (some [("effect", .str effect.kind)])

/-- **Applies effects in order**, and says where the last teleport among them leads. -/
def Engine.applyAll (e : Engine) (effects : List Effect) : Turn (Option String) := do
  effects.forM e.applyOne
  return lastTarget? effects

end Storyworld
