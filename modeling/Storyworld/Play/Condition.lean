/-
**When a condition holds.**

Conditions on flags, stats, the inventory and lore are answered from the state of the game alone.
An expression that cannot be evaluated does not hold, and leaves a warning and an entry in the log.
Conditions of other types, and expressions that cannot be evaluated, are put to the rule modules if
the engine consults them.

Main definitions:

* `Storyworld.flagHolds`, `Storyworld.statHolds`, `Storyworld.inventoryHolds`,
  `Storyworld.loreHolds` — the answers that a state gives;
* `Storyworld.Engine.consult` — the answer of the modules;
* `Storyworld.Engine.holds` — **whether a condition holds**;
* `Storyworld.Engine.available` — those in a row whose conditions hold.
-/

import Storyworld.Engine.Basic
import Storyworld.Play.Turn

set_option relaxedAutoImplicit false
set_option autoImplicit false

namespace Storyworld

/-! ### Answers from the state -/

/-- An operator, where an absent or empty one stands for the usual one. -/
def operatorOr (usual : String) (operator : Option String) : String :=
  (operator.filter (· != "")).getD usual

/-- Whether a flag is as a condition wants it.  The value that is wanted is true unless given, and
an operator that is none of the known ones asks for equality. -/
def flagHolds (s : GameState) (key : String) (operator : Option String) (value : Option Bool) :
    Bool :=
  let equal := Coercion.strictEquals (s.flagValue key) (.bool (value.getD true))
  match operatorOr "equals" operator with
  | "exists" => s.flags.has key
  | "notExists" => !s.flags.has key
  | "notEquals" => !equal
  | _ => equal

/-- Whether a stat stands to a number as an operator says. -/
def statHolds (value : Number) (operator : String) (target : Number) : Bool :=
  match operator with
  | "gt" => target.lt value
  | "gte" => target.le value
  | "lt" => value.lt target
  | "lte" => value.le target
  | "eq" => value.same target
  | "neq" => !value.same target
  | _ => false

/-- Whether an item is carried as often as a condition wants it, which is once unless given. -/
def inventoryHolds (count : Int) (operator : Option String) (value : Option Number) : Bool :=
  let threshold := value.getD (.int 1)
  match operatorOr "has" operator with
  | "has" => 0 < count
  | "notHas" => count = 0
  | "countGte" => threshold.le (.int count)
  | "countLte" => (Number.int count).le threshold
  | _ => false

/-- What follows a beginning of a text. -/
def after? (beginning text : String) : Option String :=
  (beginning.toList.isPrefixOf? text.toList).map String.ofList

/-- Whether a value is as a lore condition wants it, where `present` says whether it counts as
there. -/
def compareLore (operator : Option String) (present : Bool) (found expected : Json) : Bool :=
  match operatorOr "equals" operator with
  | "has" => present
  | "notHas" => !present
  | "notEquals" => !Coercion.strictEquals found expected
  | _ => Coercion.strictEquals found expected

/-- How far a lore entry has been revealed. -/
def GameState.reveal (s : GameState) (entry : String) : Json :=
  match (s.loreKnowledge.getD []).get? entry with
  | some r => .str r
  | none => .null

/-- Whether the player knows of something: a flag or a variable says so. -/
def GameState.knows (s : GameState) (key : String) : Bool :=
  (s.flags.get? key).getD false || (s.vars.get? key).any fun v => v.bool? == some true

/-- The variable of a name, or the flag if there is no variable or it is null. -/
def GameState.varOrFlag (s : GameState) (key : String) : Json :=
  match s.vars.get? key with
  | none => s.flagValue key
  | some .null => s.flagValue key
  | some v => v

/-- Whether the lore of a game is as a condition wants it.  Keys that begin with `race:`, `faction:`
and `knows:` ask about the character and what the player knows, whatever the operator; with the
feature of reveals, keys that begin with `lore:` ask how far an entry has been revealed. -/
def loreHolds (reveals : Bool) (s : GameState) (key : String) (operator : Option String)
    (value : Json) : Bool :=
  match if reveals then after? "lore:" key else none with
  | some entry =>
    compareLore operator ((s.reveal entry).str? == some "known") (s.reveal entry) value
  | none =>
    match after? "race:" key, after? "faction:" key, after? "knows:" key with
    | some race, _, _ => s.character.raceId == some race
    | _, some faction, _ => (s.character.factionIds.getD []).contains faction
    | _, _, some topic => s.knows ("knows." ++ topic)
    | _, _, _ => compareLore operator (Coercion.truthy (s.varOrFlag key)) (s.varOrFlag key) value

/-! ### All conditions -/

/-- The answer of the modules, where no answer is a no.  Asking them may fail. -/
def Engine.consult (e : Engine) (c : Condition) (s : GameState) : Except Fault Bool :=
  if e.consultsModules then (e.modules.answer c s).map (·.getD false) else .ok false

/-- Notes that an expression could not be evaluated. -/
def noteFault (text : String) (f : Expression.Fault) : Turn Unit := do
  .warn (.warning "/runtime/conditions/expression" s!"Expression parse warning: {f.message}")
  .record .rule none none (some [("kind", .str "expression"), ("error", .str f.message),
    ("expr", .str text)])

/-- **Whether a condition holds.** -/
def Engine.holds (e : Engine) (c : Condition) : Turn Bool := do
  let s ← Turn.state
  match c with
  | .flag key operator value => return flagHolds s key operator value
  | .stat key operator value => return statHolds (s.character.stat key) operator value
  | .inventory itemId operator value =>
    return inventoryHolds (s.character.inventory.count itemId) operator value
  | .lore key operator value => return loreHolds e.features.loreReveals s key operator value
  | .custom _ _ => .ofExcept (e.consult c s)
  | .expression text =>
    match Expression.evaluate s.scope text with
    | .error _ => throw .tooLarge
    | .ok (.answer b) => return b
    | .ok (.fault f) =>
      noteFault text f
      .ofExcept (e.consult c (← Turn.state))

/-- Whether an optional condition holds; a missing one does. -/
def Engine.meets (e : Engine) : Option Condition → Turn Bool
  | none => pure true
  | some c => e.holds c

/-- Those in a row whose conditions hold, in order. -/
def Engine.available {α : Type} (e : Engine) (condition : α → Option Condition) :
    List α → Turn (List α)
  | [] => pure []
  | a :: rest => do
    let isOpen ← e.meets (condition a)
    let others ← e.available condition rest
    return if isOpen then a :: others else others

end Storyworld
