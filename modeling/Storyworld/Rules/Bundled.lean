/-
**The rule modules that come with the engine.**

The core module says yes to every condition and handles no hook.  The sample module shows a
narrative and an effect.  The dice module makes skill checks: a roll and a stat against a
difficulty, with narratives and effects for success and failure.

Main definitions:

* `Storyworld.Rules.core`, `Storyworld.Rules.sample`, `Storyworld.Rules.dice` — the modules;
* `Storyworld.Rules.skillCheck` — what the dice module makes of a check.
-/

import Storyworld.Chance.Dice
import Storyworld.Rules.Module

set_option relaxedAutoImplicit false
set_option autoImplicit false

namespace Storyworld.Rules

/-- Takes any configuration and keeps its settings. -/
def keepSettings (settings : Json) (_ : Table Json) : Except Rejection Json := .ok settings

/-- A result that is always there and draws nothing. -/
def result (r : RuleResult) (g : Generator) : Resolution := (.ok (some r), g)

/-- The module for stories that need no rules. -/
def core : RuleModule where
  id := "rules.core"
  system := "Custom"
  kind := "RulesCoreModule"
  supports := RuleModule.supporting "Custom" []
  settings := .null
  configure := keepSettings
  answer := fun _ _ _ => .ok (some true)
  resolve := fun _ _ g => result .empty g

/-- What the sample module makes of a hook. -/
def sampleResult (hook : Option Hook) : RuleResult :=
  match hook.map Hook.type with
  | some "sampleNarrative" => { RuleResult.empty with narrative := .str "Sample rule narrative." }
  | some "sampleEffect" => { RuleResult.empty with effects := [.setFlag "sample.effect" true] }
  | _ => .empty

/-- The module that shows what a module can do. -/
def sample : RuleModule where
  id := "rules.sample"
  system := "Custom"
  kind := "SampleRuleModule"
  supports := RuleModule.supporting "Custom" []
  settings := .null
  configure := keepSettings
  answer := fun _ _ _ => .ok (some true)
  resolve := fun _ context g => result (sampleResult context.hook) g

/-! ### Dice -/

/-- The dice of a check that names none. -/
def defaultDice : String := "1d20"

/-- The difficulty of a check that names none. -/
def defaultDifficulty : Json := .int 10

/-- Rolls dice whose notation is a document: only a text can be a notation, but a scripted generator
does not look at it. -/
def rollDocument (dice : Json) (g : Generator) : Except Fault Int × Generator :=
  match dice, g with
  | .str s, g => g.roll s
  | _, .scripted draws rolls => (Generator.scripted draws rolls).roll ""
  | _, .linear state => (.error .wrongKind, .linear state)

/-- What a stat adds to a roll.  A stat may be named by a text; what names nothing adds zero. -/
def modifier (character : Character) (stat : Json) : Except Fault Number :=
  match stat with
  | .str key => .ok (if key = "" then .int 0 else character.stat key)
  | .arr (_ :: _) => .error .wrongKind
  | .obj (_ :: _) => .error .wrongKind
  | _ => .ok (.int 0)

/-- The result of a check that rolled so much. -/
def judge (payload : Table Json) (character : Character) (roll : Int) : Except Fault RuleResult := do
  let difficulty := (Table.get? payload "dc").getD defaultDifficulty
  let added ← modifier character ((Table.get? payload "stat").getD .null)
  let total ← (Number.add? (.int roll) added).elim (.error .tooLarge) .ok
  let limit ← difficulty.count?.elim (.error .wrongKind) .ok
  let outcome := if limit.le total then "success" else "failure"
  RuleResult.make ((Table.get? payload (outcome ++ "Text")).getD .null)
    ((Table.get? payload (outcome ++ "Effects")).getD .null) (.str outcome)
    (.obj [("roll", .int roll), ("modifier", .ofNumber added), ("total", .ofNumber total),
      ("dc", difficulty)])

/-- **What the dice module makes of a check.** -/
def skillCheck (usual : Json) (payload : Table Json) (character : Character) (g : Generator) :
    Resolution :=
  let named := (Table.get? payload "dice").getD .null
  match rollDocument (if named.isFilled then named else usual) g with
  | (.error f, g') => (.error f, g')
  | (.ok roll, g') => ((judge payload character roll).map some, g')

/-- The module for skill checks, with the dice of checks that name none. -/
def dice (usual : Json) : RuleModule where
  id := "rules.dice"
  system := "Custom"
  kind := "DiceRuleModule"
  supports := RuleModule.supporting "Custom" ["d20"]
  settings := usual
  configure := fun settings config =>
    match (Table.get? config "defaultDice").getD settings with
    | .str s => .ok (.str s)
    | _ => .error (.because "defaultDice must be a dice notation string")
  answer := fun _ _ _ => .ok none
  resolve := fun settings context g =>
    match context.hook with
    | some hook =>
      if hook.type = "skillCheck" then
        skillCheck settings (hook.payload.getD []) context.state.character g
      else result .empty g
    | none => result .empty g

end Storyworld.Rules
