/-
**Rule modules given as tables.**

A scripted module answers conditions by their type and hooks by theirs, from tables.  It serves
hosts that know beforehand what their rules will say.  At the hook `echo` it gives back what the
hook carries.

Main definitions:

* `Storyworld.Rules.Script` — the tables of a scripted module;
* `Storyworld.Rules.Script.toModule` — the module.
-/

import Storyworld.Rules.Module

set_option relaxedAutoImplicit false
set_option autoImplicit false

namespace Storyworld.Rules

/-- The tables of a scripted module. -/
structure Script where
  id : String
  system : String
  compatible : List String
  /-- by type of condition: any document, which counts as yes if it is filled; null is no answer -/
  answers : Table Json
  /-- by type of hook: the parts of a result, or null for none -/
  hooks : Table Json
  /-- why every configuration is rejected: `return` for no reason, null to accept -/
  reject : Json

namespace Script

/-- The parts that a result may have. -/
def parts : List String := ["narrative", "effects", "outcome", "data"]

/-- The result with the given parts; there must be no others. -/
def resultOf (fields : Table Json) : Except Fault RuleResult :=
  if fields.all fun f => parts.contains f.1 then
    let part (k : String) : Json := (Table.get? fields k).getD .null
    RuleResult.make (part "narrative") (part "effects") (part "outcome") (part "data")
  else .error .wrongKind

/-- What a script makes of a hook. -/
def respond (s : Script) (hook : Option Hook) : Except Fault (Option RuleResult) :=
  match hook with
  | none => .ok (some { RuleResult.empty with narrative := .str "no hook" })
  | some hook =>
    match Table.get? s.hooks hook.type with
    | some .null => .ok none
    | some j => (resultOf (j.obj?.getD [])).map some
    | none =>
      if hook.type = "echo" then
        let part (k : String) : Json := (Table.get? (hook.payload.getD []) k).getD .null
        (RuleResult.make (part "text") (part "effects") (part "outcome") (part "data")).map some
      else .ok (some .empty)

/-- Whether a script takes a configuration. -/
def accept (s : Script) (config : Table Json) : Except Rejection Json :=
  if s.reject.str? = some "return" ∨ ((Table.get? config "reject").getD .null).isFilled then
    .error .unexplained
  else
    match s.reject with
    | .null => .ok .null
    | reason => .error (.because reason.plain)

/-- The module of a script. -/
def toModule (s : Script) : RuleModule where
  id := s.id
  system := s.system
  kind := "ScriptedModule"
  supports := RuleModule.supporting s.system s.compatible
  settings := .null
  configure := fun _ config => s.accept config
  answer := fun _ c _ =>
    match Table.get? s.answers c.type with
    | none => .ok none
    | some .null => .ok none
    | some j => .ok (some j.isFilled)
  resolve := fun _ context g => (s.respond context.hook, g)

end Script

end Storyworld.Rules
