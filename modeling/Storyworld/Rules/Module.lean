/-
**Rule modules.**

A rule module answers conditions that the engine leaves to it, and says what happens at the hooks
of a story.  A module keeps settings, which the configuration in a story may change while an engine
is built; after that, modules change no more.  Modules see the state of a game and draw random
numbers, and change nothing else.

Main definitions:

* `Storyworld.RuleResult` — what a module makes of a hook;
* `Storyworld.HookContext` — what a module sees when a hook fires;
* `Storyworld.RuleModule` — a module;
* `Storyworld.Registry` — the modules of an engine, in the order of the story, with
  `Storyworld.Registry.answer` and `Storyworld.Registry.resolve`.
-/

import Storyworld.Chance.Generator
import Storyworld.Game.State
import Storyworld.Story.Load

set_option relaxedAutoImplicit false
set_option autoImplicit false

namespace Storyworld

/-! ### Results of hooks -/

/-- What a module makes of a hook: a narrative in any form, effects, an outcome and data. -/
structure RuleResult where
  narrative : Json
  effects : List Effect
  outcome : Json
  data : Json

namespace RuleResult

/-- The result of a module that has nothing to say. -/
def empty : RuleResult := ⟨.null, [], .null, .null⟩

/-- Whether a module had anything to say. -/
def isHandled (r : RuleResult) : Bool :=
  !r.effects.isEmpty || r.narrative.isFilled || r.outcome.isFilled || r.data.isFilled

/-- The effects that a document lists: the items of a list, the names of a table, or the characters
of a text, if they fit the shape of effects. -/
def readEffects (j : Json) : Except Fault (List Effect) :=
  let items? : Option (List Json) := match j with
    | .arr items => some items
    | .obj fields => some (fields.map fun f => .str f.1)
    | .str s => some (s.toList.map fun c => .str (String.singleton c))
    | j => if j.isFilled then none else some []
  match items? with
  | none => .error .wrongKind
  | some items =>
    match fit (.list Story.effectShape) (.arr items) with
    | .ok (.arr ds) => .ok (ds.map Effect.ofDocument)
    | .ok _ => .ok []
    | .error f => .error f

/-- A result from documents. -/
def make (narrative effects outcome data : Json) : Except Fault RuleResult :=
  (readEffects effects).map fun es => ⟨narrative, es, outcome, data⟩

end RuleResult

/-! ### Modules -/

/-- What a module sees when a hook fires. -/
structure HookContext where
  state : GameState
  scene : Scene
  action : Option Action
  hook : Option Hook

/-- Why a module does not take a configuration. -/
inductive Rejection where
  | unexplained
  | because (reason : String)

def Rejection.message : Rejection → String
  | unexplained => "invalid config"
  | because reason => reason

/-- What a module makes of a hook, and the generator after it. -/
abbrev Resolution := Except Fault (Option RuleResult) × Generator

/-- A rule module.  Asking it for an answer or at a hook may fail. -/
structure RuleModule where
  id : String
  system : String
  /-- the name of the kind of module -/
  kind : String
  /-- whether the module can be used where a system is asked for -/
  supports : String → Bool
  settings : Json
  /-- the settings that a configuration leads to -/
  configure : Json → Table Json → Except Rejection Json
  /-- whether a condition holds, if the module can say -/
  answer : Json → Condition → GameState → Except Fault (Option Bool)
  /-- what happens at a hook, if anything -/
  resolve : Json → HookContext → Generator → Resolution

namespace RuleModule

/-- What most modules support: their own system, and those that they stand in for. -/
def supporting (system : String) (compatible : List String) (asked : String) : Bool :=
  asked == system || compatible.contains asked

/-- The module with a configuration. -/
def configured (m : RuleModule) (config : Table Json) : Except Rejection RuleModule :=
  (m.configure m.settings config).map fun settings => { m with settings }

/-- What happens at a hook.  Without a generator the module draws from one of its own. -/
def ask (m : RuleModule) (context : HookContext) (g : Option Generator) :
    Except Fault (Option RuleResult) × Option Generator :=
  match g with
  | some g =>
    let (r, g') := m.resolve m.settings context g
    (r, some g')
  | none => ((m.resolve m.settings context (.seeded Generator.defaultSeed)).1, none)

end RuleModule

/-! ### The modules of an engine -/

/-- Modules in the order in which a story first names them. -/
abbrev Registry := List RuleModule

namespace Registry

/-- The module with an id. -/
def get? (ms : Registry) (id : String) : Option RuleModule := ms.find? (·.id == id)

/-- Adds a module at the end, or puts it in the place of the module with its id. -/
def register (ms : Registry) (m : RuleModule) : Registry :=
  if ms.any (·.id == m.id) then ms.map fun n => if n.id == m.id then m else n else ms ++ [m]

/-- The answer of the first module that can say whether a condition holds.  Where asking a module
fails, the modules behind it are not asked. -/
def answer (c : Condition) (s : GameState) : Registry → Except Fault (Option Bool)
  | [] => .ok none
  | m :: ms =>
    match m.answer m.settings c s with
    | .error f => .error f
    | .ok (some b) => .ok (some b)
    | .ok none => answer c s ms

/-- The first result of modules, asked in order, in which one had something to say. -/
def firstHandled (context : HookContext) :
    Registry → Option Generator → Except Fault (Option RuleResult) × Option Generator
  | [], g => (.ok none, g)
  | m :: ms, g =>
    match m.ask context g with
    | (.error f, g') => (.error f, g')
    | (.ok (some r), g') =>
      if r.isHandled then (.ok (some r), g') else firstHandled context ms g'
    | (.ok none, g') => firstHandled context ms g'

/-- **What happens at a hook.**  A hook that names a module is for that module alone, and nothing
happens if it is not there. -/
def resolve (ms : Registry) (context : HookContext) (g : Option Generator) :
    Except Fault (Option RuleResult) × Option Generator :=
  match context.hook.bind Hook.moduleId with
  | some id =>
    if id = "" then firstHandled context ms g
    else
      match ms.get? id with
      | some m => m.ask context g
      | none => (.ok none, g)
  | none => firstHandled context ms g

end Registry

end Storyworld
