/-
**Building an engine.**

An engine is built from a story, its lore and the modules that a host offers.  It is built only if
the story has no errors and every module that the story refers to is offered, stands in for the
right system, and takes the configuration that the story gives it.

Main definitions:

* `Storyworld.Setup` — what an engine is built from;
* `Storyworld.moduleFor` — the module for a reference, or what is wrong with it;
* `Storyworld.enrolAll` — the modules for all references;
* `Storyworld.Engine.build` — **building an engine**.
-/

import Storyworld.Engine.Basic
import Storyworld.Story.Check

set_option relaxedAutoImplicit false
set_option autoImplicit false

namespace Storyworld

/-- What an engine is built from. -/
structure Setup where
  story : StoryBundle
  lore : List LoreBundle
  /-- the modules on offer; of two with one id the last one counts -/
  modules : List RuleModule
  locale : Option String
  consultsModules : Bool
  features : Features
  maxHops : Int

/-! ### Modules -/

/-- The module for the reference at an index, or what is wrong with the reference. -/
def moduleFor (offered : Registry) (index : Nat) (ref : ModuleRef) : Except Issue RuleModule :=
  match offered.get? ref.id with
  | none =>
    .error (Issue.error s!"/ruleModules/{index}" s!"Missing rule module implementation for {ref.id}")
  | some m =>
    if m.supports ref.system then
      match ref.config with
      | none => .ok m
      | some config => (m.configured config).mapError fun r =>
        Issue.error s!"/ruleModules/{index}/config"
          s!"Rule module {ref.id} rejected config: {r.message}"
    else
      .error (Issue.error s!"/ruleModules/{index}/system"
        (s!"Rule module {ref.id} system mismatch (expected {ref.system}, got {m.system})"))

/-- How far the references of a story have been followed: the modules on offer, in the settings that
they have by now, those that are in use, and what was found wrong. -/
structure Enrolment where
  offered : Registry
  enrolled : Registry
  issues : List Issue

/-- Follows one reference. -/
def Enrolment.follow (e : Enrolment) (ref : ModuleRef × Nat) : Enrolment :=
  match moduleFor e.offered ref.2 ref.1 with
  | .ok m => { e with offered := e.offered.register m, enrolled := e.enrolled.register m }
  | .error i => { e with issues := e.issues ++ [i] }

/-- Follows the references of a story. -/
def enrolAll (offered : List RuleModule) (refs : List ModuleRef) : Enrolment :=
  refs.zipIdx.foldl Enrolment.follow ⟨offered.foldl Registry.register [], [], []⟩

/-! ### Engines -/

/-- What comes of building an engine: issues, and an engine unless one of them is an error. -/
structure Built where
  issues : List Issue
  engine : Option Engine

/-- **Builds an engine.** -/
def Engine.build (s : Setup) : Built :=
  let enrolment := enrolAll s.modules s.story.ruleModules
  let issues := s.story.check s.lore ++ enrolment.issues
  if Issue.hasError issues then ⟨issues, none⟩
  else
    ⟨issues, some ⟨s.story, s.lore, enrolment.enrolled, s.locale, s.consultsModules, s.features,
      s.maxHops⟩⟩

/-- The engine that was built, or the fault. -/
def Built.get (b : Built) : Except Fault Engine :=
  match b.engine with
  | some e => .ok e
  | none => .error (.badEngine b.issues)

end Storyworld
