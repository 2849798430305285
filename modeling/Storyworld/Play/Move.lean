/-
**Moves: entering a scene, leaving it, and acting in it.**

A player leaves a scene through an exit, or takes an action in it.  The rule hooks of the scene and
of the action may apply effects, and a teleport among those leads elsewhere: of several teleports
the last one counts.  A scene that is entered may teleport on at once.  Such a chain of teleports
ends when a scene has none, and is a fault when it is longer than the engine allows.

Main definitions:

* `Storyworld.Engine.fire` — what a rule hook does;
* `Storyworld.Engine.enter` — **entering a scene**, and those to which it teleports;
* `Storyworld.ExitRef`, `Storyworld.Engine.leave` — **leaving through an exit**;
* `Storyworld.Engine.act` — **taking an action**.
-/

import Storyworld.Play.Effect
import Storyworld.Play.View

set_option relaxedAutoImplicit false
set_option autoImplicit false

namespace Storyworld

/-! ### Hooks -/

/-- Where the player is to go after some effects: where they teleport to, or else where it was
before.  A name that is empty leads nowhere. -/
def laterTarget (before after : Option String) : Option String :=
  match after with
  | some t => if t = "" then before else some t
  | none => before

namespace Engine

/-- Asks the modules what happens at a hook. -/
def ask (e : Engine) (scene : Scene) (action : Option Action) (hook : Hook) :
    Turn (Option RuleResult) := do
  let p ← get
  let (answer, rng) := e.modules.resolve ⟨p.state, scene, action, some hook⟩ (some p.rng)
  set { p with rng := rng.getD p.rng }
  Turn.ofExcept answer

/-- The text that a result tells, if any. -/
def overlay (e : Engine) (r : RuleResult) : Turn (List String) := do
  if r.narrative.isFilled then return [← e.tellDocument r.narrative] else return []

/-- What a hook does: its effects are applied, and then its narrative is told.  The result says
where the effects teleport to, and what was told. -/
def fire (e : Engine) (scene : Scene) (action : Option Action) (hook : Hook) :
    Turn (Option String × List String) := do
  match ← e.ask scene action hook with
  | none => return (none, [])
  | some r =>
    let target ← e.applyAll r.effects
    return (target, ← e.overlay r)

/-- What hooks do, one after the other. -/
def fireAll (e : Engine) (scene : Scene) (action : Option Action) :
    List Hook → Option String → List String → Turn (Option String × List String)
  | [], target, told => pure (target, told)
  | hook :: rest, target, told => do
    let (next, more) ← e.fire scene action hook
    e.fireAll scene action rest (laterTarget target next) (told ++ more)

/-- What hooks do whose narrative is not told. -/
def fireSilently (e : Engine) (scene : Scene) : List Hook → Option String → Turn (Option String)
  | [], target => pure target
  | hook :: rest, target => do
    match ← e.ask scene none hook with
    | none => e.fireSilently scene rest target
    | some r =>
      let next ← e.applyAll r.effects
      e.fireSilently scene rest (laterTarget target next)

/-! ### Entering -/

/-- Puts the player into a scene. -/
def arrive (scene : Scene) : Turn Unit := do
  Turn.change fun s => { s.moveTo scene.locationId with currentSceneId := scene.id }
  Turn.record .sceneEnter (some scene.id) none none

/-- Notes that the player leaves a scene. -/
def depart (scene : Scene) : Turn Unit := Turn.record .sceneExit (some scene.id) none none

/-- Enters a scene, with so many teleports still allowed, at the end of a chain of scenes. -/
def enterWithin (e : Engine) : Nat → List String → String → Turn SceneView
  | hops, chain, id => do
    let scene ← e.requireScene id
    arrive scene
    let (target, overlays) ← e.fireAll scene none scene.entryRules none []
    match target with
    | none => e.view scene overlays []
    | some next =>
      depart scene
      match hops with
      | 0 => throw (.teleportLoop (chain ++ [next]) e.maxHops)
      | hops + 1 => e.enterWithin hops (chain ++ [next]) next

/-- **Enters a scene**, and follows its teleports.  Only the last scene is shown. -/
def enter (e : Engine) (id : String) : Turn SceneView := e.enterWithin e.maxHops.toNat [id] id

end Engine

/-! ### Leaving -/

/-- How an exit of a scene is named: by its index, its label, or itself; anything else names no
exit. -/
inductive ExitRef where
  | index (i : Int)
  | label (s : String)
  | itself (exit : Exit)
  | other (j : Json)

/-- An exit as messages show it. -/
def Exit.shown (e : Exit) : String := Schema.shown Story.exitShape e.document

/-- How messages show what names an exit. -/
def ExitRef.shown : ExitRef → String
  | index i => (Json.int i).display
  | label s => Text.quoted s
  | itself exit => exit.shown
  | other j => j.display

/-- The exit of a scene that a reference names. -/
def Scene.exit? (scene : Scene) : ExitRef → Option Exit
  | .index i => if i < 0 then none else scene.exits[i.toNat]?
  | .label s => scene.exits.find? (·.label == s)
  | .itself exit => if scene.exits.any fun x => x.document.same exit.document then some exit else none
  | .other _ => none

namespace Engine

/-- The exit of a scene that a reference names, which must be there. -/
def requireExit (scene : Scene) (ref : ExitRef) : Turn Exit :=
  match scene.exit? ref with
  | some exit => pure exit
  | none => throw (.exitNotFound scene.id ref.shown)

/-- **Leaves the current scene through an exit.**  A teleport among the exit rules of the scene wins
over the target of the exit. -/
def leave (e : Engine) (ref : ExitRef) : Turn SceneView := do
  let scene ← e.requireScene (← Turn.state).currentSceneId
  let exit ← requireExit scene ref
  if ← e.meets exit.condition then
    Turn.record .action (some scene.id) none
      (some [("kind", .str "exit"), ("label", .str exit.label)])
    let target ← e.fireSilently scene scene.exitRules none
    depart scene
    e.enter (target.getD exit.targetScene)
  else throw (.exitClosed exit.label)

/-! ### Acting -/

/-- The action of a scene with an id, which must be there. -/
def requireAction (scene : Scene) (id : String) : Turn Action :=
  match scene.action? id with
  | some action => pure action
  | none => throw (.actionNotFound scene.id id)

/-- **Takes an action in the current scene**: its effects are applied, then its hooks fire. -/
def act (e : Engine) (id : String) : Turn SceneView := do
  let scene ← e.requireScene (← Turn.state).currentSceneId
  let action ← requireAction scene id
  if ← e.meets action.condition then
    Turn.record .action (some scene.id) (some id) none
    let own ← e.applyAll action.effects
    let (target, recent) ← e.fireAll scene (some action) action.hooks (laterTarget none own) []
    match target with
    | some next =>
      depart scene
      e.enter next
    | none => e.view scene [] recent
  else throw (.actionClosed id)

end Engine

end Storyworld
