/-
**What a move can come to.**

Entering a scene, leaving one and acting in one each come to one of a few endings.  Here the endings
are written down once, each with the turns that led there, so that what is claimed of a move is
claimed of its endings and no proof takes a move apart again.

Main definitions:

* `Storyworld.Play.depart` — a play in which the player has left a scene;
* `Storyworld.Engine.visit` — what happens in a scene before its teleports are followed;
* `Storyworld.Engine.Entering`, `Storyworld.Engine.Leaving`, `Storyworld.Engine.Acting` — **the
  endings of the moves**.

Main results:

* `Storyworld.Engine.entering_of_on`, `Storyworld.Engine.leaving_of_on`,
  `Storyworld.Engine.acting_of_on` — every move comes to one of its endings.
-/

import Storyworld.Play.Move
import Storyworld.Proofs.Effects

set_option relaxedAutoImplicit false
set_option autoImplicit false

namespace Storyworld

/-- A play in which the player has left a scene. -/
def Play.depart (p : Play) (scene : Scene) : Play := p.record .sceneExit (some scene.id) none none

/-- A play in which the player has chosen an exit of a scene. -/
def Play.chooseExit (p : Play) (scene : Scene) (exit : Exit) : Play :=
  p.record .action (some scene.id) none (some [("kind", .str "exit"), ("label", .str exit.label)])

/-- A play in which the player has chosen an action of a scene. -/
def Play.chooseAction (p : Play) (scene : Scene) (id : String) : Play :=
  p.record .action (some scene.id) (some id) none

/-- A play in which the player has been put into a scene. -/
def Play.arrive (p : Play) (scene : Scene) : Play :=
  { p with state := { p.state.moveTo scene.locationId with currentSceneId := scene.id } }.record
    .sceneEnter (some scene.id) none none

/-- Being put into a scene adds one entry to the log. -/
theorem Play.arrive_history (p : Play) (scene : Scene) : (p.arrive scene).state.history =
    p.state.history ++ [⟨defaultTimestamp, p.state.history.length, .sceneEnter, some scene.id, none,
      none⟩] := by
  simp only [arrive, record, GameState.record,
    (p.state.sameCourse_moveTo scene.locationId).history]

namespace Engine

variable {e : Engine} {p : Play}

@[simp] theorem on_arrive (scene : Scene) (p : Play) :
    (arrive scene).on p = (.ok (), p.arrive scene) := rfl

@[simp] theorem on_depart (scene : Scene) (p : Play) :
    (depart scene).on p = (.ok (), p.depart scene) := rfl

theorem on_chooseExit (scene : Scene) (exit : Exit) (p : Play) :
    (Turn.record .action (some scene.id) none
      (some [("kind", .str "exit"), ("label", .str exit.label)])).on p =
        (.ok (), p.chooseExit scene exit) := rfl

theorem on_chooseAction (scene : Scene) (id : String) (p : Play) :
    (Turn.record .action (some scene.id) (some id) none).on p =
      (.ok (), p.chooseAction scene id) := rfl

/-- The scene to which an id leads has that id. -/
theorem id_of_scene? {id : String} {scene : Scene} (hs : e.scene? id = some scene) :
    scene.id = id := by
  simpa using List.find?_some hs

theorem on_requireScene_some {id : String} {scene : Scene} (hs : e.scene? id = some scene)
    (p : Play) : (e.requireScene id).on p = (.ok scene, p) := by
  simp only [requireScene, hs, Turn.on_pure]

theorem on_requireScene_none {id : String} (hs : e.scene? id = none) (p : Play) :
    (e.requireScene id).on p = (.error (.sceneNotFound id), p) := by
  simp only [requireScene, hs, Turn.on_throw]

/-! ### Entering -/

/-- What happens in a scene before its teleports are followed: the player is put there, and its
entry rules fire. -/
def visit (e : Engine) (scene : Scene) : Turn (Option String × List String) := do
  arrive scene
  e.fireAll scene none scene.entryRules none []

theorem on_visit (e : Engine) (scene : Scene) (p : Play) :
    (e.visit scene).on p = (e.fireAll scene none scene.entryRules none []).on (p.arrive scene) :=
  Turn.on_bind_ok (on_arrive scene p)

/-- **What entering a scene can come to**, with so many teleports still allowed at the end of a
chain. -/
inductive Entering (e : Engine) : Nat → List String → String → Play → Except Fault SceneView →
    Play → Prop
  /-- there is no such scene -/
  | missing {hops : Nat} {chain : List String} {id : String} {p : Play} (hs : e.scene? id = none) :
      Entering e hops chain id p (.error (.sceneNotFound id)) p
  /-- the entry rules end in a fault -/
  | broken {hops : Nat} {chain : List String} {id : String} {p q : Play} {scene : Scene} {f : Fault}
      (hs : e.scene? id = some scene) (hv : (e.visit scene).on p = (.error f, q)) :
      Entering e hops chain id p (.error f) q
  /-- the player stays and sees the scene -/
  | stayed {hops : Nat} {chain : List String} {id : String} {p q q' : Play} {scene : Scene}
      {overlays : List String} {r : Except Fault SceneView} (hs : e.scene? id = some scene)
      (hv : (e.visit scene).on p = (.ok (none, overlays), q))
      (hr : (e.view scene overlays []).on q = (r, q')) : Entering e hops chain id p r q'
  /-- the scene teleports on, which is not allowed any more -/
  | looped {chain : List String} {id next : String} {p q : Play} {scene : Scene}
      {overlays : List String} (hs : e.scene? id = some scene)
      (hv : (e.visit scene).on p = (.ok (some next, overlays), q)) :
      Entering e 0 chain id p (.error (.teleportLoop (chain ++ [next]) e.maxHops)) (q.depart scene)
  /-- the scene teleports on, and the next one is entered -/
  | wentOn {hops : Nat} {chain : List String} {id next : String} {p q q' : Play} {scene : Scene}
      {overlays : List String} {r : Except Fault SceneView} (hs : e.scene? id = some scene)
      (hv : (e.visit scene).on p = (.ok (some next, overlays), q))
      (hr : Entering e hops (chain ++ [next]) next (q.depart scene) r q') :
      Entering e (hops + 1) chain id p r q'

/-- Entering a scene is a visit and what follows it. -/
theorem enterWithin_eq (e : Engine) (hops : Nat) (chain : List String) (id : String) :
    e.enterWithin hops chain id = (do
      let scene ← e.requireScene id
      let out ← e.visit scene
      match out.1 with
      | none => e.view scene out.2 []
      | some next =>
        depart scene
        match hops with
        | 0 => throw (.teleportLoop (chain ++ [next]) e.maxHops)
        | n + 1 => e.enterWithin n (chain ++ [next]) next) := by
  rw [enterWithin]
  refine bind_congr fun scene => ?_
  exact (bind_assoc (arrive scene) (fun _ => e.fireAll scene none scene.entryRules none []) _).symm

theorem entering (e : Engine) (hops : Nat) (chain : List String) (id : String)
    (p : Play) : e.Entering hops chain id p ((e.enterWithin hops chain id).on p).1
      ((e.enterWithin hops chain id).on p).2 := by
  rw [enterWithin_eq]
  cases hs : e.scene? id with
  | none =>
      rw [Turn.on_bind_error (on_requireScene_none hs p)]
      exact .missing hs
  | some scene =>
      rw [Turn.on_bind_ok (on_requireScene_some hs p)]
      rcases hv : (e.visit scene).on p with ⟨f | ⟨next, overlays⟩, q⟩
      · rw [Turn.on_bind_error hv]
        exact .broken hs hv
      · rw [Turn.on_bind_ok hv]
        cases next with
        | none => exact .stayed hs hv rfl
        | some next =>
            dsimp only
            rw [Turn.on_bind_ok (on_depart scene q)]
            -- only here does it matter whether another hop is allowed
            cases hops with
            | zero => exact .looped hs hv
            | succ n => exact .wentOn hs hv (entering e n _ _ _)

/-- **Entering comes to one of its endings.** -/
theorem entering_of_on {hops : Nat} {chain : List String} {id : String} {q : Play}
    {r : Except Fault SceneView} (h : (e.enterWithin hops chain id).on p = (r, q)) :
    e.Entering hops chain id p r q := by
  have hend := e.entering hops chain id p
  rwa [h] at hend

/-! ### Leaving -/

/-- **What leaving through an exit can come to.** -/
inductive Leaving (e : Engine) (ref : ExitRef) (p : Play) : Except Fault SceneView → Play → Prop
  /-- the player is nowhere -/
  | lost (hs : e.scene? p.state.currentSceneId = none) :
      Leaving e ref p (.error (.sceneNotFound p.state.currentSceneId)) p
  /-- there is no such exit -/
  | noExit {scene : Scene} (hs : e.scene? p.state.currentSceneId = some scene)
      (hx : scene.exit? ref = none) : Leaving e ref p (.error (.exitNotFound scene.id ref.shown)) p
  /-- the condition of the exit ends in a fault -/
  | undecided {scene : Scene} {exit : Exit} {f : Fault} {q : Play}
      (hs : e.scene? p.state.currentSceneId = some scene) (hx : scene.exit? ref = some exit)
      (hc : (e.meets exit.condition).on p = (.error f, q)) : Leaving e ref p (.error f) q
  /-- the condition of the exit does not hold -/
  | closed {scene : Scene} {exit : Exit} {q : Play}
      (hs : e.scene? p.state.currentSceneId = some scene) (hx : scene.exit? ref = some exit)
      (hc : (e.meets exit.condition).on p = (.ok false, q)) :
      Leaving e ref p (.error (.exitClosed exit.label)) q
  /-- the exit rules end in a fault -/
  | broken {scene : Scene} {exit : Exit} {f : Fault} {q q₁ : Play}
      (hs : e.scene? p.state.currentSceneId = some scene) (hx : scene.exit? ref = some exit)
      (hc : (e.meets exit.condition).on p = (.ok true, q))
      (hr : (e.fireSilently scene scene.exitRules none).on (q.chooseExit scene exit) =
        (.error f, q₁)) : Leaving e ref p (.error f) q₁
  /-- the player leaves and enters another scene -/
  | left {scene : Scene} {exit : Exit} {target : Option String} {q q₁ q₂ : Play}
      {r : Except Fault SceneView}
      (hs : e.scene? p.state.currentSceneId = some scene) (hx : scene.exit? ref = some exit)
      (hc : (e.meets exit.condition).on p = (.ok true, q))
      (hr : (e.fireSilently scene scene.exitRules none).on (q.chooseExit scene exit) =
        (.ok target, q₁))
      (he : (e.enter (target.getD exit.targetScene)).on (q₁.depart scene) = (r, q₂)) :
      Leaving e ref p r q₂

theorem leaving (e : Engine) (ref : ExitRef) (p : Play) :
    e.Leaving ref p ((e.leave ref).on p).1 ((e.leave ref).on p).2 := by
  rw [leave, Turn.on_bind_ok (Turn.on_state p)]
  cases hs : e.scene? p.state.currentSceneId with
  | none =>
      rw [Turn.on_bind_error (on_requireScene_none hs p)]
      exact .lost hs
  | some scene =>
      rw [Turn.on_bind_ok (on_requireScene_some hs p)]
      cases hx : scene.exit? ref with
      | none =>
          have hreq : (requireExit scene ref).on p =
              (.error (.exitNotFound scene.id ref.shown), p) := by
            simp only [requireExit, hx, Turn.on_throw]
          rw [Turn.on_bind_error hreq]
          exact .noExit hs hx
      | some exit =>
          have hreq : (requireExit scene ref).on p = (.ok exit, p) := by
            simp only [requireExit, hx, Turn.on_pure]
          rw [Turn.on_bind_ok hreq]
          rcases hc : (e.meets exit.condition).on p with ⟨f | open?, q⟩
          · rw [Turn.on_bind_error hc]
            exact .undecided hs hx hc
          · rw [Turn.on_bind_ok hc]
            cases open? with
            | false => exact .closed hs hx hc
            | true =>
                rw [if_pos rfl, Turn.on_bind_ok (on_chooseExit scene exit q)]
                rcases hr : (e.fireSilently scene scene.exitRules none).on
                  (q.chooseExit scene exit) with ⟨f | target, q₁⟩
                · rw [Turn.on_bind_error hr]
                  exact .broken hs hx hc hr
                · rw [Turn.on_bind_ok hr, Turn.on_bind_ok (on_depart scene q₁)]
                  exact .left hs hx hc hr rfl

/-- **Leaving comes to one of its endings.** -/
theorem leaving_of_on {ref : ExitRef} {q : Play} {r : Except Fault SceneView}
    (h : (e.leave ref).on p = (r, q)) : e.Leaving ref p r q := by
  have hend := e.leaving ref p
  rwa [h] at hend

/-! ### Acting -/

/-- What an action does before its teleports are followed: its effects are applied, and its hooks
fire. -/
def perform (e : Engine) (scene : Scene) (action : Action) :
    Turn (Option String × List String) := do
  let own ← e.applyAll action.effects
  e.fireAll scene (some action) action.hooks (laterTarget none own) []

/-- **What taking an action can come to.** -/
inductive Acting (e : Engine) (id : String) (p : Play) : Except Fault SceneView → Play → Prop
  /-- the player is nowhere -/
  | lost (hs : e.scene? p.state.currentSceneId = none) :
      Acting e id p (.error (.sceneNotFound p.state.currentSceneId)) p
  /-- there is no such action -/
  | noAction {scene : Scene} (hs : e.scene? p.state.currentSceneId = some scene)
      (ha : scene.action? id = none) : Acting e id p (.error (.actionNotFound scene.id id)) p
  /-- the condition of the action ends in a fault -/
  | undecided {scene : Scene} {action : Action} {f : Fault} {q : Play}
      (hs : e.scene? p.state.currentSceneId = some scene) (ha : scene.action? id = some action)
      (hc : (e.meets action.condition).on p = (.error f, q)) : Acting e id p (.error f) q
  /-- the condition of the action does not hold -/
  | closed {scene : Scene} {action : Action} {q : Play}
      (hs : e.scene? p.state.currentSceneId = some scene) (ha : scene.action? id = some action)
      (hc : (e.meets action.condition).on p = (.ok false, q)) :
      Acting e id p (.error (.actionClosed id)) q
  /-- the effects or the hooks of the action end in a fault -/
  | broken {scene : Scene} {action : Action} {f : Fault} {q q₁ : Play}
      (hs : e.scene? p.state.currentSceneId = some scene) (ha : scene.action? id = some action)
      (hc : (e.meets action.condition).on p = (.ok true, q))
      (hr : (e.perform scene action).on (q.chooseAction scene id) = (.error f, q₁)) :
      Acting e id p (.error f) q₁
  /-- the player stays and sees the scene -/
  | stayed {scene : Scene} {action : Action} {recent : List String} {q q₁ q₂ : Play}
      {r : Except Fault SceneView}
      (hs : e.scene? p.state.currentSceneId = some scene) (ha : scene.action? id = some action)
      (hc : (e.meets action.condition).on p = (.ok true, q))
      (hr : (e.perform scene action).on (q.chooseAction scene id) = (.ok (none, recent), q₁))
      (hv : (e.view scene [] recent).on q₁ = (r, q₂)) : Acting e id p r q₂
  /-- the player leaves and enters another scene -/
  | left {scene : Scene} {action : Action} {next : String} {recent : List String}
      {q q₁ q₂ : Play} {r : Except Fault SceneView}
      (hs : e.scene? p.state.currentSceneId = some scene) (ha : scene.action? id = some action)
      (hc : (e.meets action.condition).on p = (.ok true, q))
      (hr : (e.perform scene action).on (q.chooseAction scene id) = (.ok (some next, recent), q₁))
      (he : (e.enter next).on (q₁.depart scene) = (r, q₂)) : Acting e id p r q₂

/-- Taking an action is choosing it, performing it, and what follows. -/
theorem act_eq (e : Engine) (id : String) :
    e.act id = (do
      let scene ← e.requireScene (← Turn.state).currentSceneId
      let action ← requireAction scene id
      if ← e.meets action.condition then
        Turn.record .action (some scene.id) (some id) none
        let out ← e.perform scene action
        match out.1 with
        | some next =>
          depart scene
          e.enter next
        | none => e.view scene [] out.2
      else throw (.actionClosed id)) := by
  refine bind_congr fun s => bind_congr fun scene => bind_congr fun action =>
    bind_congr fun met => ?_
  cases met with
  | false => rfl
  | true =>
      refine bind_congr fun _ => ?_
      exact (bind_assoc (e.applyAll action.effects) (fun own =>
        e.fireAll scene (some action) action.hooks (laterTarget none own) []) _).symm

theorem acting (e : Engine) (id : String) (p : Play) :
    e.Acting id p ((e.act id).on p).1 ((e.act id).on p).2 := by
  rw [act_eq, Turn.on_bind_ok (Turn.on_state p)]
  cases hs : e.scene? p.state.currentSceneId with
  | none =>
      rw [Turn.on_bind_error (on_requireScene_none hs p)]
      exact .lost hs
  | some scene =>
      rw [Turn.on_bind_ok (on_requireScene_some hs p)]
      cases ha : scene.action? id with
      | none =>
          have hreq : (requireAction scene id).on p =
              (.error (.actionNotFound scene.id id), p) := by
            simp only [requireAction, ha, Turn.on_throw]
          rw [Turn.on_bind_error hreq]
          exact .noAction hs ha
      | some action =>
          have hreq : (requireAction scene id).on p = (.ok action, p) := by
            simp only [requireAction, ha, Turn.on_pure]
          rw [Turn.on_bind_ok hreq]
          rcases hc : (e.meets action.condition).on p with ⟨f | open?, q⟩
          · rw [Turn.on_bind_error hc]
            exact .undecided hs ha hc
          · rw [Turn.on_bind_ok hc]
            cases open? with
            | false => exact .closed hs ha hc
            | true =>
                rw [if_pos rfl, Turn.on_bind_ok (on_chooseAction scene id q)]
                rcases hr : (e.perform scene action).on (q.chooseAction scene id) with
                  ⟨f | ⟨next, recent⟩, q₁⟩
                · rw [Turn.on_bind_error hr]
                  exact .broken hs ha hc hr
                · rw [Turn.on_bind_ok hr]
                  cases next with
                  | none => exact .stayed hs ha hc hr rfl
                  | some next =>
                      dsimp only
                      rw [Turn.on_bind_ok (on_depart scene q₁)]
                      exact .left hs ha hc hr rfl

/-- **Acting comes to one of its endings.** -/
theorem acting_of_on {id : String} {q : Play} {r : Except Fault SceneView}
    (h : (e.act id).on p = (r, q)) : e.Acting id p r q := by
  have hend := e.acting id p
  rwa [h] at hend

end Engine

end Storyworld
