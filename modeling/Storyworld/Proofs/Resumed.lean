/-
**Games that are taken up again.**

A game goes on in any way, and now and then it is given up for a save: the save is loaded, perhaps
its scene is entered again, and from there the game goes on.  What a load ends with is a state that
was let in, or what entering its scene made of such a state.  So what holds of every state that is
let in, and is kept by every small step, holds of all games, however often they are taken up again.

Main definitions:

* `Storyworld.Engine.Course` — **the plays that games come to**, begun anew and taken up again.

Main results:

* `Storyworld.Engine.restored_of_load` — what a load ends with;
* `Storyworld.Engine.Course.invariant` — **what holds of all games that are taken up again**;
* `Storyworld.Engine.course_stays_in_story` — **the player is always in a scene of the story**.
-/

import Storyworld.Proofs.Loading
import Storyworld.Proofs.Resolution

set_option relaxedAutoImplicit false
set_option autoImplicit false

namespace Storyworld

variable {e : Engine}

/-! ### Loading -/

/-- **What a load ends with**: a state that was restored, or what entering its scene made of it. -/
theorem Engine.restored_of_load {saved : Saved} {again : Bool} {shared shared' : Shared}
    {loaded : Loaded} (h : e.load saved again shared = (.ok loaded, shared')) {s : GameState}
    (hs : loaded.state = some s) : ∃ s₀, (e.restore saved).state = some s₀ ∧
      ∀ {R : Play → Play → Prop}, UnderMoves e R →
        R { toShared := shared, state := s₀ } { toShared := shared', state := s } := by
  unfold load at h
  dsimp only at h
  split at h
  · next s₀ hstate =>
    rcases hon : (e.enter s₀.currentSceneId).on { toShared := shared, state := s₀ } with ⟨r, q⟩
    have hcarry : shared.carryOut s₀ (e.enter s₀.currentSceneId) = (r, q.state, q.toShared) := by
      rw [Shared.carryOut, hon]
    rw [hcarry] at h
    cases r with
    | error f => cases h
    | ok view =>
        cases h
        cases hs
        exact ⟨s₀, hstate, fun hR => (hR.keeps_enter s₀.currentSceneId).of_on hon⟩
  · cases h
    exact ⟨s, hs, fun hR => hR.refl _⟩

/-! ### Games -/

/-- **The plays that games come to**, begun with any character and taken up again from whatever is
offered as a save.  What the games on an engine share can change at any time. -/
inductive Engine.Course (e : Engine) (offers : Play → Saved → Prop) : Play → Prop
  | beginning (c : Character) (shared : Shared) : Course e offers (e.beginning c shared)
  | after {p : Play} (hp : Course e offers p) (o : Operation) : Course e offers (o.after e p)
  | asked {p : Play} (hp : Course e offers p) (c : Condition) :
      Course e offers ((e.holds c).on p).2
  | meanwhile {p : Play} (hp : Course e offers p) (shared : Shared) :
      Course e offers { p with toShared := shared }
  | resumed {p : Play} (hp : Course e offers p) {saved : Saved} (hsaved : offers p saved)
      {again : Bool} {shared shared' : Shared} {loaded : Loaded}
      (h : e.load saved again shared = (.ok loaded, shared')) {s : GameState}
      (hs : loaded.state = some s) : Course e offers { toShared := shared', state := s }

namespace Engine

variable {offers : Play → Saved → Prop} {I : GameState → Prop}

/-- A game that is not taken up again. -/
theorem Reachable.course {c : Character} {p : Play} (hp : e.Reachable c p) :
    e.Course offers p := by
  induction hp with
  | beginning shared => exact .beginning c shared
  | after _ o ih => exact .after ih o
  | meanwhile _ shared ih => exact .meanwhile ih shared

/-- **What holds of all games that are taken up again**: what holds of a new game, of what is
restored from saves of games of which it holds, and is kept by every small step. -/
theorem Course.invariant {R : Play → Play → Prop} (hfresh : ∀ c, I (e.fresh c))
    (hrestored : ∀ p saved s, I p.state → offers p saved → (e.restore saved).state = some s → I s)
    (hsteps : UnderSessions e R) (hkept : ∀ p q, R p q → I p.state → I q.state) {p : Play}
    (hp : e.Course offers p) : I p.state := by
  induction hp with
  | beginning c shared => exact hfresh c
  | after _ o ih => exact hkept _ _ (o.keeps_after hsteps _) ih
  | asked _ c ih => exact hkept _ _ (hsteps.keeps_holds c _) ih
  | meanwhile _ shared ih => exact ih
  | resumed _ hsaved h hs ih =>
      obtain ⟨s₀, hs₀, hR⟩ := restored_of_load h hs
      exact hkept _ _ (hR hsteps.toUnderMoves) (hrestored _ _ s₀ ih hsaved hs₀)

/-! ### The scene of the player -/

/-- The player is put nowhere but into scenes of the story. -/
theorem underSessions_placed (e : Engine) :
    UnderSessions e fun p q => p.Placed e → q.Placed e :=
  { underMoves_placed e with seated := fun _ _ h => h }

/-- **The player is always in a scene of the story**, however a game is begun, and however often it
is taken up again, from whatever saves.  It makes no difference what comes of the operations. -/
theorem course_stays_in_story {setup : Setup} (hb : (build setup).engine = some e) {p : Play}
    (hp : e.Course offers p) : ∃ scene ∈ e.story.scenes, scene.id = p.state.currentSceneId := by
  have hplaced : (e.scene? p.state.currentSceneId).isSome := by
    refine hp.invariant (I := fun s => (e.scene? s.currentSceneId).isSome) ?_ ?_
      (underSessions_placed e) fun _ _ h => h
    · intro c
      exact (isSome_scene?_iff e _).2 (sound_of_build hb).start
    · intro p saved s _ _ hs
      exact ((e.coherent_restore saved).admitted s hs).1.placed
  obtain ⟨scene, hscene⟩ := Option.isSome_iff_exists.1 hplaced
  exact ⟨scene, mem_scenes_of_scene? hscene, id_of_scene? hscene⟩

/-- A traveller asks for a scene that is not there, and goes on from a note that names no more than
the road. -/
theorem course_stays_in_story_lanternRoad :
    let e := LanternRoad.engine
    let note := Saved.source (.document (.obj [LanternRoad.field "currentSceneId" "scene.road"]))
    ∃ loaded shared s, e.load note true LanternRoad.alone = (.ok loaded, shared) ∧
      loaded.state = some s ∧ ∃ scene ∈ e.story.scenes, scene.id =
        ((Operation.leave (.index 7)).after e
          { toShared := shared, state := s }).state.currentSceneId := by
  intro e note
  have hload :
      ((e.load note true LanternRoad.alone).1.toOption.bind Loaded.state).isSome = true := by
    decide +kernel
  rcases h : e.load note true LanternRoad.alone with ⟨r, shared⟩
  rw [h] at hload
  cases r with
  | error f => cases hload
  | ok loaded =>
      obtain ⟨s, hs⟩ := Option.isSome_iff_exists.1 hload
      have hlost : e.Course (fun _ _ => True) ((Operation.enter "scene.nowhere").after e
          (e.beginning LanternRoad.traveller LanternRoad.alone)) := .after (.beginning _ _) _
      have hresumed := Course.resumed hlost trivial h hs
      exact ⟨loaded, shared, s, rfl, hs,
        course_stays_in_story LanternRoad.build_eq (hresumed.after _)⟩

end Engine

end Storyworld
