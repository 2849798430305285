/-
**What comes of loading a save.**

Whatever is offered as a save, loading it without entering its scene comes to an end in one of two
ways.  Either there is a state, which is of the story, at a scene of the story, and has all sections
that the enabled features need, and nothing is found that is more than a warning.  Or there is no
state, and at least one error says why.

Main definitions:

* `Storyworld.GameState.Admitted` — a state that is let in by an engine;
* `Storyworld.Loaded.Coherent` — **the two ways in which loading can end**.

Main results:

* `Storyworld.Engine.failsWithErrors_readSaved` — what cannot be read has errors;
* `Storyworld.Engine.load_coherent` — **loading ends in one of the two ways**.
-/

import Storyworld.Proofs.Misfits
import Storyworld.Proofs.Saving

set_option relaxedAutoImplicit false
set_option autoImplicit false

namespace Storyworld

/-! ### Shapes of saves -/

theorem hasConditions_stateShape : Game.stateShape.hasConditions = false := by decide

theorem hasConditions_smallSaveShape : Game.smallSaveShape.hasConditions = false := by decide

theorem hasConditions_characterShape : Game.characterShape.hasConditions = false := by decide

/-! ### What is let in -/

/-- A state that is let in by an engine: it says that it is of the story, it is at a scene of the
story, and the sections of the enabled features are in use. -/
structure GameState.Admitted (e : Engine) (s : GameState) : Prop where
  storyBundleId : s.storyBundleId = e.story.id
  placed : (e.scene? s.currentSceneId).isSome
  loreKnowledge : e.features.loreReveals = true → s.loreKnowledge.isSome
  relationships : e.features.relationships = true → s.relationships.isSome
  companions : e.features.companions = true → s.companions.isSome
  session : e.features.sessions = true → s.session.isSome

/-- **The two ways in which loading can end.** -/
structure Loaded.Coherent (e : Engine) (loaded : Loaded) : Prop where
  admitted : ∀ s, loaded.state = some s → s.Admitted e ∧ Issue.hasError loaded.issues = false
  refused : loaded.state = none → Issue.hasError loaded.issues = true

/-! ### What cannot be read -/

section Reading

variable {α β : Type}

/-- A reading that fails only with issues one of which is an error. -/
def FailsWithErrors (r : Except (List Issue) α) : Prop :=
  ∀ issues, r = .error issues → Issue.hasError issues = true

theorem FailsWithErrors.bind {r : Except (List Issue) α} {k : α → Except (List Issue) β}
    (hr : FailsWithErrors r) (hk : ∀ a, FailsWithErrors (k a)) : FailsWithErrors (r >>= k) := by
  intro issues h
  cases r with
  | ok a => exact hk a issues h
  | error found =>
      cases h
      exact hr _ rfl

/-- Bringing a document into a shape without conditions. -/
theorem failsWithErrors_fit {shape : Schema.Shape} (hshape : shape.hasConditions = false)
    (j : Json) : FailsWithErrors ((fit shape j).mapError Fault.issues) := by
  intro issues h
  cases hfit : fit shape j with
  | ok d => rw [hfit] at h; cases h
  | error f =>
      rw [hfit] at h
      cases h
      exact hasError_of_fit hshape hfit

/-- Taking something from a document in a shape without conditions. -/
theorem failsWithErrors_fit_map {shape : Schema.Shape} (hshape : shape.hasConditions = false)
    (j : Json) (f : Json → α) :
    FailsWithErrors (((fit shape j).map f).mapError Fault.issues) := by
  have hmap : ((fit shape j).map f).mapError Fault.issues =
      (fit shape j).mapError Fault.issues >>= fun d => .ok (f d) := by
    cases fit shape j <;> rfl
  rw [hmap]
  exact (failsWithErrors_fit hshape j).bind fun d => nofun

end Reading

theorem failsWithErrors_readSave (source : Source) : FailsWithErrors (readSave source) := by
  intro issues h
  unfold readSave at h
  split at h <;> cases h <;> rfl

namespace Engine

variable {e : Engine}

theorem failsWithErrors_readSmallSave (j : Json) : FailsWithErrors (e.readSmallSave j) := by
  refine (failsWithErrors_fit hasConditions_smallSaveShape j).bind fun save => ?_
  dsimp only
  split
  · rintro issues ⟨⟩
    rfl
  · exact (failsWithErrors_fit_map hasConditions_characterShape _ _).bind fun c => nofun

/-- **What cannot be read has errors.** -/
theorem failsWithErrors_readSaved (e : Engine) (saved : Saved) :
    FailsWithErrors (e.readSaved saved) := by
  cases saved with
  | state s => exact nofun
  | source source =>
      refine (failsWithErrors_readSave source).bind fun j => ?_
      split
      · exact failsWithErrors_fit_map hasConditions_stateShape j _
      · exact failsWithErrors_readSmallSave j

/-! ### Loading -/

/-- A state that is only warned of is let in once its sections are in use. -/
theorem admitted_withDefaults {s : GameState}
    (h : Issue.hasError (e.checkState (e.withDefaults s)) = false) :
    (e.withDefaults s).Admitted e where
  storyBundleId := (hasError_checkState_iff.1 h).1
  placed := (hasError_checkState_iff.1 h).2
  loreKnowledge he := isSome_section? he [] s.loreKnowledge
  relationships he := isSome_section? he [] s.relationships
  companions he := isSome_section? he (e.story.world.companions.map Companion.joined) s.companions
  session he := isSome_section? he SessionState.unopened s.session

theorem coherent_restore (e : Engine) (saved : Saved) : (e.restore saved).Coherent e := by
  unfold restore
  split
  · next issues hread =>
    refine ⟨fun s' hs' => ?_, fun _ => e.failsWithErrors_readSaved saved issues hread⟩
    cases hs'
  · next s hread =>
    cases hissues : Issue.hasError (e.checkState (e.withDefaults s)) with
    | true =>
        refine ⟨fun s' hs' => ?_, fun _ => hissues⟩
        simp [hissues] at hs'
    | false =>
        constructor
        · intro s' hs'
          simp only [hissues, Bool.false_eq_true, if_false, Option.some.injEq] at hs'
          exact ⟨hs' ▸ admitted_withDefaults hissues, hissues⟩
        · intro hnone
          simp [hissues] at hnone

/-- **Loading ends in one of the two ways**, whatever is offered as a save: there is always a
result, and nothing that the games share is touched. -/
theorem load_coherent (e : Engine) (saved : Saved) (shared : Shared) :
    ∃ loaded, e.load saved false shared = (.ok loaded, shared) ∧ loaded.view = none ∧
      loaded.Coherent e := by
  refine ⟨e.restore saved, ?_, ?_, e.coherent_restore saved⟩
  · cases hstate : (e.restore saved).state <;> simp only [load, hstate]
  · unfold restore
    split <;> rfl

end Engine

end Storyworld
