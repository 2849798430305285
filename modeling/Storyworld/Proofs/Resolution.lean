/-
**Every scene that a game asks for is there.**

The check of a story looks at the start scene, at the targets of exits and at the teleports of
actions; the moves of a game look scenes up wherever the player is sent.  If the modules of a built
engine send the player only to scenes of the story, then the two agree: whatever the player does,
and whatever came of it before, no scene is ever missed.

Main definitions:

* `Storyworld.Exit.Genuine`, `Storyworld.Move.Genuine` — an exit whose parts are those of its
  document, and a move that names no other exit;
* `Storyworld.Play.Placed` — the player is in a scene of the story.

Main results:

* `Storyworld.Json.text_of_same` — equal documents have equal texts in their fields;
* `Storyworld.Engine.underMoves_placed` — no turn leads the player out of the story;
* `Storyworld.Engine.found_enterWithin` — a scene of the story is entered;
* `Storyworld.Engine.playthrough_resolves` — **every scene that a game asks for is there**.
-/

import Storyworld.Proofs.Checked
import Storyworld.Proofs.Frame
import Storyworld.Proofs.Hooks
import Storyworld.Proofs.Playthrough

set_option relaxedAutoImplicit false
set_option autoImplicit false

namespace Storyworld

/-! ### Equal documents -/

namespace Json

theorem eq_str_of_same {s : String} {j : Json} (h : same (.str s) j = true) : j = .str s := by
  cases j with
  | str t =>
      simp only [same, beq_iff_eq] at h
      rw [h]
  | _ => simp [same, count?] at h

theorem same_of_sameFields {xs ys : List (String × Json)} (h : sameFields xs ys = true) {k : String}
    {x : Json} (hx : Table.get? xs k = some x) :
    ∃ y, Table.get? ys k = some y ∧ same x y = true := by
  induction xs with
  | nil => cases hx
  | cons f xs ih =>
      obtain ⟨k', x'⟩ := f
      rw [sameFields] at h
      split at h
      · next y hy =>
        rw [Bool.and_eq_true] at h
        by_cases hk : k' = k
        · subst hk
          rw [Table.get?, if_pos rfl] at hx
          cases hx
          exact ⟨y, hy, h.1⟩
        · rw [Table.get?, if_neg hk] at hx
          exact ih h.2 hx
      · cases h

/-- **Equal documents have equal texts in their fields.** -/
theorem text_of_same {a b : Json} (h : same a b = true) {k : String} (hk : a.text k ≠ "") :
    b.text k = a.text k := by
  cases a with
  | obj xs =>
      cases b with
      | obj ys =>
          rw [same, Bool.and_eq_true] at h
          cases hx : Table.get? xs k with
          | none => simp [text, text?, field?, hx] at hk
          | some x =>
              cases x with
              | str s =>
                  obtain ⟨y, hy, hsame⟩ := same_of_sameFields h.2 hx
                  rw [eq_str_of_same hsame] at hy
                  simp only [text, text?, field?, hx, hy]
              | _ => simp [text, text?, field?, hx, str?] at hk
      | _ => simp [same, count?] at h
  | _ => simp [text, text?, field?] at hk

end Json

/-! ### Exits -/

/-- An exit whose parts are those of its document, as those of every exit are that was read. -/
def Exit.Genuine (x : Exit) : Prop := x = .ofDocument x.document

/-- What names an exit, where an exit that names itself is genuine. -/
def ExitRef.Genuine : ExitRef → Prop
  | itself exit => exit.Genuine
  | _ => True

/-- A move that names no exit but by its index, its label, or a genuine exit. -/
def Move.Genuine : Move → Prop
  | leave ref => ref.Genuine
  | act _ => True

theorem Exit.targetScene_of_same {x y : Exit} (hx : x.Genuine) (hy : y.Genuine)
    (h : x.document.same y.document = true) (hne : x.targetScene ≠ "") :
    y.targetScene = x.targetScene := by
  rw [hx] at hne ⊢
  rw [hy]
  exact Json.text_of_same h hne

theorem genuine_of_ofDocument {d : Json} {s : Scene}
    (hs : s ∈ (StoryBundle.ofDocument d).scenes) {x : Exit} (hx : x ∈ s.exits) : x.Genuine := by
  obtain ⟨ds, -, rfl⟩ := List.mem_map.1 hs
  obtain ⟨dx, -, rfl⟩ := List.mem_map.1 hx
  rfl

/-- **The target of the exit that a reference names** is one that the story names. -/
theorem target_of_exit? {d : Json} {s : Scene} (hsound : (StoryBundle.ofDocument d).Sound)
    (hs : s ∈ (StoryBundle.ofDocument d).scenes) {ref : ExitRef} (href : ref.Genuine) {exit : Exit}
    (hx : s.exit? ref = some exit) :
    exit.targetScene ∈ (StoryBundle.ofDocument d).scenes.map (·.id) := by
  cases ref with
  | index i =>
      simp only [Scene.exit?] at hx
      split at hx
      · cases hx
      · exact hsound.exits s hs exit (List.mem_of_getElem? hx)
  | label l => exact hsound.exits s hs exit (List.mem_of_find?_eq_some hx)
  | itself y =>
      -- the exit only equals one of the scene, so it is their documents that have the same target
      simp only [Scene.exit?] at hx
      split at hx
      · next hany =>
        cases hx
        obtain ⟨x, hmem, hsame⟩ := List.any_eq_true.1 hany
        have htarget := hsound.exits s hs x hmem
        have hne : x.targetScene ≠ "" := by
          obtain ⟨s', hs', hid⟩ := List.mem_map.1 htarget
          rw [← hid]
          exact hsound.named s' hs'
        rw [Exit.targetScene_of_same (genuine_of_ofDocument hs hmem) href hsame hne]
        exact htarget
      · cases hx
  | other j => cases hx

/-! ### Turns -/

/-- The player is in a scene of the story. -/
def Play.Placed (e : Engine) (p : Play) : Prop := (e.scene? p.state.currentSceneId).isSome

/-- A fault does not say that a scene is missed. -/
def Fault.Found (f : Fault) : Prop := ∀ id, f ≠ .sceneNotFound id

theorem found_of_value : OfValues Fault.Found := by
  intro f hf id h
  rw [h] at hf
  cases hf

/-- What an engine asks of its modules for no scene to be missed: they send the player only to
scenes of the story, and they do not fail with that fault themselves. -/
structure Engine.WellGuided (e : Engine) : Prop where
  leads : e.modules.LeadInto fun t => (e.scene? t).isSome
  faults : e.modules.FailsOnly Fault.Found

namespace Engine

variable {e : Engine} {p q : Play}

/-- **No turn leads the player out of the story.** -/
theorem underMoves_placed (e : Engine) : UnderMoves e fun p q => p.Placed e → q.Placed e where
  refl _ h := h
  trans _ _ _ h h' hp := h' (h hp)
  drawn _ _ h := h
  warned _ _ h := h
  noted _ _ h := h
  changed _ _ _ _ ho h := by
    rw [Play.Placed, (Effect.outcome_sameCourse ho).currentSceneId]
    exact h
  applied _ _ h := h
  moved _ _ _ hs _ := by
    rw [Play.Placed, id_of_scene? hs, hs]
    rfl
  recorded _ _ _ _ _ h := h

/-- A scene of the story is entered, and so are those to which it teleports. -/
theorem found_enterWithin (hg : e.WellGuided) {hops : Nat} {chain : List String} {id : String}
    (hid : (e.scene? id).isSome) {f : Fault}
    (hend : (e.enterWithin hops chain id).on p = (.error f, q)) : f.Found := by
  replace hend := e.entering_of_on hend
  generalize hr : (Except.error f : Except Fault SceneView) = r at hend
  induction hend with
  | missing hs =>
      rw [hs] at hid
      cases hid
  | broken hs hv =>
      cases hr
      exact failsOnly_visit found_of_value hg.faults _ _ _ _ hv
  | stayed hs hv hview =>
      subst hr
      exact failsOnly_view found_of_value hg.faults _ _ _ _ _ _ hview
  | looped =>
      cases hr
      exact fun _ h => nomatch h
  | wentOn hs hv _ ih => exact ih (gives_visit hg.leads _ _ _ _ hv _ rfl) hr

theorem found_leave {d : Json} (hd : e.story = .ofDocument d) (hsound : e.story.Sound)
    (hg : e.WellGuided) {ref : ExitRef} (href : ref.Genuine) (hp : p.Placed e) {f : Fault}
    (h : (e.leave ref).on p = (.error f, q)) : f.Found := by
  cases e.leaving_of_on h with
  | lost hs =>
      rw [Play.Placed, hs] at hp
      cases hp
  | noExit => exact fun _ h => nomatch h
  | undecided _ _ hc => exact failsOnly_meets found_of_value hg.faults _ _ _ _ hc
  | closed => exact fun _ h => nomatch h
  | broken _ _ _ hf => exact failsOnly_fireSilently found_of_value hg.faults _ _ _ _ _ _ hf
  | @left scene exit target _ _ _ _ hs hx _ hf he =>
      refine found_enterWithin hg ?_ he
      cases target with
      | some t =>
          have hnone : ∀ t, (none : Option String) = some t → (e.scene? t).isSome :=
            fun _ h => nomatch h
          exact gives_fireSilently hg.leads _ _ hnone _ _ _ hf t rfl
      | none =>
          rw [isSome_scene?_iff]
          have hscene := mem_scenes_of_scene? hs
          rw [hd] at hsound hscene ⊢
          exact target_of_exit? hsound hscene href hx

theorem found_act (hsound : e.story.Sound) (hg : e.WellGuided) {id : String} (hp : p.Placed e)
    {f : Fault} (h : (e.act id).on p = (.error f, q)) : f.Found := by
  cases e.acting_of_on h with
  | lost hs =>
      rw [Play.Placed, hs] at hp
      cases hp
  | noAction => exact fun _ h => nomatch h
  | undecided _ _ hc => exact failsOnly_meets found_of_value hg.faults _ _ _ _ hc
  | closed => exact fun _ h => nomatch h
  | broken _ _ _ hf => exact failsOnly_perform found_of_value hg.faults _ _ _ _ _ hf
  | stayed _ _ _ _ hv => exact failsOnly_view found_of_value hg.faults _ _ _ _ _ _ hv
  | left hs ha _ hf he =>
      refine found_enterWithin hg (gives_perform hg.leads _ ?_ _ _ _ hf _ rfl) he
      intro x hx t ht
      rw [isSome_scene?_iff]
      exact hsound.teleports _ (mem_scenes_of_scene? hs) _ (List.mem_of_find?_eq_some ha) x hx t ht

/-! ### Whole games -/

/-- **Every scene that a game asks for is there.**  If the modules of a built engine send the player
only to scenes of the story, then the start scene, the targets of exits and those of teleports in
actions are scenes of the story, and no scene is missed by any move of any game, whatever came of
the moves before. -/
theorem playthrough_resolves {setup : Setup} {d : Json} (hb : (build setup).engine = some e)
    (hd : setup.story = .ofDocument d) (hg : e.WellGuided) (c : Character) (shared : Shared)
    {moves : List Move} (hmoves : ∀ m ∈ moves, m.Genuine) :
    (e.scene? e.story.startScene).isSome ∧
      (∀ s ∈ e.story.scenes, ∀ x ∈ s.exits, (e.scene? x.targetScene).isSome) ∧
      (∀ s ∈ e.story.scenes, ∀ a ∈ s.actions, ∀ x ∈ a.effects, ∀ t, x.target? = some t →
        (e.scene? t).isSome) ∧
      ∀ id, .error (.sceneNotFound id) ∉ (e.playthrough c shared moves).1 := by
  have hsound := sound_of_build hb
  have hstory : e.story = .ofDocument d := by
    obtain ⟨-, rfl⟩ := of_build hb
    exact hd
  simp only [isSome_scene?_iff]
  refine ⟨hsound.start, hsound.exits, hsound.teleports, fun id hid => ?_⟩
  have hstart : (e.beginning c shared).Placed e := (isSome_scene?_iff e _).2 hsound.start
  refine Turn.onAll_faults (I := Play.Placed e) (F := Fault.Found) ?_ ?_ hstart hid id rfl
  · intro t ht p hp
    rcases List.mem_cons.1 ht with rfl | ht
    · exact (underMoves_placed e).keeps_enter _ p hp
    · obtain ⟨m, -, rfl⟩ := List.mem_map.1 ht
      cases m with
      | leave ref => exact (underMoves_placed e).keeps_leave ref p hp
      | act id => exact (underMoves_placed e).keeps_act id p hp
  · intro t ht p hp f hf
    have hon : t.on p = (.error f, (t.on p).2) := Prod.ext hf rfl
    rcases List.mem_cons.1 ht with rfl | ht
    · exact found_enterWithin hg ((isSome_scene?_iff e _).2 hsound.start) hon
    · obtain ⟨m, hm, rfl⟩ := List.mem_map.1 ht
      cases m with
      | leave ref => exact found_leave hstory hsound hg (hmoves _ hm) hp hon
      | act id => exact found_act hsound hg hp hon

/-- Every hook of the Lantern Road sends the player to the road.  The player tries a scene's own
exit, an exit that is closed, and an action that is not there. -/
theorem playthrough_resolves_lanternRoad :
    let e := LanternRoad.engine
    (e.scene? e.story.startScene).isSome ∧
      (∀ s ∈ e.story.scenes, ∀ x ∈ s.exits, (e.scene? x.targetScene).isSome) ∧
      (∀ s ∈ e.story.scenes, ∀ a ∈ s.actions, ∀ x ∈ a.effects, ∀ t, x.target? = some t →
        (e.scene? t).isSome) ∧
      ∀ id, .error (.sceneNotFound id) ∉ (e.playthrough LanternRoad.traveller LanternRoad.alone
        [.leave (.itself (.ofDocument
          (LanternRoad.exit "Take the road north" "scene.road" []))), .leave (.index 1),
          .act "act.sing"]).1 := by
  refine playthrough_resolves LanternRoad.build_eq rfl ⟨?_, LanternRoad.engine_failsOnly _⟩ _ _ ?_
  · intro m hm context g r hr x hx t ht
    rw [LanternRoad.engine_answers m hm] at hr
    cases hr
    rw [List.mem_singleton.1 hx] at ht
    cases ht
    decide +kernel
  · intro m hm
    simp only [List.mem_cons, List.not_mem_nil, or_false] at hm
    rcases hm with rfl | rfl | rfl
    · rfl
    · trivial
    · trivial

end Engine

end Storyworld
