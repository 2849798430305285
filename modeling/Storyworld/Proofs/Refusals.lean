/-
**Moves that are refused.**

A move is refused when what it names is not there, or not open.  Both are found out before anything
is done: no hook fires, nothing is drawn, and the state is as it was.  All that a refused move can
leave behind is the note of the one condition that it has asked, if that condition is an expression
which cannot be evaluated.

A rule module that is asked at a hook, or about a condition, could fail with the very fault by which
moves are refused, when the move is under way.  So the faults that modules come up with themselves
are left out here.

Main definitions:

* `Storyworld.Move.condition?`, `Storyworld.Move.note?` — the condition of what a move names, and the
  note that is left of it;
* `Storyworld.Engine.Refusing` — **the endings of moves that are refused**;
* `Storyworld.Engine.withHooks` — the engine with modules that do something else at hooks;
* `Storyworld.Registry.Raises` — a fault that a module comes up with itself.

Main results:

* `Storyworld.Move.isSome_note?_iff` — when a note is left;
* `Storyworld.Engine.refusing_of_on`, `Storyworld.Engine.Refusing.on` — a move is refused just if it
  comes to one of these endings;
* `Storyworld.Engine.Refusing.leaves` — what they leave behind;
* `Storyworld.Engine.Refusing.withHooks` — **what would happen at hooks does not matter**;
* `Storyworld.Engine.refused_moves_change_nothing` — all of this, for every move that is refused.
-/

import Storyworld.Proofs.Looking
import Storyworld.Proofs.Notes

set_option relaxedAutoImplicit false
set_option autoImplicit false

namespace Storyworld

/-! ### What a move names -/

/-- The condition of the exit or the action that a move names in a scene. -/
def Move.condition? (scene : Scene) : Move → Option Condition
  | leave ref => (scene.exit? ref).bind Exit.condition
  | act id => (scene.action? id).bind Action.condition

/-- The note that is left of this condition when it is asked. -/
def Move.note? (scene : Scene) (s : GameState) (m : Move) : Option (Table Json) :=
  (m.condition? scene).bind (Condition.note? s)

/-- **An expression that cannot be evaluated** is what leaves a note. -/
theorem Move.isSome_note?_iff {scene : Scene} {s : GameState} {m : Move} :
    (m.note? scene s).isSome = true ↔ ∃ text f, m.condition? scene = some (.expression text) ∧
      Expression.evaluate s.scope text = .ok (.fault f) := by
  unfold note?
  constructor
  · intro h
    obtain ⟨note, hnote⟩ := Option.isSome_iff_exists.1 h
    obtain ⟨c, hcondition, hc⟩ := Option.bind_eq_some_iff.1 hnote
    cases c with
    | expression text =>
        simp only [Condition.note?] at hc
        split at hc
        · next f hf => exact ⟨text, f, hcondition, hf⟩
        · cases hc
    | _ => cases hc
  · rintro ⟨text, f, hcondition, hf⟩
    simp only [hcondition, Option.bind_some, Condition.note?, hf, Option.isSome_some]

/-- A module comes up with a fault, about some condition or at some hook. -/
def Registry.Raises (ms : Registry) (f : Fault) : Prop :=
  ∃ m ∈ ms, (∃ c s, m.answer m.settings c s = .error f) ∨
    ∃ context g, (m.resolve m.settings context g).1 = .error f

/-- Modules whose faults are of a kind come up with no others. -/
theorem Registry.FailsOnly.not_raises {ms : Registry} {F : Fault → Prop} (h : ms.FailsOnly F)
    {f : Fault} (hf : ¬ F f) : ¬ ms.Raises f := by
  rintro ⟨m, hm, ⟨c, s, hr⟩ | ⟨context, g, hr⟩⟩
  · exact hf (h.answers m hm c s f hr)
  · exact hf (h.hooks m hm context g f hr)

namespace Engine

variable {e : Engine} {m : Move} {p q : Play} {f : Fault}

/-! ### The endings of moves that are refused -/

/-- **What a move that is refused has come to.** -/
inductive Refusing (e : Engine) (p : Play) : Move → Fault → Play → Prop
  /-- the scene has no such exit -/
  | noExit {scene : Scene} {ref : ExitRef} (hs : e.scene? p.state.currentSceneId = some scene)
      (hx : scene.exit? ref = none) :
      Refusing e p (.leave ref) (.exitNotFound scene.id ref.shown) p
  /-- the condition of the exit does not hold -/
  | exitClosed {scene : Scene} {ref : ExitRef} {exit : Exit} {q : Play}
      (hs : e.scene? p.state.currentSceneId = some scene) (hx : scene.exit? ref = some exit)
      (hc : (e.meets exit.condition).on p = (.ok false, q)) :
      Refusing e p (.leave ref) (.exitClosed exit.label) q
  /-- the scene has no such action -/
  | noAction {scene : Scene} {id : String} (hs : e.scene? p.state.currentSceneId = some scene)
      (ha : scene.action? id = none) : Refusing e p (.act id) (.actionNotFound scene.id id) p
  /-- the condition of the action does not hold -/
  | actionClosed {scene : Scene} {id : String} {action : Action} {q : Play}
      (hs : e.scene? p.state.currentSceneId = some scene) (ha : scene.action? id = some action)
      (hc : (e.meets action.condition).on p = (.ok false, q)) :
      Refusing e p (.act id) (.actionClosed id) q

/-- Whatever is no refusal, or comes from a module, is no refusal by the engine. -/
theorem ofValues_notRefusing (ms : Registry) :
    OfValues fun f => f.isRefusal = true → ms.Raises f := by
  intro f hf hrefusal
  rw [ofValues_notRefused f hf] at hrefusal
  cases hrefusal

theorem failsOnly_raises (ms : Registry) :
    ms.FailsOnly fun f => f.isRefusal = true → ms.Raises f where
  answers m hm c s _ hf _ := ⟨m, hm, .inl ⟨c, s, hf⟩⟩
  hooks m hm context g _ hf _ := ⟨m, hm, .inr ⟨context, g, hf⟩⟩

theorem failsOnly_enter_notRefusing (e : Engine) (id : String) :
    (e.enter id).FailsOnly fun f => f.isRefusal = true → e.modules.Raises f :=
  failsOnly_enterWithin (ofValues_notRefusing _) (failsOnly_raises _) (fun _ _ h => nomatch h)
    (fun _ h => nomatch h) _ _ _

/-- **A move is refused only in these ways**, unless by a module. -/
theorem refusing_of_on (hf : f.isRefusal = true) (hown : ¬ e.modules.Raises f)
    (h : (m.turn e).on p = (.error f, q)) : e.Refusing p m f q := by
  have hvalues := ofValues_notRefusing e.modules
  have hraises := failsOnly_raises e.modules
  have henter {id : String} {p₁ : Play} (he : (e.enter id).on p₁ = (.error f, q)) : False :=
    hown (e.failsOnly_enter_notRefusing id _ _ _ he hf)
  cases m with
  | leave ref =>
      cases e.leaving_of_on h with
      | lost => cases hf
      | noExit hs hx => exact .noExit hs hx
      | undecided _ _ hc => exact absurd (failsOnly_meets hvalues hraises _ _ _ _ hc hf) hown
      | closed hs hx hc => exact .exitClosed hs hx hc
      | broken _ _ _ hr =>
          exact absurd (failsOnly_fireSilently hvalues hraises _ _ _ _ _ _ hr hf) hown
      | left _ _ _ _ he => exact (henter he).elim
  | act id =>
      cases e.acting_of_on h with
      | lost => cases hf
      | noAction hs ha => exact .noAction hs ha
      | undecided _ _ hc => exact absurd (failsOnly_meets hvalues hraises _ _ _ _ hc hf) hown
      | closed hs ha hc => exact .actionClosed hs ha hc
      | broken _ _ _ hr =>
          exact absurd (failsOnly_perform hvalues hraises _ _ _ _ _ hr hf) hown
      | stayed _ _ _ _ hv => exact absurd (failsOnly_view hvalues hraises _ _ _ _ _ _ hv hf) hown
      | left _ _ _ _ he => exact (henter he).elim

/-- **A move that comes to one of these endings is refused.** -/
theorem Refusing.on (h : e.Refusing p m f q) : (m.turn e).on p = (.error f, q) := by
  cases h with
  | @noExit scene ref hs hx =>
      have hreq : (requireExit scene ref).on p = (.error (.exitNotFound scene.id ref.shown), p) := by
        simp only [requireExit, hx, Turn.on_throw]
      rw [Move.turn, leave, Turn.on_bind_ok (Turn.on_state p),
        Turn.on_bind_ok (on_requireScene_some hs p), Turn.on_bind_error hreq]
  | @exitClosed scene ref exit q hs hx hc =>
      have hreq : (requireExit scene ref).on p = (.ok exit, p) := by
        simp only [requireExit, hx, Turn.on_pure]
      rw [Move.turn, leave, Turn.on_bind_ok (Turn.on_state p),
        Turn.on_bind_ok (on_requireScene_some hs p), Turn.on_bind_ok hreq, Turn.on_bind_ok hc]
      rfl
  | @noAction scene id hs ha =>
      have hreq : (requireAction scene id).on p = (.error (.actionNotFound scene.id id), p) := by
        simp only [requireAction, ha, Turn.on_throw]
      rw [Move.turn, act, Turn.on_bind_ok (Turn.on_state p),
        Turn.on_bind_ok (on_requireScene_some hs p), Turn.on_bind_error hreq]
  | @actionClosed scene id action q hs ha hc =>
      have hreq : (requireAction scene id).on p = (.ok action, p) := by
        simp only [requireAction, ha, Turn.on_pure]
      rw [Move.turn, act, Turn.on_bind_ok (Turn.on_state p),
        Turn.on_bind_ok (on_requireScene_some hs p), Turn.on_bind_ok hreq, Turn.on_bind_ok hc]
      rfl

/-! ### What they leave behind -/

/-- **Asking a condition leaves its note, if any, and draws nothing.** -/
theorem meets_leaves {c : Option Condition} {b : Bool} (h : (e.meets c).on p = (.ok b, q)) :
    q.state = p.state.noted (c.bind (Condition.note? p.state)).toList ∧ q.rng = p.rng := by
  obtain ⟨asked, -, hstate, hall⟩ := e.asks_meets c p
  rw [h] at hstate hall
  have hnotes : asked.filterMap (Condition.note? p.state) =
      (c.bind (Condition.note? p.state)).toList := by
    rw [hall b rfl]
    cases c with
    | none => rfl
    | some c =>
        rw [Option.toList_some, List.filterMap_cons, List.filterMap_nil, Option.bind_some]
        cases c.note? p.state <;> rfl
  rw [hnotes] at hstate
  refine ⟨hstate, ?_⟩
  cases c with
  | none =>
      cases h
      rfl
  | some c =>
      have hrng := e.rng_holds c p
      rwa [show (e.holds c).on p = (.ok b, q) from h] at hrng

/-- **What a refused move leaves behind**: the note of the condition that it asked, if there was one
and it left a note. -/
theorem Refusing.leaves (h : e.Refusing p m f q) :
    ∃ scene, e.scene? p.state.currentSceneId = some scene ∧
      q.state = p.state.noted (m.note? scene p.state).toList ∧ q.rng = p.rng := by
  unfold Move.note?
  cases h with
  | noExit hs hx => exact ⟨_, hs, by simp only [Move.condition?, hx]; rfl, rfl⟩
  | exitClosed hs hx hc =>
      refine ⟨_, hs, ?_⟩
      simp only [Move.condition?, hx]
      exact meets_leaves hc
  | noAction hs ha => exact ⟨_, hs, by simp only [Move.condition?, ha]; rfl, rfl⟩
  | actionClosed hs ha hc =>
      refine ⟨_, hs, ?_⟩
      simp only [Move.condition?, ha]
      exact meets_leaves hc

/-! ### What would happen at hooks -/

/-- **The engine with modules that do something else at hooks.** -/
def withHooks (e : Engine) (hooks : RuleModule → Json → HookContext → Generator → Resolution) :
    Engine :=
  { e with modules := e.modules.map fun m => { m with resolve := hooks m } }

variable (hooks : RuleModule → Json → HookContext → Generator → Resolution)

theorem meets_withHooks (e : Engine) (c : Option Condition) :
    (e.withHooks hooks).meets c = e.meets c := by
  have hanswer (c : Condition) (s : GameState) :
      (e.withHooks hooks).modules.answer c s = e.modules.answer c s := by
    rw [withHooks]
    induction e.modules with
    | nil => rfl
    | cons m ms ih => simp only [List.map_cons, Registry.answer, ih]
  have hconsult (c : Condition) : (e.withHooks hooks).consult c = e.consult c := by
    funext s
    rw [consult, consult, hanswer]
    rfl
  cases c with
  | none => rfl
  | some c =>
      simp only [meets, holds, hconsult]
      rfl

/-- **A move that is refused is refused whatever would happen at hooks**, with the same play. -/
theorem Refusing.withHooks (h : e.Refusing p m f q) : (e.withHooks hooks).Refusing p m f q := by
  cases h with
  | noExit hs hx => exact .noExit hs hx
  | exitClosed hs hx hc => exact .exitClosed hs hx (by rwa [meets_withHooks])
  | noAction hs ha => exact .noAction hs ha
  | actionClosed hs ha hc => exact .actionClosed hs ha (by rwa [meets_withHooks])

/-- **Moves that are refused change nothing.**  Take a move, from any state, that ends in one of the
faults by which moves are refused, and not in a fault of a module.  Then the generator is as it was,
and so is the state but for a note in its log.  The note is that of the condition of what the move
names, and there is one just if this condition is an expression that cannot be evaluated.  And no
hook has fired: the same comes of the move whatever the modules do at hooks. -/
theorem refused_moves_change_nothing (hf : f.isRefusal = true) (hown : ¬ e.modules.Raises f)
    (h : (m.turn e).on p = (.error f, q)) :
    ∃ scene, e.scene? p.state.currentSceneId = some scene ∧ q.rng = p.rng ∧
      q.state = p.state.noted (m.note? scene p.state).toList ∧
      ((m.note? scene p.state).isSome = true ↔
        ∃ text fault, m.condition? scene = some (.expression text) ∧
          Expression.evaluate p.state.scope text = .ok (.fault fault)) ∧
      ∀ hooks, (m.turn (e.withHooks hooks)).on p = (m.turn e).on p := by
  have hrefusing := refusing_of_on hf hown h
  obtain ⟨scene, hs, hstate, hrng⟩ := hrefusing.leaves
  refine ⟨scene, hs, hrng, hstate, Move.isSome_note?_iff, fun hooks => ?_⟩
  rw [h, (hrefusing.withHooks hooks).on]

/-- A move that is refused has ended in a fault. -/
theorem error_of_refuses (h : e.refuses m p = true) :
    ∃ f, (m.turn e).on p = (.error f, ((m.turn e).on p).2) ∧ f.isRefusal = true := by
  unfold refuses at h
  rcases hon : (m.turn e).on p with ⟨f | v, q⟩
  · rw [hon] at h
    exact ⟨f, rfl, h⟩
  · rw [hon] at h
    cases h

/-- The way into the chapel is closed to a traveller who has not met the keeper, and the door of the
hut is closed to everyone.  Only the condition of the door leaves a note. -/
theorem refused_moves_change_nothing_doors :
    let road := LanternRoad.engine
    let p := road.beginning LanternRoad.traveller LanternRoad.alone
    let chapel : Move := .leave (.label "Step into the chapel")
    let hut := Hut.engine
    let p' := Hut.afterLooks 0
    let door : Move := .leave (.label "Open the door")
    ∃ f q f' q', ((chapel.turn road).on p = (.error f, q) ∧ f.isRefusal = true ∧
        ¬ road.modules.Raises f) ∧
      q.rng = p.rng ∧ q.state = p.state ∧
      (∀ hooks, (chapel.turn (road.withHooks hooks)).on p = (.error f, q)) ∧
      ((door.turn hut).on p' = (.error f', q') ∧ f'.isRefusal = true ∧ ¬ hut.modules.Raises f') ∧
      q'.rng = p'.rng ∧ (∃ note, q'.state = p'.state.noted [note]) ∧
      ∀ hooks, (door.turn (hut.withHooks hooks)).on p' = (.error f', q') := by
  intro road p chapel hut p' door
  have hchapel : road.refuses chapel p = true := by decide +kernel
  have hdoor : hut.refuses door p' = true := by decide +kernel
  have hquiet : ((chapel.turn road).on p).2.state.history.length = p.state.history.length := by
    decide +kernel
  have hnoted : ((door.turn hut).on p').2.state.history.length = p'.state.history.length + 1 := by
    decide +kernel
  have hmodules : hut.modules = [] := by decide +kernel
  obtain ⟨f, hon, hf⟩ := error_of_refuses hchapel
  obtain ⟨f', hon', hf'⟩ := error_of_refuses hdoor
  have hown : ¬ road.modules.Raises f :=
    (LanternRoad.engine_failsOnly fun _ => False).not_raises id
  have hown' : ¬ hut.modules.Raises f' := by
    rintro ⟨m, hm, -⟩
    rw [hmodules] at hm
    cases hm
  obtain ⟨scene, -, hrng, hstate, -, hhooks⟩ := refused_moves_change_nothing hf hown hon
  obtain ⟨scene', -, hrng', hstate', -, hhooks'⟩ := refused_moves_change_nothing hf' hown' hon'
  refine ⟨f, _, f', _, ⟨hon, hf, hown⟩, hrng, ?_, fun hooks => (hhooks hooks).trans hon,
    ⟨hon', hf', hown'⟩, hrng', ?_, fun hooks => (hhooks' hooks).trans hon'⟩
  · rw [hstate, GameState.length_history_noted] at hquiet
    rw [hstate, GameState.noted_eq_self_iff, ← List.length_eq_zero_iff]
    omega
  · rw [hstate', GameState.length_history_noted] at hnoted
    obtain ⟨note, hnote⟩ := List.length_eq_one_iff.1 (Nat.add_left_cancel hnoted)
    exact ⟨note, by rw [hstate', hnote]⟩

end Engine

end Storyworld
