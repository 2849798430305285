/-
**What hooks, effects and views can come to.**

Rule modules are strangers to the engine: nothing is known of them but what is assumed.  Here an
assumption on what the modules of an engine answer is carried through conditions, hooks, effects and
views to the faults in which these end and to the teleports that they ask for.  Everything else that
can go wrong in them is a value of no use: none of the faults that belong to the game comes from
there.

Main definitions:

* `Storyworld.Registry.Always` — what every module of a registry answers at a hook is of a kind;
* `Storyworld.Registry.FailsOnly` — **the faults of the modules of a registry are of a kind**;
* `Storyworld.OfValues` — a kind of faults that includes all faults of values;
* `Storyworld.Play.noteFault` — a play in which the fault of an expression has been noted.

Main results:

* `Storyworld.Registry.always_resolve` — what the modules answer at a hook;
* `Storyworld.Engine.failsOnly_holds` — **the faults of conditions**;
* `Storyworld.Engine.failsOnly_view`, `Storyworld.Engine.failsOnly_visit`,
  `Storyworld.Engine.failsOnly_perform` — **the faults of views, of visits and of actions**;
* `Storyworld.Engine.gives_visit`, `Storyworld.Engine.gives_perform` — where they teleport to.
-/

import Storyworld.Proofs.Effects
import Storyworld.Proofs.Moves

set_option relaxedAutoImplicit false
set_option autoImplicit false

namespace Storyworld

/-! ### Modules -/

namespace Registry

/-- Every answer of every module of a registry is of a kind, whatever the hook and the generator. -/
def Always (ms : Registry) (P : Except Fault (Option RuleResult) → Prop) : Prop :=
  ∀ m ∈ ms, ∀ context g, P (m.resolve m.settings context g).1

/-- **The faults of the modules of a registry are of a kind**, when they are asked whether a condition
holds and at hooks. -/
structure FailsOnly (ms : Registry) (F : Fault → Prop) : Prop where
  answers : ∀ m ∈ ms, ∀ c s f, m.answer m.settings c s = .error f → F f
  hooks : ms.Always fun answer => ∀ f, answer = .error f → F f

theorem FailsOnly.mono {ms : Registry} {F G : Fault → Prop} (h : ms.FailsOnly F)
    (hsub : ∀ f, F f → G f) : ms.FailsOnly G where
  answers m hm c s f hf := hsub f (h.answers m hm c s f hf)
  hooks m hm context g f hf := hsub f (h.hooks m hm context g f hf)

/-- The fault of an answer is that of a module. -/
theorem exists_of_answer_error {ms : Registry} {c : Condition} {s : GameState} {f : Fault}
    (h : ms.answer c s = .error f) : ∃ m ∈ ms, m.answer m.settings c s = .error f := by
  induction ms with
  | nil => cases h
  | cons m ms ih =>
      rw [answer] at h
      split at h
      · next g hg =>
        cases h
        exact ⟨m, List.mem_cons_self, hg⟩
      · cases h
      · obtain ⟨n, hn, hf⟩ := ih h
        exact ⟨n, List.mem_cons_of_mem m hn, hf⟩

theorem FailsOnly.of_answer {ms : Registry} {F : Fault → Prop} (h : ms.FailsOnly F) {c : Condition}
    {s : GameState} {f : Fault} (hf : ms.answer c s = .error f) : F f := by
  obtain ⟨m, hm, hanswer⟩ := exists_of_answer_error hf
  exact h.answers m hm c s f hanswer

variable {ms : Registry} {P : Except Fault (Option RuleResult) → Prop}

theorem Always.ask (h : ms.Always P) {m : RuleModule} (hm : m ∈ ms) (context : HookContext)
    (g : Option Generator) : P (m.ask context g).1 := by
  cases g with
  | none => exact h m hm context _
  | some g => exact h m hm context g

theorem Always.firstHandled (hnone : P (.ok none)) (context : HookContext) :
    ∀ {ms : Registry}, ms.Always P → ∀ g, P (firstHandled context ms g).1 := by
  intro ms
  induction ms with
  | nil => intro _ g; exact hnone
  | cons m ms ih =>
      intro h g
      -- a module that is silent leaves the generator in any state to the next one
      have hrest : Always ms P := fun n hn => h n (List.mem_cons_of_mem m hn)
      have hm := h.ask (List.mem_cons_self) context g
      rcases ha : m.ask context g with ⟨f | r, g'⟩
      · simp only [Registry.firstHandled, ha]
        rwa [ha] at hm
      · rw [ha] at hm
        cases r with
        | none =>
            simp only [Registry.firstHandled, ha]
            exact ih hrest g'
        | some r =>
            simp only [Registry.firstHandled, ha]
            split
            · exact hm
            · exact ih hrest g'

/-- **What the modules answer at a hook**, where to be silent is an answer of the kind as well. -/
theorem always_resolve (h : ms.Always P) (hnone : P (.ok none)) (context : HookContext)
    (g : Option Generator) : P (ms.resolve context g).1 := by
  unfold resolve
  split
  · split
    · exact h.firstHandled hnone context g
    · split
      · next hm => exact h.ask (List.mem_of_find?_eq_some hm) context g
      · exact hnone
  · exact h.firstHandled hnone context g

end Registry

/-! ### Faults of values -/

/-- A kind of faults that includes all faults of values. -/
def OfValues (F : Fault → Prop) : Prop := ∀ f, f.isOfGame = false → F f

variable {F : Fault → Prop} {e : Engine}

theorem fit_error {shape : Schema.Shape} {j : Json} {f : Fault} (h : fit shape j = .error f) :
    f.isOfGame = false := by
  unfold fit at h
  split at h <;> cases h <;> rfl

theorem Narrative.read_error {j : Json} {f : Fault} (h : Narrative.read j = .error f) :
    f.isOfGame = false := by
  unfold Narrative.read at h
  split at h
  · split at h
    · cases h
    · split at h
      · exact fit_error (map_eq_error h)
      · cases h; rfl
    · cases h; rfl
    · cases h; rfl
  · cases h

theorem pickVariant_error {point : Double} {fallback : String} {vs : List Variant} {f : Fault}
    (h : pickVariant point fallback vs = .error f) : f = .tooLarge := by
  induction vs generalizing point fallback with
  | nil => cases h
  | cons v rest ih =>
      unfold pickVariant at h
      split at h
      · cases h; rfl
      · split at h
        · cases h
        · exact ih h

/-! ### What ends in a fault -/

namespace Turn

variable {α : Type}

theorem failsOnly_pure (a : α) : (pure a : Turn α).FailsOnly F :=
  failsOnly_of_ok fun _ => ⟨a, rfl⟩

theorem failsOnly_state : state.FailsOnly F := failsOnly_of_ok fun _ => ⟨_, rfl⟩

theorem failsOnly_warn (i : Issue) : (warn i).FailsOnly F := failsOnly_of_ok fun _ => ⟨_, rfl⟩

theorem failsOnly_record (kind : EventKind) (sceneId actionId : Option String)
    (data : Option (Table Json)) : (record kind sceneId actionId data).FailsOnly F :=
  failsOnly_of_ok fun _ => ⟨_, rfl⟩

end Turn

/-- A play in which it has been noted that an expression could not be evaluated. -/
def Play.noteFault (p : Play) (text : String) (f : Expression.Fault) : Play :=
  { p with warnings := p.warnings ++ [Issue.warning "/runtime/conditions/expression"
      s!"Expression parse warning: {f.message}"] }.record .rule none none
    (some [("kind", .str "expression"), ("error", .str f.message), ("expr", .str text)])

namespace Engine

/-- The modules are asked after the note has been left. -/
theorem on_consult_noted (e : Engine) (c : Condition) (text : String) (f : Expression.Fault)
    (p : Play) : (do noteFault text f; .ofExcept (e.consult c (← Turn.state)) : Turn Bool).on p =
      (e.consult c (p.noteFault text f).state, p.noteFault text f) := by
  have hnoted : (noteFault text f).on p = (.ok (), p.noteFault text f) := rfl
  rw [Turn.on_bind_ok hnoted, Turn.on_bind_ok (Turn.on_state _), Turn.on_ofExcept]

/-- The modules are only asked if the engine consults them. -/
theorem consult_error {c : Condition} {s : GameState} {f : Fault} (h : e.consult c s = .error f) :
    e.modules.answer c s = .error f := by
  unfold consult at h
  split at h
  · exact map_eq_error h
  · cases h

theorem failsOnly_consult (hm : e.modules.FailsOnly F) (c : Condition) (s : GameState) :
    (Turn.ofExcept (e.consult c s)).FailsOnly F :=
  Turn.failsOnly_ofExcept fun _ hf => hm.of_answer (consult_error hf)

section Conditions

variable (hF : OfValues F) (hm : e.modules.FailsOnly F)

include hF hm

/-- **The faults of a condition are those of the modules and of values.** -/
theorem failsOnly_holds (c : Condition) : (e.holds c).FailsOnly F := by
  refine Turn.failsOnly_state.bind fun s => ?_
  cases c with
  | expression text =>
      dsimp only
      split
      · exact Turn.failsOnly_throw (hF _ rfl)
      · exact Turn.failsOnly_pure _
      · next f _ =>
        have hnote : (noteFault text f).FailsOnly F :=
          (Turn.failsOnly_warn _).bind fun _ => Turn.failsOnly_record _ _ _ _
        exact hnote.bind fun _ => Turn.failsOnly_state.bind fun _ => failsOnly_consult hm _ _
  | custom type further => exact failsOnly_consult hm _ _
  | _ => exact Turn.failsOnly_pure _

theorem failsOnly_meets (c : Option Condition) : (e.meets c).FailsOnly F := by
  cases c with
  | none => exact Turn.failsOnly_pure _
  | some c => exact failsOnly_holds hF hm c

theorem failsOnly_available {α : Type} (condition : α → Option Condition) (xs : List α) :
    (e.available condition xs).FailsOnly F := by
  induction xs with
  | nil => exact Turn.failsOnly_pure _
  | cons x xs ih =>
      exact (failsOnly_meets hF hm _).bind fun _ => ih.bind fun _ => Turn.failsOnly_pure _

end Conditions

theorem failsOnly_drawVariant (hF : OfValues F) (vs : List Variant) :
    (drawVariant vs).FailsOnly F := by
  have hdraw : Turn.draw.FailsOnly F := Turn.failsOnly_of_ok fun _ => ⟨_, rfl⟩
  refine hdraw.bind fun x => ?_
  split
  · exact Turn.failsOnly_throw (hF _ rfl)
  · refine Turn.failsOnly_ofExcept fun f hf => ?_
    rw [pickVariant_error hf]
    exact hF _ rfl

theorem failsOnly_tell (hF : OfValues F) (hm : e.modules.FailsOnly F) (n : Narrative) :
    (e.tell n).FailsOnly F := by
  cases n with
  | plain text => exact Turn.failsOnly_pure _
  | localized ts => exact Turn.failsOnly_pure _
  | variants vs =>
      refine (failsOnly_available hF hm _ _).bind fun candidates => ?_
      cases candidates with
      | nil => exact Turn.failsOnly_pure _
      | cons v rest => exact failsOnly_drawVariant hF _

/-- **The faults of the view of a scene** are those of conditions. -/
theorem failsOnly_view (hF : OfValues F) (hm : e.modules.FailsOnly F) (scene : Scene)
    (overlays recent : List String) : (e.view scene overlays recent).FailsOnly F :=
  (failsOnly_tell hF hm _).bind fun _ => (failsOnly_available hF hm _ _).bind fun _ =>
    (failsOnly_available hF hm _ _).bind fun _ => Turn.failsOnly_pure _

theorem failsOnly_applyOne (hF : OfValues F) (effect : Effect) :
    (e.applyOne effect).FailsOnly F := by
  refine Turn.failsOnly_state.bind fun s => ?_
  refine Turn.FailsOnly.bind (Turn.failsOnly_ofExcept fun f hf => ?_) fun out => ?_
  · rw [Effect.outcome_error hf]
    exact hF _ rfl
  · have hchange : (Turn.change fun _ => out.1).FailsOnly F :=
      Turn.failsOnly_of_ok fun _ => ⟨_, rfl⟩
    have hwarn : (out.2.forM Turn.warn).FailsOnly F := by
      cases out.2 with
      | none => exact Turn.failsOnly_pure _
      | some i => exact Turn.failsOnly_warn i
    exact hchange.bind fun _ => hwarn.bind fun _ => Turn.failsOnly_record _ _ _ _

theorem failsOnly_applyAll (hF : OfValues F) (effects : List Effect) :
    (e.applyAll effects).FailsOnly F := by
  have hall : (effects.forM e.applyOne).FailsOnly F := by
    induction effects with
    | nil => exact Turn.failsOnly_pure _
    | cons x xs ih => exact (failsOnly_applyOne hF x).bind fun _ => ih
  exact hall.bind fun _ => Turn.failsOnly_pure _

/-- What an engine does at a hook is what its modules answer. -/
theorem on_ask (scene : Scene) (action : Option Action) (hook : Hook) (p : Play) :
    ((e.ask scene action hook).on p).1 =
      (e.modules.resolve ⟨p.state, scene, action, some hook⟩ (some p.rng)).1 := by
  unfold ask
  rw [Turn.on_bind_ok (Turn.on_get p)]
  dsimp only
  rw [Turn.on_bind_ok (Turn.on_set _ _), Turn.on_ofExcept]

theorem failsOnly_ask (hm : e.modules.FailsOnly F) (scene : Scene) (action : Option Action)
    (hook : Hook) : (e.ask scene action hook).FailsOnly F := by
  intro p q f hf
  have hans := on_ask (e := e) scene action hook p
  rw [hf] at hans
  exact Registry.always_resolve hm.hooks (fun _ h => by cases h) _ _ f hans.symm

theorem failsOnly_overlay (hF : OfValues F) (hm : e.modules.FailsOnly F) (r : RuleResult) :
    (e.overlay r).FailsOnly F := by
  unfold overlay
  split
  · have htell : (e.tellDocument r.narrative).FailsOnly F := by
      refine Turn.FailsOnly.bind (Turn.failsOnly_ofExcept fun f hf => ?_) fun n =>
        failsOnly_tell hF hm n
      exact hF _ (Narrative.read_error hf)
    exact htell.bind fun _ => Turn.failsOnly_pure _
  · exact Turn.failsOnly_pure _

theorem failsOnly_fireAll (hF : OfValues F) (hm : e.modules.FailsOnly F) (scene : Scene)
    (action : Option Action) (hooks : List Hook) (target : Option String) (told : List String) :
    (e.fireAll scene action hooks target told).FailsOnly F := by
  induction hooks generalizing target told with
  | nil => exact Turn.failsOnly_pure _
  | cons hook rest ih =>
      have hfire : (e.fire scene action hook).FailsOnly F := by
        refine (failsOnly_ask hm scene action hook).bind fun r => ?_
        cases r with
        | none => exact Turn.failsOnly_pure _
        | some r =>
            exact (failsOnly_applyAll hF _).bind fun _ =>
              (failsOnly_overlay hF hm r).bind fun _ => Turn.failsOnly_pure _
      exact hfire.bind fun _ => ih _ _

theorem failsOnly_fireSilently (hF : OfValues F) (hm : e.modules.FailsOnly F) (scene : Scene)
    (hooks : List Hook) (target : Option String) :
    (e.fireSilently scene hooks target).FailsOnly F := by
  induction hooks generalizing target with
  | nil => exact Turn.failsOnly_pure _
  | cons hook rest ih =>
      refine (failsOnly_ask hm scene none hook).bind fun r => ?_
      cases r with
      | none => exact ih _
      | some r => exact (failsOnly_applyAll hF _).bind fun _ => ih _

/-- **The faults of a visit are those of the modules and of values.** -/
theorem failsOnly_visit (hF : OfValues F) (hm : e.modules.FailsOnly F) (scene : Scene) :
    (e.visit scene).FailsOnly F := by
  have harrive : (arrive scene).FailsOnly F := Turn.failsOnly_of_ok fun _ => ⟨_, rfl⟩
  exact harrive.bind fun _ => failsOnly_fireAll hF hm _ _ _ _ _

/-- **The faults of entering** are that there is no such scene, that a chain is too long, and those
of visits. -/
theorem failsOnly_enterWithin (hF : OfValues F) (hm : e.modules.FailsOnly F)
    (hscene : ∀ id, e.scene? id = none → F (.sceneNotFound id))
    (hloop : ∀ chain, F (.teleportLoop chain e.maxHops)) (hops : Nat) (chain : List String)
    (id : String) : (e.enterWithin hops chain id).FailsOnly F := by
  intro p q f hend
  replace hend := e.entering_of_on hend
  generalize hr : (Except.error f : Except Fault SceneView) = r at hend
  induction hend with
  | missing hs =>
      cases hr
      exact hscene _ hs
  | broken hs hv =>
      cases hr
      exact failsOnly_visit hF hm _ _ _ _ hv
  | stayed hs hv hview =>
      subst hr
      exact failsOnly_view hF hm _ _ _ _ _ _ hview
  | looped =>
      cases hr
      exact hloop _
  | wentOn hs hv _ ih => exact ih hr

theorem failsOnly_perform (hF : OfValues F) (hm : e.modules.FailsOnly F) (scene : Scene)
    (action : Action) : (e.perform scene action).FailsOnly F :=
  (failsOnly_applyAll hF _).bind fun _ => failsOnly_fireAll hF hm _ _ _ _ _

end Engine

/-! ### Where hooks teleport to -/

/-- The effects of the modules teleport only to scenes of a kind. -/
def Registry.LeadInto (ms : Registry) (K : String → Prop) : Prop :=
  ms.Always fun answer =>
    ∀ r, answer = .ok (some r) → ∀ x ∈ r.effects, ∀ t, x.target? = some t → K t

variable {K : String → Prop}

theorem lastTarget_of_all {effects : List Effect}
    (h : ∀ x ∈ effects, ∀ t, x.target? = some t → K t) :
    ∀ t, lastTarget? effects = some t → K t := by
  intro t ht
  obtain ⟨x, hx, hxt⟩ := List.mem_filterMap.1 (List.mem_of_getLast? ht)
  exact h x hx t hxt

theorem laterTarget_of {before after : Option String} (hb : ∀ t, before = some t → K t)
    (ha : ∀ t, after = some t → K t) : ∀ t, laterTarget before after = some t → K t := by
  intro t ht
  unfold laterTarget at ht
  split at ht
  · split at ht
    · exact hb t ht
    · exact ha t ht
  · exact hb t ht

namespace Engine

theorem gives_applyAll {effects : List Effect}
    (h : ∀ x ∈ effects, ∀ t, x.target? = some t → K t) :
    (e.applyAll effects).Gives fun target => ∀ t, target = some t → K t :=
  (Turn.gives_true _).bind fun _ _ => Turn.gives_pure (lastTarget_of_all h)

/-- What an engine is told at a hook is what its modules answer. -/
theorem gives_answer {P : Except Fault (Option RuleResult) → Prop} (hm : e.modules.Always P)
    (hnone : P (.ok none)) (scene : Scene) (action : Option Action) (hook : Hook) :
    (e.ask scene action hook).Gives fun answer => P (.ok answer) := by
  intro p q answer ha
  have hans := on_ask (e := e) scene action hook p
  rw [ha] at hans
  dsimp only at hans
  rw [hans]
  exact Registry.always_resolve hm hnone _ _

theorem gives_ask (hm : e.modules.LeadInto K) (scene : Scene) (action : Option Action)
    (hook : Hook) : (e.ask scene action hook).Gives fun answer =>
      ∀ r, answer = some r → ∀ x ∈ r.effects, ∀ t, x.target? = some t → K t := by
  intro p q answer ha r hr
  exact gives_answer hm (fun _ h => by cases h) scene action hook p q answer ha r (congrArg _ hr)

theorem gives_fire (hm : e.modules.LeadInto K) (scene : Scene) (action : Option Action)
    (hook : Hook) : (e.fire scene action hook).Gives fun out => ∀ t, out.1 = some t → K t := by
  refine (gives_ask hm scene action hook).bind fun r hr => ?_
  cases r with
  | none => exact Turn.gives_pure fun _ h => by cases h
  | some r =>
      exact (gives_applyAll (hr r rfl)).bind fun _ hnext =>
        (Turn.gives_true _).bind fun _ _ => Turn.gives_pure hnext

theorem gives_fireAll (hm : e.modules.LeadInto K) (scene : Scene) (action : Option Action)
    (hooks : List Hook) {target : Option String} (told : List String)
    (ht : ∀ t, target = some t → K t) :
    (e.fireAll scene action hooks target told).Gives fun out => ∀ t, out.1 = some t → K t := by
  induction hooks generalizing target told with
  | nil => exact Turn.gives_pure ht
  | cons hook rest ih =>
      exact (gives_fire hm scene action hook).bind fun _ hnext => ih _ (laterTarget_of ht hnext)

theorem gives_fireSilently (hm : e.modules.LeadInto K) (scene : Scene) (hooks : List Hook)
    {target : Option String} (ht : ∀ t, target = some t → K t) :
    (e.fireSilently scene hooks target).Gives fun out => ∀ t, out = some t → K t := by
  induction hooks generalizing target with
  | nil => exact Turn.gives_pure ht
  | cons hook rest ih =>
      refine (gives_ask hm scene none hook).bind fun r hr => ?_
      cases r with
      | none => exact ih ht
      | some r =>
          exact (gives_applyAll (hr r rfl)).bind fun _ hnext => ih (laterTarget_of ht hnext)

theorem gives_visit (hm : e.modules.LeadInto K) (scene : Scene) :
    (e.visit scene).Gives fun out => ∀ t, out.1 = some t → K t :=
  (Turn.gives_true _).bind fun _ _ => gives_fireAll hm _ _ _ _ fun _ h => by cases h

theorem gives_requireScene (e : Engine) (id : String) :
    (e.requireScene id).Gives fun scene => e.scene? id = some scene := by
  intro p q scene h
  cases hs : e.scene? id with
  | none => rw [on_requireScene_none hs] at h; cases h
  | some s => rw [on_requireScene_some hs] at h; cases h; rfl

theorem gives_view (e : Engine) (scene : Scene) (overlays recent : List String) :
    (e.view scene overlays recent).Gives fun v => v.sceneId = scene.id :=
  (Turn.gives_true _).bind fun _ _ => (Turn.gives_true _).bind fun _ _ =>
    (Turn.gives_true _).bind fun _ _ => Turn.gives_pure rfl

/-- **Where an action teleports to**: where one of its own effects or a hook does. -/
theorem gives_perform (hm : e.modules.LeadInto K) (scene : Scene) {action : Action}
    (ha : ∀ x ∈ action.effects, ∀ t, x.target? = some t → K t) :
    (e.perform scene action).Gives fun out => ∀ t, out.1 = some t → K t :=
  (gives_applyAll ha).bind fun _ hown =>
    gives_fireAll hm _ _ _ _ (laterTarget_of (fun _ h => by cases h) hown)

end Engine

end Storyworld
