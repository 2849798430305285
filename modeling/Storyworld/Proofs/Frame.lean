/-
**What a turn of the engine can do to a play.**

Everything that the engine does to a play is made of a few small steps: the generator moves, a
condition is asked, a warning or an entry of the log is added, an effect changes the state, the
player is put into a scene, a session is put into the state.  So a relation between plays that holds
under the small steps, and leads from step to step, holds between the plays before and after any
turn of the engine, whether the turn gives a result or ends in a fault.

Looking at a play takes fewer kinds of steps than applying effects, and that fewer than moving.  A
relation is asked for no more than the turns that it is used for.  Nor need it hold whatever
condition is asked and whatever effect is applied: it is enough if it does for the conditions of the
scenes, and for the effects of their actions and of what the modules answer.  Most relations do for
every condition and every effect, and then nothing has to be known of the scenes and the modules.

Main definitions:

* `Storyworld.Scene.conditions` — the conditions that are asked in a scene;
* `Storyworld.WhileAsking`, `Storyworld.WhileActing`, `Storyworld.WhileMoving` — the small steps of
  looking, of applying effects and of moving, where conditions of a kind are asked and effects of a
  kind are applied;
* `Storyworld.UnderLooking`, `Storyworld.UnderEffects`, `Storyworld.UnderMoves` — the same, where
  any condition may be asked and any effect applied;
* `Storyworld.Indoors` — what happens between two plays within a scene.

Main results:

* `Storyworld.WhileAsking.keeps_view`, `Storyworld.UnderLooking.keeps_holds` — views and conditions;
* `Storyworld.WhileActing.keeps_applyAll`, `Storyworld.WhileActing.keeps_fireAll` — effects and
  hooks;
* `Storyworld.WhileMoving.keeps_enter`, `Storyworld.WhileMoving.keeps_leave`,
  `Storyworld.WhileMoving.keeps_act` — **moves**;
* `Storyworld.Indoors.underEffects` — effects, hooks and views happen within a scene.
-/

import Storyworld.Proofs.Hooks

set_option relaxedAutoImplicit false
set_option autoImplicit false

namespace Storyworld

variable {e : Engine} {R : Play → Play → Prop} {A : Condition → Prop} {B : Effect → Prop}

/-! ### Draws -/

/-- A relation that holds when no more than the generator changes, and leads from step to step. -/
structure UnderDraws (R : Play → Play → Prop) : Prop where
  refl : ∀ p, R p p
  trans : ∀ p q r, R p q → R q r → R p r
  drawn : ∀ p g, R p { p with rng := g }

namespace UnderDraws

variable {α β : Type}

theorem keeps_pure (h : UnderDraws R) (a : α) : (pure a : Turn α).Keeps R :=
  Turn.keeps_of_unchanged h.refl fun _ => rfl

theorem keeps_throw (h : UnderDraws R) (f : Fault) : (throw f : Turn α).Keeps R :=
  Turn.keeps_of_unchanged h.refl fun _ => rfl

theorem keeps_state (h : UnderDraws R) : Turn.state.Keeps R :=
  Turn.keeps_of_unchanged h.refl fun _ => rfl

theorem keeps_ofExcept (h : UnderDraws R) (r : Except Fault α) : (Turn.ofExcept r).Keeps R :=
  Turn.keeps_of_unchanged h.refl fun p => by rw [Turn.on_ofExcept]

theorem keeps_bind (h : UnderDraws R) {t : Turn α} {k : α → Turn β} (ht : t.Keeps R)
    (hk : ∀ a, (k a).Keeps R) : (t >>= k).Keeps R :=
  Turn.Keeps.bind h.trans ht hk

theorem keeps_forM (h : UnderDraws R) {k : α → Turn PUnit} {xs : List α}
    (hk : ∀ x ∈ xs, (k x).Keeps R) : (xs.forM k).Keeps R := by
  induction xs with
  | nil => exact h.keeps_pure _
  | cons x xs ih =>
      obtain ⟨hx, hxs⟩ := List.forall_mem_cons.1 hk
      exact h.keeps_bind hx fun _ => ih hxs

theorem keeps_draw (h : UnderDraws R) : Turn.draw.Keeps R := fun p => h.drawn p _

theorem keeps_drawVariant (h : UnderDraws R) (vs : List Variant) : (drawVariant vs).Keeps R := by
  refine h.keeps_bind h.keeps_draw fun x => ?_
  split
  · exact h.keeps_throw _
  · exact h.keeps_ofExcept _

theorem keeps_requireScene (h : UnderDraws R) (id : String) : (e.requireScene id).Keeps R := by
  unfold Engine.requireScene
  split
  · exact h.keeps_pure _
  · exact h.keeps_throw _

theorem keeps_withCopy (h : UnderDraws R) {t : Turn α} (ht : t.Keeps R) : t.withCopy.Keeps R :=
  fun p => h.trans p _ _ (ht p) (h.drawn _ _)

theorem keeps_ask (h : UnderDraws R) (scene : Scene) (action : Option Action) (hook : Hook) :
    (e.ask scene action hook).Keeps R := by
  intro p
  unfold Engine.ask
  rw [Turn.on_bind_ok (Turn.on_get p)]
  dsimp only
  rw [Turn.on_bind_ok (Turn.on_set _ _), Turn.on_ofExcept]
  exact h.drawn p _

/-- **Applying an effect**, where nothing is known but of the changes and warnings that come of
it. -/
theorem keeps_applyOne (h : UnderDraws R) {effect : Effect}
    (hchanged : ∀ p s w, effect.outcome e p.state = .ok (s, w) → R p { p with state := s })
    (hwarned : ∀ s t i, effect.outcome e s = .ok (t, some i) →
      ∀ p, R p { p with warnings := p.warnings ++ [i] })
    (happlied : ∀ p, R p (p.record .effect none none (some [("effect", .str effect.kind)]))) :
    (e.applyOne effect).Keeps R := by
  intro p
  unfold Engine.applyOne
  rw [Turn.on_bind_ok (Turn.on_state p)]
  -- the effect is tried on the state of the play, so the step needs its outcome there
  cases ho : effect.outcome e p.state with
  | error f =>
      rw [Turn.on_bind_error (Turn.on_ofExcept _ p)]
      exact h.refl p
  | ok out =>
      obtain ⟨s, w⟩ := out
      rw [Turn.on_bind_ok (Turn.on_ofExcept _ p), Turn.on_bind_ok (Turn.on_change _ p)]
      refine h.trans _ _ _ (hchanged p s w ho) ?_
      have hw : (w.forM Turn.warn).Keeps R := by
        cases w with
        | none => exact h.keeps_pure _
        | some i => exact hwarned p.state s i ho
      have hrecord : (Turn.record .effect none none
          (some [("effect", .str effect.kind)])).Keeps R := happlied
      exact h.keeps_bind hw (fun _ => hrecord) _

end UnderDraws

/-! ### Looking where conditions of a kind are asked -/

/-- The conditions on which the variants of a narrative depend. -/
def Narrative.conditions : Narrative → List Condition
  | .variants vs => vs.filterMap Variant.condition
  | _ => []

/-- **The conditions that are asked in a scene.** -/
def Scene.conditions (s : Scene) : List Condition :=
  s.narrative.conditions ++ s.exits.filterMap Exit.condition ++
    s.actions.filterMap Action.condition

/-- A relation that holds under draws, and when a condition of a kind is asked. -/
structure WhileAsking (e : Engine) (R : Play → Play → Prop) (A : Condition → Prop) : Prop extends
    UnderDraws R where
  answered : ∀ c, A c → (e.holds c).Keeps R

namespace WhileAsking

variable {α : Type}

theorem keeps_meets (h : WhileAsking e R A) {c : Option Condition} (hc : ∀ x, c = some x → A x) :
    (e.meets c).Keeps R := by
  cases c with
  | none => exact h.keeps_pure _
  | some c => exact h.answered c (hc c rfl)

theorem keeps_available (h : WhileAsking e R A) (condition : α → Option Condition) {xs : List α}
    (hxs : ∀ c ∈ xs.filterMap condition, A c) : (e.available condition xs).Keeps R := by
  induction xs with
  | nil => exact h.keeps_pure _
  | cons x xs ih =>
      have hx (c : Condition) (hc : condition x = some c) : A c :=
        hxs c (List.mem_filterMap.2 ⟨x, List.mem_cons_self, hc⟩)
      have hrest (c : Condition) (hc : c ∈ xs.filterMap condition) : A c := by
        obtain ⟨y, hy, hyc⟩ := List.mem_filterMap.1 hc
        exact hxs c (List.mem_filterMap.2 ⟨y, List.mem_cons_of_mem x hy, hyc⟩)
      exact h.keeps_bind (h.keeps_meets hx) fun _ => h.keeps_bind (ih hrest) fun _ =>
        h.keeps_pure _

theorem keeps_tell (h : WhileAsking e R A) {n : Narrative} (hn : ∀ c ∈ n.conditions, A c) :
    (e.tell n).Keeps R := by
  cases n with
  | plain text => exact h.keeps_pure _
  | localized ts => exact h.keeps_pure _
  | variants vs =>
      refine h.keeps_bind (h.keeps_available _ hn) fun candidates => ?_
      cases candidates with
      | nil => exact h.keeps_pure _
      | cons v rest => exact h.keeps_drawVariant _

/-- **The view of a scene.** -/
theorem keeps_view (h : WhileAsking e R A) {scene : Scene} (hs : ∀ c ∈ scene.conditions, A c)
    (overlays recent : List String) : (e.view scene overlays recent).Keeps R := by
  simp only [Scene.conditions, List.forall_mem_append] at hs
  obtain ⟨⟨hnarrative, hexits⟩, hactions⟩ := hs
  exact h.keeps_bind (h.keeps_tell hnarrative) fun _ =>
    h.keeps_bind (h.keeps_available _ hexits) fun _ =>
      h.keeps_bind (h.keeps_available _ hactions) fun _ => h.keeps_pure _

theorem keeps_look (h : WhileAsking e R A)
    (hs : ∀ id scene, e.scene? id = some scene → ∀ c ∈ scene.conditions, A c) :
    e.look.Keeps R := by
  refine h.keeps_bind h.keeps_state fun s => ?_
  refine (h.keeps_requireScene _).bind_gives h.trans (Engine.gives_requireScene e _) fun scene hid => ?_
  exact h.keeps_withCopy (h.keeps_view (hs _ scene hid) _ _)

end WhileAsking

/-! ### Looking -/

/-- A relation that holds under the steps of looking at a play: draws, warnings, and notes in the
log that something could not be evaluated. -/
structure UnderLooking (R : Play → Play → Prop) : Prop extends UnderDraws R where
  warned : ∀ p i, R p { p with warnings := p.warnings ++ [i] }
  noted : ∀ p data, R p (p.record .rule none none data)

namespace UnderLooking

variable {α : Type}

theorem keeps_warn (h : UnderLooking R) (i : Issue) : (Turn.warn i).Keeps R :=
  fun p => h.warned p i

theorem keeps_noteFault (h : UnderLooking R) (text : String) (f : Expression.Fault) :
    (noteFault text f).Keeps R :=
  h.keeps_bind (h.keeps_warn _) fun _ p => h.noted p _

/-- **Whether a condition holds.** -/
theorem keeps_holds (h : UnderLooking R) (c : Condition) : (e.holds c).Keeps R := by
  refine h.keeps_bind h.keeps_state fun s => ?_
  cases c with
  | expression text =>
      dsimp only
      split
      · exact h.keeps_throw _
      · exact h.keeps_pure _
      · exact h.keeps_bind (h.keeps_noteFault _ _) fun _ =>
          h.keeps_bind h.keeps_state fun _ => h.keeps_ofExcept _
  | custom type further => exact h.keeps_ofExcept _
  | _ => exact h.keeps_pure _

/-- Any condition may be asked. -/
theorem whileAsking (h : UnderLooking R) (e : Engine) : WhileAsking e R fun _ => True :=
  { h with answered := fun c _ => h.keeps_holds c }

theorem keeps_meets (h : UnderLooking R) (c : Option Condition) : (e.meets c).Keeps R :=
  (h.whileAsking e).keeps_meets fun _ _ => trivial

theorem keeps_available (h : UnderLooking R) (condition : α → Option Condition) (xs : List α) :
    (e.available condition xs).Keeps R :=
  (h.whileAsking e).keeps_available condition fun _ _ => trivial

theorem keeps_tellDocument (h : UnderLooking R) (j : Json) : (e.tellDocument j).Keeps R :=
  h.keeps_bind (h.keeps_ofExcept _) fun _ => (h.whileAsking e).keeps_tell fun _ _ => trivial

theorem keeps_overlay (h : UnderLooking R) (r : RuleResult) : (e.overlay r).Keeps R := by
  unfold Engine.overlay
  split
  · exact h.keeps_bind (h.keeps_tellDocument _) fun _ => h.keeps_pure _
  · exact h.keeps_pure _

theorem keeps_view (h : UnderLooking R) (scene : Scene) (overlays recent : List String) :
    (e.view scene overlays recent).Keeps R :=
  (h.whileAsking e).keeps_view (fun _ _ => trivial) overlays recent

theorem keeps_look (h : UnderLooking R) : e.look.Keeps R :=
  (h.whileAsking e).keeps_look fun _ _ _ _ _ => trivial

end UnderLooking

/-! ### Effects and hooks -/

/-- A relation that also holds when an effect of a kind is applied, and when what a module answered
is told, where the modules answer with effects of the kind. -/
structure WhileActing (e : Engine) (R : Play → Play → Prop) (A : Condition → Prop)
    (B : Effect → Prop) : Prop extends WhileAsking e R A where
  affected : ∀ effect, B effect → (e.applyOne effect).Keeps R
  told : e.modules.Always fun answer => ∀ r, answer = .ok (some r) →
    (∀ x ∈ r.effects, B x) ∧ (e.overlay r).Keeps R

namespace WhileActing

/-- **Applying effects** of the kind. -/
theorem keeps_applyAll (h : WhileActing e R A B) {effects : List Effect}
    (heffects : ∀ x ∈ effects, B x) : (e.applyAll effects).Keeps R :=
  h.keeps_bind (h.keeps_forM fun x hx => h.affected x (heffects x hx)) fun _ => h.keeps_pure _

/-- What the modules answer at a hook has effects of the kind, and can be told. -/
theorem gives_answer (h : WhileActing e R A B) (scene : Scene) (action : Option Action)
    (hook : Hook) : (e.ask scene action hook).Gives fun answer =>
      ∀ r, answer = some r → (∀ x ∈ r.effects, B x) ∧ (e.overlay r).Keeps R := by
  have hanswer := Engine.gives_answer h.told (fun _ hr => nomatch hr) scene action hook
  exact fun p q answer hr r hanswered => hanswer p q answer hr r (congrArg Except.ok hanswered)

theorem keeps_fire (h : WhileActing e R A B) (scene : Scene) (action : Option Action)
    (hook : Hook) : (e.fire scene action hook).Keeps R := by
  have hanswer := h.gives_answer scene action hook
  refine (h.keeps_ask scene action hook).bind_gives h.trans hanswer fun r hr => ?_
  cases r with
  | none => exact h.keeps_pure _
  | some r =>
      obtain ⟨heffects, htold⟩ := hr r rfl
      exact h.keeps_bind (h.keeps_applyAll heffects) fun _ =>
        h.keeps_bind htold fun _ => h.keeps_pure _

/-- **Hooks, one after the other.** -/
theorem keeps_fireAll (h : WhileActing e R A B) (scene : Scene) (action : Option Action)
    (hooks : List Hook) (target : Option String) (told : List String) :
    (e.fireAll scene action hooks target told).Keeps R := by
  induction hooks generalizing target told with
  | nil => exact h.keeps_pure _
  | cons hook rest ih => exact h.keeps_bind (h.keeps_fire scene action hook) fun _ => ih _ _

theorem keeps_fireSilently (h : WhileActing e R A B) (scene : Scene) (hooks : List Hook)
    (target : Option String) : (e.fireSilently scene hooks target).Keeps R := by
  induction hooks generalizing target with
  | nil => exact h.keeps_pure _
  | cons hook rest ih =>
      have hanswer := h.gives_answer scene none hook
      refine (h.keeps_ask scene none hook).bind_gives h.trans hanswer fun r hr => ?_
      cases r with
      | none => exact ih _
      | some r => exact h.keeps_bind (h.keeps_applyAll (hr r rfl).1) fun _ => ih _

theorem keeps_perform (h : WhileActing e R A B) (scene : Scene) {action : Action}
    (heffects : ∀ x ∈ action.effects, B x) : (e.perform scene action).Keeps R :=
  h.keeps_bind (h.keeps_applyAll heffects) fun _ => h.keeps_fireAll _ _ _ _ _

end WhileActing

/-- A relation that also holds under the steps of applying effects: a change of the state by an
effect, and its entry in the log. -/
structure UnderEffects (e : Engine) (R : Play → Play → Prop) : Prop extends UnderLooking R where
  changed : ∀ (p : Play) (effect : Effect) (s : GameState) (w : Option Issue),
    effect.outcome e p.state = .ok (s, w) → R p { p with state := s }
  applied : ∀ p data, R p (p.record .effect none none data)

namespace UnderEffects

theorem keeps_applyOne (h : UnderEffects e R) (effect : Effect) : (e.applyOne effect).Keeps R :=
  h.toUnderDraws.keeps_applyOne (fun p s w => h.changed p effect s w) (fun _ _ i _ p => h.warned p i)
    fun p => h.applied p _

/-- Any effect may be applied. -/
theorem whileActing (h : UnderEffects e R) : WhileActing e R (fun _ => True) fun _ => True :=
  { h.whileAsking e with
    affected := fun effect _ => h.keeps_applyOne effect
    told := fun _ _ _ _ r _ => ⟨fun _ _ => trivial, h.keeps_overlay r⟩ }

theorem keeps_fireAll (h : UnderEffects e R) (scene : Scene) (action : Option Action)
    (hooks : List Hook) (target : Option String) (told : List String) :
    (e.fireAll scene action hooks target told).Keeps R :=
  h.whileActing.keeps_fireAll scene action hooks target told

theorem keeps_fireSilently (h : UnderEffects e R) (scene : Scene) (hooks : List Hook)
    (target : Option String) : (e.fireSilently scene hooks target).Keeps R :=
  h.whileActing.keeps_fireSilently scene hooks target

theorem keeps_perform (h : UnderEffects e R) (scene : Scene) (action : Action) :
    (e.perform scene action).Keeps R := h.whileActing.keeps_perform scene fun _ _ => trivial

end UnderEffects

/-! ### Moves -/

/-- A relation that also holds when the player is put into a scene of the story, leaves a scene, or
makes a choice, where the conditions of the scenes of the story and the effects of their actions are
of the kinds. -/
structure WhileMoving (e : Engine) (R : Play → Play → Prop) (A : Condition → Prop)
    (B : Effect → Prop) : Prop extends WhileActing e R A B where
  asked : ∀ id scene, e.scene? id = some scene → ∀ c ∈ scene.conditions, A c
  taken : ∀ id scene, e.scene? id = some scene → ∀ a ∈ scene.actions, ∀ x ∈ a.effects, B x
  arrived : ∀ (p : Play) (scene : Scene) (id : String), e.scene? id = some scene →
    R p (p.arrive scene)
  departed : ∀ (p : Play) (scene : Scene), R p (p.depart scene)
  choseExit : ∀ (p : Play) (scene : Scene) (exit : Exit), R p (p.chooseExit scene exit)
  choseAction : ∀ (p : Play) (scene : Scene) (id : String), R p (p.chooseAction scene id)

namespace WhileMoving

theorem keeps_visit (h : WhileMoving e R A B) {scene : Scene} {id : String}
    (hs : e.scene? id = some scene) : (e.visit scene).Keeps R :=
  h.keeps_bind (fun p => h.arrived p scene id hs) fun _ => h.keeps_fireAll _ _ _ _ _

theorem keeps_enterWithin (h : WhileMoving e R A B) (hops : Nat) (chain : List String)
    (id : String) : (e.enterWithin hops chain id).Keeps R := by
  refine Turn.keeps_of_on fun p q r hend => ?_
  replace hend := e.entering_of_on hend
  induction hend with
  | missing => exact h.refl _
  | broken hs hv => exact (h.keeps_visit hs).of_on hv
  | stayed hs hv hr =>
      exact h.trans _ _ _ ((h.keeps_visit hs).of_on hv)
        ((h.keeps_view (h.asked _ _ hs) _ _).of_on hr)
  | looped hs hv => exact h.trans _ _ _ ((h.keeps_visit hs).of_on hv) (h.departed _ _)
  | wentOn hs hv _ ih =>
      exact h.trans _ _ _ ((h.keeps_visit hs).of_on hv) (h.trans _ _ _ (h.departed _ _) ih)

/-- **Entering a scene.** -/
theorem keeps_enter (h : WhileMoving e R A B) (id : String) : (e.enter id).Keeps R :=
  h.keeps_enterWithin _ _ _

/-- **Leaving through an exit**, where the condition of the exit that is named is of the kind. -/
theorem keeps_leave (h : WhileMoving e R A B) {ref : ExitRef}
    (href : ∀ id scene exit, e.scene? id = some scene → scene.exit? ref = some exit →
      ∀ c, exit.condition = some c → A c) : (e.leave ref).Keeps R := by
  refine Turn.keeps_of_on fun p q r hr => ?_
  cases e.leaving_of_on hr with
  | lost => exact h.refl p
  | noExit => exact h.refl p
  | undecided hs hx hc => exact (h.keeps_meets (href _ _ _ hs hx)).of_on hc
  | closed hs hx hc => exact (h.keeps_meets (href _ _ _ hs hx)).of_on hc
  | broken hs hx hc hf =>
      have hruled := h.trans _ _ _ (h.choseExit _ _ _) ((h.keeps_fireSilently _ _ _).of_on hf)
      exact h.trans _ _ _ ((h.keeps_meets (href _ _ _ hs hx)).of_on hc) hruled
  | left hs hx hc hf he =>
      have hruled := h.trans _ _ _ (h.choseExit _ _ _) ((h.keeps_fireSilently _ _ _).of_on hf)
      have hentered := h.trans _ _ _ (h.departed _ _) ((h.keeps_enter _).of_on he)
      exact h.trans _ _ _ ((h.keeps_meets (href _ _ _ hs hx)).of_on hc)
        (h.trans _ _ _ hruled hentered)

/-- The condition of an action of a scene is one of those that are asked there. -/
theorem asked_action (h : WhileMoving e R A B) {id actionId : String} {scene : Scene}
    {action : Action} (hs : e.scene? id = some scene) (ha : scene.action? actionId = some action) :
    ∀ c, action.condition = some c → A c := by
  intro c hc
  refine h.asked id scene hs c (List.mem_append_right _ (List.mem_filterMap.2 ⟨action, ?_, hc⟩))
  exact List.mem_of_find?_eq_some ha

/-- Its effects are effects that are applied there. -/
theorem taken_action (h : WhileMoving e R A B) {id actionId : String} {scene : Scene}
    {action : Action} (hs : e.scene? id = some scene) (ha : scene.action? actionId = some action) :
    ∀ x ∈ action.effects, B x :=
  h.taken id scene hs action (List.mem_of_find?_eq_some ha)

/-- **Taking an action.** -/
theorem keeps_act (h : WhileMoving e R A B) (id : String) : (e.act id).Keeps R := by
  refine Turn.keeps_of_on fun p q r hr => ?_
  cases e.acting_of_on hr with
  | lost => exact h.refl p
  | noAction => exact h.refl p
  | undecided hs ha hc => exact (h.keeps_meets (h.asked_action hs ha)).of_on hc
  | closed hs ha hc => exact (h.keeps_meets (h.asked_action hs ha)).of_on hc
  | broken hs ha hc hf =>
      have hperformed := (h.keeps_perform _ (h.taken_action hs ha)).of_on hf
      have hdone := h.trans _ _ _ (h.choseAction _ _ _) hperformed
      exact h.trans _ _ _ ((h.keeps_meets (h.asked_action hs ha)).of_on hc) hdone
  | stayed hs ha hc hf hv =>
      have hperformed := (h.keeps_perform _ (h.taken_action hs ha)).of_on hf
      have hdone := h.trans _ _ _ (h.choseAction _ _ _) hperformed
      have hseen := (h.keeps_view (h.asked _ _ hs) _ _).of_on hv
      exact h.trans _ _ _ ((h.keeps_meets (h.asked_action hs ha)).of_on hc)
        (h.trans _ _ _ hdone hseen)
  | left hs ha hc hf he =>
      have hperformed := (h.keeps_perform _ (h.taken_action hs ha)).of_on hf
      have hdone := h.trans _ _ _ (h.choseAction _ _ _) hperformed
      have hentered := h.trans _ _ _ (h.departed _ _) ((h.keeps_enter _).of_on he)
      exact h.trans _ _ _ ((h.keeps_meets (h.asked_action hs ha)).of_on hc)
        (h.trans _ _ _ hdone hentered)

end WhileMoving

/-- A relation that also holds under the steps of moving: the player is put into a scene of the
story, and entries of any kind are added to the log. -/
structure UnderMoves (e : Engine) (R : Play → Play → Prop) : Prop extends UnderEffects e R where
  moved : ∀ (p : Play) (scene : Scene) (id : String), e.scene? id = some scene →
    R p { p with state := { p.state.moveTo scene.locationId with currentSceneId := scene.id } }
  recorded : ∀ p kind sceneId actionId data, R p (p.record kind sceneId actionId data)

namespace UnderMoves

theorem whileMoving (h : UnderMoves e R) : WhileMoving e R (fun _ => True) fun _ => True :=
  { h.whileActing with
    asked := fun _ _ _ _ _ => trivial
    taken := fun _ _ _ _ _ _ _ => trivial
    arrived := fun p scene id hs => h.trans _ _ _ (h.moved p scene id hs) (h.recorded _ _ _ _ _)
    departed := fun p _ => h.recorded p _ _ _ _
    choseExit := fun p _ _ => h.recorded p _ _ _ _
    choseAction := fun p _ _ => h.recorded p _ _ _ _ }

theorem keeps_enter (h : UnderMoves e R) (id : String) : (e.enter id).Keeps R :=
  h.whileMoving.keeps_enter id

theorem keeps_leave (h : UnderMoves e R) (ref : ExitRef) : (e.leave ref).Keeps R :=
  h.whileMoving.keeps_leave fun _ _ _ _ _ _ _ => trivial

theorem keeps_act (h : UnderMoves e R) (id : String) : (e.act id).Keeps R :=
  h.whileMoving.keeps_act id

end UnderMoves

/-! ### What happens within a scene -/

/-- What happens between two plays within a scene: the player does not move, and the log grows only
by effects and notes. -/
structure Indoors (p q : Play) : Prop where
  place : q.state.currentSceneId = p.state.currentSceneId
  log : ∃ tail, q.state.history = p.state.history ++ tail ∧
    ∀ v ∈ tail, v.kind = .effect ∨ v.kind = .rule

namespace Indoors

/-- Plays whose states have the same log and the same scene. -/
theorem of_eq {p q : Play} (hplace : q.state.currentSceneId = p.state.currentSceneId)
    (hlog : q.state.history = p.state.history) : Indoors p q :=
  ⟨hplace, [], by rw [hlog, List.append_nil], fun _ h => by cases h⟩

theorem trans {p q r : Play} (h : Indoors p q) (h' : Indoors q r) : Indoors p r := by
  obtain ⟨hpq, t, ht, hkt⟩ := h
  obtain ⟨hqr, u, hu, hku⟩ := h'
  refine ⟨hqr.trans hpq, t ++ u, by rw [hu, ht, List.append_assoc], fun v hv => ?_⟩
  rcases List.mem_append.1 hv with hv | hv
  · exact hkt v hv
  · exact hku v hv

theorem recorded {kind : EventKind} (hk : kind = .effect ∨ kind = .rule) (p : Play)
    (sceneId actionId : Option String) (data : Option (Table Json)) :
    Indoors p (p.record kind sceneId actionId data) := by
  refine ⟨rfl, [_], rfl, fun v hv => ?_⟩
  rw [List.mem_singleton.1 hv]
  exact hk

/-- **Effects, hooks and views happen within a scene.** -/
theorem underEffects (e : Engine) : UnderEffects e Indoors where
  refl _ := of_eq rfl rfl
  trans _ _ _ := trans
  drawn _ _ := of_eq rfl rfl
  warned _ _ := of_eq rfl rfl
  noted p _ := recorded (.inr rfl) p _ _ _
  changed _ _ _ _ h :=
    of_eq (Effect.outcome_sameCourse h).currentSceneId (Effect.outcome_sameCourse h).history
  applied p _ := recorded (.inl rfl) p _ _ _

end Indoors

end Storyworld
