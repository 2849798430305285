/-
**Two games in lockstep.**

Two plays are alike when they have the same generator and their states stand in a relation; the log
of warnings does not matter, because nothing reads it.  Two turns run in lockstep when from plays
that are alike they give the same result, or end in the same fault, and leave plays that are alike.

What the engine does is made of few kinds of parts: conditions are asked, effects and entries of the
log change the state, the player is put into a scene, and the modules are asked at hooks.  So a
relation between states that each of these parts respects is respected by every view and every
move.  The two plays may be on two engines, as long as their parts run in lockstep.

Main definitions:

* `Storyworld.Play.Like`, `Storyworld.Turn.Alike` — plays that are alike, and turns in lockstep;
* `Storyworld.Lockstep` — the parts of two engines run in lockstep.

Main results:

* `Storyworld.Turn.Alike.bind` — **from the parts of a turn to the whole**;
* `Storyworld.Lockstep.alike_view`, `Storyworld.Lockstep.alike_look` — views;
* `Storyworld.Lockstep.alike_enter`, `Storyworld.Lockstep.alike_leave`,
  `Storyworld.Lockstep.alike_act` — moves;
* `Storyworld.lockstep_self` — **an engine runs in lockstep with itself**, whatever the warnings.
-/

import Storyworld.Proofs.Moves
import Storyworld.Session.Voting

set_option relaxedAutoImplicit false
set_option autoImplicit false

namespace Storyworld

variable {S : GameState → GameState → Prop} {α β : Type}

/-! ### Plays that are alike -/

/-- Two plays with one generator whose states stand in a relation. -/
structure Play.Like (S : GameState → GameState → Prop) (p q : Play) : Prop where
  rng : q.rng = p.rng
  state : S p.state q.state

namespace Turn

/-- Two turns run in lockstep. -/
def Alike (S : GameState → GameState → Prop) (t u : Turn α) : Prop :=
  ∀ p q, p.Like S q → (u.on q).1 = (t.on p).1 ∧ (t.on p).2.Like S (u.on q).2

theorem alike_pure (a : α) : (pure a : Turn α).Alike S (pure a) := fun _ _ h => ⟨rfl, h⟩

theorem alike_throw (f : Fault) : (throw f : Turn α).Alike S (throw f) := fun _ _ h => ⟨rfl, h⟩

theorem alike_ofExcept (r : Except Fault α) : (ofExcept r).Alike S (ofExcept r) := by
  intro p q h
  rw [on_ofExcept, on_ofExcept]
  exact ⟨rfl, h⟩

theorem alike_warn (i : Issue) : (warn i).Alike S (warn i) := fun _ _ h => ⟨rfl, h.rng, h.state⟩

theorem alike_draw : draw.Alike S draw := by
  intro p q h
  rw [on_draw, on_draw, h.rng]
  exact ⟨rfl, rfl, h.state⟩

/-- **Turns whose parts run in lockstep run in lockstep.** -/
theorem Alike.bind {t u : Turn α} {k l : α → Turn β} (h : t.Alike S u)
    (hk : ∀ a, (k a).Alike S (l a)) : (t >>= k).Alike S (u >>= l) := by
  intro p q hpq
  obtain ⟨hres, hlike⟩ := h p q hpq
  rcases ht : t.on p with ⟨f | a, p'⟩
  · rcases hu : u.on q with ⟨r, q'⟩
    rw [ht, hu] at hres hlike
    cases hres
    rw [on_bind_error ht, on_bind_error hu]
    exact ⟨rfl, hlike⟩
  · rcases hu : u.on q with ⟨r, q'⟩
    rw [ht, hu] at hres hlike
    cases hres
    rw [on_bind_ok ht, on_bind_ok hu]
    exact hk a p' q' hlike

/-- The states that two plays have are not the same, but stand in the relation. -/
theorem alike_state_bind {k l : GameState → Turn β}
    (hk : ∀ s s', S s s' → (k s).Alike S (l s')) : (state >>= k).Alike S (state >>= l) := by
  intro p q h
  rw [on_bind_ok (on_state p), on_bind_ok (on_state q)]
  exact hk _ _ h.state p q h

theorem Alike.withCopy {t u : Turn α} (h : t.Alike S u) : t.withCopy.Alike S u.withCopy := by
  intro p q hpq
  obtain ⟨hres, hlike⟩ := h p q hpq
  exact ⟨hres, hpq.rng, hlike.state⟩

theorem alike_drawVariant (vs : List Variant) : (drawVariant vs).Alike S (drawVariant vs) := by
  refine alike_draw.bind fun x => ?_
  split
  · exact alike_throw _
  · exact alike_ofExcept _

end Turn

/-! ### Engines whose parts run in lockstep -/

/-- **The parts of two engines run in lockstep** on states in a relation. -/
structure Lockstep (e e' : Engine) (S : GameState → GameState → Prop) : Prop where
  scene : ∀ id, e'.scene? id = e.scene? id
  locale : e'.locale = e.locale
  maxHops : e'.maxHops = e.maxHops
  place : ∀ s s', S s s' → s'.currentSceneId = s.currentSceneId
  recorded : ∀ s s', S s s' → ∀ kind sceneId actionId data,
    S (s.record kind sceneId actionId data) (s'.record kind sceneId actionId data)
  moved : ∀ s s', S s s' → ∀ scene : Scene,
    S { s.moveTo scene.locationId with currentSceneId := scene.id }
      { s'.moveTo scene.locationId with currentSceneId := scene.id }
  /-- an effect fails on both states, or changes both and gives the same warning -/
  affected : ∀ s s', S s s' → ∀ effect : Effect,
    (∃ f, effect.outcome e s = .error f ∧ effect.outcome e' s' = .error f) ∨
      ∃ t t' w, effect.outcome e s = .ok (t, w) ∧ effect.outcome e' s' = .ok (t', w) ∧ S t t'
  answered : ∀ c, (e.holds c).Alike S (e'.holds c)
  asked : ∀ s s', S s s' → ∀ scene action hook g,
    e'.modules.resolve ⟨s', scene, action, hook⟩ g = e.modules.resolve ⟨s, scene, action, hook⟩ g

namespace Lockstep

variable {e e' : Engine} (h : Lockstep e e' S)

include h

/-! ### Looking -/

theorem alike_record (kind : EventKind) (sceneId actionId : Option String)
    (data : Option (Table Json)) : (Turn.record kind sceneId actionId data).Alike S
      (Turn.record kind sceneId actionId data) :=
  fun _ _ hpq => ⟨rfl, hpq.rng, h.recorded _ _ hpq.state _ _ _ _⟩

theorem alike_meets (c : Option Condition) : (e.meets c).Alike S (e'.meets c) := by
  cases c with
  | none => exact Turn.alike_pure true
  | some c => exact h.answered c

theorem alike_available (condition : α → Option Condition) (xs : List α) :
    (e.available condition xs).Alike S (e'.available condition xs) := by
  induction xs with
  | nil => exact Turn.alike_pure _
  | cons x xs ih =>
      exact (h.alike_meets _).bind fun _ => ih.bind fun _ => Turn.alike_pure _

theorem alike_tell (n : Narrative) : (e.tell n).Alike S (e'.tell n) := by
  cases n with
  | plain text => exact Turn.alike_pure text
  | localized ts =>
      have htext : e'.translation ts = e.translation ts := by
        simp only [Engine.translation, h.locale]
      simp only [Engine.tell, htext]
      exact Turn.alike_pure _
  | variants vs =>
      refine (h.alike_available _ _).bind fun candidates => ?_
      cases candidates with
      | nil => exact Turn.alike_pure _
      | cons v rest => exact Turn.alike_drawVariant _

theorem alike_tellDocument (j : Json) : (e.tellDocument j).Alike S (e'.tellDocument j) :=
  (Turn.alike_ofExcept _).bind fun n => h.alike_tell n

theorem alike_requireScene (id : String) : (e.requireScene id).Alike S (e'.requireScene id) := by
  unfold Engine.requireScene
  rw [h.scene id]
  split
  · exact Turn.alike_pure _
  · exact Turn.alike_throw _

/-- The scene where the player is. -/
theorem alike_here {k l : Scene → Turn β} (hk : ∀ scene, (k scene).Alike S (l scene)) :
    (do k (← e.requireScene (← Turn.state).currentSceneId)).Alike S
      (do l (← e'.requireScene (← Turn.state).currentSceneId)) := by
  refine Turn.alike_state_bind fun s s' hs => ?_
  rw [h.place s s' hs]
  exact (h.alike_requireScene _).bind hk

/-- **The view of a scene.** -/
theorem alike_view (scene : Scene) (overlays recent : List String) :
    (e.view scene overlays recent).Alike S (e'.view scene overlays recent) :=
  (h.alike_tell _).bind fun _ => (h.alike_available _ _).bind fun _ =>
    (h.alike_available _ _).bind fun _ => Turn.alike_pure _

/-- **The view of the scene where the player is.** -/
theorem alike_look : e.look.Alike S e'.look :=
  h.alike_here fun scene => (h.alike_view scene [] []).withCopy

/-! ### Effects and hooks -/

theorem alike_applyOne (effect : Effect) : (e.applyOne effect).Alike S (e'.applyOne effect) := by
  intro p q hpq
  unfold Engine.applyOne
  rw [Turn.on_bind_ok (Turn.on_state p), Turn.on_bind_ok (Turn.on_state q)]
  have hwarned (w : Option Issue) : (w.forM Turn.warn).Alike S (w.forM Turn.warn) := by
    cases w with
    | none => exact Turn.alike_pure _
    | some i => exact Turn.alike_warn i
  rcases h.affected _ _ hpq.state effect with ⟨f, hf, hf'⟩ | ⟨s, s', w, hs, hs', hss⟩
  · rw [hf, hf']
    exact ⟨rfl, hpq⟩
  · rw [hs, hs']
    rw [Turn.on_bind_ok (Turn.on_ofExcept _ p), Turn.on_bind_ok (Turn.on_ofExcept _ q)]
    dsimp only
    rw [Turn.on_bind_ok (Turn.on_change _ p), Turn.on_bind_ok (Turn.on_change _ q)]
    -- the states have changed, and what remains is the same on both sides
    exact (hwarned w).bind (fun _ => h.alike_record _ _ _ _) _ _ ⟨hpq.rng, hss⟩

theorem alike_applyAll (effects : List Effect) :
    (e.applyAll effects).Alike S (e'.applyAll effects) := by
  have hall : (effects.forM e.applyOne).Alike S (effects.forM e'.applyOne) := by
    induction effects with
    | nil => exact Turn.alike_pure _
    | cons x xs ih => exact (h.alike_applyOne x).bind fun _ => ih
  exact hall.bind fun _ => Turn.alike_pure _

theorem alike_ask (scene : Scene) (action : Option Action) (hook : Hook) :
    (e.ask scene action hook).Alike S (e'.ask scene action hook) := by
  intro p q hpq
  unfold Engine.ask
  rw [Turn.on_bind_ok (Turn.on_get p), Turn.on_bind_ok (Turn.on_get q)]
  dsimp only
  rw [h.asked _ _ hpq.state, hpq.rng]
  rw [Turn.on_bind_ok (Turn.on_set _ _), Turn.on_bind_ok (Turn.on_set _ _)]
  exact Turn.alike_ofExcept _ _ _ ⟨rfl, hpq.state⟩

theorem alike_overlay (r : RuleResult) : (e.overlay r).Alike S (e'.overlay r) := by
  unfold Engine.overlay
  split
  · exact (h.alike_tellDocument _).bind fun _ => Turn.alike_pure _
  · exact Turn.alike_pure _

theorem alike_fire (scene : Scene) (action : Option Action) (hook : Hook) :
    (e.fire scene action hook).Alike S (e'.fire scene action hook) := by
  refine (h.alike_ask scene action hook).bind fun r => ?_
  cases r with
  | none => exact Turn.alike_pure _
  | some r =>
      exact (h.alike_applyAll _).bind fun _ => (h.alike_overlay r).bind fun _ => Turn.alike_pure _

theorem alike_fireAll (scene : Scene) (action : Option Action) (hooks : List Hook)
    (target : Option String) (told : List String) :
    (e.fireAll scene action hooks target told).Alike S
      (e'.fireAll scene action hooks target told) := by
  induction hooks generalizing target told with
  | nil => exact Turn.alike_pure _
  | cons hook rest ih => exact (h.alike_fire scene action hook).bind fun _ => ih _ _

theorem alike_fireSilently (scene : Scene) (hooks : List Hook) (target : Option String) :
    (e.fireSilently scene hooks target).Alike S (e'.fireSilently scene hooks target) := by
  induction hooks generalizing target with
  | nil => exact Turn.alike_pure _
  | cons hook rest ih =>
      refine (h.alike_ask scene none hook).bind fun r => ?_
      cases r with
      | none => exact ih _
      | some r => exact (h.alike_applyAll _).bind fun _ => ih _

/-! ### Moves -/

theorem alike_arrive (scene : Scene) :
    (Engine.arrive scene).Alike S (Engine.arrive scene) := by
  have hmoved : (Turn.change fun s =>
      { s.moveTo scene.locationId with currentSceneId := scene.id }).Alike S
        (Turn.change fun s => { s.moveTo scene.locationId with currentSceneId := scene.id }) :=
    fun _ _ hpq => ⟨rfl, hpq.rng, h.moved _ _ hpq.state scene⟩
  exact hmoved.bind fun _ => h.alike_record _ _ _ _

theorem alike_depart (scene : Scene) : (Engine.depart scene).Alike S (Engine.depart scene) :=
  h.alike_record _ _ _ _

theorem alike_visit (scene : Scene) : (e.visit scene).Alike S (e'.visit scene) :=
  (h.alike_arrive scene).bind fun _ => h.alike_fireAll _ _ _ _ _

theorem alike_enterWithin (hops : Nat) (chain : List String) (id : String) :
    (e.enterWithin hops chain id).Alike S (e'.enterWithin hops chain id) := by
  induction hops generalizing chain id with
  | zero =>
      rw [Engine.enterWithin_eq, Engine.enterWithin_eq, h.maxHops]
      refine (h.alike_requireScene id).bind fun scene => (h.alike_visit scene).bind fun out => ?_
      split
      · exact h.alike_view _ _ _
      · exact (h.alike_depart scene).bind fun _ => Turn.alike_throw _
  | succ hops ih =>
      rw [Engine.enterWithin_eq, Engine.enterWithin_eq]
      refine (h.alike_requireScene id).bind fun scene => (h.alike_visit scene).bind fun out => ?_
      split
      · exact h.alike_view _ _ _
      · exact (h.alike_depart scene).bind fun _ => ih _ _

/-- **Entering a scene.** -/
theorem alike_enter (id : String) : (e.enter id).Alike S (e'.enter id) := by
  unfold Engine.enter
  rw [h.maxHops]
  exact h.alike_enterWithin _ _ _

/-- **Leaving through an exit.** -/
theorem alike_leave (ref : ExitRef) : (e.leave ref).Alike S (e'.leave ref) := by
  refine h.alike_here fun scene => ?_
  have hexit : (Engine.requireExit scene ref).Alike S (Engine.requireExit scene ref) := by
    unfold Engine.requireExit
    split
    · exact Turn.alike_pure _
    · exact Turn.alike_throw _
  refine hexit.bind fun exit => (h.alike_meets _).bind fun open? => ?_
  split
  · exact (h.alike_record _ _ _ _).bind fun _ => (h.alike_fireSilently _ _ _).bind fun _ =>
      (h.alike_depart scene).bind fun _ => h.alike_enter _
  · exact Turn.alike_throw _

/-- **Taking an action.** -/
theorem alike_act (id : String) : (e.act id).Alike S (e'.act id) := by
  refine h.alike_here fun scene => ?_
  have haction : (Engine.requireAction scene id).Alike S (Engine.requireAction scene id) := by
    unfold Engine.requireAction
    split
    · exact Turn.alike_pure _
    · exact Turn.alike_throw _
  refine haction.bind fun action => (h.alike_meets _).bind fun open? => ?_
  split
  · refine (h.alike_record _ _ _ _).bind fun _ => (h.alike_applyAll _).bind fun own =>
      (h.alike_fireAll _ _ _ _ _).bind fun out => ?_
    obtain ⟨next, recent⟩ := out
    cases next with
    | some next => exact (h.alike_depart scene).bind fun _ => h.alike_enter next
    | none => exact h.alike_view scene [] recent
  · exact Turn.alike_throw _

theorem alike_carryOut (v : Vote) : (e.carryOut v).Alike S (e'.carryOut v) := by
  unfold Engine.carryOut
  split
  · exact h.alike_act _
  · exact h.alike_leave _
  · exact Turn.alike_throw _

end Lockstep

/-! ### An engine and itself -/

theorem alike_noteFault (text : String) (f : Expression.Fault) :
    (noteFault text f).Alike Eq (noteFault text f) := by
  have hrecord (kind : EventKind) (sceneId actionId : Option String) (data : Option (Table Json)) :
      (Turn.record kind sceneId actionId data).Alike Eq
        (Turn.record kind sceneId actionId data) := by
    intro p q hpq
    refine ⟨rfl, hpq.rng, ?_⟩
    rw [Turn.on_record, Turn.on_record]
    simp only [Play.record, hpq.state]
  exact (Turn.alike_warn _).bind fun _ => hrecord _ _ _ _

theorem alike_holds (e : Engine) (c : Condition) : (e.holds c).Alike Eq (e.holds c) := by
  refine Turn.alike_state_bind fun s s' hs => ?_
  subst hs
  cases c with
  | expression text =>
      dsimp only
      split
      · exact Turn.alike_throw _
      · exact Turn.alike_pure _
      · refine (alike_noteFault _ _).bind fun _ => Turn.alike_state_bind fun s s' hs => ?_
        rw [hs]
        exact Turn.alike_ofExcept _
  | custom type further => exact Turn.alike_ofExcept _
  | _ => exact Turn.alike_pure _

/-- **An engine runs in lockstep with itself.**  From plays with the same state and the same
generator every turn does the same, whatever the warnings. -/
theorem lockstep_self (e : Engine) : Lockstep e e Eq where
  scene _ := rfl
  locale := rfl
  maxHops := rfl
  place _ _ h := by rw [h]
  recorded _ _ h _ _ _ _ := by rw [h]
  moved _ _ h _ := by rw [h]
  affected s s' h effect := by
    subst h
    cases ho : effect.outcome e s with
    | error f => exact .inl ⟨f, rfl, rfl⟩
    | ok out => exact .inr ⟨out.1, out.1, out.2, rfl, rfl, rfl⟩
  answered := alike_holds e
  asked _ _ h _ _ _ _ := by rw [h]

end Storyworld
