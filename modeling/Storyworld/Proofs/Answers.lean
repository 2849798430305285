/-
**Only the hooks of the modules matter.**

Modules do two things: they answer conditions, and say what happens at hooks.  An engine that does
not consult its modules takes nothing from their answers.  So two such engines whose modules differ
in their answers alone play the same games, call for call.  An engine that does consult them asks
about custom conditions and about expressions that cannot be evaluated.  All other conditions are
settled by the state of the game, and hold or not whatever the modules would say.

Main definitions:

* `Storyworld.RuleModule.SameButAnswers`, `Storyworld.Engine.SameButAnswers` — modules and engines
  that differ in the answers of modules alone;
* `Storyworld.Condition.SettledBy` — conditions that a state settles;
* `Storyworld.Games.SameButWarnings` — games that differ in nothing but the log of warnings.

Main results:

* `Storyworld.Registry.resolve_sameButAnswers` — answers have no part in what happens at a hook;
* `Storyworld.Engine.SameButAnswers.holds_of_settled` — nor in the conditions that a state settles;
* `Storyworld.Engine.SameButAnswers.lockstep` — **engines that do not consult run in lockstep**;
* `Storyworld.Engine.only_hooks_matter` — both, for all calls in a row.
-/

import Mathlib.Data.List.Forall2
import Storyworld.Proofs.Looking

set_option relaxedAutoImplicit false
set_option autoImplicit false

namespace Storyworld

/-! ### Modules that differ in their answers -/

/-- Two modules that differ in their answers to conditions alone. -/
def RuleModule.SameButAnswers (m m' : RuleModule) : Prop := ∃ answer, m' = { m with answer }

/-- Modules in two engines that pairwise differ in their answers alone. -/
abbrev Registry.SameButAnswers (ms ms' : Registry) : Prop :=
  List.Forall₂ RuleModule.SameButAnswers ms ms'

namespace Registry

variable {ms ms' : Registry}

/-- Under every id there is such a pair of modules, or none on either side. -/
theorem SameButAnswers.get?_cases (h : ms.SameButAnswers ms') (id : String) :
    (ms.get? id = none ∧ ms'.get? id = none) ∨
      ∃ m m', ms.get? id = some m ∧ ms'.get? id = some m' ∧ m.SameButAnswers m' := by
  induction h with
  | nil => exact .inl ⟨rfl, rfl⟩
  | @cons m m' ms ms' hm _ ih =>
      have hid : m'.id = m.id := by
        obtain ⟨answer, rfl⟩ := hm
        rfl
      simp only [get?, List.find?_cons, hid]
      cases m.id == id with
      | true => exact .inr ⟨m, m', rfl, rfl, hm⟩
      | false => exact ih

theorem SameButAnswers.firstHandled (h : ms.SameButAnswers ms') (context : HookContext)
    (g : Option Generator) :
    Registry.firstHandled context ms' g = Registry.firstHandled context ms g := by
  induction h generalizing g with
  | nil => rfl
  | cons hm _ ih =>
      obtain ⟨answer, rfl⟩ := hm
      simp only [Registry.firstHandled, ih]
      rfl

/-- **Answers have no part in what happens at a hook.** -/
theorem resolve_sameButAnswers (h : ms.SameButAnswers ms') (context : HookContext)
    (g : Option Generator) : ms'.resolve context g = ms.resolve context g := by
  unfold resolve
  split
  · split
    · exact h.firstHandled context g
    · next id _ _ =>
      rcases h.get?_cases id with ⟨hm, hm'⟩ | ⟨m, _, hm, hm', answer, rfl⟩
      · rw [hm, hm']
      · rw [hm, hm']
        rfl
  · exact h.firstHandled context g

end Registry

/-! ### Conditions that a state settles -/

/-- **Conditions that a state settles**: all but custom ones, and expressions that cannot be
evaluated. -/
def Condition.SettledBy (s : GameState) : Condition → Prop
  | custom _ _ => False
  | expression text => ∀ f, Expression.evaluate s.scope text ≠ .ok (.fault f)
  | _ => True

instance (s : GameState) : DecidablePred (Condition.SettledBy s)
  | .custom _ _ => .isFalse id
  | .expression text =>
    match h : Expression.evaluate s.scope text with
    | .ok (.fault f) => .isFalse fun hall => hall f h
    | .ok (.answer _) => .isTrue fun _ hf => nomatch h.symm.trans hf
    | .error _ => .isTrue fun _ hf => nomatch h.symm.trans hf
  | .flag _ _ _ => .isTrue trivial
  | .stat _ _ _ => .isTrue trivial
  | .inventory _ _ _ => .isTrue trivial
  | .lore _ _ _ => .isTrue trivial

/-- **Two engines that differ in the answers of their modules alone.** -/
def Engine.SameButAnswers (e e' : Engine) : Prop :=
  ∃ ms, e.modules.SameButAnswers ms ∧ e' = { e with modules := ms }

namespace Engine.SameButAnswers

variable {e e' : Engine}

/-- **A condition that the state settles is asked with the same result**, and leaves the same play. -/
theorem holds_of_settled (h : e.SameButAnswers e') {c : Condition} {p : Play}
    (hc : c.SettledBy p.state) : (e'.holds c).on p = (e.holds c).on p := by
  obtain ⟨ms, -, rfl⟩ := h
  unfold Engine.holds
  rw [Turn.on_bind_ok (Turn.on_state p), Turn.on_bind_ok (Turn.on_state p)]
  cases c with
  | custom _ _ => exact hc.elim
  | expression text =>
      dsimp only
      cases hv : Expression.evaluate p.state.scope text with
      | error f => rfl
      | ok r =>
          cases r with
          | answer b => rfl
          | fault f => exact absurd hv (hc f)
  | flag | stat | inventory | lore => rfl

/-- Without consulting the modules every condition is asked with the same result. -/
theorem holds_of_unconsulted (h : e.SameButAnswers e') (hc : e.consultsModules = false)
    (c : Condition) : e'.holds c = e.holds c := by
  obtain ⟨ms, -, rfl⟩ := h
  unfold Engine.holds Engine.consult
  simp only [hc, Bool.false_eq_true, if_false]

theorem outcome (h : e.SameButAnswers e') (s : GameState) (effect : Effect) :
    effect.outcome e' s = effect.outcome e s := by
  obtain ⟨ms, -, rfl⟩ := h
  cases effect <;> rfl

/-- **Engines that do not consult their modules run in lockstep**, whatever the modules would
answer. -/
theorem lockstep (h : e.SameButAnswers e') (hc : e.consultsModules = false) : Lockstep e e' Eq := by
  have hself := lockstep_self e
  have hshared : e'.story = e.story ∧ e'.locale = e.locale ∧ e'.maxHops = e.maxHops := by
    obtain ⟨ms, -, rfl⟩ := h
    exact ⟨rfl, rfl, rfl⟩
  obtain ⟨hstory, hlocale, hhops⟩ := hshared
  exact {
    scene := fun id => by unfold Engine.scene?; rw [hstory]
    locale := hlocale
    maxHops := hhops
    place := hself.place
    recorded := hself.recorded
    moved := hself.moved
    affected := fun s s' hs effect => by
      rw [h.outcome]
      exact hself.affected s s' hs effect
    answered := fun c => by
      rw [h.holds_of_unconsulted hc]
      exact hself.answered c
    asked := fun s s' hs scene action hook g => by
      obtain ⟨ms, hms, rfl⟩ := h
      exact (Registry.resolve_sameButAnswers hms _ _).trans (hself.asked s s' hs scene action hook g) }

/-- A new game is the same. -/
theorem newGame (h : e.SameButAnswers e') (c : Character) (shared : Shared) :
    e'.newGame c shared = e.newGame c shared := by
  obtain ⟨ms, -, rfl⟩ := h
  rfl

end Engine.SameButAnswers

/-! ### Calls in a row -/

/-- **Games that differ in nothing but the log of warnings** that they share. -/
structure Games.SameButWarnings (gs gs' : Games) : Prop where
  rng : gs'.shared.rng = gs.shared.rng
  states : gs'.states = gs.states

namespace Games

variable {e e' : Engine} {gs gs' : Games}

/-- Turns in lockstep, carried out on one of the games. -/
theorem SameButWarnings.turn (h : gs.SameButWarnings gs') {t u : Turn SceneView}
    (ht : t.Alike Eq u) (i : Nat) :
    (gs'.turn i u).1 = (gs.turn i t).1 ∧ (gs.turn i t).2.SameButWarnings (gs'.turn i u).2 := by
  unfold Games.turn
  rw [h.states]
  cases hs : gs.states[i]? with
  | none => exact ⟨rfl, h⟩
  | some s =>
      obtain ⟨hres, hlike⟩ := ht ⟨gs.shared, s⟩ ⟨gs'.shared, s⟩ ⟨h.rng, rfl⟩
      exact ⟨congrArg (Except.map some) hres, hlike.rng,
        congrArg (gs.states.set i) hlike.state.symm⟩

theorem SameButWarnings.begin (h : gs.SameButWarnings gs') (he : e.SameButAnswers e')
    (c : Character) : (gs.begin e c).SameButWarnings (gs'.begin e' c) := by
  unfold Games.begin
  rw [he.newGame]
  exact ⟨h.rng, congrArg (· ++ [e.fresh c]) h.states⟩

/-- **A call does the same** on engines in lockstep. -/
theorem SameButWarnings.on (h : gs.SameButWarnings gs') (he : e.SameButAnswers e')
    (hstep : Lockstep e e' Eq) (c : Call) :
    (c.on e' gs').1 = (c.on e gs).1 ∧ (c.on e gs).2.SameButWarnings (c.on e' gs').2 := by
  cases c with
  | begin c => exact ⟨rfl, h.begin he c⟩
  | beginAs seed =>
      simp only [Call.on]
      cases Character.ofSeed seed with
      | ok c => exact ⟨rfl, h.begin he c⟩
      | error f => exact ⟨rfl, h⟩
  | enter i id => exact h.turn (hstep.alike_enter id) i
  | leave i ref => exact h.turn (hstep.alike_leave ref) i
  | act i id => exact h.turn (hstep.alike_act id) i
  | look i => exact h.turn hstep.alike_look i

theorem SameButWarnings.run (h : gs.SameButWarnings gs') (he : e.SameButAnswers e')
    (hstep : Lockstep e e' Eq) (cs : List Call) :
    (gs'.run e' cs).1 = (gs.run e cs).1 ∧
      (gs.run e cs).2.SameButWarnings (gs'.run e' cs).2 := by
  induction cs generalizing gs gs' with
  | nil => exact ⟨rfl, h⟩
  | cons c cs ih =>
      obtain ⟨hout, hafter⟩ := h.on he hstep c
      obtain ⟨hres, hgames⟩ := ih hafter
      simp only [Games.run, hout, hres, true_and]
      exact hgames

end Games

/-- **Only the hooks of the modules matter.**  Take two engines that differ in the answers of their
modules alone.  If they do not consult their modules, then all calls in a row, in any number of
games, give the same views and faults on both, and lead to the same states with their logs and the
same generator.  And whether or not they consult, a condition that the state settles gets the same
answer on both. -/
theorem Engine.only_hooks_matter {e e' : Engine} (h : e.SameButAnswers e') :
    (e.consultsModules = false → ∀ (gs : Games) (cs : List Call),
      (gs.run e' cs).1 = (gs.run e cs).1 ∧
        (gs.run e cs).2.SameButWarnings (gs.run e' cs).2) ∧
    ∀ (c : Condition) (p : Play), c.SettledBy p.state → (e'.holds c).on p = (e.holds c).on p :=
  ⟨fun hc _ cs => Games.SameButWarnings.run ⟨rfl, rfl⟩ h (h.lockstep hc) cs,
    fun _ _ hc => h.holds_of_settled hc⟩

namespace LanternRoad

/-- The engine of the Lantern Road with modules that say yes to every condition. -/
def agreeable : Engine :=
  { engine with
    modules := engine.modules.map fun m => { m with answer := fun _ _ _ => .ok (some true) } }

theorem sameButAnswers_agreeable : engine.SameButAnswers agreeable :=
  ⟨_, List.forall₂_map_right_iff.2 (List.forall₂_same.2 fun _ _ => ⟨_, rfl⟩), rfl⟩

end LanternRoad

/-- On the Lantern Road, with modules that say yes to a riddle and with modules that do not know,
games go the same, and the marsh lights can be followed by whoever has a lantern. -/
theorem Engine.only_hooks_matter_lanternRoad :
    let e := LanternRoad.engine
    let e' := LanternRoad.agreeable
    let gs : Games := ⟨LanternRoad.alone, []⟩
    let cs : List Call := [.beginAs .null, .enter 0 "scene.gate", .act 0 "act.lantern", .look 0,
      .leave 0 (.index 0)]
    let p := e.beginning LanternRoad.traveller LanternRoad.alone
    let riddle := Condition.custom "riddle" []
    let lit := Condition.expression "hasItem('lantern')"
    ((e.modules.answer riddle p.state).toOption = some none ∧
      (e'.modules.answer riddle p.state).toOption = some (some true)) ∧
      (gs.run e cs).1.all (fun o => o.2.isOk) = true ∧
      (e.SameButAnswers e' ∧ e.consultsModules = false ∧ lit.SettledBy p.state) ∧
      ((gs.run e' cs).1 = (gs.run e cs).1 ∧
        (gs.run e cs).2.SameButWarnings (gs.run e' cs).2) ∧
      (e'.holds lit).on p = (e.holds lit).on p := by
  intro e e' gs cs p riddle lit
  have hsame : e.SameButAnswers e' := LanternRoad.sameButAnswers_agreeable
  have hanswers : (e.modules.answer riddle p.state).toOption = some none ∧
      (e'.modules.answer riddle p.state).toOption = some (some true) := by decide +kernel
  have hruns : (gs.run e cs).1.all (fun o => o.2.isOk) = true := by decide +kernel
  have hlit : lit.SettledBy p.state := by decide +kernel
  obtain ⟨hgames, hsettled⟩ := Engine.only_hooks_matter hsame
  exact ⟨hanswers, hruns, ⟨hsame, rfl, hlit⟩, hgames rfl gs cs, hsettled lit p hlit⟩

end Storyworld
