/-
**Games side by side.**

The games on one engine share a generator of random numbers and a log of warnings.  Nothing reads
the log, so all that one game can know of another is how far the generator has come.  Side by side
with others a game goes as it would go on its own, with the same results and the same states, if no
step of another game draws from the generator; and it can go otherwise if one does.

Main definitions:

* `Storyworld.Step` — something done to a game;
* `Storyworld.Engine.Makes` — the steps of an engine, in games and in hosted sessions;
* `Storyworld.sideBySide`, `Storyworld.onItsOwn` — the courses of games;
* `Storyworld.Undisturbed` — no step of another game draws.

Main results:

* `Storyworld.Engine.Makes.blind` — **a step depends on the generator alone** of what is shared;
* `Storyworld.Engine.course_undisturbed` — **a game that is not disturbed goes as on its own**;
* `Storyworld.Engine.course_disturbed` — a draw of another game can change what a player is told.
-/

import Mathlib.Logic.Function.Basic
import Storyworld.Proofs.Checked
import Storyworld.Proofs.Lockstep
import Storyworld.Proofs.Reachable
import Storyworld.Session.Host

set_option relaxedAutoImplicit false
set_option autoImplicit false

namespace Storyworld

/-! ### Steps -/

/-- Something done to a game: it ends with a view or a fault, and changes the game and what the
game shares with others. -/
abbrev Step (σ : Type) := Shared → σ → Except Fault SceneView × σ × Shared

namespace Step

variable {σ : Type}

/-- A step that does not see the warnings: with the same generator it does the same, whatever the
warnings are. -/
def Blind (step : Step σ) : Prop :=
  ∀ a b s, b.rng = a.rng →
    (step b s).1 = (step a s).1 ∧ (step b s).2.1 = (step a s).2.1 ∧
      (step b s).2.2.rng = (step a s).2.2.rng

/-- A step that leaves the generator as it was. -/
def Idle (step : Step σ) : Prop := ∀ shared s, (step shared s).2.2.rng = shared.rng

/-- A turn of a game. -/
def turn (t : Turn SceneView) : Step GameState := fun shared s => shared.carryOut s t

/-- A move in a hosted session. -/
def play (now : Rat) (t : Turn SceneView) : Step GameSession := fun shared s => s.play now t shared

/-- A look at a hosted session. -/
def look (e : Engine) : Step GameSession := fun shared s => s.look e shared

/-- **A turn in lockstep with itself does not see the warnings.** -/
theorem blind_turn {t : Turn SceneView} (h : t.Alike Eq t) : (turn t).Blind := by
  intro a b s hrng
  obtain ⟨hres, hlike⟩ := h ⟨a, s⟩ ⟨b, s⟩ ⟨hrng, rfl⟩
  exact ⟨hres, hlike.state.symm, hlike.rng⟩

theorem blind_play {t : Turn SceneView} (now : Rat) (h : t.Alike Eq t) : (play now t).Blind := by
  intro a b s hrng
  obtain ⟨hres, hstate, hgen⟩ := blind_turn h a b s.state hrng
  unfold play GameSession.play
  split
  · -- the session is active, and all that counts is what the turn does to its state
    unfold turn at hres hstate hgen
    rcases ha : a.carryOut s.state t with ⟨r, p, shared⟩
    rcases hb : b.carryOut s.state t with ⟨r', p', shared'⟩
    rw [ha, hb] at hres hstate hgen
    dsimp only at hres hstate hgen
    subst hres hstate
    cases r' <;> exact ⟨rfl, rfl, hgen⟩
  · exact ⟨rfl, rfl, hrng⟩

theorem blind_look (e : Engine) : (look e).Blind := by
  intro a b s hrng
  obtain ⟨hres, hstate, hgen⟩ := blind_turn (lockstep_self e).alike_look a b s.state hrng
  refine ⟨hres, ?_, hgen⟩
  exact congrArg (fun state => { s with state }) hstate

/-- A look draws from a copy of the generator. -/
theorem idle_turn_look (e : Engine) : (turn e.look).Idle := by
  have htrans (p q r : Play) (h : q.rng = p.rng) (h' : r.rng = q.rng) : r.rng = p.rng := h'.trans h
  have hscene (id : String) : (e.requireScene id).Keeps fun p q => q.rng = p.rng := by
    intro p
    unfold Engine.requireScene
    split <;> rfl
  have hlook : e.look.Keeps fun p q => q.rng = p.rng :=
    Turn.Keeps.bind htrans (fun p => rfl) fun s =>
      Turn.Keeps.bind htrans (hscene s.currentSceneId) fun scene p => rfl
  exact fun shared s => hlook ⟨shared, s⟩

end Step

/-! ### What an engine does -/

namespace Engine

/-- The turns by which a game goes on. -/
inductive Goes (e : Engine) : Turn SceneView → Prop
  | operation {o : Operation} {t : Turn SceneView} (h : o.shows e = some t) : Goes e t
  /-- the scene where the player is, entered again -/
  | again : Goes e do e.enter (← Turn.state).currentSceneId

/-- **The steps that an engine makes** in a game, or in a hosted session. -/
inductive Makes (e : Engine) : {σ : Type} → Step σ → Prop
  | turn {t : Turn SceneView} (ht : e.Goes t) : Makes e (Step.turn t)
  | play {t : Turn SceneView} (now : Rat) (ht : e.Goes t) : Makes e (Step.play now t)
  | look : Makes e (Step.look e)

variable {e : Engine} {σ : Type}

theorem Goes.alike {t : Turn SceneView} (h : e.Goes t) : t.Alike Eq t := by
  have hself := lockstep_self e
  cases h with
  | again =>
      refine Turn.alike_state_bind fun s s' hs => ?_
      rw [hs]
      exact hself.alike_enter _
  | @operation o _ h =>
      cases o with
      | enter id => cases h; exact hself.alike_enter id
      | leave ref => cases h; exact hself.alike_leave ref
      | act id => cases h; exact hself.alike_act id
      | look => cases h; exact hself.alike_look
      | carryOut v => cases h; exact hself.alike_carryOut v
      | apply | openSession | register | queue | resolve => cases h

/-- **Of what the games share, a step depends on the generator alone.** -/
theorem Makes.blind {step : Step σ} (h : e.Makes step) : step.Blind := by
  cases h with
  | turn ht => exact Step.blind_turn ht.alike
  | play now ht => exact Step.blind_play now ht.alike
  | look => exact Step.blind_look e

end Engine

/-! ### Courses of games -/

section Courses

variable {ι σ : Type} [DecidableEq ι]

/-- **Games side by side**: what comes of steps, each of them in the game that is named with it, and
what that game has become. -/
def sideBySide : List (ι × Step σ) → Shared → (ι → σ) → List (ι × Except Fault SceneView × σ)
  | [], _, _ => []
  | (i, step) :: rest, shared, games =>
    let (result, s, shared) := step shared (games i)
    (i, result, s) :: sideBySide rest shared (Function.update games i s)

/-- A game on its own: what comes of its steps, and what it has become after each. -/
def onItsOwn : List (Step σ) → Shared → σ → List (Except Fault SceneView × σ)
  | [], _, _ => []
  | step :: rest, shared, s =>
    let (result, s, shared) := step shared s
    (result, s) :: onItsOwn rest shared s

/-- What belongs to one of the games. -/
def own {α : Type} (i : ι) (xs : List (ι × α)) : List α :=
  xs.filterMap fun x => if x.1 = i then some x.2 else none

/-- **A game is not disturbed**: each step of another game leaves the generator as it was. -/
def Undisturbed (i : ι) : List (ι × Step σ) → Shared → (ι → σ) → Prop
  | [], _, _ => True
  | (j, step) :: rest, shared, games =>
    let (_, s, after) := step shared (games j)
    (j ≠ i → after.rng = shared.rng) ∧ Undisturbed i rest after (Function.update games j s)

/-- What the player is told in the course of a game. -/
def told (course : List (Except Fault SceneView × σ)) : List (Option String) :=
  course.map fun x => x.1.toOption.map (·.narrative)

@[simp] theorem own_cons_self {α : Type} (i : ι) (a : α) (xs : List (ι × α)) :
    own i ((i, a) :: xs) = a :: own i xs := by
  simp [own]

@[simp] theorem own_cons_of_ne {α : Type} {i j : ι} (h : j ≠ i) (a : α) (xs : List (ι × α)) :
    own i ((j, a) :: xs) = own i xs := by
  simp [own, h]

variable {e : Engine}

/-- **A game that is not disturbed goes as it goes on its own**: its steps end with the same views
or faults, and take it through the same states. -/
theorem Engine.course_undisturbed {i : ι} {steps : List (ι × Step σ)} {shared shared' : Shared}
    {games : ι → σ} (hsteps : ∀ x ∈ steps, x.1 = i → e.Makes x.2)
    (hrng : shared'.rng = shared.rng) (h : Undisturbed i steps shared games) :
    own i (sideBySide steps shared games) = onItsOwn (own i steps) shared' (games i) := by
  -- the generators agree before every step: others leave it as it was, and its own steps are blind
  induction steps generalizing shared shared' games with
  | nil => rfl
  | cons x rest ih =>
      obtain ⟨j, step⟩ := x
      obtain ⟨hstep, hrest⟩ := h
      have hmakes := fun y hy => hsteps y (List.mem_cons_of_mem _ hy)
      by_cases hj : j = i
      · subst hj
        have hblind := (hsteps _ List.mem_cons_self rfl).blind
        obtain ⟨hres, hgame, hgen⟩ := hblind shared shared' (games j) hrng
        have hgo := ih hmakes hgen hrest
        rw [Function.update_self] at hgo
        simp only [sideBySide, onItsOwn, own_cons_self]
        rw [hgo, hres, hgame]
      · have hgo := ih hmakes (hrng.trans (hstep hj).symm) hrest
        rw [Function.update_of_ne (Ne.symm hj)] at hgo
        simp only [sideBySide, own_cons_of_ne hj]
        exact hgo

end Courses

/-- Two games that stand at the gate of the Lantern Road.  The way onto the road tells a player
nothing that is left to chance, so the other game goes as on its own. -/
theorem Engine.course_undisturbed_lanternRoad :
    let e := LanternRoad.engine
    let shared : Shared := ⟨.seeded 1586005467, []⟩
    let games := fun _ : Bool => e.fresh LanternRoad.traveller
    let steps := [(true, Step.turn (e.enter "scene.gate")),
      (false, Step.turn (e.enter "scene.road")), (true, Step.turn (e.enter "scene.gate"))]
    Undisturbed true steps shared games ∧
      own true (sideBySide steps shared games) =
        onItsOwn (own true steps) shared (e.fresh LanternRoad.traveller) := by
  intro e shared games steps
  have hmakes : ∀ x ∈ steps, x.1 = true → e.Makes x.2 := by
    intro x hx _
    simp only [steps, List.mem_cons, List.not_mem_nil, or_false] at hx
    rcases hx with rfl | rfl | rfl <;> exact .turn (.operation (o := .enter _) rfl)
  have hundisturbed : Undisturbed true steps shared games :=
    ⟨fun h => absurd rfl h, fun _ => by decide +kernel, fun h => absurd rfl h, trivial⟩
  exact ⟨hundisturbed, course_undisturbed hmakes rfl hundisturbed⟩

/-- **What another game draws is missing from this one.**  Both games enter the gate of the Lantern
Road: on its own the second is told of rain, and after the first it is told of fog. -/
theorem Engine.course_disturbed :
    ¬ ∀ (steps : List (Bool × Step GameState)) (shared : Shared) (games : Bool → GameState),
      (∀ x ∈ steps, LanternRoad.engine.Makes x.2) →
        own true (sideBySide steps shared games) = onItsOwn (own true steps) shared (games true) := by
  intro h
  let gate := Step.turn (LanternRoad.engine.enter "scene.gate")
  have hmakes : LanternRoad.engine.Makes gate := .turn (.operation (o := .enter _) rfl)
  have htold := congrArg told (h [(false, gate), (true, gate)] ⟨.seeded 1586005467, []⟩
    (fun _ => LanternRoad.engine.fresh LanternRoad.traveller) (by simp [hmakes]))
  revert htold
  decide +kernel

end Storyworld
