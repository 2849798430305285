/-
**What a look leaves behind.**

A look asks the conditions of a scene: those of its variants, of its exits and of its actions, in
this order.  An expression among them that cannot be evaluated leaves a note in the log, every time
that it is asked.  Nothing else of a state is changed by a look, and the generator is not.  So a
player can look any number of times and leave the state as it was, if all expressions of the scene
can be evaluated, and only then: where one cannot, the log grows with every look.

Main definitions:

* `Storyworld.Condition.note?` — the note that is left of a condition;
* `Storyworld.GameState.noted` — a state in whose log notes have been left;
* `Storyworld.Turn.Asks` — **a turn asks some conditions, and leaves no more than their notes**;
* `Storyworld.Hut.engine` — a hut whose door has a broken condition.

Main results:

* `Storyworld.Turn.Asks.bind` — from the parts of a turn to the whole;
* `Storyworld.Engine.asks_view` — the conditions that a view asks;
* `Storyworld.Engine.look_leaves_notes` — **a look leaves the notes of what it asks, and nothing
  else**;
* `Storyworld.Hut.looks_add_up` — looking at the hut again and again.
-/

import Storyworld.Proofs.Saving

set_option relaxedAutoImplicit false
set_option autoImplicit false

namespace Storyworld

/-! ### Notes -/

/-- The note that is left of a condition when it is asked: that of an expression that cannot be
evaluated. -/
def Condition.note? (s : GameState) : Condition → Option (Table Json)
  | .expression text =>
    match Expression.evaluate s.scope text with
    | .ok (.fault f) =>
      some [("kind", .str "expression"), ("error", .str f.message), ("expr", .str text)]
    | _ => none
  | _ => none

namespace GameState

variable {s : GameState} {notes : List (Table Json)}

/-- A state in whose log notes have been left. -/
def noted (s : GameState) (notes : List (Table Json)) : GameState :=
  notes.foldl (fun s note => s.record .rule none none (some note)) s

@[simp] theorem noted_nil (s : GameState) : s.noted [] = s := rfl

theorem noted_append (s : GameState) (notes more : List (Table Json)) :
    s.noted (notes ++ more) = (s.noted notes).noted more := List.foldl_append

theorem length_history_noted (s : GameState) (notes : List (Table Json)) :
    (s.noted notes).history.length = s.history.length + notes.length := by
  induction notes generalizing s with
  | nil => rfl
  | cons note notes ih =>
      rw [noted, List.foldl_cons, ← noted, ih]
      simp only [record, List.length_append, List.length_cons, List.length_nil]
      omega

theorem noted_eq_self_iff : s.noted notes = s ↔ notes = [] := by
  constructor
  · intro h
    have hlength := s.length_history_noted notes
    rw [h] at hlength
    exact List.length_eq_zero_iff.1 (by omega)
  · rintro rfl
    rfl

theorem scope_noted (s : GameState) (notes : List (Table Json)) :
    (s.noted notes).scope = s.scope := by
  induction notes generalizing s with
  | nil => rfl
  | cons note notes ih => exact ih (s.record .rule none none (some note))

/-- What is noted of a condition does not depend on the notes before. -/
theorem note?_noted (s : GameState) (notes : List (Table Json)) :
    Condition.note? (s.noted notes) = Condition.note? s := by
  funext c
  cases c with
  | expression text => simp only [Condition.note?, scope_noted]
  | _ => rfl

end GameState

/-! ### Turns that ask -/

namespace Turn

variable {α β : Type} {cs ds : List Condition} {t : Turn α}

/-- **A turn asks some conditions, one after the other, and leaves no more than their notes.**  If
it ends in a fault, it may have asked only the first of them. -/
def Asks (cs : List Condition) (t : Turn α) : Prop :=
  ∀ p, ∃ asked, asked <+: cs ∧
    (t.on p).2.state = p.state.noted (asked.filterMap (Condition.note? p.state)) ∧
    ∀ a, (t.on p).1 = .ok a → asked = cs

theorem asks_pure (a : α) : (pure a : Turn α).Asks [] :=
  fun _ => ⟨[], List.prefix_rfl, rfl, fun _ _ => rfl⟩

theorem asks_throw (f : Fault) : (throw f : Turn α).Asks cs :=
  fun _ => ⟨[], List.nil_prefix, rfl, fun _ h => nomatch h⟩

theorem asks_ofExcept (r : Except Fault α) : (ofExcept r).Asks [] := by
  cases r with
  | ok a => exact asks_pure a
  | error f => exact asks_throw f

theorem asks_draw : draw.Asks [] := fun _ => ⟨[], List.prefix_rfl, rfl, fun _ _ => rfl⟩

/-- **Two turns in a row ask what the first asks, and then what the second asks.** -/
theorem Asks.bind {k : α → Turn β} (ht : t.Asks cs) (hk : ∀ a, (k a).Asks ds) :
    (t >>= k).Asks (cs ++ ds) := by
  intro p
  obtain ⟨asked, hfirst, hstate, hall⟩ := ht p
  rcases h : t.on p with ⟨f | a, q⟩
  · rw [on_bind_error h]
    rw [h] at hstate
    exact ⟨asked, hfirst.trans (List.prefix_append cs ds), hstate, fun _ h => nomatch h⟩
  · rw [on_bind_ok h]
    rw [h] at hstate hall
    obtain rfl := hall a rfl
    obtain ⟨more, hmore, hlater, hrest⟩ := hk a q
    refine ⟨asked ++ more, (List.prefix_append_right_inj asked).2 hmore, ?_, fun b hb => ?_⟩
    · -- the second turn begins after the notes of the first, on which its own do not depend
      rw [hlater, hstate, GameState.note?_noted, List.filterMap_append, GameState.noted_append]
    · rw [hrest b hb]

theorem Asks.withCopy (h : t.Asks cs) : t.withCopy.Asks cs := h

end Turn

/-! ### Looks -/

namespace Engine

variable {e : Engine} {α : Type}

theorem asks_holds (e : Engine) (c : Condition) : (e.holds c).Asks [c] := by
  intro p
  unfold holds
  rw [Turn.on_bind_ok (Turn.on_state p)]
  refine ⟨[c], List.prefix_rfl, ?_, fun _ _ => rfl⟩
  cases c with
  | expression text =>
      simp only [List.filterMap_cons, List.filterMap_nil, Condition.note?]
      cases Expression.evaluate p.state.scope text with
      | error f => rfl
      | ok r =>
          cases r with
          | answer b => rfl
          | fault f =>
              dsimp only
              rw [on_consult_noted]
              rfl
  | custom type further =>
      dsimp only
      rw [Turn.on_ofExcept]
      rfl
  | _ => rfl

theorem asks_meets (e : Engine) (c : Option Condition) : (e.meets c).Asks c.toList := by
  cases c with
  | none => exact Turn.asks_pure true
  | some c => exact e.asks_holds c

theorem asks_available (e : Engine) (condition : α → Option Condition) (xs : List α) :
    (e.available condition xs).Asks (xs.filterMap condition) := by
  induction xs with
  | nil => exact Turn.asks_pure []
  | cons x xs ih =>
      have hcons : (x :: xs).filterMap condition =
          (condition x).toList ++ (xs.filterMap condition ++ []) := by
        rw [List.append_nil, List.filterMap_cons]
        cases condition x <;> rfl
      rw [hcons]
      exact (e.asks_meets _).bind fun _ => ih.bind fun _ => Turn.asks_pure _

theorem asks_drawVariant (vs : List Variant) : (drawVariant vs).Asks [] := by
  refine Turn.asks_draw.bind fun x => ?_
  split
  · exact Turn.asks_throw _
  · exact Turn.asks_ofExcept _

theorem asks_tell (e : Engine) (n : Narrative) : (e.tell n).Asks n.conditions := by
  cases n with
  | plain text => exact Turn.asks_pure text
  | localized ts => exact Turn.asks_pure _
  | variants vs =>
      have hend : (Narrative.variants vs).conditions = vs.filterMap Variant.condition ++ [] :=
        (List.append_nil _).symm
      rw [hend]
      refine (e.asks_available _ _).bind fun candidates => ?_
      cases candidates with
      | nil => exact Turn.asks_pure _
      | cons v rest => exact asks_drawVariant _

/-- **The conditions that a view asks.** -/
theorem asks_view (e : Engine) (scene : Scene) (overlays recent : List String) :
    (e.view scene overlays recent).Asks scene.conditions := by
  have hconditions : scene.conditions =
      scene.narrative.conditions ++ (scene.exits.filterMap Exit.condition ++
        (scene.actions.filterMap Action.condition ++ [])) := by
    simp only [Scene.conditions, List.append_nil, List.append_assoc]
  rw [hconditions]
  exact (e.asks_tell _).bind fun _ => (e.asks_available _ _).bind fun _ =>
    (e.asks_available _ _).bind fun _ => Turn.asks_pure _

/-- A look at a scene that is there is its view, drawn from a copy of the generator. -/
theorem on_look {p : Play} {scene : Scene} (hs : e.scene? p.state.currentSceneId = some scene) :
    e.look.on p = (e.view scene [] []).withCopy.on p := by
  unfold look
  rw [Turn.on_bind_ok (Turn.on_state p), Turn.on_bind_ok (on_requireScene_some hs p)]

/-- Looks at a scene all of whose expressions can be evaluated. -/
theorem looks_leave_state {p : Play} {scene : Scene}
    (hs : e.scene? p.state.currentSceneId = some scene)
    (hnotes : ∀ c ∈ scene.conditions, c.note? p.state = none) (n : Nat) :
    (Turn.onAll (List.replicate n e.look) p).2.state = p.state := by
  induction n generalizing p with
  | zero => rfl
  | succ n ih =>
      obtain ⟨asked, hfirst, hstate, -⟩ := (e.asks_view scene [] []).withCopy p
      have hnone : asked.filterMap (Condition.note? p.state) = [] :=
        List.filterMap_eq_nil_iff.2 fun c hc => hnotes c (hfirst.subset hc)
      rw [← on_look hs, hnone, GameState.noted_nil] at hstate
      have hrest := ih (p := (e.look.on p).2) (by rwa [hstate]) (by rwa [hstate])
      exact hrest.trans hstate

/-- **A look leaves the notes of what it asks, and nothing else.**  In every state that a game on a
built engine can come to, the player is at a scene; a look asks its conditions in order, up to the
one that ends in a fault, leaves the notes of those that cannot be evaluated, and leaves the
generator alone.  If it gives a view, the state is what it was just if there were no such
conditions.  If there are none, that holds for any number of looks, whatever comes of them. -/
theorem look_leaves_notes {setup : Setup} (hb : (build setup).engine = some e) {c : Character}
    {p : Play} (hp : e.Reachable c p) :
    ∃ scene, e.scene? p.state.currentSceneId = some scene ∧
      (∃ asked, asked <+: scene.conditions ∧
        (e.look.on p).2.state = p.state.noted (asked.filterMap (Condition.note? p.state))) ∧
      (e.look.on p).2.rng = p.rng ∧
      (∀ v, (e.look.on p).1 = .ok v →
        ((e.look.on p).2.state = p.state ↔ ∀ c ∈ scene.conditions, c.note? p.state = none)) ∧
      ((∀ c ∈ scene.conditions, c.note? p.state = none) →
        ∀ n, (Turn.onAll (List.replicate n e.look) p).2.state = p.state) := by
  obtain ⟨scene, hs⟩ := Option.isSome_iff_exists.1 (hp.belongs hb).placed
  obtain ⟨asked, hfirst, hstate, hall⟩ := (e.asks_view scene [] []).withCopy p
  rw [← on_look hs] at hstate hall
  refine ⟨scene, hs, ⟨asked, hfirst, hstate⟩, ?_, fun v hv => ?_, looks_leave_state hs⟩
  · rw [on_look hs]
    rfl
  · rw [hstate, GameState.noted_eq_self_iff, hall v hv, List.filterMap_eq_nil_iff]

/-- The gate of the Lantern Road, after the lantern has been lit. -/
theorem look_leaves_notes_lanternRoad :
    let e := LanternRoad.engine
    let p := Operation.afterAll e [.enter "scene.gate", .act "act.lantern"]
      (e.beginning LanternRoad.traveller LanternRoad.alone)
    ∃ scene, e.scene? p.state.currentSceneId = some scene ∧
      (∃ asked, asked <+: scene.conditions ∧
        (e.look.on p).2.state = p.state.noted (asked.filterMap (Condition.note? p.state))) ∧
      (e.look.on p).2.rng = p.rng ∧
      (∀ v, (e.look.on p).1 = .ok v →
        ((e.look.on p).2.state = p.state ↔ ∀ c ∈ scene.conditions, c.note? p.state = none)) ∧
      ((∀ c ∈ scene.conditions, c.note? p.state = none) →
        ∀ n, (Turn.onAll (List.replicate n e.look) p).2.state = p.state) :=
  look_leaves_notes LanternRoad.build_eq (.afterAll (.beginning LanternRoad.alone) _)

end Engine

/-! ### A hut whose door has a broken condition -/

namespace Hut

open LanternRoad

/-- The story of the hut as a document. -/
def document : Json :=
  entry "story.hut" "Hut" [field "version" "1.0.0", field "schemaVersion" "1.0",
    ("ruleModules", .arr []), ("world", .obj [("locations", .arr [])]),
    ("story", .obj [field "startScene" "scene.hut",
      ("scenes", .arr [.obj [field "id" "scene.hut", ("narrative", .obj [field "text" "A hut."]),
        ("exits", .arr [exit "Open the door" "scene.hut"
          [("condition", expression "flag.key &&")]])]])])]

theorem loads : (StoryBundle.load (.document document)).toOption.isSome = true := by
  decide +kernel

def setup : Setup where
  story := (StoryBundle.load (.document document)).toOption.get loads
  lore := []
  modules := []
  locale := none
  consultsModules := false
  features := ⟨false, false, false, false⟩
  maxHops := 64

theorem built : (Engine.build setup).engine.isSome = true := by decide +kernel

/-- The engine of the hut. -/
def engine : Engine := (Engine.build setup).engine.get built

/-- Looking around in the hut again and again. -/
def afterLooks (n : Nat) : Play :=
  (Turn.onAll (List.replicate n engine.look) (engine.beginning traveller alone)).2

/-- **Every look at the hut is noted**: the state of a new game is not what it was, nor is what is
saved of it. -/
theorem looks_add_up :
    (Engine.build setup).engine = some engine ∧ engine.Reachable traveller (afterLooks 0) ∧
      (afterLooks 0).state.history.length = 0 ∧ (afterLooks 1).state.history.length = 1 ∧
      (afterLooks 2).state.history.length = 2 ∧
      (afterLooks 1).state ≠ (afterLooks 0).state ∧
      (afterLooks 1).state.save ≠ (afterLooks 0).state.save := by
  have hlengths : (afterLooks 0).state.history.length = 0 ∧
      (afterLooks 1).state.history.length = 1 ∧
      (afterLooks 2).state.history.length = 2 := by decide +kernel
  have hversions : (afterLooks 0).state.schemaVersion = some "1.0" ∧
      (afterLooks 1).state.schemaVersion = some "1.0" := by decide +kernel
  have hplain : (afterLooks 0).state.toDocument.PlainWithin Json.maxWritten ∧
      (afterLooks 1).state.toDocument.PlainWithin Json.maxWritten := by decide +kernel
  obtain ⟨h₀, h₁, h₂⟩ := hlengths
  have hne : (afterLooks 1).state ≠ (afterLooks 0).state := by
    intro heq
    rw [heq, h₀] at h₁
    cases h₁
  -- what is saved tells the state, so two states are not saved as the same text
  exact ⟨(Option.some_get built).symm, .beginning alone, h₀, h₁, h₂, hne, fun heq =>
    hne (engine.eq_of_save_eq hversions.2 hversions.1 hplain.2 hplain.1 heq)⟩

end Hut

end Storyworld
