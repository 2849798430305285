/-
**Reasoning about turns.**

A turn takes a play to a play and gives a result or a fault.  What a turn does is computed step by
step by the equations for `Turn.on`; what a turn *cannot* do is followed through a program by three
properties, each of which passes from the parts of a program to the whole: the relation in which the
plays before and after it stand, what its results are like, and what its faults are like.

Main definitions:

* `Storyworld.Turn.Keeps` — the plays before and after a turn stand in a relation, whatever comes
  of the turn;
* `Storyworld.Turn.Gives` — what the results of a turn are like;
* `Storyworld.Turn.FailsOnly` — what the faults of a turn are like.

Main results:

* `Storyworld.Turn.on_bind` — what comes of two turns in a row;
* `Storyworld.Turn.Keeps.bind`, `Storyworld.Turn.Gives.bind`, `Storyworld.Turn.FailsOnly.bind` —
  **from the parts of a turn to the whole**.
-/

import Storyworld.Play.Turn

set_option relaxedAutoImplicit false
set_option autoImplicit false

namespace Storyworld

/-! ### Results and faults -/

theorem map_eq_ok {ε α β : Type} {r : Except ε α} {f : α → β} {b : β} (h : r.map f = .ok b) :
    ∃ a, r = .ok a ∧ f a = b := by
  cases r with
  | error x => cases h
  | ok a => exact ⟨a, rfl, Except.ok.inj h⟩

theorem map_eq_error {ε α β : Type} {r : Except ε α} {f : α → β} {x : ε}
    (h : r.map f = .error x) : r = .error x := by
  cases r with
  | error y => exact congrArg _ (Except.error.inj h)
  | ok a => cases h

theorem mapError_eq_ok {ε ε' α : Type} {r : Except ε α} {f : ε → ε'} {a : α}
    (h : r.mapError f = .ok a) : r = .ok a := by
  cases r with
  | error x => cases h
  | ok b => exact congrArg _ (Except.ok.inj h)

theorem eq_ok_of_isSome {ε α : Type} {r : Except ε α} (h : r.toOption.isSome = true) :
    r = .ok (r.toOption.get h) := by
  cases r with
  | ok a => rfl
  | error e => cases h

/-- A play with an entry more in its log. -/
def Play.record (p : Play) (kind : EventKind) (sceneId actionId : Option String)
    (data : Option (Table Json)) : Play :=
  { p with state := p.state.record kind sceneId actionId data }

namespace Turn

variable {α β : Type}

/-! ### What comes of a turn -/

@[simp] theorem on_pure (a : α) (p : Play) : (pure a : Turn α).on p = (.ok a, p) := rfl

@[simp] theorem on_throw (f : Fault) (p : Play) : (throw f : Turn α).on p = (.error f, p) := rfl

/-- What comes of two turns in a row: the second is not begun if the first ends in a fault. -/
theorem on_bind (t : Turn α) (k : α → Turn β) (p : Play) :
    (t >>= k).on p = match t.on p with
      | (.ok a, q) => (k a).on q
      | (.error f, q) => (.error f, q) := by
  simp only [on, ExceptT.run_bind, StateT.run_bind]
  rcases StateT.run (ExceptT.run t) p with ⟨r, q⟩
  cases r <;> rfl

theorem on_bind_ok {t : Turn α} {k : α → Turn β} {p q : Play} {a : α} (h : t.on p = (.ok a, q)) :
    (t >>= k).on p = (k a).on q := by
  rw [on_bind, h]

theorem on_bind_error {t : Turn α} {k : α → Turn β} {p q : Play} {f : Fault}
    (h : t.on p = (.error f, q)) : (t >>= k).on p = (.error f, q) := by
  rw [on_bind, h]

/-- Two turns in a row give a result if each of them does. -/
theorem on_bind_eq_ok {t : Turn α} {k : α → Turn β} {p q : Play} {b : β} :
    (t >>= k).on p = (.ok b, q) ↔ ∃ a p₁, t.on p = (.ok a, p₁) ∧ (k a).on p₁ = (.ok b, q) := by
  rcases h : t.on p with ⟨f | a, p₁⟩
  · simp [on_bind_error h]
  · rw [on_bind_ok h]
    constructor
    · exact fun hk => ⟨a, p₁, rfl, hk⟩
    · rintro ⟨_, _, ht, hk⟩
      cases ht
      exact hk

@[simp] theorem on_get (p : Play) : (get : Turn Play).on p = (.ok p, p) := rfl

@[simp] theorem on_set (p q : Play) : (set q : Turn PUnit).on p = (.ok (), q) := rfl

@[simp] theorem on_state (p : Play) : state.on p = (.ok p.state, p) := rfl

@[simp] theorem on_change (f : GameState → GameState) (p : Play) :
    (change f).on p = (.ok (), { p with state := f p.state }) := rfl

@[simp] theorem on_warn (i : Issue) (p : Play) :
    (warn i).on p = (.ok (), { p with warnings := p.warnings ++ [i] }) := rfl

@[simp] theorem on_record (kind : EventKind) (sceneId actionId : Option String)
    (data : Option (Table Json)) (p : Play) :
    (record kind sceneId actionId data).on p = (.ok (), p.record kind sceneId actionId data) := rfl

@[simp] theorem on_draw (p : Play) :
    draw.on p = (.ok p.rng.next.1, { p with rng := p.rng.next.2 }) := rfl

@[simp] theorem on_withCopy (t : Turn α) (p : Play) :
    t.withCopy.on p = ((t.on p).1, { (t.on p).2 with rng := p.rng }) := rfl

@[simp] theorem on_ofExcept (r : Except Fault α) (p : Play) : (ofExcept r).on p = (r, p) := by
  cases r <;> rfl

/-! ### The plays before and after a turn -/

/-- The plays before and after a turn stand in a relation, whether the turn gives a result or ends
in a fault. -/
def Keeps (R : Play → Play → Prop) (t : Turn α) : Prop := ∀ p, R p (t.on p).2

theorem Keeps.of_on {R : Play → Play → Prop} {t : Turn α} (h : t.Keeps R) {p q : Play}
    {r : Except Fault α} (ht : t.on p = (r, q)) : R p q := by
  have := h p
  rwa [ht] at this

theorem keeps_of_on {R : Play → Play → Prop} {t : Turn α}
    (h : ∀ p q r, t.on p = (r, q) → R p q) : t.Keeps R := fun p => h p _ _ rfl

theorem keeps_of_unchanged {R : Play → Play → Prop} (hr : ∀ p, R p p) {t : Turn α}
    (ht : ∀ p, (t.on p).2 = p) : t.Keeps R := by
  intro p
  rw [ht]
  exact hr p

/-! ### Results -/

/-- What the results of a turn are like. -/
def Gives (Q : α → Prop) (t : Turn α) : Prop := ∀ p q a, t.on p = (.ok a, q) → Q a

theorem gives_pure {Q : α → Prop} {a : α} (h : Q a) : (pure a : Turn α).Gives Q := by
  intro p q b hb
  cases hb
  exact h

theorem Gives.bind {Q : α → Prop} {S : β → Prop} {t : Turn α} {k : α → Turn β} (ht : t.Gives Q)
    (hk : ∀ a, Q a → (k a).Gives S) : (t >>= k).Gives S := by
  intro p q b hb
  obtain ⟨a, p₁, ha, hrest⟩ := on_bind_eq_ok.1 hb
  exact hk a (ht p p₁ a ha) p₁ q b hrest

/-- A relation leads through two turns in a row, of which the second only has to do with what the
first can give. -/
theorem Keeps.bind_gives {R : Play → Play → Prop} {Q : α → Prop} {t : Turn α} {k : α → Turn β}
    (ht : t.Keeps R) (htrans : ∀ p q r, R p q → R q r → R p r) (hg : t.Gives Q)
    (hk : ∀ a, Q a → (k a).Keeps R) : (t >>= k).Keeps R := by
  intro p
  rcases h : t.on p with ⟨r, q⟩
  cases r with
  | ok a =>
      rw [on_bind_ok h]
      exact htrans p q _ (ht.of_on h) (hk a (hg p q a h) q)
  | error f =>
      rw [on_bind_error h]
      exact ht.of_on h

/-- A result of a turn that is followed by another. -/
theorem gives_true (t : Turn α) : t.Gives fun _ => True := fun _ _ _ _ => trivial

/-- **A relation that leads from each part of a turn to the next leads through the whole turn.** -/
theorem Keeps.bind {R : Play → Play → Prop} (htrans : ∀ p q r, R p q → R q r → R p r)
    {t : Turn α} {k : α → Turn β} (ht : t.Keeps R) (hk : ∀ a, (k a).Keeps R) :
    (t >>= k).Keeps R := ht.bind_gives htrans (gives_true t) fun a _ => hk a

/-! ### Faults -/

/-- What the faults of a turn are like. -/
def FailsOnly (F : Fault → Prop) (t : Turn α) : Prop := ∀ p q f, t.on p = (.error f, q) → F f

theorem failsOnly_of_ok {F : Fault → Prop} {t : Turn α} (h : ∀ p, ∃ a, (t.on p).1 = .ok a) :
    t.FailsOnly F := by
  intro p q f hf
  obtain ⟨a, ha⟩ := h p
  rw [hf] at ha
  cases ha

theorem failsOnly_throw {F : Fault → Prop} {f : Fault} (h : F f) :
    (throw f : Turn α).FailsOnly F := by
  intro p q g hg
  cases hg
  exact h

theorem failsOnly_ofExcept {F : Fault → Prop} {r : Except Fault α}
    (h : ∀ f, r = .error f → F f) : (ofExcept r).FailsOnly F := by
  intro p q f hf
  rw [on_ofExcept] at hf
  exact h f (Prod.mk.inj hf).1

theorem FailsOnly.bind {F : Fault → Prop} {t : Turn α} {k : α → Turn β} (ht : t.FailsOnly F)
    (hk : ∀ a, (k a).FailsOnly F) : (t >>= k).FailsOnly F := by
  intro p q f hf
  rcases h : t.on p with ⟨r, p₁⟩
  cases r with
  | ok a =>
      rw [on_bind_ok h] at hf
      exact hk a p₁ q f hf
  | error g =>
      rw [on_bind_error h] at hf
      cases hf
      exact ht p _ _ h

end Turn

end Storyworld
