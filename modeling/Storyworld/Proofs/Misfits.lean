/-
**How documents are refused.**

A document that does not fit a shape is refused with what is wrong with it, and that is never
nothing.  The one exception are conditions: the text that tells which condition a document is may be
a list or a table, and then nothing is reported.  A shape in which no condition occurs refuses
documents with issues only, and all of them are errors.

Main definitions:

* `Storyworld.Schema.Shape.hasConditions` — conditions occur in a shape;
* `Storyworld.Schema.RefusesFor` — **what is refused is refused for a reason**.

Main results:

* `Storyworld.Schema.refusesFor_conform` — bringing a document into a shape;
* `Storyworld.hasError_of_fit` — **a document that does not fit has errors**, if its shape has no
  conditions.
-/

import Storyworld.Story.Load

set_option relaxedAutoImplicit false
set_option autoImplicit false

namespace Storyworld

namespace Schema

/-! ### Shapes in which conditions occur -/

mutual

/-- Whether conditions occur in a shape. -/
def Shape.hasConditions : Shape → Bool
  | .list item => item.hasConditions
  | .table value => value.hasConditions
  | .record _ fields _ => fields.haveConditions
  | .union rule cases => rule = .condition || cases.haveConditions
  | _ => false

def Fields.haveConditions : Fields → Bool
  | .done => false
  | .field _ _ shape rest => shape.hasConditions || rest.haveConditions

def Cases.haveConditions : Cases → Bool
  | .done => false
  | .case _ shape rest => shape.hasConditions || rest.haveConditions

end

/-- Only of a condition it cannot be told which it is. -/
theorem Rule.eq_condition_of_select {rule : Rule} {tags : List String} {j : Json}
    (h : rule.select tags j = .unusable) : rule = .condition := by
  unfold select at h
  split at h
  any_goals rfl
  any_goals cases h
  split at h
  · cases h
  · split at h <;> cases h

/-! ### Reasons -/

section Reasons

variable {α β : Type} {tags : Prop} {x : Except Refusal α} {y : Except Refusal β}

/-- A refusal gives a reason: misfits, or a tag that cannot be looked up where such tags may be. -/
def Refusal.GivesReason (tags : Prop) : Refusal → Prop
  | misfits found => found ≠ []
  | unusableTag => tags

/-- **What is refused is refused for a reason.** -/
def RefusesFor (tags : Prop) (x : Except Refusal α) : Prop :=
  ∀ r, x = .error r → r.GivesReason tags

theorem refusesFor_ok (a : α) : RefusesFor tags (.ok a : Except Refusal α) := by
  intro r h
  cases h

theorem refusesFor_refuse (message : String) :
    RefusesFor tags (refuse message : Except Refusal α) := by
  rintro r ⟨⟩
  exact List.cons_ne_nil _ _

theorem RefusesFor.map (h : RefusesFor tags x) (f : α → β) : RefusesFor tags (x.map f) := by
  intro r hr
  cases x with
  | ok a => cases hr
  | error r' =>
      cases hr
      exact h r rfl

theorem RefusesFor.under (h : RefusesFor tags x) (step : String) :
    RefusesFor tags (Schema.under step x) := by
  intro r hr
  cases x with
  | ok a => cases hr
  | error r' =>
      cases hr
      have hr' := h r' rfl
      cases r' with
      | misfits found => simpa [Refusal.under, Refusal.GivesReason] using hr'
      | unusableTag => exact hr'

/-- What is wrong with both is the reason of either. -/
theorem RefusesFor.both (hx : RefusesFor tags x) (hy : RefusesFor tags y) :
    RefusesFor tags (Schema.both x y) := by
  intro r hr
  unfold Schema.both at hr
  split at hr
  · cases hr
  · next m m' =>
    cases hr
    have hm : m ≠ [] := hx _ rfl
    simp [Refusal.GivesReason, hm]
  · cases hr
    exact hy _ rfl
  · cases hr
    exact hx _ rfl
  · cases hr
    exact hy _ rfl

/-! ### Parts of a document -/

theorem refusesFor_scalar (wrap : α → Json) (r : Except String α) :
    RefusesFor tags (scalar wrap r) := by
  unfold scalar
  split
  · exact refusesFor_ok _
  · exact refusesFor_refuse _

theorem refusesFor_conformNumber (j : Json) : RefusesFor tags (conformNumber j) := by
  unfold conformNumber
  split
  · exact refusesFor_ok _
  · exact refusesFor_ok _
  · split
    · exact refusesFor_ok _
    · exact refusesFor_ok _
    · rintro r ⟨⟩
      exact List.cons_ne_nil _ _

theorem refusesFor_eachItem {f : Json → Except Refusal Json} (hf : ∀ j, RefusesFor tags (f j))
    (i : Nat) (items : List Json) : RefusesFor tags (eachItem f i items) := by
  induction items generalizing i with
  | nil => exact refusesFor_ok _
  | cons v vs ih => exact (((hf v).under _).both (ih (i + 1))).map _

theorem refusesFor_eachValue {f : Json → Except Refusal Json} (hf : ∀ j, RefusesFor tags (f j))
    (fields : List (String × Json)) : RefusesFor tags (eachValue f fields) := by
  induction fields with
  | nil => exact refusesFor_ok _
  | cons field rest ih => exact (((hf field.2).under _).both ih).map _

theorem refusesFor_conformField {f : Json → Except Refusal Json}
    (hf : ∀ j, RefusesFor tags (f j)) (need : Need) (name : String)
    (given : List (String × Json)) : RefusesFor tags (conformField need name f given) := by
  unfold conformField
  dsimp only
  split
  · exact (refusesFor_refuse _).under _
  · exact refusesFor_ok _
  · exact refusesFor_ok _
  · exact refusesFor_ok _
  · exact refusesFor_ok _
  · exact refusesFor_ok _
  · exact ((hf _).map _).under _

end Reasons

/-! ### Whole documents -/

variable {tags : Prop}

mutual

/-- **A document is refused for a reason.** -/
theorem refusesFor_conform : ∀ (shape : Shape) (_ : shape.hasConditions = true → tags) (j : Json),
    RefusesFor tags (conform shape j)
  | .text, _, j => by
      unfold conform
      split
      · exact refusesFor_ok _
      · exact refusesFor_refuse _
  | .integer, _, j => refusesFor_scalar _ _
  | .number, _, j => refusesFor_conformNumber j
  | .boolean, _, j => refusesFor_scalar _ _
  | .anything, _, j => refusesFor_ok j
  | .word choices, _, j => by
      unfold conform
      split
      · exact refusesFor_ok _
      · exact refusesFor_refuse _
  | .list item, h, j => by
      unfold conform
      split
      · exact (refusesFor_eachItem (refusesFor_conform item h) 0 _).map _
      · exact refusesFor_refuse _
  | .table value, h, j => by
      unfold conform
      split
      · exact (refusesFor_eachValue (refusesFor_conform value h) _).map _
      · exact refusesFor_refuse _
  | .record name fields isOpen, h, j => by
      unfold conform
      split
      · exact (refusesFor_conformFields fields h _).map _
      · exact refusesFor_refuse _
  | .union rule cases, h, j => by
      unfold conform
      split
      · refine (refusesFor_conformCase cases (fun hcases => h ?_) _ j).under _
        rw [Shape.hasConditions, hcases, Bool.or_true]
      · exact refusesFor_refuse _
      · next hselect =>
        rintro r ⟨⟩
        refine h ?_
        rw [Shape.hasConditions, decide_eq_true (Rule.eq_condition_of_select hselect),
          Bool.true_or]

theorem refusesFor_conformFields : ∀ (fields : Fields)
    (_ : fields.haveConditions = true → tags) (given : List (String × Json)),
    RefusesFor tags (conformFields fields given)
  | .done, _, _ => refusesFor_ok _
  | .field name need shape rest, h, given => by
      simp only [Fields.haveConditions, Bool.or_eq_true] at h
      have hfield := refusesFor_conformField
        (refusesFor_conform shape fun hshape => h (.inl hshape)) need name given
      have hrest := refusesFor_conformFields rest (fun hrest => h (.inr hrest)) given
      exact (hfield.both hrest).map _

theorem refusesFor_conformCase : ∀ (cases : Cases) (_ : cases.haveConditions = true → tags)
    (tag : String) (j : Json), RefusesFor tags (conformCase cases tag j)
  | .done, _, _, j => refusesFor_ok j
  | .case name shape rest, h, tag, j => by
      simp only [Cases.haveConditions, Bool.or_eq_true] at h
      unfold conformCase
      split
      · exact refusesFor_conform shape (fun hshape => h (.inl hshape)) j
      · exact refusesFor_conformCase rest (fun hrest => h (.inr hrest)) tag j

end

end Schema

/-! ### Issues -/

/-- **A document that does not fit has errors**, if its shape has no conditions. -/
theorem hasError_of_fit {shape : Schema.Shape} (hshape : shape.hasConditions = false) {j : Json}
    {f : Fault} (h : fit shape j = .error f) : Issue.hasError f.issues = true := by
  have hreason : Schema.RefusesFor False (Schema.conform shape j) :=
    Schema.refusesFor_conform shape (by simp [hshape]) j
  unfold fit at h
  split at h
  · cases h
  · next found hfound =>
    cases h
    obtain ⟨m, rest, rfl⟩ := List.exists_cons_of_ne_nil (hreason _ hfound)
    rfl
  · next hfound => exact (hreason _ hfound).elim

end Storyworld
