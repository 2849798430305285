/-
**Conditions of which it cannot be told what they are.**

A condition is told by the text in its field `type`.  Where a list or a table stands there, the tag
cannot be looked up, and the whole document is given up without a word on what is wrong with it.
Nothing else has this effect, and it makes no difference where in the document the condition is,
how many misfits are reported before it, or after it.

Main definitions:

* `Storyworld.Schema.Reads` — **a part of a document that is read, and the shape expected of it**;
* `Storyworld.Schema.Untellable` — a condition is read whose type is a list or a table.

Main results:

* `Storyworld.Schema.both_eq_unusable`, `Storyworld.Schema.conformFields_eq_unusable` — what is given
  up is given up for one of its parts;
* `Storyworld.Schema.unusable_of_reads` — from a part to the whole;
* `Storyworld.Schema.conform_eq_unusable_iff` — **a document is given up just if it holds such a
  condition**.
-/

import Storyworld.Proofs.Conforming
import Storyworld.Proofs.Misfits

set_option relaxedAutoImplicit false
set_option autoImplicit false

namespace Storyworld

namespace Schema

/-! ### Parts that are read -/

/-- The fields of a record: their names, whether they must be given, and their shapes. -/
def Fields.toList : Fields → List (String × Need × Shape)
  | .done => []
  | .field name need shape rest => (name, need, shape) :: rest.toList

/-- The shape of a case. -/
def Cases.shape? (tag : String) : Cases → Option Shape
  | .done => none
  | .case name shape rest => if name = tag then some shape else rest.shape? tag

/-- Whether a value is passed over: a null, where the field may be absent. -/
def Need.skips : Need → Json → Bool
  | .optional, .null => true
  | .optionalDefaulted _, .null => true
  | _, _ => false

/-- **A part of a document that is read**, and the shape that is expected of it, while the document
is brought into a shape. -/
inductive Reads : Shape → Json → Shape → Json → Prop
  | whole (shape : Shape) (j : Json) : Reads shape j shape j
  | item {item part : Shape} {vs : List Json} {v w : Json} (hv : v ∈ vs)
      (h : Reads item v part w) : Reads (.list item) (.arr vs) part w
  | value {value part : Shape} {fs : List (String × Json)} {f : String × Json} {w : Json}
      (hf : f ∈ fs) (h : Reads value f.2 part w) : Reads (.table value) (.obj fs) part w
  | field {record name k : String} {fields : Fields} {isOpen : Bool} {need : Need}
      {shape part : Shape} {given : List (String × Json)} {v w : Json}
      (hmem : (name, need, shape) ∈ fields.toList) (hv : lookup? given name = some (k, v))
      (hneed : need.skips v = false) (h : Reads shape v part w) :
      Reads (.record record fields isOpen) (.obj given) part w
  | case {rule : Rule} {cases : Cases} {tag : String} {shape part : Shape} {j w : Json}
      (hselect : rule.select cases.tags j = .case tag) (hshape : cases.shape? tag = some shape)
      (h : Reads shape j part w) : Reads (.union rule cases) j part w

/-- Whether a document is a list or a table. -/
def isTree : Json → Bool
  | .arr _ => true
  | .obj _ => true
  | _ => false

/-- **A condition is read whose type is a list or a table.** -/
def Untellable (shape : Shape) (j : Json) : Prop :=
  ∃ cases w v, Reads shape j (.union .condition cases) w ∧ w.field? "type" = some v ∧
    isTree v = true

theorem Rule.select_eq_unusable_iff {tags : List String} {j : Json} :
    Rule.condition.select tags j = .unusable ↔ ∃ v, j.field? "type" = some v ∧ isTree v = true := by
  unfold select
  dsimp only
  cases htype : j.field? "type" with
  | none => simp
  | some v => cases v <;> simp [isTree]

/-! ### What is given up -/

section GivenUp

variable {α β : Type} {x : Except Refusal α} {y : Except Refusal β}

theorem map_eq_unusable (f : α → β) :
    x.map f = .error .unusableTag ↔ x = .error .unusableTag := by
  cases x with
  | ok a => exact ⟨nofun, nofun⟩
  | error r => simp [Except.map]

theorem under_eq_unusable (step : String) :
    under step x = .error .unusableTag ↔ x = .error .unusableTag := by
  cases x with
  | ok a => exact ⟨nofun, nofun⟩
  | error r =>
      cases r with
      | misfits found => exact ⟨nofun, nofun⟩
      | unusableTag => exact ⟨fun _ => rfl, fun _ => rfl⟩

/-- Misfits in one of two values do not keep the other from being given up. -/
theorem both_eq_unusable :
    both x y = .error .unusableTag ↔ x = .error .unusableTag ∨ y = .error .unusableTag := by
  cases x with
  | ok a =>
      cases y with
      | ok b => simp [both]
      | error r => cases r <;> simp [both]
  | error r =>
      cases r with
      | misfits found =>
          cases y with
          | ok b => simp [both]
          | error r => cases r <;> simp [both]
      | unusableTag => simp [both]

theorem eachItem_eq_unusable {f : Json → Except Refusal Json} {i : Nat} {vs : List Json} :
    eachItem f i vs = .error .unusableTag ↔ ∃ v ∈ vs, f v = .error .unusableTag := by
  induction vs generalizing i with
  | nil => simp [eachItem]
  | cons v vs ih =>
      rw [eachItem, map_eq_unusable, both_eq_unusable, under_eq_unusable, ih]
      simp

theorem eachValue_eq_unusable {f : Json → Except Refusal Json} {fs : List (String × Json)} :
    eachValue f fs = .error .unusableTag ↔ ∃ g ∈ fs, f g.2 = .error .unusableTag := by
  induction fs with
  | nil => simp [eachValue]
  | cons g fs ih =>
      rw [eachValue, map_eq_unusable, both_eq_unusable, under_eq_unusable, ih]
      simp

theorem conformField_eq_unusable {need : Need} {name : String} {f : Json → Except Refusal Json}
    {given : List (String × Json)} :
    conformField need name f given = .error .unusableTag ↔
      ∃ k v, lookup? given name = some (k, v) ∧ need.skips v = false ∧
        f v = .error .unusableTag := by
  unfold conformField
  cases hlookup : lookup? given name with
  | none => cases need <;> simp [under_eq_unusable, refuse]
  | some kv =>
      obtain ⟨k, v⟩ := kv
      have hread (hskips : need.skips v = false) :
          under k ((f v).map fun w => [(name, w)]) = .error .unusableTag ↔
            ∃ l w, some (k, v) = some (l, w) ∧ need.skips w = false ∧ f w = .error .unusableTag := by
        rw [under_eq_unusable, map_eq_unusable]
        constructor
        · intro h
          exact ⟨k, v, rfl, hskips, h⟩
        · rintro ⟨l, w, hw, -, h⟩
          cases hw
          exact h
      cases need <;> cases v <;> first | exact hread rfl | simp [Need.skips]

end GivenUp

/-- What is given up of the fields of a record is one of them. -/
theorem conformFields_eq_unusable {given : List (String × Json)} : ∀ {fields : Fields},
    conformFields fields given = .error .unusableTag ↔
      ∃ f ∈ fields.toList, ∃ k v, lookup? given f.1 = some (k, v) ∧ f.2.1.skips v = false ∧
        conform f.2.2 v = .error .unusableTag
  | .done => by simp [conformFields, Fields.toList]
  | .field name need shape rest => by
      rw [conformFields, map_eq_unusable, both_eq_unusable, conformField_eq_unusable,
        conformFields_eq_unusable, Fields.toList]
      simp

theorem conformCase_eq_unusable {tag : String} {j : Json} : ∀ {cases : Cases},
    conformCase cases tag j = .error .unusableTag ↔
      ∃ shape, cases.shape? tag = some shape ∧ conform shape j = .error .unusableTag
  | .done => by simp [conformCase, Cases.shape?]
  | .case name shape rest => by
      rw [conformCase, Cases.shape?]
      split
      · simp
      · exact conformCase_eq_unusable

/-! ### From a part to the whole -/

/-- **If a part of a document is given up, so is the document.** -/
theorem unusable_of_reads {shape part : Shape} {j w : Json} (h : Reads shape j part w)
    (hpart : conform part w = .error .unusableTag) : conform shape j = .error .unusableTag := by
  induction h with
  | whole => exact hpart
  | item hv _ ih =>
      rw [conform, map_eq_unusable, eachItem_eq_unusable]
      exact ⟨_, hv, ih hpart⟩
  | value hf _ ih =>
      rw [conform, map_eq_unusable, eachValue_eq_unusable]
      exact ⟨_, hf, ih hpart⟩
  | field hmem hv hneed _ ih =>
      rw [conform, map_eq_unusable, conformFields_eq_unusable]
      exact ⟨_, hmem, _, _, hv, hneed, ih hpart⟩
  | case hselect hshape _ ih =>
      rw [conform, hselect, under_eq_unusable, conformCase_eq_unusable]
      exact ⟨_, hshape, ih hpart⟩

/-! ### From the whole to a part -/

/-- A part of a part is a part. -/
theorem Untellable.of_part {shape part : Shape} {j w : Json}
    (hpart : ∀ {s x}, Reads part w s x → Reads shape j s x) (h : Untellable part w) :
    Untellable shape j := by
  obtain ⟨cases, x, v, hx, hv⟩ := h
  exact ⟨cases, x, v, hpart hx, hv⟩

mutual

/-- **What is given up holds a condition that cannot be told.** -/
theorem untellable_of_conform : ∀ {shape : Shape} {j : Json},
    conform shape j = .error .unusableTag → Untellable shape j
  | .text, j, h => by
      unfold conform at h
      split at h <;> cases h
  | .integer, j, h => by
      unfold conform scalar at h
      split at h <;> cases h
  | .number, j, h => by
      unfold conform conformNumber at h
      split at h
      · cases h
      · cases h
      · split at h <;> cases h
  | .boolean, j, h => by
      unfold conform scalar at h
      split at h <;> cases h
  | .anything, j, h => by cases h
  | .word choices, j, h => by
      unfold conform at h
      split at h <;> cases h
  | .list item, j, h => by
      unfold conform at h
      split at h
      · rw [map_eq_unusable, eachItem_eq_unusable] at h
        obtain ⟨v, hv, hitem⟩ := h
        exact (untellable_of_conform hitem).of_part (.item hv)
      · cases h
  | .table value, j, h => by
      unfold conform at h
      split at h
      · rw [map_eq_unusable, eachValue_eq_unusable] at h
        obtain ⟨f, hf, hvalue⟩ := h
        exact (untellable_of_conform hvalue).of_part (.value hf)
      · cases h
  | .record name fields isOpen, j, h => by
      unfold conform at h
      split at h
      · rw [map_eq_unusable] at h
        obtain ⟨f, hf, k, v, hv, hneed, hfield⟩ := untellable_of_conformFields h
        exact hfield.of_part (.field hf hv hneed)
      · cases h
  | .union rule cases, j, h => by
      unfold conform at h
      split at h
      · next tag hselect =>
        rw [under_eq_unusable] at h
        obtain ⟨shape, hshape, hcase⟩ := untellable_of_conformCase h
        exact hcase.of_part (.case hselect hshape)
      · cases h
      · next hselect =>
        obtain rfl := Rule.eq_condition_of_select hselect
        obtain ⟨v, hv⟩ := Rule.select_eq_unusable_iff.1 hselect
        exact ⟨cases, j, v, .whole _ j, hv⟩

theorem untellable_of_conformFields : ∀ {fields : Fields} {given : List (String × Json)},
    conformFields fields given = .error .unusableTag →
      ∃ f ∈ fields.toList, ∃ k v, lookup? given f.1 = some (k, v) ∧ f.2.1.skips v = false ∧
        Untellable f.2.2 v
  | .done, given, h => by cases h
  | .field name need shape rest, given, h => by
      rw [conformFields, map_eq_unusable, both_eq_unusable, conformField_eq_unusable] at h
      rcases h with ⟨k, v, hv, hneed, hfield⟩ | hrest
      · exact ⟨(name, need, shape), List.mem_cons_self, k, v, hv, hneed,
          untellable_of_conform hfield⟩
      · obtain ⟨f, hf, hfield⟩ := untellable_of_conformFields hrest
        exact ⟨f, List.mem_cons_of_mem _ hf, hfield⟩

theorem untellable_of_conformCase : ∀ {cases : Cases} {tag : String} {j : Json},
    conformCase cases tag j = .error .unusableTag →
      ∃ shape, cases.shape? tag = some shape ∧ Untellable shape j
  | .done, tag, j, h => by cases h
  | .case name shape rest, tag, j, h => by
      rw [conformCase] at h
      rw [Cases.shape?]
      split at h
      · next hname =>
        rw [if_pos hname]
        exact ⟨shape, rfl, untellable_of_conform h⟩
      · next hname =>
        rw [if_neg hname]
        exact untellable_of_conformCase h

end

/-- **A document is given up just if it holds a condition that cannot be told.** -/
theorem conform_eq_unusable_iff {shape : Shape} {j : Json} :
    conform shape j = .error .unusableTag ↔ Untellable shape j := by
  refine ⟨untellable_of_conform, ?_⟩
  rintro ⟨cases, w, v, hw, hv⟩
  refine unusable_of_reads hw ?_
  rw [conform, Rule.select_eq_unusable_iff.2 ⟨v, hv⟩]

end Schema

end Storyworld
