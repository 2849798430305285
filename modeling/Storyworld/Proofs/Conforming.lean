/-
**What documents in their shape come of, and how they are written.**

Bringing a document into a shape may fail in many ways, but what it gives is simple: a text of a
text, a list of a list, and a record of a table, with the fields that the record knows in front of
those that it does not.  Writing then keeps the fields in their order.

Main definitions:

* `Storyworld.Schema.isNull` — a document is null.

Main results:

* `Storyworld.Schema.conform_list_eq_ok`, `Storyworld.Schema.conform_table_eq_ok` — lists and
  tables;
* `Storyworld.Schema.conform_record_eq_ok`, `Storyworld.Schema.written_record` — **records**;
* `Storyworld.Schema.conform_union_eq_ok`, `Storyworld.Schema.written_union` — unions.
-/

import Storyworld.Proofs.Shapes
import Storyworld.Proofs.Turn
import Storyworld.Story.Load

set_option relaxedAutoImplicit false
set_option autoImplicit false

namespace Storyworld

namespace Schema

/-! ### Scalars -/

theorem under_eq_ok {α : Type} {step : String} {r : Except Refusal α} {a : α}
    (h : under step r = .ok a) : r = .ok a := mapError_eq_ok h

theorem both_eq_ok {α β : Type} {x : Except Refusal α} {y : Except Refusal β} {c : α × β}
    (h : both x y = .ok c) : x = .ok c.1 ∧ y = .ok c.2 := by
  unfold both at h
  split at h <;> cases h
  exact ⟨rfl, rfl⟩

/-- A text that is brought into its shape stays as it is. -/
theorem eq_str_of_conform_text {j d : Json} (h : conform .text j = .ok d) :
    ∃ s, j = .str s ∧ d = .str s := by
  unfold conform at h
  split at h
  · next s =>
    cases h
    exact ⟨s, rfl, rfl⟩
  · cases h

theorem eq_str_of_conform_word {choices : List String} {j d : Json}
    (h : conform (.word choices) j = .ok d) : ∃ s, j = .str s ∧ d = .str s := by
  unfold conform at h
  split at h
  · next hany =>
    cases h
    cases j with
    | str s => exact ⟨s, rfl, rfl⟩
    | _ => cases hany
  · cases h

theorem exists_of_scalar {α : Type} {wrap : α → Json} {r : Except String α} {d : Json}
    (h : scalar wrap r = .ok d) : ∃ a, d = wrap a := by
  unfold scalar at h
  split at h <;> cases h
  exact ⟨_, rfl⟩

theorem number_of_conform {j d : Json} (h : conformNumber j = .ok d) :
    (∃ n, d = .int n) ∨ ∃ x, d = .float x := by
  unfold conformNumber at h
  split at h
  · cases h
    exact .inl ⟨_, rfl⟩
  · cases h
    exact .inr ⟨_, rfl⟩
  · split at h <;> cases h
    · exact .inl ⟨_, rfl⟩
    · exact .inr ⟨_, rfl⟩

/-! ### Lists and tables -/

theorem eachItem_cons_eq_ok {f : Json → Except Refusal Json} {i : Nat} {v : Json}
    {vs ws : List Json} (h : eachItem f i (v :: vs) = .ok ws) :
    ∃ w rest, f v = .ok w ∧ eachItem f (i + 1) vs = .ok rest ∧ ws = w :: rest := by
  obtain ⟨⟨w, rest⟩, hboth, rfl⟩ := map_eq_ok h
  obtain ⟨hv, hrest⟩ := both_eq_ok hboth
  exact ⟨w, rest, under_eq_ok hv, hrest, rfl⟩

/-- Every item of the result comes of an item of the list. -/
theorem exists_of_eachItem {f : Json → Except Refusal Json} {i : Nat} {vs ws : List Json}
    (h : eachItem f i vs = .ok ws) : ∀ w ∈ ws, ∃ v ∈ vs, f v = .ok w := by
  induction vs generalizing i ws with
  | nil =>
      cases h
      intro w hw
      cases hw
  | cons v vs ih =>
      obtain ⟨w, rest, hv, hrest, rfl⟩ := eachItem_cons_eq_ok h
      intro u hu
      rcases List.mem_cons.1 hu with rfl | hu
      · exact ⟨v, List.mem_cons_self, hv⟩
      · obtain ⟨x, hx, hfx⟩ := ih hrest u hu
        exact ⟨x, List.mem_cons_of_mem v hx, hfx⟩

/-- What is read as a list was a list. -/
theorem conform_list_eq_ok {item : Shape} {j d : Json} (h : conform (.list item) j = .ok d) :
    ∃ vs ws, j = .arr vs ∧ eachItem (conform item) 0 vs = .ok ws ∧ d = .arr ws := by
  unfold conform at h
  split at h
  · next vs =>
    obtain ⟨ws, hws, rfl⟩ := map_eq_ok h
    exact ⟨vs, ws, rfl, hws, rfl⟩
  · cases h

/-- Every value of the result comes of a value of the table. -/
theorem exists_of_eachValue {f : Json → Except Refusal Json} {fs gs : List (String × Json)}
    (h : eachValue f fs = .ok gs) : ∀ g ∈ gs, ∃ x ∈ fs, f x.2 = .ok g.2 := by
  induction fs generalizing gs with
  | nil =>
      cases h
      intro g hg
      cases hg
  | cons x fs ih =>
      obtain ⟨⟨w, rest⟩, hboth, rfl⟩ := map_eq_ok h
      obtain ⟨hx, hrest⟩ := both_eq_ok hboth
      intro g hg
      rcases List.mem_cons.1 hg with rfl | hg
      · exact ⟨x, List.mem_cons_self, under_eq_ok hx⟩
      · obtain ⟨y, hy, hfy⟩ := ih hrest g hg
        exact ⟨y, List.mem_cons_of_mem x hy, hfy⟩

/-- What is read as a table was a table. -/
theorem conform_table_eq_ok {value : Shape} {j d : Json} (h : conform (.table value) j = .ok d) :
    ∃ fs gs, j = .obj fs ∧ eachValue (conform value) fs = .ok gs ∧ d = .obj gs := by
  unfold conform at h
  split at h
  · next fs =>
    obtain ⟨gs, hgs, rfl⟩ := map_eq_ok h
    exact ⟨fs, gs, rfl, hgs, rfl⟩
  · cases h

/-! ### Fields -/

/-- What is read of a field: nothing, where that is allowed, or a value under its name. -/
theorem conformField_eq_ok {need : Need} {name : String} {f : Json → Except Refusal Json}
    {given a : List (String × Json)} (h : conformField need name f given = .ok a) :
    (need ≠ .required ∧ a = []) ∨ ∃ w, a = [(name, w)] := by
  unfold conformField at h
  dsimp only at h
  split at h
  · cases h
  · cases h
    exact .inl ⟨nofun, rfl⟩
  · cases h
    exact .inr ⟨_, rfl⟩
  · cases h
    exact .inr ⟨_, rfl⟩
  · cases h
    exact .inl ⟨nofun, rfl⟩
  · cases h
    exact .inl ⟨nofun, rfl⟩
  · obtain ⟨w, -, rfl⟩ := map_eq_ok (under_eq_ok h)
    exact .inr ⟨w, rfl⟩

/-- What is read of a field that is given and not null: the value in its shape, under the name. -/
theorem conformField_given_eq_ok {need : Need} {name k : String} {v : Json}
    {f : Json → Except Refusal Json} {given a : List (String × Json)}
    (hlookup : lookup? given name = some (k, v)) (hnull : v ≠ .null)
    (h : conformField need name f given = .ok a) : ∃ w, f v = .ok w ∧ a = [(name, w)] := by
  unfold conformField at h
  dsimp only at h
  rw [hlookup] at h
  split at h
  any_goals contradiction
  · next hsome =>
    cases hsome
    exact absurd rfl hnull
  · next hsome =>
    cases hsome
    exact absurd rfl hnull
  · next hsome _ _ =>
    cases hsome
    obtain ⟨w, hw, rfl⟩ := map_eq_ok (under_eq_ok h)
    exact ⟨w, hw, rfl⟩

theorem conformFields_field_eq_ok {name : String} {need : Need} {shape : Shape} {rest : Fields}
    {given read : List (String × Json)}
    (h : conformFields (.field name need shape rest) given = .ok read) :
    ∃ a b, conformField need name (conform shape) given = .ok a ∧
      conformFields rest given = .ok b ∧ read = a ++ b := by
  rw [conformFields] at h
  obtain ⟨⟨a, b⟩, hboth, rfl⟩ := map_eq_ok h
  obtain ⟨ha, hb⟩ := both_eq_ok hboth
  exact ⟨a, b, ha, hb, rfl⟩

theorem mem_names_of_conformFields {given : List (String × Json)} : ∀ {fields : Fields}
    {read : List (String × Json)}, conformFields fields given = .ok read →
      ∀ f ∈ read, f.1 ∈ fields.names
  | .done, _, h => by
      cases h
      intro f hf
      cases hf
  | .field name _ _ rest, _, h => by
      obtain ⟨a, b, ha, hb, rfl⟩ := conformFields_field_eq_ok h
      intro f hf
      rcases List.mem_append.1 hf with hf | hf
      · rcases conformField_eq_ok ha with ⟨-, rfl⟩ | ⟨w, rfl⟩
        · cases hf
        · rw [List.mem_singleton.1 hf]
          exact List.mem_cons_self
      · exact List.mem_cons_of_mem name (mem_names_of_conformFields hb f hf)

theorem isKnown_of_mem {k : String} : ∀ {fields : Fields}, k ∈ fields.names →
    fields.isKnown k = true
  | .done, h => by cases h
  | .field name _ _ rest, h => by
      rw [Fields.isKnown]
      rcases List.mem_cons.1 h with rfl | h
      · simp
      · simp [isKnown_of_mem h]

/-- What is unknown is neither the name of a field nor its other name. -/
theorem ne_of_unknown {k : String} : ∀ {fields : Fields}, fields.isKnown k = false →
    ∀ name ∈ fields.names, name ≠ k ∧ alternate name ≠ k
  | .done, _, _, hname => by cases hname
  | .field _ _ _ rest, h, name, hname => by
      simp only [Fields.isKnown, Bool.or_eq_false_iff, beq_eq_false_iff_ne] at h
      rcases List.mem_cons.1 hname with rfl | hname
      · exact ⟨h.1.1.symm, h.1.2.symm⟩
      · exact ne_of_unknown h.2 name hname

theorem get?_eq_none_of_ne {fs : List (String × Json)} {k : String} (h : ∀ f ∈ fs, f.1 ≠ k) :
    Table.get? fs k = none := by
  induction fs with
  | nil => rfl
  | cons f fs ih =>
      obtain ⟨l, v⟩ := f
      have hl : l ≠ k := h (l, v) List.mem_cons_self
      rw [Table.get?, if_neg hl]
      exact ih fun g hg => h g (List.mem_cons_of_mem _ hg)

theorem get?_append_of_ne {fs gs : List (String × Json)} {k : String} (h : ∀ g ∈ gs, g.1 ≠ k) :
    Table.get? (fs ++ gs) k = Table.get? fs k := by
  induction fs with
  | nil => exact get?_eq_none_of_ne h
  | cons f fs ih =>
      obtain ⟨l, v⟩ := f
      rw [List.cons_append, Table.get?, Table.get?, ih]

theorem get?_append_of_some {fs : List (String × Json)} {k : String} {v : Json}
    (h : Table.get? fs k = some v) (gs : List (String × Json)) :
    Table.get? (fs ++ gs) k = some v := by
  induction fs with
  | nil => cases h
  | cons f fs ih =>
      obtain ⟨l, w⟩ := f
      rw [Table.get?] at h
      rw [List.cons_append, Table.get?]
      split at h
      · next hl => rw [if_pos hl, h]
      · next hl => rw [if_neg hl, ih h]

theorem isSome_get?_of_mem {fs : List (String × Json)} {k : String} {v : Json}
    (h : (k, v) ∈ fs) : (Table.get? fs k).isSome = true := by
  induction fs with
  | nil => cases h
  | cons g fs ih =>
      obtain ⟨l, w⟩ := g
      by_cases hl : l = k
      · rw [Table.get?, if_pos hl]
        rfl
      · rw [Table.get?, if_neg hl]
        rcases List.mem_cons.1 h with hg | h
        · cases hg
          exact absurd rfl hl
        · exact ih h

/-- Fields are read from what is looked up of them. -/
theorem conformFields_congr {given given' : List (String × Json)} : ∀ {fields : Fields},
    (∀ name ∈ fields.names, lookup? given name = lookup? given' name) →
      conformFields fields given = conformFields fields given'
  | .done, _ => rfl
  | .field name need shape rest, h => by
      have hname : lookup? given name = lookup? given' name := h name List.mem_cons_self
      have hrest : conformFields rest given = conformFields rest given' :=
        conformFields_congr fun l hl => h l (List.mem_cons_of_mem name hl)
      unfold conformFields conformField
      rw [hrest, hname]

/-- Fields that a record does not know do not matter to those that it knows. -/
theorem conformFields_append {fields : Fields} {fs gs : List (String × Json)}
    (h : ∀ g ∈ gs, fields.isKnown g.1 = false) :
    conformFields fields (fs ++ gs) = conformFields fields fs := by
  refine conformFields_congr fun name hname => ?_
  have hne (g : String × Json) (hg : g ∈ gs) : name ≠ g.1 ∧ alternate name ≠ g.1 :=
    ne_of_unknown (h g hg) name hname
  have hget : Table.get? (fs ++ gs) name = Table.get? fs name :=
    get?_append_of_ne fun g hg => (hne g hg).1.symm
  have hother : Table.get? (fs ++ gs) (alternate name) = Table.get? fs (alternate name) :=
    get?_append_of_ne fun g hg => (hne g hg).2.symm
  rw [lookup?, lookup?, hget, hother]

/-- The shape of a field of a record. -/
def Fields.shape? (name : String) : Fields → Option Shape
  | .done => none
  | .field l _ shape rest => if l = name then some shape else rest.shape? name

/-- **A field that is given** and not null is read in its shape, and stands under its name. -/
theorem get?_of_conformFields {name k : String} {v : Json} {given : List (String × Json)}
    (hlookup : lookup? given name = some (k, v)) (hnull : v ≠ .null) {shape : Shape} :
    ∀ {fields : Fields} {read : List (String × Json)}, fields.shape? name = some shape →
      conformFields fields given = .ok read →
        ∃ w, conform shape v = .ok w ∧ Table.get? read name = some w
  | .done, _, hshape, _ => by cases hshape
  | .field l need _ rest, _, hshape, h => by
      obtain ⟨a, b, ha, hb, rfl⟩ := conformFields_field_eq_ok h
      rw [Fields.shape?] at hshape
      split at hshape
      · next hl =>
        cases hshape
        subst hl
        obtain ⟨w, hw, rfl⟩ := conformField_given_eq_ok hlookup hnull ha
        refine ⟨w, hw, ?_⟩
        rw [List.singleton_append, Table.get?, if_pos rfl]
      · next hl =>
        obtain ⟨w, hw, hget⟩ := get?_of_conformFields hlookup hnull hshape hb
        refine ⟨w, hw, ?_⟩
        rcases conformField_eq_ok ha with ⟨-, rfl⟩ | ⟨u, rfl⟩
        · exact hget
        · rw [List.singleton_append, Table.get?, if_neg hl, hget]

/-! ### Records -/

/-- **What is read of a record**: its fields, and further ones behind them if it is open. -/
theorem conform_record_eq_ok {name : String} {fields : Fields} {isOpen : Bool} {j d : Json}
    (h : conform (.record name fields isOpen) j = .ok d) :
    ∃ given read further, j = .obj given ∧ conformFields fields given = .ok read ∧
      d = .obj (read ++ further) ∧ (∀ f ∈ further, fields.isKnown f.1 = false) ∧
      (isOpen = false → further = []) := by
  unfold conform at h
  split at h
  · next given =>
    obtain ⟨read, hread, rfl⟩ := map_eq_ok h
    refine ⟨given, read, _, rfl, hread, rfl, fun f hf => ?_, fun hopen => ?_⟩
    · cases isOpen with
      | false => cases hf
      | true =>
          have hunknown := (List.mem_filter.1 hf).2
          simpa using hunknown
    · rw [hopen]
      rfl
  · cases h

/-- **A field of a record that is given** and not null is read in its shape. -/
theorem field?_of_conform_record {name : String} {fields : Fields} {isOpen : Bool} {j d : Json}
    (h : conform (.record name fields isOpen) j = .ok d) {k : String} {shape : Shape}
    (hshape : fields.shape? k = some shape) {v : Json} (hv : j.field? k = some v)
    (hnull : v ≠ .null) : ∃ w, conform shape v = .ok w ∧ d.field? k = some w := by
  obtain ⟨given, read, further, rfl, hread, rfl, -⟩ := conform_record_eq_ok h
  have hlookup : lookup? given k = some (k, v) := by
    rw [lookup?, show Table.get? given k = some v from hv]
  obtain ⟨w, hw, hget⟩ := get?_of_conformFields hlookup hnull hshape hread
  exact ⟨w, hw, get?_append_of_some hget further⟩

/-- Whether a document is null. -/
def isNull : Json → Bool
  | .null => true
  | _ => false

theorem writtenField_of_not_mem {k : String} (v : Json) : ∀ {fields : Fields}, k ∉ fields.names →
    writtenField fields k v = v
  | .done, _ => by rw [writtenField]
  | .field name _ _ rest, h => by
      rw [Fields.names, List.mem_cons, not_or] at h
      rw [writtenField, if_neg (Ne.symm h.1)]
      exact writtenField_of_not_mem v h.2

section

variable {name : String} {need : Need} {shape : Shape} {rest : Fields}

theorem writtenField_here (v : Json) :
    writtenField (.field name need shape rest) name v = written shape v := by
  rw [writtenField, if_pos rfl]

/-- A field that comes later is written in the same way without the first. -/
theorem writtenField_there {k : String} (hname : name ∉ rest.names) (hk : k ∈ rest.names)
    (v : Json) : writtenField (.field name need shape rest) k v = writtenField rest k v := by
  rw [writtenField, if_neg]
  rintro rfl
  exact hname hk

end

/-- How a record is written: its fields first, and then the further ones that are not null. -/
theorem written_record {name : String} {fields : Fields} {isOpen : Bool}
    {read further : List (String × Json)} (hread : ∀ f ∈ read, f.1 ∈ fields.names)
    (hunknown : ∀ f ∈ further, fields.isKnown f.1 = false)
    (hopen : isOpen = false → further = []) :
    written (.record name fields isOpen) (.obj (read ++ further)) =
      .obj ((read.map fun f => (f.1, writtenField fields f.1 f.2)) ++
        further.filter fun f => !isNull f.2) := by
  rw [written]
  simp only [List.filter_append, List.map_append]
  refine congrArg Json.obj ?_
  congr 1
  · rw [List.filter_eq_self.2]
    intro f hf
    rw [isKnown_of_mem (hread f hf), Bool.not_true, Bool.and_false, Bool.false_and]
    rfl
  · have hkeep : ((further.filter fun f => !isNull f.2).map fun f =>
        (f.1, writtenField fields f.1 f.2)) = further.filter fun f => !isNull f.2 := by
      refine (List.map_congr_left fun f hf => ?_).trans (List.map_id _)
      have hf' : fields.isKnown f.1 = false := hunknown f (List.mem_filter.1 hf).1
      rw [writtenField_of_not_mem f.2 fun hmem => (ne_of_unknown hf' f.1 hmem).1 rfl]
      rfl
    cases isOpen with
    | false =>
        rw [hopen rfl]
        rfl
    | true =>
        rw [← hkeep]
        refine congrArg _ (List.filter_congr fun f hf => ?_)
        rw [hunknown f hf]
        cases f.2 <;> rfl

/-! ### Unions -/

theorem conformCase_here {tag : String} {shape : Shape} {rest : Cases} {j : Json} :
    conformCase (.case tag shape rest) tag j = conform shape j := by
  rw [conformCase, if_pos rfl]

theorem conformCase_there {name tag : String} {shape : Shape} {rest : Cases} {j : Json}
    (h : name ≠ tag) : conformCase (.case name shape rest) tag j = conformCase rest tag j := by
  rw [conformCase, if_neg h]

theorem writtenCase_here {tag : String} {shape : Shape} {rest : Cases} {j : Json} :
    writtenCase (.case tag shape rest) tag j = written shape j := by
  rw [writtenCase, if_pos rfl]

theorem writtenCase_there {name tag : String} {shape : Shape} {rest : Cases} {j : Json}
    (h : name ≠ tag) : writtenCase (.case name shape rest) tag j = writtenCase rest tag j := by
  rw [writtenCase, if_neg h]

theorem conform_union_eq_ok {rule : Rule} {cases : Cases} {j d : Json}
    (h : conform (.union rule cases) j = .ok d) :
    ∃ tag, rule.select cases.tags j = .case tag ∧ conformCase cases tag j = .ok d := by
  unfold conform at h
  split at h
  · next tag hselect => exact ⟨tag, hselect, under_eq_ok h⟩
  · cases h
  · cases h

theorem conform_union {rule : Rule} {cases : Cases} {tag : String} {j d : Json}
    (hselect : rule.select cases.tags j = .case tag) (h : conformCase cases tag j = .ok d) :
    conform (.union rule cases) j = .ok d := by
  unfold conform
  rw [hselect]
  simp only [h]
  rfl

theorem written_union {rule : Rule} {cases : Cases} {tag : String} {j : Json}
    (hselect : rule.select cases.tags j = .case tag) :
    written (.union rule cases) j = writtenCase cases tag j := by
  unfold written
  rw [hselect]

end Schema

theorem conform_of_fit {shape : Schema.Shape} {j d : Json} (h : fit shape j = .ok d) :
    Schema.conform shape j = .ok d := by
  unfold fit at h
  split at h <;> cases h
  assumption

end Storyworld
