/-
**Documents that are in their shape already.**

A document whose values are of the kinds that a shape asks for, and whose fields stand in the order
of the shape, stays as it is when it is brought into the shape.  Fields that may be absent may be
left out.  So what is written of a value in its shape is read as the value again.

Main definitions:

* `Storyworld.Schema.Fits` — a document stays as it is in a shape;
* `Storyworld.Schema.Filled` — the fields of a record, each given or left out where that is allowed;
* `Storyworld.Schema.Fields.Separate` — no field is found under the other name of another.

Main results:

* `Storyworld.Schema.fits_list`, `Storyworld.Schema.fits_table` — lists and tables;
* `Storyworld.Schema.fits_record` — **records**.
-/

import Storyworld.Schema.Conform
import Storyworld.Schema.Parts

set_option relaxedAutoImplicit false
set_option autoImplicit false

namespace Storyworld

/-! ### Fields of records -/

/-- What is found under a key stands in the table. -/
theorem Table.mem_of_get? {α : Type} {t : Table α} {k : String} {v : α} (h : t.get? k = some v) :
    (k, v) ∈ t := by
  induction t with
  | nil => cases h
  | cons f t ih =>
      rw [Table.get?] at h
      split at h
      · next hk =>
        cases h
        exact hk ▸ List.mem_cons_self
      · exact List.mem_cons_of_mem f (ih h)

namespace Json

/-- The fields that have a value, with their values. -/
def givenOf (fs : List (String × Option Json)) : List (String × Json) :=
  fs.filterMap fun (k, v) => v.map (k, ·)

theorem record_eq (fs : List (String × Option Json)) : record fs = .obj (givenOf fs) := rfl

theorem givenOf_none (k : String) (fs : List (String × Option Json)) :
    givenOf ((k, none) :: fs) = givenOf fs := rfl

theorem givenOf_some (k : String) (v : Json) (fs : List (String × Option Json)) :
    givenOf ((k, some v) :: fs) = (k, v) :: givenOf fs := rfl

theorem get?_givenOf_of_not_mem {fs : List (String × Option Json)} {k : String}
    (hk : k ∉ fs.map Prod.fst) : Table.get? (givenOf fs) k = none := by
  induction fs with
  | nil => rfl
  | cons f fs ih =>
      obtain ⟨l, o⟩ := f
      rw [List.map_cons, List.mem_cons, not_or] at hk
      cases o with
      | none =>
          rw [givenOf_none]
          exact ih hk.2
      | some v =>
          rw [givenOf_some, Table.get?, if_neg (Ne.symm hk.1)]
          exact ih hk.2

theorem get?_givenOf {fs : List (String × Option Json)} (hn : (fs.map Prod.fst).Nodup)
    (k : String) : Table.get? (givenOf fs) k = (Table.get? fs k).join := by
  induction fs with
  | nil => rfl
  | cons f fs ih =>
      obtain ⟨l, o⟩ := f
      rw [List.map_cons, List.nodup_cons] at hn
      by_cases hl : l = k
      · subst hl
        rw [Table.get?, if_pos rfl]
        cases o with
        | none =>
            rw [givenOf_none, get?_givenOf_of_not_mem hn.1]
            rfl
        | some v =>
            rw [givenOf_some, Table.get?, if_pos rfl]
            rfl
      · rw [Table.get?, if_neg hl, ← ih hn.2]
        cases o with
        | none => rw [givenOf_none]
        | some v => rw [givenOf_some, Table.get?, if_neg hl]

/-- Of different names, those of the fields that have a value are different too. -/
theorem nodup_givenOf {fs : List (String × Option Json)} (hn : (fs.map Prod.fst).Nodup) :
    ((givenOf fs).map Prod.fst).Nodup := by
  induction fs with
  | nil => exact .nil
  | cons f fs ih =>
      obtain ⟨k, o⟩ := f
      rw [List.map_cons, List.nodup_cons] at hn
      cases o with
      | none => exact ih hn.2
      | some v =>
          rw [givenOf_some, List.map_cons, List.nodup_cons]
          refine ⟨fun hk => hn.1 ?_, ih hn.2⟩
          obtain ⟨g, hg, hgk⟩ := List.mem_map.1 hk
          obtain ⟨x, hx, hxg⟩ := List.mem_filterMap.1 hg
          obtain ⟨w, -, rfl⟩ := Option.map_eq_some_iff.1 hxg
          exact List.mem_map.2 ⟨x, hx, hgk⟩

end Json

namespace Schema

/-! ### Scalars, lists and tables -/

/-- A document stays as it is when it is brought into a shape. -/
def Fits (shape : Shape) (j : Json) : Prop := conform shape j = .ok j

theorem fits_text (s : String) : Fits .text (.str s) := rfl

theorem fits_integer (n : Int) : Fits .integer (.int n) := rfl

theorem fits_number (n : Number) : Fits .number (.ofNumber n) := by
  cases n <;> rfl

theorem fits_boolean (b : Bool) : Fits .boolean (.bool b) := rfl

theorem fits_anything (j : Json) : Fits .anything j := rfl

theorem fits_word {choices : List String} {s : String} (h : s ∈ choices) :
    Fits (.word choices) (.str s) := by
  have hs : (Json.str s).str?.any (· ∈ choices) = true := by simpa [Json.str?] using h
  rw [Fits, conform, if_pos hs]

theorem eachItem_of_fits {shape : Shape} {items : List Json} (h : ∀ v ∈ items, Fits shape v)
    (i : Nat) : eachItem (conform shape) i items = .ok items := by
  induction items generalizing i with
  | nil => rfl
  | cons v vs ih =>
      rw [eachItem, h v List.mem_cons_self, ih (fun w hw => h w (List.mem_cons_of_mem v hw))]
      rfl

/-- **A list fits if its items do.** -/
theorem fits_list {shape : Shape} {items : List Json} (h : ∀ v ∈ items, Fits shape v) :
    Fits (.list shape) (.arr items) := by
  rw [Fits, conform, eachItem_of_fits h]
  rfl

theorem eachValue_of_fits {shape : Shape} {fields : List (String × Json)}
    (h : ∀ f ∈ fields, Fits shape f.2) : eachValue (conform shape) fields = .ok fields := by
  induction fields with
  | nil => rfl
  | cons f fs ih =>
      obtain ⟨k, v⟩ := f
      have hv : conform shape v = .ok v := h (k, v) List.mem_cons_self
      rw [eachValue, hv, ih (fun w hw => h w (List.mem_cons_of_mem _ hw))]
      rfl

/-- **A table fits if its values do.** -/
theorem fits_table {shape : Shape} {fields : List (String × Json)}
    (h : ∀ f ∈ fields, Fits shape f.2) : Fits (.table shape) (.obj fields) := by
  rw [Fits, conform, eachValue_of_fits h]
  rfl

theorem fits_ofTable {α : Type} {shape : Shape} {toJson : α → Json}
    (h : ∀ a, Fits shape (toJson a)) (t : Table α) : Fits (.table shape) (.ofTable toJson t) := by
  refine fits_table fun f hf => ?_
  obtain ⟨x, -, rfl⟩ := List.mem_map.1 hf
  exact h x.2

theorem fits_map {α : Type} {shape : Shape} {toJson : α → Json} (h : ∀ a, Fits shape (toJson a))
    (xs : List α) : Fits (.list shape) (.arr (xs.map toJson)) := by
  refine fits_list fun v hv => ?_
  obtain ⟨x, -, rfl⟩ := List.mem_map.1 hv
  exact h x

/-! ### Records -/

/-- The names of the fields of a record. -/
def Fields.names : Fields → List String
  | .done => []
  | .field name _ _ rest => name :: rest.names

/-- The fields of a record have different names, and none is the other name of another field. -/
def Fields.Separate (fields : Fields) : Prop :=
  fields.names.Nodup ∧ ∀ a ∈ fields.names, alternate a ∈ fields.names → alternate a = a

instance (fields : Fields) : Decidable fields.Separate := by
  unfold Fields.Separate
  infer_instance

/-- **The fields of a record in order**, each given with a value that fits, or left out where that
is allowed.  No value is null. -/
inductive Filled : Fields → List (String × Option Json) → Prop
  | done : Filled .done []
  | given {name : String} {need : Need} {shape : Shape} {rest : Fields} {v : Json}
      {fs : List (String × Option Json)} (hv : Fits shape v) (hnull : v ≠ .null)
      (h : Filled rest fs) : Filled (.field name need shape rest) ((name, some v) :: fs)
  | left {name : String} {shape : Shape} {rest : Fields} {fs : List (String × Option Json)}
      (h : Filled rest fs) : Filled (.field name .optional shape rest) ((name, none) :: fs)

/-- A field that may be left out. -/
theorem Filled.may {α : Type} {name : String} {shape : Shape} {rest : Fields} {toJson : α → Json}
    {fs : List (String × Option Json)} (o : Option α)
    (hv : ∀ a, Fits shape (toJson a) ∧ toJson a ≠ .null) (h : Filled rest fs) :
    Filled (.field name .optional shape rest) ((name, o.map toJson) :: fs) := by
  cases o with
  | none => exact .left h
  | some a => exact .given (hv a).1 (hv a).2 h

theorem Filled.names {fields : Fields} {fs : List (String × Option Json)} (h : Filled fields fs) :
    fs.map Prod.fst = fields.names := by
  induction h with
  | done => rfl
  | given _ _ _ ih => rw [List.map_cons, ih, Fields.names]
  | left _ ih => rw [List.map_cons, ih, Fields.names]

/-- A value that is given is read under its name, whatever the need. -/
theorem conformField_given {need : Need} {name k : String} {shape : Shape} {v : Json}
    {given : List (String × Json)} (hv : Fits shape v) (hnull : v ≠ .null)
    (hlookup : lookup? given name = some (k, v)) :
    conformField need name (conform shape) given = .ok [(name, v)] := by
  -- a value that is given and not null is read in the same way for every need
  have hread : under k ((conform shape v).map fun w => [(name, w)]) =
      (.ok [(name, v)] : Except Refusal (List (String × Json))) := by
    rw [show conform shape v = .ok v from hv]
    rfl
  unfold conformField
  rw [hlookup]
  cases need <;> cases v <;> first | exact absurd rfl hnull | exact hread

theorem conformField_left {name : String} {shape : Shape} {given : List (String × Json)}
    (hlookup : lookup? given name = none) :
    conformField .optional name (conform shape) given = .ok [] := by
  unfold conformField
  rw [hlookup]

/-- Where a field is found among the fields of a record: under its own name, if it is given. -/
theorem lookup?_givenOf {fields : Fields} {fs : List (String × Option Json)}
    (hs : fields.Separate) (hnames : fs.map Prod.fst = fields.names) {name : String}
    (hname : name ∈ fields.names) :
    lookup? (Json.givenOf fs) name = ((Table.get? fs name).join).map fun v => (name, v) := by
  have hn : (fs.map Prod.fst).Nodup := hnames ▸ hs.1
  rw [lookup?, Json.get?_givenOf hn]
  cases hv : (Table.get? fs name).join with
  | some v => rfl
  | none =>
      -- nothing stands under its own name, and its other name is that or no field at all
      by_cases halt : alternate name ∈ fields.names
      · rw [hs.2 name hname halt, Json.get?_givenOf hn, hv]
      · rw [Json.get?_givenOf_of_not_mem (by rwa [hnames])]
        rfl

theorem get?_of_mem {α : Type} {fs : Table α} (hn : (fs.map Prod.fst).Nodup)
    {f : String × α} (hf : f ∈ fs) : Table.get? fs f.1 = some f.2 := by
  induction fs with
  | nil => cases hf
  | cons g fs ih =>
      obtain ⟨l, o⟩ := g
      rw [List.map_cons, List.nodup_cons] at hn
      rcases List.mem_cons.1 hf with rfl | hmem
      · rw [Table.get?, if_pos rfl]
      · have hf : f.1 ∈ fs.map Prod.fst := List.mem_map_of_mem hmem
        have hl : l ≠ f.1 := fun hl => hn.1 (hl ▸ hf)
        rw [Table.get?, if_neg hl, ih hn.2 hmem]

/-- The fields at the end of a record are read from all that is given. -/
theorem conformFields_of_filled {all fields : Fields} {given fs : List (String × Option Json)}
    (hs : all.Separate) (hnames : given.map Prod.fst = all.names) (h : Filled fields fs)
    (hmem : ∀ f ∈ fs, f ∈ given) :
    conformFields fields (Json.givenOf given) = .ok (Json.givenOf fs) := by
  have hn : (given.map Prod.fst).Nodup := hnames ▸ hs.1
  have hlookup {f : String × Option Json} (hf : f ∈ given) :
      lookup? (Json.givenOf given) f.1 = f.2.map fun v => (f.1, v) := by
    rw [lookup?_givenOf hs hnames (hnames ▸ List.mem_map_of_mem hf), get?_of_mem hn hf]
    rfl
  -- every field is looked up in the whole record, of which the induction sees the end
  induction h with
  | done => rfl
  | given hv hnull _ ih =>
      rw [conformFields, conformField_given hv hnull (hlookup (hmem _ List.mem_cons_self)),
        ih fun f hf => hmem f (List.mem_cons_of_mem _ hf)]
      rfl
  | left _ ih =>
      rw [conformFields, conformField_left (hlookup (hmem _ List.mem_cons_self)),
        ih fun f hf => hmem f (List.mem_cons_of_mem _ hf)]
      rfl

/-- **A record fits if its fields are filled in order.** -/
theorem fits_record {name : String} {fields : Fields} {fs : List (String × Option Json)}
    (hs : fields.Separate) (h : Filled fields fs) :
    Fits (.record name fields false) (.record fs) := by
  rw [Fits, Json.record_eq, conform, conformFields_of_filled hs h.names h fun _ hf => hf]
  show Except.ok (Json.obj (Json.givenOf fs ++ [])) = _
  rw [List.append_nil]

end Schema

end Storyworld
