/-
**Documents in normal form.**

Bringing a document into its shape takes numbers out of texts, fields from under their other names,
and unknown fields away; writing it leaves out the nulls among further fields.  What comes of both
is in normal form: it fits its shape as it stands, and is written as it stands.  So a bundle that is
written and loaded again is written in the same way, whatever it was loaded from.

Not every shape is of this kind.  The fields of a record must not be mistaken for each other, what
stands for a field must itself be in normal form, and the case of a union must still be told from
what was written.  All of this can be tested.

Main definitions:

* `Storyworld.Schema.Settled` — **a document in normal form**;
* `Storyworld.Schema.Shape.settles` — the shapes that have normal forms;
* `Storyworld.Schema.FieldsSettled` — the normal form of the fields of a record.

Main results:

* `Storyworld.Schema.fits_further` — records with further fields;
* `Storyworld.Schema.settled_conform` — **what is brought into its shape and written is in normal
  form**;
* `Storyworld.loading_settles_bundles` — **bundles**.
-/

import Storyworld.Proofs.Telling
import Storyworld.Story.LanternRoad
import Storyworld.Story.Load

set_option relaxedAutoImplicit false
set_option autoImplicit false

namespace Storyworld

namespace Schema

/-- **A document in normal form**: it fits its shape as it stands, and is written as it stands. -/
structure Settled (shape : Shape) (j : Json) : Prop where
  fits : Fits shape j
  written : written shape j = j

/-! ### Shapes that have normal forms -/

/-- Whether a field of a shape has a normal form.  A value that must be given may not be null, and
what stands for an absent value must be in normal form. -/
def Need.settles : Need → Shape → Bool
  | .required, .anything => false
  | .required, _ => true
  | .optional, _ => true
  | .defaulted (.arr []), .list _ => true
  | .defaulted (.bool _), .boolean => true
  | _, _ => false

mutual

/-- **Whether a shape has normal forms.** -/
def Shape.settles : Shape → Bool
  | .list item => item.settles
  | .table value => value.settles
  | .record _ fields _ => decide fields.Separate && fields.settle
  | .union rule cases => rule.tells cases && cases.settle
  | _ => true

def Fields.settle : Fields → Bool
  | .done => true
  | .field _ need shape rest => need.settles shape && shape.settles && rest.settle

def Cases.settle : Cases → Bool
  | .done => true
  | .case _ shape rest => shape.settles && rest.settle

end

/-! ### Lists and tables -/

theorem settled_list {item : Shape} {vs : List Json} (h : ∀ v ∈ vs, Settled item v) :
    Settled (.list item) (.arr vs) := by
  refine ⟨fits_list fun v hv => (h v hv).fits, ?_⟩
  have hmap : vs.map (written item) = vs :=
    (List.map_congr_left fun v hv => (h v hv).written).trans (List.map_id vs)
  simp only [written, overItems, hmap]

theorem settled_table {value : Shape} {fs : List (String × Json)}
    (h : ∀ f ∈ fs, Settled value f.2) : Settled (.table value) (.obj fs) := by
  refine ⟨fits_table fun f hf => (h f hf).fits, ?_⟩
  have hmap : (fs.map fun f => (f.1, written value f.2)) = fs := by
    refine (List.map_congr_left fun f hf => ?_).trans (List.map_id fs)
    rw [(h f hf).written]
    rfl
  simp only [written, overValues, hmap]

/-! ### Values of fields -/

theorem settled_number {j d : Json} (h : conformNumber j = .ok d) :
    Settled .number (written .number d) ∧ written .number d ≠ .null := by
  rcases number_of_conform h with ⟨n, rfl⟩ | ⟨x, rfl⟩
  · exact ⟨⟨rfl, rfl⟩, nofun⟩
  · exact ⟨⟨rfl, rfl⟩, nofun⟩

/-- A normal form is null only where a null is kept. -/
theorem ne_null_of_conform {shape : Shape} (hs : shape.settles = true) {j d : Json}
    (h : conform shape j = .ok d) (hnull : shape = .anything → j ≠ .null) :
    written shape d ≠ .null := by
  cases shape with
  | text =>
      obtain ⟨s, -, rfl⟩ := eq_str_of_conform_text h
      rintro ⟨⟩
  | integer =>
      obtain ⟨n, rfl⟩ := exists_of_scalar h
      rintro ⟨⟩
  | number => exact (settled_number h).2
  | boolean =>
      obtain ⟨b, rfl⟩ := exists_of_scalar h
      rintro ⟨⟩
  | anything =>
      cases h
      exact hnull rfl
  | word choices =>
      obtain ⟨s, -, rfl⟩ := eq_str_of_conform_word h
      rintro ⟨⟩
  | list item =>
      obtain ⟨vs, ws, -, -, rfl⟩ := conform_list_eq_ok h
      rintro ⟨⟩
  | table value =>
      obtain ⟨fs, gs, -, -, rfl⟩ := conform_table_eq_ok h
      rintro ⟨⟩
  | record name fields isOpen =>
      obtain ⟨given, read, further, -, -, rfl, -⟩ := conform_record_eq_ok h
      rw [written]
      rintro ⟨⟩
  | union rule cases =>
      rw [Shape.settles, Bool.and_eq_true] at hs
      obtain ⟨tag, hselect, hcase⟩ := conform_union_eq_ok h
      have htold := Rule.told_of_tells hs.1 hselect hcase
      rw [written_union htold.read]
      exact htold.ne_null

/-- What stands for an absent value is in normal form. -/
theorem settled_default {shape : Shape} {d : Json} (h : (Need.defaulted d).settles shape = true) :
    Settled shape (written shape d) ∧ written shape d ≠ .null := by
  unfold Need.settles at h
  split at h
  any_goals contradiction
  · next hd =>
    cases hd
    exact ⟨settled_list (nofun : ∀ v ∈ ([] : List Json), Settled _ v), nofun⟩
  · next hd =>
    cases hd
    exact ⟨⟨rfl, rfl⟩, nofun⟩

/-- A value of any kind need not be given. -/
theorem Need.eq_optional_of_settles {need : Need} (h : need.settles .anything = true) :
    need = .optional := by
  unfold settles at h
  split at h
  any_goals contradiction
  rfl

/-- **The normal form of a field**: nothing, where that is allowed, or a value under its name. -/
theorem settled_conformField {need : Need} {name : String} {shape : Shape}
    {given a : List (String × Json)} (hneed : need.settles shape = true)
    (hs : shape.settles = true)
    (hshape : ∀ {j d}, conform shape j = .ok d → Settled shape (written shape d))
    (h : conformField need name (conform shape) given = .ok a) :
    (need = .optional ∧ a = []) ∨ ∃ v, a = [(name, v)] ∧ Settled shape (written shape v) ∧
      written shape v ≠ .null := by
  unfold conformField at h
  dsimp only at h
  split at h
  · cases h
  · cases h
    exact .inl ⟨rfl, rfl⟩
  · cases h
    exact .inr ⟨_, rfl, settled_default hneed⟩
  · cases hneed
  · cases h
    exact .inl ⟨rfl, rfl⟩
  · cases hneed
  · next hoptional _ =>
    obtain ⟨w, hw, rfl⟩ := map_eq_ok (under_eq_ok h)
    refine .inr ⟨w, rfl, hshape hw, ne_null_of_conform hs hw fun hanything hnull => ?_⟩
    subst hanything
    exact hoptional (Need.eq_optional_of_settles hneed) hnull

/-! ### Fields of records -/

theorem mem_names_of_givenOf {fields : Fields} {fs : List (String × Option Json)}
    (h : Filled fields fs) {f : String × Json} (hf : f ∈ Json.givenOf fs) :
    f.1 ∈ fields.names := by
  obtain ⟨g, hg, hgf⟩ := List.mem_filterMap.1 hf
  obtain ⟨v, -, rfl⟩ := Option.map_eq_some_iff.1 hgf
  rw [← h.names]
  exact List.mem_map_of_mem hg

/-- **The normal form of the fields of a record**: each is filled or left out. -/
structure FieldsSettled (fields : Fields) (read : List (String × Json))
    (fs : List (String × Option Json)) : Prop where
  filled : Filled fields fs
  eq : (read.map fun f => (f.1, writtenField fields f.1 f.2)) = Json.givenOf fs
  kept : ∀ f ∈ Json.givenOf fs, writtenField fields f.1 f.2 = f.2

section

variable {name : String} {need : Need} {shape : Shape} {rest : Fields}
  {read : List (String × Json)} {fs : List (String × Option Json)}

theorem FieldsSettled.left (hname : name ∉ rest.names) (hread : ∀ f ∈ read, f.1 ∈ rest.names)
    (h : FieldsSettled rest read fs) :
    FieldsSettled (.field name .optional shape rest) read ((name, none) :: fs) where
  filled := .left h.filled
  eq := by
    rw [Json.givenOf_none, ← h.eq]
    refine List.map_congr_left fun f hf => ?_
    rw [writtenField_there hname (hread f hf)]
  kept := by
    rw [Json.givenOf_none]
    intro f hf
    rw [writtenField_there hname (mem_names_of_givenOf h.filled hf), h.kept f hf]

theorem FieldsSettled.given {v : Json} (hname : name ∉ rest.names)
    (hread : ∀ f ∈ read, f.1 ∈ rest.names) (hv : Settled shape (written shape v))
    (hnull : written shape v ≠ .null) (h : FieldsSettled rest read fs) :
    FieldsSettled (.field name need shape rest) ((name, v) :: read)
      ((name, some (written shape v)) :: fs) where
  filled := .given hv.fits hnull h.filled
  eq := by
    rw [Json.givenOf_some, ← h.eq, List.map_cons, writtenField_here]
    refine congrArg _ (List.map_congr_left fun f hf => ?_)
    rw [writtenField_there hname (hread f hf)]
  kept := by
    rw [Json.givenOf_some]
    intro f hf
    rcases List.mem_cons.1 hf with rfl | hf
    · rw [writtenField_here, hv.written]
    · rw [writtenField_there hname (mem_names_of_givenOf h.filled hf), h.kept f hf]

end

/-! ### Records -/

/-- **A record fits if its fields are filled in order**, with further ones behind them if it is
open. -/
theorem fits_further {name : String} {fields : Fields} {isOpen : Bool}
    {fs : List (String × Option Json)} {further : List (String × Json)} (hs : fields.Separate)
    (h : Filled fields fs) (hunknown : ∀ f ∈ further, fields.isKnown f.1 = false)
    (hopen : isOpen = false → further = []) :
    Fits (.record name fields isOpen) (.obj (Json.givenOf fs ++ further)) := by
  have hread : conformFields fields (Json.givenOf fs ++ further) = .ok (Json.givenOf fs) := by
    rw [conformFields_append hunknown]
    exact conformFields_of_filled hs h.names h fun _ hf => hf
  -- of the fields that are written, just the further ones are unknown
  have hfilter : ((Json.givenOf fs ++ further).filter fun f => !fields.isKnown f.1) = further := by
    rw [List.filter_append, List.filter_eq_nil_iff.2, List.filter_eq_self.2, List.nil_append]
    · intro f hf
      rw [hunknown f hf]
      rfl
    · intro f hf
      rw [isKnown_of_mem (mem_names_of_givenOf h hf)]
      exact Bool.false_ne_true
  rw [Fits, conform]
  simp only [hread, hfilter]
  cases isOpen with
  | true => rfl
  | false =>
      rw [hopen rfl]
      rfl

/-- The normal form of a record comes of the normal forms of its fields.  The further fields that
are written are written again. -/
theorem settled_record {name : String} {fields : Fields} {isOpen : Bool}
    {read further : List (String × Json)} {fs : List (String × Option Json)}
    (hs : fields.Separate) (hread : ∀ f ∈ read, f.1 ∈ fields.names)
    (hunknown : ∀ f ∈ further, fields.isKnown f.1 = false)
    (hopen : isOpen = false → further = []) (h : FieldsSettled fields read fs) :
    Settled (.record name fields isOpen)
      (written (.record name fields isOpen) (.obj (read ++ further))) := by
  have hunknown' : ∀ f ∈ further.filter fun f => !isNull f.2, fields.isKnown f.1 = false :=
    fun f hf => hunknown f (List.mem_filter.1 hf).1
  have hopen' : isOpen = false → (further.filter fun f => !isNull f.2) = [] := by
    intro hclosed
    rw [hopen hclosed]
    rfl
  rw [written_record hread hunknown hopen, h.eq]
  refine ⟨fits_further hs h.filled hunknown' hopen', ?_⟩
  rw [written_record (fun f => mem_names_of_givenOf h.filled) hunknown' hopen', List.filter_filter]
  have hgiven : ((Json.givenOf fs).map fun f => (f.1, writtenField fields f.1 f.2)) =
      Json.givenOf fs := by
    refine (List.map_congr_left fun f hf => ?_).trans (List.map_id _)
    rw [h.kept f hf]
    rfl
  simp only [hgiven, Bool.and_self]

/-! ### Whole documents -/

mutual

/-- **What is brought into its shape and written is in normal form.** -/
theorem settled_conform : ∀ {shape : Shape}, shape.settles = true → ∀ {j d : Json},
    conform shape j = .ok d → Settled shape (written shape d)
  | .text, _, j, d, h => by
      obtain ⟨s, -, rfl⟩ := eq_str_of_conform_text h
      exact ⟨rfl, rfl⟩
  | .integer, _, j, d, h => by
      obtain ⟨n, rfl⟩ := exists_of_scalar h
      exact ⟨rfl, rfl⟩
  | .number, _, j, d, h => (settled_number h).1
  | .boolean, _, j, d, h => by
      obtain ⟨b, rfl⟩ := exists_of_scalar h
      exact ⟨rfl, rfl⟩
  | .anything, _, _, d, _ => ⟨rfl, rfl⟩
  | .word choices, _, j, d, h => by
      obtain ⟨s, rfl, rfl⟩ := eq_str_of_conform_word h
      exact ⟨h, rfl⟩
  | .list item, hs, j, d, h => by
      obtain ⟨vs, ws, -, hws, rfl⟩ := conform_list_eq_ok h
      have hitem : item.settles = true := hs
      rw [written, overItems]
      refine settled_list fun v hv => ?_
      obtain ⟨w, hw, rfl⟩ := List.mem_map.1 hv
      obtain ⟨v, -, hvw⟩ := exists_of_eachItem hws w hw
      exact settled_conform hitem hvw
  | .table value, hs, j, d, h => by
      obtain ⟨fs, gs, -, hgs, rfl⟩ := conform_table_eq_ok h
      have hvalue : value.settles = true := hs
      rw [written, overValues]
      refine settled_table fun f hf => ?_
      obtain ⟨g, hg, rfl⟩ := List.mem_map.1 hf
      obtain ⟨x, -, hxg⟩ := exists_of_eachValue hgs g hg
      exact settled_conform hvalue hxg
  | .record name fields isOpen, hs, j, d, h => by
      rw [Shape.settles, Bool.and_eq_true, decide_eq_true_eq] at hs
      obtain ⟨given, read, further, -, hread, rfl, hunknown, hopen⟩ := conform_record_eq_ok h
      obtain ⟨fs, hfs⟩ := settled_conformFields hs.2 hs.1.1 hread
      exact settled_record hs.1 (mem_names_of_conformFields hread) hunknown hopen hfs
  | .union rule cases, hs, j, d, h => by
      rw [Shape.settles, Bool.and_eq_true] at hs
      obtain ⟨tag, hselect, hcase⟩ := conform_union_eq_ok h
      have htold := Rule.told_of_tells hs.1 hselect hcase
      obtain ⟨hconform, hwritten⟩ := settled_conformCase hs.2 hcase
      rw [written_union htold.read]
      refine ⟨conform_union htold.written hconform, ?_⟩
      rw [written_union htold.written, hwritten]

theorem settled_conformFields : ∀ {fields : Fields}, fields.settle = true → fields.names.Nodup →
    ∀ {given read : List (String × Json)}, conformFields fields given = .ok read →
      ∃ fs, FieldsSettled fields read fs
  | .done, _, _, given, read, h => by
      cases h
      exact ⟨[], .done, rfl, nofun⟩
  | .field name need shape rest, hs, hn, given, read, h => by
      simp only [Fields.settle, Bool.and_eq_true] at hs
      rw [Fields.names, List.nodup_cons] at hn
      obtain ⟨a, b, ha, hb, rfl⟩ := conformFields_field_eq_ok h
      obtain ⟨fs, hfs⟩ := settled_conformFields hs.2 hn.2 hb
      have hnames := mem_names_of_conformFields hb
      rcases settled_conformField hs.1.1 hs.1.2 (settled_conform hs.1.2) ha with
        ⟨rfl, rfl⟩ | ⟨v, rfl, hv, hnull⟩
      · exact ⟨_, hfs.left hn.1 hnames⟩
      · exact ⟨_, hfs.given hn.1 hnames hv hnull⟩

theorem settled_conformCase : ∀ {cases : Cases}, cases.settle = true → ∀ {tag : String}
    {j d : Json}, conformCase cases tag j = .ok d →
      conformCase cases tag (writtenCase cases tag d) = .ok (writtenCase cases tag d) ∧
        writtenCase cases tag (writtenCase cases tag d) = writtenCase cases tag d
  | .done, _, tag, j, d, h => ⟨rfl, rfl⟩
  | .case name shape rest, hs, tag, j, d, h => by
      rw [Cases.settle, Bool.and_eq_true] at hs
      by_cases hname : name = tag
      · subst hname
        rw [conformCase_here] at h
        have hsettled := settled_conform hs.1 h
        simp only [conformCase_here, writtenCase_here]
        exact ⟨hsettled.fits, hsettled.written⟩
      · rw [conformCase_there hname] at h
        simp only [conformCase_there hname, writtenCase_there hname]
        exact settled_conformCase hs.2 h

end

end Schema

/-! ### Bundles -/

theorem settles_storyShape : Story.storyShape.settles = true := by decide +kernel

theorem settles_loreShape : Story.loreShape.settles = true := by decide +kernel

section Loading

variable {shape : Schema.Shape} {label : String} {source : Source} {d : Json}

theorem conform_of_loadDocument (h : loadDocument shape label source = .ok d) :
    ∃ j, Schema.conform shape j = .ok d := by
  unfold loadDocument at h
  split at h
  · cases h
  · cases h
  · cases h
  · cases h
  · next j _ =>
    split at h
    · cases h
    · exact ⟨j, conform_of_fit h⟩

/-- A document that is no text is loaded as it is, if it fits. -/
theorem loadDocument_of_fits {fields : List (String × Json)}
    (h : Schema.Fits shape (.obj fields)) :
    loadDocument shape label (.document (.obj fields)) = .ok (.obj fields) := by
  have hfit : fit shape (.obj fields) = .ok (.obj fields) := by
    unfold fit
    rw [show Schema.conform shape (.obj fields) = .ok (.obj fields) from h]
  unfold loadDocument
  rw [show Source.read (.document (.obj fields)) = .ok (.obj fields) from rfl]
  dsimp only
  rw [hfit]

/-- **What is loaded and written is loaded as it is**, and written as it is. -/
theorem loadDocument_written {name : String} {fields : Schema.Fields} {isOpen : Bool}
    (hs : (Schema.Shape.record name fields isOpen).settles = true)
    (h : loadDocument (.record name fields isOpen) label source = .ok d) :
    let again := Schema.written (.record name fields isOpen) d
    loadDocument (.record name fields isOpen) label (.document again) = .ok again ∧
      Schema.written (.record name fields isOpen) again = again := by
  intro again
  obtain ⟨j, hj⟩ := conform_of_loadDocument h
  have hsettled : Schema.Settled (.record name fields isOpen) again :=
    Schema.settled_conform hs hj
  obtain ⟨given, read, further, -, -, rfl, -⟩ := Schema.conform_record_eq_ok hj
  obtain ⟨fs, hagain⟩ : ∃ fs, again = .obj fs := by
    simp only [again, Schema.written]
    exact ⟨_, rfl⟩
  refine ⟨?_, hsettled.written⟩
  rw [hagain] at hsettled ⊢
  exact loadDocument_of_fits hsettled.fits

end Loading

/-- **A bundle that is loaded and written is in normal form**: it is loaded again, and is written in
the same way again, whatever it was loaded from. -/
theorem loading_settles_bundles :
    (∀ source s, StoryBundle.load source = .ok s →
      ∃ t, StoryBundle.load (.document s.toJson) = .ok t ∧ t.toJson = s.toJson) ∧
    (∀ source l, LoreBundle.load source = .ok l →
      ∃ m, LoreBundle.load (.document l.toJson) = .ok m ∧ m.toJson = l.toJson) := by
  constructor
  · intro source s h
    obtain ⟨d, hd, rfl⟩ := map_eq_ok h
    obtain ⟨hload, hwritten⟩ := loadDocument_written settles_storyShape hd
    refine ⟨StoryBundle.ofDocument (Schema.written Story.storyShape d), ?_, hwritten⟩
    exact congrArg (Except.map StoryBundle.ofDocument) hload
  · intro source l h
    obtain ⟨d, hd, rfl⟩ := map_eq_ok h
    obtain ⟨hload, hwritten⟩ := loadDocument_written settles_loreShape hd
    refine ⟨LoreBundle.ofDocument (Schema.written Story.loreShape d), ?_, hwritten⟩
    exact congrArg (Except.map LoreBundle.ofDocument) hload

/-! ### Bundles that are written loosely -/

namespace Draft

open LanternRoad

/-- A condition that only a rule module can answer, with a null among its fields. -/
def moonlight : Json := typed "moonlight" [("phase", .null), ("nights", .arr [.null, .int 3])]

/-- A story with fields under their other names, numbers and truth values in texts, nulls, and a
field that no story has. -/
def story : Json :=
  entry "story.draft" "Draft" [field "version" "0.1", ("schema_version", .null),
    field "mood" "none", ("world", .obj [("locations", .arr [entry "loc.barn" "Barn"
      [field "type" "farm", field "entry_scene" "scene.barn", ("layout", .obj [
        field "layout_type" "grid", ("connections", .arr [.obj [field "from_" "a", field "to" "b",
          ("locked_by", moonlight)]]),
        ("grid", .obj [field "width" "+3", ("height", .bool true), ("tiles", .obj [])])])]])]),
    ("story", .obj [field "start_scene" "scene.barn", ("scenes", .arr [.obj [
      field "id" "scene.barn", ("narrative", .obj [("text", .arr [.obj [field "text" "A barn.",
        field "weight" "2"]])]),
      ("actions", .arr [action "act.sleep" "Sleep" [("effects", .arr [typed "setFlag" [
        field "key" "rested", field "value" "yes"]])]])]])])]

/-- Lore in the same manner. -/
def lore : Json :=
  entry "lore.draft" "Draft" [field "version" "0.1", ("races", .arr [entry "owls" "Owls"
    [field "description" "They watch.", field "playable" "off", ("trait_ids", .null),
      ("statModifiers", .obj [field "wisdom" "07"])]])]

theorem story_loads : (StoryBundle.load (.document story)).toOption.isSome = true := by
  decide +kernel

theorem lore_loads : (LoreBundle.load (.document lore)).toOption.isSome = true := by
  decide +kernel

/-- The loosely written bundles are not written as they were, but from then on they stay. -/
theorem loading_settles_drafts :
    (∃ s t, StoryBundle.load (.document story) = .ok s ∧ s.toJson.field? "mood" = none ∧
      StoryBundle.load (.document s.toJson) = .ok t ∧ t.toJson = s.toJson) ∧
    ∃ l m, LoreBundle.load (.document lore) = .ok l ∧
      LoreBundle.load (.document l.toJson) = .ok m ∧ m.toJson = l.toJson := by
  have hstory := eq_ok_of_isSome story_loads
  have hlore := eq_ok_of_isSome lore_loads
  obtain ⟨t, ht, hst⟩ := loading_settles_bundles.1 _ _ hstory
  obtain ⟨m, hm, hlm⟩ := loading_settles_bundles.2 _ _ hlore
  have hmood : (((StoryBundle.load (.document story)).toOption.get story_loads).toJson.field?
      "mood").isNone = true := by decide +kernel
  exact ⟨⟨_, t, hstory, Option.isNone_iff_eq_none.1 hmood, ht, hst⟩, _, m, hlore, hm, hlm⟩

end Draft

end Storyworld
