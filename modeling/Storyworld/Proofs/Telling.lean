/-
**Which case of a union a document is, before and after.**

The case of a union is told from a document as it is given, and told again from the document as it
is written.  For conditions and effects the type tells it, which every case keeps.  For narratives
the first item of a list tells it: translations have a locale, and variants have none.

Main definitions:

* `Storyworld.Schema.Rule.tells` — the case of a union can be told from what is written;
* `Storyworld.Schema.Rule.Told` — **what is told of a document that was brought into a case**.

Main results:

* `Storyworld.Schema.Rule.told_of_type` — conditions and effects;
* `Storyworld.Schema.Rule.told_of_locale` — narratives;
* `Storyworld.Schema.Rule.told_of_tells` — **all unions whose cases can be told**.
-/

import Storyworld.Proofs.Conforming

set_option relaxedAutoImplicit false
set_option autoImplicit false

namespace Storyworld

namespace Schema

/-! ### Unions whose cases can be told -/

/-- Whether a record begins with a text `type` that must be given. -/
def Fields.beginWithType : Fields → Bool
  | .field name .required .text _ => name = "type"
  | .field name .required (.word _) _ => name = "type"
  | _ => false

/-- Whether all cases are records that begin with their type. -/
def Cases.areTyped : Cases → Bool
  | .done => true
  | .case _ (.record _ fields _) rest => fields.beginWithType && rest.areTyped
  | .case _ _ _ => false

/-- Whether a record must be given a field. -/
def Fields.require (name : String) : Fields → Bool
  | .done => false
  | .field l .required _ rest => l = name || rest.require name
  | .field _ _ _ rest => rest.require name

/-- **Whether the case of a union can be told from its normal form.** -/
def Rule.tells : Rule → Cases → Bool
  | .condition, cases => cases.areTyped && decide ("custom" ∈ cases.tags)
  | .effect, cases => cases.areTyped
  | .narrative, .case "plain" .text (.case "localized" (.list (.record _ translation _))
      (.case "variants" (.list (.record _ variant false)) .done)) =>
    translation.require "locale" && decide ("locale" ∉ variant.names)
  | .narrative, _ => false

/-- **What is told of a normal form**: the case, and that it is not null. -/
structure Rule.Told (rule : Rule) (cases : Cases) (tag : String) (d : Json) : Prop where
  mem : tag ∈ cases.tags
  read : rule.select cases.tags d = .case tag
  written : rule.select cases.tags (writtenCase cases tag d) = .case tag
  ne_null : writtenCase cases tag d ≠ .null

/-! ### Fields of records -/

/-- A field that must be given is read. -/
theorem exists_of_require {name : String} {given : List (String × Json)} :
    ∀ {fields : Fields}, fields.require name = true → ∀ {read : List (String × Json)},
      conformFields fields given = .ok read → ∃ f ∈ read, f.1 = name
  | .done, hreq, _, _ => by cases hreq
  | .field l need _ rest, hreq, _, h => by
      obtain ⟨a, b, ha, hb, rfl⟩ := conformFields_field_eq_ok h
      have hrest (hreq : rest.require name = true) : ∃ f ∈ a ++ b, f.1 = name := by
        obtain ⟨f, hf, hname⟩ := exists_of_require hreq hb
        exact ⟨f, List.mem_append_right a hf, hname⟩
      rcases conformField_eq_ok ha with ⟨hneed, -⟩ | ⟨w, rfl⟩
      · cases need with
        | required => exact absurd rfl hneed
        | _ => exact hrest hreq
      · cases need with
        | required =>
            simp only [Fields.require, Bool.or_eq_true, decide_eq_true_eq] at hreq
            rcases hreq with rfl | hreq
            · exact ⟨(l, w), by simp, rfl⟩
            · exact hrest hreq
        | _ => exact hrest hreq

/-- A field that must be given is there, also after writing. -/
theorem isSome_field?_of_require {name l : String} {fields : Fields} {isOpen : Bool} {j d : Json}
    (hreq : fields.require l = true) (h : conform (.record name fields isOpen) j = .ok d) :
    (d.field? l).isSome = true ∧
      ((written (.record name fields isOpen) d).field? l).isSome = true := by
  obtain ⟨given, read, further, rfl, hread, rfl, hunknown, hopen⟩ := conform_record_eq_ok h
  obtain ⟨f, hf, rfl⟩ := exists_of_require hreq hread
  rw [written_record (mem_names_of_conformFields hread) hunknown hopen]
  constructor
  · exact isSome_get?_of_mem (List.mem_append_left further hf)
  · have hmem : (f.1, writtenField fields f.1 f.2) ∈
        read.map fun f => (f.1, writtenField fields f.1 f.2) :=
      List.mem_map.2 ⟨f, hf, rfl⟩
    exact isSome_get?_of_mem (List.mem_append_left _ hmem)

/-- A record that is not open has no fields but its own, also after writing. -/
theorem field?_eq_none_of_closed {name l : String} {fields : Fields} {j d : Json}
    (hl : l ∉ fields.names) (h : conform (.record name fields false) j = .ok d) :
    d.field? l = none ∧ (written (.record name fields false) d).field? l = none := by
  obtain ⟨given, read, further, rfl, hread, rfl, hunknown, hopen⟩ := conform_record_eq_ok h
  have hnames : ∀ f ∈ read, f.1 ≠ l := by
    rintro f hf rfl
    exact hl (mem_names_of_conformFields hread f hf)
  rw [written_record (mem_names_of_conformFields hread) hunknown hopen, hopen rfl]
  simp only [List.filter_nil, List.append_nil]
  constructor
  · exact get?_eq_none_of_ne hnames
  · refine get?_eq_none_of_ne fun f hf => ?_
    obtain ⟨g, hg, rfl⟩ := List.mem_map.1 hf
    exact hnames g hg

/-! ### Conditions and effects -/

theorem lookup?_type {given : List (String × Json)} {k : String} {v : Json}
    (h : lookup? given "type" = some (k, v)) : Table.get? given "type" = some v := by
  have halt : alternate "type" = "type" := by decide
  unfold lookup? at h
  split at h
  · next w hw =>
    cases h
    exact hw
  · next hnone =>
    rw [halt, hnone] at h
    cases h

/-- A record that begins with its type keeps its type. -/
theorem type_of_conform {name : String} {fields : Fields} {isOpen : Bool} {j d : Json}
    (htype : fields.beginWithType = true) (h : conform (.record name fields isOpen) j = .ok d) :
    ∃ s, j.field? "type" = some (.str s) ∧ d.field? "type" = some (.str s) ∧
      (written (.record name fields isOpen) d).field? "type" = some (.str s) := by
  obtain ⟨given, read, further, rfl, hread, rfl, hunknown, hopen⟩ := conform_record_eq_ok h
  -- the type is read by a shape that takes texts only, and takes them as they are
  obtain ⟨shape, rest, rfl, hshape, hwritten⟩ : ∃ shape rest,
      fields = .field "type" .required shape rest ∧
        (∀ v w, conform shape v = .ok w → ∃ s, v = .str s ∧ w = .str s) ∧
        ∀ s, written shape (.str s) = .str s := by
    unfold Fields.beginWithType at htype
    split at htype
    · rw [of_decide_eq_true htype]
      exact ⟨.text, _, rfl, fun v w => eq_str_of_conform_text, fun s => rfl⟩
    · rw [of_decide_eq_true htype]
      exact ⟨.word _, _, rfl, fun v w => eq_str_of_conform_word, fun s => rfl⟩
    · cases htype
  obtain ⟨a, b, ha, -, rfl⟩ := conformFields_field_eq_ok hread
  obtain ⟨s, hgiven, rfl⟩ : ∃ s, Table.get? given "type" = some (.str s) ∧
      a = [("type", .str s)] := by
    unfold conformField at ha
    dsimp only at ha
    split at ha
    · cases ha
    any_goals contradiction
    · next k v hlookup _ _ =>
      obtain ⟨w, hw, rfl⟩ := map_eq_ok (under_eq_ok ha)
      obtain ⟨s, rfl, rfl⟩ := hshape v w hw
      exact ⟨s, lookup?_type hlookup, rfl⟩
  refine ⟨s, hgiven, ?_, ?_⟩
  · rfl
  · rw [written_record (mem_names_of_conformFields hread) hunknown hopen]
    show some (writtenField (.field "type" .required shape rest) "type" (.str s)) = _
    rw [writtenField, if_pos rfl, hwritten]

theorem type_of_conformCase : ∀ {cases : Cases}, cases.areTyped = true → ∀ {tag : String},
    tag ∈ cases.tags → ∀ {j d : Json}, conformCase cases tag j = .ok d →
      ∃ s, j.field? "type" = some (.str s) ∧ d.field? "type" = some (.str s) ∧
        (writtenCase cases tag d).field? "type" = some (.str s)
  | .case name (.record _ fields _) rest, htyped, tag, htag, j, d, h => by
      rw [Cases.areTyped, Bool.and_eq_true] at htyped
      by_cases hname : name = tag
      · subst hname
        rw [conformCase_here] at h
        rw [writtenCase_here]
        exact type_of_conform htyped.1 h
      · rw [conformCase_there hname] at h
        rw [writtenCase_there hname]
        have htag' : tag ∈ rest.tags := by
          rcases List.mem_cons.1 htag with rfl | htag
          · exact absurd rfl hname
          · exact htag
        exact type_of_conformCase htyped.2 htag' h
  | .done, _, _, htag, _, _, _ => by cases htag

/-- But for narratives, the type tells the case. -/
theorem Rule.select_eq_of_type {rule : Rule} (hrule : rule ≠ .narrative) (tags : List String)
    {j d v : Json} (hj : j.field? "type" = some v) (hd : d.field? "type" = some v) :
    rule.select tags d = rule.select tags j := by
  cases rule with
  | condition => rw [select, select, hj, hd]
  | effect =>
      cases j with
      | obj fs =>
          cases d with
          | obj gs =>
              have hfs : Table.get? fs "type" = some v := hj
              have hgs : Table.get? gs "type" = some v := hd
              rw [select, select, hfs, hgs]
          | _ => cases hd
      | _ => cases hj
  | narrative => exact absurd rfl hrule

theorem Rule.told_of_type {rule : Rule} (hrule : rule ≠ .narrative) {cases : Cases}
    (htyped : cases.areTyped = true) {tag : String} (htag : tag ∈ cases.tags) {j d : Json}
    (hselect : rule.select cases.tags j = .case tag) (h : conformCase cases tag j = .ok d) :
    rule.Told cases tag d := by
  obtain ⟨s, hj, hd, hw⟩ := type_of_conformCase htyped htag h
  refine ⟨htag, ?_, ?_, fun hnull => ?_⟩
  · rw [select_eq_of_type hrule _ hj hd, hselect]
  · rw [select_eq_of_type hrule _ hj hw, hselect]
  · rw [hnull] at hw
    cases hw

/-- Every condition is of a case, if what is unknown has one. -/
theorem mem_tags_of_condition {tags : List String} (hcustom : "custom" ∈ tags) {tag : String}
    {j : Json} (h : Rule.condition.select tags j = .case tag) : tag ∈ tags := by
  unfold Rule.select at h
  dsimp only at h
  split at h <;> cases h
  · split
    · assumption
    · exact hcustom
  · exact hcustom

/-- The type of an effect is one of the tags. -/
theorem mem_tags_of_effect {tags : List String} {tag : String} {j : Json}
    (h : Rule.effect.select tags j = .case tag) : tag ∈ tags := by
  cases j with
  | obj fields =>
      rw [Rule.select] at h
      split at h
      · cases h
      · next v _ =>
        split at h <;> cases h
        next hany =>
        cases v with
        | str s => simpa [Json.str?, Json.plain] using hany
        | _ => cases hany
  | _ => cases h

/-! ### Narratives -/

/-- A list of translations or variants is told by its first item. -/
theorem Rule.select_narrative_cons (tags : List String) (first : Json) (rest : List Json) :
    Rule.narrative.select tags (.arr (first :: rest)) =
      .case (if (first.field? "locale").isSome then "localized" else "variants") := rfl

/-- A list is told by its first item: a translation has a locale, and a variant has none. -/
theorem Rule.told_of_locale {n m : String} {translation variant : Fields} {isOpen : Bool}
    {cases : Cases}
    (hcases : cases = .case "plain" .text (.case "localized" (.list (.record n translation isOpen))
      (.case "variants" (.list (.record m variant false)) .done)))
    (hlocale : translation.require "locale" = true) (hvariant : "locale" ∉ variant.names)
    {tag : String} {j d : Json} (hselect : Rule.narrative.select cases.tags j = .case tag)
    (h : conformCase cases tag j = .ok d) : Rule.narrative.Told cases tag d := by
  subst hcases
  cases j with
  | str s =>
      cases hselect
      cases h
      exact ⟨List.mem_cons_self, rfl, rfl, by rintro ⟨⟩⟩
  | arr vs =>
      cases vs with
      | nil =>
          cases hselect
          cases h
          exact ⟨by simp [Cases.tags], rfl, rfl, by rintro ⟨⟩⟩
      | cons first rest =>
          rw [select_narrative_cons] at hselect
          split at hselect
          · cases hselect
            rw [conformCase_there (by decide), conformCase_here] at h
            obtain ⟨vs, ws, hvs, hws, rfl⟩ := conform_list_eq_ok h
            cases hvs
            obtain ⟨w, ws, hw, -, rfl⟩ := eachItem_cons_eq_ok hws
            obtain ⟨hd, hwritten⟩ := isSome_field?_of_require hlocale hw
            refine ⟨by simp [Cases.tags], ?_, ?_, by rintro ⟨⟩⟩
            · rw [select_narrative_cons, if_pos hd]
            · rw [writtenCase_there (by decide), writtenCase_here, written, overItems, List.map_cons,
                select_narrative_cons, if_pos hwritten]
          · cases hselect
            rw [conformCase_there (by decide), conformCase_there (by decide), conformCase_here] at h
            obtain ⟨vs, ws, hvs, hws, rfl⟩ := conform_list_eq_ok h
            cases hvs
            obtain ⟨w, ws, hw, -, rfl⟩ := eachItem_cons_eq_ok hws
            obtain ⟨hd, hwritten⟩ := field?_eq_none_of_closed hvariant hw
            refine ⟨by simp [Cases.tags], ?_, ?_, by rintro ⟨⟩⟩
            · rw [select_narrative_cons, hd]
              rfl
            · rw [writtenCase_there (by decide), writtenCase_there (by decide), writtenCase_here,
                written, overItems, List.map_cons, select_narrative_cons, hwritten]
              rfl
  | _ =>
      cases hselect
      cases h

/-- **The case of a union is told from its normal form**, if the rule tells the cases. -/
theorem Rule.told_of_tells {rule : Rule} {cases : Cases} (htells : rule.tells cases = true)
    {tag : String} {j d : Json} (hselect : rule.select cases.tags j = .case tag)
    (h : conformCase cases tag j = .ok d) : rule.Told cases tag d := by
  unfold tells at htells
  split at htells
  · rw [Bool.and_eq_true, decide_eq_true_eq] at htells
    exact told_of_type (by decide) htells.1 (mem_tags_of_condition htells.2 hselect) hselect h
  · exact told_of_type (by decide) htells (mem_tags_of_effect hselect) hselect h
  · rw [Bool.and_eq_true, decide_eq_true_eq] at htells
    exact told_of_locale rfl htells.1 htells.2 hselect h
  · cases htells

end Schema

end Storyworld
