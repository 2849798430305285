/-
**How loading a bundle ends.**

Loading is meant to end in a bundle, or in a report that has at least one error in it.  There are
just four ways in which it ends in neither: the bytes hold no text, the text holds an integer with
too many digits, lists and tables stand too deep inside one another in it, or the document holds a
condition of which it cannot be told what it is.  Lore has no conditions, so for lore there are
three.

Main definitions:

* `Storyworld.isReported` — **a result, or a report with an error**;
* `Storyworld.Source.Spells` — the characters of a source;
* `Storyworld.Source.Illegible` — bytes that hold no text, and texts with too long an integer or too
  deep a list or table.

Main results:

* `Storyworld.isReported_loadDocument` — loading a document in some shape;
* `Storyworld.Source.Illegible.elim` — what is illegible about a source can be pointed at;
* `Storyworld.bundles_load_or_report` — **the ways in which loading a bundle can end**;
* `Storyworld.Riddle.bundles_escape` — all four exceptions are there.
-/

import Storyworld.Proofs.Complaints
import Storyworld.Proofs.Untellable
import Storyworld.Story.LanternRoad
import Storyworld.Story.Load

set_option relaxedAutoImplicit false
set_option autoImplicit false

namespace Storyworld

/-! ### Results and reports -/

/-- **A result, or a report with an error in it.** -/
def isReported {α : Type} : Except Fault α → Bool
  | .ok _ => true
  | .error (.badBundle _ issues) => Issue.hasError issues
  | .error _ => false

theorem isReported_map {α β : Type} (r : Except Fault α) (f : α → β) :
    isReported (r.map f) = isReported r := by
  cases r with
  | ok a => rfl
  | error f => cases f <;> rfl

/-! ### Sources that cannot be read -/

namespace Source

/-- The characters of a source that is text. -/
inductive Spells : Source → List Char → Prop
  | document (s : String) : Spells (.document (.str s)) s.toList
  | text (s : String) : Spells (.text s) s.toList
  | bytes {b : List UInt8} {cs : List Char} (h : Text.decode b = .ok cs) : Spells (.bytes b) cs

/-- **Bytes that hold no text, and texts with too long an integer or too deep a list or table.** -/
inductive Illegible : Source → Prop
  | undecodable {b : List UInt8} {f : Text.DecodeFault} (h : Text.decode b = .error f) :
      Illegible (.bytes b)
  | tooManyDigits {source : Source} {n : Nat}
      (h : source.read = .error (.unreadable (.tooManyDigits n))) : Illegible source
  | tooDeep {source : Source} (h : source.read = .error (.unreadable .tooDeep)) : Illegible source

theorem eq_error_of_mapError {r : Except Json.ReadFault Json} {f : Json.ReadFault}
    (h : r.mapError SourceFault.unreadable = .error (.unreadable f)) : r = .error f := by
  cases r with
  | ok j => cases h
  | error f =>
      cases h
      rfl

/-- What is complained of in a source, beyond its notation, is complained of in its characters. -/
theorem readChars_of_unreadable {source : Source} {f : Json.ReadFault}
    (h : source.read = .error (.unreadable f))
    (hf : ∀ complaint position line column, f ≠ .malformed complaint position line column) :
    ∃ cs, source.Spells cs ∧ Json.readChars cs = .error f := by
  have htext {s : String} (h : Json.read s = .error f) : Json.readChars s.toList = .error f := by
    unfold Json.read at h
    split at h
    · cases h
      exact absurd rfl (hf _ _ _ _)
    · exact h
  unfold read at h
  split at h
  · next s => exact ⟨s.toList, .document s, htext (eq_error_of_mapError h)⟩
  · cases h
  · next s => exact ⟨s.toList, .text s, htext (eq_error_of_mapError h)⟩
  · next b =>
    split at h
    · cases h
    · next cs hcs => exact ⟨cs, .bytes hcs, eq_error_of_mapError h⟩

/-- **What is illegible about a source can be pointed at**: its bytes hold no text, its text holds a
run of too many digits, or more lists and tables are opened in it than may stand inside one
another. -/
theorem Illegible.elim {source : Source} (h : source.Illegible) :
    (∃ b f, source = .bytes b ∧ Text.decode b = .error f) ∨
      ∃ cs, source.Spells cs ∧ ((∃ n, Json.HoldsRun cs n ∧ Json.maxDigits < n) ∨
        Json.maxNesting < Json.openings cs) := by
  cases h with
  | undecodable h => exact .inl ⟨_, _, rfl, h⟩
  | tooManyDigits h =>
      obtain ⟨cs, hcs, hread⟩ := readChars_of_unreadable h fun _ _ _ _ => nofun
      exact .inr ⟨cs, hcs, .inl ⟨_, Json.holdsRun_of_readChars hread⟩⟩
  | tooDeep h =>
      obtain ⟨cs, hcs, hread⟩ := readChars_of_unreadable h fun _ _ _ _ => nofun
      exact .inr ⟨cs, hcs, .inr (Json.openings_of_readChars hread)⟩

theorem illegible_of_read {source : Source} {f : Text.DecodeFault}
    (h : source.read = .error (.undecodable f)) : source.Illegible := by
  have hno {r : Except Json.ReadFault Json} :
      r.mapError SourceFault.unreadable ≠ .error (.undecodable f) := by
    cases r <;> exact nofun
  unfold read at h
  split at h
  · exact absurd h hno
  · cases h
  · exact absurd h hno
  · split at h
    · next hdecode => exact .undecodable hdecode
    · exact absurd h hno

/-- A source that is illegible holds no document, and what is wrong is not its notation. -/
theorem Illegible.read_eq_error {source : Source} (h : source.Illegible) :
    ∃ f, source.read = .error f ∧
      ∀ complaint position line column,
        f ≠ .unreadable (.malformed complaint position line column) := by
  cases h with
  | @undecodable b f h =>
      refine ⟨.undecodable f, ?_, fun _ _ _ _ => nofun⟩
      rw [read, h]
  | tooManyDigits h => exact ⟨_, h, fun _ _ _ _ => nofun⟩
  | tooDeep h => exact ⟨_, h, fun _ _ _ _ => nofun⟩

theorem not_illegible_of_read {source : Source} {j : Json} (h : source.read = .ok j) :
    ¬ source.Illegible := by
  intro hsource
  obtain ⟨f, hf, -⟩ := hsource.read_eq_error
  cases h.symm.trans hf

end Source

/-! ### Loading a document -/

section Loading

variable {shape : Schema.Shape} {label : String} {source : Source}

/-- What is read and does not fit is reported, unless it is given up. -/
theorem isReported_fit {j : Json} (hread : source.read = .ok j) :
    isReported (loadDocument shape label source) = true ↔ ¬ Schema.Untellable shape j := by
  have hreason : Schema.RefusesFor True (Schema.conform shape j) :=
    Schema.refusesFor_conform shape (fun _ => trivial) j
  unfold loadDocument fit
  rw [hread, ← Schema.conform_eq_unusable_iff]
  dsimp only
  cases hconform : Schema.conform shape j with
  | ok d => exact ⟨fun _ => nofun, fun _ => rfl⟩
  | error r =>
      cases r with
      | unusableTag => exact ⟨nofun, fun h => absurd rfl h⟩
      | misfits found =>
          obtain ⟨m, rest, rfl⟩ := List.exists_cons_of_ne_nil (hreason _ hconform)
          exact ⟨fun _ => nofun, fun _ => rfl⟩

/-- **The ways in which loading a document can end.** -/
theorem isReported_loadDocument :
    isReported (loadDocument shape label source) = true ↔
      ¬ source.Illegible ∧ ∀ j, source.read = .ok j → ¬ Schema.Untellable shape j := by
  cases hread : source.read with
  | ok j =>
      rw [isReported_fit hread]
      constructor
      · intro h
        refine ⟨Source.not_illegible_of_read hread, ?_⟩
        rintro _ ⟨⟩
        exact h
      · intro h
        exact h.2 j rfl
  | error f =>
      unfold loadDocument
      rw [hread]
      cases f with
      | undecodable f =>
          exact ⟨nofun, fun h => absurd (Source.illegible_of_read hread) h.1⟩
      | unreadable f =>
          cases f with
          | tooManyDigits n => exact ⟨nofun, fun h => absurd (.tooManyDigits hread) h.1⟩
          | tooDeep => exact ⟨nofun, fun h => absurd (.tooDeep hread) h.1⟩
          | malformed complaint position line column =>
              refine ⟨fun _ => ⟨fun h => ?_, nofun⟩, fun _ => rfl⟩
              obtain ⟨f, hf, hno⟩ := h.read_eq_error
              rw [hread, Except.error.injEq] at hf
              exact hno _ _ _ _ hf.symm

end Loading

/-! ### Bundles -/

theorem hasConditions_of_untellable {shape : Schema.Shape} {j : Json}
    (h : Schema.Untellable shape j) : shape.hasConditions = true :=
  Schema.refusesFor_conform shape id j _ (Schema.conform_eq_unusable_iff.2 h)

theorem hasConditions_loreShape : Story.loreShape.hasConditions = false := by decide +kernel

/-- **The ways in which loading a bundle can end**: in a bundle, or in a report with an error in it,
unless the source is illegible or holds a condition that cannot be told. -/
theorem bundles_load_or_report (source : Source) :
    (isReported (StoryBundle.load source) = true ↔ ¬ source.Illegible ∧
      ∀ j, source.read = .ok j → ¬ Schema.Untellable Story.storyShape j) ∧
    (isReported (LoreBundle.load source) = true ↔ ¬ source.Illegible) ∧
    (source.Illegible → (∃ b f, source = .bytes b ∧ Text.decode b = .error f) ∨
      ∃ cs, source.Spells cs ∧ ((∃ n, Json.HoldsRun cs n ∧ Json.maxDigits < n) ∨
        Json.maxNesting < Json.openings cs)) := by
  refine ⟨?_, ?_, Source.Illegible.elim⟩
  · rw [StoryBundle.load, isReported_map]
    exact isReported_loadDocument
  · rw [LoreBundle.load, isReported_map, isReported_loadDocument]
    refine ⟨And.left, fun h => ⟨h, fun j _ huntellable => ?_⟩⟩
    have hconditions := hasConditions_of_untellable huntellable
    rw [hasConditions_loreShape] at hconditions
    cases hconditions

/-! ### All four exceptions -/

namespace Riddle

open LanternRoad

/-- A story whose one exit has a condition of which it cannot be told what it is. -/
def story : Json :=
  entry "story.riddle" "Riddle" [field "version" "1.0.0", ("ruleModules", .arr []),
    ("world", .obj [("locations", .arr [])]),
    ("story", .obj [field "startScene" "scene.cell",
      ("scenes", .arr [.obj [field "id" "scene.cell", ("narrative", .obj [field "text" "A cell."]),
        ("exits", .arr [exit "Leave" "scene.cell" [("condition", .obj [("type", .arr [])])]])]])])]

/-- A text that is an integer with too many digits. -/
def digits : String := String.ofList (List.replicate (Json.maxDigits + 1) '1')

theorem illegible_digits : (Source.text digits).Illegible := by
  have hread := Json.read_ones (Nat.lt_succ_self Json.maxDigits)
  refine .tooManyDigits (n := Json.maxDigits + 1) ?_
  rw [Source.read, digits, hread]
  rfl

/-- A text in which too many lists are opened and none is closed. -/
def brackets : String := String.ofList (List.replicate (Json.maxNesting + 1) '[')

theorem illegible_brackets : (Source.text brackets).Illegible := by
  have hread := Json.read_brackets (Nat.lt_succ_self Json.maxNesting)
  refine .tooDeep ?_
  rw [Source.read, brackets, hread]
  rfl

/-- Nothing that is illegible is loaded or reported, as a story or as lore. -/
theorem illegible_escapes {source : Source} (h : source.Illegible) :
    isReported (StoryBundle.load source) = false ∧ isReported (LoreBundle.load source) = false := by
  have hdocument (shape : Schema.Shape) (label : String) :
      isReported (loadDocument shape label source) = false :=
    Bool.eq_false_iff.2 fun hreported => (isReported_loadDocument.1 hreported).1 h
  rw [StoryBundle.load, LoreBundle.load, isReported_map, isReported_map]
  exact ⟨hdocument _ _, hdocument _ _⟩

/-- **All four exceptions are there**: bytes that hold no text, an integer with too many digits,
lists too deep inside one another, and a condition whose type is a list. -/
theorem bundles_escape :
    isReported (StoryBundle.load (.bytes [0xFF])) = false ∧
    isReported (LoreBundle.load (.bytes [0xFF])) = false ∧
    isReported (StoryBundle.load (.text digits)) = false ∧
    isReported (LoreBundle.load (.text digits)) = false ∧
    isReported (StoryBundle.load (.text brackets)) = false ∧
    isReported (LoreBundle.load (.text brackets)) = false ∧
    isReported (StoryBundle.load (.document story)) = false := by
  have hdigits := illegible_escapes illegible_digits
  have hbrackets := illegible_escapes illegible_brackets
  exact ⟨by decide +kernel, by decide +kernel, hdigits.1, hdigits.2, hbrackets.1, hbrackets.2,
    by decide +kernel⟩

/-- What is wrong with the row of digits and with that of brackets, and with the story as a story; as
lore it is reported. -/
theorem bundles_load_or_report_riddle :
    (∀ text ∈ [digits, brackets], ∃ cs, (Source.text text).Spells cs ∧
      ((∃ n, Json.HoldsRun cs n ∧ Json.maxDigits < n) ∨ Json.maxNesting < Json.openings cs)) ∧
    Schema.Untellable Story.storyShape story ∧
    isReported (LoreBundle.load (.document story)) = true := by
  have hlegible : ¬ (Source.document story).Illegible :=
    Source.not_illegible_of_read (j := story) rfl
  have hescapes : isReported (StoryBundle.load (.document story)) = false := by decide +kernel
  refine ⟨?_, ?_, (bundles_load_or_report (.document story)).2.1.2 hlegible⟩
  · intro text htext
    have hillegible : (Source.text text).Illegible := by
      rcases List.mem_cons.1 htext with rfl | htext
      · exact illegible_digits
      · rw [List.mem_singleton.1 htext]
        exact illegible_brackets
    rcases (bundles_load_or_report (.text text)).2.2 hillegible with ⟨b, f, h, -⟩ | h
    · cases h
    · exact h
  · refine Classical.byContradiction fun htells => ?_
    have hreported := (bundles_load_or_report (.document story)).1.2 ⟨hlegible, fun j hj => by
      cases hj
      exact htells⟩
    rw [hescapes] at hreported
    cases hreported

end Riddle

end Storyworld
