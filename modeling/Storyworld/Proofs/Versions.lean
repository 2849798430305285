/-
**Saves settle.**

What a state does not have is left out when it is saved, and what is left out of a save is read as
its usual value, if it has one.  Of all that a state may lack only one thing has a usual value: the
version of its shape.  A game lacks it if its story does.  So what is saved of such a game is read as
a state with the usual version, and saved as another text; all else is read as it was.  That is the
only thing that a load can change, and a second load changes nothing any more.

Main definitions:

* `Storyworld.Schema.Fields.Usual` — a field has a usual value;
* `Storyworld.GameState.versioned` — a state with the usual version of its shape, if it has none.

Main results:

* `Storyworld.Schema.conform_usual` — **what is left out is read as its usual value**;
* `Storyworld.GameState.readState_eq_versioned` — what the document of a state is read as;
* `Storyworld.GameState.save_versioned_eq_iff` — when the text stays the same;
* `Storyworld.Engine.saves_settle` — **what a load changes in what is saved**;
* `Storyworld.Cairn.load_changes_save` — a new game that is saved, loaded and saved as another text.
-/

import Storyworld.Proofs.Saving

set_option relaxedAutoImplicit false
set_option autoImplicit false

namespace Storyworld

/-! ### What is left out -/

namespace Schema

/-- A field is optional and has a usual value, which is in its shape. -/
def Fields.Usual (k : String) (d : Json) : Fields → Prop
  | .done => True
  | .field name need shape rest =>
    (name = k → need = .optionalDefaulted d ∧ Fits shape d) ∧ rest.Usual k d

theorem get?_insert_of_ne {α : Type} (front back : Table α) {k name : String} (v v' : α)
    (h : name ≠ k) :
    Table.get? (front ++ (k, v) :: back) name = Table.get? (front ++ (k, v') :: back) name := by
  induction front with
  | nil => simp only [List.nil_append, Table.get?, if_neg (Ne.symm h)]
  | cons f front ih => simp only [List.cons_append, Table.get?, ih]

section

variable {all : Fields} {front back : List (String × Option Json)} {k name : String} {d : Json}
  {need : Need} {shape : Shape} (hs : all.Separate)
  (hnames : (front ++ (k, (none : Option Json)) :: back).map Prod.fst = all.names)
  (hnull : d ≠ .null)

include hs hnames hnull

/-- What is read of one field when another value is left out or given. -/
theorem conformField_usual (hname : name ∈ all.names)
    (hfield : name = k → need = .optionalDefaulted d ∧ Fits shape d) :
    conformField need name (conform shape) (Json.givenOf (front ++ (k, none) :: back)) =
      conformField need name (conform shape) (Json.givenOf (front ++ (k, some d) :: back)) := by
  have hnames' : (front ++ (k, some d) :: back).map Prod.fst = all.names := by
    rw [← hnames, List.map_append, List.map_append, List.map_cons, List.map_cons]
  have hleft := lookup?_givenOf hs hnames hname
  have hgiven := lookup?_givenOf hs hnames' hname
  by_cases hk : name = k
  · subst hk
    obtain ⟨rfl, hfits⟩ := hfield rfl
    have hmem (o : Option Json) : (name, o) ∈ front ++ (name, o) :: back :=
      List.mem_append_right front List.mem_cons_self
    rw [get?_of_mem (hnames ▸ hs.1) (hmem none)] at hleft
    rw [get?_of_mem (hnames' ▸ hs.1) (hmem (some d))] at hgiven
    rw [conformField_given hfits hnull hgiven]
    unfold conformField
    rw [hleft]
    rfl
  · unfold conformField
    rw [hleft, hgiven, get?_insert_of_ne front back none (some d) hk]

theorem conformFields_usual : ∀ fields : Fields, (∀ name ∈ fields.names, name ∈ all.names) →
    fields.Usual k d →
    conformFields fields (Json.givenOf (front ++ (k, none) :: back)) =
      conformFields fields (Json.givenOf (front ++ (k, some d) :: back))
  | .done, _, _ => rfl
  | .field name need shape rest, hsub, ⟨hfield, hrest⟩ => by
      have hread := conformField_usual hs hnames hnull (hsub name List.mem_cons_self) hfield
      have hnext := conformFields_usual rest (fun n hn => hsub n (List.mem_cons_of_mem _ hn)) hrest
      rw [conformFields, conformFields, hread, hnext]

/-- **What is left out is read as its usual value**, and all else as if it were not. -/
theorem conform_usual (husual : all.Usual k d) :
    conform (.record name all false) (.record (front ++ (k, none) :: back)) =
      conform (.record name all false) (.record (front ++ (k, some d) :: back)) := by
  have hread := conformFields_usual hs hnames hnull all (fun _ h => h) husual
  simp only [Json.record_eq, conform, Bool.false_eq_true, if_false, hread]

end

end Schema

/-! ### States without a version -/

namespace GameState

/-- **A state with the usual version of its shape**, if it has none. -/
def versioned (s : GameState) : GameState :=
  { s with schemaVersion := some (s.schemaVersion.getD defaultSchemaVersion) }

variable {s : GameState}

theorem versioned_of_some {v : String} (h : s.schemaVersion = some v) : s.versioned = s := by
  rw [versioned, h, Option.getD_some, ← h]

theorem versioned_eq_self_iff : s.versioned = s ↔ s.schemaVersion.isSome = true := by
  constructor
  · intro h
    rw [← h]
    rfl
  · intro h
    obtain ⟨v, hv⟩ := Option.isSome_iff_exists.1 h
    exact versioned_of_some hv

/-- The fields of a state behind the version of its shape. -/
def furtherFields (s : GameState) : List (String × Option Json) :=
  s.fields.drop 2 ++ [("history", some (.arr (s.history.map Event.toDocument)))]

theorem toDocument_eq (s : GameState) : s.toDocument =
    .record ([("version", some (.str s.version))] ++
      ("schemaVersion", s.schemaVersion.map .str) :: s.furtherFields) := rfl

/-- **What the document of a state is read as.** -/
theorem readState_eq_versioned (s : GameState) : Game.readState s.toDocument = .ok s.versioned := by
  have hversioned : Game.readState s.versioned.toDocument = .ok s.versioned :=
    readState_toDocument rfl
  cases hv : s.schemaVersion with
  | some v => rwa [versioned_of_some hv] at hversioned ⊢
  | none =>
      -- the documents differ in a field that is left out of one of them
      have hsame : Schema.conform Game.stateShape s.toDocument =
          Schema.conform Game.stateShape s.versioned.toDocument := by
        rw [toDocument_eq, toDocument_eq, versioned, hv]
        refine Schema.conform_usual (by decide) rfl nofun ?_
        simp [Schema.Fields.Usual, Game.usual, Story.need, Story.may, Story.many, Schema.fits_text]
      rw [← hversioned]
      simp only [Game.readState, fit, hsame]

theorem toDocument_of_none (h : s.schemaVersion = none) : s.toDocument =
    .obj (("version", .str s.version) :: Json.givenOf s.furtherFields) := by
  rw [toDocument_eq, h]
  rfl

theorem versioned_toDocument_of_none (h : s.schemaVersion = none) : s.versioned.toDocument =
    .obj (("version", .str s.version) :: ("schemaVersion", .str defaultSchemaVersion) ::
      Json.givenOf s.furtherFields) := by
  rw [toDocument_eq, versioned, h]
  rfl

/-- A version is a text, and stands no deeper than anything else. -/
theorem nesting_versioned (s : GameState) :
    s.versioned.toDocument.nesting = s.toDocument.nesting := by
  cases hv : s.schemaVersion with
  | some v => rw [versioned_of_some hv]
  | none =>
      rw [toDocument_of_none hv, versioned_toDocument_of_none hv]
      simp only [Json.nesting, Json.nestingFields, Nat.zero_max]

/-- A version does no harm to a document that is read as it was written. -/
theorem plain_versioned (h : s.toDocument.Plain) : s.versioned.toDocument.Plain := by
  cases hv : s.schemaVersion with
  | some v => rwa [versioned_of_some hv]
  | none =>
      have hnames : ((("version", some (Json.str s.version)) ::
          ("schemaVersion", some (.str defaultSchemaVersion)) :: s.furtherFields).map
            Prod.fst).Nodup := by
        simp [furtherFields, fields]
      rw [toDocument_of_none hv] at h
      rw [versioned_toDocument_of_none hv]
      cases h with
      | obj _ hvalues =>
          obtain ⟨hversion, hfurther⟩ := List.forall_mem_cons.1 hvalues
          exact .obj (Json.nodup_givenOf hnames)
            (List.forall_mem_cons.2 ⟨hversion, List.forall_mem_cons.2 ⟨.str _, hfurther⟩⟩)

theorem plainWithin_versioned {depth : Nat} (h : s.toDocument.PlainWithin depth) :
    s.versioned.toDocument.PlainWithin depth := by
  refine ⟨plain_versioned h.1, ?_⟩
  rw [nesting_versioned]
  exact h.2

/-- **When the text stays the same**: just if the state has a version of its shape. -/
theorem save_versioned_eq_iff (h : s.toDocument.PlainWithin Json.maxWritten) :
    s.versioned.save = s.save ↔ s.schemaVersion.isSome = true := by
  constructor
  · intro heq
    -- one text is read as one document, and a document is that of one state
    have hread := Json.read_of_written h
    rw [save_of_plain (plainWithin_versioned h), save_of_plain h, Except.ok.injEq] at heq
    rw [← heq, Json.read_of_written (plainWithin_versioned h), Except.ok.injEq] at hread
    have hback := congrArg ofDocument hread
    rwa [ofDocument_toDocument, ofDocument_toDocument, versioned_eq_self_iff] at hback
  · intro hsome
    rw [versioned_eq_self_iff.2 hsome]

end GameState

/-! ### Loading what was saved -/

namespace Engine

variable {e : Engine} {s : GameState}

theorem withDefaults_versioned (h : e.withDefaults s = s) :
    e.withDefaults s.versioned = s.versioned :=
  congrArg GameState.versioned h

/-- What is checked of a state is not its version. -/
theorem checkState_versioned (e : Engine) (s : GameState) :
    e.checkState s.versioned = e.checkState s := rfl

/-- A state that has all its sections is loaded from its text with the usual version. -/
theorem load_pretty (hdefaults : e.withDefaults s = s)
    (hissues : Issue.hasError (e.checkState s) = false)
    (hplain : s.toDocument.PlainWithin Json.maxWritten) (shared : Shared) :
    e.load (.source (.text s.toDocument.pretty)) false shared =
      (.ok ⟨e.checkState s, some s.versioned, none⟩, shared) := by
  rw [← checkState_versioned] at hissues ⊢
  exact load_of_readSaved (withDefaults_versioned hdefaults) hissues
    (e.readSaved_pretty s.readState_eq_versioned hplain) shared

/-- **What a load changes in what is saved.**  In whatever way a game on a built engine goes on, its
state is saved as a text, unless lists and tables stand too deep inside one another in it, and loaded
from the text as the same state, with no more than warnings, but for the version of its shape, which
is the usual one if the state had none.  What is loaded is saved as the same text just if the story
has such a version, and loaded from its own text it stays as it is. -/
theorem saves_settle {setup : Setup} (hb : (build setup).engine = some e) {c : Character}
    {p : Play} (hp : e.Reachable c p) (hplain : p.state.toDocument.Plain) (shared : Shared) :
    (p.state.toDocument.nesting ≤ Json.maxWritten →
      ∃ text again issues, p.state.save = .ok text ∧ p.state.versioned.save = .ok again ∧
        Issue.hasError issues = false ∧
        e.load (.source (.text text)) false shared =
          (.ok ⟨issues, some p.state.versioned, none⟩, shared) ∧
        e.load (.source (.text again)) false shared =
          (.ok ⟨issues, some p.state.versioned, none⟩, shared) ∧
        (again = text ↔ e.story.schemaVersion.isSome = true)) ∧
      (Json.maxWritten < p.state.toDocument.nesting → p.state.save = .error .unwritable) := by
  refine ⟨fun hnesting => ?_, GameState.save_of_deep⟩
  have hbelongs := hp.belongs hb
  have hissues : Issue.hasError (e.checkState p.state) = false :=
    hasError_checkState_iff.2 ⟨hbelongs.storyBundleId, hbelongs.placed⟩
  have hwritten : p.state.toDocument.PlainWithin Json.maxWritten := ⟨hplain, hnesting⟩
  have hwritten' := GameState.plainWithin_versioned hwritten
  have hsave := GameState.save_of_plain hwritten
  have hsave' := GameState.save_of_plain hwritten'
  have hsame := GameState.save_versioned_eq_iff hwritten
  rw [hsave, hsave', Except.ok.injEq, hbelongs.schemaVersion] at hsame
  have hload := load_pretty hbelongs.withDefaults hissues hwritten shared
  have hload' := load_pretty (withDefaults_versioned hbelongs.withDefaults) hissues hwritten' shared
  rw [GameState.versioned_of_some (s := p.state.versioned) rfl, checkState_versioned] at hload'
  exact ⟨_, _, e.checkState p.state, hsave, hsave', hissues, hload, hload', hsame⟩

/-- An evening on the Lantern Road, a story with a version of its shape: Mara joins, and an omen with
nothing behind it is remembered. -/
theorem saves_settle_lanternRoad :
    let e := LanternRoad.engine
    let p := Operation.afterAll e [.enter "scene.gate", .act "act.lantern",
        .apply [.addCompanion "comp.mara", .setVar "omen" (.obj [("seen", .null)])]]
      (e.beginning LanternRoad.traveller LanternRoad.alone)
    p.state.toDocument.Plain ∧ e.story.schemaVersion.isSome = true ∧
    ∃ text again issues, p.state.save = .ok text ∧ p.state.versioned.save = .ok again ∧
      Issue.hasError issues = false ∧
      e.load (.source (.text text)) false LanternRoad.alone =
        (.ok ⟨issues, some p.state.versioned, none⟩, LanternRoad.alone) ∧
      e.load (.source (.text again)) false LanternRoad.alone =
        (.ok ⟨issues, some p.state.versioned, none⟩, LanternRoad.alone) ∧
      (again = text ↔ e.story.schemaVersion.isSome = true) := by
  intro e p
  have hplain : p.state.toDocument.PlainWithin Json.maxWritten := by decide +kernel
  exact ⟨hplain.1, by decide +kernel, (saves_settle LanternRoad.build_eq
    (.afterAll (.beginning LanternRoad.alone) _) hplain.1 LanternRoad.alone).1 hplain.2⟩

end Engine

/-! ### A cairn whose story has no version of its shape -/

namespace Cairn

open LanternRoad

/-- The story of the cairn as a document. -/
def document : Json :=
  entry "story.cairn" "Cairn" [field "version" "1.0.0", ("ruleModules", .arr []),
    ("world", .obj [("locations", .arr [])]),
    ("story", .obj [field "startScene" "scene.cairn",
      ("scenes", .arr [.obj [field "id" "scene.cairn",
        ("narrative", .obj [field "text" "A cairn."])]])])]

theorem loads : (StoryBundle.load (.document document)).toOption.isSome = true := by
  decide +kernel

def setup : Setup := .bare ((StoryBundle.load (.document document)).toOption.get loads)

theorem built : (Engine.build setup).engine.isSome = true := by decide +kernel

/-- The engine of the cairn. -/
def engine : Engine := (Engine.build setup).engine.get built

/-- A new game at the cairn. -/
def begun : Play := engine.beginning traveller alone

/-- **A new game that is saved, loaded and saved as another text.** -/
theorem load_changes_save :
    (Engine.build setup).engine = some engine ∧ engine.Reachable traveller begun ∧
      begun.state.toDocument.Plain ∧
      ∃ text again issues s, begun.state.save = .ok text ∧
        engine.load (.source (.text text)) false alone = (.ok ⟨issues, some s, none⟩, alone) ∧
        s.save = .ok again ∧ again ≠ text ∧
        begun.state.schemaVersion = none ∧ s.schemaVersion = some "1.0" := by
  have hbuilt : (Engine.build setup).engine = some engine := (Option.some_get built).symm
  have hreached : engine.Reachable traveller begun := .beginning alone
  have hplain : begun.state.toDocument.PlainWithin Json.maxWritten := by decide +kernel
  have hversion : begun.state.schemaVersion = none := by decide +kernel
  have hload := Engine.load_pretty (hreached.belongs hbuilt).withDefaults (by decide +kernel)
    hplain alone
  have hdiffers : begun.state.versioned.save ≠ begun.state.save := by
    rw [Ne, GameState.save_versioned_eq_iff hplain, hversion]
    exact Bool.false_ne_true
  have hagain := GameState.save_of_plain (GameState.plainWithin_versioned hplain)
  have hsave := GameState.save_of_plain hplain
  refine ⟨hbuilt, hreached, hplain.1, _, _, _, _, hsave, hload, hagain, fun heq => hdiffers ?_,
    hversion, ?_⟩
  · rw [hagain, hsave, heq]
  · rw [GameState.versioned, hversion]
    rfl

end Cairn

end Storyworld
