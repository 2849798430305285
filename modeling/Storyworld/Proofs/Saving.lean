/-
**Saving and loading are inverse.**

What is saved of a game is read as a whole save, fits the shape of states as it is, and is taken for
the state that was saved.  A state that a game can come to belongs to the story, so no section is
added when it is loaded, and nothing that is found wrong with it is more than a warning.

There is a limit to what is written: a state in which lists and tables stand too deep inside one
another is not saved at all.  A game can come to such a state, because a variable may hold any
document.

Main definitions:

* `Storyworld.Json.isPlain` — whether a document is read as it was written;
* `Storyworld.Json.chain` — lists inside one another.

Main results:

* `Storyworld.Json.isPlain_iff` — being read as it was written can be tested;
* `Storyworld.GameState.isFullSave_toDocument` — what is saved is a whole save;
* `Storyworld.Engine.readSaved_save` — **what is saved is read as what it was**;
* `Storyworld.Engine.hasError_checkState_iff` — when a state is only warned of;
* `Storyworld.Engine.load_save` — **saving and loading are inverse**, where a state can be saved;
* `Storyworld.Engine.unwritable_of_chain` — a game that cannot be saved.
-/

import Storyworld.Game.Save
import Storyworld.Proofs.Documents
import Storyworld.Proofs.Reachable
import Storyworld.Proofs.Rereading

set_option relaxedAutoImplicit false
set_option autoImplicit false

namespace Storyworld

/-! ### Plain documents -/

namespace Json

mutual

/-- **Whether a document is read as it was written.** -/
def isPlain : Json → Bool
  | int n => n.natAbs < Nat.pow 10 maxDigits
  | float _ => false
  | arr items => arePlain items
  | obj fields => (fields.map Prod.fst).Nodup && arePlainFields fields
  | _ => true

def arePlain : List Json → Bool
  | [] => true
  | v :: vs => v.isPlain && arePlain vs

def arePlainFields : List (String × Json) → Bool
  | [] => true
  | (_, v) :: fields => v.isPlain && arePlainFields fields

end

theorem arePlain_iff (vs : List Json) : arePlain vs = true ↔ ∀ v ∈ vs, v.isPlain = true := by
  induction vs with
  | nil => simp [arePlain]
  | cons v vs ih => simp [arePlain, ih]

theorem arePlainFields_iff (fs : List (String × Json)) :
    arePlainFields fs = true ↔ ∀ f ∈ fs, f.2.isPlain = true := by
  induction fs with
  | nil => simp [arePlainFields]
  | cons f fs ih => simp [arePlainFields, ih]

mutual

theorem plain_of_isPlain (j : Json) (h : j.isPlain = true) : Plain j := by
  cases j with
  | null => exact .null
  | bool b => exact .bool b
  | int n =>
      rw [isPlain, decide_eq_true_eq] at h
      exact .int h
  | float x => cases h
  | str s => exact .str s
  | arr items => exact .arr (plain_of_arePlain items h)
  | obj fields =>
      rw [isPlain, Bool.and_eq_true, decide_eq_true_eq] at h
      exact .obj h.1 (plain_of_arePlainFields fields h.2)

theorem plain_of_arePlain : ∀ vs : List Json, arePlain vs = true → ∀ v ∈ vs, Plain v
  | [], _ => fun _ hv => by cases hv
  | v :: vs, h => by
      rw [arePlain, Bool.and_eq_true] at h
      exact List.forall_mem_cons.2 ⟨plain_of_isPlain v h.1, plain_of_arePlain vs h.2⟩

theorem plain_of_arePlainFields :
    ∀ fs : List (String × Json), arePlainFields fs = true → ∀ f ∈ fs, Plain f.2
  | [], _ => fun _ hf => by cases hf
  | (_, v) :: fs, h => by
      rw [arePlainFields, Bool.and_eq_true] at h
      exact List.forall_mem_cons.2 ⟨plain_of_isPlain v h.1, plain_of_arePlainFields fs h.2⟩

end

/-- Being read as it was written can be tested. -/
theorem isPlain_iff (j : Json) : j.isPlain = true ↔ Plain j := by
  refine ⟨plain_of_isPlain j, fun h => ?_⟩
  induction h with
  | null => rfl
  | bool b => rfl
  | int hn => rw [isPlain, decide_eq_true hn]
  | str s => rfl
  | arr _ ih => exact (arePlain_iff _).2 ih
  | obj hkeys _ ih =>
      rw [isPlain, Bool.and_eq_true]
      exact ⟨decide_eq_true hkeys, (arePlainFields_iff _).2 ih⟩

instance (j : Json) : Decidable (Plain j) := decidable_of_iff _ j.isPlain_iff

instance (j : Json) (depth : Nat) : Decidable (PlainWithin depth j) :=
  inferInstanceAs (Decidable (j.Plain ∧ j.nesting ≤ depth))

theorem areWritable_iff (vs : List Json) :
    areWritable vs = true ↔ ∀ v ∈ vs, v.isWritable = true := by
  induction vs with
  | nil => simp [areWritable]
  | cons v vs ih => simp [areWritable, ih]

theorem areWritableFields_iff (fs : List (String × Json)) :
    areWritableFields fs = true ↔ ∀ f ∈ fs, f.2.isWritable = true := by
  induction fs with
  | nil => simp [areWritableFields]
  | cons f fs ih => simp [areWritableFields, ih]

/-- What is read as it was written can be written. -/
theorem Plain.isWritable {j : Json} (h : Plain j) : j.isWritable = true := by
  induction h with
  | null => rfl
  | bool b => rfl
  | int hn => rw [Json.isWritable, decide_eq_true hn]
  | str s => rfl
  | arr _ ih => exact (areWritable_iff _).2 ih
  | obj _ _ ih => exact (areWritableFields_iff _).2 ih

end Json

/-- An empty list inside as many others. -/
def Json.chain : Nat → Json
  | 0 => .arr []
  | n + 1 => .arr [chain n]

/-! ### What is saved -/

theorem saveField_of_field {j v : Json} {name : String} (h : j.field? name = some v) :
    saveField j name = v := by
  cases j with
  | obj fields =>
      show ((Schema.lookup? fields name).map Prod.snd).getD .null = v
      rw [Schema.lookup?, show Table.get? fields name = some v from h]
      rfl
  | _ => cases h

/-- **What is saved is a whole save.** -/
theorem GameState.isFullSave_toDocument (s : GameState) : isFullSave s.toDocument = true := by
  have hstory : saveField s.toDocument "storyBundleId" = .str s.storyBundleId :=
    saveField_of_field (by simp [toDocument, fields])
  have hscene : saveField s.toDocument "currentSceneId" = .str s.currentSceneId :=
    saveField_of_field (by simp [toDocument, fields])
  have hcharacter : saveField s.toDocument "character" = s.character.toDocument :=
    saveField_of_field (by simp [toDocument, fields])
  have hflags : saveField s.toDocument "flags" = .ofTable .bool s.flags :=
    saveField_of_field (by simp [toDocument, fields])
  have hvars : saveField s.toDocument "vars" = .obj s.vars :=
    saveField_of_field (by simp [toDocument, fields])
  -- the character, the flags and the variables are tables, and so none of them is null
  simp only [isFullSave, List.all_cons, hstory, hscene, hcharacter, hflags, hvars]
  rfl

/-- **What is read as it was written is saved**, if it is not too deep. -/
theorem GameState.save_of_plain {s : GameState}
    (hplain : s.toDocument.PlainWithin Json.maxWritten) : s.save = .ok s.toDocument.pretty := by
  rw [save, if_pos]
  rw [Bool.and_eq_true, decide_eq_true_eq]
  exact ⟨hplain.1.isWritable, hplain.2⟩

/-- What is too deep is not saved. -/
theorem GameState.save_of_deep {s : GameState} (h : Json.maxWritten < s.toDocument.nesting) :
    s.save = .error .unwritable := by
  rw [save, if_neg]
  rw [Bool.and_eq_true, decide_eq_true_eq]
  exact fun hwritten => absurd hwritten.2 (Nat.not_le.2 h)

/-- **What can be written can be read.** -/
theorem Json.read_of_written {j : Json} (h : j.PlainWithin maxWritten) : read j.pretty = .ok j :=
  read_pretty h.1 (Nat.le_trans h.2 (by decide))

namespace Engine

variable {e : Engine} {s : GameState}

/-- What is saved of a state is read as what the document of the state is read as. -/
theorem readSaved_pretty (e : Engine) {s' : GameState} (hs : Game.readState s.toDocument = .ok s')
    (hplain : s.toDocument.PlainWithin Json.maxWritten) :
    e.readSaved (.source (.text s.toDocument.pretty)) = .ok s' := by
  have hread : readSave (.text s.toDocument.pretty) = .ok s.toDocument := by
    rw [readSave, Source.read, Json.read_of_written hplain]
    rfl
  show (readSave (.text s.toDocument.pretty) >>= fun j =>
    if isFullSave j then (Game.readState j).mapError Fault.issues else e.readSmallSave j) = .ok s'
  rw [hread]
  show (if isFullSave s.toDocument then (Game.readState s.toDocument).mapError Fault.issues
    else e.readSmallSave s.toDocument) = .ok s'
  rw [if_pos s.isFullSave_toDocument, hs]
  rfl

/-- **What is saved is read as what it was.** -/
theorem readSaved_save (e : Engine) {v : String} (hv : s.schemaVersion = some v)
    (hplain : s.toDocument.PlainWithin Json.maxWritten) :
    e.readSaved (.source (.text s.toDocument.pretty)) = .ok s :=
  e.readSaved_pretty (GameState.readState_toDocument hv) hplain

/-- States that are saved as the same text are the same. -/
theorem eq_of_save_eq (e : Engine) {s' : GameState} {v v' : String}
    (hv : s.schemaVersion = some v) (hv' : s'.schemaVersion = some v')
    (hplain : s.toDocument.PlainWithin Json.maxWritten)
    (hplain' : s'.toDocument.PlainWithin Json.maxWritten) (h : s.save = s'.save) : s = s' := by
  rw [GameState.save_of_plain hplain, GameState.save_of_plain hplain', Except.ok.injEq] at h
  have hread := e.readSaved_save hv hplain
  rw [h, e.readSaved_save hv' hplain'] at hread
  exact (Except.ok.inj hread).symm

/-! ### What is wrong with a state -/

theorem hasError_map_warning {α : Type} (path message : α → String) (xs : List α) :
    Issue.hasError (xs.map fun x => .warning (path x) (message x)) = false := by
  rw [Issue.hasError, List.any_map, List.any_eq_false]
  intro x _
  exact Bool.false_ne_true

theorem hasError_inventoryWarnings (e : Engine) (s : GameState) :
    Issue.hasError (e.inventoryWarnings s) = false := by
  unfold inventoryWarnings
  split
  · rfl
  · exact hasError_map_warning _ _ _

theorem hasError_loreWarnings (e : Engine) (c : Character) :
    Issue.hasError (e.loreWarnings c) = false := by
  rw [loreWarnings, hasError_append, hasError_map_warning, Bool.or_false]
  split <;> rfl

theorem hasError_knowledgeWarning (e : Engine) (key reveal : String) :
    Issue.hasError (e.knowledgeWarning key reveal) = false := by
  unfold knowledgeWarning
  dsimp only
  rw [hasError_append, Bool.or_eq_false_iff]
  constructor
  · split <;> rfl
  · split
    · rfl
    split
    · rfl
    split
    · split <;> rfl
    · rfl

theorem hasError_knowledgeWarnings (e : Engine) (s : GameState) :
    Issue.hasError (e.knowledgeWarnings s) = false := by
  unfold knowledgeWarnings
  split
  · rw [hasError_eq_false_iff]
    intro i hi
    obtain ⟨x, -, hx⟩ := List.mem_flatMap.1 hi
    exact hasError_eq_false_iff.1 (e.hasError_knowledgeWarning x.1 x.2) i hx
  · rfl

/-- **What is found wrong with a state is more than a warning only if the state is of another story,
or at a scene that the story does not have.** -/
theorem hasError_checkState_iff : Issue.hasError (e.checkState s) = false ↔
    s.storyBundleId = e.story.id ∧ (e.scene? s.currentSceneId).isSome := by
  unfold checkState
  split
  · next hid =>
    simp only [hasError_append, hasError_inventoryWarnings, hasError_loreWarnings,
      hasError_knowledgeWarnings, Bool.or_false, hid, true_and]
    split
    · next hplaced => simp [hplaced, Issue.hasError]
    · next hplaced => simp [hplaced, Issue.hasError, Issue.error, Issue.isError]
  · next hid => simp [hid, Issue.hasError, Issue.error, Issue.isError]

/-! ### Loading -/

/-- Loading what is read as a state with all its sections gives the state, if no more than warnings
come of it, and changes nothing that is shared. -/
theorem load_of_readSaved (hdefaults : e.withDefaults s = s)
    (hissues : Issue.hasError (e.checkState s) = false) {saved : Saved}
    (hread : e.readSaved saved = .ok s) (shared : Shared) :
    e.load saved false shared = (.ok ⟨e.checkState s, some s, none⟩, shared) := by
  have hrestore : e.restore saved = ⟨e.checkState s, some s, none⟩ := by
    simp only [restore, hread, hdefaults, hissues]
    rfl
  simp only [load, hrestore]

/-- **Saving and loading are inverse.**  Whatever is done to a game on a built engine, let its
document be plain: it holds no floating-point number and no integer with too many digits, and its
tables are tables, in which a name stands once.  Where lists and tables do not stand too deep inside
one another, the state can be saved, and whether it is loaded from the text or as it is, what comes
of it is the same state.  It is no more than warned of, no scene is entered, and nothing that the
games share is touched.  Where they stand too deep, the state is not saved. -/
theorem load_save {setup : Setup} (hb : (build setup).engine = some e) {v : String}
    (hv : e.story.schemaVersion = some v) {c : Character} {p : Play} (hp : e.Reachable c p)
    (hplain : p.state.toDocument.Plain) (shared : Shared) :
    (p.state.toDocument.nesting ≤ Json.maxWritten →
      ∃ text issues, p.state.save = .ok text ∧ Issue.hasError issues = false ∧
        e.load (.source (.text text)) false shared = (.ok ⟨issues, some p.state, none⟩, shared) ∧
        e.load (.state p.state) false shared = (.ok ⟨issues, some p.state, none⟩, shared)) ∧
      (Json.maxWritten < p.state.toDocument.nesting → p.state.save = .error .unwritable) := by
  refine ⟨fun hnesting => ?_, GameState.save_of_deep⟩
  have hbelongs := hp.belongs hb
  have hread : e.readSaved (.source (.text p.state.toDocument.pretty)) = .ok p.state :=
    e.readSaved_save (hbelongs.schemaVersion.trans hv) ⟨hplain, hnesting⟩
  have hissues : Issue.hasError (e.checkState p.state) = false :=
    hasError_checkState_iff.2 ⟨hbelongs.storyBundleId, hbelongs.placed⟩
  exact ⟨p.state.toDocument.pretty, e.checkState p.state,
    GameState.save_of_plain ⟨hplain, hnesting⟩, hissues,
    load_of_readSaved hbelongs.withDefaults hissues hread shared,
    load_of_readSaved hbelongs.withDefaults hissues rfl shared⟩

/-- An evening on the Lantern Road, on which Mara joins, an omen with nothing behind it is
remembered, and the vote of a player is queued. -/
theorem load_save_lanternRoad :
    let p := Operation.afterAll LanternRoad.engine
      [.enter "scene.gate", .act "act.lantern",
        .apply [.addCompanion "comp.mara", .setVar "omen" (.obj [("seen", .null)])],
        .register (.obj [("id", .str "ida"), ("name", .str "Ida \"the Bold\"")]),
        .queue (.obj [("playerId", .str "ida"), ("actionId", .str "act.climb")])]
      (LanternRoad.engine.beginning LanternRoad.traveller LanternRoad.alone)
    ∃ text issues, p.state.save = .ok text ∧ Issue.hasError issues = false ∧
      LanternRoad.engine.load (.source (.text text)) false LanternRoad.alone =
        (.ok ⟨issues, some p.state, none⟩, LanternRoad.alone) ∧
      LanternRoad.engine.load (.state p.state) false LanternRoad.alone =
        (.ok ⟨issues, some p.state, none⟩, LanternRoad.alone) := by
  intro p
  have hplain : p.state.toDocument.PlainWithin Json.maxWritten := by decide +kernel
  exact (load_save LanternRoad.build_eq (v := "1.0") (by decide +kernel)
    (.afterAll (.beginning LanternRoad.alone) _) hplain.1 LanternRoad.alone).1 hplain.2

/-- **A game on the Lantern Road that cannot be saved**: a variable holds lists inside one another,
and there is neither a floating-point number in the state nor an integer that is too long. -/
theorem unwritable_of_chain :
    let e := LanternRoad.engine
    let p := Operation.afterAll e [.apply [.setVar "chain" (.chain 400)]]
      (e.beginning LanternRoad.traveller LanternRoad.alone)
    (build (LanternRoad.setup "scene.road")).engine = some e ∧ e.story.schemaVersion = some "1.0" ∧
      e.Reachable LanternRoad.traveller p ∧ p.state.toDocument.Plain ∧
      p.state.save = .error .unwritable := by
  intro e p
  have hdeep : Json.maxWritten < p.state.toDocument.nesting := by decide +kernel
  exact ⟨LanternRoad.build_eq, by decide +kernel, .afterAll (.beginning LanternRoad.alone) _,
    by decide +kernel, GameState.save_of_deep hdeep⟩

end Engine

end Storyworld
