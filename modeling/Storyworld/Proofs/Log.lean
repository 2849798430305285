/-
**The log is only ever added to, and has no gaps.**

Entries get into the log from many places: scenes are entered and left, actions are taken, effects
are applied, and an expression that cannot be evaluated is noted.  All of them are put at the end,
and each carries the index at which it stands.  What is saved of a log is read with the same
indices, even where a floating-point number in an entry comes back as another one.  So in any game,
however often it is taken up again from its saves, the entry at an index carries this index.

Main definitions:

* `Storyworld.Appends` — **the log goes on**, and the further entries carry their indices;
* `Storyworld.GameState.IsNumbered` — every entry of the log carries its index;
* `Storyworld.GameState.SavedAs` — what a state is saved as.

Main results:

* `Storyworld.underSessions_appends` — every small step appends to the log;
* `Storyworld.GameState.seq_ofDocument` — the indices of what is read of a save;
* `Storyworld.Engine.seq_restore` — **a log keeps its indices when it is saved and loaded**;
* `Storyworld.Engine.log_grows_numbered` — **the log of a game has no gaps**.
-/

import Storyworld.Proofs.Conforming
import Storyworld.Proofs.Escapes
import Storyworld.Proofs.Resumed

set_option relaxedAutoImplicit false
set_option autoImplicit false

namespace Storyworld

/-! ### Adding to the log -/

/-- **The log goes on**: what is in it stays where it is, and what is added carries its index. -/
structure Appends (p q : Play) : Prop where
  kept : p.state.history <+: q.state.history
  numbered : ∀ (i : Nat) (ev : Event), p.state.history.length ≤ i →
    q.state.history[i]? = some ev → ev.seq = i

namespace Appends

variable {p q r : Play}

/-- Plays whose states have the same log. -/
theorem of_eq (h : q.state.history = p.state.history) : Appends p q where
  kept := h ▸ List.prefix_rfl
  numbered i ev hi hev := by
    rw [h, List.getElem?_eq_none hi] at hev
    cases hev

/-- An entry that is in the log stays at its place. -/
theorem getElem?_of_lt (h : Appends p q) {i : Nat} (hi : i < p.state.history.length) :
    q.state.history[i]? = p.state.history[i]? := by
  obtain ⟨tail, htail⟩ := h.kept
  rw [← htail, List.getElem?_append_left hi]

theorem trans (h : Appends p q) (h' : Appends q r) : Appends p r where
  kept := h.kept.trans h'.kept
  numbered i ev hi hev := by
    rcases Nat.lt_or_ge i q.state.history.length with hq | hq
    · rw [h'.getElem?_of_lt hq] at hev
      exact h.numbered i ev hi hev
    · exact h'.numbered i ev hq hev

theorem recorded (p : Play) (kind : EventKind) (sceneId actionId : Option String)
    (data : Option (Table Json)) : Appends p (p.record kind sceneId actionId data) where
  kept := List.prefix_append _ _
  numbered i ev hi hev := by
    have hlog : (p.record kind sceneId actionId data).state.history = p.state.history ++
        [⟨defaultTimestamp, p.state.history.length, kind, sceneId, actionId, data⟩] := rfl
    rw [hlog, List.getElem?_append_right hi, List.getElem?_singleton] at hev
    split at hev
    · next hlast =>
      cases hev
      show (p.state.history.length : Int) = i
      omega
    · cases hev

end Appends

/-- **Every small step appends to the log.** -/
theorem underSessions_appends (e : Engine) : UnderSessions e Appends where
  refl _ := .of_eq rfl
  trans _ _ _ := .trans
  drawn _ _ := .of_eq rfl
  warned _ _ := .of_eq rfl
  noted p _ := .recorded p _ _ _ _
  changed _ _ _ _ h := .of_eq (Effect.outcome_sameCourse h).history
  applied p _ := .recorded p _ _ _ _
  moved p scene _ _ := .of_eq (GameState.sameCourse_moveTo p.state scene.locationId).history
  recorded p _ _ _ _ := .recorded p _ _ _ _
  seated _ _ := .of_eq rfl

/-- **Every entry of the log carries its index.** -/
def GameState.IsNumbered (s : GameState) : Prop :=
  ∀ (i : Nat) (ev : Event), s.history[i]? = some ev → ev.seq = i

theorem Appends.isNumbered {p q : Play} (h : Appends p q) (hp : p.state.IsNumbered) :
    q.state.IsNumbered := by
  intro i ev hev
  rcases Nat.lt_or_ge i p.state.history.length with hi | hi
  · rw [h.getElem?_of_lt hi] at hev
    exact hp i ev hev
  · exact h.numbered i ev hi hev

/-- It depends on nothing but the indices that the entries carry. -/
theorem GameState.IsNumbered.of_seq {s s' : GameState} (h : s.IsNumbered)
    (hseq : s'.history.map Event.seq = s.history.map Event.seq) : s'.IsNumbered := by
  intro i ev hev
  have hi : (s.history.map Event.seq)[i]? = some ev.seq := by
    rw [← hseq, List.getElem?_map, hev]
    rfl
  rw [List.getElem?_map, Option.map_eq_some_iff] at hi
  obtain ⟨ev', hev', heq⟩ := hi
  rw [← heq]
  exact h i ev' hev'

/-! ### What is read of a save -/

open Json Schema Game

/-- What a state is saved as: the state itself, what is saved of it as text or as bytes, or the
document that is read of the text. -/
inductive GameState.SavedAs (s : GameState) : Saved → Prop
  | state : SavedAs s (.state s)
  | source {text : String} {source : Source} (htext : s.save = .ok text)
      (hsource : source.Spells text.toList) : SavedAs s (.source source)
  | document {text : String} {j : Json} (htext : s.save = .ok text)
      (hj : Json.read text = .ok j) : SavedAs s (.source (.document j))

/-- A field of a record is read as what was written of it. -/
theorem Json.Reread.record_field? {fs : List (String × Option Json)} {j : Json}
    (h : Reread (.record fs) j) (hn : (fs.map Prod.fst).Nodup) {k : String} {v : Json}
    (hv : (Json.record fs).field? k = some v) : ∃ w, j.field? k = some w ∧ Reread v w :=
  Reread.field? (nodup_givenOf hn) h hv

/-- **The index of an entry** is read as it was written, whatever becomes of its data. -/
theorem Event.seq_ofDocument {ev : Event} {w u : Json} (hw : Reread ev.toDocument w)
    (hu : conform eventShape w = .ok u) : (Event.ofDocument u).seq = ev.seq := by
  obtain ⟨v, hv, hread⟩ := hw.record_field? (by simp) (k := "seq") (v := .int ev.seq) (by simp)
  cases hread
  obtain ⟨d, hd, hfield⟩ := field?_of_conform_record hu (k := "seq") rfl hv (by rintro ⟨⟩)
  cases hd
  exact integer_of_field hfield

/-- The indices of the entries of a log. -/
theorem Event.seqs_ofDocument {log : List Event} {ws us : List Json} {i : Nat}
    (hws : RereadItems (log.map Event.toDocument) ws)
    (hus : eachItem (conform eventShape) i ws = .ok us) :
    (us.map Event.ofDocument).map Event.seq = log.map Event.seq := by
  induction log generalizing ws us i with
  | nil =>
      cases hws
      cases hus
      rfl
  | cons ev log ih =>
      cases hws with
      | cons hw hws =>
          obtain ⟨u, rest, hu, hrest, rfl⟩ := eachItem_cons_eq_ok hus
          rw [List.map_cons, List.map_cons, List.map_cons, seq_ofDocument hw hu, ih hws hrest]

namespace GameState

variable {s : GameState} {j : Json}

theorem field?_of_reread (h : Reread s.toDocument j) {k : String} {v : Json}
    (hv : s.toDocument.field? k = some v) : ∃ w, j.field? k = some w ∧ Reread v w :=
  h.record_field? (by simp [fields]) hv

/-- **What is read of a saved state is a whole save.** -/
theorem isFullSave_of_reread (h : Reread s.toDocument j) : isFullSave j = true := by
  obtain ⟨story, hstory, hs⟩ := field?_of_reread h (k := "storyBundleId")
    (v := .str s.storyBundleId) (by simp [toDocument, fields])
  obtain ⟨scene, hscene, hc⟩ := field?_of_reread h (k := "currentSceneId")
    (v := .str s.currentSceneId) (by simp [toDocument, fields])
  obtain ⟨character, hcharacter, ha⟩ := field?_of_reread h (k := "character")
    (v := s.character.toDocument) (by simp [toDocument, fields])
  obtain ⟨flags, hflags, hf⟩ := field?_of_reread h (k := "flags")
    (v := .ofTable .bool s.flags) (by simp [toDocument, fields])
  obtain ⟨vars, hvars, hv⟩ := field?_of_reread h (k := "vars")
    (v := .obj s.vars) (by simp [toDocument, fields])
  cases hs
  cases hc
  cases ha
  cases hf
  cases hv
  simp only [isFullSave, List.all_cons, saveField_of_field hstory, saveField_of_field hscene,
    saveField_of_field hcharacter, saveField_of_field hflags, saveField_of_field hvars]
  rfl

/-- **The indices of the log in what is read of a saved state.** -/
theorem seq_ofDocument (h : Reread s.toDocument j) {d : Json} (hd : conform stateShape j = .ok d) :
    (ofDocument d).history.map Event.seq = s.history.map Event.seq := by
  obtain ⟨w, hw, hread⟩ := field?_of_reread h (k := "history")
    (v := .arr (s.history.map Event.toDocument)) (by simp [toDocument, fields])
  cases hread with
  | @arr _ ws hws =>
      obtain ⟨u, hu, hfield⟩ :=
        field?_of_conform_record hd (k := "history") rfl hw (by rintro ⟨⟩)
      obtain ⟨vs, us, hvs, hus, rfl⟩ := conform_list_eq_ok hu
      cases hvs
      show ((d.items "history").map Event.ofDocument).map Event.seq = _
      rw [items_of_field hfield]
      exact Event.seqs_ofDocument hws hus

end GameState

/-- The characters of what was saved, in any source, are read as those of the text. -/
theorem Source.read_of_spells {source : Source} {j : Json} (h : source.Spells (prettyChars 0 j)) :
    source.read = (readChars (prettyChars 0 j)).mapError SourceFault.unreadable := by
  have htext {text : String} (hcs : text.toList = prettyChars 0 j) :
      Json.read text = readChars (prettyChars 0 j) := by
    rw [← read_pretty_eq, pretty, ← hcs, String.ofList_toList]
  generalize hcs : prettyChars 0 j = cs at h
  cases h with
  | document text =>
      rw [← hcs, ← htext hcs.symm]
      rfl
  | text text =>
      rw [← hcs, ← htext hcs.symm]
      rfl
  | bytes hdecode => rw [Source.read, hdecode]

namespace GameState

variable {s : GameState}

theorem eq_pretty_of_save {text : String} (h : s.save = .ok text) : text = s.toDocument.pretty := by
  unfold save at h
  split at h
  · cases h
    rfl
  · cases h

/-- **What is read of what a state is saved as.** -/
theorem SavedAs.reread {source : Source} (h : s.SavedAs (.source source)) {j : Json}
    (hread : source.read = .ok j) : Reread s.toDocument j := by
  cases h with
  | source htext hsource =>
      rw [eq_pretty_of_save htext, pretty, String.toList_ofList] at hsource
      rw [Source.read_of_spells hsource] at hread
      exact reread_of_read (mapError_eq_ok hread)
  | @document text j' htext hj =>
      rw [eq_pretty_of_save htext, read_pretty_eq] at hj
      have hreread := reread_of_read hj
      -- it is a table, and so it does not count as a text
      have hj' : ∃ fs, j' = .obj fs := by
        cases hreread
        exact ⟨_, rfl⟩
      obtain ⟨fs, rfl⟩ := hj'
      cases hread
      exact hreread

end GameState

/-! ### Saving and loading -/

theorem read_of_readSave {source : Source} {j : Json} (h : readSave source = .ok j) :
    source.read = .ok j := by
  unfold readSave at h
  split at h <;> cases h
  assumption

namespace Engine

variable {e : Engine} {s : GameState}

/-- What is restored is what was read, with the sections of the enabled features. -/
theorem readSaved_of_restore {saved : Saved} {s' : GameState}
    (h : (e.restore saved).state = some s') :
    ∃ s₀, e.readSaved saved = .ok s₀ ∧ s' = e.withDefaults s₀ := by
  unfold restore at h
  split at h
  · cases h
  · next s₀ hread =>
    refine ⟨s₀, hread, ?_⟩
    dsimp only at h
    split at h
    · cases h
    · cases h
      rfl

/-- Loading depends on no more of a save than what is read of it. -/
theorem load_congr {saved saved' : Saved} (h : e.readSaved saved = e.readSaved saved')
    (again : Bool) (shared : Shared) : e.load saved again shared = e.load saved' again shared := by
  simp only [load, restore, h]

theorem readSave_of_readSaved {source : Source} (h : e.readSaved (.source source) = .ok s) :
    ∃ j, readSave source = .ok j ∧
      (if isFullSave j then (readState j).mapError Fault.issues else e.readSmallSave j) =
        .ok s := by
  cases hread : readSave source with
  | error issues =>
      rw [readSaved, hread] at h
      cases h
  | ok j =>
      rw [readSaved, hread] at h
      exact ⟨j, rfl, h⟩

/-- **A log keeps its indices when it is saved and loaded.** -/
theorem seq_restore {saved : Saved} (hsaved : s.SavedAs saved) {s' : GameState}
    (h : (e.restore saved).state = some s') :
    s'.history.map Event.seq = s.history.map Event.seq := by
  obtain ⟨s₀, hread, rfl⟩ := readSaved_of_restore h
  show s₀.history.map Event.seq = _
  cases saved with
  | state t =>
      cases hsaved
      cases hread
      rfl
  | source source =>
      obtain ⟨j, hj, hstate⟩ := readSave_of_readSaved hread
      have hreread := hsaved.reread (read_of_readSave hj)
      rw [if_pos (GameState.isFullSave_of_reread hreread)] at hstate
      obtain ⟨d, hd, rfl⟩ := map_eq_ok (mapError_eq_ok hstate)
      exact GameState.seq_ofDocument hreread (conform_of_fit hd)

/-! ### Games -/

/-- **The log of a game has no gaps.**  Whatever is done to a game, and whatever comes of it, what
was in the log stays where it was, and every further entry carries its index.  The same goes for
conditions.  So in every game the entry at an index carries it, and this is still so after any
number of saves from which the game was taken up again. -/
theorem log_grows_numbered (e : Engine) :
    (∀ (o : Operation) (p : Play), Appends p (o.after e p)) ∧
      (∀ (c : Condition) (p : Play), Appends p ((e.holds c).on p).2) ∧
      ∀ p, e.Course (fun p saved => p.state.SavedAs saved) p → p.state.IsNumbered := by
  have hsteps := underSessions_appends e
  refine ⟨Operation.keeps_after hsteps, hsteps.keeps_holds, fun p hp => ?_⟩
  refine hp.invariant ?_ ?_ hsteps fun _ _ h => h.isNumbered
  · intro c i ev hev
    cases hev
  · intro p saved s hs hsaved hstate
    exact hs.of_seq (seq_restore hsaved hstate)

/-- A traveller lights a lantern at the gate of the Lantern Road, saves the game as a text, and has
the scene entered again when it is loaded. -/
theorem log_grows_numbered_lanternRoad :
    let e := LanternRoad.engine
    let p := Operation.afterAll e [.enter "scene.gate", .act "act.lantern"]
      (e.beginning LanternRoad.traveller LanternRoad.alone)
    ∃ text loaded shared s, p.state.save = .ok text ∧
      e.load (.source (.text text)) true LanternRoad.alone = (.ok loaded, shared) ∧
      loaded.state = some s ∧ p.state.history.length < s.history.length ∧ s.IsNumbered := by
  intro e p
  have hplain : p.state.toDocument.PlainWithin Json.maxWritten := by decide +kernel
  have hsave := GameState.save_of_plain hplain
  have hread : e.readSaved (.source (.text p.state.toDocument.pretty)) = .ok p.state :=
    e.readSaved_save (v := "1.0") (by decide +kernel) hplain
  have hload : e.load (.source (.text p.state.toDocument.pretty)) true LanternRoad.alone =
      e.load (.state p.state) true LanternRoad.alone := load_congr hread true LanternRoad.alone
  have hlonger : ((e.load (.state p.state) true LanternRoad.alone).1.toOption.bind
      Loaded.state).any (fun s => p.state.history.length < s.history.length) = true := by
    decide +kernel
  rcases h : e.load (.state p.state) true LanternRoad.alone with ⟨r, shared⟩
  rw [h] at hload hlonger
  cases r with
  | error f => cases hlonger
  | ok loaded =>
      obtain ⟨hsome, hlength⟩ := (Option.any_eq_true_iff_get _ loaded.state).1 hlonger
      have hs : loaded.state = some (loaded.state.get hsome) := (Option.some_get hsome).symm
      have hp : e.Course (fun p saved => p.state.SavedAs saved) p :=
        (Reachable.afterAll (.beginning LanternRoad.alone) _).course
      have hresumed := Course.resumed hp (.source hsave (.text _)) hload hs
      exact ⟨_, loaded, shared, _, hsave, hload, hs, of_decide_eq_true hlength,
        (log_grows_numbered e).2.2 _ hresumed⟩

end Engine

end Storyworld
