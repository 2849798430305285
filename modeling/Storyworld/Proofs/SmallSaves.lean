/-
**What small saves fill in.**

A small save names a scene, and besides it carries whatever it likes of the other fields of a state.
The rest is meant to be as in a new game at the scene.  But small saves have a shape of their own,
and of the fields of a state it lacks four: the sections for lore, companions, relationships and the
session.  What a small save carries there is passed over without a word.  All other fields that it
carries have the values that a whole save would give them, and all that it does not carry, and the
four sections, are as in a new game.

Main definitions:

* `Storyworld.StateField` — the fields of a state, but for the scene;
* `Storyworld.StateField.Agree`, `Storyworld.StateField.Carried` — two states have the same in a
  field, and what a save carries in it;
* `Storyworld.Engine.freshAt` — a new game at a scene;
* `Storyworld.GameState.FilledIn` — **what loading a small save comes to**.

Main results:

* `Storyworld.Schema.field?_of_conform_optional` — reading a record all of whose fields are
  optional;
* `Storyworld.Engine.small_saves_fill_in` — **what small saves keep, and what they lose**;
* `Storyworld.Inn.sections_are_lost` — a small save that loses four sections.
-/

import Storyworld.Proofs.Documents
import Storyworld.Proofs.Log

set_option relaxedAutoImplicit false
set_option autoImplicit false

namespace Storyworld

/-! ### Optional fields -/

namespace Schema

/-- The fields of a record; other shapes have none. -/
def Shape.fields : Shape → Fields
  | .record _ fields _ => fields
  | _ => .done

/-- Whether all fields may be absent or null. -/
def Fields.areOptional : Fields → Bool
  | .done => true
  | .field _ .optional _ rest => rest.areOptional
  | .field _ _ _ _ => false

/-- Nothing is read of a field that is absent or null, if all fields may be. -/
theorem get?_eq_none_of_conformFields {name : String} {given : List (String × Json)}
    (hnothing : ∀ k v, lookup? given name = some (k, v) → v = .null) :
    ∀ {fields : Fields} {read : List (String × Json)}, fields.areOptional = true →
      conformFields fields given = .ok read → Table.get? read name = none
  | .done, _, _, h => by
      cases h
      rfl
  | .field l .optional shape rest, _, hoptional, h => by
      obtain ⟨a, b, ha, hb, rfl⟩ := conformFields_field_eq_ok h
      rw [Fields.areOptional] at hoptional
      have hrest := get?_eq_none_of_conformFields hnothing hoptional hb
      by_cases hl : l = name
      · -- the field itself is read, and gives nothing; the name may come again later
        subst hl
        have hempty : conformField .optional l (conform shape) given = .ok [] := by
          cases hlookup : lookup? given l with
          | none => simp only [conformField, hlookup]
          | some found =>
              obtain ⟨k, v⟩ := found
              obtain rfl := hnothing k v hlookup
              simp only [conformField, hlookup]
        cases ha.symm.trans hempty
        exact hrest
      · rcases conformField_eq_ok ha with ⟨-, rfl⟩ | ⟨w, rfl⟩
        · exact hrest
        · rw [List.singleton_append, Table.get?, if_neg hl, hrest]

/-- **What is read of a record all of whose fields are optional**: nothing of a field that is absent
or null, and of any other field its value in its shape. -/
theorem field?_of_conform_optional {name : String} {fields : Fields}
    (hoptional : fields.areOptional = true) {j d : Json}
    (h : conform (.record name fields false) j = .ok d) {k : String} {shape : Shape}
    (hshape : fields.shape? k = some shape) :
    (saveField j k = .null ∧ d.field? k = none) ∨ (saveField j k ≠ .null ∧
      ∃ w, conform shape (saveField j k) = .ok w ∧ d.field? k = some w) := by
  obtain ⟨given, read, further, rfl, hread, rfl, -, hclosed⟩ := conform_record_eq_ok h
  rw [hclosed rfl, List.append_nil]
  cases hlookup : lookup? given k with
  | none =>
      refine .inl ⟨by simp only [saveField, hlookup, Option.map_none, Option.getD_none], ?_⟩
      refine get?_eq_none_of_conformFields (fun l v hl => ?_) hoptional hread
      rw [hlookup] at hl
      cases hl
  | some found =>
      obtain ⟨l, v⟩ := found
      have hsave : saveField (.obj given) k = v := by
        simp only [saveField, hlookup, Option.map_some, Option.getD_some]
      rw [hsave]
      by_cases hnull : v = .null
      · refine .inl ⟨hnull, get?_eq_none_of_conformFields (fun l' v' hl => ?_) hoptional hread⟩
        cases hlookup.symm.trans hl
        exact hnull
      · exact .inr ⟨hnull, get?_of_conformFields hlookup hnull hshape hread⟩

end Schema

/-! ### The fields of a state -/

/-- The fields of a state, but for the scene. -/
inductive StateField where
  | version
  | schemaVersion
  | storyBundleId
  | loreBundleIds
  | currentLocationId
  | character
  | flags
  | vars
  | loreKnowledge
  | reputation
  | companions
  | relationships
  | session
  | history
deriving DecidableEq

namespace StateField

/-- The name under which a save has the field. -/
def name : StateField → String
  | version => "version"
  | schemaVersion => "schemaVersion"
  | storyBundleId => "storyBundleId"
  | loreBundleIds => "loreBundleIds"
  | currentLocationId => "currentLocationId"
  | character => "character"
  | flags => "flags"
  | vars => "vars"
  | loreKnowledge => "loreKnowledge"
  | reputation => "reputation"
  | companions => "companions"
  | relationships => "relationships"
  | session => "session"
  | history => "history"

/-- Two states have the same in a field. -/
def Agree : StateField → GameState → GameState → Prop
  | version, s, t => s.version = t.version
  | schemaVersion, s, t => s.schemaVersion = t.schemaVersion
  | storyBundleId, s, t => s.storyBundleId = t.storyBundleId
  | loreBundleIds, s, t => s.loreBundleIds = t.loreBundleIds
  | currentLocationId, s, t => s.currentLocationId = t.currentLocationId
  | character, s, t => s.character = t.character
  | flags, s, t => s.flags = t.flags
  | vars, s, t => s.vars = t.vars
  | loreKnowledge, s, t => s.loreKnowledge = t.loreKnowledge
  | reputation, s, t => s.reputation = t.reputation
  | companions, s, t => s.companions = t.companions
  | relationships, s, t => s.relationships = t.relationships
  | session, s, t => s.session = t.session
  | history, s, t => s.history = t.history

variable {f : StateField} {s t u : GameState}

theorem Agree.symm (h : f.Agree s t) : f.Agree t s := by
  cases f <;> exact Eq.symm h

theorem Agree.trans (h : f.Agree s t) (h' : f.Agree t u) : f.Agree s u := by
  cases f <;> exact Eq.trans h h'

/-- **What a save carries in a field**: something that is not null, which in the shape that the
field has in a whole save is this document. -/
def Carried (f : StateField) (j d : Json) : Prop :=
  saveField j f.name ≠ .null ∧ ∃ shape, Game.stateShape.fields.shape? f.name = some shape ∧
    Schema.conform shape (saveField j f.name) = .ok d

theorem Carried.unique {j d d' : Json} (h : f.Carried j d) (h' : f.Carried j d') : d = d' := by
  obtain ⟨-, shape, hshape, hd⟩ := h
  obtain ⟨-, shape', hshape', hd'⟩ := h'
  cases hshape.symm.trans hshape'
  exact Except.ok.inj (hd.symm.trans hd')

/-- A state that has a document in a field, and nothing else. -/
def having (f : StateField) (d : Json) : GameState := .ofDocument (.obj [(f.name, d)])

/-- The shape of small saves has the field. -/
def IsKept (f : StateField) : Prop := f.name ∈ Game.smallSaveShape.fields.names

instance (f : StateField) : Decidable f.IsKept :=
  inferInstanceAs (Decidable (f.name ∈ Game.smallSaveShape.fields.names))

/-- The fields that the shape of small saves lacks. -/
theorem not_isKept_iff : ¬ f.IsKept ↔ f = loreKnowledge ∨ f = companions ∨ f = relationships ∨
    f = session := by
  cases f <;> decide

end StateField

/-! ### Filling in -/

/-- The character of a new game to which no character is brought. -/
def Character.usual : Character := .ofDocument Game.defaultCharacter

namespace Engine

/-- **A new game at a scene**, with the usual character. -/
def freshAt (e : Engine) (sceneId : String) : GameState :=
  { (e.fresh .usual).moveTo ((e.scene? sceneId).bind Scene.locationId) with
    currentSceneId := sceneId }

end Engine

/-- **What loading a small save comes to**: a state at the scene that it names, which has all that
the save carries in the fields that the shape of small saves has, and is as in a new game at the
scene in all else. -/
structure GameState.FilledIn (e : Engine) (j : Json) (sceneId : String) (s : GameState) : Prop where
  scene : s.currentSceneId = sceneId
  readable : ∀ f : StateField, f.IsKept → saveField j f.name ≠ .null → ∃ d, f.Carried j d
  kept : ∀ (f : StateField) (d : Json), f.IsKept → f.Carried j d → f.Agree s (f.having d)
  fresh : ∀ f : StateField, ¬ f.IsKept ∨ saveField j f.name = .null → f.Agree s (e.freshAt sceneId)

/-- The scene that a small save names, under either of two names. -/
def namedScene? (j : Json) : Option String :=
  (saveField j "currentSceneId").str?.filter (· != "") <|>
    (saveField j "currentScene").str?.filter (· != "")

/-! ### Reading a small save -/

section Reading

variable {e : Engine} {j save : Json} {sceneId : String} {c : Character} {f : StateField}

open StateField

theorem areOptional_smallSaveShape : Game.smallSaveShape.fields.areOptional = true := by decide

/-- **What is read of a small save.** -/
theorem smallSave_field (h : fit Game.smallSaveShape j = .ok save) {k : String}
    {shape : Schema.Shape} (hshape : Game.smallSaveShape.fields.shape? k = some shape) :
    (saveField j k = .null ∧ save.field? k = none) ∨ (saveField j k ≠ .null ∧
      ∃ w, Schema.conform shape (saveField j k) = .ok w ∧ save.field? k = some w) :=
  Schema.field?_of_conform_optional areOptional_smallSaveShape (conform_of_fit h) hshape

/-- A text in a small save. -/
theorem smallSave_text (h : fit Game.smallSaveShape j = .ok save) {k : String}
    (hshape : Game.smallSaveShape.fields.shape? k = some .text) :
    save.text? k = (saveField j k).str? := by
  rcases smallSave_field h hshape with ⟨hnull, hnone⟩ | ⟨-, w, hw, hsome⟩
  · rw [Json.text?, hnone, hnull]
    rfl
  · obtain ⟨s, hs, rfl⟩ := Schema.eq_str_of_conform_text hw
    rw [Json.text?, hsome, hs]
    rfl

/-- The fields of small saves have the shapes that they have in whole saves, but for the character,
which is looked at later. -/
theorem shape?_of_isKept (hf : f.IsKept) (hcharacter : f ≠ .character) :
    Game.smallSaveShape.fields.shape? f.name = Game.stateShape.fields.shape? f.name := by
  cases f <;> first | rfl | exact absurd rfl hcharacter | exact absurd hf (by decide)

/-- The sections of the enabled features are there already. -/
theorem withDefaults_fillIn (e : Engine) (save : Json) (sceneId : String) (c : Character) :
    e.withDefaults (e.fillIn save sceneId c) = e.fillIn save sceneId c := by
  have hfresh {α : Type} (enabled : Bool) (a : α) : section? enabled a (section? enabled a none) =
      (section? enabled a none) := by
    rw [section?_of_isSome fun h => isSome_section? h a none]
  simp only [Engine.fillIn, GameState.moveTo_eq, Engine.fresh, Engine.withDefaults, hfresh]

theorem character_fillIn : (e.fillIn save sceneId c).character = c := by
  simp only [Engine.fillIn, GameState.moveTo_eq]
  rfl

/-- What has been read of a field, but for the character, is filled in. -/
theorem agree_fillIn_having (hf : f.IsKept) (hcharacter : f ≠ .character) {shape : Schema.Shape}
    (hshape : Game.stateShape.fields.shape? f.name = some shape) {v d : Json}
    (hd : Schema.conform shape v = .ok d) (hsave : save.field? f.name = some d) :
    f.Agree (e.fillIn save sceneId c) (f.having d) := by
  -- what has been read is of the kind of its shape, so there is something to fill in
  cases f with
  | version | storyBundleId | schemaVersion | currentLocationId =>
      cases hshape
      obtain ⟨s, -, rfl⟩ := Schema.eq_str_of_conform_text hd
      simp only [name] at hsave
      simp only [Agree, Engine.fillIn, Json.text?, hsave]
      rfl
  | loreBundleIds | history =>
      cases hshape
      obtain ⟨-, items, -, -, rfl⟩ := Schema.conform_list_eq_ok hd
      simp only [name] at hsave
      simp only [Agree, Engine.fillIn, Json.texts?, Json.items?, hsave]
      rfl
  | flags | vars | reputation =>
      cases hshape
      obtain ⟨-, fields, -, -, rfl⟩ := Schema.conform_table_eq_ok hd
      simp only [name] at hsave
      simp only [Agree, Engine.fillIn, Json.tableOf?, Json.fields?, hsave]
      rfl
  | character => exact absurd rfl hcharacter
  | loreKnowledge | companions | relationships | session => exact absurd hf (by decide)

/-- A field of which nothing has been read, but for the character, is as in a new game. -/
theorem agree_fillIn_freshAt (hf : f.IsKept) (hcharacter : f ≠ .character)
    (hsave : save.field? f.name = none) :
    f.Agree (e.fillIn save sceneId c) (e.freshAt sceneId) := by
  cases f with
  | version | storyBundleId | schemaVersion | loreBundleIds | currentLocationId | flags | vars
  | reputation | history =>
      simp only [name] at hsave
      simp only [Agree, Engine.fillIn, Engine.freshAt, GameState.moveTo_eq, Json.text?, Json.texts?,
        Json.items?, Json.tableOf?, Json.fields?, hsave]
      rfl
  | character => exact absurd rfl hcharacter
  | loreKnowledge | companions | relationships | session => exact absurd hf (by decide)

/-- The fields that the shape of small saves lacks are as in a new game. -/
theorem agree_fillIn_of_not_isKept (hf : ¬ f.IsKept) :
    f.Agree (e.fillIn save sceneId c) (e.freshAt sceneId) := by
  rcases not_isKept_iff.1 hf with rfl | rfl | rfl | rfl
  all_goals
    simp only [Agree, Engine.fillIn, Engine.freshAt, GameState.moveTo_eq]
    rfl

/-- A character that a small save carries, or the usual one. -/
theorem readCharacter_of_smallSave (h : fit Game.smallSaveShape j = .ok save)
    (hc : Game.readCharacter (.obj ((save.fields? "character").getD [])) = .ok c) :
    (saveField j "character" = .null ∧ c = .usual) ∨ (saveField j "character" ≠ .null ∧
      ∃ d, Schema.conform Game.characterShape (saveField j "character") = .ok d ∧
        c = .ofDocument d) := by
  have hshape : Game.smallSaveShape.fields.shape? "character" = some Story.anyTable := rfl
  rcases smallSave_field h hshape with ⟨hnull, hnone⟩ | ⟨hgiven, w, hw, hsome⟩
  · rw [Json.fields?, hnone] at hc
    exact .inl ⟨hnull, Except.ok.inj (hc.symm.trans rfl)⟩
  · obtain ⟨fields, -, hfields, -, -⟩ := Schema.conform_table_eq_ok hw
    rw [hfields] at hw
    cases hw.symm.trans (fits_anyTable fields)
    rw [Json.fields?, hsome] at hc
    obtain ⟨d, hd, rfl⟩ := map_eq_ok hc
    rw [hfields]
    exact .inr ⟨hfields ▸ hgiven, d, conform_of_fit hd, rfl⟩

/-- What a small save is read as. -/
theorem readSmallSave_eq_ok {s : GameState} (h : e.readSmallSave j = .ok s) :
    ∃ save sceneId c, fit Game.smallSaveShape j = .ok save ∧ namedScene? j = some sceneId ∧
      Game.readCharacter (.obj ((save.fields? "character").getD [])) = .ok c ∧
      s = e.fillIn save sceneId c := by
  cases hfit : fit Game.smallSaveShape j with
  | error f =>
      rw [Engine.readSmallSave, hfit] at h
      cases h
  | ok save =>
      have hid : save.text? "currentSceneId" = (saveField j "currentSceneId").str? :=
        smallSave_text hfit rfl
      have hscene : save.text? "currentScene" = (saveField j "currentScene").str? :=
        smallSave_text hfit rfl
      rw [Engine.readSmallSave, hfit] at h
      dsimp only [Except.mapError, bind, Except.bind] at h
      rw [hid, hscene] at h
      split at h
      · cases h
      · next sceneId hnamed =>
        cases hc : Game.readCharacter (.obj ((save.fields? "character").getD [])) with
        | error f =>
            rw [hc] at h
            cases h
        | ok c =>
            rw [hc] at h
            cases h
            exact ⟨save, sceneId, c, rfl, hnamed, hc, rfl⟩

variable (e sceneId) in
/-- **A field that the shape of small saves has** is as in a new game if the save carries nothing in
it, and else it is filled in. -/
theorem fillIn_of_isKept (hfit : fit Game.smallSaveShape j = .ok save)
    (hc : Game.readCharacter (.obj ((save.fields? "character").getD [])) = .ok c)
    (hf : f.IsKept) :
    (saveField j f.name = .null ∧ f.Agree (e.fillIn save sceneId c) (e.freshAt sceneId)) ∨
      (saveField j f.name ≠ .null ∧
        ∃ d, f.Carried j d ∧ f.Agree (e.fillIn save sceneId c) (f.having d)) := by
  -- of the character a small save only says that it is an object: its shape is checked after it
  by_cases hcharacter : f = .character
  · subst hcharacter
    rcases readCharacter_of_smallSave hfit hc with ⟨hnull, rfl⟩ | ⟨hgiven, d, hd, rfl⟩
    · refine .inl ⟨hnull, character_fillIn.trans ?_⟩
      simp only [Engine.freshAt, GameState.moveTo_eq]
      rfl
    · exact .inr ⟨hgiven, d, ⟨hgiven, _, rfl, hd⟩, character_fillIn⟩
  · obtain ⟨shape, hshape⟩ : ∃ shape, Game.stateShape.fields.shape? f.name = some shape := by
      cases f <;> exact ⟨_, rfl⟩
    rcases smallSave_field hfit ((shape?_of_isKept hf hcharacter).trans hshape) with
      ⟨hnull, hnone⟩ | ⟨hgiven, d, hd, hsome⟩
    · exact .inl ⟨hnull, agree_fillIn_freshAt hf hcharacter hnone⟩
    · exact .inr ⟨hgiven, d, ⟨hgiven, shape, hshape, hd⟩,
        agree_fillIn_having hf hcharacter hshape hd hsome⟩

/-- **What a small save is read as has been filled in.** -/
theorem filledIn_of_readSmallSave {s : GameState} (h : e.readSmallSave j = .ok s) :
    ∃ sceneId, namedScene? j = some sceneId ∧ (e.withDefaults s).FilledIn e j sceneId := by
  obtain ⟨save, sceneId, c, hfit, hnamed, hc, rfl⟩ := readSmallSave_eq_ok h
  refine ⟨sceneId, hnamed, ?_⟩
  rw [withDefaults_fillIn]
  constructor
  · rfl
  · intro f hf hgiven
    rcases fillIn_of_isKept e sceneId hfit hc hf with ⟨hnull, -⟩ | ⟨-, d, hcarried, -⟩
    · exact absurd hnull hgiven
    · exact ⟨d, hcarried⟩
  · intro f d hf hcarried
    rcases fillIn_of_isKept e sceneId hfit hc hf with ⟨hnull, -⟩ | ⟨-, d', hcarried', hagree⟩
    · exact absurd hnull hcarried.1
    · exact hcarried.unique hcarried' ▸ hagree
  · intro f hf
    by_cases hkept : f.IsKept
    · rcases fillIn_of_isKept e sceneId hfit hc hkept with ⟨-, hagree⟩ | ⟨hgiven, -⟩
      · exact hagree
      · exact absurd (hf.resolve_left (not_not_intro hkept)) hgiven
    · exact agree_fillIn_of_not_isKept hkept

end Reading

/-! ### Loading a small save -/

namespace GameState.FilledIn

variable {e : Engine} {j : Json} {sceneId : String} {s : GameState}

/-- **When a small save loses nothing**: when what it carries in the fields that its shape lacks is
as in a new game. -/
theorem keeps_all_iff (h : s.FilledIn e j sceneId) :
    (∀ (f : StateField) (d : Json), f.Carried j d → f.Agree s (f.having d)) ↔
      ∀ (f : StateField) (d : Json), ¬ f.IsKept → f.Carried j d →
        f.Agree (e.freshAt sceneId) (f.having d) := by
  constructor
  · intro hall f d hf hd
    exact (h.fresh f (.inl hf)).symm.trans (hall f d hd)
  · intro hlacking f d hd
    by_cases hf : f.IsKept
    · exact h.kept f d hf hd
    · exact (h.fresh f (.inl hf)).trans (hlacking f d hf hd)

end GameState.FilledIn

namespace Engine

variable {e : Engine}

/-- What a load ends with: the state that was restored, or what entering its scene made of it. -/
theorem state_of_load {saved : Saved} {again : Bool} {shared shared' : Shared} {loaded : Loaded}
    (h : e.load saved again shared = (.ok loaded, shared')) {s : GameState}
    (hs : loaded.state = some s) : ∃ s₀, (e.restore saved).state = some s₀ ∧
      s = if again then (shared.carryOut s₀ (e.enter s₀.currentSceneId)).2.1 else s₀ := by
  unfold load at h
  dsimp only at h
  split at h
  · next s₀ hstate =>
    refine ⟨s₀, hstate, ?_⟩
    rcases hcarry : shared.carryOut s₀ (e.enter s₀.currentSceneId) with ⟨f | view, s', shared''⟩
    · rw [hcarry] at h
      cases h
    · rw [hcarry] at h
      cases h
      cases hs
      rfl
  · next hagain =>
    cases h
    exact ⟨s, hs, (if_neg fun hwanted => hagain s hs hwanted).symm⟩

/-- **What small saves keep, and what they lose.**  A save that is not whole can be loaded only if
it names a scene of the story, and what is loaded, before the scene is entered again if that is
wanted, is at that scene.  It has all that the save carries in the fields that the shape of small
saves has, and in the other four fields, and wherever the save carries nothing, it is as in a new
game at the scene.  So it has all that the save carries just if what the save carries in those four
fields is as in a new game. -/
theorem small_saves_fill_in {source : Source} {j : Json} (hj : readSave source = .ok j)
    (hsmall : isFullSave j = false) {again : Bool} {shared shared' : Shared} {loaded : Loaded}
    (h : e.load (.source source) again shared = (.ok loaded, shared')) {s : GameState}
    (hs : loaded.state = some s) :
    ∃ sceneId s₀, namedScene? j = some sceneId ∧ (e.scene? sceneId).isSome ∧
      s₀.FilledIn e j sceneId ∧
      ((∀ (f : StateField) (d : Json), f.Carried j d → f.Agree s₀ (f.having d)) ↔
        ∀ (f : StateField) (d : Json), ¬ f.IsKept → f.Carried j d →
          f.Agree (e.freshAt sceneId) (f.having d)) ∧
      s = if again then (shared.carryOut s₀ (e.enter sceneId)).2.1 else s₀ := by
  obtain ⟨s₀, hrestored, hs⟩ := state_of_load h hs
  have hplaced := ((e.coherent_restore (.source source)).admitted s₀ hrestored).1.placed
  obtain ⟨s₁, hread, rfl⟩ := readSaved_of_restore hrestored
  obtain ⟨j', hj', hstate⟩ := readSave_of_readSaved hread
  cases hj.symm.trans hj'
  rw [hsmall, if_neg Bool.false_ne_true] at hstate
  obtain ⟨sceneId, hnamed, hfilled⟩ := filledIn_of_readSmallSave hstate
  rw [hfilled.scene] at hplaced hs
  exact ⟨sceneId, e.withDefaults s₁, hnamed, hplaced, hfilled, hfilled.keeps_all_iff, hs⟩

/-- A note that names the road and a flag, where it is not said who walks there. -/
theorem small_saves_fill_in_lanternRoad :
    let e := LanternRoad.engine
    let note : Json := .obj [LanternRoad.field "currentScene" "scene.road",
      ("flags", .obj [("lanternLit", .bool true)])]
    isFullSave note = false ∧ ∃ loaded shared s,
      e.load (.source (.document note)) true LanternRoad.alone = (.ok loaded, shared) ∧
      loaded.state = some s ∧
      ∃ sceneId s₀, namedScene? note = some sceneId ∧ (e.scene? sceneId).isSome ∧
        s₀.FilledIn e note sceneId ∧
        ((∀ (f : StateField) (d : Json), f.Carried note d → f.Agree s₀ (f.having d)) ↔
          ∀ (f : StateField) (d : Json), ¬ f.IsKept → f.Carried note d →
            f.Agree (e.freshAt sceneId) (f.having d)) ∧
        s = if true then (LanternRoad.alone.carryOut s₀ (e.enter sceneId)).2.1 else s₀ := by
  intro e note
  have hsmall : isFullSave note = false := by decide +kernel
  have hload : ((e.load (.source (.document note)) true LanternRoad.alone).1.toOption.bind
      Loaded.state).isSome = true := by decide +kernel
  rcases h : e.load (.source (.document note)) true LanternRoad.alone with ⟨f | loaded, shared⟩
  · rw [h] at hload
    cases hload
  · rw [h] at hload
    obtain ⟨s, hs⟩ := Option.isSome_iff_exists.1 hload
    exact ⟨hsmall, loaded, shared, s, rfl, hs, small_saves_fill_in rfl hsmall h hs⟩

end Engine

/-! ### An inn where a save loses four sections -/

namespace Inn

open LanternRoad StateField

/-- The story of the inn as a document. -/
def document : Json :=
  entry "story.inn" "Inn" [field "version" "1.0.0", field "schemaVersion" "1.0",
    ("ruleModules", .arr []),
    ("world", .obj [("locations", .arr []), ("companions", .arr [entry "comp.ash" "Ash" []])]),
    ("story", .obj [field "startScene" "scene.inn",
      ("scenes", .arr [.obj [field "id" "scene.inn",
        ("narrative", .obj [field "text" "An inn."])]])])]

theorem loads : (StoryBundle.load (.document document)).toOption.isSome = true := by
  decide +kernel

def setup : Setup :=
  { Setup.bare ((StoryBundle.load (.document document)).toOption.get loads) with
    features := ⟨true, true, true, true⟩ }

theorem built : (Engine.build setup).engine.isSome = true := by decide +kernel

/-- The engine of the inn. -/
def engine : Engine := (Engine.build setup).engine.get built

/-- A small save of an evening at the inn. -/
def note : Json :=
  .obj [field "currentSceneId" "scene.inn", ("flags", .obj [("paid", .bool true)]),
    ("loreKnowledge", .obj [field "other:rumour" "known"]),
    ("companions", .arr [entry "comp.ash" "Ash" [("flags", .obj [("rested", .bool true)])]]),
    ("relationships", .obj [("npc.host", .obj [("value", .int 3)])]),
    ("session", .obj [field "id" "table", ("players", .arr [.obj [field "id" "ann"]]),
      ("currentTurn", .int 2), ("pendingActions", .arr [])])]

theorem restores : (engine.restore (.source (.document note))).state.isSome = true := by
  decide +kernel

/-- What is loaded of the note. -/
def resumed : GameState := (engine.restore (.source (.document note))).state.get restores

/-- **A small save that loses four sections**, although it can be loaded: what it says of the lore,
of Ash, of the host and of the table. -/
theorem sections_are_lost :
    (Engine.build setup).engine = some engine ∧ isFullSave note = false ∧
      engine.load (.source (.document note)) false alone =
        (.ok (engine.restore (.source (.document note))), alone) ∧
      (engine.restore (.source (.document note))).state = some resumed ∧
      ∀ f : StateField, ¬ f.IsKept → f.Carried note (saveField note f.name) ∧
        ¬ f.Agree resumed (f.having (saveField note f.name)) := by
  have hstate : (engine.restore (.source (.document note))).state = some resumed :=
    (Option.some_get restores).symm
  have hcarried (f : StateField) (hf : ¬ f.IsKept) : f.Carried note (saveField note f.name) := by
    rcases not_isKept_iff.1 hf with rfl | rfl | rfl | rfl
    all_goals
      refine ⟨fun hnull => ?_, _, rfl, rfl⟩
      cases hnull
  refine ⟨(Option.some_get built).symm, by decide +kernel, ?_, hstate, fun f hf =>
    ⟨hcarried f hf, fun h => ?_⟩⟩
  · simp only [Engine.load, hstate]
  · -- it is enough to compare how many there are, or what Ash has been through
    rcases not_isKept_iff.1 hf with rfl | rfl | rfl | rfl
    · have hlost : resumed.loreKnowledge.map (·.length) ≠
          (having loreKnowledge (saveField note "loreKnowledge")).loreKnowledge.map (·.length) := by
        decide +kernel
      exact hlost (congrArg _ h)
    · have hlost : resumed.companions.map (·.map (·.flags)) ≠
          (having companions (saveField note "companions")).companions.map (·.map (·.flags)) := by
        decide +kernel
      exact hlost (congrArg _ h)
    · have hlost : resumed.relationships.map (·.length) ≠
          (having relationships (saveField note "relationships")).relationships.map
            (·.length) := by
        decide +kernel
      exact hlost (congrArg _ h)
    · have hlost : resumed.session ≠ (having session (saveField note "session")).session := by
        decide +kernel
      exact hlost h

end Inn

end Storyworld
