/-
**States and their documents.**

The document of a state is in the shape of states, and so are those of its parts in theirs.  Nothing
is lost on the way: what is taken from the document of a value is the value.  A section that is not
in use has no field, and a section that is in use but empty has one.

Main results:

* `Storyworld.Json.field?_record_self`, `Storyworld.Json.field?_record_of_ne` — the fields of a
  record, one at a time;
* `Storyworld.Json.tableOf?_of_field` — a field that holds a table;
* `Storyworld.Character.ofDocument_toDocument`, `Storyworld.SessionState.ofDocument_toDocument`,
  `Storyworld.Event.ofDocument_toDocument` — the parts of a state;
* `Storyworld.GameState.ofDocument_toDocument` — **a state is what its document describes**;
* `Storyworld.GameState.fits_toDocument` — **the document of a state is in its shape**;
* `Storyworld.GameState.readState_toDocument` — both together.
-/

import Storyworld.Game.Document
import Storyworld.Proofs.Shapes

set_option relaxedAutoImplicit false
set_option autoImplicit false

namespace Storyworld

/-! ### Fields one at a time -/

namespace Json

variable {α : Type} {fs : List (String × Option Json)} {k l : String}

/-- The first field of its name, if it is given. -/
@[simp] theorem field?_record_self (k : String) (o : Option Json) :
    (record ((k, o) :: fs)).field? k = o.or ((record fs).field? k) := by
  cases o with
  | none => rfl
  | some v =>
      show Table.get? ((k, v) :: givenOf fs) k = some v
      rw [Table.get?, if_pos rfl]

@[simp] theorem field?_record_of_ne (h : l ≠ k) (o : Option Json) :
    (record ((l, o) :: fs)).field? k = (record fs).field? k := by
  cases o with
  | none => rfl
  | some v =>
      show Table.get? ((l, v) :: givenOf fs) k = Table.get? (givenOf fs) k
      rw [Table.get?, if_neg h]

@[simp] theorem field?_record_nil (k : String) : (record []).field? k = none := rfl

/-! ### Fields of a kind -/

variable {j : Json}

theorem text?_of_field {o : Option String} (h : j.field? k = o.map str) : j.text? k = o := by
  rw [text?, h]
  cases o <;> rfl

theorem text_of_field {s : String} (h : j.field? k = some (str s)) : j.text k = s := by
  rw [text, text?, h]
  rfl

theorem integer?_of_field {o : Option Int} (h : j.field? k = o.map int) : j.integer? k = o := by
  rw [integer?, h]
  cases o <;> rfl

theorem integer_of_field {n : Int} (h : j.field? k = some (int n)) : j.integer k = n := by
  rw [integer, integer?, h]
  rfl

theorem number?_ofNumber (n : Number) : (ofNumber n).number? = some n := by
  cases n <;> rfl

theorem quantity_of_field {n : Number} (h : j.field? k = some (ofNumber n)) :
    j.quantity k = n := by
  rw [quantity, quantity?, h, Option.bind_some, number?_ofNumber]
  rfl

theorem anything_of_field {v : Json} (h : j.field? k = some v) : j.anything k = v := by
  rw [anything, h]
  rfl

theorem items?_of_field {o : Option (List Json)} (h : j.field? k = o.map arr) :
    j.items? k = o := by
  rw [items?, h]
  cases o <;> rfl

theorem items_of_field {vs : List Json} (h : j.field? k = some (arr vs)) : j.items k = vs := by
  rw [items, items?, h]
  rfl

theorem fields?_of_field {o : Option (Table Json)} (h : j.field? k = o.map obj) :
    j.fields? k = o := by
  rw [fields?, h]
  cases o <;> rfl

theorem texts?_of_field {o : Option (List String)} (h : j.field? k = o.map ofTexts) :
    j.texts? k = o := by
  have hitems : j.items? k = o.map (·.map str) := items?_of_field (by rw [h, Option.map_map]; rfl)
  rw [texts?, hitems, Option.map_map]
  cases o with
  | none => rfl
  | some ts =>
      show some ((ts.map str).filterMap str?) = some ts
      rw [List.filterMap_map]
      exact congrArg some List.filterMap_some

/-- **A table is read as the table**, if its values are read as the values. -/
theorem tableOf?_of_field {toJson : α → Json} {value? : Json → Option α}
    (hvalue : ∀ a, value? (toJson a) = some a) {o : Option (Table α)}
    (h : j.field? k = o.map (ofTable toJson)) : j.tableOf? value? k = o := by
  have hfields : j.fields? k = o.map (·.map fun x => (x.1, toJson x.2)) :=
    fields?_of_field (by rw [h, Option.map_map]; rfl)
  rw [tableOf?, hfields, Option.map_map]
  cases o with
  | none => rfl
  | some t =>
      have hsome : (fun x : String × α => (value? (toJson x.2)).map (x.1, ·)) = some := by
        funext x
        rw [hvalue]
        rfl
      show some ((t.map fun x => (x.1, toJson x.2)).filterMap _) = some t
      rw [List.filterMap_map]
      exact congrArg some ((congrArg (List.filterMap · t) hsome).trans List.filterMap_some)

theorem tableOf_of_field {toJson : α → Json} {value? : Json → Option α}
    (hvalue : ∀ a, value? (toJson a) = some a) {t : Table α}
    (h : j.field? k = some (ofTable toJson t)) : j.tableOf value? k = t := by
  have ht : j.tableOf? value? k = some t := tableOf?_of_field hvalue h
  rw [tableOf, ht]
  rfl

theorem flags?_of_field {o : Option (Table Bool)} (h : j.field? k = o.map (ofTable bool)) :
    j.tableOf? bool? k = o := by
  have hvalue (b : Bool) : (bool b).bool? = some b := rfl
  exact tableOf?_of_field hvalue h

end Json

/-- Reading undoes writing, item by item. -/
theorem map_map_of_left_inv {α : Type} {toJson : α → Json} {ofJson : Json → α}
    (h : ∀ a, ofJson (toJson a) = a) (xs : List α) : (xs.map toJson).map ofJson = xs := by
  rw [List.map_map, show ofJson ∘ toJson = id from funext h, List.map_id]

open Schema Story Game

/-! ### Fields that fit -/

theorem fits_textList (ts : List String) : Fits textList (.ofTexts ts) := fits_map fits_text ts

theorem fits_flagTable (t : Table Bool) : Fits flagTable (.ofTable .bool t) :=
  fits_ofTable fits_boolean t

theorem fits_anyTable (t : Table Json) : Fits anyTable (.obj t) :=
  fits_table fun f _ => fits_anything f.2

namespace Schema.Filled

variable {name : String} {need : Need} {rest : Fields} {fs : List (String × Option Json)}

theorem text (s : String) (h : Filled rest fs) :
    Filled (.field name need .text rest) ((name, some (.str s)) :: fs) :=
  .given (fits_text s) nofun h

/-- A text that may be left out. -/
theorem mayText (o : Option String) (h : Filled rest fs) :
    Filled (.field name .optional .text rest) ((name, o.map .str) :: fs) :=
  .may o (fun s => ⟨fits_text s, nofun⟩) h

theorem mayTexts (o : Option (List String)) (h : Filled rest fs) :
    Filled (.field name .optional textList rest) ((name, o.map .ofTexts) :: fs) :=
  .may o (fun ts => ⟨fits_textList ts, nofun⟩) h

theorem mayFlags (o : Option (Table Bool)) (h : Filled rest fs) :
    Filled (.field name .optional flagTable rest) ((name, o.map (.ofTable .bool)) :: fs) :=
  .may o (fun t => ⟨fits_flagTable t, nofun⟩) h

theorem mayTable (o : Option (Table Json)) (h : Filled rest fs) :
    Filled (.field name .optional anyTable rest) ((name, o.map .obj) :: fs) :=
  .may o (fun t => ⟨fits_anyTable t, nofun⟩) h

end Schema.Filled

/-! ### Items and characters -/

theorem Item.ofDocument_toDocument (i : Item) : ofDocument i.toDocument = i := by
  obtain ⟨id, name, description, tags, loreItemId, properties⟩ := i
  simp only [ofDocument, mk.injEq]
  refine ⟨Json.text_of_field ?_, Json.text_of_field ?_, Json.text?_of_field ?_,
    Json.texts?_of_field ?_, Json.text?_of_field ?_, Json.fields?_of_field ?_⟩ <;>
  simp [toDocument]

theorem Item.fits_toDocument (i : Item) : Fits itemShape i.toDocument := by
  refine fits_record (by decide) ?_
  refine .text _ <| .text _ ?_
  refine .mayText _ ?_
  refine .mayTexts _ ?_
  refine .mayText _ ?_
  exact .mayTable _ .done

theorem InventoryEntry.fits_toDocument (e : InventoryEntry) :
    Fits inventoryEntryShape e.toDocument := by
  show Fits inventoryEntryShape (.record [("item", some e.item.toDocument),
    ("count", some (.int e.count))])
  refine fits_record (by decide) ?_
  exact .given e.item.fits_toDocument nofun <| .given (fits_integer e.count) nofun .done

theorem Character.ofDocument_toDocument (c : Character) : ofDocument c.toDocument = c := by
  obtain ⟨id, name, stats, inventory, raceId, factionIds, flags⟩ := c
  -- the entries of an inventory have no reader of their own
  have hentries : (inventory.map InventoryEntry.toDocument).map (fun e => InventoryEntry.mk
      (.ofDocument (e.anything "item")) (e.integer "count")) = inventory := by
    refine map_map_of_left_inv (fun e => ?_) inventory
    show InventoryEntry.mk (.ofDocument e.item.toDocument) e.count = e
    rw [Item.ofDocument_toDocument]
  have hitems : (toDocument ⟨id, name, stats, inventory, raceId, factionIds, flags⟩).items
      "inventory" = inventory.map InventoryEntry.toDocument :=
    Json.items_of_field (by simp [toDocument])
  simp only [ofDocument, hitems, hentries, mk.injEq, true_and]
  refine ⟨Json.text?_of_field ?_, Json.text_of_field ?_,
    Json.tableOf_of_field Json.number?_ofNumber ?_, Json.text?_of_field ?_,
    Json.texts?_of_field ?_, Json.flags?_of_field ?_⟩ <;>
  simp [toDocument]

theorem Character.fits_toDocument (c : Character) : Fits characterShape c.toDocument := by
  refine fits_record (by decide) ?_
  refine .mayText _ <| .text _ ?_
  refine .given (fits_ofTable fits_number _) nofun ?_
  refine .given (fits_map InventoryEntry.fits_toDocument _) nofun ?_
  refine .mayText _ ?_
  refine .mayTexts _ ?_
  exact .mayFlags _ .done

/-! ### Relationships and companions -/

theorem Relationship.ofDocument_toDocument (r : Relationship) : ofDocument r.toDocument = r := by
  obtain ⟨value, stage, flags⟩ := r
  simp only [ofDocument, mk.injEq]
  refine ⟨Json.quantity_of_field ?_, Json.text?_of_field ?_,
    Json.flags?_of_field ?_⟩ <;>
  simp [toDocument]

theorem Relationship.fits_toDocument (r : Relationship) :
    Fits relationshipShape r.toDocument := by
  refine fits_record (by decide) ?_
  refine .given (fits_number _) (by cases r.value <;> nofun) ?_
  refine .mayText _ ?_
  exact .mayFlags _ .done

theorem Companionship.ofDocument_toDocument (c : Companionship) :
    ofDocument c.toDocument = c := by
  obtain ⟨id, name, role, relationship, flags⟩ := c
  simp only [ofDocument, mk.injEq]
  refine ⟨Json.text_of_field ?_, Json.text_of_field ?_, Json.text?_of_field ?_, ?_,
    Json.flags?_of_field ?_⟩
  case refine_4 =>
    have hfield : (toDocument ⟨id, name, role, relationship, flags⟩).field? "relationship" =
        relationship.map Relationship.toDocument := by simp [toDocument]
    rw [Json.given?, hfield]
    cases relationship with
    | none => rfl
    | some r => exact congrArg some r.ofDocument_toDocument
  all_goals simp [toDocument]

theorem Companionship.fits_toDocument (c : Companionship) :
    Fits companionshipShape c.toDocument := by
  refine fits_record (by decide) ?_
  refine .text _ <| .text _ ?_
  refine .mayText _ ?_
  refine .may _ (fun r => ⟨r.fits_toDocument, nofun⟩) ?_
  exact .mayFlags _ .done

/-! ### Sessions -/

theorem Player.ofDocument_toDocument (p : Player) : ofDocument p.toDocument = p := by
  obtain ⟨id, name, role⟩ := p
  simp only [ofDocument, mk.injEq]
  refine ⟨Json.text_of_field ?_, Json.text?_of_field ?_, Json.text?_of_field ?_⟩ <;>
  simp [toDocument]

theorem Player.fits_toDocument (p : Player) : Fits playerShape p.toDocument := by
  refine fits_record (by decide) <| .text _ ?_
  refine .mayText _ ?_
  exact .mayText _ .done

theorem Vote.ofDocument_toDocument (v : Vote) : ofDocument v.toDocument = v := by
  obtain ⟨playerId, actionId, exitLabel, time, seq⟩ := v
  simp only [ofDocument, mk.injEq]
  refine ⟨Json.text_of_field ?_, Json.text?_of_field ?_, Json.text?_of_field ?_,
    Json.text_of_field ?_, Json.integer_of_field ?_⟩ <;>
  simp [toDocument]

theorem Vote.fits_toDocument (v : Vote) : Fits voteShape v.toDocument := by
  refine fits_record (by decide) <| .text _ ?_
  refine .mayText _ ?_
  refine .mayText _ ?_
  exact .text _ <| .given (fits_integer _) nofun .done

theorem SessionState.ofDocument_toDocument (s : SessionState) : ofDocument s.toDocument = s := by
  obtain ⟨id, players, currentTurn, pending⟩ := s
  have hplayers : (toDocument ⟨id, players, currentTurn, pending⟩).items "players" =
      players.map Player.toDocument := Json.items_of_field (by simp [toDocument])
  have hpending : (toDocument ⟨id, players, currentTurn, pending⟩).items? "pendingActions" =
      pending.map (·.map Vote.toDocument) :=
    Json.items?_of_field (by rw [Option.map_map]; simp [toDocument]; rfl)
  simp only [ofDocument, hplayers, hpending, map_map_of_left_inv Player.ofDocument_toDocument,
    Option.map_map, mk.injEq, true_and]
  refine ⟨Json.text_of_field ?_, Json.integer?_of_field ?_, ?_⟩
  case refine_3 =>
    cases pending with
    | none => rfl
    | some vs => exact congrArg some (map_map_of_left_inv Vote.ofDocument_toDocument vs)
  all_goals simp [toDocument]

theorem SessionState.fits_toDocument (s : SessionState) : Fits sessionShape s.toDocument := by
  refine fits_record (by decide) <| .text _ ?_
  refine .given (fits_map Player.fits_toDocument _) nofun ?_
  refine .may _ (fun _ => ⟨fits_integer _, nofun⟩) ?_
  exact .may _ (fun vs => ⟨fits_map Vote.fits_toDocument vs, nofun⟩) .done

/-! ### The log -/

theorem EventKind.ofName_name (k : EventKind) : ofName k.name = k := by
  cases k <;> decide

theorem Event.ofDocument_toDocument (e : Event) : ofDocument e.toDocument = e := by
  obtain ⟨time, seq, kind, sceneId, actionId, data⟩ := e
  have hkind : (toDocument ⟨time, seq, kind, sceneId, actionId, data⟩).text "type" = kind.name :=
    Json.text_of_field (by simp [toDocument])
  simp only [ofDocument, hkind, EventKind.ofName_name, mk.injEq, true_and]
  refine ⟨Json.text_of_field ?_, Json.integer_of_field ?_, Json.text?_of_field ?_,
    Json.text?_of_field ?_, Json.fields?_of_field ?_⟩ <;>
  simp [toDocument]

theorem Event.fits_toDocument (e : Event) : Fits eventShape e.toDocument := by
  have hkind : e.kind.name ∈ EventKind.all.map EventKind.name := by
    cases e.kind <;> decide
  refine fits_record (by decide) ?_
  refine .text _ <| .given (fits_integer _) nofun ?_
  refine .given (fits_word hkind) nofun ?_
  refine .mayText _ ?_
  refine .mayText _ ?_
  exact .mayTable _ .done

/-! ### States -/

namespace GameState

variable (s : GameState)

theorem character_toDocument : s.toDocument.anything "character" = s.character.toDocument :=
  Json.anything_of_field (by simp [toDocument, fields])

theorem companions_toDocument :
    (s.toDocument.items? "companions").map (·.map Companionship.ofDocument) = s.companions := by
  have hitems : s.toDocument.items? "companions" =
      s.companions.map (·.map Companionship.toDocument) :=
    Json.items?_of_field (by rw [Option.map_map]; simp [toDocument, fields]; rfl)
  rw [hitems, Option.map_map]
  cases s.companions with
  | none => rfl
  | some cs => exact congrArg some (map_map_of_left_inv Companionship.ofDocument_toDocument cs)

theorem relationships_toDocument :
    ((s.toDocument.fields? "relationships").map fun fields =>
      fields.map fun (k, v) => (k, Relationship.ofDocument v)) = s.relationships := by
  have hfields : s.toDocument.fields? "relationships" =
      s.relationships.map (·.map fun (k, r) => (k, r.toDocument)) :=
    Json.fields?_of_field (by rw [Option.map_map]; simp [toDocument, fields]; rfl)
  rw [hfields, Option.map_map]
  cases s.relationships with
  | none => rfl
  | some t =>
      have hback : (fun x : String × Relationship =>
          (x.1, Relationship.ofDocument x.2.toDocument)) = id := by
        funext x
        rw [Relationship.ofDocument_toDocument]
        rfl
      show some ((t.map fun (k, r) => (k, r.toDocument)).map _) = some t
      rw [List.map_map]
      exact congrArg some ((congrArg (List.map · t) hback).trans (List.map_id t))

theorem session_toDocument :
    (s.toDocument.given? "session").map SessionState.ofDocument = s.session := by
  have hfield : s.toDocument.field? "session" = s.session.map SessionState.toDocument := by
    simp [toDocument, fields]
  rw [Json.given?, hfield]
  cases s.session with
  | none => rfl
  | some t => exact congrArg some t.ofDocument_toDocument

theorem history_toDocument : (s.toDocument.items "history").map Event.ofDocument = s.history := by
  have hitems : s.toDocument.items "history" = s.history.map Event.toDocument :=
    Json.items_of_field (by simp [toDocument, fields])
  rw [hitems, map_map_of_left_inv Event.ofDocument_toDocument]

theorem vars_toDocument : (s.toDocument.fields? "vars").getD [] = s.vars := by
  have hfields : s.toDocument.fields? "vars" = some s.vars :=
    Json.fields?_of_field (by simp [toDocument, fields])
  rw [hfields]
  rfl

/-- **A state is what its document describes.** -/
theorem ofDocument_toDocument : ofDocument s.toDocument = s := by
  rw [ofDocument, character_toDocument, companions_toDocument, relationships_toDocument,
    session_toDocument, history_toDocument, vars_toDocument, Character.ofDocument_toDocument]
  obtain ⟨version, schemaVersion, storyBundleId, loreBundleIds, currentSceneId,
    currentLocationId, character, flags, vars, loreKnowledge, reputation, companions,
    relationships, session, history⟩ := s
  -- what is left are texts, and tables of single values
  simp only [mk.injEq, and_true, true_and]
  have hflag (b : Bool) : (Json.bool b).bool? = some b := rfl
  have htext (t : String) : (Json.str t).str? = some t := rfl
  refine ⟨Json.text_of_field ?_, Json.text?_of_field ?_, Json.text_of_field ?_,
    Json.texts?_of_field ?_, Json.text_of_field ?_, Json.text?_of_field ?_,
    Json.tableOf_of_field hflag ?_, Json.tableOf?_of_field htext ?_,
    Json.tableOf?_of_field Json.number?_ofNumber ?_⟩ <;>
  simp [toDocument, fields]

/-- **The document of a state is in the shape of states**, if the state has a version of its
shape. -/
theorem fits_toDocument {s : GameState} {v : String} (hv : s.schemaVersion = some v) :
    Fits stateShape s.toDocument := by
  refine fits_record (by decide) ?_
  rw [fields, hv]
  refine .text _ <| .text v ?_
  refine .text _ ?_
  refine .mayTexts _ <| .text _ ?_
  refine .mayText _ ?_
  refine .given s.character.fits_toDocument nofun ?_
  refine .given (fits_flagTable _) nofun <| .given (fits_anyTable _) nofun ?_
  refine .may _ (fun t => ⟨fits_ofTable fits_text t, nofun⟩) ?_
  refine .may _ (fun t => ⟨fits_ofTable fits_number t, nofun⟩) ?_
  refine .may _ (fun cs => ⟨fits_map Companionship.fits_toDocument cs, nofun⟩) ?_
  refine .may _ (fun t => ⟨fits_ofTable Relationship.fits_toDocument t, nofun⟩) ?_
  refine .may _ (fun t => ⟨t.fits_toDocument, nofun⟩) ?_
  exact .given (fits_map Event.fits_toDocument _) nofun .done

/-- **The document of a state is read as the state.** -/
theorem readState_toDocument {s : GameState} {v : String} (hv : s.schemaVersion = some v) :
    Game.readState s.toDocument = .ok s := by
  have hfit : fit stateShape s.toDocument = .ok s.toDocument := by
    rw [fit, show conform stateShape s.toDocument = .ok _ from fits_toDocument hv]
  rw [readState, hfit]
  exact congrArg Except.ok s.ofDocument_toDocument

end GameState

end Storyworld
