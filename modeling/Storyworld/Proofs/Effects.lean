/-
**What effects leave alone, and how they fail.**

An effect changes the character, flags, variables and the sections of a state.  It never moves the
player to another scene, never writes to the log by itself, never changes what a state says of its
story and never puts a section out of use.  The one fault in which an effect can end is that a
number is too large.

Main definitions:

* `Storyworld.GameState.SameCourse` — two states agree in all that effects leave alone;
* `Storyworld.Effect.itemId?`, `Storyworld.Effect.companionId?` — what an effect is about.

Main results:

* `Storyworld.Effect.outcome_sameCourse` — **what no effect changes**;
* `Storyworld.Effect.outcome_spares` — **what no effect changes that is about something else**;
* `Storyworld.Effect.outcome_error` — the fault of an effect.
-/

import Storyworld.Play.Effect
import Storyworld.Proofs.Turn

set_option relaxedAutoImplicit false
set_option autoImplicit false

namespace Storyworld

variable {e : Engine}

/-! ### What effects leave alone -/

/-- Two states agree in all that effects leave alone: in what they say of their story, in the scene
where the player is, in what is known of the lore, in the session and in the log.  Sections that
were in use stay in use. -/
structure GameState.SameCourse (s s' : GameState) : Prop where
  version : s'.version = s.version
  schemaVersion : s'.schemaVersion = s.schemaVersion
  storyBundleId : s'.storyBundleId = s.storyBundleId
  loreBundleIds : s'.loreBundleIds = s.loreBundleIds
  currentSceneId : s'.currentSceneId = s.currentSceneId
  loreKnowledge : s'.loreKnowledge = s.loreKnowledge
  session : s'.session = s.session
  history : s'.history = s.history
  companions : s.companions.isSome → s'.companions.isSome
  relationships : s.relationships.isSome → s'.relationships.isSome

namespace GameState

theorem SameCourse.refl (s : GameState) : s.SameCourse s :=
  ⟨rfl, rfl, rfl, rfl, rfl, rfl, rfl, rfl, id, id⟩

/-- Moving to a location changes nothing but the location. -/
theorem moveTo_eq (s : GameState) (location : Option String) : s.moveTo location =
    { s with currentLocationId := (location.filter (· != "")).or s.currentLocationId } := by
  unfold moveTo
  cases location.filter (· != "") <;> rfl

theorem sameCourse_moveTo (s : GameState) (location : Option String) :
    s.SameCourse (s.moveTo location) := by
  rw [moveTo_eq]
  exact ⟨rfl, rfl, rfl, rfl, rfl, rfl, rfl, rfl, id, id⟩

theorem sameCourse_setParty (s : GameState) (party : Party) : s.SameCourse (s.setParty party) :=
  ⟨rfl, rfl, rfl, rfl, rfl, rfl, rfl, rfl, fun _ => rfl, id⟩

theorem sameCourse_setRelationship (s : GameState) (target : String) (r : Relationship) :
    s.SameCourse (s.setRelationship target r) :=
  ⟨rfl, rfl, rfl, rfl, rfl, rfl, rfl, rfl, id, fun _ => rfl⟩

end GameState

theorem Engine.sameCourse_join (e : Engine) (id : String) (s : GameState) :
    s.SameCourse (e.join id s).1 := by
  unfold Engine.join
  split
  · exact .refl s
  · exact s.sameCourse_setParty _

theorem changeCompanion_ok {kind id : String} {s s' : GameState} {w : Option Issue}
    {g : Companionship → Except Fault Companionship}
    (h : changeCompanion kind id s g = .ok (s', w)) :
    (s.party.find? id = none ∧ s' = s) ∨ ∃ c c', s.party.find? id = some c ∧ g c = .ok c' ∧
      s' = s.setParty (s.party.update id fun _ => c') := by
  unfold changeCompanion at h
  split at h
  · next hc =>
    cases h
    exact .inl ⟨hc, rfl⟩
  · next c hc =>
    obtain ⟨c', hg, hs⟩ := map_eq_ok h
    cases hs
    exact .inr ⟨c, c', hc, hg, rfl⟩

/-- **What no effect changes.** -/
theorem Effect.outcome_sameCourse {s s' : GameState} {effect : Effect} {w : Option Issue}
    (h : effect.outcome e s = .ok (s', w)) : s.SameCourse s' := by
  -- both effects on a companion change the party and nothing else
  have companion {kind companionId : String} {g : Companionship → Except Fault Companionship}
      (hc : changeCompanion kind companionId s g = .ok (s', w)) : s.SameCourse s' := by
    rcases changeCompanion_ok hc with ⟨-, rfl⟩ | ⟨c, c', -, -, rfl⟩
    · exact .refl s'
    · exact s.sameCourse_setParty _
  cases effect with
  | modifyStat key change =>
      obtain ⟨n, -, hs⟩ := map_eq_ok h
      cases hs
      exact ⟨rfl, rfl, rfl, rfl, rfl, rfl, rfl, rfl, id, id⟩
  | modifyVar key delta =>
      simp only [outcome] at h
      split at h
      · cases h
        exact ⟨rfl, rfl, rfl, rfl, rfl, rfl, rfl, rfl, id, id⟩
      · cases h
  | teleport scene location =>
      cases h
      exact s.sameCourse_moveTo location
  | setRelationship target value stage flags =>
      cases h
      exact s.sameCourse_setRelationship target _
  | modifyRelationship target change =>
      obtain ⟨r, -, hs⟩ := map_eq_ok h
      cases hs
      exact s.sameCourse_setRelationship target r
  | addCompanion companionId =>
      have hjoin := e.sameCourse_join companionId s
      rw [Except.ok.inj h] at hjoin
      exact hjoin
  | removeCompanion companionId =>
      cases h
      exact ⟨rfl, rfl, rfl, rfl, rfl, rfl, rfl, rfl, fun h => by simpa using h, id⟩
  | setCompanionFlag companionId key value => exact companion h
  | modifyCompanionRelationship companionId change => exact companion h
  | _ =>
      cases h
      exact ⟨rfl, rfl, rfl, rfl, rfl, rfl, rfl, rfl, id, id⟩

/-! ### What effects are about -/

namespace Effect

/-- The item that an effect is about. -/
def itemId? : Effect → Option String
  | addItem item _ => some item.id
  | removeItem id _ => some id
  | _ => none

/-- The companion that an effect is about. -/
def companionId? : Effect → Option String
  | addCompanion id => some id
  | removeCompanion id => some id
  | setCompanionFlag id _ _ => some id
  | modifyCompanionRelationship id _ => some id
  | _ => none

/-- An effect leaves the location, the inventory and the party alone if it is not about them. -/
structure Spares (effect : Effect) (s s' : GameState) : Prop where
  location : effect.target? = none → s'.currentLocationId = s.currentLocationId
  inventory : effect.itemId? = none → s'.character.inventory = s.character.inventory
  companions : effect.companionId? = none → s'.companions = s.companions

/-- **What no effect changes that is about something else.** -/
theorem outcome_spares {s s' : GameState} {effect : Effect} {w : Option Issue}
    (h : effect.outcome e s = .ok (s', w)) : effect.Spares s s' := by
  have companion {kind id : String} {g : Companionship → Except Fault Companionship}
      (hc : changeCompanion kind id s g = .ok (s', w)) : s'.currentLocationId = s.currentLocationId ∧
        s'.character.inventory = s.character.inventory := by
    rcases changeCompanion_ok hc with ⟨-, rfl⟩ | ⟨c, c', -, -, rfl⟩ <;> exact ⟨rfl, rfl⟩
  cases effect with
  | addItem | removeItem =>
      cases h
      exact ⟨fun _ => rfl, fun hi => (nomatch hi), fun _ => rfl⟩
  | modifyStat key change =>
      obtain ⟨n, -, hs⟩ := map_eq_ok h
      cases hs
      exact ⟨fun _ => rfl, fun _ => rfl, fun _ => rfl⟩
  | modifyVar key delta =>
      simp only [outcome] at h
      split at h
      · cases h
        exact ⟨fun _ => rfl, fun _ => rfl, fun _ => rfl⟩
      · cases h
  | teleport scene location =>
      cases h
      rw [GameState.moveTo_eq]
      exact ⟨fun ht => (nomatch ht), fun _ => rfl, fun _ => rfl⟩
  | modifyRelationship target change =>
      obtain ⟨r, -, hs⟩ := map_eq_ok h
      cases hs
      exact ⟨fun _ => rfl, fun _ => rfl, fun _ => rfl⟩
  | addCompanion id =>
      simp only [outcome, Engine.join] at h
      split at h <;> cases h <;> exact ⟨fun _ => rfl, fun _ => rfl, fun hc => nomatch hc⟩
  | removeCompanion id =>
      cases h
      exact ⟨fun _ => rfl, fun _ => rfl, fun hc => nomatch hc⟩
  | setCompanionFlag id key value =>
      obtain ⟨hlocation, hinventory⟩ := companion h
      exact ⟨fun _ => hlocation, fun _ => hinventory, fun hc => nomatch hc⟩
  | modifyCompanionRelationship id change =>
      obtain ⟨hlocation, hinventory⟩ := companion h
      exact ⟨fun _ => hlocation, fun _ => hinventory, fun hc => nomatch hc⟩
  | _ =>
      cases h
      exact ⟨fun _ => rfl, fun _ => rfl, fun _ => rfl⟩

end Effect

/-! ### How effects fail -/

theorem Change.apply_error {c : Change} {n : Number} {f : Fault} (h : c.apply n = .error f) :
    f = .tooLarge := by
  unfold Change.apply at h
  split at h
  · cases h
  · cases h; rfl

theorem Relationship.changed_error {r : Relationship} {c : Change} {f : Fault}
    (h : r.changed c = .error f) : f = .tooLarge :=
  Change.apply_error (map_eq_error h)

theorem changeCompanion_error {kind id : String} {s : GameState}
    {g : Companionship → Except Fault Companionship} {f : Fault}
    (hg : ∀ c f, g c = .error f → f = .tooLarge) (h : changeCompanion kind id s g = .error f) :
    f = .tooLarge := by
  unfold changeCompanion at h
  split at h
  · cases h
  · exact hg _ f (map_eq_error h)

/-- **The only fault of an effect is that a number is too large.** -/
theorem Effect.outcome_error {s : GameState} {effect : Effect} {f : Fault}
    (h : effect.outcome e s = .error f) : f = .tooLarge := by
  cases effect with
  | modifyStat key change => exact Change.apply_error (map_eq_error h)
  | modifyVar key delta =>
      simp only [outcome] at h
      split at h
      · cases h
      · cases h; rfl
  | modifyRelationship target change => exact Relationship.changed_error (map_eq_error h)
  | setCompanionFlag id key value => exact changeCompanion_error (fun c f hg => by cases hg) h
  | modifyCompanionRelationship id change =>
      exact changeCompanion_error (fun c f hg => Relationship.changed_error (map_eq_error hg)) h
  | _ => cases h

end Storyworld
