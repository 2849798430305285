/-
**Effects on different subjects commute.**

Every effect is about one thing: a flag, a stat, a variable, an item, a faction, a relationship, a
companion, or the place where the player is.  What the effect makes of its subject depends on
nothing but what the state holds of it, and on nothing else in the state does it leave a trace.

The proof that effects on different subjects commute looks at one effect at a time.  The second
effect finds its own subject as it was before the first one, so it makes the same of it in either
order; that there are fourteen kinds of effects matters only in what a single one does.

Main definitions:

* `Storyworld.Subject`, `Storyworld.Effect.subject` — **what an effect is about**;
* `Storyworld.GameState.holding` — what a state holds of a subject;
* `Storyworld.Effect.making` — what an effect makes of its subject.

Main results:

* `Storyworld.Effect.outcome_making` — **an effect depends only on its subject**;
* `Storyworld.Effect.outcome_elsewhere` — **an effect changes nothing but its subject**;
* `Storyworld.Engine.effects_commute` — **effects on different subjects commute**.
-/

import Storyworld.Proofs.Parties
import Storyworld.Proofs.Supplies

set_option relaxedAutoImplicit false
set_option autoImplicit false

namespace Storyworld

variable {e : Engine}

/-! ### Subjects -/

/-- What an effect can be about.  All teleports are about the place where the player is. -/
inductive Subject where
  | flag (key : String)
  | stat (key : String)
  | var (key : String)
  | item (id : String)
  | faction (id : String)
  | relationship (id : String)
  | companion (id : String)
  | place
deriving DecidableEq

/-- What a state can hold of a subject. -/
abbrev Subject.Value : Subject → Type
  | flag _ => Option Bool
  | stat _ => Option Number
  | var _ => Option Json
  | item _ => Option InventoryEntry
  | faction _ => Option Number
  | relationship _ => Option Relationship
  | companion _ => Option Companionship
  | place => Option String

/-- **What a state holds of a subject.** -/
def GameState.holding (s : GameState) : (t : Subject) → t.Value
  | .flag key => s.flags.get? key
  | .stat key => s.character.stats.get? key
  | .var key => s.vars.get? key
  | .item id => s.character.inventory.entry? id
  | .faction id => (s.reputation.getD []).get? id
  | .relationship id => (s.relationships.getD []).get? id
  | .companion id => s.party.find? id
  | .place => s.currentLocationId

namespace Effect

/-- **What an effect is about.** -/
def subject : Effect → Subject
  | setFlag key _ => .flag key
  | modifyStat key _ => .stat key
  | addItem item _ => .item item.id
  | removeItem id _ => .item id
  | setVar key _ => .var key
  | modifyVar key _ => .var key
  | teleport _ _ => .place
  | setReputation id _ => .faction id
  | setRelationship id _ _ _ => .relationship id
  | modifyRelationship id _ => .relationship id
  | addCompanion id => .companion id
  | removeCompanion id => .companion id
  | setCompanionFlag id _ _ => .companion id
  | modifyCompanionRelationship id _ => .companion id

/-- **What an effect makes of its subject**, from what is held of it alone. -/
def making (e : Engine) : (x : Effect) → x.subject.Value → Except Fault x.subject.Value
  | setFlag _ value, _ => .ok (some value)
  | modifyStat _ change, held => (change.apply (held.getD (.int 0))).map some
  | addItem item count, held =>
    match held with
    | some y => .ok (some ⟨y.item, y.count + count.getD 1⟩)
    | none => .ok (some ⟨item, count.getD 1⟩)
  | removeItem _ count, held =>
    .ok (held.bind fun y =>
      if y.count - count.getD 1 ≤ 0 then none else some ⟨y.item, y.count - count.getD 1⟩)
  | setVar _ value, _ => .ok (some value)
  | modifyVar _ delta, held =>
    match Coercion.combine? (held.getD .null) delta with
    | some v => .ok (some v)
    | none => .error .tooLarge
  | teleport _ location, held => .ok ((location.filter (· != "")).or held)
  | setReputation _ value, _ => .ok (some value)
  | setRelationship _ value stage flags, _ => .ok (some ⟨value, stage, nonEmpty? flags⟩)
  | modifyRelationship _ change, held => ((held.getD .neutral).changed change).map some
  | addCompanion id, held => .ok (some (held.getD (e.recruit id).1))
  | removeCompanion _, _ => .ok none
  | setCompanionFlag _ key value, held => .ok (held.map (·.flagged key value))
  | modifyCompanionRelationship _ change, held => held.mapM (·.befriended change)

end Effect

/-! ### Parties -/

namespace Party

variable {party : Party} {id : String}

theorem find?_concat (party : Party) (c : Companionship) (id : String) :
    find? (party ++ [c]) id = (party.find? id).or (if c.id = id then some c else none) := by
  rw [find?_eq_head?, find?_eq_head?, entries_append, List.head?_append]
  split
  · next h => rw [entries_self h, List.head?_singleton]
  · next h => rw [entries_of_ne h, List.head?_nil]

theorem find?_update {f : Companionship → Companionship} (hf : ∀ c, (f c).id = id) :
    find? (party.update id f) id = (party.find? id).map f := by
  rw [find?_eq_head?, find?_eq_head?, entries_update hf]
  cases party.entries id <;> rfl

theorem find?_update_of_ne {id' : String} (hne : id' ≠ id) {f : Companionship → Companionship}
    (hf : ∀ c, (f c).id = id') : find? (party.update id' f) id = party.find? id := by
  rw [find?_eq_head?, find?_eq_head?, entries_update_of_ne hne hf]

theorem find?_without (party : Party) (id' id : String) :
    find? (party.without id') id = if id' = id then none else party.find? id := by
  rw [find?_eq_head?, find?_eq_head?, entries_without]
  split <;> rfl

end Party

/-! ### States -/

namespace GameState

variable {s : GameState} {t : Subject}

theorem holding_record (s : GameState) (kind : EventKind) (sceneId actionId : Option String)
    (data : Option (Table Json)) (t : Subject) :
    (s.record kind sceneId actionId data).holding t = s.holding t := by
  cases t <;> rfl

theorem holding_setFlag {key : String} (value : Bool) (ht : t ≠ .flag key) :
    (s.setFlag key value).holding t = s.holding t := by
  cases t with
  | flag => exact Table.get?_put_of_ne _ _ fun h => ht (h ▸ rfl)
  | _ => rfl

theorem holding_setStat {key : String} (value : Number) (ht : t ≠ .stat key) :
    (s.setStat key value).holding t = s.holding t := by
  cases t with
  | stat => exact Table.get?_put_of_ne _ _ fun h => ht (h ▸ rfl)
  | _ => rfl

theorem holding_setVar {key : String} (value : Json) (ht : t ≠ .var key) :
    (s.setVar key value).holding t = s.holding t := by
  cases t with
  | var => exact Table.get?_put_of_ne _ _ fun h => ht (h ▸ rfl)
  | _ => rfl

theorem holding_setReputation {id : String} (value : Number) (ht : t ≠ .faction id) :
    (s.setReputation id value).holding t = s.holding t := by
  cases t with
  | faction => exact Table.get?_put_of_ne _ _ fun h => ht (h ▸ rfl)
  | _ => rfl

theorem holding_setRelationship {id : String} (r : Relationship) (ht : t ≠ .relationship id) :
    (s.setRelationship id r).holding t = s.holding t := by
  cases t with
  | relationship => exact Table.get?_put_of_ne _ _ fun h => ht (h ▸ rfl)
  | _ => rfl

theorem holding_setInventory {id : String} {inventory : Inventory}
    (hothers : ∀ id', id' ≠ id → inventory.entry? id' = s.character.inventory.entry? id')
    (ht : t ≠ .item id) : (s.setInventory inventory).holding t = s.holding t := by
  cases t with
  | item id' => exact hothers id' fun h => ht (h ▸ rfl)
  | _ => rfl

theorem holding_setCompanions {id : String} {companions : Option Party}
    (hothers : ∀ id', id' ≠ id → Party.find? (companions.getD []) id' = s.party.find? id')
    (ht : t ≠ .companion id) : ({ s with companions } : GameState).holding t = s.holding t := by
  cases t with
  | companion id' => exact hothers id' fun h => ht (h ▸ rfl)
  | _ => rfl

theorem holding_moveTo (location : Option String) (ht : t ≠ .place) :
    (s.moveTo location).holding t = s.holding t := by
  rw [moveTo_eq]
  cases t with
  | place => exact absurd rfl ht
  | _ => rfl

theorem party_without (s : GameState) (id : String) :
    (s.companions.map (·.without id)).getD [] = s.party.without id := by
  unfold party
  cases s.companions <;> rfl

end GameState

/-! ### One effect -/

/-- What a change makes of a companion, whom it does not give another id. -/
theorem changeCompanion_making {kind id : String} (s : GameState)
    {g : Companionship → Except Fault Companionship} (hg : ∀ c c', g c = .ok c' → c'.id = c.id) :
    (changeCompanion kind id s g).map (fun r => r.1.party.find? id) =
      (s.party.find? id).mapM g := by
  unfold changeCompanion
  cases hc : s.party.find? id with
  | none => exact congrArg Except.ok hc
  | some c =>
      rw [Option.mapM_some]
      dsimp only
      cases hchange : g c with
      | error f => rfl
      | ok c' =>
          have hid : c'.id = id := (hg c c' hchange).trans (Party.id_of_find? hc)
          refine congrArg Except.ok ?_
          show Party.find? (s.party.update id fun _ => c') id = some c'
          rw [Party.find?_update fun _ => hid, hc]
          rfl

/-- A change to a companion, whom it does not give another id, changes nothing else. -/
theorem changeCompanion_elsewhere {kind id : String} {s s' : GameState} {w : Option Issue}
    {g : Companionship → Except Fault Companionship} (hg : ∀ c c', g c = .ok c' → c'.id = c.id)
    (h : changeCompanion kind id s g = .ok (s', w)) {t : Subject} (ht : t ≠ .companion id) :
    s'.holding t = s.holding t := by
  rcases changeCompanion_ok h with ⟨-, rfl⟩ | ⟨c, c', hc, hchange, rfl⟩
  · rfl
  · have hid : c'.id = id := (hg c c' hchange).trans (Party.id_of_find? hc)
    exact GameState.holding_setCompanions
      (fun id' hne => Party.find?_update_of_ne (Ne.symm hne) fun _ => hid) ht

/-- Who joins is in the party, as before or as the world has it. -/
theorem Engine.find?_join (e : Engine) (id : String) (s : GameState) :
    (e.join id s).1.party.find? id = some ((s.party.find? id).getD (e.recruit id).1) := by
  unfold join
  cases hc : s.party.find? id with
  | some c => exact hc
  | none =>
      show Party.find? (s.party ++ [(e.recruit id).1]) id = _
      rw [Party.find?_concat, hc, if_pos (e.id_recruit id)]
      rfl

namespace Effect

variable {s s' : GameState} {x y : Effect} {w : Option Issue}

/-- **An effect depends only on its subject.**  What it makes of it, or the fault in which it ends,
is told by what the state holds of it. -/
theorem outcome_making (x : Effect) (s : GameState) :
    (x.outcome e s).map (fun r => r.1.holding x.subject) = x.making e (s.holding x.subject) := by
  cases x with
  | setFlag key value => exact congrArg Except.ok (Table.get?_put_self _ _ _)
  | modifyStat key change =>
      show ((change.apply _).map _).map _ = (change.apply (s.character.stat key)).map some
      cases change.apply (s.character.stat key) with
      | error f => rfl
      | ok n => exact congrArg Except.ok (Table.get?_put_self _ _ _)
  | addItem item count =>
      refine (congrArg Except.ok (Inventory.entry?_add _ _ _ _)).trans ?_
      rw [if_pos rfl]
      show _ = making e (addItem item count) (s.character.inventory.entry? item.id)
      cases s.character.inventory.entry? item.id <;> rfl
  | removeItem id count =>
      refine (congrArg Except.ok (Inventory.entry?_remove_eq _ _ _ _)).trans ?_
      rw [if_pos rfl]
      rfl
  | setVar key value => exact congrArg Except.ok (Table.get?_put_self _ _ _)
  | modifyVar key delta =>
      simp only [outcome, making]
      show _ = match Coercion.combine? ((s.vars.get? key).getD .null) delta with
        | some v => Except.ok (some v)
        | none => Except.error Fault.tooLarge
      cases Coercion.combine? ((s.vars.get? key).getD .null) delta with
      | none => rfl
      | some v => exact congrArg Except.ok (Table.get?_put_self _ _ _)
  | teleport scene location =>
      show Except.ok (s.moveTo location).currentLocationId = _
      rw [GameState.moveTo_eq]
      rfl
  | setReputation id value => exact congrArg Except.ok (Table.get?_put_self _ _ _)
  | setRelationship id value stage flags => exact congrArg Except.ok (Table.get?_put_self _ _ _)
  | modifyRelationship id change =>
      show (Except.map _ _).map _ =
        ((((s.relationships.getD []).get? id).getD .neutral).changed change).map some
      cases (((s.relationships.getD []).get? id).getD .neutral).changed change with
      | error f => rfl
      | ok r => exact congrArg Except.ok (Table.get?_put_self _ _ _)
  | addCompanion id => exact congrArg Except.ok (e.find?_join id s)
  | removeCompanion id =>
      refine congrArg Except.ok ?_
      show Party.find? ((s.companions.map (·.without id)).getD []) id = none
      rw [GameState.party_without, Party.find?_without, if_pos rfl]
  | setCompanionFlag id key value =>
      refine (changeCompanion_making s fun c c' hc => by cases hc; rfl).trans ?_
      show _ = Except.ok ((s.party.find? id).map (·.flagged key value))
      cases s.party.find? id <;> rfl
  | modifyCompanionRelationship id change =>
      exact changeCompanion_making s fun c c' => Companionship.id_befriended

/-- **An effect changes nothing but its subject.** -/
theorem outcome_elsewhere (h : x.outcome e s = .ok (s', w)) {t : Subject} (ht : t ≠ x.subject) :
    s'.holding t = s.holding t := by
  cases x with
  | setFlag key value =>
      cases h
      exact GameState.holding_setFlag value ht
  | modifyStat key change =>
      obtain ⟨n, -, hs⟩ := map_eq_ok h
      cases hs
      exact GameState.holding_setStat n ht
  | addItem item count =>
      cases h
      refine GameState.holding_setInventory (fun id hid => ?_) ht
      rw [Inventory.entry?_add, if_neg (Ne.symm hid)]
  | removeItem id count =>
      cases h
      refine GameState.holding_setInventory (fun id' hid => ?_) ht
      rw [Inventory.entry?_remove_eq, if_neg (Ne.symm hid)]
  | setVar key value =>
      cases h
      exact GameState.holding_setVar value ht
  | modifyVar key delta =>
      simp only [outcome] at h
      split at h
      · cases h
        exact GameState.holding_setVar _ ht
      · cases h
  | teleport scene location =>
      cases h
      exact GameState.holding_moveTo location ht
  | setReputation id value =>
      cases h
      exact GameState.holding_setReputation value ht
  | setRelationship id value stage flags =>
      cases h
      exact GameState.holding_setRelationship _ ht
  | modifyRelationship id change =>
      obtain ⟨r, -, hs⟩ := map_eq_ok h
      cases hs
      exact GameState.holding_setRelationship r ht
  | addCompanion id =>
      have hs : (e.join id s).1 = s' := congrArg Prod.fst (Except.ok.inj h)
      rw [← hs]
      unfold Engine.join
      split
      · rfl
      · refine GameState.holding_setCompanions (fun id' hid => ?_) ht
        show Party.find? (s.party ++ [(e.recruit id).1]) id' = _
        rw [Party.find?_concat, if_neg (by rw [e.id_recruit]; exact Ne.symm hid), Option.or_none]
  | removeCompanion id =>
      cases h
      refine GameState.holding_setCompanions (fun id' hid => ?_) ht
      rw [GameState.party_without, Party.find?_without, if_neg (Ne.symm hid)]
  | setCompanionFlag id key value =>
      exact changeCompanion_elsewhere (fun c c' hc => by cases hc; rfl) h ht
  | modifyCompanionRelationship id change =>
      exact changeCompanion_elsewhere (fun c c' => Companionship.id_befriended) h ht

theorem making_of_outcome (h : x.outcome e s = .ok (s', w)) :
    x.making e (s.holding x.subject) = .ok (s'.holding x.subject) := by
  rw [← outcome_making, h]
  rfl

theorem exists_outcome {v : x.subject.Value} (h : x.making e (s.holding x.subject) = .ok v) :
    ∃ s' w, x.outcome e s = .ok (s', w) ∧ s'.holding x.subject = v := by
  rw [← outcome_making] at h
  obtain ⟨⟨s', w⟩, hs, hv⟩ := map_eq_ok h
  exact ⟨s', w, hs, hv⟩

/-- A teleport is about the place where the player is. -/
theorem subject_of_target? {next : String} (h : x.target? = some next) : x.subject = .place := by
  cases x with
  | teleport scene location => rfl
  | _ => cases h

/-- The entry that an effect leaves in a log of some length. -/
def event (x : Effect) (n : Nat) : Event :=
  ⟨defaultTimestamp, n, .effect, none, none, some [("effect", .str x.kind)]⟩

end Effect

/-! ### Effects in a row -/

variable {p q : Play} {x y : Effect} {xs : List Effect}

theorem Play.holding_applied (p : Play) (x : Effect) (s : GameState) (w : Option Issue)
    (t : Subject) : (p.applied x s w).state.holding t = s.holding t := s.holding_record _ _ _ _ t

theorem Play.history_applied {s : GameState} {w : Option Issue}
    (h : x.outcome e p.state = .ok (s, w)) : (p.applied x s w).state.history =
      p.state.history ++ [x.event p.state.history.length] := by
  show s.history ++ [⟨_, s.history.length, _, _, _, _⟩] = _
  rw [(Effect.outcome_sameCourse h).history]
  rfl

/-- Of two effects on different subjects no more than one teleports. -/
theorem lastTarget?_swap (hxy : x.subject ≠ y.subject) :
    lastTarget? [x, y] = lastTarget? [y, x] := by
  unfold lastTarget?
  simp only [List.filterMap_cons, List.filterMap_nil]
  cases hx : x.target? with
  | none => cases y.target? <;> rfl
  | some next =>
      cases hy : y.target? with
      | none => rfl
      | some next' =>
          have hsame : x.subject = y.subject :=
            (Effect.subject_of_target? hx).trans (Effect.subject_of_target? hy).symm
          exact absurd hsame hxy

namespace Engine

/-- **Effects in a row change nothing but their subjects.** -/
theorem Applies.elsewhere (h : e.Applies xs p q) {t : Subject} (ht : ∀ x ∈ xs, t ≠ x.subject) :
    q.state.holding t = p.state.holding t := by
  induction h with
  | nil => rfl
  | cons hx _ ih =>
      obtain ⟨hfirst, hrest⟩ := List.forall_mem_cons.1 ht
      rw [ih hrest, Play.holding_applied, Effect.outcome_elsewhere hx hfirst]

/-- **Each of two effects leaves its entry in the log.** -/
theorem Applies.history_pair (h : e.Applies [x, y] p q) : q.state.history = p.state.history ++
    [x.event p.state.history.length, y.event (p.state.history.length + 1)] := by
  cases h with
  | cons hx h =>
      cases h with
      | cons hy h =>
          cases h
          rw [Play.history_applied hy, Play.history_applied hx, List.append_assoc,
            List.length_append]
          rfl

/-- **Two effects on different subjects, the other way round.** -/
theorem Applies.swap (h : e.Applies [x, y] p q) (hxy : x.subject ≠ y.subject) :
    ∃ q', e.Applies [y, x] p q' ∧ ∀ t, q'.state.holding t = q.state.holding t := by
  cases h with
  | @cons _ _ _ _ s₁ w₁ hx h =>
      cases h with
      | @cons _ _ _ _ s₂ w₂ hy h =>
          cases h
          -- each finds its subject as it was before, and makes the same of it
          have hmade := Effect.making_of_outcome hy
          rw [Play.holding_applied, Effect.outcome_elsewhere hx hxy.symm] at hmade
          obtain ⟨t₁, v₁, hy', hat⟩ := Effect.exists_outcome hmade
          have hmade := Effect.making_of_outcome hx
          rw [← Effect.outcome_elsewhere hy' hxy, ← p.holding_applied y t₁ v₁] at hmade
          obtain ⟨t₂, v₂, hx', hat'⟩ := Effect.exists_outcome hmade
          refine ⟨_, .cons hy' (.cons hx' .nil), fun t => ?_⟩
          rw [Play.holding_applied, Play.holding_applied]
          by_cases hty : t = y.subject
          · subst hty
            rw [Effect.outcome_elsewhere hx' hxy.symm, Play.holding_applied, hat]
          · rw [Effect.outcome_elsewhere hy hty, Play.holding_applied]
            by_cases htx : t = x.subject
            · rw [htx, hat']
            · rw [Effect.outcome_elsewhere hx' htx, Play.holding_applied,
                Effect.outcome_elsewhere hy' hty, Effect.outcome_elsewhere hx htx]

/-- **Effects on different subjects commute.**  When two effects that are about different things are
applied without a fault, they are applied without a fault the other way round as well.  The states
that come of it hold the same of every subject, and the teleport target is the same.  Of all other
subjects both states hold what was held before, and in either order the log gets one entry for each
of the two effects and no other. -/
theorem effects_commute {target : Option String} (hxy : x.subject ≠ y.subject)
    (h : (e.applyAll [x, y]).on p = (.ok target, q)) :
    ∃ q', (e.applyAll [y, x]).on p = (.ok target, q') ∧
      (∀ t, q'.state.holding t = q.state.holding t) ∧
      (∀ t, t ≠ x.subject → t ≠ y.subject →
        q.state.holding t = p.state.holding t ∧ q'.state.holding t = p.state.holding t) ∧
      q.state.history = p.state.history ++
        [x.event p.state.history.length, y.event (p.state.history.length + 1)] ∧
      q'.state.history = p.state.history ++
        [y.event p.state.history.length, x.event (p.state.history.length + 1)] := by
  obtain ⟨happlied, rfl⟩ := on_applyAll_iff.1 h
  obtain ⟨q', happlied', halike⟩ := happlied.swap hxy
  refine ⟨q', on_applyAll_iff.2 ⟨happlied', lastTarget?_swap hxy⟩, halike, fun t htx hty => ?_,
    happlied.history_pair, happlied'.history_pair⟩
  have hkept : q.state.holding t = p.state.holding t := by
    refine happlied.elsewhere fun z hz => ?_
    rcases List.mem_cons.1 hz with rfl | hz
    · exact htx
    · exact List.mem_singleton.1 hz ▸ hty
  exact ⟨hkept, (halike t).trans hkept⟩

/-- On the Lantern Road Mara joins a traveller who is sent to the road: before that or after. -/
theorem effects_commute_lanternRoad :
    let e := LanternRoad.engine
    let p := e.beginning LanternRoad.traveller LanternRoad.alone
    let x : Effect := .addCompanion "comp.mara"
    let y : Effect := .teleport "scene.road" (some "loc.hills")
    let q := ((e.applyAll [x, y]).on p).2
    x.subject ≠ y.subject ∧ (e.applyAll [x, y]).on p = (.ok (some "scene.road"), q) ∧
      q.state.party.map (·.name) = ["Mara"] ∧ q.state.currentLocationId = some "loc.hills" ∧
      ∃ q', (e.applyAll [y, x]).on p = (.ok (some "scene.road"), q') ∧
        (∀ t, q'.state.holding t = q.state.holding t) ∧
        (∀ t, t ≠ x.subject → t ≠ y.subject →
          q.state.holding t = p.state.holding t ∧ q'.state.holding t = p.state.holding t) ∧
        q.state.history = p.state.history ++
          [x.event p.state.history.length, y.event (p.state.history.length + 1)] ∧
        q'.state.history = p.state.history ++
          [y.event p.state.history.length, x.event (p.state.history.length + 1)] := by
  intro e p x y q
  have hxy : x.subject ≠ y.subject := by decide
  have hrun : (e.applyAll [x, y]).on p = (.ok (some "scene.road"), q) := rfl
  exact ⟨hxy, hrun, by decide +kernel, by decide +kernel, effects_commute hxy hrun⟩

end Engine

end Storyworld
