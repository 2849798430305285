/-
**Who is in the party, and how often.**

A party is a list, and a companion is looked up in it by its id.  Who is in the party does not join
again, so no effect puts a companion there twice.  But a new game begins with everyone whom the world
defines, if companions are enabled, and the check of a story does not ask whether two of them have
one id.  Where that happens, a change to a companion changes the first entry only, and the removal of
the companion removes them all.

As long as a companion has no more than one entry, the party is to the companion what a table is to a
name: every effect can be told by what it makes of the one entry or of none, and it leaves all others
alone.

Main definitions:

* `Storyworld.Party.entries`, `Storyworld.Party.HoldsOnce` — the entries of a companion, of which
  there is **at most one**;
* `Storyworld.Effect.onCompanion` — **what an effect makes of a companion**;
* `Storyworld.World.definitions` — the definitions of a companion;
* `Storyworld.Camp.engine` — a camp with two companions of one id.

Main results:

* `Storyworld.Party.entries_update`, `Storyworld.Party.entries_without` — the entries of a companion
  after a change to the party;
* `Storyworld.Effect.outcome_companion` — **an effect concerns the whole of a companion** that the
  party holds at most once;
* `Storyworld.Engine.party_holds_once_iff` — **when a party holds a companion at most once**;
* `Storyworld.Camp.holds_ash_twice` — a party that holds a companion twice.
-/

import Storyworld.Proofs.Reachable

set_option relaxedAutoImplicit false
set_option autoImplicit false

namespace Storyworld

variable {e : Engine} {id : String}

/-! ### Entries of a party -/

namespace Party

variable {party : Party} {c : Companionship}

/-- The entries of a companion. -/
def entries (party : Party) (id : String) : List Companionship := party.filter (·.id == id)

/-- **The party holds a companion at most once.** -/
def HoldsOnce (id : String) (party : Party) : Prop := (party.entries id).length ≤ 1

instance : Decidable (party.HoldsOnce id) := by
  unfold HoldsOnce
  infer_instance

theorem find?_eq_head? (party : Party) (id : String) : party.find? id = (party.entries id).head? :=
  List.head?_filter.symm

theorem id_of_find? (h : party.find? id = some c) : c.id = id := by
  simpa using List.find?_some h

/-- Of a companion whom the party holds at most once, the entry that is found is all there is. -/
theorem holdsOnce_iff : party.HoldsOnce id ↔ party.entries id = (party.find? id).toList := by
  rw [HoldsOnce, find?_eq_head?]
  rcases party.entries id with - | ⟨c, - | ⟨c', rest⟩⟩ <;> simp

theorem entries_append (party more : Party) (id : String) :
    entries (party ++ more) id = party.entries id ++ more.entries id := List.filter_append ..

theorem entries_self (h : c.id = id) : entries [c] id = [c] := by
  simp [entries, h]

theorem entries_of_ne (h : c.id ≠ id) : entries [c] id = [] := by
  simp [entries, h]

/-- A change to a companion leaves the others alone. -/
theorem entries_update_of_ne {id' : String} (hne : id' ≠ id) {f : Companionship → Companionship}
    (hf : ∀ c, (f c).id = id') : entries (party.update id' f) id = party.entries id := by
  induction party with
  | nil => rfl
  | cons c rest ih =>
      by_cases hc : c.id = id'
      · rw [update, if_pos hc, entries, entries, List.filter_cons_of_neg, List.filter_cons_of_neg]
        · simpa [hc] using hne
        · simpa [hf] using hne
      · rw [update, if_neg hc]
        unfold entries at ih ⊢
        rw [List.filter_cons, List.filter_cons, ih]

/-- **A change to a companion changes its first entry.** -/
theorem entries_update {f : Companionship → Companionship} (hf : ∀ c, (f c).id = id) :
    entries (party.update id f) id = match party.entries id with
      | [] => []
      | c :: rest => f c :: rest := by
  induction party with
  | nil => rfl
  | cons c rest ih =>
      unfold entries at ih ⊢
      by_cases hc : c.id = id
      · rw [update, if_pos hc, List.filter_cons_of_pos (by simpa using hf c),
          List.filter_cons_of_pos (by simpa using hc)]
      · rw [update, if_neg hc, List.filter_cons_of_neg (by simpa using hc),
          List.filter_cons_of_neg (by simpa using hc), ih]

/-- **The removal of a companion removes all its entries**, and leaves the others alone. -/
theorem entries_without (id' : String) :
    entries (party.without id') id = if id' = id then [] else party.entries id := by
  unfold entries without
  rw [List.filter_filter]
  split
  · next h =>
    subst h
    simp
  · next h =>
    refine List.filter_congr fun c _ => ?_
    by_cases hc : c.id = id
    · simp [hc, Ne.symm h]
    · simp [hc]

end Party

/-! ### Effects on a companion -/

/-- What a relationship becomes that may not have begun. -/
def Companionship.befriended (c : Companionship) (change : Change) : Except Fault Companionship :=
  ((c.relationship.getD .neutral).changed change).map fun r => { c with relationship := some r }

/-- A companion with a flag. -/
def Companionship.flagged (c : Companionship) (key : String) (value : Bool) : Companionship :=
  { c with flags := some ((c.flags.getD []).put key value) }

/-- **What an effect makes of a companion**, who may be in the party or not. -/
def Effect.onCompanion (e : Engine) (id : String) (held : Option Companionship) :
    Effect → Except Fault (Option Companionship)
  | addCompanion id' => .ok (if id' = id then some (held.getD (e.recruit id).1) else held)
  | removeCompanion id' => .ok (if id' = id then none else held)
  | setCompanionFlag id' key value =>
    .ok (if id' = id then held.map (·.flagged key value) else held)
  | modifyCompanionRelationship id' change =>
    if id' = id then held.mapM (·.befriended change) else .ok held
  | _ => .ok held

theorem Engine.id_recruit (e : Engine) (id : String) : (e.recruit id).1.id = id := by
  unfold recruit
  split
  · next c hc =>
    show c.id = id
    simpa using List.find?_some hc
  · rfl

theorem Companionship.id_befriended {c c' : Companionship} {change : Change}
    (h : c.befriended change = .ok c') : c'.id = c.id := by
  obtain ⟨r, -, rfl⟩ := map_eq_ok h
  rfl

namespace Effect

variable {s s' : GameState}

/-- Changes to a companion, told by what they make of the one entry or of none. -/
theorem entries_changeCompanion {kind id' : String} {w : Option Issue}
    {g : Companionship → Except Fault Companionship} (hg : ∀ c c', g c = .ok c' → c'.id = c.id)
    (hs : s.party.HoldsOnce id) (h : changeCompanion kind id' s g = .ok (s', w)) :
    ∃ held, (if id' = id then (s.party.find? id).mapM g else .ok (s.party.find? id)) = .ok held ∧
      s'.party.entries id = held.toList := by
  rw [Party.holdsOnce_iff] at hs
  rcases changeCompanion_ok h with ⟨hnone, rfl⟩ | ⟨c, c', hc, hchange, rfl⟩
  · refine ⟨s'.party.find? id, ?_, hs⟩
    split
    · next heq =>
      rw [← heq, hnone]
      rfl
    · rfl
  · have hid : c'.id = id' := (hg c c' hchange).trans (Party.id_of_find? hc)
    by_cases heq : id' = id
    · subst heq
      refine ⟨some c', ?_, ?_⟩
      · rw [if_pos rfl, hc, Option.mapM_some, hchange]
        rfl
      · show Party.entries (s.party.update id' fun _ => c') id' = [c']
        rw [Party.entries_update fun _ => hid, hs, hc]
        rfl
    · refine ⟨s.party.find? id, if_neg heq, ?_⟩
      show Party.entries (s.party.update id' fun _ => c') id = _
      rw [Party.entries_update_of_ne heq fun _ => hid, hs]

/-- Whoever joins is in the party once, as before or as the world has it. -/
theorem entries_join (e : Engine) (id' : String) (hs : s.party.HoldsOnce id) :
    (e.join id' s).1.party.entries id =
      (if id' = id then some ((s.party.find? id).getD (e.recruit id).1)
        else s.party.find? id).toList := by
  rw [Party.holdsOnce_iff] at hs
  unfold Engine.join
  by_cases heq : id' = id
  · subst heq
    cases hfound : s.party.find? id' with
    | some c => simp [hs, hfound]
    | none =>
        show Party.entries (s.party ++ [(e.recruit id').1]) id' = _
        rw [Party.entries_append, hs, hfound, Party.entries_self (e.id_recruit id')]
        simp
  · rw [if_neg heq, ← hs]
    split
    · rfl
    · show Party.entries (s.party ++ [(e.recruit id').1]) id = _
      rw [Party.entries_append, Party.entries_of_ne (by rwa [e.id_recruit]), List.append_nil]

/-- **An effect concerns the whole of a companion** whom the party holds at most once: it makes of
the entry, or of there being none, what the effect says, and the party still holds the companion at
most once. -/
theorem outcome_companion {effect : Effect} {w : Option Issue} (hs : s.party.HoldsOnce id)
    (h : effect.outcome e s = .ok (s', w)) :
    effect.onCompanion e id (s.party.find? id) = .ok (s'.party.find? id) ∧
      s'.party.HoldsOnce id := by
  suffices hentries : ∃ held, effect.onCompanion e id (s.party.find? id) = .ok held ∧
      s'.party.entries id = held.toList by
    obtain ⟨held, hheld, hafter⟩ := hentries
    have hfound : s'.party.find? id = held := by
      rw [Party.find?_eq_head?, hafter]
      cases held <;> rfl
    rw [Party.holdsOnce_iff, hfound]
    exact ⟨hheld, hafter⟩
  cases effect with
  | addCompanion id' =>
      have hjoin := entries_join e id' hs
      rw [Except.ok.inj h] at hjoin
      exact ⟨_, rfl, hjoin⟩
  | removeCompanion id' =>
      cases h
      refine ⟨_, rfl, ?_⟩
      have hparty : (s.companions.map (·.without id')).getD [] = s.party.without id' := by
        unfold GameState.party
        cases s.companions <;> rfl
      show Party.entries ((s.companions.map (·.without id')).getD []) id = _
      rw [hparty, Party.entries_without, Party.holdsOnce_iff.1 hs]
      split <;> rfl
  | setCompanionFlag id' key value =>
      obtain ⟨held, hheld, hafter⟩ := entries_changeCompanion
        (fun _ _ hc => by cases hc; rfl) hs h
      refine ⟨held, ?_, hafter⟩
      rw [← hheld, onCompanion]
      split
      · cases s.party.find? id <;> rfl
      · rfl
  | modifyCompanionRelationship id' change =>
      exact entries_changeCompanion (fun _ _ => Companionship.id_befriended) hs h
  | _ =>
      have hparty : s'.party = s.party := by
        rw [GameState.party, (outcome_spares h).companions rfl, GameState.party]
      exact ⟨s.party.find? id, rfl, by rw [hparty, Party.holdsOnce_iff.1 hs]⟩

end Effect

/-! ### Games -/

/-- The definitions of a companion in a world. -/
def World.definitions (w : World) (id : String) : List Companion := w.companions.filter (·.id == id)

/-- A party that holds a companion at most once does so from one play to another. -/
abbrev Play.KeepsOnce (id : String) (p q : Play) : Prop :=
  p.state.party.HoldsOnce id → q.state.party.HoldsOnce id

/-- **Nothing that is done to a game puts anyone into the party twice.** -/
theorem underSessions_keepsOnce (e : Engine) (id : String) :
    UnderSessions e (Play.KeepsOnce id) where
  refl _ := (·)
  trans _ _ _ h h' hp := h' (h hp)
  drawn _ _ := (·)
  warned _ _ := (·)
  noted _ _ := (·)
  changed _ _ _ _ ho hp := (Effect.outcome_companion hp ho).2
  applied _ _ := (·)
  moved p scene _ _ hp := by
    show Party.HoldsOnce id (p.state.moveTo scene.locationId).party
    rw [GameState.moveTo_eq]
    exact hp
  recorded _ _ _ _ _ := (·)
  seated _ _ := (·)

namespace Engine

/-- A new game begins with everyone whom the world defines, or with nobody. -/
theorem entries_fresh (e : Engine) (c : Character) (id : String) :
    (e.fresh c).party.entries id =
      if e.features.companions = true then
        (e.story.world.definitions id).map Companion.joined else [] := by
  unfold fresh withDefaults GameState.party section?
  dsimp only
  split
  · exact List.filter_map
  · rfl

theorem holdsOnce_fresh_iff (e : Engine) (c : Character) (id : String) :
    (e.fresh c).party.HoldsOnce id ↔
      (e.features.companions = true → (e.story.world.definitions id).length ≤ 1) := by
  rw [Party.HoldsOnce, entries_fresh]
  split
  · next henabled => simp [henabled]
  · next hdisabled => simp [hdisabled]

/-- **When a party holds a companion at most once.**  In all states that the games on an engine can
come to, the party holds a companion at most once, just if companions are not enabled or the world
defines the companion at most once.  Nothing that is done to a game puts anyone into the party twice
who was not there twice before.  And as long as the party holds a companion at most once, every
effect concerns the whole of that companion, and of no other: the entry is what the effect makes of
the entry before. -/
theorem party_holds_once_iff (e : Engine) (id : String) :
    ((∀ c p, e.Reachable c p → p.state.party.HoldsOnce id) ↔
      (e.features.companions = true → (e.story.world.definitions id).length ≤ 1)) ∧
    (∀ (os : List Operation) (p : Play), p.KeepsOnce id (Operation.afterAll e os p)) ∧
    ∀ (effect : Effect) (s s' : GameState) (w : Option Issue), s.party.HoldsOnce id →
      effect.outcome e s = .ok (s', w) →
        effect.onCompanion e id (s.party.find? id) = .ok (s'.party.find? id) ∧
          s'.party.HoldsOnce id := by
  refine ⟨⟨fun h => ?_, fun h c p hp => ?_⟩, fun os p => ?_,
    fun effect s s' w hs ho => Effect.outcome_companion hs ho⟩
  · have hbeginning := h LanternRoad.traveller _ (.beginning LanternRoad.alone)
    exact (e.holdsOnce_fresh_iff _ id).1 hbeginning
  · induction hp with
    | beginning shared => exact (e.holdsOnce_fresh_iff c id).2 h
    | after _ o ih => exact Operation.keeps_after (underSessions_keepsOnce e id) o _ ih
    | meanwhile _ shared ih => exact ih
  · exact (underSessions_keepsOnce e id).whileSharing.keeps_afterAll (fun _ _ _ _ => trivial) p

end Engine

/-! ### A camp with two of one id -/

namespace Camp

open LanternRoad

/-- The story of the camp as a document.  Its world defines two companions under one id. -/
def document : Json :=
  entry "story.camp" "Camp" [field "version" "1.0.0", ("ruleModules", .arr []),
    ("world", .obj [("locations", .arr []),
      ("companions", .arr [entry "comp.ash" "Ash" [], entry "comp.ash" "Ash the Younger" []])]),
    ("story", .obj [field "startScene" "scene.camp",
      ("scenes", .arr [.obj [field "id" "scene.camp",
        ("narrative", .obj [field "text" "A camp."])]])])]

theorem loads : (StoryBundle.load (.document document)).toOption.isSome = true := by
  decide +kernel

def setup : Setup :=
  { Setup.bare ((StoryBundle.load (.document document)).toOption.get loads) with
    features := ⟨false, true, false, false⟩ }

theorem built : (Engine.build setup).engine.isSome = true := by decide +kernel

/-- The engine of the camp. -/
def engine : Engine := (Engine.build setup).engine.get built

/-- A new game in the camp. -/
def begun : Play := engine.beginning traveller alone

/-- The same game after Ash has rested. -/
def rested : Play :=
  Operation.afterAll engine [.apply [.setCompanionFlag "comp.ash" "rested" true]] begun

/-- **A party that holds a companion twice**: a new game begins so, and an effect on the companion
changes one of the two. -/
theorem holds_ash_twice :
    (Engine.build setup).engine = some engine ∧ engine.Reachable traveller begun ∧
      engine.Reachable traveller rested ∧
      begun.state.party.map (·.id) = ["comp.ash", "comp.ash"] ∧
      ¬ begun.state.party.HoldsOnce "comp.ash" ∧
      rested.state.party.map (fun c => (c.name, c.flags)) =
        [("Ash", some [("rested", true)]), ("Ash the Younger", none)] :=
  ⟨(Option.some_get built).symm, .beginning alone, .afterAll (.beginning alone) _,
    by decide +kernel, by decide +kernel, by decide +kernel⟩

end Camp

end Storyworld
