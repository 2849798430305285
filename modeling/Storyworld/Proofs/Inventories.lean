/-
**How often items are carried.**

Items come and go by effects alone.  What is removed is cleaned up after: an item whose count falls
to zero or below has no entry any more.  What is added is not cleaned up, and effects may add any
integer, so an addition can leave an entry that counts nothing, or less.  That is the only way to
come by one: of an item that is never added less than once, every entry counts at least one, in
whatever way a game goes on.

Main definitions:

* `Storyworld.Inventory.Positive` — every entry of an item counts at least one;
* `Storyworld.Effect.inventoryAfter` — what an effect makes of an inventory;
* `Storyworld.Effect.AddsSome` — an effect that adds an item adds at least one of it.

Main results:

* `Storyworld.Inventory.positive_add_iff`, `Storyworld.Inventory.positive_remove` — **items come and
  go**;
* `Storyworld.Effect.positive_outcome_iff` — **when the counts are positive after an effect**;
* `Storyworld.whileSharing_positive` — counts in everything that is done to a game;
* `Storyworld.Engine.counts_stay_positive` — **counts stay positive** of what is added at least once;
* `Storyworld.Pouch.carries_nothing` — an entry of something that is not carried.
-/

import Storyworld.Proofs.Reachable

set_option relaxedAutoImplicit false
set_option autoImplicit false

namespace Storyworld

variable {e : Engine} {itemId : String}

/-! ### Inventories -/

namespace Inventory

variable {inventory : Inventory}

/-- **Every entry of an item counts at least one.** -/
def Positive (itemId : String) (inventory : Inventory) : Prop :=
  ∀ x ∈ inventory, x.item.id = itemId → 1 ≤ x.count

instance : Decidable (inventory.Positive itemId) := by
  unfold Positive
  infer_instance

theorem positive_nil : Positive itemId [] := fun _ h => nomatch h

theorem entry?_id {id : String} {y : InventoryEntry} (h : inventory.entry? id = some y) :
    y.item.id = id := by
  have hfound := List.find?_some h
  simpa using hfound

/-- Of such an item nothing is carried, or at least one. -/
theorem Positive.count_nonneg (h : inventory.Positive itemId) : 0 ≤ inventory.count itemId := by
  unfold count
  cases hy : inventory.entry? itemId with
  | none => exact Int.le_refl 0
  | some y =>
      have hone := h y (List.mem_of_find?_eq_some hy) (entry?_id hy)
      dsimp only
      omega

/-- An entry after an adjustment is as before, or the first of the item with the amount added. -/
theorem mem_adjust {id : String} {amount : Int} {x : InventoryEntry}
    (h : x ∈ inventory.adjust id amount) :
    x ∈ inventory ∨
      ∃ y, inventory.entry? id = some y ∧ x = { y with count := y.count + amount } := by
  induction inventory with
  | nil => exact .inl h
  | cons y rest ih =>
      unfold entry? at ih ⊢
      by_cases hy : y.item.id = id
      · simp only [adjust, if_pos hy, List.mem_cons] at h
        rcases h with rfl | h
        · exact .inr ⟨y, by simp [hy], rfl⟩
        · exact .inl (List.mem_cons_of_mem y h)
      · simp only [adjust, if_neg hy, List.mem_cons] at h
        rcases h with rfl | h
        · exact .inl List.mem_cons_self
        · rcases ih h with hmem | ⟨z, hz, rfl⟩
          · exact .inl (List.mem_cons_of_mem y hmem)
          · exact .inr ⟨z, by simp [hy, hz], rfl⟩

/-- The first entry of an item is there after an adjustment, with the amount added. -/
theorem adjusted_mem {id : String} {y : InventoryEntry} (h : inventory.entry? id = some y)
    (amount : Int) : { y with count := y.count + amount } ∈ inventory.adjust id amount := by
  induction inventory with
  | nil => cases h
  | cons z rest ih =>
      unfold entry? at h ih
      by_cases hz : z.item.id = id
      · rw [List.find?_cons_of_pos (by simp [hz])] at h
        cases h
        simp [adjust, hz]
      · rw [List.find?_cons_of_neg (by simp [hz])] at h
        simp only [adjust, if_neg hz]
        exact List.mem_cons_of_mem z (ih h)

theorem entry?_eq_none_iff {id : String} :
    inventory.entry? id = none ↔ ∀ x ∈ inventory, x.item.id ≠ id := by
  unfold entry?
  simp

/-- **An adjustment keeps counts positive** just if it leaves at least one of the item. -/
theorem positive_adjust_iff {id : String} {y : InventoryEntry} (h : inventory.Positive itemId)
    (hy : inventory.entry? id = some y) (amount : Int) :
    Positive itemId (inventory.adjust id amount) ↔ (id = itemId → 1 ≤ y.count + amount) := by
  have hid : y.item.id = id := entry?_id hy
  constructor
  · rintro hafter rfl
    exact hafter _ (adjusted_mem hy amount) hid
  -- no entry but the first of the item has another count than before
  · intro hleft x hx hitem
    rcases mem_adjust hx with hmem | ⟨z, hz, rfl⟩
    · exact h x hmem hitem
    · obtain rfl : y = z := Option.some.inj (hy.symm.trans hz)
      exact hleft (hid.symm.trans hitem)

/-- **When something is added**, counts stay positive just if at least one is carried then. -/
theorem positive_add_iff (h : inventory.Positive itemId) (item : Item) (amount : Int) :
    Positive itemId (inventory.add item amount) ↔
      (item.id = itemId → 1 ≤ inventory.count item.id + amount) := by
  unfold add count
  cases hy : inventory.entry? item.id with
  | some y => exact positive_adjust_iff h hy amount
  | none =>
      simp only [Positive, List.forall_mem_append, List.forall_mem_singleton, Int.zero_add]
      exact and_iff_right h

/-- **When something is removed**, counts stay positive. -/
theorem positive_remove (h : inventory.Positive itemId) (id : String) (amount : Int) :
    Positive itemId (inventory.remove id amount) := by
  unfold remove
  cases hy : inventory.entry? id with
  | none => exact h
  | some y =>
      dsimp only
      split
      · exact fun x hx => h x (List.mem_filter.1 hx).1
      · next hleft =>
        rw [positive_adjust_iff h hy]
        omega

/-- **What falls to zero or below is gone.** -/
theorem entry?_remove {id : String} {amount : Int} (h : inventory.count id ≤ amount) :
    Inventory.entry? (inventory.remove id amount) id = none := by
  unfold remove
  unfold count at h
  cases hy : inventory.entry? id with
  | none => exact hy
  | some y =>
      rw [hy] at h
      dsimp only at h ⊢
      rw [if_pos (by omega), entry?_eq_none_iff]
      intro x hx
      simpa using (List.mem_filter.1 hx).2

end Inventory

/-! ### Effects -/

namespace Effect

/-- **What an effect makes of an inventory.** -/
def inventoryAfter (inventory : Inventory) : Effect → Inventory
  | addItem item count => inventory.add item (count.getD 1)
  | removeItem id count => inventory.remove id (count.getD 1)
  | _ => inventory

/-- An effect that adds an item adds at least one of it. -/
def AddsSome (itemId : String) : Effect → Prop
  | addItem item count => item.id = itemId → 1 ≤ count.getD 1
  | _ => True

instance : DecidablePred (AddsSome itemId)
  | addItem item count => inferInstanceAs (Decidable (item.id = itemId → 1 ≤ count.getD 1))
  | removeItem _ _ | setFlag _ _ | modifyStat _ _ | setVar _ _ | modifyVar _ _ | teleport _ _
  | setReputation _ _ | setRelationship _ _ _ _ | modifyRelationship _ _ | addCompanion _
  | removeCompanion _ | setCompanionFlag _ _ _ | modifyCompanionRelationship _ _ => .isTrue trivial

/-- Items come and go by two kinds of effects alone. -/
theorem outcome_inventory {effect : Effect} {s s' : GameState} {w : Option Issue}
    (h : effect.outcome e s = .ok (s', w)) :
    s'.character.inventory = effect.inventoryAfter s.character.inventory := by
  cases effect with
  | addItem | removeItem =>
      cases h
      rfl
  | _ => exact (outcome_spares h).inventory rfl

/-- **When the counts of an item are positive after an effect**, if they were before: unless the
effect adds so few of the item that less than one is left. -/
theorem positive_outcome_iff {effect : Effect} {s s' : GameState} {w : Option Issue}
    (hs : s.character.inventory.Positive itemId) (h : effect.outcome e s = .ok (s', w)) :
    s'.character.inventory.Positive itemId ↔
      ∀ item count, effect = addItem item count → item.id = itemId →
        1 ≤ s.character.inventory.count itemId + count.getD 1 := by
  rw [outcome_inventory h]
  cases effect with
  | addItem item count =>
      simp only [inventoryAfter, Inventory.positive_add_iff hs]
      constructor
      · rintro hleft _ _ ⟨⟩ rfl
        exact hleft rfl
      · rintro hleft rfl
        exact hleft item count rfl rfl
  | removeItem id count =>
      exact iff_of_true (Inventory.positive_remove hs id _) fun _ _ heq => nomatch heq
  | _ => exact iff_of_true hs fun _ _ heq => nomatch heq

/-- Where at least one is carried or none, it stays so when at least one is added. -/
theorem AddsSome.positive {effect : Effect} (hadds : effect.AddsSome itemId) {s s' : GameState}
    {w : Option Issue} (hs : s.character.inventory.Positive itemId)
    (h : effect.outcome e s = .ok (s', w)) : s'.character.inventory.Positive itemId := by
  rw [positive_outcome_iff hs h]
  rintro item count rfl hid
  have hcount : 0 ≤ s.character.inventory.count itemId := hs.count_nonneg
  have hadded : 1 ≤ count.getD 1 := hadds hid
  omega

end Effect

/-! ### Games -/

/-- The counts of an item stay positive from one play to another. -/
abbrev Play.KeepsPositive (itemId : String) (p q : Play) : Prop :=
  p.state.character.inventory.Positive itemId → q.state.character.inventory.Positive itemId

theorem underLooking_positive : UnderLooking (Play.KeepsPositive itemId) where
  refl _ := id
  trans _ _ _ h h' hp := h' (h hp)
  drawn _ _ := id
  warned _ _ := id
  noted _ _ := id

/-- **Counts stay positive in everything that is done to a game**, where the story and the modules
add at least one whenever they add the item. -/
theorem whileSharing_positive
    (hstory : ∀ scene ∈ e.story.scenes, ∀ a ∈ scene.actions, ∀ x ∈ a.effects, x.AddsSome itemId)
    (hmodules : e.modules.Always fun answer => ∀ r, answer = .ok (some r) →
      ∀ x ∈ r.effects, x.AddsSome itemId) :
    WhileSharing e (Play.KeepsPositive itemId) (Effect.AddsSome itemId) where
  toUnderDraws := underLooking_positive.toUnderDraws
  answered c _ := underLooking_positive.keeps_holds c
  affected effect hadds := underLooking_positive.toUnderDraws.keeps_applyOne
    (fun _ _ _ ho hp => hadds.positive hp ho) (fun _ _ _ _ _ => id) fun _ => id
  told m hm context g r hr :=
    ⟨hmodules m hm context g r hr, underLooking_positive.keeps_overlay r⟩
  asked _ _ _ _ _ := trivial
  taken _ scene hs := hstory scene (Engine.mem_scenes_of_scene? hs)
  arrived p scene _ _ hp := by
    show ((p.state.moveTo scene.locationId).character.inventory).Positive itemId
    rwa [GameState.moveTo_eq]
  departed _ _ := id
  choseExit _ _ _ := id
  choseAction _ _ _ := id
  seated _ _ := id

namespace Engine

/-- **Counts stay positive.**  Take an item that is added at least once by every action of the story
that adds it, and by all that modules answer and that is applied from outside.  Then its counts stay
positive in whatever is done to a game, and so they are throughout any game that begins with an empty
inventory.  Of whatever item, counts that are positive are still so after an effect, unless it adds
so few that less than one is left; and an item whose count would fall to zero or below is gone when
it is removed. -/
theorem counts_stay_positive
    (hstory : ∀ scene ∈ e.story.scenes, ∀ a ∈ scene.actions, ∀ x ∈ a.effects, x.AddsSome itemId)
    (hmodules : e.modules.Always fun answer => ∀ r, answer = .ok (some r) →
      ∀ x ∈ r.effects, x.AddsSome itemId)
    {os : List Operation} (hos : ∀ o ∈ os, ∀ x ∈ o.effects, x.AddsSome itemId) :
    (∀ p : Play, p.KeepsPositive itemId (Operation.afterAll e os p)) ∧
    (∀ (c : Character) (shared : Shared), c.inventory = [] →
      (Operation.afterAll e os (e.beginning c shared)).state.character.inventory.Positive itemId) ∧
    (∀ (id : String) (s s' : GameState) (effect : Effect) (w : Option Issue),
      s.character.inventory.Positive id → effect.outcome e s = .ok (s', w) →
        (s'.character.inventory.Positive id ↔
          ∀ item count, effect = .addItem item count → item.id = id →
            1 ≤ s.character.inventory.count id + count.getD 1)) ∧
    ∀ (id : String) (s : GameState) (count : Option Int),
      s.character.inventory.count id ≤ count.getD 1 →
        ∃ s', (Effect.removeItem id count).outcome e s = .ok (s', none) ∧
          Inventory.entry? s'.character.inventory id = none := by
  have hkept := (whileSharing_positive hstory hmodules).keeps_afterAll hos
  refine ⟨hkept, fun c shared hempty => hkept _ ?_, fun id s s' effect w hs ho =>
    Effect.positive_outcome_iff hs ho, fun id s count hcount =>
    ⟨_, rfl, Inventory.entry?_remove hcount⟩⟩
  show c.inventory.Positive itemId
  rw [hempty]
  exact Inventory.positive_nil

/-- A traveller on the Lantern Road who takes the lantern, is given another one, and loses one. -/
theorem counts_stay_positive_lanternRoad :
    let e := LanternRoad.engine
    let lantern : Item := ⟨"lantern", "Storm lantern", none, none, none, none⟩
    let os : List Operation := [.enter "scene.gate", .act "act.lantern",
      .apply [.addItem lantern (some 2), .removeItem "lantern" none]]
    let q := Operation.afterAll e os (e.beginning LanternRoad.traveller LanternRoad.alone)
    (∀ scene ∈ e.story.scenes, ∀ a ∈ scene.actions, ∀ x ∈ a.effects, x.AddsSome "lantern") ∧
    (∀ o ∈ os, ∀ x ∈ o.effects, x.AddsSome "lantern") ∧
    q.state.character.inventory.count "lantern" = 2 ∧
    q.state.character.inventory.Positive "lantern" := by
  intro e lantern os q
  have hstory : ∀ scene ∈ e.story.scenes, ∀ a ∈ scene.actions, ∀ x ∈ a.effects,
      x.AddsSome "lantern" := by decide +kernel
  have hmodules : e.modules.Always fun answer => ∀ r, answer = .ok (some r) →
      ∀ x ∈ r.effects, x.AddsSome "lantern" := by
    intro m hm context g r hr
    rw [LanternRoad.engine_answers m hm] at hr
    cases hr
    exact List.forall_mem_singleton.2 trivial
  have hos : ∀ o ∈ os, ∀ x ∈ o.effects, x.AddsSome "lantern" := by decide +kernel
  have hcount : q.state.character.inventory.count "lantern" = 2 := by decide +kernel
  obtain ⟨-, hfresh, -⟩ := counts_stay_positive hstory hmodules hos
  exact ⟨hstory, hos, hcount, hfresh LanternRoad.traveller LanternRoad.alone rfl⟩

end Engine

/-! ### A pouch with something in it that is not there -/

namespace Pouch

open LanternRoad

/-- The story of the pouch as a document.  Reaching into it adds a pebble no times. -/
def document : Json :=
  entry "story.pouch" "Pouch" [field "version" "1.0.0", ("ruleModules", .arr []),
    ("world", .obj [("locations", .arr [])]),
    ("story", .obj [field "startScene" "scene.beach",
      ("scenes", .arr [.obj [field "id" "scene.beach",
        ("narrative", .obj [field "text" "A beach."]),
        ("actions", .arr [action "act.reach" "Reach into the pouch" [("effects", .arr [
          typed "addItem" [("item", entry "pebble" "Pebble" []), ("count", .int 0)]])]])]])])]

theorem loads : (StoryBundle.load (.document document)).toOption.isSome = true := by
  decide +kernel

def setup : Setup := .bare ((StoryBundle.load (.document document)).toOption.get loads)

theorem built : (Engine.build setup).engine.isSome = true := by decide +kernel

/-- The engine of the pouch. -/
def engine : Engine := (Engine.build setup).engine.get built

/-- What comes of reaching into the pouch in a new game. -/
def reached : Play := Operation.afterAll engine [.act "act.reach"] (engine.beginning traveller alone)

/-- **An entry of something that is not carried**: the game begins with an empty inventory, and has
an entry that counts nothing after an action of the story. -/
theorem carries_nothing :
    (Engine.build setup).engine = some engine ∧ engine.Reachable traveller reached ∧
      traveller.inventory = [] ∧
      reached.state.character.inventory.map (fun x => (x.item.id, x.count)) = [("pebble", 0)] ∧
      ¬ reached.state.character.inventory.Positive "pebble" :=
  ⟨(Option.some_get built).symm, .afterAll (.beginning alone) _, rfl, by decide +kernel,
    by decide +kernel⟩

end Pouch

end Storyworld
