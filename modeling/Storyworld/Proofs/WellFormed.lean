/-
**What the check of a story decides.**

The check of a story goes through its parts one after the other and reports what it finds.  Whether
it finds an error depends on nothing but this: the names of the story and of its scenes are not
blank; no id stands twice among the scenes, the locations and the assets, among the actions of a
scene and among the nodes of a layout; and whatever leads to a scene, or from node to node, leads
to one that is there.  Such a story is well formed.  Lore, expressions and all other references are
a matter of warnings.

Main definitions:

* `Storyworld.Scene.WellFormed`, `Storyworld.Layout.WellFormed`, `Storyworld.Location.WellFormed` —
  what is asked of the parts of a story;
* `Storyworld.StoryBundle.WellFormed` — **what is asked of a story**.

Main results:

* `Storyworld.hasError_issuesOfEach` — the issues of the entries of a list;
* `Storyworld.nodup_iff_not_cameBefore` — ids that are told apart by looking back;
* `Storyworld.hasError_checkLayout`, `Storyworld.hasError_checkScene` — what the check of a part
  decides;
* `Storyworld.StoryBundle.check_decides_wellFormed` — **the check finds no errors just in the
  stories that are well formed**, whatever the lore.
-/

import Storyworld.Play.Effect
import Storyworld.Story.Check

set_option relaxedAutoImplicit false
set_option autoImplicit false

namespace Storyworld

/-! ### Issues -/

/-- Among some findings there are no errors if each of them is only a warning. -/
theorem hasError_eq_false_iff {issues : List Issue} :
    Issue.hasError issues = false ↔ ∀ i ∈ issues, i.isError = false := by
  simp [Issue.hasError]

@[simp] theorem hasError_append (xs ys : List Issue) :
    Issue.hasError (xs ++ ys) = (Issue.hasError xs || Issue.hasError ys) := List.any_append

@[simp] theorem hasError_issueIf_error (b : Bool) (path message : String) :
    Issue.hasError (issueIf b (.error path message)) = b := by
  cases b <;> rfl

@[simp] theorem hasError_issueIf_warning (b : Bool) (path message : String) :
    Issue.hasError (issueIf b (.warning path message)) = false := by
  cases b <;> rfl

/-- An error on an id that is not among the ids of a list. -/
theorem hasError_issueIf_absent {ids : List String} {id path message : String} :
    Issue.hasError (issueIf (!ids.contains id) (.error path message)) = false ↔ id ∈ ids := by
  simp

section Lists

variable {α : Type} {f : Nat → α → List Issue} {xs : List α}

theorem mem_issuesOfEach {v : Issue} :
    v ∈ issuesOfEach f xs ↔ ∃ i, ∃ hi : i < xs.length, v ∈ f i xs[i] := by
  simp only [issuesOfEach, List.mem_flatten, List.mem_map, Prod.exists]
  constructor
  · rintro ⟨_, ⟨x, i, hx, rfl⟩, hv⟩
    obtain ⟨hi, rfl⟩ := List.getElem?_eq_some_iff.1 (List.mk_mem_zipIdx_iff_getElem?.1 hx)
    exact ⟨i, hi, hv⟩
  · rintro ⟨i, hi, hv⟩
    have hx := List.mk_mem_zipIdx_iff_getElem?.2 (List.getElem?_eq_getElem hi)
    exact ⟨_, ⟨xs[i], i, hx, rfl⟩, hv⟩

/-- **No errors are found in a list if none are found at any of its indices.** -/
theorem hasError_issuesOfEach :
    Issue.hasError (issuesOfEach f xs) = false ↔
      ∀ (i : Nat) (hi : i < xs.length), Issue.hasError (f i xs[i]) = false := by
  simp only [hasError_eq_false_iff, mem_issuesOfEach]
  constructor
  · exact fun h i hi v hv => h v ⟨i, hi, hv⟩
  · rintro h v ⟨i, hi, hv⟩
    exact h i hi v hv

/-- No errors are found in a list of entries that are judged without their index. -/
theorem hasError_issuesOfEach_of (P : α → Prop)
    (h : ∀ i x, Issue.hasError (f i x) = false ↔ P x) :
    Issue.hasError (issuesOfEach f xs) = false ↔ ∀ x ∈ xs, P x := by
  simp only [hasError_issuesOfEach, h]
  exact List.forall_mem_iff_forall_getElem.symm

/-- **Ids are distinct if none of them came before.** -/
theorem nodup_iff_not_cameBefore (name : α → String) :
    (xs.map name).Nodup ↔
      ∀ (i : Nat) (hi : i < xs.length), cameBefore (xs.map name) i (name xs[i]) = false := by
  simp only [List.Nodup, List.pairwise_iff_getElem, cameBefore, List.contains_eq_mem,
    decide_eq_false_iff_not, List.mem_take_iff_getElem, List.length_map, List.getElem_map]
  constructor
  · rintro h j hj ⟨i, hi, heq⟩
    exact h i j (by omega) hj (by omega) heq
  · intro h i j hi hj hij heq
    exact h j hj ⟨i, by omega, heq⟩

/-- No errors are found in a list of entries that are told apart by their ids, and beside that are
judged without their index. -/
theorem hasError_issuesOfEach_distinct (name : α → String) (P : α → Prop)
    (h : ∀ i x, Issue.hasError (f i x) = false ↔
      cameBefore (xs.map name) i (name x) = false ∧ P x) :
    Issue.hasError (issuesOfEach f xs) = false ↔ (xs.map name).Nodup ∧ ∀ x ∈ xs, P x := by
  simp only [hasError_issuesOfEach, h, forall_and]
  exact and_congr (nodup_iff_not_cameBefore name).symm List.forall_mem_iff_forall_getElem.symm

end Lists

theorem hasError_checkCondition (path : String) (c : Option Condition) :
    Issue.hasError (checkCondition path c) = false := by
  unfold checkCondition
  split
  · split <;> rfl
  · rfl

theorem hasError_checkNarrative (path : String) (n : Narrative) :
    Issue.hasError (checkNarrative path n) = false := by
  cases n with
  | variants vs =>
      rw [checkNarrative]
      exact hasError_issuesOfEach.2 fun _ _ => hasError_checkCondition _ _
  | _ => rfl

/-! ### Well-formed parts -/

/-- A text is not blank. -/
def IsNamed (s : String) : Prop := ∃ c ∈ s.toList, Text.isBlank c = false

theorem isBlankText_eq_false_iff {s : String} : isBlankText s = false ↔ IsNamed s := by
  simp [isBlankText, IsNamed]

/-- A layout whose nodes have ids of their own and show scenes that are there, and whose connections
lead from node to node. -/
structure Layout.WellFormed (sceneIds : List String) (l : Layout) : Prop where
  nodeIds : (l.nodes.map (·.id)).Nodup
  shown : ∀ n ∈ l.nodes, n.sceneId ∈ sceneIds
  ends : ∀ c ∈ l.connections, c.source ∈ l.nodes.map (·.id) ∧ c.target ∈ l.nodes.map (·.id)

/-- A location that is entered through a scene that is there.  A layout without nodes is not looked
at. -/
structure Location.WellFormed (sceneIds : List String) (l : Location) : Prop where
  entry : l.entryScene ∈ sceneIds
  layout : ∀ layout, l.layout = some layout → layout.nodes ≠ [] → layout.WellFormed sceneIds

/-- A scene whose exits, and the teleports of whose actions, lead to scenes that are there, and
whose actions have ids of their own. -/
structure Scene.WellFormed (sceneIds : List String) (s : Scene) : Prop where
  exits : ∀ x ∈ s.exits, x.targetScene ∈ sceneIds
  teleports : ∀ a ∈ s.actions, ∀ x ∈ a.effects, ∀ t, x.target? = some t → t ∈ sceneIds
  actionIds : (s.actions.map (·.id)).Nodup

/-! ### The check of the parts -/

theorem hasError_checkLayout {sceneIds : List String} {path : String} {l : Layout} :
    Issue.hasError (checkLayout sceneIds path l) = false ↔
      (l.nodes ≠ [] → l.WellFormed sceneIds) := by
  unfold checkLayout
  dsimp only
  split
  · next hempty => simp [List.isEmpty_iff.1 hempty, Issue.hasError]
  · next hnodes =>
    rw [List.isEmpty_iff] at hnodes
    rw [hasError_append, Bool.or_eq_false_iff,
      hasError_issuesOfEach_distinct (·.id) (·.sceneId ∈ sceneIds) (by simp),
      hasError_issuesOfEach_of (fun c => c.source ∈ l.nodes.map (·.id) ∧
        c.target ∈ l.nodes.map (·.id)) (by simp [hasError_checkCondition])]
    constructor
    · rintro ⟨⟨hids, hshown⟩, hends⟩ -
      exact ⟨hids, hshown, hends⟩
    · intro h
      obtain ⟨hids, hshown, hends⟩ := h hnodes
      exact ⟨⟨hids, hshown⟩, hends⟩

theorem hasError_checkExit {targets : Targets} {path : String} {x : Exit} :
    Issue.hasError (checkExit targets path x) = false ↔ x.targetScene ∈ targets.sceneIds := by
  simp [checkExit, hasError_checkCondition]

theorem hasError_checkEffect {targets : Targets} {path : String} {x : Effect} :
    Issue.hasError (checkEffect targets path x) = false ↔
      ∀ t, x.target? = some t → t ∈ targets.sceneIds := by
  cases x with
  | teleport scene location => simp [checkEffect, Effect.target?]
  | _ => simp [checkEffect, Effect.target?, Issue.hasError]

theorem hasError_checkAction {targets : Targets} {path : String} {a : Action} :
    Issue.hasError (checkAction targets path a) = false ↔
      ∀ x ∈ a.effects, ∀ t, x.target? = some t → t ∈ targets.sceneIds := by
  rw [checkAction, hasError_append, hasError_checkCondition, Bool.false_or]
  exact hasError_issuesOfEach_of _ fun _ _ => hasError_checkEffect

/-- **What the check of a scene decides.** -/
theorem hasError_checkScene {targets : Targets} {path : String} {s : Scene} :
    Issue.hasError (checkScene targets path s) = false ↔ s.WellFormed targets.sceneIds := by
  -- only the last two of the six parts can find errors: those on the exits and on the actions
  simp only [checkScene, hasError_append, Bool.or_eq_false_iff, hasError_issueIf_warning,
    hasError_checkNarrative, @hasError_issuesOfEach LoreRef, @hasError_issuesOfEach String,
    implies_true, true_and]
  rw [hasError_issuesOfEach_of (·.targetScene ∈ targets.sceneIds) fun _ _ => hasError_checkExit,
    hasError_issuesOfEach_distinct (·.id) (fun a => ∀ x ∈ a.effects, ∀ t, x.target? = some t →
      t ∈ targets.sceneIds) (by simp [hasError_checkAction])]
  constructor
  · rintro ⟨hexits, hids, hteleports⟩
    exact ⟨hexits, hteleports, hids⟩
  · rintro ⟨hexits, hteleports, hids⟩
    exact ⟨hexits, hids, hteleports⟩

/-! ### The check of a story -/

/-- **A well-formed story.** -/
structure StoryBundle.WellFormed (story : StoryBundle) : Prop where
  named : IsNamed story.id ∧ IsNamed story.version ∧ IsNamed story.name
  scenesNamed : ∀ s ∈ story.scenes, IsNamed s.id
  sceneIds : (story.scenes.map (·.id)).Nodup
  locationIds : (story.world.locations.map (·.id)).Nodup
  assetIds : (story.assets.map (·.id)).Nodup
  start : story.startScene ∈ story.scenes.map (·.id)
  locations : ∀ l ∈ story.world.locations, l.WellFormed (story.scenes.map (·.id))
  scenes : ∀ s ∈ story.scenes, s.WellFormed (story.scenes.map (·.id))

theorem hasError_checkNames {story : StoryBundle} :
    Issue.hasError (checkNames story) = false ↔
      IsNamed story.id ∧ IsNamed story.version ∧ IsNamed story.name := by
  simp [checkNames, isBlankText_eq_false_iff]

theorem hasError_checkSceneIds {story : StoryBundle} :
    Issue.hasError (checkSceneIds story) = false ↔
      (story.scenes.map (·.id)).Nodup ∧ ∀ s ∈ story.scenes, IsNamed s.id := by
  refine hasError_issuesOfEach_distinct Scene.id (fun s => IsNamed s.id) fun i s => ?_
  simp [isBlankText_eq_false_iff, and_comm]

theorem hasError_checkLocations {sceneIds : List String} {story : StoryBundle} :
    Issue.hasError (checkLocations sceneIds story) = false ↔
      (story.world.locations.map (·.id)).Nodup ∧
        ∀ l ∈ story.world.locations, l.WellFormed sceneIds := by
  refine hasError_issuesOfEach_distinct Location.id (Location.WellFormed sceneIds) fun i l => ?_
  simp only [hasError_append, Bool.or_eq_false_iff, hasError_issueIf_absent, and_assoc]
  rw [hasError_issueIf_error]
  refine and_congr_right fun _ => ?_
  constructor
  · rintro ⟨hentry, hlayout⟩
    refine ⟨hentry, fun layout hl => ?_⟩
    rw [hl] at hlayout
    exact hasError_checkLayout.1 hlayout
  · rintro ⟨hentry, hlayout⟩
    refine ⟨hentry, ?_⟩
    cases hl : l.layout with
    | none => rfl
    | some layout => exact hasError_checkLayout.2 (hlayout layout hl)

/-- **What the check of a story decides.** -/
theorem StoryBundle.hasError_check {story : StoryBundle} {lore : List LoreBundle} :
    Issue.hasError (story.check lore) = false ↔ story.WellFormed := by
  unfold check
  simp only [hasError_append, Bool.or_eq_false_iff, hasError_checkNames, hasError_checkSceneIds,
    hasError_checkLocations, hasError_issueIf_absent]
  rw [hasError_issuesOfEach_distinct (·.id) (fun _ => True) (by simp),
    hasError_issuesOfEach_of (Scene.WellFormed (story.scenes.map (·.id)))
      fun _ _ => hasError_checkScene,
    hasError_issuesOfEach_of (fun _ => True) fun _ _ => by simp [hasError_checkCondition]]
  constructor
  · rintro ⟨⟨⟨⟨⟨⟨hnamed, hids, hscenesNamed⟩, hlocationIds, hlocations⟩, hstart⟩, hassetIds, -⟩,
      hscenes⟩, -⟩
    exact ⟨hnamed, hscenesNamed, hids, hlocationIds, hassetIds, hstart, hlocations, hscenes⟩
  · intro h
    exact ⟨⟨⟨⟨⟨⟨h.named, h.sceneIds, h.scenesNamed⟩, h.locationIds, h.locations⟩, h.start⟩,
      h.assetIds, fun _ _ => trivial⟩, h.scenes⟩, fun _ _ => trivial⟩

/-- **The check of a story decides whether it is well formed, and lore has no say in it.** -/
theorem StoryBundle.check_decides_wellFormed (story : StoryBundle) (lore : List LoreBundle) :
    (Issue.hasError (story.check lore) = false ↔ story.WellFormed) ∧
      ∀ lore', Issue.hasError (story.check lore') = Issue.hasError (story.check lore) := by
  refine ⟨hasError_check, fun lore' => ?_⟩
  rw [← Bool.not_inj_iff, Bool.eq_iff_iff]
  simp [hasError_check]

end Storyworld
