/-
**What a built engine can rely on.**

An engine is built only from a story in which the check finds no errors.  So the start scene of the
story of a built engine, the targets of all exits and those of all teleports in actions are scenes
of the story, and no scene has a blank name.  The modules of a built engine are modules that were
offered, in settings of their own.

Main definitions:

* `Storyworld.StoryBundle.Sound` — a story all of whose references to scenes lead to scenes;
* `Storyworld.LanternRoad.setup` — the Lantern Road with modules that send the player to a scene.

Main results:

* `Storyworld.StoryBundle.WellFormed.sound` — a well-formed story is sound;
* `Storyworld.Engine.sound_of_build` — **the story of a built engine is sound**;
* `Storyworld.Engine.stemsFrom_of_build` — where the modules of a built engine come from.
-/

import Storyworld.Engine.Build
import Storyworld.Play.Turn
import Storyworld.Proofs.Effects
import Storyworld.Proofs.Hooks
import Storyworld.Proofs.WellFormed
import Storyworld.Story.LanternRoad

set_option relaxedAutoImplicit false
set_option autoImplicit false

namespace Storyworld

/-! ### The story -/

/-- A story all of whose references to scenes lead to scenes of the story, none of which is without
a name. -/
structure StoryBundle.Sound (story : StoryBundle) : Prop where
  start : story.startScene ∈ story.scenes.map (·.id)
  named : ∀ s ∈ story.scenes, s.id ≠ ""
  exits : ∀ s ∈ story.scenes, ∀ x ∈ s.exits, x.targetScene ∈ story.scenes.map (·.id)
  teleports : ∀ s ∈ story.scenes, ∀ a ∈ s.actions, ∀ x ∈ a.effects, ∀ t, x.target? = some t →
    t ∈ story.scenes.map (·.id)

/-- A well-formed story is sound. -/
theorem StoryBundle.WellFormed.sound {story : StoryBundle} (h : story.WellFormed) :
    story.Sound where
  start := h.start
  named s hs hempty := by
    obtain ⟨c, hc, -⟩ := h.scenesNamed s hs
    rw [hempty] at hc
    cases hc
  exits s hs := (h.scenes s hs).exits
  teleports s hs := (h.scenes s hs).teleports

namespace Engine

variable {e : Engine} {setup : Setup}

theorem isSome_scene?_iff (e : Engine) (id : String) :
    (e.scene? id).isSome ↔ id ∈ e.story.scenes.map (·.id) := by
  simp [scene?, List.find?_isSome]

theorem mem_scenes_of_scene? {id : String} {scene : Scene} (hs : e.scene? id = some scene) :
    scene ∈ e.story.scenes := List.mem_of_find?_eq_some hs

/-! ### Built engines -/

/-- What an engine is built from, and that no errors were found in it. -/
theorem of_build (hb : (build setup).engine = some e) :
    Issue.hasError (setup.story.check setup.lore) = false ∧
      e = ⟨setup.story, setup.lore, (enrolAll setup.modules setup.story.ruleModules).enrolled,
        setup.locale, setup.consultsModules, setup.features, setup.maxHops⟩ := by
  unfold build at hb
  dsimp only at hb
  split at hb
  · cases hb
  · next h =>
    rw [Bool.not_eq_true, hasError_append, Bool.or_eq_false_iff] at h
    exact ⟨h.1, (Option.some.inj hb).symm⟩

/-- **The story of a built engine is sound.** -/
theorem sound_of_build (hb : (build setup).engine = some e) : e.story.Sound := by
  obtain ⟨hcheck, rfl⟩ := of_build hb
  exact (StoryBundle.hasError_check.1 hcheck).sound

end Engine

/-! ### The modules -/

/-- A module that is one of those on offer, in settings of its own. -/
def RuleModule.StemsFrom (m : RuleModule) (offered : List RuleModule) : Prop :=
  ∃ o ∈ offered, ∃ settings, m = { o with settings }

/-- All modules of a registry stem from those on offer. -/
def Registry.StemsFrom (ms : Registry) (offered : List RuleModule) : Prop :=
  ∀ m ∈ ms, m.StemsFrom offered

variable {ms : Registry} {offered : List RuleModule} {m : RuleModule}

/-- Only the module that is registered is new. -/
theorem Registry.mem_of_mem_register {n : RuleModule} (h : n ∈ ms.register m) : n = m ∨ n ∈ ms := by
  unfold register at h
  split at h
  · obtain ⟨k, hk, rfl⟩ := List.mem_map.1 h
    split
    · exact .inl rfl
    · exact .inr hk
  · rcases List.mem_append.1 h with h | h
    · exact .inr h
    · exact .inl (List.mem_singleton.1 h)

theorem Registry.StemsFrom.register (hms : ms.StemsFrom offered) (hm : m.StemsFrom offered) :
    (ms.register m).StemsFrom offered := by
  intro n hn
  rcases mem_of_mem_register hn with rfl | hn
  · exact hm
  · exact hms n hn

theorem stemsFrom_moduleFor {i : Nat} {ref : ModuleRef} (hms : ms.StemsFrom offered)
    (h : moduleFor ms i ref = .ok m) : m.StemsFrom offered := by
  unfold moduleFor at h
  split at h
  · cases h
  · next o ho =>
    obtain ⟨o', ho', settings, rfl⟩ := hms o (List.mem_of_find?_eq_some ho)
    split at h
    · split at h
      · cases h
        exact ⟨o', ho', settings, rfl⟩
      · next config _ =>
        cases hc : ({ o' with settings } : RuleModule).configured config with
        | error r => rw [hc] at h; cases h
        | ok m' =>
            rw [hc] at h
            cases h
            obtain ⟨settings', -, rfl⟩ := map_eq_ok hc
            exact ⟨o', ho', settings', rfl⟩
    · cases h

/-- How far the references of a story have been followed, with modules of the offer only. -/
structure Enrolment.StemsFrom (r : Enrolment) (modules : List RuleModule) : Prop where
  offered : r.offered.StemsFrom modules
  enrolled : r.enrolled.StemsFrom modules

theorem Enrolment.StemsFrom.follow {r : Enrolment} (h : r.StemsFrom offered)
    (ref : ModuleRef × Nat) : (r.follow ref).StemsFrom offered := by
  unfold Enrolment.follow
  split
  · next m hm =>
    have hstem := stemsFrom_moduleFor h.offered hm
    exact ⟨h.offered.register hstem, h.enrolled.register hstem⟩
  · exact ⟨h.offered, h.enrolled⟩

theorem stemsFrom_enrolAll (offered : List RuleModule) (refs : List ModuleRef) :
    (enrolAll offered refs).StemsFrom offered := by
  have hoffer (ms : Registry) (hms : ms.StemsFrom offered) (more : List RuleModule)
      (hmore : ∀ m ∈ more, m ∈ offered) : (more.foldl Registry.register ms).StemsFrom offered := by
    induction more generalizing ms with
    | nil => exact hms
    | cons m more ih =>
        have hm : m.StemsFrom offered := ⟨m, hmore m List.mem_cons_self, m.settings, rfl⟩
        exact ih _ (hms.register hm) fun n hn => hmore n (List.mem_cons_of_mem m hn)
  have hfollow (r : Enrolment) (hr : r.StemsFrom offered) (refs : List (ModuleRef × Nat)) :
      (refs.foldl Enrolment.follow r).StemsFrom offered := by
    induction refs generalizing r with
    | nil => exact hr
    | cons ref refs ih => exact ih _ (hr.follow ref)
  have hempty : Registry.StemsFrom [] offered := fun _ h => nomatch h
  exact hfollow _ ⟨hoffer [] hempty offered fun _ h => h, hempty⟩ _

/-- **The modules of a built engine are modules that were offered.** -/
theorem Engine.stemsFrom_of_build {e : Engine} {setup : Setup}
    (hb : (build setup).engine = some e) : e.modules.StemsFrom setup.modules := by
  obtain ⟨-, rfl⟩ := of_build hb
  exact (stemsFrom_enrolAll _ _).enrolled

/-- What an engine is built from that has a story and nothing else: neither lore nor modules, and no
optional features. -/
def Setup.bare (story : StoryBundle) : Setup where
  story
  lore := []
  modules := []
  locale := none
  consultsModules := false
  features := ⟨false, false, false, false⟩
  maxHops := 64

/-! ### The Lantern Road with modules that send the player away -/

namespace LanternRoad

/-- A module that answers every hook by sending the player to a scene. -/
def sending (id system scene : String) : RuleModule where
  id
  system
  kind := "SendingModule"
  supports := RuleModule.supporting system []
  settings := .null
  configure settings _ := .ok settings
  answer _ _ _ := .ok none
  resolve _ _ g := (.ok (some ⟨.null, [.teleport scene none], .null, .null⟩), g)

/-- The Lantern Road where every hook sends the player to a scene. -/
def setup (scene : String) : Setup where
  story := .ofDocument story
  lore := [.ofDocument lore]
  modules := [sending "rules.core" "Custom" scene, sending "rules.sample" "Custom" scene,
    sending "rules.dice" "d20" scene]
  locale := none
  consultsModules := false
  features := ⟨true, true, true, true⟩
  maxHops := 64

theorem built : (Engine.build (setup "scene.road")).engine.isSome = true := by decide +kernel

/-- The engine of the Lantern Road where every hook sends the player to the road. -/
def engine : Engine := (Engine.build (setup "scene.road")).engine.get built

theorem build_eq : (Engine.build (setup "scene.road")).engine = some engine :=
  (Option.some_get built).symm

/-- A character who walks the road, and who has a game to itself. -/
def traveller : Character := ⟨none, "Player", [], [], none, none, none⟩

def alone : Shared := ⟨.seeded Generator.defaultSeed, []⟩

/-- Every hook is answered, and in the same way. -/
theorem answers_of_build {scene : String} {e : Engine}
    (hb : (Engine.build (setup scene)).engine = some e) (m : RuleModule) (hm : m ∈ e.modules)
    (context : HookContext) (g : Generator) : (m.resolve m.settings context g).1 =
      .ok (some ⟨.null, [.teleport scene none], .null, .null⟩) := by
  obtain ⟨o, ho, settings, rfl⟩ := Engine.stemsFrom_of_build hb m hm
  simp only [setup, List.mem_cons, List.not_mem_nil, or_false] at ho
  rcases ho with rfl | rfl | rfl <;> rfl

/-- Every hook of the engine is answered, and in the same way. -/
theorem engine_answers (m : RuleModule) (hm : m ∈ engine.modules) (context : HookContext)
    (g : Generator) : (m.resolve m.settings context g).1 =
      .ok (some ⟨.null, [.teleport "scene.road" none], .null, .null⟩) :=
  answers_of_build build_eq m hm context g

/-- No module of such an engine ever fails. -/
theorem failsOnly_of_build {scene : String} {e : Engine}
    (hb : (Engine.build (setup scene)).engine = some e) (F : Fault → Prop) :
    e.modules.FailsOnly F where
  answers m hm c s f hf := by
    obtain ⟨o, ho, settings, rfl⟩ := Engine.stemsFrom_of_build hb m hm
    simp only [setup, List.mem_cons, List.not_mem_nil, or_false] at ho
    rcases ho with rfl | rfl | rfl <;> cases hf
  hooks m hm context g f hf := by
    rw [answers_of_build hb m hm] at hf
    cases hf

theorem engine_failsOnly (F : Fault → Prop) : engine.modules.FailsOnly F :=
  failsOnly_of_build build_eq F

end LanternRoad

end Storyworld
