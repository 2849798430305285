/-
**Where the player is, told by locations.**

A teleport that names a location moves the player there at once, but into its scene only later, and
perhaps into another scene altogether, if one more teleport follows.  In between, the location of a
state is not that of its scene.  It is again as soon as a scene is entered that declares a location,
and every move whose effects teleport anywhere ends by entering a scene.  So whenever a move is over
the player is at the location of the scene, and a location that came with a teleport is left only in
a scene that declares none.

Main definitions:

* `Storyworld.Scene.location?` — the location that a scene declares;
* `Storyworld.Play.AtHome` — **the player is at the location of the scene**;
* `Storyworld.Play.Unmoved` — the player is where the player was;
* `Storyworld.Engine.GoesOn` — what comes of a move from which a game can go on;
* `Storyworld.Ferry.engine` — a river between two banks.

Main results:

* `Storyworld.Engine.unmoved_fireAll`, `Storyworld.Engine.unmoved_perform` — hooks and actions that
  lead nowhere do not move the player;
* `Storyworld.Engine.atHome_enterWithin` — **entering a scene brings the player to its location**;
* `Storyworld.Engine.unmoved_of_refusal` — whoever is refused has not moved;
* `Storyworld.Engine.location_follows_scene` — **the location follows the scene**, in every game.
-/

import Storyworld.Proofs.Refusals

set_option relaxedAutoImplicit false
set_option autoImplicit false

namespace Storyworld

variable {e : Engine} {p q r : Play}

/-! ### Locations -/

/-- **The location that a scene declares.**  A name that is empty declares none. -/
def Scene.location? (scene : Scene) : Option String := scene.locationId.filter (· != "")

/-- Who is put into a scene is at its location, or stays at the one before if it declares none. -/
theorem Play.currentLocationId_arrive (p : Play) (scene : Scene) :
    (p.arrive scene).state.currentLocationId = scene.location?.or p.state.currentLocationId := by
  show (p.state.moveTo scene.locationId).currentLocationId = _
  rw [GameState.moveTo_eq, Scene.location?]

/-- The player is at the location of the scene, if it declares one. -/
def Play.AtHome (e : Engine) (p : Play) : Prop :=
  ∀ scene, e.scene? p.state.currentSceneId = some scene →
    ∀ l, scene.location? = some l → p.state.currentLocationId = some l

/-- The player is where the player was, in the same scene and at the same location. -/
structure Play.Unmoved (p q : Play) : Prop where
  place : q.state.currentSceneId = p.state.currentSceneId
  location : q.state.currentLocationId = p.state.currentLocationId

theorem Play.Unmoved.trans (h : p.Unmoved q) (h' : q.Unmoved r) : p.Unmoved r :=
  ⟨h'.place.trans h.place, h'.location.trans h.location⟩

theorem Play.Unmoved.atHome (h : p.Unmoved q) (hp : p.AtHome e) : q.AtHome e := by
  intro scene hs l hl
  rw [h.place] at hs
  rw [h.location]
  exact hp scene hs l hl

theorem Play.unmoved_chooseAction (p : Play) (scene : Scene) (id : String) :
    p.Unmoved (p.chooseAction scene id) := ⟨rfl, rfl⟩

/-- **Looking does not move the player.** -/
theorem underLooking_unmoved : UnderLooking Play.Unmoved where
  refl _ := ⟨rfl, rfl⟩
  trans _ _ _ := .trans
  drawn _ _ := ⟨rfl, rfl⟩
  warned _ _ := ⟨rfl, rfl⟩
  noted _ _ := ⟨rfl, rfl⟩

/-! ### Effects that lead nowhere -/

theorem lastTarget?_eq_none {effects : List Effect} (h : lastTarget? effects = none) :
    ∀ x ∈ effects, x.target? = none := by
  rw [lastTarget?, List.getLast?_eq_none_iff, List.filterMap_eq_nil_iff] at h
  exact h

/-- Where it leads nowhere later, it has led nowhere before. -/
theorem laterTarget_eq_none {before after : Option String} (hafter : ∀ t, after = some t → t ≠ "")
    (h : laterTarget before after = none) : before = none ∧ after = none := by
  cases after with
  | none => exact ⟨h, rfl⟩
  | some t =>
      rw [laterTarget, if_neg (hafter t rfl)] at h
      cases h

namespace Engine

theorem unmoved_applyOne {effect : Effect} (ht : effect.target? = none) :
    (e.applyOne effect).Keeps Play.Unmoved :=
  underLooking_unmoved.toUnderDraws.keeps_applyOne
    (fun _ _ _ ho => ⟨(Effect.outcome_sameCourse ho).currentSceneId,
      (Effect.outcome_spares ho).location ht⟩)
    (fun _ _ _ _ _ => ⟨rfl, rfl⟩) fun _ => ⟨rfl, rfl⟩

/-- **Effects that lead nowhere do not move the player.** -/
theorem unmoved_applyAll {effects : List Effect}
    (h : (e.applyAll effects).on p = (.ok none, q)) : p.Unmoved q := by
  obtain ⟨_, p₁, hall, h⟩ := Turn.on_bind_eq_ok.1 h
  obtain ⟨htarget, rfl⟩ := Prod.mk.inj h
  have hkeeps := underLooking_unmoved.toUnderDraws.keeps_forM fun x hx =>
    unmoved_applyOne (e := e) (lastTarget?_eq_none (Except.ok.inj htarget) x hx)
  exact hkeeps.of_on hall

/-! ### Hooks that lead nowhere -/

theorem unmoved_fire {scene : Scene} {action : Option Action} {hook : Hook} {told : List String}
    (h : (e.fire scene action hook).on p = (.ok (none, told), q)) : p.Unmoved q := by
  obtain ⟨answer, p₁, hask, h⟩ := Turn.on_bind_eq_ok.1 h
  have hasked := (underLooking_unmoved.toUnderDraws.keeps_ask scene action hook).of_on hask
  cases answer with
  | none =>
      cases h
      exact hasked
  | some result =>
      obtain ⟨target, p₂, happlied, h⟩ := Turn.on_bind_eq_ok.1 h
      obtain ⟨overlay, p₃, htold, h⟩ := Turn.on_bind_eq_ok.1 h
      cases h
      exact hasked.trans ((unmoved_applyAll happlied).trans
        ((underLooking_unmoved.keeps_overlay result).of_on htold))

/-- **Hooks that lead nowhere do not move the player**, and what fired before led nowhere either. -/
theorem unmoved_fireAll (hm : e.modules.LeadInto (· ≠ "")) {scene : Scene}
    {action : Option Action} {hooks : List Hook} {target : Option String}
    {told told' : List String}
    (h : (e.fireAll scene action hooks target told).on p = (.ok (none, told'), q)) :
    target = none ∧ p.Unmoved q := by
  induction hooks generalizing p target told with
  | nil =>
      cases h
      exact ⟨rfl, rfl, rfl⟩
  | cons hook rest ih =>
      obtain ⟨⟨next, more⟩, p₁, hfire, h⟩ := Turn.on_bind_eq_ok.1 h
      obtain ⟨hlater, hrest⟩ := ih h
      obtain ⟨rfl, rfl⟩ := laterTarget_eq_none (gives_fire hm scene action hook _ _ _ hfire) hlater
      exact ⟨rfl, (unmoved_fire hfire).trans hrest⟩

/-- **An action that leads nowhere does not move the player.** -/
theorem unmoved_perform (hm : e.modules.LeadInto (· ≠ "")) {scene : Scene} {action : Action}
    (hown : ∀ x ∈ action.effects, ∀ t, x.target? = some t → t ≠ "") {recent : List String}
    (h : (e.perform scene action).on p = (.ok (none, recent), q)) : p.Unmoved q := by
  obtain ⟨own, p₁, happlied, h⟩ := Turn.on_bind_eq_ok.1 h
  obtain ⟨hlater, hfired⟩ := unmoved_fireAll hm h
  obtain ⟨-, rfl⟩ := laterTarget_eq_none (gives_applyAll hown _ _ _ happlied) hlater
  exact (unmoved_applyAll happlied).trans hfired

/-! ### Moves -/

theorem atHome_arrive {scene : Scene} {id : String} (hs : e.scene? id = some scene) (p : Play) :
    (p.arrive scene).AtHome e := by
  intro scene' hs' l hl
  have hplace : e.scene? scene.id = some scene := by rw [id_of_scene? hs, hs]
  obtain rfl : scene = scene' := Option.some.inj (hplace.symm.trans hs')
  rw [Play.currentLocationId_arrive, hl, Option.some_or]

/-- **Entering a scene brings the player to its location**, wherever the player was before. -/
theorem atHome_enterWithin (hm : e.modules.LeadInto (· ≠ "")) {hops : Nat} {chain : List String}
    {id : String} {v : SceneView} (hend : (e.enterWithin hops chain id).on p = (.ok v, q)) :
    q.AtHome e := by
  replace hend := e.entering_of_on hend
  generalize hr : (Except.ok v : Except Fault SceneView) = r at hend
  induction hend with
  | missing => cases hr
  | broken => cases hr
  | stayed hs hv hview =>
      -- the entry rules lead nowhere, so nothing has teleported since the player arrived
      rw [on_visit] at hv
      have hfired := (unmoved_fireAll hm hv).2
      have hseen := (underLooking_unmoved.keeps_view _ _ _).of_on hview
      exact (hfired.trans hseen).atHome (atHome_arrive hs _)
  | looped => cases hr
  | wentOn _ _ _ ih => exact ih hr

/-- The teleports of actions lead somewhere in a sound story. -/
theorem named_targets (hsound : e.story.Sound) {id actionId : String} {scene : Scene}
    {action : Action} (hs : e.scene? id = some scene) (ha : scene.action? actionId = some action) :
    ∀ x ∈ action.effects, ∀ t, x.target? = some t → t ≠ "" := by
  intro x hx t ht
  have htarget : t ∈ e.story.scenes.map (·.id) :=
    hsound.teleports _ (mem_scenes_of_scene? hs) _ (List.mem_of_find?_eq_some ha) x hx t ht
  obtain ⟨s, hmem, rfl⟩ := List.mem_map.1 htarget
  exact hsound.named s hmem

variable (hsound : e.story.Sound) (hm : e.modules.LeadInto (· ≠ ""))

include hm in
theorem atHome_leave {ref : ExitRef} {v : SceneView} (h : (e.leave ref).on p = (.ok v, q)) :
    q.AtHome e := by
  cases e.leaving_of_on h with
  | left _ _ _ _ he => exact atHome_enterWithin hm he

include hsound hm

theorem atHome_act {id : String} {v : SceneView} (hp : p.AtHome e)
    (h : (e.act id).on p = (.ok v, q)) : q.AtHome e := by
  cases e.acting_of_on h with
  | stayed hs ha hc hr hv =>
      have hmet := (underLooking_unmoved.keeps_meets _).of_on hc
      have hdone := unmoved_perform hm (named_targets hsound hs ha) hr
      have hseen := (underLooking_unmoved.keeps_view _ _ _).of_on hv
      have hacted := (Play.unmoved_chooseAction _ _ _).trans (hdone.trans hseen)
      exact (hmet.trans hacted).atHome hp
  | left _ _ _ _ he => exact atHome_enterWithin hm he

/-- **Every view is seen at home.** -/
theorem atHome_of_operation {o : Operation} {t : Turn SceneView} (ho : o.shows e = some t)
    (hp : p.AtHome e) {v : SceneView} (h : t.on p = (.ok v, q)) : q.AtHome e := by
  cases o with
  | enter sceneId => cases ho; exact atHome_enterWithin hm h
  | leave ref => cases ho; exact atHome_leave hm h
  | act actionId => cases ho; exact atHome_act hsound hm hp h
  | look => cases ho; exact (underLooking_unmoved.keeps_look.of_on h).atHome hp
  | carryOut choice =>
      cases ho
      unfold carryOut at h
      split at h
      · exact atHome_act hsound hm hp h
      · exact atHome_leave hm h
      · cases h
  | apply | openSession | register | queue | resolve => cases ho

omit hsound hm

/-! ### Refusals -/

/-- What comes of a move from which a game can go on: a view, or a refusal that is not the fault of
a module. -/
def GoesOn (e : Engine) (res : Except Fault SceneView) : Prop :=
  ∀ f, res = .error f → f.isRefusal = true ∧ ¬ e.modules.Raises f

theorem Refusing.unmoved {m : Move} {f : Fault} (h : e.Refusing p m f q) : p.Unmoved q := by
  cases h with
  | noExit | noAction => exact ⟨rfl, rfl⟩
  | exitClosed _ _ hc | actionClosed _ _ hc => exact (underLooking_unmoved.keeps_meets _).of_on hc

/-- **Whoever is refused has not moved.** -/
theorem unmoved_of_refusal {o : Operation} {t : Turn SceneView} (ho : o.shows e = some t)
    {f : Fault} (hf : f.isRefusal = true) (hown : ¬ e.modules.Raises f)
    (h : t.on p = (.error f, q)) : p.Unmoved q := by
  have hmove {m : Move} (h : (m.turn e).on p = (.error f, q)) : p.Unmoved q :=
    (refusing_of_on hf hown h).unmoved
  cases o with
  | enter sceneId =>
      cases ho
      exact absurd (e.failsOnly_enter_notRefusing sceneId _ _ _ h hf) hown
  | leave ref => cases ho; exact hmove (m := .leave ref) h
  | act actionId => cases ho; exact hmove (m := .act actionId) h
  | look => cases ho; exact underLooking_unmoved.keeps_look.of_on h
  | carryOut choice =>
      cases ho
      unfold carryOut at h
      split at h
      · next id _ => exact hmove (m := .act id) h
      · next label _ _ => exact hmove (m := .leave (.label label)) h
      · cases h
        cases hf
  | apply | openSession | register | queue | resolve => cases ho

/-! ### Games -/

theorem gives_view_locationId (e : Engine) (scene : Scene) (overlays recent : List String) :
    (e.view scene overlays recent).Gives fun v => v.locationId = scene.locationId :=
  (Turn.gives_true _).bind fun _ _ => (Turn.gives_true _).bind fun _ _ =>
    (Turn.gives_true _).bind fun _ _ => Turn.gives_pure rfl

/-- A view is of the scene where the player is, and names its location. -/
def Sees (e : Engine) (v : SceneView) (q : Play) : Prop :=
  ∃ scene, e.scene? q.state.currentSceneId = some scene ∧ v.sceneId = scene.id ∧
    v.locationId = scene.locationId

theorem Shows.sees {v : SceneView} (h : e.Shows v q) : e.Sees v q := by
  obtain ⟨scene, overlays, recent, p₁, q₁, hs, hv, -⟩ := h
  exact ⟨scene, hs, gives_view e _ _ _ _ _ _ hv, gives_view_locationId e _ _ _ _ _ _ hv⟩

theorem Sees.of_unmoved {v : SceneView} (h : e.Sees v p) (hpq : p.Unmoved q) : e.Sees v q := by
  unfold Sees
  rw [hpq.place]
  exact h

include hsound hm in
/-- **At home after every move**: the player is there, and what was seen last is the scene. -/
theorem atHome_onAll {ts : List (Turn SceneView)}
    (hts : ∀ t ∈ ts, ∃ o : Operation, o.shows e = some t) (hp : p.AtHome e)
    {seen : Option SceneView} (hseen : ∀ v, seen = some v → e.Sees v p)
    {rs : List (Except Fault SceneView)} (h : Turn.onAll ts p = (rs, q))
    (hrs : ∀ res ∈ rs, e.GoesOn res) :
    q.AtHome e ∧ ∀ v, (lastSeen rs).or seen = some v → e.Sees v q := by
  induction ts generalizing p seen rs with
  | nil =>
      cases h
      exact ⟨hp, hseen⟩
  | cons t ts ih =>
      obtain ⟨⟨o, ho⟩, hrest⟩ := List.forall_mem_cons.1 hts
      rcases hon : t.on p with ⟨res, p₁⟩
      rcases hall : Turn.onAll ts p₁ with ⟨rs', q'⟩
      rw [Turn.onAll, hon, hall] at h
      cases h
      obtain ⟨hres, hrs'⟩ := List.forall_mem_cons.1 hrs
      cases res with
      | error f =>
          obtain ⟨hf, hown⟩ := hres f rfl
          have hunmoved := unmoved_of_refusal ho hf hown hon
          have hstill : ∀ v, seen = some v → e.Sees v p₁ := fun v hv =>
            (hseen v hv).of_unmoved hunmoved
          rw [lastSeen_error]
          exact ih hrest (hunmoved.atHome hp) hstill hall hrs'
      | ok v =>
          have hhome := atHome_of_operation hsound hm ho hp hon
          have hsees : ∀ v', some v = some v' → e.Sees v' p₁ := by
            rintro _ ⟨⟩
            exact (shows_of_operation ho hon).sees
          have hlast := ih hrest hhome hsees hall hrs'
          rw [lastSeen_ok]
          cases hl : lastSeen rs' <;> simpa [hl] using hlast

theorem after_of_shows {o : Operation} {t : Turn SceneView} (ho : o.shows e = some t) (p : Play) :
    o.after e p = (t.on p).2 := by
  cases o <;> cases ho <;> rfl

/-- A game begins at the location of its start scene. -/
theorem atHome_beginning (e : Engine) (c : Character) (shared : Shared) :
    (e.beginning c shared).AtHome e := by
  intro scene hs l hl
  have hstart : e.scene? e.story.startScene = some scene := hs
  show ((e.scene? e.story.startScene).bind Scene.locationId) = some l
  rw [hstart]
  exact (Option.filter_eq_some_iff.1 hl).1

/-- **The location follows the scene.**  Take a game on a built engine whose modules teleport
nowhere but to scenes with a name, in which the player moves and looks in any way, and nothing worse
happens than that a move is refused.  Then the player is in a scene of the story; if that scene
declares a location, the player is there, and the scene that was seen last is that scene, with that
location.  And whatever location teleports have left behind, when a scene is entered the player is
where the scene that is entered in the end says, unless it declares no location. -/
theorem location_follows_scene {setup : Setup} (hb : (build setup).engine = some e)
    (hm : e.modules.LeadInto (· ≠ "")) (c : Character) (shared : Shared)
    {ts : List (Turn SceneView)} (hts : ∀ t ∈ ts, ∃ o : Operation, o.shows e = some t)
    {rs : List (Except Fault SceneView)}
    (h : Turn.onAll ts (e.beginning c shared) = (rs, q)) (hrs : ∀ res ∈ rs, e.GoesOn res) :
    (∃ scene, e.scene? q.state.currentSceneId = some scene ∧
      (∀ l, scene.location? = some l → q.state.currentLocationId = some l) ∧
      ∀ v, lastSeen rs = some v → v.sceneId = scene.id ∧ v.locationId = scene.locationId) ∧
    ∀ (id : String) (p q : Play) (v : SceneView), (e.enter id).on p = (.ok v, q) →
      ∃ scene, e.scene? q.state.currentSceneId = some scene ∧
        (q.state.currentLocationId = scene.location? ∨ scene.location? = none) := by
  have hsound := sound_of_build hb
  have hstep : ∀ t ∈ ts, ∀ p, e.Reachable c p → e.Reachable c (t.on p).2 := by
    intro t ht p hp
    obtain ⟨o, ho⟩ := hts t ht
    rw [← after_of_shows ho]
    exact hp.after o
  have hreached : e.Reachable c q := by
    have hall := Turn.onAll_invariant hstep (.beginning shared)
    rwa [h] at hall
  have hunseen : ∀ v, (none : Option SceneView) = some v → e.Sees v (e.beginning c shared) :=
    fun _ hv => nomatch hv
  obtain ⟨hhome, hlast⟩ := atHome_onAll hsound hm hts (atHome_beginning e c shared) hunseen h hrs
  obtain ⟨scene, hs⟩ := Option.isSome_iff_exists.1 (hreached.belongs hb).placed
  refine ⟨⟨scene, hs, hhome scene hs, fun v hv => ?_⟩, fun id p₁ q₁ v hv => ?_⟩
  · obtain ⟨scene', hs', hid, hl⟩ := hlast v (by rw [hv, Option.some_or])
    obtain rfl : scene = scene' := Option.some.inj (hs.symm.trans hs')
    exact ⟨hid, hl⟩
  · obtain ⟨scene₁, hs₁, -⟩ := (shows_enterWithin hv).sees
    refine ⟨scene₁, hs₁, ?_⟩
    cases hl : scene₁.location? with
    | none => exact .inr rfl
    | some l => exact .inl (atHome_enterWithin hm hv scene₁ hs₁ l hl)

end Engine

/-! ### A river to cross -/

namespace Ferry

open LanternRoad

/-- A scene of the story with one exit. -/
def shore (id way target : String) (more : List (String × Json)) : Json :=
  .obj (field "id" id :: ("narrative", .obj [field "text" "Water."]) ::
    ("exits", .arr [exit way target []]) :: more)

/-- The story of the ferry as a document.  Whoever takes the ferry or swims is said to be in the
middle of the stream; the river declares no location, and the banks do. -/
def document : Json :=
  entry "story.ferry" "Ferry" [field "version" "1.0.0",
    ("ruleModules", .arr [.obj [field "id" "rules.ferry", field "system" "Custom"]]),
    ("world", .obj [("locations", .arr [])]),
    ("story", .obj [field "startScene" "scene.pier", ("scenes", .arr [
      shore "scene.pier" "Take the ferry" "scene.bank" [field "locationId" "loc.pier",
        ("exitRules", .arr [hook "rules.ferry" "cross" []]),
        ("actions", .arr [action "act.swim" "Swim" [("effects", .arr [
          typed "teleport" [field "targetScene" "scene.bank",
            field "targetLocationId" "loc.midstream"]])]])],
      shore "scene.river" "Land" "scene.bank" [],
      shore "scene.bank" "Walk around" "scene.pier" [field "locationId" "loc.bank"]])])]

theorem loads : (StoryBundle.load (.document document)).toOption.isSome = true := by
  decide +kernel

/-- The module of the ferry, which takes everyone to the middle of the river. -/
def crossing : RuleModule :=
  { sending "rules.ferry" "Custom" "scene.river" with
    resolve := fun _ _ g =>
      (.ok (some ⟨.null, [.teleport "scene.river" (some "loc.midstream")], .null, .null⟩), g) }

def setup : Setup :=
  { Setup.bare ((StoryBundle.load (.document document)).toOption.get loads) with
    modules := [crossing] }

theorem built : (Engine.build setup).engine.isSome = true := by decide +kernel

/-- The engine of the ferry. -/
def engine : Engine := (Engine.build setup).engine.get built

theorem build_eq : (Engine.build setup).engine = some engine := (Option.some_get built).symm

theorem engine_answers (m : RuleModule) (hm : m ∈ engine.modules) (context : HookContext)
    (g : Generator) : (m.resolve m.settings context g).1 =
      .ok (some ⟨.null, [.teleport "scene.river" (some "loc.midstream")], .null, .null⟩) := by
  obtain ⟨o, ho, settings, rfl⟩ := Engine.stemsFrom_of_build build_eq m hm
  rw [List.mem_singleton.1 ho]
  rfl

/-- The module of the ferry never fails. -/
theorem engine_failsOnly (F : Fault → Prop) : engine.modules.FailsOnly F where
  answers m hm c s f hf := by
    obtain ⟨o, ho, settings, rfl⟩ := Engine.stemsFrom_of_build build_eq m hm
    rw [List.mem_singleton.1 ho] at hf
    cases hf
  hooks m hm context g f hf := by
    rw [engine_answers m hm] at hf
    cases hf

/-- A player takes the ferry, tries an exit that is not there, lands, walks around and swims. -/
def moves : List (Turn SceneView) :=
  [engine.enter "scene.pier", engine.leave (.index 0), engine.leave (.index 7),
    engine.leave (.index 0), engine.leave (.index 0), engine.act "act.swim"]

/-- What comes of the first moves of the player, and the play after them. -/
def after (n : Nat) : List (Except Fault SceneView) × Play :=
  Turn.onAll (moves.take n) (engine.beginning traveller alone)

end Ferry

/-- On the river the player is where the teleport of the ferry says, for the river declares no
location.  The same location is lost to who swims to the bank. -/
theorem Engine.location_follows_scene_ferry :
    let e := Ferry.engine
    (∀ n ∈ [3, 6], (∀ res ∈ (Ferry.after n).1, e.GoesOn res) ∧
      ∃ scene, e.scene? (Ferry.after n).2.state.currentSceneId = some scene ∧
        (∀ l, scene.location? = some l →
          (Ferry.after n).2.state.currentLocationId = some l) ∧
        ∀ v, lastSeen (Ferry.after n).1 = some v →
          v.sceneId = scene.id ∧ v.locationId = scene.locationId) ∧
    (Ferry.after 3).2.state.currentSceneId = "scene.river" ∧
    (Ferry.after 3).2.state.currentLocationId = some "loc.midstream" ∧
    (Ferry.after 6).2.state.currentSceneId = "scene.bank" ∧
    (Ferry.after 6).2.state.currentLocationId = some "loc.bank" := by
  intro e
  have hm : e.modules.LeadInto (· ≠ "") := by
    intro m hm context g r hr x hx t ht
    rw [Ferry.engine_answers m hm] at hr
    cases hr
    rw [List.mem_singleton.1 hx] at ht
    cases ht
    decide
  have hts : ∀ t ∈ Ferry.moves, ∃ o : Operation, o.shows e = some t := by
    simp only [Ferry.moves, List.forall_mem_cons]
    exact ⟨⟨.enter _, rfl⟩, ⟨.leave _, rfl⟩, ⟨.leave _, rfl⟩, ⟨.leave _, rfl⟩, ⟨.leave _, rfl⟩,
      ⟨.act _, rfl⟩, fun _ h => nomatch h⟩
  have haccepted : ∀ n ∈ [3, 6], ∀ res ∈ (Ferry.after n).1, Accepted res := by decide +kernel
  refine ⟨fun n hn => ?_, by decide +kernel⟩
  have hgoesOn : ∀ res ∈ (Ferry.after n).1, e.GoesOn res := fun res hres f hf =>
    ⟨haccepted n hn res hres f hf, (Ferry.engine_failsOnly fun _ => False).not_raises id⟩
  exact ⟨hgoesOn, (location_follows_scene Ferry.build_eq hm LanternRoad.traveller LanternRoad.alone
    (fun t ht => hts t (List.mem_of_mem_take ht)) rfl hgoesOn).1⟩

end Storyworld
