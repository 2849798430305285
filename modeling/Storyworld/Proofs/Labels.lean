/-
**Exits that share a label.**

A view shows exits, and a vote names the exit that it is for by its label.  Nothing keeps the exits
of a scene from sharing a label, and a label is looked up before any condition is asked: it leads to
the first exit of the scene that has it, be that one open or not.  An offered exit can thus be named
by its label if the first exit with the label has the same condition and the same target.  If the
first one is not offered, the label is refused, although an exit with the label is shown; and if it
leads elsewhere, then so does the label.

Main definitions:

* `Storyworld.Scene.Leads` — the exit to which a label leads;
* `Storyworld.Engine.goThrough` — leaving a scene through an exit that has been found;
* `Storyworld.Engine.EntersFirst` — the scene that is entered first between two plays.

Main results:

* `Storyworld.Scene.exit?_label_iff` — looking up a label;
* `Storyworld.Engine.on_leave_alike` — ways of naming an exit that come to the same;
* `Storyworld.Engine.labels_lead_to_first` — **what an offered exit comes to that is named by its
  label**;
* `Storyworld.Fork.label_is_refused` — an offered exit that cannot be named by its label.
-/

import Storyworld.Proofs.Offers
import Storyworld.Proofs.Teleports

set_option relaxedAutoImplicit false
set_option autoImplicit false

namespace Storyworld

/-! ### Labels -/

/-- **The exit to which a label leads** in a scene: the first one that has it. -/
def Scene.Leads (scene : Scene) (label : String) (exit : Exit) : Prop :=
  ∃ before after, scene.exits = before ++ exit :: after ∧ exit.label = label ∧
    ∀ x ∈ before, x.label ≠ label

namespace Scene

variable {scene : Scene} {label : String} {exit : Exit}

theorem Leads.mem (h : scene.Leads label exit) : exit ∈ scene.exits := by
  obtain ⟨before, after, hexits, -⟩ := h
  rw [hexits]
  exact List.mem_append_right _ List.mem_cons_self

theorem Leads.label_eq (h : scene.Leads label exit) : exit.label = label := by
  obtain ⟨-, -, -, hlabel, -⟩ := h
  exact hlabel

/-- **Looking up a label** is following it. -/
theorem exit?_label_iff : scene.exit? (.label label) = some exit ↔ scene.Leads label exit := by
  show scene.exits.find? (·.label == label) = some exit ↔ _
  rw [List.find?_eq_some_iff_append]
  constructor
  · rintro ⟨hlabel, before, after, hexits, hbefore⟩
    exact ⟨before, after, hexits, by simpa using hlabel, fun x hx => by simpa using hbefore x hx⟩
  · rintro ⟨before, after, hexits, hlabel, hbefore⟩
    exact ⟨by simpa using hlabel, before, after, hexits, fun x hx => by simpa using hbefore x hx⟩

/-- The label of an exit leads somewhere. -/
theorem exists_leads (hmem : exit ∈ scene.exits) : ∃ first, scene.Leads exit.label first := by
  have hfound : (scene.exits.find? (·.label == exit.label)).isSome := by
    rw [List.find?_isSome]
    exact ⟨exit, hmem, beq_self_eq_true _⟩
  obtain ⟨first, hfirst⟩ := Option.isSome_iff_exists.1 hfound
  exact ⟨first, exit?_label_iff.1 hfirst⟩

end Scene

/-! ### The scene that is entered first -/

namespace Engine

/-- Between two plays the log has grown, and the first scene that has been entered is this one. -/
def EntersFirst (id : String) (p q : Play) : Prop :=
  ∃ added, q.state.history = p.state.history ++ added ∧
    (added.find? fun v => v.kind = .sceneEnter).bind (·.sceneId) = some id

variable {e : Engine} {id id' : String} {p q r : Play}

theorem EntersFirst.unique (h : EntersFirst id p q) (h' : EntersFirst id' p q) : id = id' := by
  obtain ⟨added, hlog, hid⟩ := h
  obtain ⟨added', hlog', hid'⟩ := h'
  obtain rfl := List.append_cancel_left (hlog.symm.trans hlog')
  exact Option.some.inj (hid.symm.trans hid')

theorem EntersFirst.isPrefix (h : EntersFirst id p q) : p.state.history <+: q.state.history := by
  obtain ⟨added, hlog, -⟩ := h
  exact ⟨added, hlog.symm⟩

/-- What comes first does not depend on what follows it. -/
theorem EntersFirst.followed (h : EntersFirst id p q) (hr : q.state.history <+: r.state.history) :
    EntersFirst id p r := by
  obtain ⟨added, hlog, hid⟩ := h
  obtain ⟨more, hmore⟩ := hr
  refine ⟨added ++ more, by rw [← hmore, hlog, List.append_assoc], ?_⟩
  rw [List.find?_append]
  cases hfound : added.find? fun v => v.kind = .sceneEnter with
  | none =>
      rw [hfound] at hid
      cases hid
  | some v =>
      rw [hfound] at hid
      exact hid

/-- Nor does it depend on what enters no scene. -/
theorem EntersFirst.preceded (h : EntersAtMost 0 p q) (hr : EntersFirst id q r) :
    EntersFirst id p r := by
  obtain ⟨before, hbefore, hcount⟩ := h
  obtain ⟨added, hlog, hid⟩ := hr
  refine ⟨before ++ added, by rw [hlog, hbefore, List.append_assoc], ?_⟩
  have hskip : before.find? (fun v => v.kind = .sceneEnter) = none := by
    rw [List.find?_eq_none]
    exact List.countP_eq_zero.1 (Nat.le_zero.1 hcount)
  rw [List.find?_append, hskip, Option.none_or, hid]

theorem entersFirst_visit {scene : Scene} {res : Except Fault (Option String × List String)}
    (hs : e.scene? id = some scene) (hv : (e.visit scene).on p = (res, q)) :
    EntersFirst id p q := by
  rw [on_visit] at hv
  have harrive : EntersFirst id p (p.arrive scene) :=
    ⟨[_], p.arrive_history scene, congrArg some (id_of_scene? hs)⟩
  obtain ⟨-, tail, htail, -⟩ := ((Indoors.underEffects e).keeps_fireAll _ _ _ _ _).of_on hv
  exact harrive.followed ⟨tail, htail.symm⟩

/-- Entering a scene of the story enters that scene first.  On the way a scene may be missing, and
then the log stays as it is. -/
theorem Entering.missing_or_entersFirst {hops : Nat} {chain : List String}
    {res : Except Fault SceneView} (h : e.Entering hops chain id p res q) :
    (e.scene? id = none ∧ q = p) ∨ EntersFirst id p q := by
  induction h with
  | missing hs => exact .inl ⟨hs, rfl⟩
  | broken hs hv => exact .inr (entersFirst_visit hs hv)
  | stayed hs hv hr =>
      obtain ⟨-, tail, htail, -⟩ := ((Indoors.underEffects e).keeps_view _ _ _).of_on hr
      exact .inr ((entersFirst_visit hs hv).followed ⟨tail, htail.symm⟩)
  | looped hs hv => exact .inr ((entersFirst_visit hs hv).followed ⟨[_], rfl⟩)
  | @wentOn _ _ _ _ _ q _ scene _ _ hs hv _ ih =>
      have hleft : (q.state.history <+: (q.depart scene).state.history) := ⟨[_], rfl⟩
      refine .inr (((entersFirst_visit hs hv).followed hleft).followed ?_)
      rcases ih with ⟨-, rfl⟩ | ih
      · exact List.prefix_rfl
      · exact ih.isPrefix

/-! ### Leaving through an exit that has been found -/

/-- **Leaving a scene through an exit** that has been found. -/
def goThrough (e : Engine) (scene : Scene) (exit : Exit) : Turn SceneView := do
  if ← e.meets exit.condition then
    Turn.record .action (some scene.id) none
      (some [("kind", .str "exit"), ("label", .str exit.label)])
    let target ← e.fireSilently scene scene.exitRules none
    depart scene
    e.enter (target.getD exit.targetScene)
  else throw (.exitClosed exit.label)

variable {scene : Scene} {exit exit' : Exit} {ref ref' : ExitRef}

/-- However an exit is named, leaving is going through it. -/
theorem on_leave (hs : e.scene? p.state.currentSceneId = some scene)
    (hx : scene.exit? ref = some exit) : (e.leave ref).on p = (e.goThrough scene exit).on p := by
  have hfound : (requireExit scene ref).on p = (.ok exit, p) := by
    simp only [requireExit, hx, Turn.on_pure]
  rw [leave, Turn.on_bind_ok (Turn.on_state p), Turn.on_bind_ok (on_requireScene_some hs p),
    Turn.on_bind_ok hfound]
  rfl

/-- **Ways of naming an exit that come to the same**: the exits to which they lead have the same
label, the same condition and the same target. -/
theorem on_leave_alike (hs : e.scene? p.state.currentSceneId = some scene)
    (hx : scene.exit? ref = some exit) (hx' : scene.exit? ref' = some exit')
    (hlabel : exit.label = exit'.label) (hcondition : exit.condition = exit'.condition)
    (htarget : exit.targetScene = exit'.targetScene) :
    (e.leave ref).on p = (e.leave ref').on p := by
  rw [on_leave hs hx, on_leave hs hx', goThrough, goThrough, hlabel, hcondition, htarget]

/-- A player who leaves through an open exit of a scene without exit rules enters its target. -/
theorem entersFirst_leave {res : Except Fault SceneView}
    (hs : e.scene? p.state.currentSceneId = some scene) (hx : scene.exit? ref = some exit)
    (hopen : e.opens p exit.condition = true) (hrules : scene.exitRules = [])
    (htarget : (e.scene? exit.targetScene).isSome) (h : (e.leave ref).on p = (res, q)) :
    EntersFirst exit.targetScene p q := by
  unfold opens at hopen
  cases e.leaving_of_on h with
  | lost hs' => cases hs.symm.trans hs'
  | noExit hs' hx' =>
      cases hs.symm.trans hs'
      cases hx.symm.trans hx'
  | undecided hs' hx' hc =>
      cases hs.symm.trans hs'
      cases hx.symm.trans hx'
      rw [hc] at hopen
      cases hopen
  | closed hs' hx' hc =>
      cases hs.symm.trans hs'
      cases hx.symm.trans hx'
      rw [hc] at hopen
      cases hopen
  | broken hs' hx' hc hr =>
      cases hs.symm.trans hs'
      rw [hrules] at hr
      cases hr
  | left hs' hx' hc hr he =>
      cases hs.symm.trans hs'
      cases hx.symm.trans hx'
      rw [hrules] at hr
      cases hr
      have hchosen := (entersAtMost_meets hc).trans (entersAtMost_chooseExit _ scene exit)
      rcases (e.entering_of_on he).missing_or_entersFirst with ⟨hnone, -⟩ | hfirst
      · rw [Option.getD_none] at hnone
        rw [hnone] at htarget
        cases htarget
      · exact hfirst.preceded (hchosen.trans (entersAtMost_depart _ scene))

/-! ### What is offered -/

/-- What is available of a row is part of it. -/
theorem sublist_available {α : Type} {condition : α → Option Condition} {xs ys : List α}
    (h : (e.available condition xs).on p = (.ok ys, q)) : ys.Sublist xs := by
  induction xs generalizing p ys with
  | nil =>
      cases h
      exact .slnil
  | cons x xs ih =>
      obtain ⟨isOpen, p₁, -, h⟩ := Turn.on_bind_eq_ok.1 h
      obtain ⟨zs, p₂, hrest, h⟩ := Turn.on_bind_eq_ok.1 h
      cases h
      cases isOpen with
      | true => exact (ih hrest).cons_cons x
      | false => exact (ih hrest).cons x

/-- The exits that a view offers are exits of the scene. -/
theorem mem_exits_of_view {overlays recent : List String} {v : SceneView}
    (hv : (e.view scene overlays recent).on p = (.ok v, q)) (hx : exit ∈ v.exits) :
    exit ∈ scene.exits := by
  obtain ⟨base, p₁, -, hv⟩ := Turn.on_bind_eq_ok.1 hv
  obtain ⟨exits, p₂, hexits, hv⟩ := Turn.on_bind_eq_ok.1 hv
  obtain ⟨actions, p₃, -, hv⟩ := Turn.on_bind_eq_ok.1 hv
  cases hv
  exact (sublist_available hexits).subset hx

theorem refuses_congr {m n : Move} (h : (m.turn e).on r = (n.turn e).on r) :
    e.refuses m r = e.refuses n r := by
  rw [refuses, refuses, h]

section Offered

variable {v : SceneView} {x first : Exit} {label : String} (hoffers : e.Offers r scene v)
  (hs : e.scene? r.state.currentSceneId = some scene)

include hoffers

/-- An exit is offered just if it is open. -/
theorem Offers.mem_exits_iff (hx : x ∈ scene.exits) :
    x ∈ v.exits ↔ e.opens r x.condition = true := by
  rw [hoffers.exits, List.mem_filter]
  exact ⟨fun h => h.2, fun h => ⟨hx, h⟩⟩

include hs

/-- An exit that is offered is not refused to a player who names the exit itself. -/
theorem Offers.accepts (hm : e.modules.NeverRefuses) (htidy : x.document.Tidy)
    (hmem : x ∈ scene.exits) (hx : x ∈ v.exits) : e.refuses (.leave (.itself x)) r = false := by
  rw [refuses_leave hm hs (exit?_itself hmem htidy) (hoffers.exitsAnswered x hmem),
    (hoffers.mem_exits_iff hmem).1 hx]
  rfl

/-- **A label is refused** just if the first exit that has it is not offered. -/
theorem Offers.refuses_label_iff (hm : e.modules.NeverRefuses) (hfirst : scene.Leads label first) :
    e.refuses (.leave (.label label)) r = true ↔ first ∉ v.exits := by
  rw [refuses_leave hm hs (Scene.exit?_label_iff.2 hfirst) (hoffers.exitsAnswered first hfirst.mem),
    hoffers.mem_exits_iff hfirst.mem, Bool.not_eq_true', Bool.not_eq_true]

/-- Exits that are offered in a scene without exit rules have the same target if it comes to the
same to leave through them. -/
theorem Offers.target_of_same (hsound : e.story.Sound) (hrules : scene.exitRules = [])
    (hexit : scene.exit? ref = some exit) (hexit' : scene.exit? ref' = some exit')
    (hmem : exit ∈ scene.exits) (hmem' : exit' ∈ scene.exits) (hin : exit ∈ v.exits)
    (hin' : exit' ∈ v.exits) (hsame : (e.leave ref).on r = (e.leave ref').on r) :
    exit.targetScene = exit'.targetScene := by
  have hknown (y : Exit) (hy : y ∈ scene.exits) : (e.scene? y.targetScene).isSome :=
    (isSome_scene?_iff e _).2 (hsound.exits scene (mem_scenes_of_scene? hs) y hy)
  rcases hend : (e.leave ref').on r with ⟨res, q⟩
  -- the scene that is entered first tells the target
  have hfirst : EntersFirst exit.targetScene r q :=
    entersFirst_leave hs hexit ((hoffers.mem_exits_iff hmem).1 hin) hrules (hknown exit hmem)
      (hsame.trans hend)
  exact hfirst.unique (entersFirst_leave hs hexit' ((hoffers.mem_exits_iff hmem').1 hin') hrules
    (hknown exit' hmem') hend)

end Offered

/-- **What an offered exit comes to that is named by its label.**  However a view comes about, on an
engine that could be built, each exit that it offers has a label that leads to the first exit of the
scene with the label, and to leave by the label, or to carry out a vote for it, is to leave through
that first exit.  It is to leave through the offered exit if the two have the same condition and the
same target, as they have if no other exit comes before it with its label.  It is refused, although
the offered exit itself is not, just if the first exit is not offered; and in a scene without exit
rules it can come to the same only if the first exit is offered and has the same target. -/
theorem labels_lead_to_first {setup : Setup} (hb : (build setup).engine = some e)
    (hdocs : ∀ s ∈ setup.story.scenes, ∀ x ∈ s.exits, x.document.Tidy) {o : Operation}
    {t : Turn SceneView} (ho : o.shows e = some t) {v : SceneView} (hv : t.on p = (.ok v, q))
    (hstate : r.state = q.state) {x : Exit} (hx : x ∈ v.exits) :
    ∃ scene first, e.scene? r.state.currentSceneId = some scene ∧ scene.Leads x.label first ∧
      (∀ vote : Vote, vote.actionId = none → vote.exitLabel = some x.label →
        (e.carryOut vote).on r = (e.leave (.label x.label)).on r) ∧
      (e.leave (.label x.label)).on r = (e.leave (.itself first)).on r ∧
      (first.condition = x.condition → first.targetScene = x.targetScene →
        (e.leave (.label x.label)).on r = (e.leave (.itself x)).on r) ∧
      (e.modules.Forgetful → e.modules.NeverRefuses →
        e.refuses (.leave (.itself x)) r = false ∧
        (e.refuses (.leave (.label x.label)) r = true ↔ first ∉ v.exits) ∧
        (scene.exitRules = [] →
          (e.leave (.label x.label)).on r = (e.leave (.itself x)).on r →
            first ∈ v.exits ∧ first.targetScene = x.targetScene)) := by
  obtain ⟨scene, overlays, recent, p₁, q₁, hs, hview, hq⟩ := shows_of_operation ho hv
  rw [← hstate] at hs hq
  have hmem : x ∈ scene.exits := mem_exits_of_view hview hx
  have htidy (y : Exit) (hy : y ∈ scene.exits) : y.document.Tidy := by
    have hscene := mem_scenes_of_scene? hs
    obtain ⟨-, rfl⟩ := of_build hb
    exact hdocs scene hscene y hy
  obtain ⟨first, hfirst⟩ := Scene.exists_leads hmem
  have hlabel : scene.exit? (.label x.label) = some first := Scene.exit?_label_iff.2 hfirst
  have hitself := exit?_itself hmem (htidy x hmem)
  have hitself' := exit?_itself hfirst.mem (htidy first hfirst.mem)
  refine ⟨scene, first, hs, hfirst, ?_, on_leave_alike hs hlabel hitself' rfl rfl rfl,
    on_leave_alike hs hlabel hitself hfirst.label_eq, fun hlog hm => ?_⟩
  · rintro ⟨-, -, -, -, -⟩ rfl rfl
    rfl
  have hoffers := offers_of_view (r := r) hlog hview (hq ▸ .refl _)
  have haccepted := hoffers.accepts hs hm (htidy x hmem) hmem hx
  have hrefused := hoffers.refuses_label_iff hs hm hfirst
  refine ⟨haccepted, hrefused, fun hrules hsame => ?_⟩
  have hin : first ∈ v.exits := by
    -- if it were not offered, the label would be refused, and the exit is not
    refine Classical.byContradiction fun hout => ?_
    have hlabelled := hrefused.2 hout
    rw [refuses_congr (m := .leave (.label x.label)) (n := .leave (.itself x)) hsame,
      haccepted] at hlabelled
    cases hlabelled
  exact ⟨hin, hoffers.target_of_same hs (sound_of_build hb) hrules hlabel hitself hfirst.mem hmem
    hin hx hsame⟩

/-- At the gate of the Lantern Road, where one exit is offered. -/
theorem labels_lead_to_first_lanternRoad :
    let e := LanternRoad.engine
    let p := e.beginning LanternRoad.traveller LanternRoad.alone
    ∃ v r x scene first, (e.enter "scene.gate").on p = (.ok v, r) ∧ x ∈ v.exits ∧
      x.label = "Take the road north" ∧ e.scene? r.state.currentSceneId = some scene ∧
      scene.Leads x.label first ∧
      (∀ vote : Vote, vote.actionId = none → vote.exitLabel = some x.label →
        (e.carryOut vote).on r = (e.leave (.label x.label)).on r) ∧
      (e.leave (.label x.label)).on r = (e.leave (.itself first)).on r ∧
      (first.condition = x.condition → first.targetScene = x.targetScene →
        (e.leave (.label x.label)).on r = (e.leave (.itself x)).on r) ∧
      e.refuses (.leave (.itself x)) r = false ∧
      (e.refuses (.leave (.label x.label)) r = true ↔ first ∉ v.exits) := by
  intro e p
  have hlabels : ((e.enter "scene.gate").on p).1.toOption.map (fun v => v.exits.map (·.label)) =
      some ["Take the road north"] := by decide +kernel
  rcases hend : (e.enter "scene.gate").on p with ⟨f | v, r⟩
  · rw [hend] at hlabels
    cases hlabels
  rw [hend] at hlabels
  obtain ⟨x, hexits, hlabel⟩ := List.map_eq_singleton_iff.1 (Option.some.inj hlabels)
  have hx : x ∈ v.exits := by
    rw [hexits]
    exact List.mem_singleton_self x
  have hdocs : ∀ s ∈ (LanternRoad.setup "scene.road").story.scenes, ∀ x ∈ s.exits,
      x.document.isPlain = true := by decide +kernel
  obtain ⟨scene, first, hs, hfirst, hvoted, hsame, halike, hrest⟩ :=
    labels_lead_to_first (o := .enter "scene.gate") (r := r) LanternRoad.build_eq
      (fun s hs x hx => (Json.plain_of_isPlain _ (hdocs s hs x hx)).tidy) rfl hend rfl hx
  obtain ⟨hrefused, hlabelled, -⟩ :=
    hrest LanternRoad.engine_forgetful (LanternRoad.engine_failsOnly _)
  exact ⟨v, r, x, scene, first, rfl, hx, hlabel, hs, hfirst, hvoted, hsame, halike, hrefused,
    hlabelled⟩

end Engine

/-! ### A fork where two exits share a label -/

namespace Fork

open LanternRoad

/-- The story of the fork as a document.  Who has a torch goes on into the cave, and who has none
goes on over the moor. -/
def document : Json :=
  entry "story.fork" "Fork" [field "version" "1.0.0", ("ruleModules", .arr []),
    ("world", .obj [("locations", .arr [])]),
    ("story", .obj [field "startScene" "scene.fork", ("scenes", .arr [
      .obj [field "id" "scene.fork", ("narrative", .obj [field "text" "A fork."]),
        ("exits", .arr [exit "Go on" "scene.cave" [("condition", flag "torch")],
          exit "Go on" "scene.moor" [("condition",
            typed "flag" [field "key" "torch", field "operator" "notEquals"])]])],
      .obj [field "id" "scene.cave", ("narrative", .obj [field "text" "A cave."])],
      .obj [field "id" "scene.moor", ("narrative", .obj [field "text" "A moor."])]])])]

theorem loads : (StoryBundle.load (.document document)).toOption.isSome = true := by
  decide +kernel

def setup : Setup := .bare ((StoryBundle.load (.document document)).toOption.get loads)

theorem built : (Engine.build setup).engine.isSome = true := by decide +kernel

/-- The engine of the fork. -/
def engine : Engine := (Engine.build setup).engine.get built

/-- A new game after the fork has been entered. -/
def arrived : Play :=
  Operation.afterAll engine [.enter "scene.fork"] (engine.beginning traveller alone)

/-- A vote to go on. -/
def goingOn : Vote := ⟨"ann", none, some "Go on", "1970-01-01T00:00:00.000Z", 0⟩

/-- **An offered exit that cannot be named by its label**: one exit is offered, it leads over the
moor, and its label and a vote for it are refused. -/
theorem label_is_refused :
    (Engine.build setup).engine = some engine ∧ engine.Reachable traveller arrived ∧
      ∃ v q x, engine.look.on arrived = (.ok v, q) ∧ v.exits = [x] ∧ x.label = "Go on" ∧
        ((engine.leave (.itself x)).on arrived).1.toOption.map (·.sceneId) = some "scene.moor" ∧
        engine.refuses (.leave (.label x.label)) arrived = true ∧
        ((engine.carryOut goingOn).on arrived).1.toOption.isNone ∧
        (engine.leave (.label x.label)).on arrived ≠ (engine.leave (.itself x)).on arrived := by
  have hseen : (engine.look.on arrived).1.toOption.map (fun v => v.exits.map fun x => (x.label,
      ((engine.leave (.itself x)).on arrived).1.toOption.map (·.sceneId),
        engine.refuses (.leave (.itself x)) arrived)) =
          some [("Go on", some "scene.moor", false)] := by decide +kernel
  have hrefused : engine.refuses (.leave (.label "Go on")) arrived = true := by decide +kernel
  rcases hend : engine.look.on arrived with ⟨f | v, q⟩
  · rw [hend] at hseen
    cases hseen
  rw [hend] at hseen
  obtain ⟨x, hexits, hx⟩ := List.map_eq_singleton_iff.1 (Option.some.inj hseen)
  obtain ⟨hlabel, hx⟩ := Prod.mk.inj hx
  obtain ⟨hmoor, haccepted⟩ := Prod.mk.inj hx
  refine ⟨(Option.some_get built).symm, .afterAll (.beginning alone) _, v, q, x, rfl, hexits,
    hlabel, hmoor, hlabel ▸ hrefused, by decide +kernel, fun hsame => ?_⟩
  rw [← hlabel, Engine.refuses_congr (m := .leave (.label x.label)) (n := .leave (.itself x))
    hsame, haccepted] at hrefused
  cases hrefused

end Fork

end Storyworld
