/-
**What is offered can be chosen, and nothing else.**

A view shows the exits and the actions whose conditions hold.  Later the player names one of them,
which is looked up in another way, and its condition is asked again.  By then the state has changed:
telling the narrative and asking the conditions may have left notes in the log.  Still the answers
agree.  No condition of the engine reads the log, and here the modules are assumed not to read it
either; the ids of the actions of a scene are distinct in every story that is accepted; and an exit
equals itself.

Main definitions:

* `Storyworld.Json.Tidy` — a document in whose tables a name stands once;
* `Storyworld.Registry.Forgetful` — modules whose answers to conditions do not depend on the log;
* `Storyworld.Engine.refuses` — a move is refused.

Main results:

* `Storyworld.Json.same_self` — a tidy document equals itself;
* `Storyworld.Engine.available_eq_filter` — the conditions of a view, asked again later;
* `Storyworld.Engine.shows_of_operation` — every view shows the scene where the player is;
* `Storyworld.Engine.refuses_leave`, `Storyworld.Engine.refuses_act` — when a move is refused;
* `Storyworld.Engine.offers_are_accepted` — **what is offered is what is not refused**.
-/

import Storyworld.Proofs.Journey
import Storyworld.Proofs.Reachable
import Storyworld.Proofs.Saving
import Storyworld.Proofs.Shapes

set_option relaxedAutoImplicit false
set_option autoImplicit false

namespace Storyworld

/-! ### Documents that equal themselves -/

theorem Double.order?_self {x : Double} (h : x.isNaN = false) : x.order? x = some .eq := by
  cases x with
  | nan => cases h
  | infinite negative => simp [order?]
  | negativeZero => simp [order?, toRat?]
  | finite v => simp [order?, toRat?]

theorem Number.same_self (n : Number) : (n.same n || (n.isNaN && n.isNaN)) = true := by
  cases n with
  | int n => simp [same, order?]
  | float x =>
      cases hx : x.isNaN with
      | true => simp [isNaN, hx]
      | false => simp [same, order?, point, Double.order?_self hx]

namespace Json

/-- A document in whose tables a name stands once. -/
inductive Tidy : Json → Prop
  | null : Tidy null
  | bool (b : Bool) : Tidy (bool b)
  | int (n : Int) : Tidy (int n)
  | float (x : Double) : Tidy (float x)
  | str (s : String) : Tidy (str s)
  | arr {items : List Json} (h : ∀ v ∈ items, Tidy v) : Tidy (arr items)
  | obj {fields : List (String × Json)} (hkeys : (fields.map Prod.fst).Nodup)
      (h : ∀ f ∈ fields, Tidy f.2) : Tidy (obj fields)

theorem Plain.tidy {j : Json} (h : j.Plain) : j.Tidy := by
  induction h with
  | null => exact .null
  | bool b => exact .bool b
  | int => exact .int _
  | str s => exact .str s
  | arr _ ih => exact .arr ih
  | obj hkeys _ ih => exact .obj hkeys ih

theorem sameItems_self {items : List Json} (h : ∀ v ∈ items, same v v = true) :
    sameItems items items = true := by
  induction items with
  | nil => rfl
  | cons v items ih =>
      obtain ⟨hv, hitems⟩ := List.forall_mem_cons.1 h
      simp [sameItems, hv, ih hitems]

/-- Fields are found in every table that has them under names of their own. -/
theorem sameFields_of_subset {all fields : List (String × Json)}
    (hkeys : (all.map Prod.fst).Nodup) (hsub : ∀ f ∈ fields, f ∈ all)
    (h : ∀ f ∈ fields, same f.2 f.2 = true) : sameFields fields all = true := by
  induction fields with
  | nil => rfl
  | cons f fields ih =>
      obtain ⟨hf, hfields⟩ := List.forall_mem_cons.1 h
      obtain ⟨hmem, hsub⟩ := List.forall_mem_cons.1 hsub
      simp [sameFields, Schema.get?_of_mem hkeys hmem, hf, ih hsub hfields]

/-- **A tidy document equals itself.** -/
theorem same_self {j : Json} (h : j.Tidy) : same j j = true := by
  induction h with
  | null => rfl
  | bool b => simpa [same, count?] using Number.same_self (.int (if b then 1 else 0))
  | int n => simpa [same, count?] using Number.same_self (.int n)
  | float x => simpa [same, count?] using Number.same_self (.float x)
  | str s => simp [same]
  | arr _ ih => exact sameItems_self ih
  | obj hkeys _ ih => simp [same, sameFields_of_subset hkeys (fun _ hf => hf) ih]

end Json

/-! ### Conditions do not read the log -/

/-- Two states agree in all but their logs. -/
def GameState.SameButLog (s s' : GameState) : Prop := ∃ log, s' = { s with history := log }

namespace GameState.SameButLog

variable {s s' s'' : GameState}

theorem refl (s : GameState) : s.SameButLog s := ⟨s.history, rfl⟩

theorem trans (h : s.SameButLog s') (h' : s'.SameButLog s'') : s.SameButLog s'' := by
  obtain ⟨log, rfl⟩ := h
  obtain ⟨log', rfl⟩ := h'
  exact ⟨log', rfl⟩

theorem symm (h : s.SameButLog s') : s'.SameButLog s := by
  obtain ⟨log, rfl⟩ := h
  exact ⟨s.history, rfl⟩

end GameState.SameButLog

/-- **Looking at a play changes its state in nothing but the log.** -/
theorem underLooking_sameButLog :
    UnderLooking fun p q => p.state.SameButLog q.state where
  refl p := .refl p.state
  trans _ _ _ := .trans
  drawn p _ := .refl p.state
  warned p _ := .refl p.state
  noted _ _ := ⟨_, rfl⟩

/-- The answers of modules to conditions do not depend on the log. -/
def Registry.Forgetful (ms : Registry) : Prop :=
  ∀ m ∈ ms, ∀ c s log, m.answer m.settings c { s with history := log } = m.answer m.settings c s

theorem Registry.Forgetful.answer {ms : Registry} (h : ms.Forgetful) (c : Condition)
    {s s' : GameState} (hs : s.SameButLog s') : ms.answer c s' = ms.answer c s := by
  obtain ⟨log, rfl⟩ := hs
  induction ms with
  | nil => rfl
  | cons m ms ih =>
      obtain ⟨hm, hms⟩ := List.forall_mem_cons.1 h
      simp only [Registry.answer, hm c s log, ih hms]

namespace Engine

variable {e : Engine} {p q r : Play}

theorem consult_sameButLog (h : e.modules.Forgetful) (c : Condition) {s s' : GameState}
    (hs : s.SameButLog s') : e.consult c s' = e.consult c s := by
  rw [consult, consult, h.answer c hs]

theorem on_holds_sameButLog (h : e.modules.Forgetful) (c : Condition)
    (hs : p.state.SameButLog q.state) : ((e.holds c).on q).1 = ((e.holds c).on p).1 := by
  have hconsult := e.consult_sameButLog h c hs
  obtain ⟨log, hlog⟩ := id hs
  unfold holds
  rw [Turn.on_bind_ok (Turn.on_state q), Turn.on_bind_ok (Turn.on_state p)]
  cases c with
  | flag key operator value | stat key operator value | inventory itemId operator value
  | lore key operator value => rw [hlog]; rfl
  | custom type fields =>
      dsimp only
      rw [hconsult, Turn.on_ofExcept, Turn.on_ofExcept]
  | expression text =>
      have hscope : q.state.scope = p.state.scope := by rw [hlog]; rfl
      dsimp only
      rw [hscope]
      split
      · rfl
      · rfl
      · next f _ =>
        have hnoted (p : Play) : e.consult (.expression text) (p.noteFault text f).state =
            e.consult (.expression text) p.state := e.consult_sameButLog h _ ⟨_, rfl⟩
        rw [on_consult_noted, on_consult_noted, hnoted q, hnoted p, hconsult]

/-- **A condition is answered in the same way whatever the log.** -/
theorem on_meets_sameButLog (h : e.modules.Forgetful) (c : Option Condition)
    (hs : p.state.SameButLog q.state) : ((e.meets c).on q).1 = ((e.meets c).on p).1 := by
  cases c with
  | none => rfl
  | some c => exact on_holds_sameButLog h c hs

/-- A condition is met in a play. -/
def opens (e : Engine) (p : Play) (c : Option Condition) : Bool :=
  match ((e.meets c).on p).1 with
  | .ok b => b
  | .error _ => false

/-- **The conditions of a row, asked again later**: they are answered, and those that held hold. -/
theorem available_eq_filter {α : Type} (h : e.modules.Forgetful) {condition : α → Option Condition}
    {xs ys : List α} (ha : (e.available condition xs).on p = (.ok ys, q))
    (hs : p.state.SameButLog r.state) :
    ys = xs.filter (fun x => e.opens r (condition x)) ∧
      ∀ x ∈ xs, ((e.meets (condition x)).on r).1 = .ok (e.opens r (condition x)) := by
  induction xs generalizing p q ys with
  | nil =>
      cases ha
      exact ⟨rfl, fun _ hx => nomatch hx⟩
  | cons x xs ih =>
      obtain ⟨isOpen, p₁, hmet, ha⟩ := Turn.on_bind_eq_ok.1 ha
      obtain ⟨zs, p₂, hrest, ha⟩ := Turn.on_bind_eq_ok.1 ha
      cases ha
      have hagain := on_meets_sameButLog h (condition x) hs
      rw [hmet] at hagain
      have hopens : e.opens r (condition x) = isOpen := by rw [opens, hagain]
      have hp₁ := (underLooking_sameButLog.keeps_meets (condition x)).of_on hmet
      obtain ⟨rfl, hall⟩ := ih hrest (hp₁.symm.trans hs)
      refine ⟨?_, List.forall_mem_cons.2 ⟨by rw [hagain, hopens], hall⟩⟩
      rw [List.filter_cons, hopens]

/-! ### Views -/

/-- What a view of a scene offers, told by conditions that are asked from a play: they are answered,
and what is offered is that for which they hold. -/
structure Offers (e : Engine) (r : Play) (scene : Scene) (v : SceneView) : Prop where
  sceneId : v.sceneId = scene.id
  exits : v.exits = scene.exits.filter fun x => e.opens r x.condition
  actions : v.actions = scene.actions.filter fun a => e.opens r a.condition
  exitsAnswered : ∀ x ∈ scene.exits, ((e.meets x.condition).on r).1 = .ok (e.opens r x.condition)
  actionsAnswered : ∀ a ∈ scene.actions,
    ((e.meets a.condition).on r).1 = .ok (e.opens r a.condition)

/-- **What a view offers**, when the conditions are asked after it. -/
theorem offers_of_view (h : e.modules.Forgetful) {scene : Scene} {overlays recent : List String}
    {v : SceneView} (hv : (e.view scene overlays recent).on p = (.ok v, q))
    (hs : q.state.SameButLog r.state) : e.Offers r scene v := by
  obtain ⟨base, p₁, -, hv⟩ := Turn.on_bind_eq_ok.1 hv
  obtain ⟨exits, p₂, hexits, hv⟩ := Turn.on_bind_eq_ok.1 hv
  obtain ⟨actions, p₃, hactions, hv⟩ := Turn.on_bind_eq_ok.1 hv
  cases hv
  have h₂ := (underLooking_sameButLog.keeps_available _ _).of_on hactions
  have h₁ := (underLooking_sameButLog.keeps_available _ _).of_on hexits
  obtain ⟨heq, hall⟩ := available_eq_filter h hexits (h₁.trans (h₂.trans hs))
  obtain ⟨heq', hall'⟩ := available_eq_filter h hactions (h₂.trans hs)
  exact ⟨rfl, heq, heq', hall, hall'⟩

/-- A view that shows the scene where the player is. -/
def Shows (e : Engine) (v : SceneView) (q : Play) : Prop :=
  ∃ scene overlays recent p₁ q₁, e.scene? q.state.currentSceneId = some scene ∧
    (e.view scene overlays recent).on p₁ = (.ok v, q₁) ∧ q.state = q₁.state

theorem shows_view {scene : Scene} {overlays recent : List String} {v : SceneView}
    (hs : e.scene? p.state.currentSceneId = some scene)
    (hv : (e.view scene overlays recent).on p = (.ok v, q)) : e.Shows v q := by
  have hplace := (((Indoors.underEffects e).keeps_view _ _ _).of_on hv).place
  exact ⟨scene, overlays, recent, p, q, by rw [hplace, hs], hv, rfl⟩

theorem shows_enterWithin {hops : Nat} {chain : List String} {id : String} {v : SceneView}
    (hend : (e.enterWithin hops chain id).on p = (.ok v, q)) : e.Shows v q := by
  replace hend := e.entering_of_on hend
  generalize hr : (Except.ok v : Except Fault SceneView) = r at hend
  induction hend with
  | missing => cases hr
  | broken => cases hr
  | stayed hs hv hview =>
      subst hr
      rw [on_visit] at hv
      have hplace := (((Indoors.underEffects e).keeps_fireAll _ _ _ _ _).of_on hv).place
      refine shows_view ?_ hview
      rw [hplace]
      exact (congrArg e.scene? (id_of_scene? hs)).trans hs
  | looped => cases hr
  | wentOn _ _ _ ih => exact ih hr

theorem shows_leave {ref : ExitRef} {v : SceneView} (h : (e.leave ref).on p = (.ok v, q)) :
    e.Shows v q := by
  cases e.leaving_of_on h with
  | left _ _ _ _ he => exact shows_enterWithin he

theorem shows_act {id : String} {v : SceneView} (h : (e.act id).on p = (.ok v, q)) :
    e.Shows v q := by
  cases e.acting_of_on h with
  | stayed hs _ hc hr hv =>
      have hmet := (((Indoors.underEffects e).keeps_meets _).of_on hc).place
      have hdone := (((Indoors.underEffects e).keeps_perform _ _).of_on hr).place
      refine shows_view ?_ hv
      rw [hdone]
      exact (congrArg e.scene? hmet).trans hs
  | left _ _ _ _ he => exact shows_enterWithin he

/-- Looking gives the generator back, but the state is that after the view. -/
theorem shows_look {v : SceneView} (h : e.look.on p = (.ok v, q)) : e.Shows v q := by
  obtain ⟨s, p₁, hstate, h⟩ := Turn.on_bind_eq_ok.1 h
  cases hstate
  obtain ⟨scene, p₂, hscene, h⟩ := Turn.on_bind_eq_ok.1 h
  cases hs : e.scene? p.state.currentSceneId with
  | none =>
      rw [on_requireScene_none hs] at hscene
      cases hscene
  | some scene' =>
      rw [on_requireScene_some hs] at hscene
      cases hscene
      rw [Turn.on_withCopy] at h
      rcases hv : (e.view scene [] []).on p with ⟨f | v', q₁⟩
      · rw [hv] at h
        cases h
      · rw [hv] at h
        cases h
        have hplace := (((Indoors.underEffects e).keeps_view _ _ _).of_on hv).place
        exact ⟨scene, [], [], p, q₁, (congrArg e.scene? hplace).trans hs, hv, rfl⟩

theorem shows_carryOut {choice : Vote} {v : SceneView}
    (h : (e.carryOut choice).on p = (.ok v, q)) : e.Shows v q := by
  unfold carryOut at h
  split at h
  · exact shows_act h
  · exact shows_leave h
  · cases h

/-- **Every view shows the scene where the player is.** -/
theorem shows_of_operation {o : Operation} {t : Turn SceneView} (ho : o.shows e = some t)
    {v : SceneView} (h : t.on p = (.ok v, q)) : e.Shows v q := by
  cases o with
  | enter sceneId => cases ho; exact shows_enterWithin h
  | leave ref => cases ho; exact shows_leave h
  | act actionId => cases ho; exact shows_act h
  | look => cases ho; exact shows_look h
  | carryOut choice => cases ho; exact shows_carryOut h
  | apply | openSession | register | queue | resolve => cases ho

/-! ### Refusals -/

/-- Whether what comes of a move is that it is refused: what it names is not there or not open. -/
def isRefused : Except Fault SceneView → Bool
  | .ok _ => false
  | .error f => f.isRefusal

/-- Whether a move is refused in a play. -/
def refuses (e : Engine) (m : Move) (p : Play) : Bool := isRefused ((m.turn e).on p).1

theorem refuses_of_on {m : Move} {res : Except Fault SceneView} (h : (m.turn e).on p = (res, q)) :
    e.refuses m p = isRefused res := by
  rw [refuses, h]

end Engine

namespace Engine

variable {e : Engine} {p q r : Play}

theorem isRefused_of_failsOnly {t : Turn SceneView} (ht : t.FailsOnly fun f => f.isRefusal = false)
    {res : Except Fault SceneView} (h : t.on p = (res, q)) : isRefused res = false := by
  cases res with
  | ok v => rfl
  | error f => exact ht p q f h

theorem failsOnly_enter_of_neverRefuses (hm : e.modules.NeverRefuses) (id : String) :
    (e.enter id).FailsOnly fun f => f.isRefusal = false :=
  failsOnly_enterWithin ofValues_notRefused hm (fun _ _ => rfl) (fun _ => rfl) _ _ _

/-- **When leaving through an exit is refused**: when the condition of the exit does not hold. -/
theorem refuses_leave (hm : e.modules.NeverRefuses) {scene : Scene} {ref : ExitRef} {exit : Exit}
    (hs : e.scene? r.state.currentSceneId = some scene) (hx : scene.exit? ref = some exit)
    (ha : ((e.meets exit.condition).on r).1 = .ok (e.opens r exit.condition)) :
    e.refuses (.leave ref) r = !e.opens r exit.condition := by
  rcases hend : (e.leave ref).on r with ⟨res, q⟩
  rw [refuses_of_on (m := .leave ref) hend]
  cases e.leaving_of_on hend with
  | lost hs' => rw [hs'] at hs; cases hs
  | noExit hs' hx' =>
      cases hs.symm.trans hs'
      rw [hx] at hx'
      cases hx'
  | undecided hs' hx' hc =>
      cases hs.symm.trans hs'
      cases hx.symm.trans hx'
      rw [hc] at ha
      cases ha
  | closed hs' hx' hc =>
      cases hs.symm.trans hs'
      cases hx.symm.trans hx'
      rw [opens, hc]
      rfl
  | broken hs' hx' hc hr =>
      cases hs.symm.trans hs'
      cases hx.symm.trans hx'
      rw [opens, hc]
      exact failsOnly_fireSilently ofValues_notRefused hm _ _ _ _ _ _ hr
  | left hs' hx' hc _ he =>
      cases hs.symm.trans hs'
      cases hx.symm.trans hx'
      rw [opens, hc]
      exact isRefused_of_failsOnly (failsOnly_enter_of_neverRefuses hm _) he

/-- **When an action is refused**: when its condition does not hold. -/
theorem refuses_act (hm : e.modules.NeverRefuses) {scene : Scene} {id : String} {action : Action}
    (hs : e.scene? r.state.currentSceneId = some scene) (hx : scene.action? id = some action)
    (ha : ((e.meets action.condition).on r).1 = .ok (e.opens r action.condition)) :
    e.refuses (.act id) r = !e.opens r action.condition := by
  rcases hend : (e.act id).on r with ⟨res, q⟩
  rw [refuses_of_on (m := .act id) hend]
  cases e.acting_of_on hend with
  | lost hs' => rw [hs'] at hs; cases hs
  | noAction hs' hx' =>
      cases hs.symm.trans hs'
      rw [hx] at hx'
      cases hx'
  | undecided hs' hx' hc =>
      cases hs.symm.trans hs'
      cases hx.symm.trans hx'
      rw [hc] at ha
      cases ha
  | closed hs' hx' hc =>
      cases hs.symm.trans hs'
      cases hx.symm.trans hx'
      rw [opens, hc]
      rfl
  | broken hs' hx' hc hr =>
      cases hs.symm.trans hs'
      cases hx.symm.trans hx'
      rw [opens, hc]
      exact failsOnly_perform ofValues_notRefused hm _ _ _ _ _ hr
  | stayed hs' hx' hc _ hv =>
      cases hs.symm.trans hs'
      cases hx.symm.trans hx'
      rw [opens, hc]
      exact isRefused_of_failsOnly (failsOnly_view ofValues_notRefused hm _ _ _) hv
  | left hs' hx' hc _ he =>
      cases hs.symm.trans hs'
      cases hx.symm.trans hx'
      rw [opens, hc]
      exact isRefused_of_failsOnly (failsOnly_enter_of_neverRefuses hm _) he

/-! ### Names of exits and actions -/

theorem exit?_itself {scene : Scene} {exit : Exit} (hmem : exit ∈ scene.exits)
    (htidy : exit.document.Tidy) : scene.exit? (.itself exit) = some exit := by
  have hany : scene.exits.any (fun x => x.document.same exit.document) = true :=
    List.any_eq_true.2 ⟨exit, hmem, Json.same_self htidy⟩
  simp only [Scene.exit?, hany, if_true]

theorem exit?_index {scene : Scene} {exit : Exit} {i : Nat}
    (h : scene.exits[i]? = some exit) : scene.exit? (.index i) = some exit := by
  have hnonneg : ¬((i : Int) < 0) := by omega
  simp only [Scene.exit?, hnonneg, if_false, Int.toNat_natCast, h]

theorem find?_of_nodup {α : Type} {name : α → String} {xs : List α} (h : (xs.map name).Nodup)
    {x : α} (hx : x ∈ xs) : xs.find? (name · == name x) = some x := by
  induction xs with
  | nil => cases hx
  | cons y xs ih =>
      rw [List.map_cons, List.nodup_cons] at h
      rcases List.mem_cons.1 hx with rfl | hx
      · simp
      · have hne : name y ≠ name x := fun heq => h.1 (heq ▸ List.mem_map_of_mem hx)
        simp [hne, ih h.2 hx]

/-- An id that no other action of the scene has leads to its action. -/
theorem action?_of_mem {scene : Scene} (hids : (scene.actions.map (·.id)).Nodup) {action : Action}
    (hmem : action ∈ scene.actions) : scene.action? action.id = some action :=
  find?_of_nodup hids hmem

theorem filter_eq_map_zipIdx {α : Type} (xs : List α) (b : α → Bool) :
    xs.filter b = (xs.zipIdx.filter fun x => b x.1).map Prod.fst := by
  have hmap : xs.zipIdx.map Prod.fst = xs := List.zipIdx_map_fst 0 xs
  conv => lhs; rw [← hmap]
  exact List.filter_map

/-- **What is offered is what is not refused.**  However a view comes about, on an engine that could
be built, it shows the scene where the player is.  It offers, in the order of the scene, just those
exits that are not refused to a player who leaves by their index, or by the exit itself, and just
those actions that are not refused. -/
theorem offers_are_accepted {setup : Setup} (hb : (build setup).engine = some e)
    (hdocs : ∀ s ∈ setup.story.scenes, ∀ x ∈ s.exits, x.document.Tidy)
    (hlog : e.modules.Forgetful) (hm : e.modules.NeverRefuses) {o : Operation} {t : Turn SceneView}
    (ho : o.shows e = some t) {v : SceneView} (hv : t.on p = (.ok v, q))
    (hstate : r.state = q.state) :
    ∃ scene, e.scene? r.state.currentSceneId = some scene ∧ v.sceneId = scene.id ∧
      v.exits = (scene.exits.zipIdx.filter fun x => !e.refuses (.leave (.index x.2)) r).map Prod.fst ∧
      v.exits = scene.exits.filter (fun x => !e.refuses (.leave (.itself x)) r) ∧
      v.actions = scene.actions.filter fun a => !e.refuses (.act a.id) r := by
  obtain ⟨scene, overlays, recent, p₁, q₁, hs, hview, hq⟩ := shows_of_operation ho hv
  rw [← hstate] at hs hq
  have hoffers := offers_of_view (r := r) hlog hview (hq ▸ .refl _)
  have hmem := mem_scenes_of_scene? hs
  obtain ⟨hcheck, rfl⟩ := of_build hb
  have hids := ((StoryBundle.hasError_check.1 hcheck).scenes _ hmem).actionIds
  refine ⟨scene, hs, hoffers.sceneId, ?_, ?_, ?_⟩
  · rw [hoffers.exits, filter_eq_map_zipIdx]
    refine congrArg _ (List.filter_congr fun x hx => ?_)
    have hi : scene.exits[x.2]? = some x.1 := List.mk_mem_zipIdx_iff_getElem?.1 hx
    have hopen := hoffers.exitsAnswered x.1 (List.mem_of_getElem? hi)
    rw [refuses_leave hm hs (exit?_index hi) hopen, Bool.not_not]
  · rw [hoffers.exits]
    refine List.filter_congr fun x hx => ?_
    rw [refuses_leave hm hs (exit?_itself hx (hdocs scene hmem x hx)) (hoffers.exitsAnswered x hx)]
    rw [Bool.not_not]
  · rw [hoffers.actions]
    refine List.filter_congr fun a ha => ?_
    rw [refuses_act hm hs (action?_of_mem hids ha) (hoffers.actionsAnswered a ha), Bool.not_not]

end Engine

namespace LanternRoad

theorem engine_forgetful : engine.modules.Forgetful := by
  intro m hm c s log
  obtain ⟨o, ho, settings, rfl⟩ := Engine.stemsFrom_of_build build_eq m hm
  simp only [setup, List.mem_cons, List.not_mem_nil, or_false] at ho
  rcases ho with rfl | rfl | rfl <;> rfl

end LanternRoad

namespace Engine

/-- The gate of the Lantern Road, where the way into the chapel is not open yet. -/
theorem offers_are_accepted_lanternRoad :
    let e := LanternRoad.engine
    let p := e.beginning LanternRoad.traveller LanternRoad.alone
    ∃ v q scene, (e.enter "scene.gate").on p = (.ok v, q) ∧
      v.exits.map (·.label) = ["Take the road north"] ∧
      e.scene? q.state.currentSceneId = some scene ∧ v.sceneId = scene.id ∧
      v.exits = (scene.exits.zipIdx.filter fun x => !e.refuses (.leave (.index x.2)) q).map Prod.fst ∧
      v.exits = scene.exits.filter (fun x => !e.refuses (.leave (.itself x)) q) ∧
      v.actions = scene.actions.filter fun a => !e.refuses (.act a.id) q := by
  intro e p
  have hlabels : ((e.enter "scene.gate").on p).1.toOption.map (fun v => v.exits.map (·.label)) =
      some ["Take the road north"] := by decide +kernel
  rcases hend : (e.enter "scene.gate").on p with ⟨f | v, q⟩
  · rw [hend] at hlabels
    cases hlabels
  · rw [hend] at hlabels
    have hdocs : ∀ s ∈ (LanternRoad.setup "scene.road").story.scenes, ∀ x ∈ s.exits,
        x.document.isPlain = true := by decide +kernel
    obtain ⟨scene, hscene⟩ := offers_are_accepted (o := .enter "scene.gate") (r := q)
      LanternRoad.build_eq (fun s hs x hx => (Json.plain_of_isPlain _ (hdocs s hs x hx)).tidy)
      LanternRoad.engine_forgetful (LanternRoad.engine_failsOnly _) rfl hend rfl
    exact ⟨v, q, scene, rfl, Option.some.inj hlabels, hscene⟩

end Engine

end Storyworld
