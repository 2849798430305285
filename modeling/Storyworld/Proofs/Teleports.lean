/-
**Chains of teleports.**

What it means to enter a scene is said without any limit: the player is put into the scene, its
entry rules fire in order and their effects are applied, and if they leave a target, the player
leaves the scene, whose overlays are lost, and enters the target in the same way.  Whether this
comes to an end depends on the modules and on the story.  The engine follows the chain for so many
hops and no more; here it is shown to do the same as the definition without a limit whenever that
ends in time, and to end in the one fault that is for it when one hop too many is asked for.

Main definitions:

* `Storyworld.Fault.endsEntering` — the faults in which entering itself ends;
* `Storyworld.Engine.Enters` — **entering a scene, with no limit on the hops**;
* `Storyworld.Engine.Teleports` — hops that are asked for one after the other.

Main results:

* `Storyworld.Engine.enterWithin_of_enters`, `Storyworld.Engine.enterWithin_of_teleports` — what the
  engine does within the limit and beyond it;
* `Storyworld.Engine.enters_or_teleports` — there is no third case;
* `Storyworld.Engine.enter_refines` — **entering with a limit and without one**.
-/

import Storyworld.Proofs.Checked
import Storyworld.Proofs.Frame
import Storyworld.Proofs.Hooks
import Storyworld.Proofs.Playthrough

set_option relaxedAutoImplicit false
set_option autoImplicit false

namespace Storyworld

/-- Whether entering itself ends in such a fault: a scene is missed, or a chain is too long. -/
def Fault.endsEntering : Fault → Bool
  | sceneNotFound _ => true
  | teleportLoop _ _ => true
  | _ => false

theorem ofValues_notEntering : OfValues fun f => f.endsEntering = false := by
  intro f hf
  cases f <;> first | rfl | cases hf

namespace Engine

variable {e : Engine}

/-! ### Entering without a limit -/

/-- **Entering a scene, with no limit on the hops.**  `Enters e id p hops r q` says that in the play
`p` the scene `id` is entered, that this leads over the hops to the scenes `hops`, and that it comes
to `r` with the play `q`. -/
inductive Enters (e : Engine) : String → Play → List String → Except Fault SceneView → Play → Prop
  /-- there is no such scene -/
  | missing {id : String} {p : Play} (hs : e.scene? id = none) :
      Enters e id p [] (.error (.sceneNotFound id)) p
  /-- the entry rules end in a fault -/
  | broken {id : String} {p q : Play} {scene : Scene} {f : Fault} (hs : e.scene? id = some scene)
      (hv : (e.visit scene).on p = (.error f, q)) : Enters e id p [] (.error f) q
  /-- the entry rules leave no target, and the scene is seen -/
  | stayed {id : String} {p q q' : Play} {scene : Scene} {overlays : List String}
      {r : Except Fault SceneView} (hs : e.scene? id = some scene)
      (hv : (e.visit scene).on p = (.ok (none, overlays), q))
      (hr : (e.view scene overlays []).on q = (r, q')) : Enters e id p [] r q'
  /-- the entry rules leave a target, which is entered in the same way -/
  | wentOn {id next : String} {p q q' : Play} {scene : Scene} {overlays hops : List String}
      {r : Except Fault SceneView} (hs : e.scene? id = some scene)
      (hv : (e.visit scene).on p = (.ok (some next, overlays), q))
      (hr : Enters e next (q.depart scene) hops r q') : Enters e id p (next :: hops) r q'

/-- Hops that are asked for one after the other when a scene is entered: `Teleports e id p hops q`
says that after the hops to the scenes `hops` but for the last, the last is asked for as well. -/
inductive Teleports (e : Engine) : String → Play → List String → Play → Prop
  | done {id : String} {p : Play} : Teleports e id p [] p
  | hop {id next : String} {p q q' : Play} {scene : Scene} {overlays hops : List String}
      (hs : e.scene? id = some scene) (hv : (e.visit scene).on p = (.ok (some next, overlays), q))
      (hr : Teleports e next (q.depart scene) hops q') : Teleports e id p (next :: hops) q'

/-! ### Within the limit and beyond -/

/-- **Within the limit the engine does the same as without a limit.** -/
theorem enterWithin_of_enters {id : String} {p q : Play} {hops : List String}
    {r : Except Fault SceneView} (h : e.Enters id p hops r q) {limit : Nat}
    (hlimit : hops.length ≤ limit) (chain : List String) :
    (e.enterWithin limit chain id).on p = (r, q) := by
  induction h generalizing limit chain with
  | missing hs =>
      rw [enterWithin_eq, Turn.on_bind_error (on_requireScene_none hs _)]
  | broken hs hv =>
      rw [enterWithin_eq, Turn.on_bind_ok (on_requireScene_some hs _), Turn.on_bind_error hv]
  | stayed hs hv hr =>
      rw [enterWithin_eq, Turn.on_bind_ok (on_requireScene_some hs _), Turn.on_bind_ok hv]
      exact hr
  | wentOn hs hv _ ih =>
      obtain ⟨n, rfl⟩ := Nat.exists_eq_add_one_of_ne_zero (Nat.ne_zero_of_lt hlimit)
      rw [enterWithin_eq, Turn.on_bind_ok (on_requireScene_some hs _), Turn.on_bind_ok hv]
      dsimp only
      rw [Turn.on_bind_ok (on_depart _ _)]
      exact ih (Nat.le_of_succ_le_succ hlimit) _

/-- **Beyond the limit the engine ends in the fault that is for it**, with the whole chain. -/
theorem enterWithin_of_teleports {id : String} {p q : Play} {hops : List String}
    (h : e.Teleports id p hops q) {limit : Nat} (hlimit : hops.length = limit + 1)
    (chain : List String) : (e.enterWithin limit chain id).on p =
      (.error (.teleportLoop (chain ++ hops) e.maxHops), q) := by
  induction h generalizing limit chain with
  | done => cases hlimit
  | hop hs hv hr ih =>
      rw [enterWithin_eq, Turn.on_bind_ok (on_requireScene_some hs _), Turn.on_bind_ok hv]
      dsimp only
      rw [Turn.on_bind_ok (on_depart _ _)]
      cases limit with
      | zero =>
          cases hr with
          | done => rfl
          | hop => cases hlimit
      | succ n =>
          refine (ih (Nat.succ.inj hlimit) _).trans ?_
          rw [List.append_assoc]
          rfl

/-- **There is no third case**: without a limit entering ends within so many hops, or one more is
asked for. -/
theorem enters_or_teleports (e : Engine) (limit : Nat) (id : String) (p : Play) :
    (∃ hops r q, hops.length ≤ limit ∧ e.Enters id p hops r q) ∨
      ∃ hops q, hops.length = limit + 1 ∧ e.Teleports id p hops q := by
  rcases hend : (e.enterWithin limit [id] id).on p with ⟨r, q⟩
  replace hend := e.entering_of_on hend
  -- which chain a fault would name does not matter here
  generalize [id] = chain at hend
  induction hend with
  | missing hs => exact .inl ⟨[], _, _, Nat.zero_le _, .missing hs⟩
  | broken hs hv => exact .inl ⟨[], _, _, Nat.zero_le _, .broken hs hv⟩
  | stayed hs hv hr => exact .inl ⟨[], _, _, Nat.zero_le _, .stayed hs hv hr⟩
  | looped hs hv => exact .inr ⟨[_], _, rfl, .hop hs hv .done⟩
  | wentOn hs hv _ ih =>
      rcases ih with ⟨hops, r, q, hle, hrest⟩ | ⟨hops, q, heq, hrest⟩
      · exact .inl ⟨_ :: hops, r, q, Nat.succ_le_succ hle, .wentOn hs hv hrest⟩
      · exact .inr ⟨_ :: hops, q, congrArg Nat.succ heq, .hop hs hv hrest⟩

/-! ### Faults -/

/-- Where the modules do not pose as the engine, the only fault of its own in which entering can end
without a limit is that the last scene is missed. -/
theorem Enters.fault (hm : e.modules.FailsOnly fun f => f.endsEntering = false) {id : String}
    {p q : Play} {hops : List String} {f : Fault} (h : e.Enters id p hops (.error f) q) :
    f.endsEntering = false ∨
      ∃ x, f = .sceneNotFound x ∧ e.Teleports id p hops q ∧ (id :: hops).getLast? = some x ∧
        e.scene? x = none := by
  generalize hr : (Except.error f : Except Fault SceneView) = r at h
  induction h with
  | missing hs =>
      cases hr
      exact .inr ⟨_, rfl, .done, rfl, hs⟩
  | broken hs hv =>
      cases hr
      exact .inl (failsOnly_visit ofValues_notEntering hm _ _ _ _ hv)
  | stayed hs hv hview =>
      subst hr
      exact .inl (failsOnly_view ofValues_notEntering hm _ _ _ _ _ _ hview)
  | wentOn hs hv _ ih =>
      rcases ih hr with hf | ⟨x, hf, htel, hlast, hx⟩
      · exact .inl hf
      · exact .inr ⟨x, hf, .hop hs hv htel, by rw [List.getLast?_cons_cons, hlast], hx⟩

/-- A hop to no scene ends in the fault that says so. -/
theorem Teleports.missing {id x : String} {p q : Play} {hops : List String}
    (h : e.Teleports id p hops q) (hlast : (id :: hops).getLast? = some x)
    (hx : e.scene? x = none) : e.Enters id p hops (.error (.sceneNotFound x)) q := by
  induction h with
  | done =>
      cases hlast
      exact .missing hx
  | hop hs hv _ ih =>
      rw [List.getLast?_cons_cons] at hlast
      exact .wentOn hs hv (ih hlast)

/-! ### The log -/

/-- Between two plays the log has grown, and it has entered no more than so many scenes. -/
def EntersAtMost (n : Nat) (p q : Play) : Prop :=
  ∃ added, q.state.history = p.state.history ++ added ∧
    added.countP (fun v => v.kind = .sceneEnter) ≤ n

theorem EntersAtMost.trans {m n : Nat} {p q r : Play} (h : EntersAtMost m p q)
    (h' : EntersAtMost n q r) : EntersAtMost (m + n) p r := by
  obtain ⟨added, ht, hadded⟩ := h
  obtain ⟨more, ht', hmore⟩ := h'
  refine ⟨added ++ more, by rw [ht', ht, List.append_assoc], ?_⟩
  rw [List.countP_append]
  omega

theorem EntersAtMost.mono {m n : Nat} {p q : Play} (h : EntersAtMost m p q) (hmn : m ≤ n) :
    EntersAtMost n p q := by
  obtain ⟨added, ht, hadded⟩ := h
  exact ⟨added, ht, Nat.le_trans hadded hmn⟩

theorem entersAtMost_indoors {p q : Play} (h : Indoors p q) : EntersAtMost 0 p q := by
  obtain ⟨-, tail, ht, hk⟩ := h
  refine ⟨tail, ht, Nat.le_of_eq (List.countP_eq_zero.2 fun v hv => ?_)⟩
  rcases hk v hv with hk | hk <;> rw [hk] <;> decide

theorem entersAtMost_same (p : Play) : EntersAtMost 0 p p :=
  ⟨[], (List.append_nil _).symm, Nat.le_refl 0⟩

theorem entersAtMost_depart (p : Play) (scene : Scene) : EntersAtMost 0 p (p.depart scene) :=
  ⟨[_], rfl, Nat.le_refl 0⟩

theorem entersAtMost_chooseExit (p : Play) (scene : Scene) (exit : Exit) :
    EntersAtMost 0 p (p.chooseExit scene exit) := ⟨[_], rfl, Nat.le_refl 0⟩

theorem entersAtMost_chooseAction (p : Play) (scene : Scene) (id : String) :
    EntersAtMost 0 p (p.chooseAction scene id) := ⟨[_], rfl, Nat.le_refl 0⟩

/-- To ask a condition enters no scene. -/
theorem entersAtMost_meets {c : Option Condition} {p q : Play} {r : Except Fault Bool}
    (h : (e.meets c).on p = (r, q)) : EntersAtMost 0 p q :=
  entersAtMost_indoors (((Indoors.underEffects e).keeps_meets c).of_on h)

theorem entersAtMost_visit {scene : Scene} {p q : Play}
    {r : Except Fault (Option String × List String)} (hv : (e.visit scene).on p = (r, q)) :
    EntersAtMost 1 p q := by
  rw [on_visit] at hv
  have harrive : EntersAtMost 1 p (p.arrive scene) := ⟨[_], p.arrive_history scene, Nat.le_refl 1⟩
  exact harrive.trans
    (entersAtMost_indoors (((Indoors.underEffects e).keeps_fireAll _ _ _ _ _).of_on hv))

/-- **A chain of teleports enters no more scenes than hops are allowed, and one.** -/
theorem entersAtMost_enterWithin (e : Engine) (limit : Nat) (chain : List String) (id : String)
    (p : Play) : EntersAtMost (limit + 1) p ((e.enterWithin limit chain id).on p).2 := by
  rcases hend : (e.enterWithin limit chain id).on p with ⟨r, q⟩
  replace hend := e.entering_of_on hend
  dsimp only
  induction hend with
  | missing => exact (entersAtMost_indoors ((Indoors.underEffects e).refl _)).mono (Nat.zero_le _)
  | broken hs hv => exact (entersAtMost_visit hv).mono (by omega)
  | stayed hs hv hr =>
      have hseen := entersAtMost_indoors (((Indoors.underEffects e).keeps_view _ _ _).of_on hr)
      exact ((entersAtMost_visit hv).trans hseen).mono (by omega)
  | looped hs hv => exact (entersAtMost_visit hv).trans (entersAtMost_depart _ _)
  | wentOn hs hv _ ih =>
      exact ((entersAtMost_visit hv).trans ((entersAtMost_depart _ _).trans ih)).mono (by omega)

/-! ### Entering -/

/-- **Entering with a limit and without one.**  The engine does what entering without a limit does
if that takes no more hops than are allowed, and it ends in the fault for long chains exactly if
one more hop is asked for.  It misses a scene exactly if the first scene or the target of a hop
within the limit is none, and it never enters more scenes than hops are allowed, and one.  The
modules may fail as they like, but not with these two faults. -/
theorem enter_refines (hm : e.modules.FailsOnly fun f => f.endsEntering = false) (id : String)
    (p : Play) :
    (∀ hops r q, e.Enters id p hops r q → hops.length ≤ e.maxHops.toNat →
      (e.enter id).on p = (r, q)) ∧
    ((∃ hops r q, hops.length ≤ e.maxHops.toNat ∧ e.Enters id p hops r q) ∨
      ∃ hops q, hops.length = e.maxHops.toNat + 1 ∧ e.Teleports id p hops q) ∧
    ((∃ chain limit, ((e.enter id).on p).1 = .error (.teleportLoop chain limit)) ↔
      ∃ hops q, hops.length = e.maxHops.toNat + 1 ∧ e.Teleports id p hops q) ∧
    (∀ x, ((e.enter id).on p).1 = .error (.sceneNotFound x) ↔
      ∃ hops q, hops.length ≤ e.maxHops.toNat ∧ e.Teleports id p hops q ∧
        (id :: hops).getLast? = some x ∧ e.scene? x = none) ∧
    EntersAtMost (e.maxHops.toNat + 1) p ((e.enter id).on p).2 := by
  refine ⟨fun hops r q h hle => enterWithin_of_enters h hle _, e.enters_or_teleports _ id p, ?_, ?_,
    e.entersAtMost_enterWithin _ _ id p⟩
  · constructor
    · rintro ⟨chain, limit, hloop⟩
      rcases e.enters_or_teleports e.maxHops.toNat id p with ⟨hops, r, q, hle, h⟩ | h
      · rw [enter, enterWithin_of_enters h hle] at hloop
        cases hloop
        rcases h.fault hm with hf | ⟨x, hf, -⟩ <;> cases hf
      · exact h
    · rintro ⟨hops, q, heq, h⟩
      exact ⟨[id] ++ hops, e.maxHops, by rw [enter, enterWithin_of_teleports h heq]⟩
  · intro x
    constructor
    · intro hmissed
      rcases e.enters_or_teleports e.maxHops.toNat id p with
        ⟨hops, r, q, hle, h⟩ | ⟨hops, q, heq, h⟩
      · rw [enter, enterWithin_of_enters h hle] at hmissed
        cases hmissed
        rcases h.fault hm with hf | ⟨y, hf, htel, hlast, hy⟩
        · cases hf
        · cases hf
          exact ⟨hops, q, hle, htel, hlast, hy⟩
      · rw [enter, enterWithin_of_teleports h heq] at hmissed
        cases hmissed
    · rintro ⟨hops, q, hle, htel, hlast, hx⟩
      rw [enter, enterWithin_of_enters (htel.missing hlast hx) hle]

/-- In the hollow every rule sends the player to the road. -/
theorem enter_refines_lanternRoad :
    let e := LanternRoad.engine
    let p := e.beginning LanternRoad.traveller LanternRoad.alone
    (∀ hops r q, e.Enters "scene.hollow" p hops r q → hops.length ≤ e.maxHops.toNat →
      (e.enter "scene.hollow").on p = (r, q)) ∧
    ((∃ hops r q, hops.length ≤ e.maxHops.toNat ∧ e.Enters "scene.hollow" p hops r q) ∨
      ∃ hops q, hops.length = e.maxHops.toNat + 1 ∧ e.Teleports "scene.hollow" p hops q) ∧
    ((∃ chain limit, ((e.enter "scene.hollow").on p).1 = .error (.teleportLoop chain limit)) ↔
      ∃ hops q, hops.length = e.maxHops.toNat + 1 ∧ e.Teleports "scene.hollow" p hops q) ∧
    (∀ x, ((e.enter "scene.hollow").on p).1 = .error (.sceneNotFound x) ↔
      ∃ hops q, hops.length ≤ e.maxHops.toNat ∧ e.Teleports "scene.hollow" p hops q ∧
        ("scene.hollow" :: hops).getLast? = some x ∧ e.scene? x = none) ∧
    EntersAtMost (e.maxHops.toNat + 1) p ((e.enter "scene.hollow").on p).2 :=
  enter_refines (LanternRoad.engine_failsOnly _) _ _

end Engine

end Storyworld
