/-
**Moves that break off.**

A move that names an exit or an action which is not there, or not open, is refused before anything
has happened.  A move can also miss a scene, as a rule module may teleport to one that the story
does not have.  By then the move is under way: the choice stands in the log, effects have been
applied, and scenes may have been entered and left.  None of this is taken back.  The player is left
in the last scene of the chain, of which the log says that the player has gone.

So play can go on from where it stood after a refusal, and never after a scene was missed, unless
the player had been nowhere before the move.

Main definitions:

* `Storyworld.Untouched` — nothing has happened between two plays;
* `Storyworld.Engine.Departed`, `Storyworld.Engine.Stranded` — where a move that misses a scene
  leaves the player.

Main results:

* `Storyworld.Engine.departed_enterWithin` — a chain of teleports that misses a scene;
* `Storyworld.Engine.untouched_of_refused` — a move that is refused;
* `Storyworld.Engine.stranded_of_missed` — a move that misses a scene;
* `Storyworld.Engine.broken_off_moves` — **what moves that break off leave behind**.
-/

import Storyworld.Proofs.Refusals
import Storyworld.Proofs.Teleports

set_option relaxedAutoImplicit false
set_option autoImplicit false

namespace Storyworld

/-! ### Plays that are as before -/

/-- **Nothing has happened between two plays**, as far as their states tell: there may be notes at
the end of the log. -/
def Untouched (p q : Play) : Prop :=
  ∃ notes, q.state = { p.state with history := p.state.history ++ notes } ∧
    ∀ v ∈ notes, v.kind = .rule

namespace Untouched

theorem of_eq {p q : Play} (h : q.state = p.state) : Untouched p q :=
  ⟨[], by rw [h, List.append_nil], fun _ h => nomatch h⟩

theorem trans {p q r : Play} (h : Untouched p q) (h' : Untouched q r) : Untouched p r := by
  obtain ⟨notes, hq, hkind⟩ := h
  obtain ⟨more, hr, hkind'⟩ := h'
  refine ⟨notes ++ more, by rw [hr, hq, List.append_assoc], fun v hv => ?_⟩
  exact (List.mem_append.1 hv).elim (hkind v) (hkind' v)

/-- **Looking at a play leaves it as before.** -/
theorem underLooking : UnderLooking Untouched where
  refl _ := of_eq rfl
  trans _ _ _ := trans
  drawn _ _ := of_eq rfl
  warned _ _ := of_eq rfl
  noted _ _ := ⟨[_], rfl, fun _ hv => List.mem_singleton.1 hv ▸ rfl⟩

end Untouched

namespace Engine

variable {e : Engine} {p q : Play}

/-! ### Scenes that are missed -/

/-- The player is in a scene of the story, and has just left it. -/
structure Departed (e : Engine) (p : Play) : Prop where
  place : (e.scene? p.state.currentSceneId).isSome = true
  gone : ∃ v, p.state.history.getLast? = some v ∧ v.kind = .sceneExit ∧
    v.sceneId = some p.state.currentSceneId

theorem departed_depart {scene : Scene} {id : String} (hs : e.scene? id = some scene)
    (hplace : p.state.currentSceneId = scene.id) : e.Departed (p.depart scene) := by
  have hid : (p.depart scene).state.currentSceneId = id := hplace.trans (id_of_scene? hs)
  refine ⟨by rw [hid, hs]; rfl, _, List.getLast?_concat, rfl, ?_⟩
  exact congrArg some hplace.symm

/-- **Where a move that misses a scene leaves the player**: the choice was made, and the player has
just left the scene that the state names. -/
structure Stranded (e : Engine) (p q : Play) : Prop extends Departed e q where
  chosen : ∃ added, q.state.history = p.state.history ++ added ∧
    ∃ v ∈ added, v.kind = .action ∧ v.sceneId = some p.state.currentSceneId

/-- A player who is stranded is not where the move began. -/
theorem Stranded.not_untouched (h : e.Stranded p q) : ¬ Untouched p q := by
  rintro ⟨notes, hq, hkind⟩
  obtain ⟨added, hadded, v, hv, haction, -⟩ := h.chosen
  rw [hq] at hadded
  rw [← List.append_cancel_left hadded] at hv
  rw [hkind v hv] at haction
  cases haction

/-- The kinds of faults that do not say that a scene was missed include all faults of values. -/
theorem ofValues_notMissed : OfValues fun f => ∀ id, f ≠ .sceneNotFound id := by
  rintro f hf id rfl
  cases hf

section Modules

variable (hm : e.modules.FailsOnly fun f => f.isOfGame = false)

include hm

theorem failsOnly_notMissed : e.modules.FailsOnly fun f => ∀ id, f ≠ .sceneNotFound id :=
  hm.mono ofValues_notMissed

/-- **A chain of teleports that misses a scene** ends in a scene that the player has just left, if
it began with one. -/
theorem departed_enterWithin {hops : Nat} {chain : List String} {id x : String}
    (hp : e.Departed p)
    (hend : (e.enterWithin hops chain id).on p = (.error (.sceneNotFound x), q)) :
    e.Departed q ∧ e.scene? x = none := by
  replace hend := e.entering_of_on hend
  generalize hr : (Except.error (.sceneNotFound x) : Except Fault SceneView) = r at hend
  induction hend with
  | missing hs =>
      cases hr
      exact ⟨hp, hs⟩
  | broken hs hv =>
      cases hr
      exact absurd rfl (failsOnly_visit ofValues_notMissed (failsOnly_notMissed hm) _ _ _ _ hv x)
  | stayed hs hv hview =>
      subst hr
      exact absurd rfl
        (failsOnly_view ofValues_notMissed (failsOnly_notMissed hm) _ _ _ _ _ _ hview x)
  | looped => cases hr
  | wentOn hs hv _ ih =>
      -- the scene that is missed next is looked for only after this one was left
      rw [on_visit] at hv
      have hplace := (((Indoors.underEffects e).keeps_fireAll _ _ _ _ _).of_on hv).place
      exact ih (departed_depart hs hplace) hr

/-- **A move through which the player leaves a scene**, and that misses another one. -/
theorem stranded_enter {scene : Scene} {id x : String} {actionId : Option String}
    {data : Option (Table Json)} {p₁ p₂ : Play}
    (hs : e.scene? p.state.currentSceneId = some scene) (hopen : Indoors p p₁)
    (hruled : Indoors (p₁.record .action (some scene.id) actionId data) p₂)
    (he : (e.enter id).on (p₂.depart scene) = (.error (.sceneNotFound x), q)) :
    e.Stranded p q ∧ e.scene? x = none := by
  have hid := id_of_scene? hs
  have hplace : p₂.state.currentSceneId = scene.id :=
    hruled.place.trans (hopen.place.trans hid.symm)
  obtain ⟨hdeparted, hx⟩ := departed_enterWithin hm (departed_depart hs hplace) he
  refine ⟨⟨hdeparted, ?_⟩, hx⟩
  obtain ⟨notes, hnotes, -⟩ := hopen.log
  obtain ⟨ruled, hlog, -⟩ := hruled.log
  have hentered := e.entersAtMost_enterWithin e.maxHops.toNat [id] id (p₂.depart scene)
  rw [enter] at he
  rw [he] at hentered
  obtain ⟨entered, hq, -⟩ := hentered
  obtain ⟨v, hv, haction, hscene⟩ : ∃ v, (p₁.record .action (some scene.id) actionId
      data).state.history = p₁.state.history ++ [v] ∧ v.kind = .action ∧
        v.sceneId = some scene.id := ⟨_, rfl, rfl, rfl⟩
  obtain ⟨u, hu⟩ : ∃ u, (p₂.depart scene).state.history = p₂.state.history ++ [u] := ⟨_, rfl⟩
  refine ⟨notes ++ [v] ++ ruled ++ [u] ++ entered, ?_, v, ?_, haction, hscene.trans (hid ▸ rfl)⟩
  · rw [hq, hu, hlog, hv, hnotes]
    simp only [List.append_assoc]
  · simp only [List.mem_append, List.mem_singleton, or_true, true_or]

/-- **A move that misses a scene** leaves the player stranded. -/
theorem stranded_of_missed {m : Move} {x : String}
    (hplace : (e.scene? p.state.currentSceneId).isSome = true)
    (h : (m.turn e).on p = (.error (.sceneNotFound x), q)) :
    e.Stranded p q ∧ e.scene? x = none := by
  have hin := Indoors.underEffects e
  have hnot := failsOnly_notMissed hm
  cases m with
  | leave ref =>
      cases e.leaving_of_on h with
      | lost hs => rw [hs] at hplace; cases hplace
      | undecided _ _ hc =>
          exact absurd rfl (failsOnly_meets ofValues_notMissed hnot _ _ _ _ hc x)
      | broken _ _ _ hr =>
          exact absurd rfl (failsOnly_fireSilently ofValues_notMissed hnot _ _ _ _ _ _ hr x)
      | left hs _ hc hr he =>
          exact stranded_enter hm hs ((hin.keeps_meets _).of_on hc)
            ((hin.keeps_fireSilently _ _ _).of_on hr) he
  | act id =>
      cases e.acting_of_on h with
      | lost hs => rw [hs] at hplace; cases hplace
      | undecided _ _ hc =>
          exact absurd rfl (failsOnly_meets ofValues_notMissed hnot _ _ _ _ hc x)
      | broken _ _ _ hr =>
          exact absurd rfl (failsOnly_perform ofValues_notMissed hnot _ _ _ _ _ hr x)
      | stayed _ _ _ _ hv =>
          exact absurd rfl (failsOnly_view ofValues_notMissed hnot _ _ _ _ _ _ hv x)
      | left hs _ hc hr he =>
          exact stranded_enter hm hs ((hin.keeps_meets _).of_on hc)
            ((hin.keeps_perform _ _).of_on hr) he

/-! ### Moves that are refused -/

/-- **A move that is refused** leaves everything as it was. -/
theorem untouched_of_refused {m : Move} {f : Fault} (hf : f.isRefusal = true)
    (h : (m.turn e).on p = (.error f, q)) : Untouched p q := by
  have hown : ¬ e.modules.Raises f :=
    (hm.mono ofValues_notRefused).not_raises (by rw [hf]; exact Bool.noConfusion)
  cases refusing_of_on hf hown h with
  | noExit | noAction => exact .of_eq rfl
  | exitClosed _ _ hc | actionClosed _ _ hc =>
      exact (Untouched.underLooking.keeps_meets _).of_on hc

end Modules

/-! ### Moves that break off -/

/-- A player who is nowhere can make no move. -/
theorem on_move_lost {m : Move} (hs : e.scene? p.state.currentSceneId = none) :
    (m.turn e).on p = (.error (.sceneNotFound p.state.currentSceneId), p) := by
  cases m with
  | leave ref =>
      rw [Move.turn, leave, Turn.on_bind_ok (Turn.on_state p),
        Turn.on_bind_error (on_requireScene_none hs p)]
  | act id =>
      rw [Move.turn, act, Turn.on_bind_ok (Turn.on_state p),
        Turn.on_bind_error (on_requireScene_none hs p)]

/-- **What moves that break off leave behind.**  A move that is refused leaves everything as it was.
A move that misses a scene leaves everything as it was only where the player had been nowhere; from
a scene of the story it leaves the player stranded. -/
theorem broken_off_moves (hm : e.modules.FailsOnly fun f => f.isOfGame = false) {m : Move}
    {p q : Play} {f : Fault} (h : (m.turn e).on p = (.error f, q)) :
    (f.isRefusal = true → Untouched p q) ∧
      ∀ id, f = .sceneNotFound id → e.scene? id = none ∧
        (Untouched p q ↔ e.scene? p.state.currentSceneId = none) ∧
        ((e.scene? p.state.currentSceneId).isSome = true → e.Stranded p q) := by
  refine ⟨fun hf => untouched_of_refused hm hf h, ?_⟩
  rintro id rfl
  cases hs : e.scene? p.state.currentSceneId with
  | none =>
      rw [on_move_lost hs] at h
      cases h
      exact ⟨hs, ⟨fun _ => rfl, fun _ => .of_eq rfl⟩, fun hsome => nomatch hsome⟩
  | some scene =>
      obtain ⟨hstranded, hid⟩ := stranded_of_missed hm (by rw [hs]; rfl) h
      exact ⟨hid, ⟨fun hsame => absurd hsame hstranded.not_untouched, fun hnone => nomatch hnone⟩,
        fun _ => hstranded⟩

end Engine

/-! ### The Lantern Road with modules that send the player nowhere -/

namespace LanternRoad

theorem built_astray : (Engine.build (setup "scene.nowhere")).engine.isSome = true := by
  decide +kernel

/-- The engine of the Lantern Road where every hook sends the player to a scene that is not there. -/
def astray : Engine := (Engine.build (setup "scene.nowhere")).engine.get built_astray

theorem astray_failsOnly (F : Fault → Prop) : astray.modules.FailsOnly F :=
  failsOnly_of_build (Option.some_get built_astray).symm F

/-- A traveller at the gate. -/
def atTheGate : Play := ((astray.enter "scene.gate").on (astray.beginning traveller alone)).2

theorem atTheGate_place : (astray.scene? atTheGate.state.currentSceneId).isSome = true := by
  decide +kernel

/-- The scene that is missed by what comes of a move. -/
def missed? : Except Fault SceneView → Option String
  | .error (.sceneNotFound id) => some id
  | _ => none

theorem missed?_eq_some {r : Except Fault SceneView} {id : String} :
    missed? r = some id ↔ r = .error (.sceneNotFound id) := by
  constructor
  · intro h
    unfold missed? at h
    split at h
    · rw [Option.some.inj h]
    · cases h
  · rintro rfl
    rfl

/-- Who talks to the keeper is sent nowhere. -/
theorem talk_misses :
    ((astray.act "act.talk").on atTheGate).1 = .error (.sceneNotFound "scene.nowhere") :=
  missed?_eq_some.1 (by decide +kernel)

end LanternRoad

/-- Who talks to the keeper has talked, and stands at a gate that was left. -/
theorem Engine.broken_off_moves_lanternRoad :
    let e := LanternRoad.astray
    let p := LanternRoad.atTheGate
    let q := (((Move.act "act.talk").turn e).on p).2
    ((Move.act "act.talk").turn e).on p = (.error (.sceneNotFound "scene.nowhere"), q) ∧
      (e.modules.FailsOnly fun f => f.isOfGame = false) ∧
      e.Stranded p q := by
  intro e p q
  have hmissed : ((Move.act "act.talk").turn e).on p = (.error (.sceneNotFound "scene.nowhere"), q) :=
    Prod.ext LanternRoad.talk_misses rfl
  have hm := LanternRoad.astray_failsOnly fun f => f.isOfGame = false
  exact ⟨hmissed, hm, ((broken_off_moves hm hmissed).2 _ rfl).2.2 LanternRoad.atTheGate_place⟩

/-- A move that misses a scene does not leave everything as it was, though the player was in a scene
of the story. -/
theorem Engine.missed_scene_leaves_traces :
    ¬ ∀ (m : Move) (q : Play) (id : String),
      (m.turn LanternRoad.astray).on LanternRoad.atTheGate = (.error (.sceneNotFound id), q) →
        Untouched LanternRoad.atTheGate q := by
  intro h
  have hmissed : ((Move.act "act.talk").turn LanternRoad.astray).on LanternRoad.atTheGate =
      (.error (.sceneNotFound "scene.nowhere"),
        ((LanternRoad.astray.act "act.talk").on LanternRoad.atTheGate).2) :=
    Prod.ext LanternRoad.talk_misses rfl
  have hm := LanternRoad.astray_failsOnly fun f => f.isOfGame = false
  exact (stranded_of_missed hm LanternRoad.atTheGate_place hmissed).1.not_untouched
    (h _ _ _ hmissed)

end Storyworld
