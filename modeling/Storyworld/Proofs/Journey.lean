/-
**The log as a journey.**

The log of a game says which scenes the player entered and left.  As long as nothing worse happens
than that a move is refused, it is the log of one journey: every scene that is entered is left
before the next one is entered, by an entry that names it; the last one is where the player is; and
every choice of the player names the scene in which it was made.  Chains of teleports, exit rules,
effects and hooks, of which there may be any number on the way, do not break it.

Main definitions:

* `Storyworld.Journey` — the logs of journeys;
* `Storyworld.crossings` — the entries and exits of a log;
* `Storyworld.lastEntered` — the scene that a log enters last;
* `Storyworld.Registry.NeverRefuses` — modules that do not pose as the engine.

Main results:

* `Storyworld.Journey.crossings_eq`, `Storyworld.Journey.action_named` — what the log of a journey
  looks like;
* `Storyworld.Engine.journey_enterWithin`, `Storyworld.Engine.ledTo_move` — what one entering and one
  move add to a journey;
* `Storyworld.Engine.playthrough_journey` — **the log of a game is the log of a journey**.
-/

import Storyworld.Proofs.Checked
import Storyworld.Proofs.Frame
import Storyworld.Proofs.Hooks
import Storyworld.Proofs.Playthrough

set_option relaxedAutoImplicit false
set_option autoImplicit false

namespace Storyworld

/-! ### Logs -/

/-- The kinds and scenes of the entries of a log that say that a scene is entered or left. -/
def crossings (log : List Event) : List (EventKind × Option String) :=
  (log.filter fun v => v.kind = .sceneEnter ∨ v.kind = .sceneExit).map fun v => (v.kind, v.sceneId)

/-- The scene that a log enters last. -/
def lastEntered (log : List Event) : Option String :=
  ((log.filter fun v => v.kind = .sceneEnter).getLast?).bind Event.sceneId

/-- The crossings of a scene that is entered and left. -/
def roundTrip (scene : String) : List (EventKind × Option String) :=
  [(.sceneEnter, some scene), (.sceneExit, some scene)]

/-- **The log of a journey**, with the scenes that were left and the one where the player is, if the
player is in one. -/
inductive Journey : List Event → List String → Option String → Prop
  /-- nothing has happened -/
  | begun : Journey [] [] none
  /-- a scene is entered from nowhere -/
  | entered {log : List Event} {left : List String} {v : Event} {scene : String}
      (h : Journey log left none) (hk : v.kind = .sceneEnter) (hv : v.sceneId = some scene) :
      Journey (log ++ [v]) left (some scene)
  /-- the scene is left -/
  | exited {log : List Event} {left : List String} {v : Event} {scene : String}
      (h : Journey log left (some scene)) (hk : v.kind = .sceneExit) (hv : v.sceneId = some scene) :
      Journey (log ++ [v]) (left ++ [scene]) none
  /-- the player chooses something in the scene -/
  | chose {log : List Event} {left : List String} {v : Event} {scene : String}
      (h : Journey log left (some scene)) (hk : v.kind = .action) (hv : v.sceneId = some scene) :
      Journey (log ++ [v]) left (some scene)
  /-- an effect is applied, or a rule leaves a note -/
  | noted {log : List Event} {left : List String} {v : Event} {place : Option String}
      (h : Journey log left place) (hk : v.kind = .effect ∨ v.kind = .rule) :
      Journey (log ++ [v]) left place

namespace Journey

variable {log : List Event} {left : List String} {place : Option String}

theorem crossings_append (log : List Event) (v : Event) : crossings (log ++ [v]) =
    crossings log ++ crossings [v] := by
  simp only [crossings, List.filter_append, List.map_append]

theorem lastEntered_append {v : Event} (hk : v.kind ≠ .sceneEnter) (log : List Event) :
    lastEntered (log ++ [v]) = lastEntered log := by
  simp [lastEntered, List.filter_append, hk]

/-- **Scenes are entered and left in turn**, and the last one is where the player is. -/
theorem crossings_eq (h : Journey log left place) : crossings log =
    left.flatMap roundTrip ++ (place.map fun s => (EventKind.sceneEnter, some s)).toList := by
  induction h with
  | begun => rfl
  | entered h hk hv ih =>
      rw [crossings_append, ih]
      simp [crossings, hk, hv]
  | exited h hk hv ih =>
      rw [crossings_append, ih]
      simp [crossings, hk, hv, roundTrip]
  | chose h hk hv ih =>
      rw [crossings_append, ih]
      simp [crossings, hk]
  | noted h hk ih =>
      rw [crossings_append, ih]
      rcases hk with hk | hk <;> simp [crossings, hk]

/-- Where the player is, the log entered last. -/
theorem lastEntered_eq {scene : String} (h : Journey log left (some scene)) :
    lastEntered log = some scene := by
  generalize hp : some scene = place at h
  induction h with
  | begun => cases hp
  | entered h hk hv ih =>
      cases hp
      simp [lastEntered, List.filter_append, hk, hv]
  | exited h hk hv ih => cases hp
  | chose h hk hv ih =>
      rw [lastEntered_append (by rw [hk]; decide)]
      exact ih hp
  | noted h hk ih =>
      rw [lastEntered_append (by rcases hk with hk | hk <;> rw [hk] <;> decide)]
      exact ih hp

/-- An entry of a log is its last one or stands in the log before that. -/
theorem split_last {log before after : List Event} {u v : Event}
    (h : log ++ [u] = before ++ v :: after) :
    (u = v ∧ log = before) ∨ ∃ rest, log = before ++ v :: rest := by
  rcases List.eq_nil_or_concat after with rfl | ⟨rest, w, rfl⟩
  · obtain ⟨h₁, h₂⟩ := List.append_inj' h rfl
    exact .inl ⟨List.head_eq_of_cons_eq h₂, h₁⟩
  · rw [List.concat_eq_append, ← List.cons_append, ← List.append_assoc] at h
    exact .inr ⟨rest, (List.append_inj' h rfl).1⟩

/-- **Every choice names the scene that was entered last before it.** -/
theorem action_named (h : Journey log left place) {before after : List Event} {v : Event}
    (hlog : log = before ++ v :: after) (hv : v.kind = .action) :
    ∃ scene, v.sceneId = some scene ∧ lastEntered before = some scene := by
  -- a journey grows at its end: the entry is the last one, or it stands in the journey before
  induction h generalizing after with
  | begun => simp at hlog
  | entered h hk hu ih =>
      rcases split_last hlog with ⟨rfl, -⟩ | ⟨rest, hrest⟩
      · rw [hk] at hv; cases hv
      · exact ih hrest
  | exited h hk hu ih =>
      rcases split_last hlog with ⟨rfl, -⟩ | ⟨rest, hrest⟩
      · rw [hk] at hv; cases hv
      · exact ih hrest
  | chose h hk hu ih =>
      rcases split_last hlog with ⟨rfl, rfl⟩ | ⟨rest, hrest⟩
      · exact ⟨_, hu, h.lastEntered_eq⟩
      · exact ih hrest
  | noted h hk ih =>
      rcases split_last hlog with ⟨rfl, -⟩ | ⟨rest, hrest⟩
      · rw [hv] at hk
        rcases hk with hk | hk <;> cases hk
      · exact ih hrest

/-- Effects and notes do not lead away. -/
theorem notedAll {tail : List Event} (ht : ∀ v ∈ tail, v.kind = .effect ∨ v.kind = .rule)
    (h : Journey log left place) : Journey (log ++ tail) left place := by
  induction tail generalizing log with
  | nil => rwa [List.append_nil]
  | cons v tail ih =>
      rw [List.append_cons]
      exact ih (fun u hu => ht u (List.mem_cons_of_mem v hu)) (h.noted (ht v List.mem_cons_self))

end Journey

/-! ### What moves add to a journey -/

theorem Indoors.journey {p q : Play} (h : Indoors p q) {left : List String} {place : Option String}
    (hj : Journey p.state.history left place) : Journey q.state.history left place := by
  obtain ⟨-, tail, ht, hk⟩ := h
  rw [ht]
  exact hj.notedAll hk

/-- The log of a play is that of a journey, and the player is where the journey has led. -/
def Play.Settled (p : Play) : Prop :=
  ∃ left, Journey p.state.history left (some p.state.currentSceneId)

theorem Indoors.settled {p q : Play} (h : Indoors p q) (hp : p.Settled) : q.Settled := by
  obtain ⟨left, hj⟩ := hp
  rw [← h.place] at hj
  exact ⟨left, h.journey hj⟩

/-- The modules do not themselves fail with the faults by which moves are refused. -/
def Registry.NeverRefuses (ms : Registry) : Prop := ms.FailsOnly fun f => f.isRefusal = false

namespace Engine

variable {e : Engine} {p q : Play}

theorem journey_visit {scene : Scene} {left : List String}
    {r : Except Fault (Option String × List String)} (hj : Journey p.state.history left none)
    (hv : (e.visit scene).on p = (r, q)) :
    Journey q.state.history left (some scene.id) ∧ q.state.currentSceneId = scene.id := by
  rw [on_visit] at hv
  have hin := ((Indoors.underEffects e).keeps_fireAll _ _ _ _ _).of_on hv
  refine ⟨hin.journey ?_, hin.place⟩
  rw [Play.arrive_history]
  exact hj.entered rfl rfl

/-- A player who stays in a scene and sees it. -/
theorem settled_view {scene : Scene} {overlays recent : List String} {left : List String}
    {v : SceneView} (hj : Journey p.state.history left (some scene.id))
    (hplace : p.state.currentSceneId = scene.id)
    (hv : (e.view scene overlays recent).on p = (.ok v, q)) :
    q.Settled ∧ v.sceneId = q.state.currentSceneId := by
  have hin := ((Indoors.underEffects e).keeps_view _ _ _).of_on hv
  have hq : q.state.currentSceneId = scene.id := hin.place.trans hplace
  rw [Play.Settled, hq]
  exact ⟨⟨left, hin.journey hj⟩, gives_view e _ _ _ _ _ _ hv⟩

/-- **Entering a scene begins the next stretch of a journey**, however many teleports follow. -/
theorem journey_enterWithin {hops : Nat} {chain : List String} {id : String} {v : SceneView}
    {left : List String} (hj : Journey p.state.history left none)
    (hend : (e.enterWithin hops chain id).on p = (.ok v, q)) :
    q.Settled ∧ v.sceneId = q.state.currentSceneId := by
  -- whenever a scene is entered the player is nowhere, also between the hops of a chain
  replace hend := e.entering_of_on hend
  generalize hr : (Except.ok v : Except Fault SceneView) = r at hend
  induction hend generalizing left with
  | missing => cases hr
  | broken => cases hr
  | stayed hs hv hview =>
      subst hr
      obtain ⟨hjq, hplace⟩ := journey_visit hj hv
      exact settled_view hjq hplace hview
  | looped => cases hr
  | wentOn hs hv _ ih => exact ih ((journey_visit hj hv).1.exited rfl rfl) hr

/-- The faults of a move that are no refusals: all but those of the choice itself. -/
theorem ofValues_notRefused : OfValues fun f => f.isRefusal = false := by
  intro f hf
  cases f <;> first | rfl | cases hf

theorem enter_notRefused (hm : e.modules.NeverRefuses) (id : String) :
    (e.enter id).FailsOnly fun f => f.isRefusal = false :=
  failsOnly_enterWithin ofValues_notRefused hm (fun _ _ => rfl) (fun _ => rfl) _ _ _

/-- A move that a journey can go on from: it gives a result, or it is refused. -/
def Accepted (r : Except Fault SceneView) : Prop := ∀ f, r = .error f → f.isRefusal = true

instance : DecidablePred Accepted
  | .ok _ => isTrue fun _ h => nomatch h
  | .error f => decidable_of_iff (f.isRefusal = true)
      ⟨fun h _ hf => Except.error.inj hf ▸ h, fun h => h f rfl⟩

theorem Accepted.elim {f : Fault} (hr : Accepted (.error f)) (hf : f.isRefusal = false) :
    False := by
  rw [hr f rfl] at hf
  cases hf

/-- Where a move leaves the player: where the scene is that was seen, or else where the player
was. -/
structure LedTo (p : Play) (r : Except Fault SceneView) (q : Play) : Prop where
  settled : q.Settled
  seen : ∀ v, r = .ok v → v.sceneId = q.state.currentSceneId
  refused : ∀ f, r = .error f → q.state.currentSceneId = p.state.currentSceneId

/-- The end of a move through which the player leaves a scene. -/
theorem ledTo_enter (hm : e.modules.NeverRefuses) {id : String} {left : List String}
    {r : Except Fault SceneView} (hj : Journey p.state.history left none)
    (h : (e.enter id).on p = (r, q)) (hr : Accepted r) (p₀ : Play) : LedTo p₀ r q := by
  cases r with
  | ok v =>
      obtain ⟨hq, hv⟩ := journey_enterWithin hj h
      exact ⟨hq, fun _ hv' => Except.ok.inj hv' ▸ hv, fun _ hf => nomatch hf⟩
  | error f =>
      exact (hr.elim (enter_notRefused hm id _ _ _ h)).elim

/-- The end of a move by which nothing but notes is added to the log. -/
theorem ledTo_refused {f : Fault} (hp : p.Settled) (hin : Indoors p q) : LedTo p (.error f) q :=
  ⟨hin.settled hp, (fun _ h => nomatch h), fun _ _ => hin.place⟩

/-- The end of a move after which the player sees the scene. -/
theorem ledTo_seen (hm : e.modules.NeverRefuses) {scene : Scene} {overlays recent : List String}
    {left : List String} {r : Except Fault SceneView} (hj : Journey p.state.history left (some scene.id))
    (hplace : p.state.currentSceneId = scene.id)
    (hv : (e.view scene overlays recent).on p = (r, q)) (hr : Accepted r) (p₀ : Play) :
    LedTo p₀ r q := by
  cases r with
  | ok v =>
      obtain ⟨hq, hseen⟩ := settled_view hj hplace hv
      exact ⟨hq, fun _ hv' => Except.ok.inj hv' ▸ hseen, fun _ hf => nomatch hf⟩
  | error f => exact (hr.elim (failsOnly_view ofValues_notRefused hm _ _ _ _ _ _ hv)).elim

theorem ledTo_leave (hm : e.modules.NeverRefuses) {ref : ExitRef} {r : Except Fault SceneView}
    (hp : p.Settled) (h : (e.leave ref).on p = (r, q)) (hr : Accepted r) : LedTo p r q := by
  cases e.leaving_of_on h with
  | lost => exact (hr.elim rfl).elim
  | noExit => exact ledTo_refused hp ((Indoors.underEffects e).refl _)
  | undecided _ _ hc =>
      exact (hr.elim (failsOnly_meets ofValues_notRefused hm _ _ _ _ hc)).elim
  | closed _ _ hc =>
      exact ledTo_refused hp (((Indoors.underEffects e).keeps_meets _).of_on hc)
  | broken _ _ _ hf =>
      exact (hr.elim
        (failsOnly_fireSilently ofValues_notRefused hm _ _ _ _ _ _ hf)).elim
  | left hs _ hc hf he =>
      obtain ⟨left, hj⟩ := hp
      rw [← id_of_scene? hs] at hj
      have hopen := (((Indoors.underEffects e).keeps_meets _).of_on hc).journey hj
      have hruled := ((Indoors.underEffects e).keeps_fireSilently _ _ _).of_on hf
      exact ledTo_enter hm ((hruled.journey (hopen.chose rfl rfl)).exited rfl rfl) he hr p

theorem ledTo_act (hm : e.modules.NeverRefuses) {id : String} {r : Except Fault SceneView}
    (hp : p.Settled) (h : (e.act id).on p = (r, q)) (hr : Accepted r) : LedTo p r q := by
  cases e.acting_of_on h with
  | lost => exact (hr.elim rfl).elim
  | noAction => exact ledTo_refused hp ((Indoors.underEffects e).refl _)
  | undecided _ _ hc =>
      exact (hr.elim (failsOnly_meets ofValues_notRefused hm _ _ _ _ hc)).elim
  | closed _ _ hc =>
      exact ledTo_refused hp (((Indoors.underEffects e).keeps_meets _).of_on hc)
  | broken _ _ _ hf =>
      exact (hr.elim (failsOnly_perform ofValues_notRefused hm _ _ _ _ _ hf)).elim
  | stayed hs _ hc hf hv =>
      obtain ⟨left, hj⟩ := hp
      have hid := id_of_scene? hs
      rw [← hid] at hj
      have hopen := ((Indoors.underEffects e).keeps_meets _).of_on hc
      have hdone := ((Indoors.underEffects e).keeps_perform _ _).of_on hf
      have hj₁ := hdone.journey ((hopen.journey hj).chose rfl rfl)
      have hplace := hdone.place.trans (hopen.place.trans hid.symm)
      exact ledTo_seen hm hj₁ hplace hv hr p
  | left hs _ hc hf he =>
      obtain ⟨left, hj⟩ := hp
      rw [← id_of_scene? hs] at hj
      have hopen := (((Indoors.underEffects e).keeps_meets _).of_on hc).journey hj
      have hdone := ((Indoors.underEffects e).keeps_perform _ _).of_on hf
      exact ledTo_enter hm ((hdone.journey (hopen.chose rfl rfl)).exited rfl rfl) he hr p

/-- **A move adds to a journey**, or is refused. -/
theorem ledTo_move (hm : e.modules.NeverRefuses) {m : Move} {r : Except Fault SceneView}
    (hp : p.Settled) (h : (m.turn e).on p = (r, q)) (hr : Accepted r) : LedTo p r q := by
  cases m with
  | leave ref => exact ledTo_leave hm hp h hr
  | act id => exact ledTo_act hm hp h hr

/-! ### Whole games -/

/-- What the player saw last, if anything. -/
def lastSeen (rs : List (Except Fault SceneView)) : Option SceneView :=
  (rs.filterMap Except.toOption).getLast?

theorem lastSeen_ok (v : SceneView) (rs : List (Except Fault SceneView)) :
    lastSeen (.ok v :: rs) = some ((lastSeen rs).getD v) := by
  simp only [lastSeen, Except.toOption, List.filterMap_cons, List.getLast?_cons]

theorem lastSeen_error (f : Fault) (rs : List (Except Fault SceneView)) :
    lastSeen (.error f :: rs) = lastSeen rs := by
  simp only [lastSeen, Except.toOption, List.filterMap_cons]

/-- **Moves add to a journey**, and the player is in the scene that was seen last. -/
theorem settled_moves (hm : e.modules.NeverRefuses) {moves : List Move} (hp : p.Settled)
    {rs : List (Except Fault SceneView)}
    (h : Turn.onAll (moves.map (Move.turn e)) p = (rs, q)) (hr : ∀ r ∈ rs, Accepted r) :
    q.Settled ∧
      ((lastSeen rs).map SceneView.sceneId).getD p.state.currentSceneId =
        q.state.currentSceneId := by
  induction moves generalizing p rs with
  | nil =>
      cases h
      exact ⟨hp, rfl⟩
  | cons m moves ih =>
      rcases hon : (m.turn e).on p with ⟨r, p'⟩
      rcases hrest : Turn.onAll (moves.map (Move.turn e)) p' with ⟨rs', q'⟩
      rw [List.map_cons, Turn.onAll, hon, hrest] at h
      cases h
      have hled := ledTo_move hm hp hon (hr r List.mem_cons_self)
      obtain ⟨hq, hlast⟩ := ih hled.settled hrest fun r' hr' => hr r' (List.mem_cons_of_mem _ hr')
      refine ⟨hq, ?_⟩
      cases r with
      | error f => rw [lastSeen_error, ← hlast, hled.refused f rfl]
      | ok v =>
          rw [lastSeen_ok, ← hlast, ← hled.seen v rfl]
          cases lastSeen rs' <;> rfl

/-- **The log of a game is the log of a journey**, if nothing worse happens in the game than that
moves are refused.  Scenes are entered and left in turn, every scene is left under its own name,
the last one is where the player is and what the player saw last, and every choice names the scene
that was entered last before it. -/
theorem playthrough_journey (hm : e.modules.NeverRefuses) (c : Character) (shared : Shared)
    (moves : List Move) {rs : List (Except Fault SceneView)} {q : Play}
    (h : e.playthrough c shared moves = (rs, q)) (hr : ∀ r ∈ rs, Accepted r) :
    ∃ (left : List String) (v : SceneView), lastSeen rs = some v ∧
      v.sceneId = q.state.currentSceneId ∧
      crossings q.state.history = left.flatMap roundTrip ++ [(.sceneEnter, some v.sceneId)] ∧
      ∀ before u after, q.state.history = before ++ u :: after → u.kind = .action →
        ∃ scene, u.sceneId = some scene ∧ lastEntered before = some scene := by
  rcases hon : (e.enter e.story.startScene).on (e.beginning c shared) with ⟨r, p⟩
  rcases hrest : Turn.onAll (moves.map (Move.turn e)) p with ⟨rs', q'⟩
  rw [playthrough, Turn.onAll, hon, hrest] at h
  cases h
  cases r with
  | error f =>
      exact ((hr _ List.mem_cons_self).elim (enter_notRefused hm _ _ _ _ hon)).elim
  | ok v =>
      obtain ⟨hp, hv⟩ := journey_enterWithin .begun hon
      obtain ⟨⟨left, hj⟩, hlast⟩ :=
        settled_moves hm hp hrest fun r hr' => hr r (List.mem_cons_of_mem _ hr')
      have hplace : ((lastSeen rs').getD v).sceneId = q'.state.currentSceneId := by
        rw [← hlast, ← hv]
        cases lastSeen rs' <;> rfl
      refine ⟨left, (lastSeen rs').getD v, lastSeen_ok v rs', hplace, ?_, ?_⟩
      · rw [hj.crossings_eq, hplace]
        rfl
      · exact fun before u after hlog hu => hj.action_named hlog hu

/-- Talking to the keeper leads to the road, where an exit is closed, one is not there, and one
leads back. -/
theorem playthrough_journey_lanternRoad :
    ∃ (left : List String) (v : SceneView),
      let played := LanternRoad.engine.playthrough LanternRoad.traveller LanternRoad.alone
        [.act "act.talk", .leave (.label "Follow the marsh lights"), .leave (.index 7),
          .leave (.index 0)]
      lastSeen played.1 = some v ∧ v.sceneId = played.2.state.currentSceneId ∧
        crossings played.2.state.history =
          left.flatMap roundTrip ++ [(.sceneEnter, some v.sceneId)] ∧
        ∀ before u after, played.2.state.history = before ++ u :: after → u.kind = .action →
          ∃ scene, u.sceneId = some scene ∧ lastEntered before = some scene :=
  playthrough_journey (LanternRoad.engine_failsOnly _) LanternRoad.traveller LanternRoad.alone _ rfl
    (by decide +kernel)

end Engine

end Storyworld
