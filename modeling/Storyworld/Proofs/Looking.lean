/-
**Looking changes nothing but the log.**

A look is told by chance, but from a copy of the generator, and what it asks may leave notes in the
log.  The engine itself never reads the log.  So if the modules do not read it either, games in
which players look around go as they would go if nobody looked: every move gives the same view or
fault, the generator is always the same, and the states differ in nothing but their logs.

Main definitions:

* `Storyworld.Registry.NeverReadsLog` — modules that do not read the log;
* `Storyworld.Games`, `Storyworld.Call` — **games on one engine, and what is called for in them**;
* `Storyworld.Games.run` — what comes of calls in a row;
* `Storyworld.Games.SameButLogs` — games that differ in nothing but their logs.

Main results:

* `Storyworld.Effect.outcome_history` — effects do not read it either;
* `Storyworld.lockstep_sameButLog` — **the engine runs in lockstep whatever the logs**;
* `Storyworld.Games.run_without_looks` — **looking changes the course of no game**.
-/

import Storyworld.Proofs.Offers
import Storyworld.Proofs.SideBySide

set_option relaxedAutoImplicit false
set_option autoImplicit false

namespace Storyworld

/-! ### Modules -/

/-- Modules that do not read the log, neither for conditions nor at hooks. -/
structure Registry.NeverReadsLog (ms : Registry) : Prop where
  answers : ms.Forgetful
  results : ∀ m ∈ ms, ∀ (s : GameState) scene action hook log g,
    m.resolve m.settings ⟨{ s with history := log }, scene, action, hook⟩ g =
      m.resolve m.settings ⟨s, scene, action, hook⟩ g

namespace Registry.NeverReadsLog

variable {ms : Registry} {m : RuleModule}

theorem tail (h : Registry.NeverReadsLog (m :: ms)) : ms.NeverReadsLog where
  answers n hn := h.answers n (List.mem_cons_of_mem m hn)
  results n hn := h.results n (List.mem_cons_of_mem m hn)

variable (h : ms.NeverReadsLog) (s : GameState) (log : List Event) (scene : Scene)
  (action : Option Action) (hook : Option Hook) (g : Option Generator)

include h

theorem ask (hm : m ∈ ms) : m.ask ⟨{ s with history := log }, scene, action, hook⟩ g =
    m.ask ⟨s, scene, action, hook⟩ g := by
  unfold RuleModule.ask
  simp only [h.results m hm]

theorem firstHandled :
    Registry.firstHandled ⟨{ s with history := log }, scene, action, hook⟩ ms g =
      Registry.firstHandled ⟨s, scene, action, hook⟩ ms g := by
  induction ms generalizing g with
  | nil => rfl
  | cons m ms ih =>
      simp only [Registry.firstHandled, h.ask s log scene action hook g List.mem_cons_self,
        ih h.tail]

/-- **What happens at a hook does not depend on the log.** -/
theorem resolve : ms.resolve ⟨{ s with history := log }, scene, action, hook⟩ g =
    ms.resolve ⟨s, scene, action, hook⟩ g := by
  unfold Registry.resolve
  dsimp only
  split
  · split
    · exact h.firstHandled s log scene action hook g
    · split
      · next m hm => exact h.ask s log scene action hook g (List.mem_of_find?_eq_some hm)
      · rfl
  · exact h.firstHandled s log scene action hook g

end Registry.NeverReadsLog

/-! ### Effects -/

theorem GameState.moveTo_history (s : GameState) (log : List Event) (location : Option String) :
    GameState.moveTo { s with history := log } location =
      { s.moveTo location with history := log } := by
  unfold moveTo
  split <;> rfl

/-- An effect on a companion does not read the log. -/
theorem changeCompanion_history (kind id : String) (s : GameState) (log : List Event)
    (f : Companionship → Except Fault Companionship) :
    changeCompanion kind id { s with history := log } f =
      (changeCompanion kind id s f).map fun out => ({ out.1 with history := log }, out.2) := by
  unfold changeCompanion
  have hfind : GameState.party { s with history := log } = s.party := rfl
  rw [hfind]
  split
  · rfl
  · next c _ => cases f c <;> rfl

/-- **Effects do not read the log.** -/
theorem Effect.outcome_history (e : Engine) (s : GameState) (log : List Event) (effect : Effect) :
    effect.outcome e { s with history := log } =
      (effect.outcome e s).map fun out => ({ out.1 with history := log }, out.2) := by
  cases effect with
  | modifyStat key change =>
      show (change.apply (s.character.stat key)).map _ = ((change.apply _).map _).map _
      cases change.apply (s.character.stat key) <;> rfl
  | modifyVar key delta =>
      simp only [outcome]
      split <;> rfl
  | teleport scene location =>
      simp only [outcome, GameState.moveTo_history]
      rfl
  | modifyRelationship target change =>
      simp only [outcome]
      cases (((s.relationships.getD []).get? target).getD .neutral).changed change <;> rfl
  | addCompanion id =>
      have hfind : GameState.party { s with history := log } = s.party := rfl
      simp only [outcome, Engine.join, hfind, Except.map]
      split <;> rfl
  | setCompanionFlag id key value => exact changeCompanion_history _ id s log _
  | modifyCompanionRelationship id change => exact changeCompanion_history _ id s log _
  | _ => rfl

/-! ### Turns -/

variable {e : Engine}

/-- Asking a condition draws nothing. -/
theorem Engine.rng_holds (e : Engine) (c : Condition) (p : Play) :
    ((e.holds c).on p).2.rng = p.rng := by
  unfold holds
  rw [Turn.on_bind_ok (Turn.on_state p)]
  cases c with
  | expression text =>
      dsimp only
      split
      · rfl
      · rfl
      · rw [on_consult_noted]
        rfl
  | custom type further =>
      dsimp only
      rw [Turn.on_ofExcept]
  | _ => rfl

/-- **The engine runs in lockstep whatever the logs**, if the modules do not read them. -/
theorem lockstep_sameButLog (h : e.modules.NeverReadsLog) :
    Lockstep e e GameState.SameButLog where
  scene _ := rfl
  locale := rfl
  maxHops := rfl
  place := by
    rintro s _ ⟨log, rfl⟩
    rfl
  recorded := by
    rintro s _ ⟨log, rfl⟩ kind sceneId actionId data
    exact ⟨_, rfl⟩
  moved := by
    rintro s _ ⟨log, rfl⟩ scene
    rw [GameState.moveTo_history s log]
    exact ⟨log, rfl⟩
  affected := by
    rintro s _ ⟨log, rfl⟩ effect
    have houtcome := Effect.outcome_history e s log effect
    cases ho : effect.outcome e s with
    | error f =>
        rw [ho] at houtcome
        exact .inl ⟨f, rfl, houtcome⟩
    | ok out =>
        rw [ho] at houtcome
        exact .inr ⟨out.1, _, out.2, rfl, houtcome, log, rfl⟩
  answered c := by
    intro p q hpq
    -- both plays may get a note, and the notes need not even be the same
    have hp := underLooking_sameButLog.keeps_holds (e := e) c p
    have hq := underLooking_sameButLog.keeps_holds (e := e) c q
    refine ⟨e.on_holds_sameButLog h.answers c hpq.state, ?_, hp.symm.trans (hpq.state.trans hq)⟩
    rw [e.rng_holds, e.rng_holds, hpq.rng]
  asked := by
    rintro s _ ⟨log, rfl⟩ scene action hook g
    exact h.resolve s log scene action hook g

/-! ### Games on one engine -/

/-- The games that have begun on one engine, in order, and what they share. -/
structure Games where
  shared : Shared
  states : List GameState

/-- What is called for: a new game, with a character or with what describes one, a move in one of
the games, or a look at it. -/
inductive Call where
  | begin (c : Character)
  | beginAs (seed : Json)
  | enter (game : Nat) (sceneId : String)
  | leave (game : Nat) (ref : ExitRef)
  | act (game : Nat) (actionId : String)
  | look (game : Nat)

def Call.isLook : Call → Bool
  | look _ => true
  | _ => false

namespace Games

/-- Begins a game. -/
def begin (e : Engine) (c : Character) (gs : Games) : Games :=
  let (s, shared) := e.newGame c gs.shared
  ⟨shared, gs.states ++ [s]⟩

/-- Carries a turn out on one of the games; a game that has not begun has none. -/
def turn (game : Nat) (t : Turn SceneView) (gs : Games) :
    Except Fault (Option SceneView) × Games :=
  match gs.states[game]? with
  | none => (.ok none, gs)
  | some s =>
    let (r, s, shared) := gs.shared.carryOut s t
    (r.map some, ⟨shared, gs.states.set game s⟩)

end Games

/-- What comes of a call: a view if it ends with one, or a fault, and the games after it. -/
def Call.on (e : Engine) : Call → Games → Except Fault (Option SceneView) × Games
  | begin c, gs => (.ok none, gs.begin e c)
  | beginAs seed, gs =>
    match Character.ofSeed seed with
    | .ok c => (.ok none, gs.begin e c)
    | .error f => (.error f, gs)
  | enter game id, gs => gs.turn game (e.enter id)
  | leave game ref, gs => gs.turn game (e.leave ref)
  | act game id, gs => gs.turn game (e.act id)
  | look game, gs => gs.turn game e.look

/-- **What comes of calls in a row**, each with what came of it, and the games after the last. -/
def Games.run (e : Engine) :
    List Call → Games → List (Call × Except Fault (Option SceneView)) × Games
  | [], gs => ([], gs)
  | c :: cs, gs =>
    ((c, (c.on e gs).1) :: (run e cs (c.on e gs).2).1, (run e cs (c.on e gs).2).2)

/-- **Games that differ in nothing but their logs**, and share the same generator. -/
structure Games.SameButLogs (gs gs' : Games) : Prop where
  rng : gs'.shared.rng = gs.shared.rng
  count : gs'.states.length = gs.states.length
  states : ∀ (i : Nat) (s s' : GameState), gs.states[i]? = some s → gs'.states[i]? = some s' →
    s.SameButLog s'

namespace Games.SameButLogs

variable {gs gs' : Games}

theorem refl (gs : Games) : gs.SameButLogs gs := by
  refine ⟨rfl, rfl, fun i s s' hs hs' => ?_⟩
  cases hs.symm.trans hs'
  exact .refl s

theorem trans {gs'' : Games} (h : gs.SameButLogs gs') (h' : gs'.SameButLogs gs'') :
    gs.SameButLogs gs'' := by
  refine ⟨h'.rng.trans h.rng, h'.count.trans h.count, fun i s s'' hs hs'' => ?_⟩
  have hi : i < gs'.states.length := by
    rw [h.count]
    exact (List.getElem?_eq_some_iff.1 hs).1
  have hs' := List.getElem?_eq_getElem hi
  exact (h.states i s _ hs hs').trans (h'.states i _ s'' hs' hs'')

/-- In both, a game has begun or has not. -/
theorem getElem?_cases (h : gs.SameButLogs gs') (i : Nat) :
    (gs.states[i]? = none ∧ gs'.states[i]? = none) ∨
      ∃ s s', gs.states[i]? = some s ∧ gs'.states[i]? = some s' ∧ s.SameButLog s' := by
  by_cases hi : i < gs.states.length
  · have hi' : i < gs'.states.length := h.count ▸ hi
    have hs := List.getElem?_eq_getElem hi
    have hs' := List.getElem?_eq_getElem hi'
    exact .inr ⟨_, _, hs, hs', h.states i _ _ hs hs'⟩
  · left
    rw [List.getElem?_eq_none_iff, List.getElem?_eq_none_iff, h.count]
    omega

/-- One of the games changes, and what is shared. -/
theorem set (h : gs.SameButLogs gs') {s s' : GameState} (hs : s.SameButLog s') (i : Nat)
    {shared shared' : Shared} (hrng : shared'.rng = shared.rng) :
    SameButLogs ⟨shared, gs.states.set i s⟩ ⟨shared', gs'.states.set i s'⟩ where
  rng := hrng
  count := by simp [h.count]
  states j t t' ht ht' := by
    by_cases hij : i = j
    · subst hij
      rw [List.getElem?_set_self', Option.map_eq_map, Option.map_eq_some_iff] at ht ht'
      obtain ⟨-, -, rfl⟩ := ht
      obtain ⟨-, -, rfl⟩ := ht'
      exact hs
    · rw [List.getElem?_set_ne hij] at ht ht'
      exact h.states j t t' ht ht'

theorem begin (h : gs.SameButLogs gs') (c : Character) :
    (gs.begin e c).SameButLogs (gs'.begin e c) where
  rng := h.rng
  count := by simp [Games.begin, h.count]
  states i s s' hs hs' := by
    simp only [Games.begin, Engine.newGame, List.getElem?_append, h.count] at hs hs'
    split at hs
    · next hi =>
      rw [if_pos hi] at hs'
      exact h.states i s s' hs hs'
    · next hi =>
      rw [if_neg hi] at hs'
      cases hs.symm.trans hs'
      exact .refl s

/-- A turn in lockstep, carried out on one of the games. -/
theorem turn (h : gs.SameButLogs gs') {t : Turn SceneView}
    (ht : t.Alike GameState.SameButLog t) (i : Nat) :
    (gs'.turn i t).1 = (gs.turn i t).1 ∧ (gs.turn i t).2.SameButLogs (gs'.turn i t).2 := by
  unfold Games.turn
  rcases h.getElem?_cases i with ⟨hs, hs'⟩ | ⟨s, s', hs, hs', hlog⟩
  · rw [hs, hs']
    exact ⟨rfl, h⟩
  · rw [hs, hs']
    obtain ⟨hres, hlike⟩ := ht ⟨gs.shared, s⟩ ⟨gs'.shared, s'⟩ ⟨h.rng, hlog⟩
    exact ⟨congrArg (Except.map some) hres, h.set hlike.state i hlike.rng⟩

end Games.SameButLogs

namespace Games

variable {gs gs' : Games}

/-- **A call does the same in games that differ in nothing but their logs.** -/
theorem on_sameButLogs (hm : e.modules.NeverReadsLog) (h : gs.SameButLogs gs') (c : Call) :
    (c.on e gs').1 = (c.on e gs).1 ∧ (c.on e gs).2.SameButLogs (c.on e gs').2 := by
  have hstep := lockstep_sameButLog hm
  cases c with
  | begin c => exact ⟨rfl, h.begin c⟩
  | beginAs seed =>
      simp only [Call.on]
      cases Character.ofSeed seed with
      | ok c => exact ⟨rfl, h.begin c⟩
      | error f => exact ⟨rfl, h⟩
  | enter i id => exact h.turn (hstep.alike_enter id) i
  | leave i ref => exact h.turn (hstep.alike_leave ref) i
  | act i id => exact h.turn (hstep.alike_act id) i
  | look i => exact h.turn hstep.alike_look i

/-- **A look changes nothing but a log.** -/
theorem sameButLogs_look (e : Engine) (gs : Games) (i : Nat) :
    gs.SameButLogs ((Call.look i).on e gs).2 := by
  show gs.SameButLogs (gs.turn i e.look).2
  unfold turn
  cases hs : gs.states[i]? with
  | none => exact .refl gs
  | some s =>
      have hlog := underLooking_sameButLog.keeps_look (e := e) ⟨gs.shared, s⟩
      have hrng : (gs.shared.carryOut s e.look).2.2.rng = gs.shared.rng :=
        Step.idle_turn_look e gs.shared s
      have hset := (SameButLogs.refl gs).set hlog i hrng
      obtain ⟨hi, rfl⟩ := List.getElem?_eq_some_iff.1 hs
      rwa [List.set_getElem_self hi] at hset

/-- **Calls in a row, with and without the looks.** -/
theorem run_filter (hm : e.modules.NeverReadsLog) (h : gs.SameButLogs gs') (cs : List Call) :
    (gs.run e (cs.filter fun c => !c.isLook)).1 =
        (gs'.run e cs).1.filter (fun o => !o.1.isLook) ∧
      (gs.run e (cs.filter fun c => !c.isLook)).2.SameButLogs (gs'.run e cs).2 := by
  induction cs generalizing gs gs' with
  | nil => exact ⟨rfl, h⟩
  | cons c cs ih =>
      cases hc : c.isLook with
      | true =>
          -- the look is left out on one side, and changes no more than a log on the other
          have hlook : gs'.SameButLogs (c.on e gs').2 := by
            cases c with
            | look i => exact sameButLogs_look e gs' i
            | begin | beginAs | enter | leave | act => cases hc
          obtain ⟨hres, hgames⟩ := ih (h.trans hlook)
          simp only [run, List.filter_cons, hc, Bool.not_true, Bool.false_eq_true, if_false]
          exact ⟨hres, hgames⟩
      | false =>
          obtain ⟨hout, hafter⟩ := on_sameButLogs hm h c
          obtain ⟨hres, hgames⟩ := ih hafter
          simp only [run, List.filter_cons, hc, Bool.not_false, if_true, hout, hres, true_and]
          exact hgames

/-- Looks in a row show what each would have shown alone. -/
theorem run_looks (hm : e.modules.NeverReadsLog) (h : gs.SameButLogs gs') (is : List Nat) :
    (gs'.run e (is.map .look)).1 = is.map fun i => (.look i, ((Call.look i).on e gs).1) := by
  induction is generalizing gs' with
  | nil => rfl
  | cons i is ih =>
      have hlook := (on_sameButLogs hm h (.look i)).1
      simp only [List.map_cons, run, hlook, ih (h.trans (sameButLogs_look e gs' i))]

/-- **Looking changes the course of no game**, if the modules do not read the log.  Of any calls, in
games that share an engine, those that are no looks have the same views and faults as if they were
made without the looks.  After them the generator is the same, and so are all games, up to their
logs; as the calls may end anywhere, that holds throughout.  Looks in a row show what each of them
would have shown alone. -/
theorem run_without_looks (hm : e.modules.NeverReadsLog) (gs : Games) (cs : List Call) :
    (gs.run e cs).1.filter (fun o => !o.1.isLook) =
        (gs.run e (cs.filter fun c => !c.isLook)).1 ∧
      (gs.run e (cs.filter fun c => !c.isLook)).2.SameButLogs (gs.run e cs).2 ∧
      ∀ is : List Nat, ((gs.run e cs).2.run e (is.map .look)).1 =
        is.map fun i => (.look i, ((Call.look i).on e (gs.run e cs).2).1) := by
  obtain ⟨hres, hgames⟩ := run_filter hm (.refl gs) cs
  exact ⟨hres.symm, hgames, run_looks hm (.refl _)⟩

end Games

namespace LanternRoad

theorem engine_neverReadsLog : engine.modules.NeverReadsLog where
  answers := engine_forgetful
  results m hm s scene action hook log g := by
    obtain ⟨o, ho, settings, rfl⟩ := Engine.stemsFrom_of_build build_eq m hm
    simp only [setup, List.mem_cons, List.not_mem_nil, or_false] at ho
    rcases ho with rfl | rfl | rfl <;> rfl

end LanternRoad

/-- A traveller who looks around on the Lantern Road, before the lantern is lit and after. -/
theorem Games.run_without_looks_lanternRoad :
    let e := LanternRoad.engine
    let gs : Games := ⟨LanternRoad.alone, []⟩
    let cs : List Call := [.beginAs .null, .enter 0 "scene.gate", .look 0, .act 0 "act.lantern",
      .look 0, .look 0]
    (gs.run e cs).1.all (fun o => o.2.isOk) = true ∧
      (gs.run e cs).1.filter (fun o => !o.1.isLook) =
        (gs.run e (cs.filter fun c => !c.isLook)).1 ∧
      (gs.run e (cs.filter fun c => !c.isLook)).2.SameButLogs (gs.run e cs).2 ∧
      ∀ is : List Nat, ((gs.run e cs).2.run e (is.map .look)).1 =
        is.map fun i => (.look i, ((Call.look i).on e (gs.run e cs).2).1) :=
  ⟨by decide +kernel, Games.run_without_looks LanternRoad.engine_neverReadsLog _ _⟩

end Storyworld
