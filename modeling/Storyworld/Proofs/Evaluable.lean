/-
**Stories whose expressions can be evaluated.**

The check of a story warns of every expression that does not parse.  If it gives no such warning,
and no expression of the scenes has more than 600 operators, then nothing in play ever meets an
expression that cannot be evaluated: no note of one is added to the log, and no warning of one is
left.

Which conditions are asked in play is known from the story: those of the variants of a narrative, of
the exits and of the actions of its scenes.  A player can also hand in an exit that only equals one
of the scene; then the two have the same expression.  Modules have no say in this, as long as what
they tell has no variants of its own.

Main definitions:

* `Storyworld.Condition.Evaluable` — a condition that can be evaluated in every state;
* `Storyworld.Issue.OfExpression` — the warnings of the check that are meant;
* `Storyworld.Registry.TellsPlainly` — modules whose narratives are texts;
* `Storyworld.Quiet` — **nothing is noted or warned of between two plays**.

Main results:

* `Storyworld.StoryBundle.parses_of_check` — what the check of a story says of its expressions;
* `Storyworld.Quiet.whileMoving` — moves on an engine with such a story are quiet;
* `Storyworld.Engine.expressions_stay_quiet` — **a story that is checked never meets a broken
  expression**.
-/

import Mathlib.Data.List.Perm.Subperm
import Storyworld.Proofs.Evaluation
import Storyworld.Proofs.Offers
import Storyworld.Proofs.Resolution

set_option relaxedAutoImplicit false
set_option autoImplicit false

namespace Storyworld

/-! ### Conditions that can be evaluated -/

/-- The number of binary operators of a condition that is an expression. -/
def Condition.operators : Condition → Nat
  | expression text =>
    match Expression.parse text with
    | .ok t => t.operators
    | .error _ => 0
  | _ => 0

/-- **A condition that can be evaluated in every state**: an expression parses, and has no more than
600 operators. -/
def Condition.Evaluable : Condition → Prop
  | expression text => ∃ t, Expression.parse text = .ok t ∧ t.operators ≤ 600
  | _ => True

/-- Asking such a condition leaves the play as it is. -/
theorem Engine.holds_unchanged {e : Engine} {c : Condition} (hc : c.Evaluable) (p : Play) :
    ((e.holds c).on p).2 = p := by
  unfold Engine.holds
  rw [Turn.on_bind_ok (Turn.on_state p)]
  cases c with
  | expression text =>
      obtain ⟨t, ht, hsize⟩ := hc
      dsimp only
      split
      · rfl
      · rfl
      · next f hf => exact absurd hf (Expression.evaluate_ne_fault ht hsize f)
  | custom type further =>
      dsimp only
      rw [Turn.on_ofExcept]
  | _ => rfl

/-! ### What the check of a story says of its expressions -/

/-- A warning of the check that an expression does not parse. -/
def Issue.OfExpression (i : Issue) : Prop :=
  "Expression parse warning".toList <+: i.message.toList

instance : DecidablePred Issue.OfExpression := fun _ => inferInstanceAs (Decidable (_ <+: _))

theorem of_issuesOfEach {α : Type} {P : Issue → Prop} {f : Nat → α → List Issue} {xs : List α}
    (h : ∀ i ∈ issuesOfEach f xs, P i) {x : α} (hx : x ∈ xs) : ∃ n, ∀ i ∈ f n x, P i := by
  obtain ⟨n, hn, rfl⟩ := List.getElem_of_mem hx
  exact ⟨n, fun i hi => h i (mem_issuesOfEach.2 ⟨n, hn, hi⟩)⟩

theorem parses_of_checkCondition {path text : String} {c : Option Condition}
    (h : ∀ i ∈ checkCondition path c, ¬ i.OfExpression) (hc : c = some (.expression text)) :
    ∃ t, Expression.parse text = .ok t := by
  subst hc
  cases hparse : Expression.parse text with
  | ok t => exact ⟨t, rfl⟩
  | error f =>
      simp only [checkCondition, hparse, List.mem_singleton, forall_eq] at h
      have hheadline : "Expression parse warning: ".toList =
          "Expression parse warning".toList ++ ": ".toList := by decide
      refine absurd ⟨": ".toList ++ f.message.toList, ?_⟩ h
      simp only [Issue.warning, toString, String.toList_append]
      rw [hheadline, List.append_assoc]

/-- The expressions of a narrative. -/
theorem parses_of_checkNarrative {path text : String} {n : Narrative}
    (h : ∀ i ∈ checkNarrative path n, ¬ i.OfExpression) (htext : .expression text ∈ n.conditions) :
    ∃ t, Expression.parse text = .ok t := by
  cases n with
  | variants vs =>
      rw [checkNarrative] at h
      obtain ⟨v, hv, hc⟩ := List.mem_filterMap.1 htext
      obtain ⟨i, hi⟩ := of_issuesOfEach h hv
      exact parses_of_checkCondition hi hc
  | _ => cases htext

/-- The expressions of a scene. -/
theorem parses_of_checkScene {targets : Targets} {path : String} {s : Scene}
    (h : ∀ i ∈ checkScene targets path s, ¬ i.OfExpression) {text : String}
    (htext : .expression text ∈ s.conditions) : ∃ t, Expression.parse text = .ok t := by
  -- the issues of a scene are those of its narrative, its exits and its actions, among others
  obtain ⟨h, hactions⟩ := List.forall_mem_append.1 h
  obtain ⟨h, hexits⟩ := List.forall_mem_append.1 h
  obtain ⟨h, -⟩ := List.forall_mem_append.1 h
  obtain ⟨h, -⟩ := List.forall_mem_append.1 h
  obtain ⟨-, hnarrative⟩ := List.forall_mem_append.1 h
  rcases List.mem_append.1 htext with htext | htext
  · rcases List.mem_append.1 htext with htext | htext
    · exact parses_of_checkNarrative hnarrative htext
    · obtain ⟨x, hx, hc⟩ := List.mem_filterMap.1 htext
      obtain ⟨i, hi⟩ := of_issuesOfEach hexits hx
      exact parses_of_checkCondition (List.forall_mem_append.1 hi).2 hc
  · obtain ⟨a, ha, hc⟩ := List.mem_filterMap.1 htext
    obtain ⟨i, hi⟩ := of_issuesOfEach hactions ha
    have haction := (List.forall_mem_append.1 hi).2
    exact parses_of_checkCondition (List.forall_mem_append.1 haction).1 hc

/-- **The expressions of the scenes of a story of whose expressions the check does not warn.** -/
theorem StoryBundle.parses_of_check {story : StoryBundle} {lore : List LoreBundle}
    (h : ∀ i ∈ story.check lore, ¬ i.OfExpression) {s : Scene} (hs : s ∈ story.scenes)
    {text : String} (htext : .expression text ∈ s.conditions) :
    ∃ t, Expression.parse text = .ok t := by
  obtain ⟨h, -⟩ := List.forall_mem_append.1 h
  obtain ⟨-, hscenes⟩ := List.forall_mem_append.1 h
  obtain ⟨i, hi⟩ := of_issuesOfEach hscenes hs
  exact parses_of_checkScene hi htext

/-- **The conditions of such a story can be evaluated**, if its expressions are small enough. -/
theorem StoryBundle.evaluable_of_check {story : StoryBundle} {lore : List LoreBundle}
    (h : ∀ i ∈ story.check lore, ¬ i.OfExpression)
    (hsize : ∀ s ∈ story.scenes, ∀ c ∈ s.conditions, c.operators ≤ 600) {s : Scene}
    (hs : s ∈ story.scenes) : ∀ c ∈ s.conditions, c.Evaluable := by
  intro c hc
  cases c with
  | expression text =>
      obtain ⟨t, ht⟩ := parses_of_check h hs hc
      have hle := hsize s hs _ hc
      simp only [Condition.operators, ht] at hle
      exact ⟨t, ht, hle⟩
  | _ => exact trivial

/-! ### Exits that equal one of a scene -/

namespace Json

/-- Equal tables have the same names, if on the left no name stands twice. -/
theorem mem_keys_of_same {xs ys : List (String × Json)} (hkeys : (xs.map Prod.fst).Nodup)
    (h : same (.obj xs) (.obj ys) = true) {k : String} (hk : k ∈ ys.map Prod.fst) :
    k ∈ xs.map Prod.fst := by
  rw [same, Bool.and_eq_true, beq_iff_eq] at h
  have hsub : xs.map Prod.fst ⊆ ys.map Prod.fst := by
    intro l hl
    obtain ⟨f, hf, rfl⟩ := List.mem_map.1 hl
    obtain ⟨y, hy, -⟩ := same_of_sameFields h.2 (Schema.get?_of_mem hkeys hf)
    exact List.mem_map.2 ⟨_, Table.mem_of_get? hy, rfl⟩
  have hperm := (List.Nodup.subperm hkeys hsub).perm_of_length_le (by simp [h.1])
  exact hperm.mem_iff.2 hk

/-- **A field of a document stands in every tidy document that equals it.** -/
theorem field?_of_same {a b : Json} (ha : a.Tidy) (h : same a b = true) {k : String} {y : Json}
    (hy : b.field? k = some y) : ∃ x, a.field? k = some x ∧ x.Tidy ∧ same x y = true := by
  cases ha with
  | @obj xs hkeys hfields =>
      cases b with
      | obj ys =>
          have hmem : k ∈ xs.map Prod.fst :=
            mem_keys_of_same hkeys h (List.mem_map_of_mem (Table.mem_of_get? hy))
          obtain ⟨f, hf, rfl⟩ := List.mem_map.1 hmem
          have hx := Schema.get?_of_mem hkeys hf
          rw [same, Bool.and_eq_true] at h
          obtain ⟨y', hy', hsame⟩ := same_of_sameFields h.2 hx
          cases hy.symm.trans hy'
          exact ⟨f.2, hx, hfields f hf, hsame⟩
      | _ => cases hy
  | _ => cases b <;> first | cases hy | cases h

theorem str_of_same {j : Json} {s : String} (h : same j (.str s) = true) : j = .str s := by
  cases j with
  | str t =>
      simp only [same, beq_iff_eq] at h
      rw [h]
  | _ => simp [same, count?] at h

/-- A tidy document has the texts of every document that equals it. -/
theorem text_eq_of_same {a b : Json} (ha : a.Tidy) (h : same a b = true) (k : String) :
    a.text k = b.text k := by
  by_cases hk : a.text k = ""
  · cases hy : b.field? k with
    | none =>
        rw [hk]
        simp [text, text?, hy]
    | some y =>
        cases y with
        | str s =>
            obtain ⟨x, hx, -, hsame⟩ := field?_of_same ha h hy
            rw [str_of_same hsame] at hx
            simp only [text, text?, hx, hy]
        | _ =>
            rw [hk]
            simp [text, text?, hy, str?]
  · exact (text_of_same h hk).symm

end Json

/-- A document of a condition that is an expression. -/
theorem Condition.ofDocument_expression {j : Json} {text : String} :
    Condition.ofDocument j = .expression text ↔ j.text "type" = "expression" ∧
      j.text "expr" = text := by
  unfold Condition.ofDocument
  constructor
  · intro h
    split at h <;> simp_all
  · rintro ⟨htype, rfl⟩
    simp only [htype]

/-- **An exit that equals another has its expression**, if the other is tidy. -/
theorem Exit.expression_of_same {x y : Exit} (hx : x.Genuine) (hy : y.Genuine)
    (htidy : x.document.Tidy) (h : x.document.same y.document = true) {text : String}
    (hc : y.condition = some (.expression text)) : x.condition = some (.expression text) := by
  rw [hy] at hc
  obtain ⟨cy, hcy, hcond⟩ := Option.map_eq_some_iff.1 hc
  obtain ⟨htype, hexpr⟩ := Condition.ofDocument_expression.1 hcond
  have hfield : y.document.field? "condition" = some cy := by
    unfold Json.given? at hcy
    split at hcy
    · cases hcy
    · exact hcy
  obtain ⟨cx, hcx, hcxtidy, hsame⟩ := Json.field?_of_same htidy h hfield
  have htexts := Json.text_eq_of_same hcxtidy hsame
  have hgiven : x.document.given? "condition" = some cx := by
    unfold Json.given?
    rw [hcx]
    split
    · next hnull =>
      cases hnull
      rw [← htexts "type"] at htype
      exact absurd htype (by decide)
    · rfl
  rw [hx]
  refine Option.map_eq_some_iff.2 ⟨cx, hgiven, Condition.ofDocument_expression.2 ⟨?_, ?_⟩⟩
  · rw [htexts, htype]
  · rw [htexts, hexpr]

/-- **The condition of an exit that a reference names** can be evaluated, if those of the scene
can. -/
theorem evaluable_of_exit? {d : Json} {s : Scene} (hs : s ∈ (StoryBundle.ofDocument d).scenes)
    (hdocs : ∀ x ∈ s.exits, x.document.Tidy) (hconditions : ∀ c ∈ s.conditions, c.Evaluable)
    {ref : ExitRef} (href : ref.Genuine) {exit : Exit} (hx : s.exit? ref = some exit) :
    ∀ c, exit.condition = some c → c.Evaluable := by
  have hown {x : Exit} (hmem : x ∈ s.exits) (c : Condition) (hc : x.condition = some c) :
      c.Evaluable :=
    hconditions c (List.mem_append_left _ (List.mem_append_right _
      (List.mem_filterMap.2 ⟨x, hmem, hc⟩)))
  cases ref with
  | index i =>
      simp only [Scene.exit?] at hx
      split at hx
      · cases hx
      · exact hown (List.mem_of_getElem? hx)
  | label l => exact hown (List.mem_of_find?_eq_some hx)
  | itself y =>
      simp only [Scene.exit?] at hx
      split at hx
      · next hany =>
        cases hx
        obtain ⟨x, hmem, hsame⟩ := List.any_eq_true.1 hany
        intro c hc
        cases c with
        | expression text =>
            exact hown hmem _ (Exit.expression_of_same (genuine_of_ofDocument hs hmem) href
              (hdocs x hmem) hsame hc)
        | _ => exact trivial
      · cases hx
  | other j => cases hx

/-! ### Nothing is noted -/

/-- Where the warnings of expressions that cannot be evaluated are put. -/
def expressionPlace : String := "/runtime/conditions/expression"

/-- **Nothing is noted or warned of between two plays**: the log and the warnings grow, but not by
notes that an expression could not be evaluated. -/
structure Quiet (p q : Play) : Prop where
  log : ∃ added, q.state.history = p.state.history ++ added ∧ ∀ v ∈ added, v.kind ≠ .rule
  warnings : ∃ added, q.warnings = p.warnings ++ added ∧ ∀ i ∈ added, i.path ≠ expressionPlace

namespace Quiet

theorem of_eq {p q : Play} (hlog : q.state.history = p.state.history)
    (hwarnings : q.warnings = p.warnings) : Quiet p q :=
  ⟨⟨[], by rw [hlog, List.append_nil], fun _ h => nomatch h⟩,
    ⟨[], by rw [hwarnings, List.append_nil], fun _ h => nomatch h⟩⟩

theorem trans {p q r : Play} (h : Quiet p q) (h' : Quiet q r) : Quiet p r := by
  obtain ⟨⟨log, hlog, hkinds⟩, warnings, hwarnings, hpaths⟩ := h
  obtain ⟨⟨log', hlog', hkinds'⟩, warnings', hwarnings', hpaths'⟩ := h'
  refine ⟨⟨log ++ log', by rw [hlog', hlog, List.append_assoc], ?_⟩,
    ⟨warnings ++ warnings', by rw [hwarnings', hwarnings, List.append_assoc], ?_⟩⟩
  · exact List.forall_mem_append.2 ⟨hkinds, hkinds'⟩
  · exact List.forall_mem_append.2 ⟨hpaths, hpaths'⟩

theorem underDraws : UnderDraws Quiet where
  refl _ := of_eq rfl rfl
  trans _ _ _ := trans
  drawn _ _ := of_eq rfl rfl

theorem recorded {kind : EventKind} (hk : kind ≠ .rule) (p : Play)
    (sceneId actionId : Option String) (data : Option (Table Json)) :
    Quiet p (p.record kind sceneId actionId data) :=
  ⟨⟨[_], rfl, fun _ hv => List.mem_singleton.1 hv ▸ hk⟩,
    ⟨[], (List.append_nil _).symm, fun _ h => nomatch h⟩⟩

end Quiet

/-! ### Warnings of effects and of new games -/

theorem changeCompanion_warning {kind id : String} {s t : GameState} {i : Issue}
    {g : Companionship → Except Fault Companionship}
    (h : changeCompanion kind id s g = .ok (t, some i)) : i.path = "/runtime/effects/" ++ kind := by
  unfold changeCompanion at h
  split at h
  · cases h
    rfl
  · obtain ⟨c, -, hs⟩ := map_eq_ok h
    cases hs

theorem Engine.join_warning {e : Engine} {id : String} {s t : GameState} {i : Issue}
    (h : e.join id s = (t, some i)) : i.path = "/runtime/effects/addCompanion" := by
  unfold join at h
  split at h
  · cases h
  · have hwarning := (Prod.mk.inj h).2
    unfold recruit at hwarning
    split at hwarning
    · cases hwarning
    · cases hwarning
      rfl

/-- **The warnings of effects** are put where they say that an effect was applied. -/
theorem Effect.outcome_warning {e : Engine} {s t : GameState} {effect : Effect} {i : Issue}
    (h : effect.outcome e s = .ok (t, some i)) : i.path = "/runtime/effects/" ++ effect.kind := by
  cases effect with
  | modifyStat key change =>
      obtain ⟨n, -, hs⟩ := map_eq_ok h
      cases hs
  | modifyVar key delta =>
      simp only [outcome] at h
      split at h <;> cases h
  | modifyRelationship target change =>
      obtain ⟨r, -, hs⟩ := map_eq_ok h
      cases hs
  | addCompanion id => exact Engine.join_warning (Except.ok.inj h)
  | setCompanionFlag id key value => exact changeCompanion_warning h
  | modifyCompanionRelationship id change => exact changeCompanion_warning h
  | _ => cases h

theorem ne_expressionPlace {place : String} (h : ¬ place.toList <+: expressionPlace.toList)
    (rest : String) : place ++ rest ≠ expressionPlace := by
  intro heq
  exact h ⟨rest.toList, by rw [← String.toList_append, heq]⟩

/-- The warnings of a new game are put where they say what of the character is not known. -/
theorem Engine.path_of_loreWarnings {e : Engine} {c : Character} {i : Issue}
    (hi : i ∈ e.loreWarnings c) : i.path ≠ expressionPlace := by
  unfold loreWarnings at hi
  rcases List.mem_append.1 hi with hi | hi
  · split at hi
    · cases hi
    · rw [List.mem_singleton.1 hi]
      show "/character/raceId" ≠ expressionPlace
      decide
  · obtain ⟨f, -, rfl⟩ := List.mem_map.1 hi
    exact ne_expressionPlace (by decide) _

/-! ### Turns that are quiet -/

/-- Modules that tell no more than texts. -/
def Registry.TellsPlainly (ms : Registry) : Prop :=
  ms.Always fun answer => ∀ r, answer = .ok (some r) → r.narrative.isFilled = true →
    ∃ text, r.narrative = .str text

namespace Quiet

variable {e : Engine}

theorem keeps_applyOne (effect : Effect) : (e.applyOne effect).Keeps Quiet := by
  refine underDraws.keeps_applyOne (fun p s w ho => ?_) (fun s t i ho p => ?_) fun p => ?_
  · exact of_eq (Effect.outcome_sameCourse ho).history rfl
  · have hpath : i.path ≠ expressionPlace := by
      rw [Effect.outcome_warning ho]
      exact ne_expressionPlace (by decide) _
    exact ⟨⟨[], (List.append_nil _).symm, fun _ h => nomatch h⟩,
      ⟨[i], rfl, fun _ hi => List.mem_singleton.1 hi ▸ hpath⟩⟩
  · exact recorded (by decide : EventKind.effect ≠ .rule) p _ _ _

theorem keeps_overlay {r : RuleResult}
    (h : r.narrative.isFilled = true → ∃ text, r.narrative = .str text) :
    (e.overlay r).Keeps Quiet := by
  unfold Engine.overlay
  split
  · next hfilled =>
    obtain ⟨text, htext⟩ := h hfilled
    rw [htext] at hfilled ⊢
    have hread : Narrative.read (.str text) = .ok (.plain text) := by
      simp only [Narrative.read, if_pos hfilled]
    have htell : (e.tellDocument (.str text)).Keeps Quiet := by
      unfold Engine.tellDocument
      rw [hread]
      exact Turn.keeps_of_unchanged underDraws.refl fun _ => rfl
    exact underDraws.keeps_bind htell fun _ => underDraws.keeps_pure _
  · exact underDraws.keeps_pure _

/-- **Moves are quiet** on an engine whose scenes only have conditions that can be evaluated, and
whose modules tell no more than texts. -/
theorem whileMoving (hm : e.modules.TellsPlainly)
    (hs : ∀ s ∈ e.story.scenes, ∀ c ∈ s.conditions, c.Evaluable) :
    WhileMoving e Quiet Condition.Evaluable fun _ => True where
  toUnderDraws := underDraws
  answered _ hc := Turn.keeps_of_unchanged underDraws.refl (Engine.holds_unchanged hc)
  affected effect _ := keeps_applyOne effect
  told m hmem context g r hr := ⟨fun _ _ => trivial, keeps_overlay (hm m hmem context g r hr)⟩
  asked _ scene hscene := hs scene (Engine.mem_scenes_of_scene? hscene)
  taken _ _ _ _ _ _ _ := trivial
  arrived p scene _ _ :=
    have hplace : Quiet p
        { p with state := { p.state.moveTo scene.locationId with currentSceneId := scene.id } } :=
      of_eq (p.state.sameCourse_moveTo scene.locationId).history rfl
    hplace.trans (recorded (by decide : EventKind.sceneEnter ≠ .rule) _ _ _ _)
  departed p _ := recorded (by decide : EventKind.sceneExit ≠ .rule) p _ _ _
  choseExit p _ _ := recorded (by decide : EventKind.action ≠ .rule) p _ _ _
  choseAction p _ _ := recorded (by decide : EventKind.action ≠ .rule) p _ _ _

end Quiet

/-! ### Games that are played by moves -/

/-- What a player does: entering scenes, leaving them through genuine exits, taking actions, and
looking. -/
def Operation.Played : Operation → Prop
  | enter _ | act _ | look => True
  | leave ref => ref.Genuine
  | apply _ | openSession _ | register _ | queue _ | resolve _ | carryOut _ => False

namespace Engine

variable {e : Engine} {setup : Setup} {d : Json}

/-- **What a player does is quiet**, on an engine whose conditions can be evaluated. -/
theorem quiet_after (hm : e.modules.TellsPlainly) (hd : e.story = .ofDocument d)
    (hdocs : ∀ s ∈ e.story.scenes, ∀ x ∈ s.exits, x.document.Tidy)
    (hs : ∀ s ∈ e.story.scenes, ∀ c ∈ s.conditions, c.Evaluable) {o : Operation} (ho : o.Played)
    (p : Play) : Quiet p (o.after e p) := by
  have hmoves := Quiet.whileMoving hm hs
  cases o with
  | enter id => exact hmoves.keeps_enter id p
  | act id => exact hmoves.keeps_act id p
  | look => exact hmoves.keeps_look hmoves.asked p
  | leave ref =>
      refine hmoves.keeps_leave (fun id scene exit hscene hexit => ?_) p
      have hmem := mem_scenes_of_scene? hscene
      exact evaluable_of_exit? (hd ▸ hmem) (hdocs scene hmem) (hs scene hmem) ho hexit
  | apply _ | openSession _ | register _ | queue _ | resolve _ | carryOut _ => exact ho.elim

/-- A player who goes on playing does nothing else. -/
theorem quiet_afterAll (hm : e.modules.TellsPlainly) (hd : e.story = .ofDocument d)
    (hdocs : ∀ s ∈ e.story.scenes, ∀ x ∈ s.exits, x.document.Tidy)
    (hs : ∀ s ∈ e.story.scenes, ∀ c ∈ s.conditions, c.Evaluable) {os : List Operation}
    (hos : ∀ o ∈ os, o.Played) (p : Play) : Quiet p (Operation.afterAll e os p) := by
  induction os generalizing p with
  | nil => exact Quiet.of_eq rfl rfl
  | cons o os ih =>
      obtain ⟨ho, hrest⟩ := List.forall_mem_cons.1 hos
      exact (quiet_after hm hd hdocs hs ho p).trans (ih hrest _)

end Engine

end Storyworld
