/-
**When evaluating an expression gives an answer.**

A text that cannot be parsed has the fault of the parser as its outcome.  A text that can be parsed
has an answer, with two exceptions.  Evaluation may go down too far, which takes hundreds of
operators.  And it may come to an ordering comparison with an integer that is too large for a
floating-point number; then evaluation fails.

It does not matter which comparisons stand in an expression, but which of them evaluation comes to.

A list counts as its only item, and so a comparison goes down into the lists around a value.  It goes
down no further than lists and tables are nested in the state.

Main definitions:

* `Storyworld.Json.CountsAs` — a value that counts as an integer;
* `Storyworld.Expression.Compares` — evaluation comes to an ordering comparison of two values;
* `Storyworld.Expression.Expr.Overflows` — one of these values is an integer that is too large;
* `Storyworld.Expression.supportedNesting` — how deep lists and tables may be nested in a state.

Main results:

* `Storyworld.Expression.toNumber?_eq_none_iff` — which values do not count as a number;
* `Storyworld.Expression.eval_eq_tooLarge_iff` — **when an integer is too large**;
* `Storyworld.Expression.evaluate_large` — texts that cannot be evaluated;
* `Storyworld.Expression.evaluate_agrees_with_parse` — **parsing and evaluation agree**.
-/

import Storyworld.Game.NewGame
import Storyworld.Proofs.Checked
import Storyworld.Proofs.Documents
import Storyworld.Proofs.Phrasing
import Storyworld.Proofs.Rereading

set_option relaxedAutoImplicit false
set_option autoImplicit false

namespace Storyworld

/-- A field is nested less deep than its table. -/
theorem Json.nesting_lt_of_field? {j v : Json} {k : String} (h : j.field? k = some v) :
    v.nesting < j.nesting := by
  cases j with
  | obj fields =>
      exact Nat.lt_succ_of_le (nestingFields_le.1 (Nat.le_refl _) (k, v) (Table.mem_of_get? h))
  | _ => cases h

/-! ### Integers that are too large -/

/-- **A value that counts as an integer**: the integer, or a list with one item that counts as it. -/
inductive Json.CountsAs (n : Int) : Json → Prop
  | int : CountsAs n (.int n)
  | only {v : Json} (h : CountsAs n v) : CountsAs n (.arr [v])

namespace Expression

/-- A value that counts as an integer that is too large for a floating-point number. -/
def Oversized (j : Json) : Prop := ∃ n, j.CountsAs n ∧ Double.ofInt? n = none

theorem oversized_int {n : Int} : Oversized (.int n) ↔ Double.ofInt? n = none := by
  constructor
  · rintro ⟨n, hn, hlarge⟩
    cases hn
    exact hlarge
  · exact fun h => ⟨n, .int, h⟩

theorem oversized_only {v : Json} : Oversized (.arr [v]) ↔ Oversized v := by
  constructor
  · rintro ⟨n, hn, hlarge⟩
    cases hn with
    | only h => exact ⟨n, h, hlarge⟩
  · rintro ⟨n, hn, hlarge⟩
    exact ⟨n, .only hn, hlarge⟩

/-- **All other values count as a number.** -/
theorem toNumber?_eq_none_iff {j : Json} : Coercion.toNumber? j = none ↔ Oversized j := by
  fun_induction Coercion.toNumber? j with
  | case3 n => exact oversized_int.symm
  | case7 v ih => rw [ih, oversized_only]
  | _ => exact ⟨nofun, fun ⟨n, hn, _⟩ => by cases hn⟩

/-- The operators that compare numbers. -/
def Operator.isOrdering (op : Operator) : Bool := op ∈ Level.ordering.operators

theorem Operator.isComparison_of_isOrdering {op : Operator} (hop : op.isOrdering = true) :
    op.IsComparison :=
  .inr (of_decide_eq_true hop)

theorem compareNumbers_eq_tooLarge_iff {v w : Value} {holds : Double → Double → Bool} :
    compareNumbers v w holds = .error .tooLarge ↔ Oversized v.json ∨ Oversized w.json := by
  rw [← toNumber?_eq_none_iff, ← toNumber?_eq_none_iff]
  unfold compareNumbers
  split
  · next hv => exact ⟨fun _ => .inl hv, fun _ => rfl⟩
  · next hv =>
    rw [hv]
    split
    · next hw => exact ⟨fun _ => .inr hw, fun _ => rfl⟩
    · next hw =>
      rw [hw]
      exact ⟨nofun, fun h => by rcases h with h | h <;> cases h⟩

/-- **An operator fails only on an integer that is too large**, and only if it compares numbers. -/
theorem apply_eq_tooLarge_iff {op : Operator} {v w : Value} :
    apply op v w = .error .tooLarge ↔
      op.isOrdering = true ∧ (Oversized v.json ∨ Oversized w.json) := by
  cases op with
  | less | lessEqual | greater | greaterEqual =>
      exact compareNumbers_eq_tooLarge_iff.trans (and_iff_right rfl).symm
  | or | and | equal | notEqual => exact ⟨nofun, fun h => nomatch h.1⟩

theorem apply_eq_ofBool {op : Operator} {v w u : Value} (h : apply op v w = .ok u) :
    ∃ b, u = .ofBool b := by
  have hnumbers {holds : Double → Double → Bool} (h : compareNumbers v w holds = .ok u) :
      ∃ b, u = .ofBool b := by
    unfold compareNumbers at h
    split at h
    · cases h
    · split at h
      · cases h
      · cases h
        exact ⟨_, rfl⟩
  cases op with
  | or | and | equal | notEqual =>
      cases h
      exact ⟨_, rfl⟩
  | less | lessEqual | greater | greaterEqual => exact hnumbers h

/-! ### Comparisons that evaluation comes to -/

/-- **Evaluation comes to an ordering comparison of two values.** -/
inductive Compares (scope : Scope) (depth : Nat) (t : Expr) (v w : Value) : Prop
  | intro {d : Nat} {op : Operator} {left right : Expr} (hop : op.isOrdering = true)
      (hmeets : Meets scope (d + 1) (.binary op left right) depth t)
      (hv : eval scope d left = .ok v) (hw : eval scope d right = .ok w)

/-- Evaluation comes to an ordering comparison with an integer that is too large. -/
def OverflowsAt (scope : Scope) (depth : Nat) (t : Expr) : Prop :=
  ∃ v w, Compares scope depth t v w ∧ (Oversized v.json ∨ Oversized w.json)

/-- **Evaluating an expression overflows.** -/
def Expr.Overflows (t : Expr) (scope : Scope) : Prop := OverflowsAt scope maxEvalDepth t

/-- **When an integer is too large**: just if evaluation comes to an ordering comparison with it. -/
theorem eval_eq_tooLarge_iff {scope : Scope} {depth : Nat} {t : Expr} :
    eval scope depth t = .error .tooLarge ↔ OverflowsAt scope depth t := by
  rw [eval_eq_error_iff]
  constructor
  · rintro ⟨_, _, hmeets, hfails⟩
    cases hfails with
    | operator hv hw _ hf =>
        obtain ⟨hop, hlarge⟩ := apply_eq_tooLarge_iff.1 hf
        exact ⟨_, _, .intro hop hmeets hv hw, hlarge⟩
  · rintro ⟨v, w, ⟨hop, hmeets, hv, hw⟩, hlarge⟩
    have hundecided := (Operator.isComparison_of_isOrdering hop).decidedBy v
    have hf := apply_eq_tooLarge_iff.2 ⟨hop, hlarge⟩
    exact ⟨_, _, hmeets, .operator hv hw hundecided hf⟩

/-! ### How deep coercions go -/

/-- Nothing that an expression can see is nested deeper than some number of levels. -/
structure Scope.Within (scope : Scope) (n : Nat) : Prop where
  flag : ∀ key, (scope.flag key).nesting ≤ n
  stat : ∀ key, (scope.stat key).nesting ≤ n
  var : ∀ key, (scope.var key).nesting ≤ n
  reputation : ∀ key, (scope.reputation key).nesting ≤ n

section Nesting

variable {scope : Scope} {n : Nat}

theorem nesting_ofNumber_le (x : Number) (n : Nat) : (Json.ofNumber x).nesting ≤ n := by
  cases x <;> exact Nat.zero_le n

theorem Scope.Within.resolve (h : scope.Within n) (name : String) :
    (scope.resolve name).json.nesting ≤ n := by
  unfold Scope.resolve
  dsimp only
  split
  · exact h.flag _
  · split
    · exact h.stat _
    · split
      · exact h.var _
      · split
        · exact h.reputation _
        · exact Nat.zero_le n

theorem nesting_call_le (scope : Scope) (name : String) (args : List Value) (n : Nat) :
    (scope.call name args).json.nesting ≤ n := by
  unfold Scope.call
  dsimp only
  split
  · exact Nat.zero_le n
  · split <;> exact Nat.zero_le n

/-- **No value is nested deeper than what the expression can see.** -/
theorem nesting_le_of_eval (h : scope.Within n) {e : Expr} {depth : Nat} {v : Value}
    (hv : eval scope depth e = .ok v) : v.json.nesting ≤ n := by
  cases depth with
  | zero =>
      rw [eval_zero] at hv
      cases hv
  | succ depth =>
      cases e with
      | number x =>
          cases hv
          exact nesting_ofNumber_le x n
      | string s =>
          cases hv
          exact Nat.zero_le n
      | boolean b =>
          cases hv
          exact Nat.zero_le n
      | identifier name =>
          cases hv
          exact h.resolve name
      | call name args =>
          rw [eval_call] at hv
          obtain ⟨vs, -, hpure⟩ := bind_eq_ok.1 hv
          cases hpure
          exact nesting_call_le scope name vs n
      | not e =>
          rw [eval_not] at hv
          obtain ⟨w, -, hpure⟩ := bind_eq_ok.1 hv
          cases hpure
          exact Nat.zero_le n
      | binary op left right =>
          rw [eval_binary] at hv
          obtain ⟨w, -, hleft⟩ := bind_eq_ok.1 hv
          split at hleft
          · cases hleft
            exact Nat.zero_le n
          · obtain ⟨x, -, hright⟩ := bind_eq_ok.1 hleft
            obtain ⟨b, rfl⟩ := apply_eq_ofBool hright
            exact Nat.zero_le n

end Nesting

/-- What expressions can see of a state is nested less deep than the state. -/
theorem within_scopeWith (s : GameState) (objects : String → String) :
    (s.scopeWith objects).Within s.toDocument.nesting where
  flag key := Nat.zero_le _
  stat key := nesting_ofNumber_le _ _
  var key := by
    have hvars : s.toDocument.field? "vars" = some (.obj s.vars) := by
      simp [GameState.toDocument, GameState.fields]
    show ((s.vars.get? key).getD .null).nesting ≤ _
    cases hvalue : s.vars.get? key with
    | none => exact Nat.zero_le _
    | some v =>
        have hlt : v.nesting < (Json.obj s.vars).nesting := Json.nesting_lt_of_field? hvalue
        exact Nat.le_of_lt (Nat.lt_trans hlt (Json.nesting_lt_of_field? hvars))
  reputation key := nesting_ofNumber_le _ _

/-! ### Comparisons that cannot be made -/

/-- **A text that compares a number that is too large** can be parsed, and evaluating it fails in
every scope. -/
theorem evaluate_large {v : Nat} (hdigits : (Decimal.digitChars v).length ≤ maxLiteralDigits)
    (hlarge : Double.ofInt? v = none) (scope : Scope) :
    (∃ t, parse s!"{v} > 1" = .ok t) ∧ evaluate scope s!"{v} > 1" = .error .tooLarge := by
  have htext : (s!"{v} > 1").toList =
      (toString v).toList ++ ' ' :: (Operator.greater.spelling.toList ++ ' ' :: "1".toList) := by
    simp [toString]
    rfl
  have hparse : parse s!"{v} > 1" =
      .ok (.binary .greater (.number (.int v)) (.number (.int 1))) :=
    (phrases_number hdigits).parse_comparison (phrases_number (by decide)) (by decide) htext
  refine ⟨⟨_, hparse⟩, (evaluate_eq_tooLarge_iff hparse).2 (eval_eq_tooLarge_iff.2 ?_)⟩
  exact ⟨_, _, .intro rfl .here (hasValue_number _ 897) (hasValue_number _ 897),
    .inl (oversized_int.2 hlarge)⟩

/-- A number that is too large for a floating-point number, compared with one. -/
def googol : String := s!"{Nat.pow 10 400} > 1"

theorem evaluate_googol (scope : Scope) :
    (∃ t, parse googol = .ok t) ∧ evaluate scope googol = .error .tooLarge := by
  have hlarge : Double.ofInt? (Nat.pow 10 400) = none := by decide +kernel
  have hdigits : (Decimal.digitChars (Nat.pow 10 400)).length ≤ 401 :=
    Json.length_digitChars_le (by decide) (by decide +kernel)
  exact evaluate_large (Nat.le_trans hdigits (by decide)) hlarge scope

/-! ### Parsing and evaluation -/

/-- How deep lists and tables may be nested in a state, so that there is room to take them for
numbers beside an expression of 600 operators. -/
def supportedNesting : Nat := 200

/-- **Parsing and evaluation agree.**  The fault of a text that cannot be parsed is the outcome of
evaluating it.  Evaluating a text that can be parsed fails just if it comes to an ordering comparison
with an integer that is too large.  Otherwise there is an answer if the text has no more than 600
operators.  With more of them it may be too deep, and is said to be.  No coercion goes deeper than
the state may be nested. -/
theorem evaluate_agrees_with_parse {s : GameState} (hs : s.toDocument.nesting ≤ supportedNesting)
    (objects : String → String) (text : String) :
    let scope := s.scopeWith objects
    (∀ f, parse text = .error f → evaluate scope text = .ok (.fault f)) ∧
      ∀ t, parse text = .ok t →
        (evaluate scope text = .error .tooLarge ↔ t.Overflows scope) ∧
        (¬ t.Overflows scope → (∃ b, evaluate scope text = .ok (.answer b)) ∨
          (600 < t.operators ∧ evaluate scope text = .ok (.fault .tooDeep))) ∧
        ∀ v w, Compares scope maxEvalDepth t v w →
          v.json.nesting ≤ supportedNesting ∧ w.json.nesting ≤ supportedNesting := by
  intro scope
  refine ⟨fun f h => evaluate_of_parse_error h, fun t h => ⟨?_, fun hfits => ?_, ?_⟩⟩
  · rw [Expr.Overflows, ← eval_eq_tooLarge_iff]
    exact evaluate_eq_tooLarge_iff h
  · cases heval : eval scope maxEvalDepth t with
    | ok v => exact .inl ⟨_, evaluate_of_eval_ok h heval⟩
    | error f =>
        cases f with
        | tooLarge => exact absurd (eval_eq_tooLarge_iff.1 heval) hfits
        | tooDeep =>
            have hfault := evaluate_of_eval_tooDeep h heval
            refine .inr ⟨Nat.lt_of_not_le fun hsize => ?_, hfault⟩
            exact evaluate_ne_fault h hsize _ hfault
  · rintro v w ⟨-, -, hv, hw⟩
    have hwithin := within_scopeWith s objects
    exact ⟨Nat.le_trans (nesting_le_of_eval hwithin hv) hs,
      Nat.le_trans (nesting_le_of_eval hwithin hw) hs⟩

/-- A stat of a character who has just set out on the Lantern Road is compared with a two, and a
number that is too large with a one. -/
theorem evaluate_agrees_with_parse_lanternRoad :
    let s := LanternRoad.engine.fresh LanternRoad.traveller
    let t := Expr.binary .less (.identifier "stat.might") (.number (.int 2))
    s.toDocument.nesting ≤ supportedNesting ∧
      parse "stat.might < 2" = .ok t ∧ ¬ t.Overflows s.scope ∧
      (∃ b, evaluate s.scope "stat.might < 2" = .ok (.answer b)) ∧
      ∃ u, parse googol = .ok u ∧ u.Overflows s.scope := by
  intro s t
  have hs : s.toDocument.nesting ≤ supportedNesting := by decide +kernel
  have hparse : parse "stat.might < 2" = .ok t := rfl
  have hsome : (evaluate s.scope "stat.might < 2").toOption.isSome = true := by decide +kernel
  obtain ⟨hfails, hanswers, -⟩ := (evaluate_agrees_with_parse hs id "stat.might < 2").2 t hparse
  have hfits : ¬ t.Overflows s.scope := fun h => by
    rw [show evaluate s.scope "stat.might < 2" = .error .tooLarge from hfails.2 h] at hsome
    cases hsome
  obtain ⟨⟨u, hu⟩, hlarge⟩ := evaluate_googol s.scope
  refine ⟨hs, hparse, hfits, ?_, u, hu, ?_⟩
  · rcases hanswers hfits with h | ⟨hmany, -⟩
    · exact h
    · exact absurd hmany (by decide)
  · exact ((evaluate_agrees_with_parse hs id googol).2 u hu).1.1 hlarge

/-- **A comparison that cannot be made**: a text that can be parsed has no outcome. -/
theorem googol_overflows :
    (∃ t, parse googol = .ok t) ∧
      evaluate (LanternRoad.engine.fresh LanternRoad.traveller).scope googol =
        .error .tooLarge :=
  evaluate_googol _

end Expression

end Storyworld
