/-
**What evaluation comes to, and how deep it goes.**

A text that cannot be parsed has the fault of the parser as its outcome.  A text that can be parsed
has another fault only where evaluation would go down further than it may.

The right side of `&&` and `||` is not always evaluated, and nothing behind an argument without a
value is.  So an expression has no value just if evaluation comes to a part of it that has none:
evaluation may go no further down there, or an operator fails on the values of its sides.

How far evaluation goes down is the height of the expression.  Negations and calls are nested no
deeper than the parser allows, and every further level is that of a binary operator.  So an
expression is no higher than the number of its operators and the 64 levels of the parser, and only
an expression of hundreds of operators is too deep.  Such expressions exist, because a chain of
operators associates to the left however long it is.

Main definitions:

* `Storyworld.Expression.Expr.height`, `Storyworld.Expression.Expr.operators` — how deep an
  expression goes, and how many binary operators it has;
* `Storyworld.Expression.Meets` — **evaluation of one expression comes to another**;
* `Storyworld.Expression.Fails` — why there is no value there;
* `Storyworld.Expression.ladder` — a chain of comparisons of any length.

Main results:

* `Storyworld.Expression.Derives.height_le` — **the height of what the parser accepts**;
* `Storyworld.Expression.eval_eq_error_iff` — **when an expression has no value**;
* `Storyworld.Expression.lt_height_of_tooDeep` — what is too deep is higher than evaluation may go;
* `Storyworld.Expression.evaluate_ne_fault` — an expression that parses and is small enough;
* `Storyworld.Expression.evaluate_ladder` — long chains can be parsed and are too deep.
-/

import Storyworld.Expression.Eval
import Storyworld.Proofs.Grammar

set_option relaxedAutoImplicit false
set_option autoImplicit false

namespace Storyworld.Expression

/-! ### Measures of expressions -/

mutual

/-- The levels that evaluation goes down into an expression. -/
def Expr.height : Expr → Nat
  | .number _ | .string _ | .boolean _ | .identifier _ => 1
  | .call _ args => heightAll args + 1
  | .not e => e.height + 1
  | .binary _ left right => max left.height right.height + 1

def heightAll : List Expr → Nat
  | [] => 0
  | e :: es => max e.height (heightAll es)

end

mutual

/-- The number of binary operators. -/
def Expr.operators : Expr → Nat
  | .number _ | .string _ | .boolean _ | .identifier _ => 0
  | .call _ args => operatorsAll args
  | .not e => e.operators
  | .binary _ left right => left.operators + right.operators + 1

def operatorsAll : List Expr → Nat
  | [] => 0
  | e :: es => e.operators + operatorsAll es

end

/-- Induction over an expression, where a call comes with the claim for each of its arguments. -/
@[elab_as_elim, induction_eliminator]
theorem Expr.induct {P : Expr → Prop} (number : ∀ n, P (.number n)) (string : ∀ s, P (.string s))
    (boolean : ∀ b, P (.boolean b)) (identifier : ∀ name, P (.identifier name))
    (call : ∀ name args, (∀ arg ∈ args, P arg) → P (.call name args))
    (not : ∀ e, P e → P (.not e))
    (binary : ∀ op left right, P left → P right → P (.binary op left right)) (e : Expr) : P e :=
  @Expr.rec P (fun es => ∀ e ∈ es, P e) number string boolean identifier call not binary (by simp)
    (fun _ _ he hes => List.forall_mem_cons.2 ⟨he, hes⟩) e

theorem Expr.height_pos (e : Expr) : 0 < e.height := by
  cases e <;> simp [height]

theorem heightAll_le {es : List Expr} {n : Nat} : heightAll es ≤ n ↔ ∀ e ∈ es, e.height ≤ n := by
  induction es with
  | nil => simp [heightAll]
  | cons e es ih => rw [heightAll, Nat.max_le, ih, List.forall_mem_cons]

theorem operators_le_operatorsAll {es : List Expr} {e : Expr} (he : e ∈ es) :
    e.operators ≤ operatorsAll es := by
  induction es with
  | nil => cases he
  | cons e' es ih =>
    rw [operatorsAll]
    rcases List.mem_cons.1 he with rfl | he
    · omega
    · have := ih he
      omega

/-- **The height of what the parser accepts.**  A level that evaluation goes down is that of a binary
operator, or of one of the negations and calls that may stand around an operand. -/
theorem Derives.height_le {ph : Phrase} {k : Nat} {ts : List Token} {t : Expr}
    (h : Derives ph k ts t) (hk : k < maxDepth) : t.height + k ≤ t.operators + maxDepth := by
  induction h with
  | operand _ ih => exact ih hk
  | binary _ _ _ iht ihu =>
    have ht := iht hk
    have hu := ihu hk
    simp only [Expr.height, Expr.operators]
    omega
  | negated h ih =>
    have := ih (h.lt_maxDepth (by simp))
    simp only [Expr.height, Expr.operators]
    omega
  | plain _ _ ih => exact ih hk
  | number | string | boolean | identifier =>
    simp only [Expr.height, Expr.operators]
    omega
  | @call k name args hargs ih =>
    have hall : heightAll (args.map Prod.snd) ≤
        operatorsAll (args.map Prod.snd) + maxDepth - (k + 1) := by
      rw [heightAll_le]
      intro e he
      obtain ⟨arg, harg, rfl⟩ := List.mem_map.1 he
      have hheight := ih arg harg ((hargs arg harg).lt_maxDepth (by simp))
      have hoperators := operators_le_operatorsAll he
      omega
    simp only [Expr.height, Expr.operators]
    omega
  | group h ih =>
    have := ih (h.lt_maxDepth (by simp))
    omega

/-! ### Evaluation at a limited depth -/

/-- Whether the value of the left side decides the value of the whole. -/
def Operator.decidedBy (op : Operator) (v : Value) : Bool :=
  match op with
  | .and => !Coercion.truthy v.json
  | .or => Coercion.truthy v.json
  | _ => false

section Evaluation

variable {scope : Scope} {depth d : Nat} {t u e : Expr} {f : EvalFault}

theorem eval_zero (t : Expr) : eval scope 0 t = .error .tooDeep := by
  cases t <;> simp [eval]

theorem eval_call (depth : Nat) (name : String) (args : List Expr) :
    eval scope (depth + 1) (.call name args) = (do
      let values ← evalAll scope depth args
      pure (scope.call name values)) := by
  rw [eval, if_neg (Nat.succ_ne_zero depth), Nat.add_sub_cancel]

theorem eval_not (depth : Nat) (e : Expr) :
    eval scope (depth + 1) (.not e) = (do
      let v ← eval scope depth e
      pure (.ofBool (!Coercion.truthy v.json))) := by
  rw [eval, if_neg (Nat.succ_ne_zero depth), Nat.add_sub_cancel]

theorem eval_binary (depth : Nat) (op : Operator) (left right : Expr) :
    eval scope (depth + 1) (.binary op left right) = (do
      let v ← eval scope depth left
      if op.decidedBy v then pure (.ofBool (op = .or))
      else do
        let w ← eval scope depth right
        apply op v w) := by
  rw [eval, if_neg (Nat.succ_ne_zero depth), Nat.add_sub_cancel]
  cases op <;> rfl

/-- The value of the right side is asked for. -/
theorem eval_binary_of_undecided {op : Operator} {left right : Expr} {v : Value}
    (hv : eval scope depth left = .ok v) (hundecided : op.decidedBy v = false) :
    eval scope (depth + 1) (.binary op left right) = (eval scope depth right >>= apply op v) := by
  rw [eval_binary, hv]
  simp only [bind, Except.bind, hundecided, Bool.false_eq_true, if_false]

/-- The arguments of a call have no values just if one of them has none, behind some that have. -/
theorem evalAll_eq_error_iff {es : List Expr} :
    evalAll scope depth es = .error f ↔ ∃ before e after, es = before ++ e :: after ∧
      (∀ e' ∈ before, ∃ v, eval scope depth e' = .ok v) ∧ eval scope depth e = .error f := by
  induction es with
  | nil => exact ⟨nofun, fun ⟨_, _, _, h, _⟩ => absurd h (by simp)⟩
  | cons e es ih =>
      rw [evalAll, bind_eq_error]
      constructor
      · rintro (he | ⟨v, hv, hrest⟩)
        · exact ⟨[], e, es, rfl, nofun, he⟩
        · obtain hes | ⟨vs, -, hpure⟩ := bind_eq_error.1 hrest
          · obtain ⟨before, x, after, rfl, hbefore, hx⟩ := ih.1 hes
            exact ⟨e :: before, x, after, rfl, List.forall_mem_cons.2 ⟨⟨v, hv⟩, hbefore⟩, hx⟩
          · cases hpure
      · rintro ⟨before, x, after, hes, hbefore, hx⟩
        cases before with
        | nil =>
            cases hes
            exact .inl hx
        | cons e' before =>
            cases hes
            obtain ⟨⟨v, hv⟩, hrest⟩ := List.forall_mem_cons.1 hbefore
            exact .inr ⟨v, hv, bind_eq_error.2 (.inl (ih.2 ⟨before, x, after, rfl, hrest, hx⟩))⟩

/-! ### What evaluation comes to -/

/-- **Evaluating an expression, with so many levels to go down, comes to evaluating `u` with `d` of
them left.**  It comes to an argument of a call if all arguments before it have values, and to a
right side if the value of the left one does not decide. -/
inductive Meets (scope : Scope) (d : Nat) (u : Expr) : Nat → Expr → Prop
  | here : Meets scope d u d u
  | operand {depth : Nat} {e : Expr} (h : Meets scope d u depth e) :
      Meets scope d u (depth + 1) (.not e)
  | argument {depth : Nat} {name : String} {before after : List Expr} {e : Expr}
      (hbefore : ∀ e' ∈ before, ∃ v, eval scope depth e' = .ok v) (h : Meets scope d u depth e) :
      Meets scope d u (depth + 1) (.call name (before ++ e :: after))
  | leftSide {depth : Nat} {op : Operator} {left right : Expr} (h : Meets scope d u depth left) :
      Meets scope d u (depth + 1) (.binary op left right)
  | rightSide {depth : Nat} {op : Operator} {left right : Expr} {v : Value}
      (hleft : eval scope depth left = .ok v) (hundecided : op.decidedBy v = false)
      (h : Meets scope d u depth right) : Meets scope d u (depth + 1) (.binary op left right)

/-- **Why an expression has no value of itself**: evaluation may go no further down, or the operator
fails on the values of its sides. -/
inductive Fails (scope : Scope) : Nat → Expr → EvalFault → Prop
  | tooDeep (u : Expr) : Fails scope 0 u .tooDeep
  | operator {d : Nat} {op : Operator} {left right : Expr} {v w : Value} {f : EvalFault}
      (hv : eval scope d left = .ok v) (hw : eval scope d right = .ok w)
      (hundecided : op.decidedBy v = false) (hf : apply op v w = .error f) :
      Fails scope (d + 1) (.binary op left right) f

theorem Fails.eval_eq (h : Fails scope d u f) : eval scope d u = .error f := by
  cases h with
  | tooDeep => exact eval_zero u
  | operator hv hw hundecided hf =>
      rw [eval_binary_of_undecided hv hundecided, hw]
      exact hf

/-- **Where evaluation comes to an expression without a value**, there is no value, for the same
reason. -/
theorem Meets.error (h : Meets scope d u depth t) (hu : eval scope d u = .error f) :
    eval scope depth t = .error f := by
  induction h with
  | here => exact hu
  | operand _ ih =>
      rw [eval_not, ih]
      rfl
  | argument hbefore _ ih =>
      rw [eval_call, evalAll_eq_error_iff.2 ⟨_, _, _, rfl, hbefore, ih⟩]
      rfl
  | leftSide _ ih =>
      rw [eval_binary, ih]
      rfl
  | rightSide hleft hundecided _ ih =>
      rw [eval_binary_of_undecided hleft hundecided, ih]
      rfl

/-- Evaluation comes to where it fails, whatever the reason. -/
theorem exists_fails_of_error (h : eval scope depth t = .error f) :
    ∃ d u, Meets scope d u depth t ∧ Fails scope d u f := by
  induction depth generalizing t with
  | zero =>
      rw [eval_zero] at h
      cases h
      exact ⟨0, t, .here, .tooDeep t⟩
  | succ depth ih =>
      cases t with
      | number | string | boolean | identifier => cases h
      | call name args =>
          rw [eval_call, bind_eq_error] at h
          obtain hargs | ⟨vs, -, hpure⟩ := h
          · obtain ⟨before, e, after, rfl, hbefore, he⟩ := evalAll_eq_error_iff.1 hargs
            obtain ⟨d, u, hmeets, hfails⟩ := ih he
            exact ⟨d, u, .argument hbefore hmeets, hfails⟩
          · cases hpure
      | not e =>
          rw [eval_not, bind_eq_error] at h
          obtain he | ⟨v, -, hpure⟩ := h
          · obtain ⟨d, u, hmeets, hfails⟩ := ih he
            exact ⟨d, u, .operand hmeets, hfails⟩
          · cases hpure
      | binary op left right =>
          cases hleft : eval scope depth left with
          | error g =>
              rw [eval_binary, hleft] at h
              cases h
              obtain ⟨d, u, hmeets, hfails⟩ := ih hleft
              exact ⟨d, u, .leftSide hmeets, hfails⟩
          | ok v =>
              cases hdecided : op.decidedBy v with
              | true =>
                  rw [eval_binary, hleft] at h
                  simp only [bind, Except.bind, hdecided, if_true] at h
                  cases h
              | false =>
                  rw [eval_binary_of_undecided hleft hdecided, bind_eq_error] at h
                  obtain hright | ⟨w, hright, hf⟩ := h
                  · obtain ⟨d, u, hmeets, hfails⟩ := ih hright
                    exact ⟨d, u, .rightSide hleft hdecided hmeets, hfails⟩
                  · exact ⟨_, _, .here, .operator hleft hright hdecided hf⟩

/-- **An expression has no value just if evaluation comes to where it fails.** -/
theorem eval_eq_error_iff :
    eval scope depth t = .error f ↔ ∃ d u, Meets scope d u depth t ∧ Fails scope d u f := by
  refine ⟨exists_fails_of_error, ?_⟩
  rintro ⟨d, u, hmeets, hfails⟩
  exact hmeets.error hfails.eval_eq

/-! ### How deep evaluation goes -/

/-- Each level that evaluation goes down is one of the height. -/
theorem Meets.height_le (h : Meets scope d u depth t) : depth + u.height ≤ d + t.height := by
  induction h with
  | here => exact Nat.le_refl _
  | @argument depth name before after e _ _ ih =>
      have he : e ∈ before ++ e :: after := List.mem_append_right before List.mem_cons_self
      have hle := heightAll_le.1 (Nat.le_refl _) e he
      simp only [Expr.height]
      omega
  | operand _ ih | leftSide _ ih | rightSide _ _ _ ih =>
      simp only [Expr.height]
      omega

theorem apply_ne_tooDeep {op : Operator} {v w : Value} : apply op v w ≠ .error .tooDeep := by
  have hnumbers {holds : Double → Double → Bool} : compareNumbers v w holds ≠ .error .tooDeep := by
    unfold compareNumbers
    split
    · nofun
    · split <;> nofun
  cases op with
  | greater | greaterEqual | less | lessEqual => exact hnumbers
  | _ => nofun

/-- **Evaluation is too deep only for an expression that is higher than it may go down.** -/
theorem lt_height_of_tooDeep (h : eval scope depth t = .error .tooDeep) : depth < t.height := by
  obtain ⟨d, u, hmeets, hfails⟩ := exists_fails_of_error h
  cases hfails with
  | tooDeep =>
      have hheight := hmeets.height_le
      have hpos := Expr.height_pos u
      omega
  | operator _ _ _ hf => exact absurd hf apply_ne_tooDeep

/-! ### Outcomes -/

theorem evaluate_of_parse_error {text : String} {f : Fault} (h : parse text = .error f) :
    evaluate scope text = .ok (.fault f) := by
  simp [evaluate, evaluateRaw, h, Except.map]

theorem evaluate_of_eval_ok {text : String} {t : Expr} {v : Value} (h : parse text = .ok t)
    (hv : eval scope maxEvalDepth t = .ok v) :
    evaluate scope text = .ok (.answer (Coercion.truthy v.json)) := by
  simp [evaluate, evaluateRaw, h, hv, Except.map]

theorem evaluate_of_eval_tooDeep {text : String} {t : Expr} (h : parse text = .ok t)
    (ht : eval scope maxEvalDepth t = .error .tooDeep) :
    evaluate scope text = .ok (.fault .tooDeep) := by
  simp [evaluate, evaluateRaw, h, ht, Except.map]

/-- A text that parses fails just where evaluation meets an integer that is too large. -/
theorem evaluate_eq_tooLarge_iff {text : String} {t : Expr} (h : parse text = .ok t) :
    evaluate scope text = .error .tooLarge ↔ eval scope maxEvalDepth t = .error .tooLarge := by
  unfold evaluate evaluateRaw
  rw [h]
  dsimp only
  cases eval scope maxEvalDepth t with
  | ok v => exact ⟨nofun, nofun⟩
  | error g => cases g <;> simp [Except.map]

/-- A text that parses has a fault only where evaluation is too deep. -/
theorem eval_tooDeep_of_fault {text : String} {t : Expr} (h : parse text = .ok t) {f : Fault}
    (hf : evaluate scope text = .ok (.fault f)) : eval scope maxEvalDepth t = .error .tooDeep := by
  cases hv : eval scope maxEvalDepth t with
  | ok v =>
      rw [evaluate_of_eval_ok h hv] at hf
      cases hf
  | error g =>
      cases g with
      | tooDeep => rfl
      | tooLarge => simp [evaluate, evaluateRaw, h, hv, Except.map] at hf

/-- **An expression that parses and is small enough** has no fault, whatever it can see. -/
theorem evaluate_ne_fault {text : String} {t : Expr} (h : parse text = .ok t)
    (hsize : t.operators ≤ 600) (f : Fault) : evaluate scope text ≠ .ok (.fault f) := by
  intro hf
  obtain ⟨ts, -, hsentence⟩ := parse_eq_ok.1 h
  have hheight := Derives.height_le hsentence (by decide)
  have hdepth : maxDepth = 64 := rfl
  have hlt : 900 < t.height := lt_height_of_tooDeep (eval_tooDeep_of_fault h hf)
  omega

end Evaluation

/-! ### Chains of any length -/

/-- The text `1<1<...<1` with so many operators. -/
def ladder (n : Nat) : List Char := '1' :: (List.replicate n ['<', '1']).flatten

/-- The tokens of a ladder. -/
def rungs (n : Nat) : List Token :=
  .number ['1'] :: (List.replicate n [.operator .less, .number ['1']]).flatten

/-- The expression of a ladder: every operator has all that stands before it on its left. -/
def tower : Nat → Expr
  | 0 => .number (.int 1)
  | n + 1 => .binary .less (tower n) (.number (.int 1))

theorem tokensWithin_ladder {n fuel : Nat} (h : (ladder n).length ≤ fuel) :
    tokensWithin fuel (ladder n) = .ok (rungs n) := by
  induction n generalizing fuel with
  | zero =>
    obtain ⟨fuel, rfl⟩ : ∃ m, fuel = m + 1 := ⟨fuel - 1, by simp [ladder] at h; omega⟩
    cases fuel <;> rfl
  | succ n ih =>
    have hladder : ladder (n + 1) = '1' :: '<' :: ladder n := by
      simp [ladder, List.replicate_succ]
    have hrungs : rungs (n + 1) = .number ['1'] :: .operator .less :: rungs n := by
      simp [rungs, List.replicate_succ]
    rw [hladder] at h
    obtain ⟨fuel, rfl⟩ : ∃ m, fuel = m + 2 := ⟨fuel - 2, by simp at h; omega⟩
    have hrest : tokensWithin fuel (ladder n) = .ok (rungs n) := ih (by simp at h; omega)
    have hone : lexeme '1' ('<' :: ladder n) = .ok (.number ['1'], '<' :: ladder n) := rfl
    have hless : lexeme '<' (ladder n) = .ok (.operator .less, ladder n) := rfl
    rw [hladder, hrungs, tokensWithin, if_neg (by decide), hone]
    simp only [bind, Except.bind, tokensWithin]
    rw [if_neg (by decide), hless]
    simp only [hrest]
    rfl

theorem sentence_tower (n : Nat) : Sentence (rungs n) (tower n) := by
  have hone : Spells ['1'] (.int 1) := .whole (by decide) (by decide)
  have hnumber : Derives .unary 0 [.number ['1']] (.number (.int 1)) :=
    .plain (by decide) (.number hone)
  have hordering : Derives (.level .ordering) 0 (rungs n) (tower n) := by
    induction n with
    | zero => exact .operand hnumber
    | succ n ih =>
      have hrungs : rungs (n + 1) = rungs n ++ [.operator .less, .number ['1']] := by
        simp [rungs, List.replicate_succ']
      rw [hrungs]
      exact .binary (by decide) ih hnumber
  exact .operand (.operand (.operand hordering))

theorem eval_tower (scope : Scope) {n depth : Nat} (h : depth ≤ n) :
    eval scope depth (tower n) = .error .tooDeep := by
  induction n generalizing depth with
  | zero =>
    rw [Nat.le_zero.1 h]
    exact eval_zero _
  | succ n ih =>
    cases depth with
    | zero => exact eval_zero _
    | succ depth =>
      rw [tower, eval_binary, ih (Nat.le_of_succ_le_succ h)]
      rfl

/-- **Long chains can be parsed and are too deep.** -/
theorem evaluate_ladder (scope : Scope) {n : Nat} (h : maxEvalDepth ≤ n) :
    parse (String.ofList (ladder n)) = .ok (tower n) ∧
      evaluate scope (String.ofList (ladder n)) = .ok (.fault .tooDeep) := by
  have hparse : parse (String.ofList (ladder n)) = .ok (tower n) := by
    refine parse_eq_ok.2 ⟨rungs n, ?_, sentence_tower n⟩
    rw [String.toList_ofList]
    exact tokensWithin_ladder (Nat.le_refl _)
  exact ⟨hparse, evaluate_of_eval_tooDeep hparse (eval_tower scope h)⟩

end Storyworld.Expression
