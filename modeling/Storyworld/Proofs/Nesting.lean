/-
**How deep expressions are nested.**

A path goes down from an expression to a part of it.  Most of its turns take it into a tighter phrase
or one operand further in: the right side of an operator binds more tightly than the operator, and so
does the left side, unless it goes on with a chain of operators of the same level.  Parentheses start
again with the loosest level, but they take up an operand.  So each operand has room for one turn on
each of the four levels around it, and for one that leads into it from the operand before.  With 64
operands inside one another, the outermost of which nothing leads into, that makes 319 turns.  Only
turns that go on with a chain are not counted, and so evaluation goes deeper than that only along
chains.

Main definitions:

* `Storyworld.Expression.Turn` — a step of a path;
* `Storyworld.Expression.Expr.Path` — **the paths from an expression to its parts**;
* `Storyworld.Expression.nesting`, `Storyworld.Expression.chained` — how many turns of a path are not
  to a left side, and how many go on with a chain.

Main results:

* `Storyworld.Expression.Derives.unchained_lt` — a bound for every phrase of the grammar;
* `Storyworld.Expression.exists_path` — a path to each level of an expression;
* `Storyworld.Expression.nesting_is_bounded` — **every path of an expression that was parsed**;
* `Storyworld.Expression.exists_deepest` — the bound is reached.
-/

import Storyworld.Proofs.Evaluable
import Storyworld.Proofs.Lexemes

set_option relaxedAutoImplicit false
set_option autoImplicit false

namespace Storyworld.Expression

/-! ### Paths -/

/-- A step of a path, from an expression to one of the expressions that it is made of: the left or the
right side of an operator, what is negated, or an argument of a call.  A left side can go on with the
chain of its operator. -/
inductive Turn where
  | left (chained : Bool)
  | right
  | negated
  | argument (i : Nat)

namespace Turn

def isLeft : Turn → Bool
  | left _ => true
  | _ => false

def isChained : Turn → Bool
  | left chained => chained
  | _ => false

end Turn

/-- How tightly an expression binds: an operator as its level, and all else as an operand. -/
def Expr.tightness : Expr → Nat
  | .binary op _ _ => op.tightness
  | _ => Phrase.primary.tightness

/-- **The paths from an expression to its parts.**  A left side goes on with the chain of its operator
if it is an operator of the same level. -/
inductive Expr.Path : Expr → List Turn → Expr → Prop where
  | here {t : Expr} : Path t [] t
  | left {op : Operator} {left right e : Expr} {p : List Turn} :
      Path left p e →
      Path (.binary op left right) (.left (left.tightness = op.tightness) :: p) e
  | right {op : Operator} {left right e : Expr} {p : List Turn} :
      Path right p e → Path (.binary op left right) (.right :: p) e
  | negated {t e : Expr} {p : List Turn} : Path t p e → Path (.not t) (.negated :: p) e
  | argument {name : String} {args : List Expr} {i : Nat} {t e : Expr} {p : List Turn} :
      args[i]? = some t → Path t p e → Path (.call name args) (.argument i :: p) e

/-- The number of turns of a path that are not to a left side. -/
def nesting (p : List Turn) : Nat := p.countP fun turn => !turn.isLeft

/-- The number of turns that go on with a chain. -/
def chained (p : List Turn) : Nat := p.countP Turn.isChained

/-- The number of turns that do not. -/
def unchained (p : List Turn) : Nat := p.countP fun turn => !turn.isChained

theorem unchained_nil : unchained [] = 0 := rfl

theorem unchained_cons_of_chained {turn : Turn} (h : turn.isChained = true) (p : List Turn) :
    unchained (turn :: p) = unchained p :=
  List.countP_cons_of_neg (by simp [h])

theorem unchained_cons {turn : Turn} (h : turn.isChained = false) (p : List Turn) :
    unchained (turn :: p) = unchained p + 1 :=
  List.countP_cons_of_pos (by simp [h])

theorem length_eq_chained_add_unchained (p : List Turn) : p.length = chained p + unchained p := by
  rw [List.length_eq_countP_add_countP Turn.isChained]
  simp [chained, unchained]

/-- Only turns to a left side go on with a chain. -/
theorem nesting_le_unchained (p : List Turn) : nesting p ≤ unchained p := by
  refine List.countP_mono_left fun turn _ hturn => ?_
  cases turn with
  | left => cases hturn
  | right | negated | argument => rfl

/-- **A path to each level of an expression.** -/
theorem exists_path {t : Expr} {n : Nat} (h : n < t.height) :
    ∃ p e, t.Path p e ∧ p.length = n := by
  induction t generalizing n with
  | number | string | boolean | identifier =>
      obtain rfl : n = 0 := by simpa [Expr.height] using h
      exact ⟨[], _, .here, rfl⟩
  | call name args ih =>
      cases n with
      | zero => exact ⟨[], _, .here, rfl⟩
      | succ n =>
          have hnot : ¬ heightAll args ≤ n := by
            simp only [Expr.height] at h
            omega
          simp only [heightAll_le, not_forall, Nat.not_le] at hnot
          obtain ⟨arg, harg, hlt⟩ := hnot
          obtain ⟨i, hi⟩ := List.mem_iff_getElem?.1 harg
          obtain ⟨p, e, hp, rfl⟩ := ih arg harg hlt
          exact ⟨_, e, .argument hi hp, rfl⟩
  | not t ih =>
      cases n with
      | zero => exact ⟨[], _, .here, rfl⟩
      | succ n =>
          obtain ⟨p, e, hp, rfl⟩ := ih (Nat.lt_of_succ_lt_succ h)
          exact ⟨_, e, .negated hp, rfl⟩
  | binary op left right ihl ihr =>
      cases n with
      | zero => exact ⟨[], _, .here, rfl⟩
      | succ n =>
          have hside : n < left.height ∨ n < right.height := by
            simp only [Expr.height] at h
            omega
          rcases hside with hlt | hlt
          · obtain ⟨p, e, hp, rfl⟩ := ihl hlt
            exact ⟨_, e, .left hp, rfl⟩
          · obtain ⟨p, e, hp, rfl⟩ := ihr hlt
            exact ⟨_, e, .right hp, rfl⟩

/-! ### The bound -/

/-- **A bound for every phrase of the grammar.**  There is room for five turns to each operand that may
still stand inside the phrase, less one for each level of operators that is looser than the phrase.
There is room for one turn less if the expression binds otherwise than the phrase. -/
theorem Derives.unchained_lt {ph : Phrase} {k : Nat} {ts : List Token} {t : Expr}
    (h : Derives ph k ts t) (hk : k < maxDepth) {p : List Turn} {e : Expr} (hp : t.Path p e) :
    unchained p + ph.tightness + 5 * k < 5 * maxDepth ∧
      (t.tightness ≠ ph.tightness → unchained p + ph.tightness + 5 * k + 1 < 5 * maxDepth) := by
  have hdepth : maxDepth = 64 := rfl
  induction h generalizing p with
  | @operand l _ _ _ _ ih =>
      obtain ⟨hoperand, -⟩ := ih hk hp
      rw [l.tightness_operand] at hoperand
      simp only [Phrase.tightness]
      exact ⟨by omega, fun _ => by omega⟩
  | @binary l _ op _ _ left right hop _ _ ihl ihr =>
      have hlevel : op.tightness = l.tightness := Level.mem_operators.1 hop
      refine ⟨?_, fun hne => absurd hlevel hne⟩
      simp only [Phrase.tightness]
      cases hp with
      | here =>
          have htight : l.tightness ≤ 3 := by cases l <;> decide
          rw [unchained_nil]
          omega
      | left hp =>
          obtain ⟨hchained, hunchained⟩ := ihl hk hp
          by_cases hsame : left.tightness = op.tightness
          · have hturn : (Turn.left (left.tightness = op.tightness)).isChained = true :=
              decide_eq_true hsame
            rw [unchained_cons_of_chained hturn]
            exact hchained
          · -- the turn leaves the chain, for an expression that has less room
            have hturn : (Turn.left (left.tightness = op.tightness)).isChained = false :=
              decide_eq_false hsame
            have hless := hunchained fun h => hsame (h.trans hlevel.symm)
            simp only [Phrase.tightness] at hless
            rw [unchained_cons hturn]
            omega
      | right hp =>
          obtain ⟨hright, -⟩ := ihr hk hp
          rw [l.tightness_operand] at hright
          rw [unchained_cons rfl]
          omega
  | negated h ih =>
      refine ⟨?_, fun hne => absurd rfl hne⟩
      simp only [Phrase.tightness] at ih ⊢
      cases hp with
      | here =>
          rw [unchained_nil]
          omega
      | negated hp =>
          obtain ⟨hinner, -⟩ := ih (h.lt_maxDepth (by simp)) hp
          rw [unchained_cons rfl]
          omega
  | plain _ _ ih => exact ih hk hp
  | number | string | boolean | identifier =>
      cases hp
      refine ⟨?_, fun hne => absurd rfl hne⟩
      simp only [Phrase.tightness, unchained_nil]
      omega
  | @call k name args hargs ih =>
      refine ⟨?_, fun hne => absurd rfl hne⟩
      simp only [Phrase.tightness, Level.tightness] at ih ⊢
      cases hp with
      | here =>
          rw [unchained_nil]
          omega
      | argument hi hp =>
          obtain ⟨arg, harg, rfl⟩ := List.mem_map.1 (List.mem_of_getElem? hi)
          obtain ⟨hinner, -⟩ := ih arg harg ((hargs arg harg).lt_maxDepth (by simp)) hp
          rw [unchained_cons rfl]
          omega
  | group h ih =>
      obtain ⟨hinner, -⟩ := ih (h.lt_maxDepth (by simp)) hp
      simp only [Phrase.tightness, Level.tightness] at hinner ⊢
      exact ⟨by omega, fun _ => by omega⟩

/-! ### Texts -/

section Texts

variable {scope : Scope} {text : String} {t : Expr}

theorem unchained_le_of_parse (h : parse text = .ok t) {p : List Turn} {e : Expr}
    (hp : t.Path p e) : unchained p ≤ 319 := by
  obtain ⟨ts, -, hsentence⟩ := parse_eq_ok.1 h
  obtain ⟨hlt, -⟩ := Derives.unchained_lt hsentence (by decide) hp
  have hroom : 5 * maxDepth = 320 := rfl
  simp only [Phrase.tightness, Level.tightness] at hlt
  omega

/-- Evaluation that is too deep goes down a path, and all but 319 turns of it go on with chains. -/
theorem exists_path_of_tooDeep (h : parse text = .ok t) {depth : Nat}
    (htoo : eval scope depth t = .error .tooDeep) :
    ∃ p e, t.Path p e ∧ p.length = depth ∧ depth ≤ chained p + 319 := by
  obtain ⟨p, e, hp, rfl⟩ := exists_path (lt_height_of_tooDeep htoo)
  have hbound := unchained_le_of_parse h hp
  refine ⟨p, e, hp, rfl, ?_⟩
  rw [length_eq_chained_add_unchained]
  omega

end Texts

/-- **Every path of an expression that was parsed** takes at most 319 turns that are not to a left side.
So if evaluation goes down further than that, then it goes on with chains of operators that associate
to the left, for all the levels that are left; and if a text is said to be nested too deeply, although
it can be parsed, then there are hundreds of them. -/
theorem nesting_is_bounded {text : String} {t : Expr} (h : parse text = .ok t) :
    (∀ p e, t.Path p e → nesting p ≤ 319) ∧
    (∀ scope depth, eval scope depth t = .error .tooDeep →
      ∃ p e, t.Path p e ∧ p.length = depth ∧ depth ≤ chained p + 319) ∧
    ∀ scope, evaluate scope text = .ok (.fault .tooDeep) →
      ∃ p e, t.Path p e ∧ 581 ≤ chained p := by
  refine ⟨fun p e hp => Nat.le_trans (nesting_le_unchained p) (unchained_le_of_parse h hp),
    fun scope depth htoo => exists_path_of_tooDeep h htoo, fun scope hfault => ?_⟩
  obtain ⟨p, e, hp, -, hchained⟩ := exists_path_of_tooDeep h (eval_tooDeep_of_fault h hfault)
  have hlimit : maxEvalDepth = 900 := rfl
  exact ⟨p, e, hp, by omega⟩

/-- A chain of two thousand comparisons, the last of which is with a one. -/
theorem nesting_is_bounded_ladder :
    let text := String.ofList (ladder 2000)
    let scope := (LanternRoad.engine.fresh LanternRoad.traveller).scope
    parse text = .ok (tower 2000) ∧
      (tower 2000).Path [.right] (.number (.int 1)) ∧
      nesting [.right] ≤ 319 ∧
      eval scope 1999 (tower 2000) = .error .tooDeep ∧
      (∃ p e, (tower 2000).Path p e ∧ p.length = 1999 ∧ 1999 ≤ chained p + 319) ∧
      evaluate scope text = .ok (.fault .tooDeep) ∧
      ∃ p e, (tower 2000).Path p e ∧ 581 ≤ chained p := by
  intro text scope
  obtain ⟨hparse, hfault⟩ := evaluate_ladder scope (n := 2000) (by decide)
  have hpath : (tower 2000).Path [.right] (.number (.int 1)) := .right .here
  have htoo : eval scope 1999 (tower 2000) = .error .tooDeep := eval_tower scope (by decide)
  obtain ⟨hbound, hdeep, hsaid⟩ := nesting_is_bounded hparse
  exact ⟨hparse, hpath, hbound _ _ hpath, htoo, hdeep _ _ htoo, hfault, hsaid _ hfault⟩

/-! ### The bound is reached -/

/-- Some phrase has a path with so many turns that are not to a left side. -/
def Deep (ph : Phrase) (k n : Nat) : Prop :=
  ∃ ts t p e, Derives ph k ts t ∧ (∀ tok ∈ ts, tok.Shaped) ∧ t.Path p e ∧ nesting p = n

/-- An operator adds a turn to its right side. -/
theorem Deep.rightSide {l : Level} {k n : Nat} {op : Operator} (h : Deep l.operand k n)
    (hk : k < maxDepth) (hop : op ∈ l.operators) : Deep (.level l) k (n + 1) := by
  obtain ⟨ts, t, p, e, hd, hshaped, hp, rfl⟩ := h
  have hleft : Derives (.level l) k [.boolean true] (.boolean true) := derives_level hk .boolean l
  refine ⟨_, _, _, e, .binary hop hleft hd, ?_, .right hp, List.countP_cons_of_pos rfl⟩
  exact List.forall_mem_cons.2 ⟨trivial, List.forall_mem_cons.2 ⟨trivial, hshaped⟩⟩

/-- On each of the four levels stands an operator. -/
theorem Deep.operators {k n : Nat} (h : Deep .unary k n) (hk : k < maxDepth) :
    Deep (.level .disjunction) k (n + 4) := by
  have hless : Operator.less ∈ Level.ordering.operators := by decide
  have hequal : Operator.equal ∈ Level.equality.operators := by decide
  have hand : Operator.and ∈ Level.conjunction.operators := by decide
  have hor : Operator.or ∈ Level.disjunction.operators := by decide
  have hordering : Deep (.level .ordering) k (n + 1) := Deep.rightSide h hk hless
  have hequality : Deep (.level .equality) k (n + 2) := Deep.rightSide hordering hk hequal
  have hconjunction : Deep (.level .conjunction) k (n + 3) := Deep.rightSide hequality hk hand
  exact Deep.rightSide hconjunction hk hor

/-- A call adds a turn to its argument. -/
theorem Deep.argument {k n : Nat} (h : Deep (.level .disjunction) (k + 1) n)
    (hk : k < maxDepth) : Deep .unary k (n + 1) := by
  obtain ⟨ts, t, p, e, hd, hshaped, hp, rfl⟩ := h
  have hcall := @Derives.call k ['f'] [(ts, t)] (by simpa using hd)
  refine ⟨_, _, .argument 0 :: p, e, .plain hk hcall, ?_, .argument rfl hp,
    List.countP_cons_of_pos rfl⟩
  have hname : (Token.identifier ['f']).Shaped :=
    ⟨.mk rfl (List.all_eq_true.1 rfl), fun b => by cases b <;> decide⟩
  have hargs : ∀ tok ∈ separated ([(ts, t)].map Prod.fst), tok.Shaped := by
    simpa [separated] using hshaped
  exact List.forall_mem_cons.2 ⟨hname, List.forall_mem_cons.2
    ⟨trivial, List.forall_mem_append.2 ⟨hargs, List.forall_mem_singleton.2 trivial⟩⟩⟩

/-- As many calls inside one another as there is room for. -/
theorem deep_disjunction {k n : Nat} (h : n + k + 1 = maxDepth) :
    Deep (.level .disjunction) k (5 * n + 4) := by
  induction n generalizing k with
  | zero =>
      have hboolean : Deep .unary k 0 :=
        ⟨_, _, [], _, .plain (by omega) (.boolean (b := true)), List.forall_mem_singleton.2 trivial,
          .here, rfl⟩
      exact hboolean.operators (by omega)
  | succ n ih =>
      have hinner : Deep (.level .disjunction) (k + 1) (5 * n + 4) := ih (by omega)
      exact (hinner.argument (by omega)).operators (by omega)

/-- The tokens that a text can have can all be written. -/
theorem exists_written {ts : List Token} (h : ∀ tok ∈ ts, tok.Shaped) : ∃ cs, Written ts cs := by
  have hquote : IsQuote '"' := .inl rfl
  induction ts with
  | nil => exact ⟨[], .none isGap_nil⟩
  | cons tok ts ih =>
      obtain ⟨htok, hts⟩ := List.forall_mem_cons.1 h
      cases ts with
      | nil => exact ⟨_, .last isGap_nil hquote htok isGap_nil⟩
      | cons tok' ts =>
          obtain ⟨cs, hcs⟩ := ih hts
          exact ⟨_, .next isGap_nil hquote htok (by decide : isSeparator ' ' = true) hcs⟩

/-- **The bound is reached**: some text has a path with 319 turns that are not to a left side. -/
theorem exists_deepest :
    ∃ text t p e, parse text = .ok t ∧ t.Path p e ∧ nesting p = 319 := by
  obtain ⟨ts, t, p, e, hsentence, hshaped, hp, hnesting⟩ := deep_disjunction (n := 63) (k := 0) rfl
  obtain ⟨cs, hcs⟩ := exists_written hshaped
  refine ⟨String.ofList cs, t, p, e, parse_eq_ok.2 ⟨ts, ?_, hsentence⟩, hp, hnesting⟩
  rw [String.toList_ofList]
  exact tokenize_eq_ok.2 hcs.reading

end Storyworld.Expression
