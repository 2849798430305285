/-
**The grammar of condition expressions, and the parser as its decision procedure.**

The grammar is an inductive relation between the tokens of a phrase and the expression that they
spell.  It does not say how a phrase is found: a level is a phrase of that level, one of its
operators and a phrase of the next tighter kind, so that a level is left-recursive, and a list of
tokens is split wherever that makes it a phrase.  The relation counts the negations, parentheses and
calls around a phrase, because an operand may stand in no more than 63 of them.

The parser follows the grammar from both sides.  What it takes off the head of a list of tokens is a
phrase.  Conversely it takes a whole phrase and nothing more, whatever stands behind the phrase, as
long as that cannot go on with it: no parenthesis is opened and no operator stands there that binds
as tightly as the phrase.

Main definitions:

* `Storyworld.Expression.Derives` — the grammar;
* `Storyworld.Expression.Sentence` — a whole list of tokens spells an expression;
* `Storyworld.Expression.Behind` — what may stand behind a phrase.

Main results:

* `Storyworld.Expression.sound_unary` — what the parser takes is a phrase;
* `Storyworld.Expression.Derives.taken` — the parser takes every phrase;
* `Storyworld.Expression.parseTokens_decides_sentence` — **the parser accepts exactly its grammar**.
-/

import Storyworld.Expression.Syntax

set_option relaxedAutoImplicit false
set_option autoImplicit false

namespace Storyworld.Expression

/-! ### The grammar -/

/-- The levels of binary operators, from the loosest to the tightest. -/
inductive Level where
  | disjunction
  | conjunction
  | equality
  | ordering

/-- The kinds of phrases. -/
inductive Phrase where
  | level (l : Level)
  | unary
  | primary

namespace Level

def operators : Level → List Operator
  | disjunction => [.or]
  | conjunction => [.and]
  | equality => [.equal, .notEqual]
  | ordering => [.greater, .greaterEqual, .less, .lessEqual]

/-- The phrases that the operators of a level stand between. -/
def operand : Level → Phrase
  | disjunction => .level .conjunction
  | conjunction => .level .equality
  | equality => .level .ordering
  | ordering => .unary

end Level

/-- The numbers that are spelled by digits with at most one point.  Without a point the digits are
an integer, and not too many of them. -/
inductive Spells : List Char → Number → Prop where
  | whole {digits : List Char} : '.' ∉ digits → digits.length ≤ maxLiteralDigits →
      Spells digits (.int (Text.natOfDecimals digits))
  | pointed {whole places : List Char} : '.' ∉ whole → '.' ∉ places →
      Spells (whole ++ '.' :: places)
        (.float (Decimal.toDouble false
          ⟨Text.natOfDecimals (whole ++ places), -(places.length : Int)⟩))

/-- A namespace and its point, with no key behind them. -/
def BareNamespace (name : List Char) : Prop :=
  ∃ space ∈ namespaces, name = space.toList ++ ['.']

/-- Lists of tokens with commas between them. -/
def separated : List (List Token) → List Token
  | [] => []
  | ts :: tss => ts ++ tss.flatMap (.comma :: ·)

/-- **The grammar.**  `Derives ph k ts t` says that the tokens `ts` are a phrase of the kind `ph`
which spells `t`, where `k` negations, parentheses and calls stand around the phrase. -/
inductive Derives : Phrase → Nat → List Token → Expr → Prop where
  | operand {l : Level} {k : Nat} {ts : List Token} {t : Expr} :
      Derives l.operand k ts t → Derives (.level l) k ts t
  | binary {l : Level} {k : Nat} {op : Operator} {ts us : List Token} {t u : Expr} :
      op ∈ l.operators → Derives (.level l) k ts t → Derives l.operand k us u →
      Derives (.level l) k (ts ++ .operator op :: us) (.binary op t u)
  | negated {k : Nat} {ts : List Token} {t : Expr} :
      Derives .unary (k + 1) ts t → Derives .unary k (.negation :: ts) (.not t)
  | plain {k : Nat} {ts : List Token} {t : Expr} :
      k < maxDepth → Derives .primary k ts t → Derives .unary k ts t
  | number {k : Nat} {spelling : List Char} {n : Number} :
      Spells spelling n → Derives .primary k [.number spelling] (.number n)
  | string {k : Nat} {content : List Char} :
      Derives .primary k [.string content] (.string (String.ofList content))
  | boolean {k : Nat} {b : Bool} : Derives .primary k [.boolean b] (.boolean b)
  | identifier {k : Nat} {name : List Char} :
      ¬BareNamespace name →
      Derives .primary k [.identifier name] (.identifier (String.ofList name))
  | call {k : Nat} {name : List Char} {args : List (List Token × Expr)} :
      (∀ arg ∈ args, Derives (.level .disjunction) (k + 1) arg.1 arg.2) →
      Derives .primary k
        (.identifier name :: .opening :: (separated (args.map Prod.fst) ++ [.closing]))
        (.call (String.ofList name) (args.map Prod.snd))
  | group {k : Nat} {ts : List Token} {t : Expr} :
      Derives (.level .disjunction) (k + 1) ts t →
      Derives .primary k (.opening :: (ts ++ [.closing])) t

/-- A whole list of tokens spells an expression. -/
def Sentence (ts : List Token) (t : Expr) : Prop := Derives (.level .disjunction) 0 ts t

/-- An operand is a phrase of every level. -/
theorem derives_level {k : Nat} {ts : List Token} {t : Expr} (hk : k < maxDepth)
    (h : Derives .primary k ts t) (l : Level) : Derives (.level l) k ts t := by
  have hordering : Derives (.level .ordering) k ts t := .operand (.plain hk h)
  have hequality : Derives (.level .equality) k ts t := .operand hordering
  have hconjunction : Derives (.level .conjunction) k ts t := .operand hequality
  cases l with
  | disjunction => exact .operand hconjunction
  | conjunction => exact hconjunction
  | equality => exact hequality
  | ordering => exact hordering

/-! ### Literals and identifiers -/

theorem literal_pointed {whole places : List Char} (hwhole : '.' ∉ whole) (hplaces : '.' ∉ places) :
    literal (whole ++ '.' :: places) = .ok (.float (Decimal.toDouble false
      ⟨Text.natOfDecimals (whole ++ places), -(places.length : Int)⟩)) := by
  have hstop : ∀ c ∈ whole, (c != '.') = true := by
    intro c hc
    have : c ≠ '.' := fun h => hwhole (h ▸ hc)
    simpa using this
  simp [literal, List.count_eq_zero.2 hwhole, List.count_eq_zero.2 hplaces,
    List.takeWhile_append_of_pos hstop, List.dropWhile_append_of_pos hstop]

theorem literal_eq_ok {spelling : List Char} {n : Number} :
    literal spelling = .ok n ↔ Spells spelling n := by
  constructor
  · intro h
    have hshape := h
    unfold literal at hshape
    split at hshape
    · next hcount =>
      split at hshape
      · cases hshape
      · cases hshape
        exact .whole (List.count_eq_zero.1 hcount) (by omega)
    · next hcount =>
      have hpoint : '.' ∈ spelling := List.count_pos_iff.1 (by omega)
      obtain ⟨whole, places, rfl, hwhole⟩ := List.eq_append_cons_of_mem hpoint
      have hplaces : '.' ∉ places := by
        rw [List.count_append, List.count_eq_zero.2 hwhole, List.count_cons_self] at hcount
        exact List.count_eq_zero.1 (by omega)
      rw [literal_pointed hwhole hplaces] at h
      cases h
      exact .pointed hwhole hplaces
    · cases hshape
  · intro h
    cases h with
    | whole hpoint hfits =>
      simp [literal, List.count_eq_zero.2 hpoint, Nat.not_lt.2 hfits]
    | pointed hwhole hplaces => exact literal_pointed hwhole hplaces

theorem keyIn?_eq_nil {space : String} {name : List Char} :
    keyIn? space name = some [] ↔ name = space.toList ++ ['.'] := by
  unfold keyIn?
  simp only [List.isPrefixOf_iff_prefix]
  split
  · next hp =>
    obtain ⟨key, rfl⟩ := hp
    simp
  · next hp =>
    constructor
    · intro h
      cases h
    · rintro rfl
      exact absurd List.prefix_rfl hp

theorem checked_eq_ok {name : List Char} {t : Expr} :
    checked name = .ok t ↔ ¬BareNamespace name ∧ t = .identifier (String.ofList name) := by
  have hbare : BareNamespace name ↔ ∃ space ∈ namespaces, keyIn? space name = some [] := by
    simp only [BareNamespace, keyIn?_eq_nil]
  unfold checked
  split
  · next space hfind =>
    have hin := List.mem_of_find?_eq_some hfind
    have hkey : keyIn? space name = some [] := by simpa using List.find?_some hfind
    simp [hbare.2 ⟨space, hin, hkey⟩]
  · next hfind =>
    have hnot : ¬BareNamespace name := by
      rw [hbare]
      rintro ⟨space, hin, hkey⟩
      have := List.find?_eq_none.1 hfind space hin
      simp [hkey] at this
    constructor
    · intro h
      cases h
      exact ⟨hnot, rfl⟩
    · rintro ⟨-, rfl⟩
      rfl

/-! ### What the parser takes is a phrase -/

/-- What a parser takes off the head of a list of tokens satisfies `D`. -/
def Sound (p : Parser) (D : List Token → Expr → Prop) : Prop :=
  ∀ (ts rest : List Token) (t : Expr),
    p ts = .ok (t, rest) → ∃ used, ts = used ++ rest ∧ D used t

theorem bind_eq_ok {ε α β : Type} {x : Except ε α} {f : α → Except ε β} {b : β} :
    x >>= f = .ok b ↔ ∃ a, x = .ok a ∧ f a = .ok b := by
  cases x with
  | error e => simp [bind, Except.bind]
  | ok a => simp [bind, Except.bind]

theorem bind_eq_error {ε α β : Type} {x : Except ε α} {f : α → Except ε β} {e : ε} :
    x >>= f = .error e ↔ x = .error e ∨ ∃ a, x = .ok a ∧ f a = .error e := by
  cases x with
  | error e => simp [bind, Except.bind]
  | ok a => simp [bind, Except.bind]

section Soundness

variable {l : Level} {k : Nat} {tighter : Parser}

/-- The tokens `taken` were taken before; every operator of the level makes them longer. -/
theorem chainFrom_sound (htighter : Sound tighter (Derives l.operand k)) {fuel : Nat}
    {taken ts rest : List Token} {left t : Expr} (hleft : Derives (.level l) k taken left)
    (h : chainFrom l.operators tighter fuel left ts = .ok (t, rest)) :
    ∃ more, ts = more ++ rest ∧ Derives (.level l) k (taken ++ more) t := by
  induction fuel generalizing ts taken left with
  | zero =>
    cases h
    exact ⟨[], rfl, by simpa using hleft⟩
  | succ fuel ih =>
    -- where no operator of the level stands, nothing more is taken
    have hstop (h : (.ok (left, ts) : Except Fault _) = .ok (t, rest)) :
        ∃ more, ts = more ++ rest ∧ Derives (.level l) k (taken ++ more) t := by
      cases h
      exact ⟨[], rfl, by simpa using hleft⟩
    unfold chainFrom at h
    split at h
    · next op behind =>
      split at h
      · next hop =>
        obtain ⟨⟨right, behind'⟩, hright, hfrom⟩ := bind_eq_ok.1 h
        obtain ⟨us, hbehind, hus⟩ := htighter _ _ _ hright
        obtain ⟨more, hmore, hd⟩ := ih (.binary hop hleft hus) hfrom
        exact ⟨.operator op :: us ++ more, by simp [hbehind, hmore], by simpa using hd⟩
      · exact hstop h
    · exact hstop h

theorem sound_chain (htighter : Sound tighter (Derives l.operand k)) :
    Sound (chain l.operators tighter) (Derives (.level l) k) := by
  intro ts rest t h
  obtain ⟨⟨left, behind⟩, hleft, hfrom⟩ := bind_eq_ok.1 h
  obtain ⟨used, hused, hd⟩ := htighter _ _ _ hleft
  obtain ⟨more, hmore, hd'⟩ := chainFrom_sound htighter (.operand hd) hfrom
  exact ⟨used ++ more, by simp [hused, hmore], hd'⟩

theorem sound_disjunctionOver {tightest : Parser} (h : Sound tightest (Derives .unary k)) :
    Sound (disjunctionOver tightest) (Derives (.level .disjunction) k) := by
  have hordering := sound_chain (l := .ordering) h
  have hequality := sound_chain (l := .equality) hordering
  have hconjunction := sound_chain (l := .conjunction) hequality
  exact sound_chain (l := .disjunction) hconjunction

variable {argument : Parser} {D : List Token → Expr → Prop}

theorem moreArguments_sound (hargument : Sound argument D) {fuel : Nat} {ts rest : List Token}
    {es : List Expr} (h : moreArguments argument fuel ts = .ok (es, rest)) :
    ∃ args : List (List Token × Expr), ts = (args.map Prod.fst).flatMap (.comma :: ·) ++ rest ∧
      es = args.map Prod.snd ∧ ∀ arg ∈ args, D arg.1 arg.2 := by
  induction fuel generalizing ts es with
  | zero =>
    cases h
    exact ⟨[], by simp⟩
  | succ fuel ih =>
    unfold moreArguments at h
    split at h
    · next behind =>
      obtain ⟨⟨e, behind'⟩, he, h'⟩ := bind_eq_ok.1 h
      obtain ⟨⟨es', behind''⟩, hes, hpure⟩ := bind_eq_ok.1 h'
      cases hpure
      obtain ⟨used, hused, hd⟩ := hargument _ _ _ he
      obtain ⟨args, hargs, rfl, hds⟩ := ih hes
      exact ⟨(used, e) :: args, by simp [hused, hargs], rfl, List.forall_mem_cons.2 ⟨hd, hds⟩⟩
    · cases h
      exact ⟨[], by simp⟩

theorem arguments_sound (hargument : Sound argument D) {ts rest : List Token} {es : List Expr}
    (h : arguments argument ts = .ok (es, rest)) :
    ∃ args : List (List Token × Expr),
      ts = separated (args.map Prod.fst) ++ .closing :: rest ∧
      es = args.map Prod.snd ∧ ∀ arg ∈ args, D arg.1 arg.2 := by
  unfold arguments at h
  split at h
  · cases h
    exact ⟨[], by simp [separated]⟩
  · obtain ⟨⟨e, behind⟩, he, h'⟩ := bind_eq_ok.1 h
    obtain ⟨⟨es', behind'⟩, hes, hclose⟩ := bind_eq_ok.1 h'
    obtain ⟨used, hused, hd⟩ := hargument _ _ _ he
    obtain ⟨args, hargs, rfl, hds⟩ := moreArguments_sound hargument hes
    simp only at hclose
    split at hclose
    · cases hclose
      exact ⟨(used, e) :: args, by simp [separated, hused, hargs], rfl,
        List.forall_mem_cons.2 ⟨hd, hds⟩⟩
    · cases hclose

theorem sound_primary {inner : Parser}
    (hinner : Sound inner (Derives (.level .disjunction) (k + 1))) :
    Sound (primary inner) (Derives .primary k) := by
  intro ts rest t h
  unfold primary at h
  split at h
  · next spelling behind =>
    obtain ⟨n, hn, hpure⟩ := bind_eq_ok.1 h
    cases hpure
    exact ⟨[.number spelling], rfl, .number (literal_eq_ok.1 hn)⟩
  · next content behind =>
    cases h
    exact ⟨[.string content], rfl, .string⟩
  · next b behind =>
    cases h
    exact ⟨[.boolean b], rfl, .boolean⟩
  · next name behind =>
    obtain ⟨⟨es, behind'⟩, hes, hpure⟩ := bind_eq_ok.1 h
    cases hpure
    obtain ⟨args, hargs, rfl, hds⟩ := arguments_sound hinner hes
    exact ⟨.identifier name :: .opening :: (separated (args.map Prod.fst) ++ [.closing]),
      by simp [hargs], .call hds⟩
  · next name behind _ =>
    obtain ⟨e, he, hpure⟩ := bind_eq_ok.1 h
    cases hpure
    obtain ⟨hname, rfl⟩ := checked_eq_ok.1 he
    exact ⟨[.identifier name], rfl, .identifier hname⟩
  · next behind =>
    obtain ⟨⟨e, behind'⟩, he, hclose⟩ := bind_eq_ok.1 h
    obtain ⟨used, hused, hd⟩ := hinner _ _ _ he
    simp only at hclose
    split at hclose
    · cases hclose
      exact ⟨.opening :: (used ++ [.closing]), by simp [hused], .group hd⟩
    · cases hclose
  · cases h

end Soundness

/-- **What the parser takes is a phrase.**  The levels of nesting that are left and those around the
phrase are 64 together. -/
theorem sound_unary {depth k : Nat} (hk : depth + k = maxDepth) :
    Sound (unary depth) (Derives .unary k) := by
  induction depth generalizing k with
  | zero =>
    intro ts rest t h
    cases h
  | succ depth ih =>
    have hinner : Sound (unary depth) (Derives .unary (k + 1)) := ih (by omega)
    intro ts rest t h
    unfold unary at h
    split at h
    · next behind =>
      obtain ⟨⟨e, behind'⟩, he, hpure⟩ := bind_eq_ok.1 h
      cases hpure
      obtain ⟨used, hused, hd⟩ := hinner _ _ _ he
      exact ⟨.negation :: used, by simp [hused], .negated hd⟩
    · obtain ⟨used, hused, hd⟩ := sound_primary (sound_disjunctionOver hinner) _ _ _ h
      exact ⟨used, hused, .plain (by omega) hd⟩

/-! ### Every phrase is taken -/

/-- How tightly an operator binds: as its level stands below the loosest one. -/
def Operator.tightness : Operator → Nat
  | or => 0
  | and => 1
  | equal | notEqual => 2
  | less | lessEqual | greater | greaterEqual => 3

def Level.tightness : Level → Nat
  | disjunction => 0
  | conjunction => 1
  | equality => 2
  | ordering => 3

def Phrase.tightness : Phrase → Nat
  | level l => l.tightness
  | unary => 4
  | primary => 4

theorem Level.mem_operators {l : Level} {op : Operator} :
    op ∈ l.operators ↔ op.tightness = l.tightness := by
  cases l <;> cases op <;> decide

theorem Level.tightness_operand (l : Level) : l.operand.tightness = l.tightness + 1 := by
  cases l <;> rfl

/-- What may stand behind a phrase that binds as tightly as `n`: no opening parenthesis, which would
make a call of an identifier, and only operators that bind less tightly. -/
def Behind (n : Nat) (rest : List Token) : Prop :=
  rest.head? ≠ some .opening ∧ ∀ op, rest.head? = some (.operator op) → op.tightness < n

theorem Behind.mono {m n : Nat} {rest : List Token} (h : Behind m rest) (hmn : m ≤ n) :
    Behind n rest :=
  ⟨h.1, fun op hop => Nat.lt_of_lt_of_le (h.2 op hop) hmn⟩

theorem behind_nil (n : Nat) : Behind n [] := ⟨by simp, by simp⟩

theorem behind_closing (n : Nat) (rest : List Token) : Behind n (.closing :: rest) :=
  ⟨by simp, by simp⟩

theorem behind_comma (n : Nat) (rest : List Token) : Behind n (.comma :: rest) :=
  ⟨by simp, by simp⟩

theorem behind_operator {n : Nat} {op : Operator} (h : op.tightness < n) (rest : List Token) :
    Behind n (.operator op :: rest) :=
  ⟨by simp, by simpa using h⟩

/-- The parser of a level over a parser for the tightest one. -/
def Level.parser (tightest : Parser) : Level → Parser
  | ordering => chain ordering.operators tightest
  | equality => chain equality.operators (chain ordering.operators tightest)
  | conjunction =>
    chain conjunction.operators (chain equality.operators (chain ordering.operators tightest))
  | disjunction => disjunctionOver tightest

/-- The parser of a phrase in which operands may be nested `depth` levels deep. -/
def Phrase.parser (depth : Nat) : Phrase → Parser
  | level l => l.parser (Expression.unary (depth + 1))
  | unary => Expression.unary (depth + 1)
  | primary => Expression.primary (disjunction depth)

theorem Level.parser_eq_chain (l : Level) (depth : Nat) :
    l.parser (unary (depth + 1)) = chain l.operators (l.operand.parser depth) := by
  cases l <;> rfl

/-- The parser takes the phrase `ts` and nothing behind it. -/
def Takes (p : Parser) (n : Nat) (ts : List Token) (t : Expr) : Prop :=
  ∀ rest, Behind n rest → p (ts ++ rest) = .ok (t, rest)

/-- The parser of a level takes `ts` and then goes on behind it with `t` on the left.  An operator
of the same level may stand there, which is what makes the level associate to the left. -/
def TakesUpTo (l : Level) (depth : Nat) (ts : List Token) (t : Expr) : Prop :=
  ∀ rest, Behind (l.tightness + 1) rest → ∃ fuel, rest.length ≤ fuel ∧
    l.parser (unary (depth + 1)) (ts ++ rest) =
      chainFrom l.operators (l.operand.parser depth) fuel t rest

section Completeness

variable {l : Level} {depth k : Nat} {ts : List Token} {t : Expr}

theorem chainFrom_stops {tighter : Parser} {rest : List Token} (h : Behind l.tightness rest)
    (fuel : Nat) (left : Expr) : chainFrom l.operators tighter fuel left rest = .ok (left, rest) := by
  cases fuel with
  | zero => rfl
  | succ fuel =>
    unfold chainFrom
    split
    · next op behind =>
      have hop : op ∉ l.operators := by
        have := h.2 op rfl
        rw [Level.mem_operators]
        omega
      simp [hop]
    · rfl

theorem TakesUpTo.takes (h : TakesUpTo l depth ts t) :
    Takes (l.parser (unary (depth + 1))) l.tightness ts t := by
  intro rest hrest
  obtain ⟨fuel, -, heq⟩ := h rest (hrest.mono (by omega))
  rw [heq, chainFrom_stops hrest]

theorem takesUpTo_operand (h : Takes (l.operand.parser depth) l.operand.tightness ts t) :
    TakesUpTo l depth ts t := by
  intro rest hrest
  rw [l.tightness_operand] at h
  refine ⟨rest.length, Nat.le_refl _, ?_⟩
  rw [l.parser_eq_chain, chain, h rest hrest]
  rfl

theorem TakesUpTo.binary {op : Operator} {us : List Token} {u : Expr} (hop : op ∈ l.operators)
    (ht : TakesUpTo l depth ts t) (hu : Takes (l.operand.parser depth) l.operand.tightness us u) :
    TakesUpTo l depth (ts ++ .operator op :: us) (.binary op t u) := by
  intro rest hrest
  have hbehind : Behind (l.tightness + 1) (.operator op :: (us ++ rest)) :=
    behind_operator (by rw [Level.mem_operators.1 hop]; omega) _
  obtain ⟨fuel, hfuel, heq⟩ := ht _ hbehind
  -- the operator takes one unit of the fuel, and enough is left for what stands behind `us`
  obtain ⟨fuel, rfl⟩ : ∃ n, fuel = n + 1 := ⟨fuel - 1, by simp at hfuel; omega⟩
  refine ⟨fuel, by simp at hfuel; omega, ?_⟩
  rw [l.tightness_operand] at hu
  rw [List.append_assoc, List.cons_append, heq, chainFrom, if_pos hop, hu rest hrest]
  rfl

/-! The heads of phrases tell apart what the parser branches on. -/

theorem Derives.exists_cons {ph : Phrase} (h : Derives ph k ts t) :
    ∃ tok ts', ts = tok :: ts' ∧ tok ≠ .closing := by
  induction h with
  | operand _ ih => exact ih
  | binary _ _ _ ih _ =>
    obtain ⟨tok, ts', rfl, htok⟩ := ih
    exact ⟨tok, _, rfl, htok⟩
  | plain _ _ ih => exact ih
  | negated | number | string | boolean | identifier | call | group =>
    exact ⟨_, _, rfl, by simp⟩

/-- A unary phrase, and so a phrase of any level, stands in fewer than 64 others. -/
theorem Derives.lt_maxDepth {ph : Phrase} (h : Derives ph k ts t) (hph : ph ≠ .primary) :
    k < maxDepth := by
  induction h with
  | @operand l _ _ _ _ ih => exact ih (by cases l <;> simp [Level.operand])
  | binary _ _ _ ih _ => exact ih (by simp)
  | negated _ ih =>
    have := ih (by simp)
    omega
  | plain hk _ _ => exact hk
  | number | string | boolean | identifier | call | group => exact absurd rfl hph

/-! The further arguments of a call begin with a comma each, so that they may stand behind any
phrase, and are at least as many tokens as arguments. -/

theorem behind_further (tss : List (List Token)) (rest : List Token) :
    Behind 0 (tss.flatMap (.comma :: ·) ++ .closing :: rest) := by
  cases tss with
  | nil => exact behind_closing 0 rest
  | cons _ _ => exact behind_comma 0 _

theorem length_le_further (tss : List (List Token)) :
    tss.length ≤ (tss.flatMap (.comma :: ·)).length := by
  induction tss with
  | nil => simp
  | cons ts tss ih =>
    simp only [List.flatMap_cons, List.length_append, List.length_cons]
    omega

theorem moreArguments_takes {argument : Parser} {args : List (List Token × Expr)}
    (hargs : ∀ arg ∈ args, Takes argument 0 arg.1 arg.2) (rest : List Token) {fuel : Nat}
    (hfuel : args.length ≤ fuel) :
    moreArguments argument fuel
        ((args.map Prod.fst).flatMap (.comma :: ·) ++ .closing :: rest) =
      .ok (args.map Prod.snd, .closing :: rest) := by
  induction args generalizing fuel with
  | nil => cases fuel <;> rfl
  | cons arg args ih =>
    obtain ⟨fuel, rfl⟩ : ∃ n, fuel = n + 1 := ⟨fuel - 1, by simp at hfuel; omega⟩
    obtain ⟨harg, hargs⟩ := List.forall_mem_cons.1 hargs
    have hmore := ih hargs (by simpa using hfuel)
    simp only [List.map_cons, List.flatMap_cons, List.cons_append, List.append_assoc,
      moreArguments]
    rw [harg _ (behind_further _ rest)]
    simp only [bind, Except.bind, hmore]
    rfl

theorem arguments_takes {argument : Parser} {args : List (List Token × Expr)}
    (hargs : ∀ arg ∈ args, Takes argument 0 arg.1 arg.2)
    (hheads : ∀ arg ∈ args, ∃ tok ts', arg.1 = tok :: ts' ∧ tok ≠ .closing) (rest : List Token) :
    arguments argument (separated (args.map Prod.fst) ++ .closing :: rest) =
      .ok (args.map Prod.snd, rest) := by
  cases args with
  | nil => rfl
  | cons arg args =>
    obtain ⟨harg, hargs⟩ := List.forall_mem_cons.1 hargs
    obtain ⟨tok, ts', hhead, htok⟩ := hheads arg (by simp)
    have hlength := length_le_further (args.map Prod.fst)
    have hfuel : args.length ≤
        ((args.map Prod.fst).flatMap (.comma :: ·) ++ .closing :: rest).length := by
      simp only [List.length_map, List.length_append] at hlength ⊢
      omega
    have hmore := moreArguments_takes hargs rest hfuel
    have hfirst := harg _ (behind_further (args.map Prod.fst) rest)
    simp only [List.map_cons, separated, List.append_assoc]
    unfold arguments
    split
    · next h =>
      -- the list of arguments is not empty, and no argument begins with a closing parenthesis
      rw [hhead, List.cons_append] at h
      exact absurd (List.cons.inj h).1 htok
    · rw [hfirst]
      simp only [bind, Except.bind, hmore]
      rfl

theorem takes_call {inner : Parser} {name : List Char} {args : List (List Token × Expr)}
    (hargs : ∀ arg ∈ args, Takes inner 0 arg.1 arg.2)
    (hheads : ∀ arg ∈ args, ∃ tok ts', arg.1 = tok :: ts' ∧ tok ≠ .closing) :
    Takes (primary inner) 4
      (.identifier name :: .opening :: (separated (args.map Prod.fst) ++ [.closing]))
      (.call (String.ofList name) (args.map Prod.snd)) := by
  intro rest _
  simp only [List.cons_append, List.append_assoc, List.nil_append, primary]
  rw [arguments_takes hargs hheads rest]
  rfl

theorem takes_group {inner : Parser} (h : Takes inner 0 ts t) :
    Takes (primary inner) 4 (.opening :: (ts ++ [.closing])) t := by
  intro rest _
  simp only [List.cons_append, List.append_assoc, List.nil_append, primary]
  rw [h _ (behind_closing 0 rest)]
  rfl

theorem takes_number {inner : Parser} {spelling : List Char} {n : Number}
    (hn : Spells spelling n) : Takes (primary inner) 4 [.number spelling] (.number n) := by
  intro rest _
  simp only [List.cons_append, List.nil_append, primary]
  rw [literal_eq_ok.2 hn]
  rfl

theorem takes_identifier {inner : Parser} {name : List Char} (hname : ¬BareNamespace name) :
    Takes (primary inner) 4 [.identifier name] (.identifier (String.ofList name)) := by
  intro rest hrest
  have hchecked := checked_eq_ok.2 ⟨hname, rfl⟩
  have hprimary : primary inner (.identifier name :: rest) = (do
      let e ← checked name
      pure (e, rest)) := by
    cases rest with
    | nil => rfl
    | cons tok rest =>
      -- behind the name of an operand no parenthesis may be opened
      cases tok with
      | opening => exact absurd rfl hrest.1
      | _ => rfl
  rw [List.cons_append, List.nil_append, hprimary, hchecked]
  rfl

theorem takes_negated (h : Takes (unary depth) 4 ts t) :
    Takes (unary (depth + 1)) 4 (.negation :: ts) (.not t) := by
  intro rest hrest
  simp only [List.cons_append, unary]
  rw [h rest hrest]
  rfl

theorem Derives.takes_plain (h : Derives .primary k ts t)
    (ht : Takes (primary (disjunction depth)) 4 ts t) : Takes (unary (depth + 1)) 4 ts t := by
  intro rest hrest
  have hunary : unary (depth + 1) (ts ++ rest) = primary (disjunction depth) (ts ++ rest) := by
    cases h <;> rfl
  rw [hunary, ht rest hrest]

/-- What the induction over a derivation carries. -/
def Phrase.Taken (depth : Nat) (ts : List Token) (t : Expr) : Phrase → Prop
  | level l => TakesUpTo l depth ts t
  | unary => Takes (Phrase.unary.parser depth) 4 ts t
  | primary => Takes (Phrase.primary.parser depth) 4 ts t

theorem Phrase.Taken.takes {ph : Phrase} (h : ph.Taken depth ts t) :
    Takes (ph.parser depth) ph.tightness ts t := by
  cases ph with
  | level l => exact TakesUpTo.takes h
  | unary => exact h
  | primary => exact h

/-- **The parser takes every phrase** and nothing behind it. -/
theorem Derives.taken {ph : Phrase} (h : Derives ph k ts t) (hk : depth + 1 + k = maxDepth) :
    ph.Taken depth ts t := by
  -- inside one more pair of parentheses one level of nesting less is left
  have hinner {ph : Phrase} {k depth : Nat} {ts : List Token} {t : Expr}
      (h : Derives ph (k + 1) ts t) (hph : ph ≠ .primary) (hk : depth + 1 + k = maxDepth) :
      ∃ n, depth = n + 1 ∧ n + 1 + (k + 1) = maxDepth := by
    have hlt := h.lt_maxDepth hph
    exact ⟨depth - 1, by omega, by omega⟩
  induction h generalizing depth with
  | operand _ ih => exact takesUpTo_operand (ih hk).takes
  | binary hop _ _ iht ihu => exact (iht hk).binary hop (ihu hk).takes
  | negated h ih =>
    obtain ⟨n, rfl, hn⟩ := hinner h (by simp) hk
    exact takes_negated (ih hn)
  | plain _ h ih => exact h.takes_plain (ih hk)
  | number hn => exact @takes_number (disjunction depth) _ _ hn
  | string =>
    intro rest _
    rfl
  | boolean =>
    intro rest _
    rfl
  | identifier hname => exact takes_identifier hname
  | @call k name args hargs ih =>
    refine takes_call (fun arg harg => ?_) fun arg harg => (hargs arg harg).exists_cons
    obtain ⟨n, rfl, hn⟩ := hinner (hargs arg harg) (by simp) hk
    exact (ih arg harg hn).takes
  | group h ih =>
    obtain ⟨n, rfl, hn⟩ := hinner h (by simp) hk
    exact takes_group (ih hn).takes

end Completeness

/-! ### Whole lists of tokens -/

theorem parseTokens_eq_ok {ts : List Token} {t : Expr} :
    parseTokens ts = .ok t ↔ Sentence ts t := by
  constructor
  · intro h
    obtain ⟨⟨e, rest⟩, he, hend⟩ := bind_eq_ok.1 h
    obtain ⟨used, hused, hd⟩ := sound_disjunctionOver (sound_unary (k := 0) rfl) _ _ _ he
    simp only at hend
    split at hend
    · cases hend
      rwa [hused, List.append_nil]
    · cases hend
  · intro h
    have htaken : Phrase.Taken 63 ts t (.level .disjunction) := h.taken rfl
    have htakes : disjunction maxDepth (ts ++ []) = .ok (t, []) := htaken.takes [] (behind_nil 0)
    rw [List.append_nil] at htakes
    rw [parseTokens, htakes]
    rfl

/-- **The parser accepts exactly its grammar.**  It returns an expression just when the tokens spell
it, a list of tokens spells no two expressions, and the parser fails on every list that spells
none. -/
theorem parseTokens_decides_sentence (ts : List Token) :
    (∀ t, parseTokens ts = .ok t ↔ Sentence ts t) ∧
      (∀ t u, Sentence ts t ∧ Sentence ts u → t = u) ∧
      ((∃ f, parseTokens ts = .error f) ↔ ¬∃ t, Sentence ts t) := by
  refine ⟨fun t => parseTokens_eq_ok, ?_, ?_⟩
  · rintro t u ⟨ht, hu⟩
    have h : Except.ok t = Except.ok u :=
      (parseTokens_eq_ok.2 ht).symm.trans (parseTokens_eq_ok.2 hu)
    exact Except.ok.inj h
  · simp only [← parseTokens_eq_ok]
    cases parseTokens ts with
    | error f => simp
    | ok t => simp

/-- Comparisons associate to the left and bind less tightly than a negation. -/
example (a b c : Bool) :
    parseTokens [.boolean a, .operator .less, .boolean b, .operator .less, .negation, .boolean c] =
      .ok (.binary .less (.binary .less (.boolean a) (.boolean b)) (.not (.boolean c))) := rfl

/-- The expression that a text spells is that which its tokens spell. -/
theorem parse_eq_ok {text : String} {t : Expr} :
    parse text = .ok t ↔ ∃ ts, tokenize text.toList = .ok ts ∧ Sentence ts t := by
  unfold parse parseChars
  rw [bind_eq_ok]
  refine exists_congr fun ts => and_congr_right fun _ => ?_
  cases ts with
  | nil =>
    have hnil : ¬Sentence [] t := by
      intro h
      obtain ⟨_, _, h, -⟩ := h.exists_cons
      cases h
    simp [hnil]
  | cons tok ts => exact parseTokens_eq_ok

end Storyworld.Expression
