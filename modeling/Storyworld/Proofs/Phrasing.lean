/-
**Conditions that an expression says as well.**

Most conditions on a flag, a stat or the inventory can be said in an expression.  A condition is
answered from the state at once.  The expression is split into tokens, parsed and evaluated; its
names are resolved with values of its own for what is not there, and ordering comparisons are made
between floating-point numbers.  Nothing is lost on that way as long as the integers that are
compared have an exact floating-point number, which all integers up to `2 ^ 53` have.

Main definitions:

* `Storyworld.IsKey` — a key that can be written in an expression;
* `Storyworld.comparisons` — the operators of conditions on stats, and those of expressions;
* `Storyworld.Condition.SaidBy` — **an expression says what a condition says**;
* `Storyworld.GameState.Moderate` — the integers of a state are no larger than `2 ^ 53`;
* `Storyworld.Expression.Phrases` — a text is the phrase of an operand.

Main results:

* `Storyworld.Expression.Phrases.parse_comparison` — comparisons of two operands can be parsed;
* `Storyworld.Expression.apply_comparison` — moderate integers are compared exactly;
* `Storyworld.Engine.conditions_as_expressions` — **a condition holds just if the expression does**.
-/

import Storyworld.Proofs.Evaluable
import Storyworld.Proofs.Exact
import Storyworld.Proofs.Lexemes
import Storyworld.Proofs.Mentions
import Storyworld.Proofs.Operators
import Storyworld.Proofs.Reading

set_option relaxedAutoImplicit false
set_option autoImplicit false

namespace Storyworld

/-! ### Conditions and expressions -/

/-- A key that can be written in an expression: ASCII letters and digits, underscores and points, at
least one of them. -/
structure IsKey (key : String) : Prop where
  ne_empty : key ≠ ""
  chars : ∀ c ∈ key.toList, Expression.isIdentifierChar c = true

/-- The operators of conditions on stats, and the operators of expressions with the same meaning. -/
def comparisons : List (String × Expression.Operator) :=
  [("gt", .greater), ("gte", .greaterEqual), ("lt", .less), ("lte", .lessEqual), ("eq", .equal),
    ("neq", .notEqual)]

/-- The operators of conditions on the inventory that compare a count. -/
def countComparisons : List (String × Expression.Operator) :=
  [("countGte", .greaterEqual), ("countLte", .lessEqual)]

/-- The largest integer up to which all integers have an exact floating-point number. -/
def maxExact : Nat := 2 ^ 53

/-- **An expression says what a condition says.**  Ids of items are quoted in any way. -/
inductive Condition.SaidBy : Condition → String → Prop
  | flag {key : String} (hkey : IsKey key) : SaidBy (.flag key none none) s!"flag.{key}"
  | flagEqual {key : String} (hkey : IsKey key) :
      SaidBy (.flag key none none) s!"flag.{key} == true"
  | stat {key name : String} {op : Expression.Operator} {v : Nat} (hkey : IsKey key)
      (hop : (name, op) ∈ comparisons) (hv : v ≤ maxExact) :
      SaidBy (.stat key name (.int v)) s!"stat.{key} {op.spelling} {v}"
  | has {itemId : String} {operator : Option String} {value : Option Number} {lex : List Char}
      (hoperator : operatorOr "has" operator = "has")
      (hlex : Expression.Lexeme (.string itemId.toList) lex) :
      SaidBy (.inventory itemId operator value) s!"hasItem({String.ofList lex})"
  | count {itemId name : String} {op : Expression.Operator} {v : Nat} {lex : List Char}
      (hop : (name, op) ∈ countComparisons) (hv : v ≤ maxExact)
      (hlex : Expression.Lexeme (.string itemId.toList) lex) :
      SaidBy (.inventory itemId (some name) (some (.int v)))
        s!"itemCount({String.ofList lex}) {op.spelling} {v}"

/-- **The integers of a state** are exact as floating-point numbers, and no stat is another
number. -/
structure GameState.Moderate (s : GameState) : Prop where
  stat : ∀ key, ∃ n : Int, s.character.stat key = .int n ∧ n.natAbs ≤ maxExact
  count : ∀ itemId, (s.character.inventory.count itemId).natAbs ≤ maxExact

/-- It is enough to look at the stats and the items that are there. -/
theorem moderate_of_entries {s : GameState}
    (hstats : ∀ entry ∈ s.character.stats, ∃ n : Int, entry.2 = .int n ∧ n.natAbs ≤ maxExact)
    (hitems : ∀ entry ∈ s.character.inventory, entry.count.natAbs ≤ maxExact) : s.Moderate where
  stat key := by
    unfold Character.stat
    cases h : s.character.stats.get? key with
    | none => exact ⟨0, rfl, Nat.zero_le _⟩
    | some x => exact hstats (key, x) (Table.mem_of_get? h)
  count itemId := by
    unfold Inventory.count
    split
    · next entry h => exact hitems entry (List.mem_of_find?_eq_some h)
    · exact Nat.zero_le _

namespace Expression

/-! ### Texts of operands and of comparisons -/

/-- **A text is the phrase of an operand.** -/
def Phrases (cs : List Char) (t : Expr) : Prop := ∃ ts, Reading ts cs ∧ Derives .primary 0 ts t

theorem chars_of_namespace {space : String} (hspace : space ∈ namespaces) :
    space.toList ≠ [] ∧ ∀ c ∈ space.toList, isIdentifierStart c = true := by
  have hall : ∀ space ∈ namespaces, space.toList ≠ [] ∧ space.toList.all isIdentifierStart = true :=
    by decide
  exact (hall space hspace).imp_right List.all_eq_true.1

theorem shaped_name {space key : String} (hspace : space ∈ namespaces) (hkey : IsKey key) :
    (Token.identifier (space.toList ++ '.' :: key.toList)).Shaped := by
  obtain ⟨hne, hstart⟩ := chars_of_namespace hspace
  constructor
  · obtain ⟨c, cs, hcs⟩ := List.exists_cons_of_ne_nil hne
    rw [hcs] at hstart
    rw [hcs, List.cons_append]
    refine .mk (hstart c List.mem_cons_self) fun d hd => ?_
    simp only [List.mem_append, List.mem_cons] at hd
    rcases hd with hd | rfl | hd
    · simp [isIdentifierChar, hstart d (List.mem_cons_of_mem c hd)]
    · rfl
    · exact hkey.chars d hd
  · intro b hb
    have hpoint : '.' ∈ space.toList ++ '.' :: key.toList := by simp
    rw [hb] at hpoint
    cases b with
    | true => exact absurd hpoint (by decide)
    | false => exact absurd hpoint (by decide)

theorem not_bareNamespace {space key : String} (hspace : space ∈ namespaces) (hkey : IsKey key) :
    ¬ BareNamespace (space.toList ++ '.' :: key.toList) := by
  rintro ⟨space', hspace', heq⟩
  -- no namespace has a point in its name, so both names are cut at the first point
  have hcut {cs ds : List Char} (hcs : ∀ c ∈ cs, isIdentifierStart c = true) :
      (cs ++ '.' :: ds).dropWhile isIdentifierStart = '.' :: ds := by
    rw [List.dropWhile_append_of_pos hcs]
    rfl
  have hkeys := congrArg (List.dropWhile isIdentifierStart) heq
  rw [hcut (chars_of_namespace hspace).2, hcut (chars_of_namespace hspace').2] at hkeys
  exact hkey.ne_empty (String.toList_eq_nil_iff.1 (List.cons.inj hkeys).2)

theorem phrases_name {space key : String} (hspace : space ∈ namespaces) (hkey : IsKey key) :
    Phrases (space.toList ++ '.' :: key.toList) (.identifier (space ++ "." ++ key)) := by
  refine ⟨[.identifier _], reading_of_lexeme (.bare (shaped_name hspace hkey) nofun), ?_⟩
  have hname : space ++ "." ++ key = String.ofList (space.toList ++ '.' :: key.toList) := by
    rw [← String.toList_inj]
    simp
  rw [hname]
  exact .identifier (not_bareNamespace hspace hkey)

theorem phrases_true : Phrases "true".toList (.boolean true) :=
  ⟨[.boolean true], reading_of_lexeme (.bare trivial nofun), .boolean⟩

theorem isNumber_digitChars (v : Nat) : IsNumber (Decimal.digitChars v) := by
  have hdigits : ∀ c ∈ Decimal.digitChars v, Text.isAsciiDigit c = true := fun c hc =>
    Json.isAsciiDigit_of_isDigit (Json.isDigit_digitChars v c hc)
  obtain ⟨c, cs, hcs⟩ : ∃ c cs, Decimal.digitChars v = c :: cs :=
    List.exists_cons_of_ne_nil Nat.toDigits_ne_nil
  rw [hcs] at hdigits ⊢
  refine .digit (hdigits c List.mem_cons_self) fun d hd => ?_
  simp [isNumberChar, hdigits d (List.mem_cons_of_mem c hd)]

/-- A moderate number has few enough digits for a literal. -/
theorem length_digitChars_of_moderate {v : Nat} (hv : v ≤ maxExact) :
    (Decimal.digitChars v).length ≤ maxLiteralDigits := by
  have hbound : v < Nat.pow 10 16 := Nat.lt_of_le_of_lt hv (by decide)
  exact Nat.le_trans (Json.length_digitChars_le (by decide) hbound) (by decide)

theorem spells_digitChars {v : Nat} (hv : (Decimal.digitChars v).length ≤ maxLiteralDigits) :
    Spells (Decimal.digitChars v) (.int v) := by
  have hpoint : '.' ∉ Decimal.digitChars v := fun h =>
    absurd (Json.isDigit_digitChars v '.' h) (by decide)
  have hspells := Spells.whole hpoint hv
  rwa [Json.natOfDecimals_digitChars] at hspells

theorem phrases_number {v : Nat} (hv : (Decimal.digitChars v).length ≤ maxLiteralDigits) :
    Phrases (toString v).toList (.number (.int v)) := by
  have htext : (toString v).toList = Decimal.digitChars v := Nat.toList_repr
  have hlexeme : Lexeme (.number (Decimal.digitChars v)) (Decimal.digitChars v) :=
    .bare (isNumber_digitChars v) fun content h => Token.noConfusion h
  rw [htext]
  exact ⟨[.number (Decimal.digitChars v)], reading_of_lexeme hlexeme,
    .number (spells_digitChars hv)⟩

theorem shaped_hasItem : (Token.identifier "hasItem".toList).Shaped :=
  ⟨.mk rfl (List.all_eq_true.1 rfl), fun b => by cases b <;> decide⟩

theorem shaped_itemCount : (Token.identifier "itemCount".toList).Shaped :=
  ⟨.mk rfl (List.all_eq_true.1 rfl), fun b => by cases b <;> decide⟩

theorem derives_call (name itemId : String) :
    Derives .primary 0 [.identifier name.toList, .opening, .string itemId.toList, .closing]
      (.call name [.string itemId]) := by
  have hstring : Derives .primary 1 [.string itemId.toList]
      (.string (String.ofList itemId.toList)) := .string
  rw [String.ofList_toList] at hstring
  have harg : Derives (.level .disjunction) 1 [.string itemId.toList] (.string itemId) :=
    derives_level (by decide) hstring _
  have hcall : Derives .primary 0
      [.identifier name.toList, .opening, .string itemId.toList, .closing]
      (.call (String.ofList name.toList) [.string itemId]) :=
    @Derives.call 0 name.toList [([.string itemId.toList], .string itemId)]
      (List.forall_mem_singleton.2 harg)
  rwa [String.ofList_toList] at hcall

/-- The call of a function with the quoted id of an item. -/
theorem phrases_call {name itemId : String} {lex : List Char}
    (hname : (Token.identifier name.toList).Shaped) (hlex : Lexeme (.string itemId.toList) lex) :
    Phrases (name.toList ++ '(' :: (lex ++ [')'])) (.call name [.string itemId]) := by
  have hbehind : Reading [.string itemId.toList, .closing] (lex ++ [')']) :=
    .lexeme (longest_iff.2 ⟨hlex, fun _ _ => rfl⟩)
      (reading_of_lexeme (.bare (t := .closing) trivial nofun))
  have hopening : Reading [.opening, .string itemId.toList, .closing] ('(' :: (lex ++ [')'])) :=
    .lexeme (longest_iff.2 ⟨.bare (t := .opening) trivial nofun, fun _ _ => rfl⟩) hbehind
  have hstops : Stops (.identifier name.toList) ('(' :: (lex ++ [')'])) := stops_cons.2 rfl
  exact ⟨_, .lexeme (longest_iff.2 ⟨.bare hname nofun, hstops⟩) hopening,
    derives_call name itemId⟩

section Phrases

variable {cs ds : List Char} {t u : Expr} {text : String}

/-- A text that is an operand can be parsed. -/
theorem Phrases.parse (h : Phrases text.toList t) : parse text = .ok t := by
  obtain ⟨ts, hreading, hderives⟩ := h
  exact parse_eq_ok.2 ⟨ts, tokenize_eq_ok.2 hreading, derives_level (by decide) hderives _⟩

/-- An operator tells whether two values are equal, or how they are ordered. -/
def Operator.IsComparison (op : Operator) : Prop :=
  op ∈ Level.equality.operators ∨ op ∈ Level.ordering.operators

instance (op : Operator) : Decidable op.IsComparison := inferInstanceAs (Decidable (_ ∨ _))

/-- A comparison always asks for the value of its right side. -/
theorem Operator.IsComparison.decidedBy {op : Operator} (hop : op.IsComparison) (v : Value) :
    op.decidedBy v = false := by
  cases op with
  | and | or => simp [IsComparison, Level.operators] at hop
  | _ => rfl

/-- **A comparison of two operands can be parsed.** -/
theorem Phrases.parse_comparison {op : Operator} (ht : Phrases cs t) (hu : Phrases ds u)
    (hop : op.IsComparison)
    (htext : text.toList = cs ++ ' ' :: (op.spelling.toList ++ ' ' :: ds)) :
    Expression.parse text = .ok (.binary op t u) := by
  obtain ⟨ts, htreading, htderives⟩ := ht
  obtain ⟨us, hureading, huderives⟩ := hu
  have hblank : isSeparator ' ' = true := rfl
  have hoperator : Reading [.operator op] op.spelling.toList :=
    reading_of_lexeme (.bare (t := .operator op) trivial nofun)
  have hreading := htreading.append hblank (hoperator.append hblank hureading)
  have hequality : Derives (.level .equality) 0 (ts ++ .operator op :: us) (.binary op t u) := by
    rcases hop with hop | hop
    · exact .binary hop (derives_level (by decide) htderives _)
        (derives_level (by decide) huderives .ordering)
    · exact .operand (.binary hop (derives_level (by decide) htderives _)
        (.plain (by decide) huderives))
  refine parse_eq_ok.2 ⟨ts ++ .operator op :: us, ?_, .operand (.operand hequality)⟩
  rw [htext]
  exact tokenize_eq_ok.2 hreading

end Phrases

/-! ### Values of operands and of comparisons -/

section Values

variable {scope : Scope}

/-- The value of an operand, wherever evaluation may go down two levels. -/
def HasValue (scope : Scope) (t : Expr) (v : Value) : Prop :=
  ∀ depth, eval scope (depth + 2) t = .ok v

theorem hasValue_identifier (name : String) :
    HasValue scope (.identifier name) (scope.resolve name) :=
  fun depth => by rw [eval, if_neg (Nat.succ_ne_zero (depth + 1))]

theorem hasValue_number (n : Number) : HasValue scope (.number n) (.computed (.ofNumber n)) :=
  fun depth => by rw [eval, if_neg (Nat.succ_ne_zero (depth + 1))]

theorem hasValue_boolean (b : Bool) : HasValue scope (.boolean b) (.ofBool b) :=
  fun depth => by rw [eval, if_neg (Nat.succ_ne_zero (depth + 1))]

theorem hasValue_call (name itemId : String) :
    HasValue scope (.call name [.string itemId]) (scope.call name [.computed (.str itemId)]) :=
  fun depth => by simp [eval, evalAll, bind, Except.bind, pure, Except.pure]

theorem resolve_flag (key : String) :
    scope.resolve ("flag" ++ "." ++ key) = .computed (scope.flag key) := by
  have hkey : keyIn? "flag" ("flag" ++ "." ++ key).toList = some key.toList :=
    keyIn?_eq_some.2 (by simp)
  simp only [Scope.resolve, hkey, Option.map_some, String.ofList_toList]

theorem resolve_stat (key : String) :
    scope.resolve ("stat" ++ "." ++ key) = .computed (scope.stat key) := by
  have hflag : keyIn? "flag" ("stat" ++ "." ++ key).toList = none := by
    simp [keyIn?]
  have hkey : keyIn? "stat" ("stat" ++ "." ++ key).toList = some key.toList :=
    keyIn?_eq_some.2 (by simp)
  simp only [Scope.resolve, hflag, hkey, Option.map_none, Option.map_some, String.ofList_toList]

/-- An operand whose value is a truth value has it as its answer. -/
theorem evaluate_operand {text : String} {t : Expr} {answer : Bool} (ht : Phrases text.toList t)
    (hvalue : HasValue scope t (.ofBool answer)) :
    evaluate scope text = .ok (.answer answer) :=
  evaluate_of_eval_ok ht.parse (hvalue 898)

/-- Both sides of a comparison are evaluated, and then compared. -/
theorem evaluate_comparison {text : String} {cs ds : List Char} {t u : Expr} {op : Operator}
    {v w : Value} {answer : Bool} (ht : Phrases cs t) (hu : Phrases ds u) (hop : op.IsComparison)
    (htext : text.toList = cs ++ ' ' :: (op.spelling.toList ++ ' ' :: ds))
    (hv : HasValue scope t v) (hw : HasValue scope u w)
    (happly : apply op v w = .ok (.ofBool answer)) :
    evaluate scope text = .ok (.answer answer) := by
  have heval : eval scope (897 + 2 + 1) (.binary op t u) = .ok (.ofBool answer) := by
    rw [eval_binary_of_undecided (hv 897) (hop.decidedBy v), hw]
    exact happly
  exact evaluate_of_eval_ok (ht.parse_comparison hu hop htext) heval

end Values

/-! ### Integers are compared exactly -/

theorem order?_intCast (a b : Int) :
    Double.order? (.finite a) (.finite b) = Number.order? (.int a) (.int b) := by
  simp [Double.order?, Number.order?, Double.toRat?]

theorem isComparison_of_mem {name : String} {op : Operator} (hop : (name, op) ∈ comparisons) :
    op.IsComparison := by
  have hall : ∀ entry ∈ comparisons, entry.2.IsComparison := by decide
  exact hall _ hop

/-- **Moderate integers are compared exactly.** -/
theorem apply_comparison {name : String} {op : Operator} {a b : Int}
    (hop : (name, op) ∈ comparisons) (ha : a.natAbs ≤ maxExact) (hb : b.natAbs ≤ maxExact) :
    apply op (.computed (.int a)) (.computed (.int b)) =
      .ok (.ofBool (statHolds (.int a) name (.int b))) := by
  have hnumbers (holds : Double → Double → Bool) :
      compareNumbers (.computed (.int a)) (.computed (.int b)) holds =
        .ok (.ofBool (holds (.finite a) (.finite b))) := by
    simp only [compareNumbers, Value.computed, Coercion.toNumber?, Double.ofInt?_eq_some ha,
      Double.ofInt?_eq_some hb]
  have hequals : (Value.computed (.int a)).equals (.computed (.int b)) =
      (Number.int a).same (.int b) := rfl
  simp only [comparisons, List.mem_cons, Prod.mk.injEq, List.not_mem_nil, or_false] at hop
  rcases hop with ⟨rfl, rfl⟩ | ⟨rfl, rfl⟩ | ⟨rfl, rfl⟩ | ⟨rfl, rfl⟩ | ⟨rfl, rfl⟩ | ⟨rfl, rfl⟩
  · rw [apply, hnumbers, Double.lt, order?_intCast]
    rfl
  · rw [apply, hnumbers, Double.le, order?_intCast]
    rfl
  · rw [apply, hnumbers, Double.lt, order?_intCast]
    rfl
  · rw [apply, hnumbers, Double.le, order?_intCast]
    rfl
  · rw [apply, hequals]
    rfl
  · rw [apply, hequals]
    rfl

end Expression

/-! ### What is said by both -/

section SaidBy

open Expression

variable {s : GameState} {key itemId name : String} {op : Operator} {v : Nat} {lex : List Char}

/-- A flag that is not set is null to a condition and false to an expression. -/
theorem ofBool_flag (s : GameState) (key : String) :
    Value.ofBool (flagHolds s key none none) = .computed (s.scope.flag key) := by
  have hflag : flagHolds s key none none = Coercion.strictEquals (s.flagValue key) (.bool true) :=
    rfl
  have hscope : s.scope.flag key = .bool ((s.flags.get? key).getD false) := rfl
  rw [hflag, hscope, GameState.flagValue]
  cases s.flags.get? key with
  | none => rfl
  | some b => cases b <;> rfl

theorem evaluate_flag (hkey : IsKey key) :
    evaluate s.scope s!"flag.{key}" = .ok (.answer (flagHolds s key none none)) := by
  have htext : Phrases (s!"flag.{key}").toList (.identifier ("flag" ++ "." ++ key)) := by
    have hname := phrases_name (by decide : "flag" ∈ namespaces) hkey
    simpa [toString] using hname
  refine evaluate_operand htext ?_
  rw [ofBool_flag, ← resolve_flag]
  exact hasValue_identifier _

theorem evaluate_flagEqual (hkey : IsKey key) :
    evaluate s.scope s!"flag.{key} == true" = .ok (.answer (flagHolds s key none none)) := by
  have htext : (s!"flag.{key} == true").toList = "flag".toList ++ '.' :: key.toList ++
      ' ' :: (Operator.equal.spelling.toList ++ ' ' :: "true".toList) := by
    simp [toString, Operator.spelling]
  refine evaluate_comparison (phrases_name (by decide) hkey) phrases_true (by decide) htext
    (hasValue_identifier _) (hasValue_boolean true) ?_
  rw [resolve_flag, ← ofBool_flag]
  cases flagHolds s key none none <;> rfl

theorem evaluate_stat {n : Int} (hkey : IsKey key) (hop : (name, op) ∈ comparisons)
    (hstat : s.character.stat key = .int n) (hn : n.natAbs ≤ maxExact) (hv : v ≤ maxExact) :
    evaluate s.scope s!"stat.{key} {op.spelling} {v}" =
      .ok (.answer (statHolds (s.character.stat key) name (.int v))) := by
  have htext : (s!"stat.{key} {op.spelling} {v}").toList = "stat".toList ++ '.' :: key.toList ++
      ' ' :: (op.spelling.toList ++ ' ' :: (toString v).toList) := by
    simp [toString]
  refine evaluate_comparison (phrases_name (by decide) hkey)
    (phrases_number (length_digitChars_of_moderate hv))
    (isComparison_of_mem hop) htext (hasValue_identifier _) (hasValue_number _) ?_
  have hscope : s.scope.stat key = .int n := congrArg Json.ofNumber hstat
  rw [resolve_stat, hscope, hstat]
  exact apply_comparison hop hn hv

theorem evaluate_has {operator : Option String} {value : Option Number}
    (hoperator : operatorOr "has" operator = "has") (hlex : Lexeme (.string itemId.toList) lex) :
    evaluate s.scope s!"hasItem({String.ofList lex})" =
      .ok (.answer (inventoryHolds (s.character.inventory.count itemId) operator value)) := by
  have htext : Phrases (s!"hasItem({String.ofList lex})").toList
      (.call "hasItem" [.string itemId]) := by
    have hcall := phrases_call shaped_hasItem hlex
    simpa [toString] using hcall
  unfold inventoryHolds
  rw [hoperator]
  exact evaluate_operand htext (hasValue_call "hasItem" itemId)

/-- The operators of conditions on the inventory that compare a count have their counterparts among
those of conditions on stats. -/
theorem exists_comparison (hop : (name, op) ∈ countComparisons) :
    ∃ name', (name', op) ∈ comparisons ∧ ∀ (count : Int) (target : Number),
      inventoryHolds count (some name) (some target) = statHolds (.int count) name' target := by
  simp only [countComparisons, List.mem_cons, Prod.mk.injEq, List.not_mem_nil, or_false] at hop
  rcases hop with ⟨rfl, rfl⟩ | ⟨rfl, rfl⟩
  · exact ⟨"gte", by decide, fun _ _ => rfl⟩
  · exact ⟨"lte", by decide, fun _ _ => rfl⟩

theorem evaluate_count (hop : (name, op) ∈ countComparisons)
    (hcount : (s.character.inventory.count itemId).natAbs ≤ maxExact) (hv : v ≤ maxExact)
    (hlex : Lexeme (.string itemId.toList) lex) :
    evaluate s.scope s!"itemCount({String.ofList lex}) {op.spelling} {v}" =
      .ok (.answer (inventoryHolds (s.character.inventory.count itemId) (some name)
        (some (.int v)))) := by
  obtain ⟨name', hop', hsame⟩ := exists_comparison hop
  have htext : (s!"itemCount({String.ofList lex}) {op.spelling} {v}").toList =
      "itemCount".toList ++ '(' :: (lex ++ [')']) ++
        ' ' :: (op.spelling.toList ++ ' ' :: (toString v).toList) := by
    simp [toString]
  rw [hsame]
  exact evaluate_comparison (phrases_call shaped_itemCount hlex)
    (phrases_number (length_digitChars_of_moderate hv))
    (isComparison_of_mem hop') htext (hasValue_call "itemCount" itemId) (hasValue_number _)
    (apply_comparison hop' hcount hv)

end SaidBy

namespace Engine

variable {e : Engine} {p : Play} {c : Condition} {text : String}

theorem on_holds_expression {answer : Bool}
    (h : Expression.evaluate p.state.scope text = .ok (.answer answer)) :
    (e.holds (.expression text)).on p = (.ok answer, p) := by
  simp only [holds, Turn.on_bind, Turn.on_state, h]
  rfl

/-- **A condition holds just if the expression does** that says the same.  Both are answered, and
the play stays as it is. -/
theorem conditions_as_expressions (hstate : p.state.Moderate) (hsaid : c.SaidBy text) :
    ∃ answer, (e.holds c).on p = (.ok answer, p) ∧
      Expression.evaluate p.state.scope text = .ok (.answer answer) ∧
      (e.holds (.expression text)).on p = (.ok answer, p) := by
  suffices h : ∃ answer, (e.holds c).on p = (.ok answer, p) ∧
      Expression.evaluate p.state.scope text = .ok (.answer answer) by
    obtain ⟨answer, hcondition, hexpression⟩ := h
    exact ⟨answer, hcondition, hexpression, on_holds_expression hexpression⟩
  cases hsaid with
  | flag hkey => exact ⟨_, e.on_holds_flag p _ _ _, evaluate_flag hkey⟩
  | flagEqual hkey => exact ⟨_, e.on_holds_flag p _ _ _, evaluate_flagEqual hkey⟩
  | @stat key name op v hkey hop hv =>
      obtain ⟨n, hstat, hn⟩ := hstate.stat key
      exact ⟨_, e.on_holds_stat p _ _ _, evaluate_stat hkey hop hstat hn hv⟩
  | has hoperator hlex =>
      exact ⟨_, e.on_holds_inventory p _ _ _, evaluate_has hoperator hlex⟩
  | @count itemId name op v lex hop hv hlex =>
      exact ⟨_, e.on_holds_inventory p _ _ _, evaluate_count hop (hstate.count itemId) hv hlex⟩

/-- A weak traveller with two lamps, whose id has a quote in it. -/
theorem conditions_as_expressions_lanternRoad :
    let e := LanternRoad.engine
    let lamp : Item := ⟨"keeper's lamp", "Lamp", none, none, none, none⟩
    let p := e.beginning { LanternRoad.traveller with
      stats := [("arm.strength", .int (-3))]
      inventory := [⟨lamp, 2⟩] } LanternRoad.alone
    let weak : Condition := .stat "arm.strength" "lt" (.int (0 : Nat))
    let lamps : Condition := .inventory "keeper's lamp" (some "countGte") (some (.int (2 : Nat)))
    p.state.Moderate ∧ weak.SaidBy "stat.arm.strength < 0" ∧
      lamps.SaidBy "itemCount('keeper\\'s lamp') >= 2" ∧
      (∃ answer, (e.holds weak).on p = (.ok answer, p) ∧
        Expression.evaluate p.state.scope "stat.arm.strength < 0" = .ok (.answer answer)) ∧
      ∃ answer, (e.holds lamps).on p = (.ok answer, p) ∧
        Expression.evaluate p.state.scope "itemCount('keeper\\'s lamp') >= 2" =
          .ok (.answer answer) := by
  intro e lamp p weak lamps
  have hstate : p.state.Moderate := by
    have hstats : p.state.character.stats = [("arm.strength", .int (-3))] := rfl
    have hitems : p.state.character.inventory = [⟨lamp, 2⟩] := rfl
    refine moderate_of_entries ?_ ?_
    · rw [hstats]
      exact List.forall_mem_singleton.2 ⟨-3, rfl, by decide⟩
    · rw [hitems]
      exact List.forall_mem_singleton.2 (by decide)
  have hkey : IsKey "arm.strength" := ⟨by decide, List.all_eq_true.1 rfl⟩
  have hweak : weak.SaidBy "stat.arm.strength < 0" := by
    have := Condition.SaidBy.stat (v := 0) hkey (by decide : ("lt", .less) ∈ comparisons)
      (Nat.zero_le _)
    exact this
  have hquoted := Expression.lexeme_written (t := .string "keeper's lamp".toList)
    (.inr rfl : Expression.IsQuote '\'') trivial
  have hlamps : lamps.SaidBy "itemCount('keeper\\'s lamp') >= 2" := by
    have := Condition.SaidBy.count (v := 2)
      (by decide : ("countGte", .greaterEqual) ∈ countComparisons) (by decide) hquoted
    exact this
  obtain ⟨a, ha, hevaluate, -⟩ := conditions_as_expressions (e := e) hstate hweak
  obtain ⟨b, hb, hevaluate', -⟩ := conditions_as_expressions (e := e) hstate hlamps
  exact ⟨hstate, hweak, hlamps, ⟨a, ha, hevaluate⟩, b, hb, hevaluate'⟩

end Engine

end Storyworld
