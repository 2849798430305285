/-
**What a text of tokens reads as.**

Most tokens look like their text.  A string stands between two quotes of one kind, and in it a
backslash makes any character stand for itself.  Tokens are written in order, with separators
between them, and reading gives them back.

What is read need not have been written so: where separators are missing, a token reaches as far as
it can.  So a text is read as separators and lexemes in any order, of which every lexeme is the
longest that begins at its place.  Whether it is the longest can be seen from the next character
alone.

Main definitions:

* `Storyworld.Expression.Lexeme` — what a token may look like in a text;
* `Storyworld.Expression.Written` — **tokens that are written with separators between them**;
* `Storyworld.Expression.Longest` — a lexeme is the longest one that begins at its place;
* `Storyworld.Expression.Reading` — **the tokens as which a text can be read**.

Main results:

* `Storyworld.Expression.longest_iff` — the next character tells whether a lexeme is the longest;
* `Storyworld.Expression.lexeme_eq_ok` — what is taken off the head of a text;
* `Storyworld.Expression.tokenize_eq_ok` — a text has the tokens as which it can be read;
* `Storyworld.Expression.tokenize_reads_back` — **what is written is read back, and a text that
  cannot be read has no tokens**.
-/

import Storyworld.Proofs.Grammar

set_option relaxedAutoImplicit false
set_option autoImplicit false

namespace Storyworld.Expression

/-! ### Lexemes -/

/-- The shape of a number: digits and points behind a digit, or behind a point and a digit. -/
inductive IsNumber : List Char → Prop
  | digit {d : Char} {more : List Char} (hd : Text.isAsciiDigit d = true)
      (hmore : ∀ c ∈ more, isNumberChar c = true) : IsNumber (d :: more)
  | point {d : Char} {more : List Char} (hd : Text.isAsciiDigit d = true)
      (hmore : ∀ c ∈ more, isNumberChar c = true) : IsNumber ('.' :: d :: more)

/-- The shape of an identifier: letters, digits, underscores and points behind a letter or an
underscore. -/
inductive IsWord : List Char → Prop
  | mk {c : Char} {more : List Char} (hc : isIdentifierStart c = true)
      (hmore : ∀ d ∈ more, isIdentifierChar d = true) : IsWord (c :: more)

/-- **The tokens that a text can have**: numbers and identifiers have their shapes, and identifiers
are no truth values. -/
def Token.Shaped : Token → Prop
  | number spelling => IsNumber spelling
  | identifier name => IsWord name ∧ ∀ b, name ≠ (boolean b).text
  | _ => True

def IsQuote (c : Char) : Prop := c = '"' ∨ c = '\''

/-- What may stand between the quotes of a string, for its content: a character stands for itself
unless it is the quote or a backslash, and any character does behind a backslash. -/
inductive Quoted (quote : Char) : List Char → List Char → Prop
  | nil : Quoted quote [] []
  | plain {c : Char} {content body : List Char} (hquote : c ≠ quote) (hslash : c ≠ '\\')
      (h : Quoted quote content body) : Quoted quote (c :: content) (c :: body)
  | escaped {c : Char} {content body : List Char} (h : Quoted quote content body) :
      Quoted quote (c :: content) ('\\' :: c :: body)

/-- **What a token may look like in a text.** -/
inductive Lexeme : Token → List Char → Prop
  | string {quote : Char} {content body : List Char} (hquote : IsQuote quote)
      (hbody : Quoted quote content body) : Lexeme (.string content) (quote :: (body ++ [quote]))
  | bare {t : Token} (hshaped : t.Shaped) (hbare : ∀ content, t ≠ .string content) :
      Lexeme t t.text

/-! ### Writing -/

/-- The quote and the backslash are written behind a backslash. -/
def escape (quote c : Char) : List Char := if c = quote ∨ c = '\\' then ['\\', c] else [c]

/-- A token as it is written, where a string is put between quotes of the given kind. -/
def Token.written (quote : Char) : Token → List Char
  | string content => quote :: (content.flatMap (escape quote) ++ [quote])
  | t => t.text

/-- Separators, or nothing. -/
def IsGap (cs : List Char) : Prop := ∀ c ∈ cs, isSeparator c = true

/-- **Tokens are written in order**, with one separator or more between them, and any or none at the
ends. -/
inductive Written : List Token → List Char → Prop
  | none {gap : List Char} (hgap : IsGap gap) : Written [] gap
  | last {gap gap' : List Char} {quote : Char} {t : Token} (hgap : IsGap gap)
      (hquote : IsQuote quote) (ht : t.Shaped) (hgap' : IsGap gap') :
      Written [t] (gap ++ (t.written quote ++ gap'))
  | next {gap cs : List Char} {quote c : Char} {t u : Token} {ts : List Token} (hgap : IsGap gap)
      (hquote : IsQuote quote) (ht : t.Shaped) (hc : isSeparator c = true)
      (h : Written (u :: ts) cs) : Written (t :: u :: ts) (gap ++ (t.written quote ++ c :: cs))

/-! ### Reading -/

/-- **A lexeme is the longest one that begins at its place**, where `rest` stands behind it. -/
structure Longest (t : Token) (lex rest : List Char) : Prop where
  lexeme : Lexeme t lex
  longest : ∀ t' lex', Lexeme t' lex' → lex' <+: lex ++ rest → lex'.length ≤ lex.length

/-- **The tokens as which a text can be read**: it consists of separators and of one lexeme for
each token, the longest one at its place. -/
inductive Reading : List Token → List Char → Prop
  | nil : Reading [] []
  | separator {c : Char} {ts : List Token} {cs : List Char} (hc : isSeparator c = true)
      (h : Reading ts cs) : Reading ts (c :: cs)
  | lexeme {t : Token} {ts : List Token} {lex cs : List Char} (hlex : Longest t lex cs)
      (h : Reading ts cs) : Reading (t :: ts) (lex ++ cs)

/-! ### Classes of characters -/

/-- The characters of operators, parentheses and commas. -/
def symbols : List Char := ['(', ')', ',', '=', '!', '>', '<', '&', '|']

/-- No number and no identifier begins with a symbol or a quote. -/
theorem not_symbol_or_quote {c : Char}
    (h : Text.isAsciiDigit c = true ∨ c = '.' ∨ isIdentifierStart c = true) :
    c ∉ symbols ∧ ¬ IsQuote c := by
  have hsymbols : ('"' :: '\'' :: symbols).all (fun d =>
      !Text.isAsciiDigit d && d != '.' && !isIdentifierStart d) = true := rfl
  have hnot : c ∉ '"' :: '\'' :: symbols := by
    intro hc
    have hother := List.all_eq_true.1 hsymbols c hc
    simp only [Bool.and_eq_true, Bool.not_eq_true', bne_iff_ne] at hother
    obtain ⟨⟨hdigit, hpoint⟩, hstart⟩ := hother
    rcases h with h | h | h
    · rw [hdigit] at h
      cases h
    · exact hpoint h
    · rw [hstart] at h
      cases h
  simp only [List.mem_cons, not_or] at hnot
  exact ⟨hnot.2.2, fun hquote => hquote.elim hnot.1 hnot.2.1⟩

theorem not_digit_of_isIdentifierStart {c : Char} (h : isIdentifierStart c = true) :
    Text.isAsciiDigit c = false ∧ c ≠ '.' := by
  constructor
  · rw [← Bool.not_eq_true]
    intro hdigit
    simp only [Text.isAsciiDigit, isIdentifierStart, Bool.or_eq_true, decide_eq_true_eq,
      beq_iff_eq, Char.le_def, UInt32.le_iff_toNat_le] at h hdigit
    rcases h with (h | h) | rfl
    · have h₁ : 97 ≤ c.val.toNat := h.1
      have h₂ : c.val.toNat ≤ 57 := hdigit.2
      omega
    · have h₁ : 65 ≤ c.val.toNat := h.1
      have h₂ : c.val.toNat ≤ 57 := hdigit.2
      omega
    · exact absurd hdigit (by decide)
  · rintro rfl
    cases h

theorem lexeme_eq_operand {c : Char} (hc : c ∉ symbols) (rest : List Char) :
    lexeme c rest = operand c rest := by
  unfold lexeme
  split <;> simp_all [symbols]

/-! ### Strings -/

theorem stringBody_quote {quote : Char} (hquote : quote ≠ '\\') (rest : List Char) :
    stringBody quote (quote :: rest) = some ([], rest) := by
  unfold stringBody
  split
  · next h => cases h
  · next h => exact absurd (List.cons.inj h).1 hquote
  · next h =>
    cases h
    rw [if_pos rfl]

theorem stringBody_plain {quote c : Char} (hquote : c ≠ quote) (hslash : c ≠ '\\')
    (rest : List Char) : stringBody quote (c :: rest) =
      (stringBody quote rest).map fun (content, rest) => (c :: content, rest) := by
  rw [stringBody, if_neg hquote]
  rintro d rest rfl
  exact absurd rfl hslash

/-- **A string is read to its closing quote.** -/
theorem stringBody_append {quote : Char} {content body : List Char} (hquote : quote ≠ '\\')
    (h : Quoted quote content body) (rest : List Char) :
    stringBody quote (body ++ quote :: rest) = some (content, rest) := by
  induction h with
  | nil => exact stringBody_quote hquote rest
  | plain hc hslash _ ih => rw [List.cons_append, stringBody_plain hc hslash, ih, Option.map_some]
  | escaped _ ih => rw [List.cons_append, List.cons_append, stringBody, ih, Option.map_some]

/-- What is read as a string stands before a closing quote. -/
theorem quoted_of_stringBody {quote : Char} {cs content rest : List Char}
    (h : stringBody quote cs = some (content, rest)) :
    ∃ body, cs = body ++ quote :: rest ∧ Quoted quote content body := by
  fun_induction stringBody quote cs generalizing content with
  | case1 => cases h
  | case2 c cs ih =>
      obtain ⟨⟨inner, rest'⟩, hinner, heq⟩ := Option.map_eq_some_iff.1 h
      cases heq
      obtain ⟨body, rfl, hbody⟩ := ih hinner
      exact ⟨'\\' :: c :: body, rfl, .escaped hbody⟩
  | case3 cs =>
      cases h
      exact ⟨[], rfl, .nil⟩
  | case4 c cs hslash hquote ih =>
      obtain ⟨⟨inner, rest'⟩, hinner, heq⟩ := Option.map_eq_some_iff.1 h
      cases heq
      obtain ⟨body, rfl, hbody⟩ := ih hinner
      -- a backslash that comes last closes nothing
      have hplain : c ≠ '\\' := by
        rintro rfl
        cases body with
        | nil => exact hslash _ _ rfl rfl
        | cons d body => exact hslash _ _ rfl rfl
      exact ⟨c :: body, rfl, .plain hquote hplain hbody⟩

/-! ### What may stand behind a lexeme -/

/-- Whether a lexeme of a token would go on with a character. -/
def Token.goesOn : Token → Char → Bool
  | number _, c => isNumberChar c
  | boolean _, c => isIdentifierChar c
  | identifier _, c => isIdentifierChar c
  | operator .less, c => c == '='
  | operator .greater, c => c == '='
  | negation, c => c == '='
  | _, _ => false

/-- A lexeme of a token ends before what stands behind it. -/
def Stops (t : Token) (rest : List Char) : Prop := ∀ c, rest.head? = some c → t.goesOn c = false

theorem stops_nil (t : Token) : Stops t [] := nofun

theorem stops_cons {t : Token} {c : Char} {rest : List Char} :
    Stops t (c :: rest) ↔ t.goesOn c = false := by
  simp [Stops]

theorem takeWhile_of_head? {p : Char → Bool} {cs rest : List Char} (hcs : ∀ c ∈ cs, p c = true)
    (hrest : ∀ c, rest.head? = some c → p c = false) :
    (cs ++ rest).takeWhile p = cs ∧ (cs ++ rest).dropWhile p = rest := by
  rw [List.takeWhile_append_of_pos hcs, List.dropWhile_append_of_pos hcs]
  cases rest with
  | nil => simp
  | cons c rest => simp [hrest c rfl]

theorem head?_dropWhile {p : Char → Bool} {cs : List Char} {c : Char}
    (h : (cs.dropWhile p).head? = some c) : p c = false := by
  have := List.head?_dropWhile_not p cs
  rw [h] at this
  simpa using this

/-! ### Numbers and words -/

theorem startsNumber_of_isNumber {c : Char} {more : List Char} (h : IsNumber (c :: more))
    (rest : List Char) : startsNumber c (more ++ rest) = true ∧
      ∀ d ∈ more, isNumberChar d = true := by
  cases h with
  | digit hd hmore => exact ⟨by simp [startsNumber, hd], hmore⟩
  | point hd hmore =>
      refine ⟨by simp [startsNumber, hd], List.forall_mem_cons.2 ⟨?_, hmore⟩⟩
      simp [isNumberChar, hd]

theorem isNumber_of_startsNumber {c : Char} {rest : List Char} (h : startsNumber c rest = true) :
    IsNumber (c :: rest.takeWhile isNumberChar) := by
  have hall (cs : List Char) : ∀ d ∈ cs.takeWhile isNumberChar, isNumberChar d = true :=
    fun d hd => List.all_eq_true.1 List.all_takeWhile d hd
  simp only [startsNumber, Bool.or_eq_true, Bool.and_eq_true, beq_iff_eq] at h
  rcases h with h | ⟨rfl, h⟩
  · exact .digit h (hall rest)
  · cases rest with
    | nil => cases h
    | cons d rest =>
        have hd : isNumberChar d = true := by simp [isNumberChar, h]
        rw [List.takeWhile_cons_of_pos hd]
        exact .point h (hall rest)

/-- A word is a truth value or an identifier, and looks like its text. -/
theorem lexeme_word {cs : List Char} (h : IsWord cs) : Lexeme (word cs) cs := by
  unfold word
  split
  · next htrue =>
    rw [htrue]
    exact .bare (t := .boolean true) trivial nofun
  · next htrue =>
    split
    · next hfalse =>
      rw [hfalse]
      exact .bare (t := .boolean false) trivial nofun
    · next hfalse =>
      refine .bare (t := .identifier cs) ⟨h, fun b => ?_⟩ nofun
      cases b with
      | true => exact htrue
      | false => exact hfalse

theorem word_of_shaped {name : List Char} (h : (Token.identifier name).Shaped) :
    word name = .identifier name := by
  have htrue : name ≠ "true".toList := h.2 true
  have hfalse : name ≠ "false".toList := h.2 false
  rw [word, if_neg htrue, if_neg hfalse]

theorem isWord_boolean (b : Bool) :
    IsWord (Token.boolean b).text ∧ word (Token.boolean b).text = .boolean b := by
  cases b with
  | true => exact ⟨.mk rfl (List.all_eq_true.1 rfl), rfl⟩
  | false => exact ⟨.mk rfl (List.all_eq_true.1 rfl), rfl⟩

theorem goesOn_word (cs : List Char) : (word cs).goesOn = isIdentifierChar := by
  unfold word
  split
  · rfl
  · split <;> rfl

/-! ### Lexemes that go on -/

theorem lexeme_ne_nil {t : Token} {lex : List Char} (h : Lexeme t lex) : lex ≠ [] := by
  cases h with
  | string => exact List.cons_ne_nil _ _
  | bare hshaped hbare =>
      cases t with
      | string content => exact absurd rfl (hbare content)
      | number spelling => cases hshaped <;> exact List.cons_ne_nil _ _
      | identifier name => cases hshaped.1; exact List.cons_ne_nil _ _
      | boolean b => cases b <;> decide
      | operator op => cases op <;> decide
      | negation | opening | closing | comma => exact List.cons_ne_nil _ _

/-- With a character with which it would go on, a lexeme is one of another token. -/
theorem exists_lexeme_concat {t : Token} {lex : List Char} {d : Char} (h : Lexeme t lex)
    (hd : t.goesOn d = true) : ∃ t', Lexeme t' (lex ++ [d]) := by
  have hmore {p : Char → Bool} {cs : List Char} (hcs : ∀ c ∈ cs, p c = true) (hd : p d = true) :
      ∀ c ∈ cs ++ [d], p c = true := by
    simp only [List.mem_append, List.mem_singleton]
    rintro c (hc | rfl)
    · exact hcs c hc
    · exact hd
  have hword {name : List Char} (hname : IsWord name) (hd : isIdentifierChar d = true) :
      ∃ t', Lexeme t' (name ++ [d]) := by
    cases hname with
    | mk hc hcs => exact ⟨_, lexeme_word (.mk hc (hmore hcs hd))⟩
  cases h with
  | string => cases hd
  | bare hshaped hbare =>
      cases t with
      | string content => exact absurd rfl (hbare content)
      | number spelling =>
          have hlonger : IsNumber (spelling ++ [d]) := by
            cases hshaped with
            | digit hc hcs => exact .digit hc (hmore hcs hd)
            | point hc hcs => exact .point hc (hmore hcs hd)
          exact ⟨.number _, .bare hlonger nofun⟩
      | boolean b => exact hword (isWord_boolean b).1 hd
      | identifier name => exact hword hshaped.1 hd
      | operator op =>
          cases op with
          | less =>
              obtain rfl := eq_of_beq hd
              exact ⟨.operator .lessEqual, .bare trivial nofun⟩
          | greater =>
              obtain rfl := eq_of_beq hd
              exact ⟨.operator .greaterEqual, .bare trivial nofun⟩
          | _ => cases hd
      | negation =>
          obtain rfl := eq_of_beq hd
          exact ⟨.operator .notEqual, .bare trivial nofun⟩
      | opening | closing | comma => cases hd

/-! ### What is taken off the head of a text -/

theorem operand_string {c : Char} (hc : IsQuote c) {rest rest' content : List Char}
    (h : stringBody c rest = some (content, rest')) :
    operand c rest = .ok (.string content, rest') := by
  have hquote : c = '"' ∨ c = '\'' := hc
  rw [operand, if_pos hquote, h]

theorem operand_word {c : Char} {rest : List Char} (hc : isIdentifierStart c = true) :
    operand c rest = .ok (word (c :: rest.takeWhile isIdentifierChar),
      rest.dropWhile isIdentifierChar) := by
  obtain ⟨hdigit, hpoint⟩ := not_digit_of_isIdentifierStart hc
  have hquote : ¬ (c = '"' ∨ c = '\'') := (not_symbol_or_quote (.inr (.inr hc))).2
  have hnumber : startsNumber c rest = false := by simp [startsNumber, hdigit, hpoint]
  rw [operand, if_neg hquote, hnumber, if_neg Bool.false_ne_true, if_pos hc]

theorem operand_number {c : Char} {rest : List Char} (hc : startsNumber c rest = true) :
    c ∉ symbols ∧ operand c rest =
      .ok (.number (c :: rest.takeWhile isNumberChar), rest.dropWhile isNumberChar) := by
  have hstart : Text.isAsciiDigit c = true ∨ c = '.' ∨ isIdentifierStart c = true := by
    simp only [startsNumber, Bool.or_eq_true, Bool.and_eq_true, beq_iff_eq] at hc
    rcases hc with hc | ⟨hc, -⟩
    · exact .inl hc
    · exact .inr (.inl hc)
  obtain ⟨hsymbol, hquote⟩ := not_symbol_or_quote hstart
  have hnot : ¬ (c = '"' ∨ c = '\'') := hquote
  exact ⟨hsymbol, by rw [operand, if_neg hnot, if_pos hc]⟩

theorem lexeme_operator {op : Operator} {rest : List Char} (h : Stops (.operator op) rest) :
    ∃ c cs, op.spelling.toList = c :: cs ∧ lexeme c (cs ++ rest) = .ok (.operator op, rest) := by
  cases op with
  | or => exact ⟨'|', ['|'], rfl, rfl⟩
  | and => exact ⟨'&', ['&'], rfl, rfl⟩
  | equal => exact ⟨'=', ['='], rfl, rfl⟩
  | notEqual => exact ⟨'!', ['='], rfl, rfl⟩
  | lessEqual => exact ⟨'<', ['='], rfl, rfl⟩
  | greaterEqual => exact ⟨'>', ['='], rfl, rfl⟩
  | less =>
      refine ⟨'<', [], rfl, ?_⟩
      cases rest with
      | nil => rfl
      | cons d rest =>
          have hd : d ≠ '=' := by simpa [Token.goesOn] using stops_cons.1 h
          simp [lexeme, hd]
  | greater =>
      refine ⟨'>', [], rfl, ?_⟩
      cases rest with
      | nil => rfl
      | cons d rest =>
          have hd : d ≠ '=' := by simpa [Token.goesOn] using stops_cons.1 h
          simp [lexeme, hd]

theorem lexeme_negation {rest : List Char} (h : Stops .negation rest) :
    lexeme '!' rest = .ok (.negation, rest) := by
  cases rest with
  | nil => rfl
  | cons d rest =>
      have hd : d ≠ '=' := by simpa [Token.goesOn] using stops_cons.1 h
      simp [lexeme, hd]

/-- **A lexeme is taken** where it ends before what stands behind it. -/
theorem lexeme_of_stops {t : Token} {c : Char} {cs rest : List Char} (h : Lexeme t (c :: cs))
    (hrest : Stops t rest) : lexeme c (cs ++ rest) = .ok (t, rest) := by
  have hword {name : List Char} (hname : IsWord name) (heq : name = c :: cs)
      (hstops : ∀ d, rest.head? = some d → isIdentifierChar d = false) :
      lexeme c (cs ++ rest) = .ok (word name, rest) := by
    subst heq
    cases hname with
    | mk hc hmore =>
        obtain ⟨htake, hdrop⟩ := takeWhile_of_head? hmore hstops
        rw [lexeme_eq_operand (not_symbol_or_quote (.inr (.inr hc))).1, operand_word hc, htake, hdrop]
  generalize hlex : c :: cs = lex at h
  cases h with
  | @string quote content body hquote hbody =>
      cases hlex
      have hsymbol : c ∉ symbols ∧ c ≠ '\\' := by
        rcases hquote with rfl | rfl <;> decide
      rw [lexeme_eq_operand hsymbol.1, List.append_assoc, List.singleton_append,
        operand_string hquote (stringBody_append hsymbol.2 hbody rest)]
  | bare hshaped hbare =>
      cases t with
      | string content => exact absurd rfl (hbare content)
      | number spelling =>
          obtain rfl : c :: cs = spelling := hlex
          obtain ⟨hstart, hmore⟩ := startsNumber_of_isNumber hshaped rest
          obtain ⟨htake, hdrop⟩ := takeWhile_of_head? hmore hrest
          obtain ⟨hsymbol, hoperand⟩ := operand_number hstart
          rw [lexeme_eq_operand hsymbol, hoperand, htake, hdrop]
      | boolean b =>
          obtain ⟨hb, hvalue⟩ := isWord_boolean b
          rw [hword hb hlex.symm hrest, hvalue]
      | identifier name =>
          rw [hword hshaped.1 hlex.symm hrest, word_of_shaped hshaped]
      | operator op =>
          obtain ⟨d, ds, hspelling, htaken⟩ := lexeme_operator hrest
          cases hlex.trans hspelling
          exact htaken
      | negation =>
          cases hlex
          exact lexeme_negation hrest
      | opening | closing | comma =>
          cases hlex
          rfl

theorem operand_sound {t : Token} {c : Char} {rest rest' : List Char}
    (h : operand c rest = .ok (t, rest')) :
    ∃ cs, rest = cs ++ rest' ∧ Lexeme t (c :: cs) ∧ Stops t rest' := by
  unfold operand at h
  split at h
  · next hquote =>
    split at h
    · next content rest'' hbody =>
      cases h
      obtain ⟨body, rfl, hquoted⟩ := quoted_of_stringBody hbody
      exact ⟨body ++ [c], by simp, .string hquote hquoted, fun _ _ => rfl⟩
    · cases h
  · split at h
    · next hnumber =>
      cases h
      exact ⟨_, List.takeWhile_append_dropWhile.symm,
        .bare (t := .number _) (isNumber_of_startsNumber hnumber) nofun,
        fun _ => head?_dropWhile⟩
    · split at h
      · next hstart =>
        cases h
        refine ⟨_, List.takeWhile_append_dropWhile.symm, lexeme_word (.mk hstart fun d hd => ?_),
          fun d hd => ?_⟩
        · exact List.all_eq_true.1 List.all_takeWhile d hd
        · rw [goesOn_word]
          exact head?_dropWhile hd
      · cases h

/-- **What is taken is a lexeme** that ends before what is left. -/
theorem lexeme_sound {t : Token} {c : Char} {rest rest' : List Char}
    (h : lexeme c rest = .ok (t, rest')) :
    ∃ cs, rest = cs ++ rest' ∧ Lexeme t (c :: cs) ∧ Stops t rest' := by
  unfold lexeme at h
  split at h
  case h_1 | h_2 | h_3 =>
    cases h
    exact ⟨[], rfl, .bare trivial nofun, fun _ _ => rfl⟩
  case h_4 | h_5 | h_6 | h_7 =>
    cases h
    exact ⟨['='], rfl, .bare trivial nofun, fun _ _ => rfl⟩
  case h_8 =>
    cases h
    exact ⟨['&'], rfl, .bare trivial nofun, fun _ _ => rfl⟩
  case h_9 =>
    cases h
    exact ⟨['|'], rfl, .bare trivial nofun, fun _ _ => rfl⟩
  case h_10 hnot | h_11 hnot | h_12 hnot =>
    -- the operator of two characters was tried before
    cases h
    refine ⟨[], rfl, .bare trivial nofun, fun d hd => ?_⟩
    refine beq_eq_false_iff_ne.2 ?_
    rintro rfl
    obtain ⟨ds, rfl⟩ := List.head?_eq_some_iff.1 hd
    exact hnot ds rfl
  · exact operand_sound h

/-- **No less than a lexeme is taken**, whatever stands behind it. -/
theorem lexeme_takes {t : Token} {c : Char} {cs : List Char} (h : Lexeme t (c :: cs))
    (rest : List Char) : ∃ t' rest', lexeme c (cs ++ rest) = .ok (t', rest') ∧
      rest'.length ≤ rest.length := by
  induction rest generalizing t cs with
  | nil => exact ⟨t, [], lexeme_of_stops h (stops_nil t), Nat.le_refl _⟩
  | cons d rest ih =>
      cases hd : t.goesOn d with
      | false => exact ⟨t, d :: rest, lexeme_of_stops h (stops_cons.2 hd), Nat.le_refl _⟩
      | true =>
          obtain ⟨t', ht'⟩ := exists_lexeme_concat h hd
          have hlonger : Lexeme t' (c :: (cs ++ [d])) := ht'
          obtain ⟨u, rest', htaken, hlength⟩ := ih hlonger
          rw [List.append_assoc, List.singleton_append] at htaken
          exact ⟨u, rest', htaken, Nat.le_succ_of_le hlength⟩

/-- **The next character tells whether a lexeme is the longest.** -/
theorem longest_iff {t : Token} {lex rest : List Char} :
    Longest t lex rest ↔ Lexeme t lex ∧ Stops t rest := by
  constructor
  · rintro ⟨hlex, hlongest⟩
    refine ⟨hlex, fun d hd => ?_⟩
    obtain ⟨ds, rfl⟩ := List.head?_eq_some_iff.1 hd
    rw [← Bool.not_eq_true]
    intro hgoes
    obtain ⟨t', ht'⟩ := exists_lexeme_concat hlex hgoes
    have hle := hlongest t' _ ht' ⟨ds, by simp⟩
    simp only [List.length_append, List.length_singleton] at hle
    omega
  · rintro ⟨hlex, hstops⟩
    refine ⟨hlex, fun t' lex' hlex' hbegins => ?_⟩
    obtain ⟨c, cs, rfl⟩ := List.exists_cons_of_ne_nil (lexeme_ne_nil hlex)
    obtain ⟨c', cs', rfl⟩ := List.exists_cons_of_ne_nil (lexeme_ne_nil hlex')
    -- both lexemes begin the same text, of which the first one is taken
    obtain ⟨rest', heq⟩ := hbegins
    obtain ⟨rfl, htail⟩ : c' = c ∧ cs' ++ rest' = cs ++ rest := by simpa using heq
    obtain ⟨u, rest'', htaken, hlength⟩ := lexeme_takes hlex' rest'
    rw [htail, lexeme_of_stops hlex hstops] at htaken
    cases htaken
    have hlengths := congrArg List.length htail
    simp only [List.length_append] at hlengths
    simp only [List.length_cons]
    omega

/-- **What is taken off the head of a text** is the longest lexeme there. -/
theorem lexeme_eq_ok {t : Token} {c : Char} {rest rest' : List Char} :
    lexeme c rest = .ok (t, rest') ↔ ∃ cs, rest = cs ++ rest' ∧ Longest t (c :: cs) rest' := by
  constructor
  · intro h
    obtain ⟨cs, hrest, hlex, hstops⟩ := lexeme_sound h
    exact ⟨cs, hrest, longest_iff.2 ⟨hlex, hstops⟩⟩
  · rintro ⟨cs, rfl, hlongest⟩
    obtain ⟨hlex, hstops⟩ := longest_iff.1 hlongest
    exact lexeme_of_stops hlex hstops

/-! ### Whole texts -/

theorem isSeparator_iff {c : Char} :
    isSeparator c = true ↔ c = ' ' ∨ c = '\t' ∨ c = '\r' ∨ c = '\n' := by
  simp [isSeparator, or_assoc]

/-- No lexeme begins with a separator, and none goes on with one. -/
theorem lexeme_separator {c : Char} (hc : isSeparator c = true) (rest : List Char) :
    lexeme c rest = .error (.unexpectedToken [c]) := by
  rcases isSeparator_iff.1 hc with rfl | rfl | rfl | rfl <;> rfl

theorem stops_separator {c : Char} (hc : isSeparator c = true) (t : Token) (rest : List Char) :
    Stops t (c :: rest) := by
  have hclasses : isNumberChar c = false ∧ isIdentifierChar c = false ∧ (c == '=') = false := by
    rcases isSeparator_iff.1 hc with rfl | rfl | rfl | rfl <;> decide
  obtain ⟨hnumber, hword, hequal⟩ := hclasses
  rw [stops_cons]
  cases t with
  | number _ => exact hnumber
  | boolean _ | identifier _ => exact hword
  | negation => exact hequal
  | operator op => cases op <;> first | exact hequal | rfl
  | _ => rfl

theorem reading_nil {ts : List Token} : Reading ts [] ↔ ts = [] := by
  constructor
  · intro h
    generalize hcs : [] = cs at h
    cases h with
    | nil => rfl
    | separator => cases hcs
    | lexeme hlex _ => exact absurd (List.append_eq_nil_iff.1 hcs.symm).1 (lexeme_ne_nil hlex.lexeme)
  · rintro rfl
    exact .nil

/-- A text is read from its head. -/
theorem reading_cons {ts : List Token} {c : Char} {rest : List Char} :
    Reading ts (c :: rest) ↔ if isSeparator c then Reading ts rest else
      ∃ t rest' ts', ts = t :: ts' ∧ lexeme c rest = .ok (t, rest') ∧ Reading ts' rest' := by
  constructor
  · intro h
    generalize hcs : c :: rest = cs at h
    cases h with
    | nil => cases hcs
    | separator hc h =>
        cases hcs
        rwa [if_pos hc]
    | @lexeme t ts lex cs hlex h =>
        obtain ⟨d, ds, rfl⟩ := List.exists_cons_of_ne_nil (lexeme_ne_nil hlex.lexeme)
        cases hcs
        have htaken := lexeme_eq_ok.2 ⟨ds, rfl, hlex⟩
        have hc : ¬ isSeparator c = true := by
          intro hc
          rw [lexeme_separator hc] at htaken
          cases htaken
        rw [if_neg hc]
        exact ⟨t, cs, ts, rfl, htaken, h⟩
  · intro h
    split at h
    · next hc => exact .separator hc h
    · obtain ⟨t, rest', ts', rfl, htaken, hrest⟩ := h
      obtain ⟨cs, rfl, hlex⟩ := lexeme_eq_ok.1 htaken
      exact Reading.lexeme hlex hrest

theorem tokensWithin_eq_ok {fuel : Nat} {cs : List Char} {ts : List Token}
    (hfuel : cs.length ≤ fuel) : tokensWithin fuel cs = .ok ts ↔ Reading ts cs := by
  induction fuel generalizing cs ts with
  | zero =>
      obtain rfl := List.eq_nil_of_length_eq_zero (Nat.le_zero.1 hfuel)
      rw [reading_nil]
      simp [tokensWithin, eq_comm]
  | succ fuel ih =>
      cases cs with
      | nil =>
          rw [reading_nil]
          simp [tokensWithin, eq_comm]
      | cons c rest =>
          have hrest : rest.length ≤ fuel := Nat.le_of_succ_le_succ hfuel
          rw [tokensWithin, reading_cons]
          split
          · exact ih hrest
          · constructor
            · intro h
              obtain ⟨⟨t, rest'⟩, htaken, h⟩ := bind_eq_ok.1 h
              obtain ⟨ts', htokens, h⟩ := bind_eq_ok.1 h
              cases h
              obtain ⟨cs, rfl, -⟩ := lexeme_eq_ok.1 htaken
              rw [List.length_append] at hrest
              exact ⟨t, rest', ts', rfl, htaken, (ih (by omega)).1 htokens⟩
            · rintro ⟨t, rest', ts', rfl, htaken, h⟩
              obtain ⟨cs, rfl, -⟩ := lexeme_eq_ok.1 htaken
              rw [List.length_append] at hrest
              refine bind_eq_ok.2 ⟨(t, rest'), htaken, bind_eq_ok.2 ⟨ts', ?_, rfl⟩⟩
              exact (ih (by omega)).2 h

/-- **A text has the tokens as which it can be read.** -/
theorem tokenize_eq_ok {cs : List Char} {ts : List Token} :
    tokenize cs = .ok ts ↔ Reading ts cs :=
  tokensWithin_eq_ok (Nat.le_refl _)

/-! ### Tokens that were written -/

theorem quoted_flatMap_escape (quote : Char) (content : List Char) :
    Quoted quote content (content.flatMap (escape quote)) := by
  induction content with
  | nil => exact .nil
  | cons c content ih =>
      rw [List.flatMap_cons, escape]
      split
      · exact .escaped ih
      · next hc =>
        rw [not_or] at hc
        exact .plain hc.1 hc.2 ih

theorem lexeme_written {t : Token} {quote : Char} (hquote : IsQuote quote) (ht : t.Shaped) :
    Lexeme t (t.written quote) := by
  cases t with
  | string content => exact .string hquote (quoted_flatMap_escape quote content)
  | _ => exact .bare ht nofun

theorem isGap_nil : IsGap [] := nofun

theorem Reading.behind_gap {gap cs : List Char} {ts : List Token} (hgap : IsGap gap)
    (h : Reading ts cs) : Reading ts (gap ++ cs) := by
  induction gap with
  | nil => exact h
  | cons c gap ih =>
      obtain ⟨hc, hgap⟩ := List.forall_mem_cons.1 hgap
      exact .separator hc (ih hgap)

theorem reading_of_lexeme {t : Token} {lex : List Char} (h : Lexeme t lex) : Reading [t] lex := by
  have := Reading.lexeme (longest_iff.2 ⟨h, stops_nil t⟩) .nil
  rwa [List.append_nil] at this

/-- What is read before a separator and behind it is read one after the other. -/
theorem Reading.append {c : Char} {ts us : List Token} {cs ds : List Char} (h : Reading ts cs)
    (hc : isSeparator c = true) (hbehind : Reading us ds) :
    Reading (ts ++ us) (cs ++ c :: ds) := by
  induction h with
  | nil => exact .separator hc hbehind
  | separator hd _ ih => exact .separator hd ih
  | @lexeme t ts lex cs hlex _ ih =>
      obtain ⟨hlex, hstops⟩ := longest_iff.1 hlex
      have hfurther : Stops t (cs ++ c :: ds) := by
        cases cs with
        | nil => exact stops_separator hc t ds
        | cons d cs => exact stops_cons.2 (stops_cons.1 hstops)
      rw [List.append_assoc]
      exact .lexeme (longest_iff.2 ⟨hlex, hfurther⟩) ih

theorem IsGap.stops {gap : List Char} (h : IsGap gap) (t : Token) : Stops t gap := by
  cases gap with
  | nil => exact stops_nil t
  | cons c gap => exact stops_separator (h c List.mem_cons_self) t gap

theorem IsGap.reading {gap : List Char} (h : IsGap gap) : Reading [] gap := by
  have := Reading.nil.behind_gap h
  rwa [List.append_nil] at this

/-- **What is written is read.** -/
theorem Written.reading {ts : List Token} {cs : List Char} (h : Written ts cs) : Reading ts cs := by
  induction h with
  | none hgap => exact hgap.reading
  | last hgap hquote ht hgap' =>
      have hlongest := longest_iff.2 ⟨lexeme_written hquote ht, hgap'.stops _⟩
      exact (Reading.lexeme hlongest hgap'.reading).behind_gap hgap
  | next hgap hquote ht hc _ ih =>
      refine Reading.behind_gap hgap (.lexeme (longest_iff.2 ⟨lexeme_written hquote ht, ?_⟩) ?_)
      · exact stops_separator hc _ _
      · exact .separator hc ih

/-- **What is written is read back, and a text that cannot be read has no tokens.**  A text in which
tokens are written with separators between them has these tokens.  Any text has the tokens as which
it can be read, if it can be read at all, and else there is a fault. -/
theorem tokenize_reads_back (cs : List Char) (ts : List Token) :
    (Written ts cs → tokenize cs = .ok ts) ∧
      (tokenize cs = .ok ts ↔ Reading ts cs) ∧
      ((∃ f, tokenize cs = .error f) ↔ ¬ ∃ us, Reading us cs) := by
  refine ⟨fun h => tokenize_eq_ok.2 h.reading, tokenize_eq_ok, ?_⟩
  simp only [← tokenize_eq_ok]
  cases tokenize cs with
  | error f => simp
  | ok us => simp

/-- A comparison with a text in which the quotes had to be escaped. -/
theorem tokenize_reads_back_quotes :
    let cs := "\tvar.sign\n!= 'the \\'old\\' mill'".toList
    let ts := [.identifier "var.sign".toList, .operator .notEqual,
      .string "the 'old' mill".toList]
    Written ts cs ∧ tokenize cs = .ok ts := by
  intro cs ts
  have hname : (Token.identifier "var.sign".toList).Shaped :=
    ⟨.mk rfl (List.all_eq_true.1 rfl), fun b => by cases b <;> decide⟩
  have hquote : IsQuote '\'' := .inr rfl
  have hstring := Written.last (t := .string "the 'old' mill".toList) isGap_nil hquote trivial
    isGap_nil
  have hrest := Written.next (t := .operator .notEqual) isGap_nil hquote trivial
    (by decide : isSeparator ' ' = true) hstring
  have htab : IsGap ['\t'] := List.forall_mem_singleton.2 rfl
  have hwritten : Written ts cs := .next htab hquote hname
    (by decide : isSeparator '\n' = true) hrest
  exact ⟨hwritten, (tokenize_reads_back cs ts).1 hwritten⟩

end Storyworld.Expression
