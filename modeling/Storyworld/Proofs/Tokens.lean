/-
**How numbers are written, and how they are read.**

Numbers are written in characters that stand in numbers only: digits, a point, a mark for the
exponent, and signs.  The reader takes such characters and no others, so it goes on at the end of
what was written.  It need not take all of them; but if it does not, it is stuck, for no list or
table goes on with a character of a number.

Main definitions:

* `Storyworld.Json.Token` — the characters of a number;
* `Storyworld.Json.Stuck` — a place at which no list or table goes on.

Main results:

* `Storyworld.Json.token_integerChars`, `Storyworld.Json.render_cases` — **how numbers are
  written**;
* `Storyworld.Json.rest_of_eats` — **a number is read to its end, or reading is stuck**;
* `Storyworld.Json.words_token` — no word is read in its place.
-/

import Storyworld.Proofs.Complaints
import Storyworld.Proofs.Reading

set_option relaxedAutoImplicit false
set_option autoImplicit false

namespace Storyworld.Json

open Reader

/-! ### Characters of numbers -/

theorem ne_of_isNumeric {c d : Char} (h : isNumeric c = true) (hd : isNumeric d = false) :
    c ≠ d := by
  rintro rfl
  rw [h] at hd
  cases hd

/-- The characters of a number, and of nothing else. -/
structure Token (cs : List Char) : Prop where
  ne_nil : cs ≠ []
  numeric : ∀ c ∈ cs, isNumeric c = true

theorem isNumeric_digitChars (n : Nat) : ∀ c ∈ Decimal.digitChars n, isNumeric c = true :=
  fun c hc => isNumeric_of_isAsciiDigit (isAsciiDigit_of_isDigit (isDigit_digitChars n c hc))

theorem isNumeric_replicate {n : Nat} : ∀ c ∈ List.replicate n '0', isNumeric c = true := by
  intro c hc
  rw [List.eq_of_mem_replicate hc]
  rfl

theorem isNumeric_padded {width : Nat} {cs : List Char} (h : ∀ c ∈ cs, isNumeric c = true) :
    ∀ c ∈ Decimal.padded width cs, isNumeric c = true :=
  List.forall_mem_append.2 ⟨isNumeric_replicate, h⟩

theorem token_plain {cs : List Char} (h : ∀ c ∈ cs, isNumeric c = true) (exponent : Int) :
    Token (Decimal.plain cs exponent) := by
  unfold Decimal.plain
  split
  · refine ⟨by simp, List.forall_mem_append.2 ⟨?_, List.all_eq_true.1 rfl⟩⟩
    exact List.forall_mem_append.2 ⟨h, isNumeric_replicate⟩
  · dsimp only
    split
    · refine ⟨by simp, List.forall_mem_append.2 ⟨?_, List.forall_mem_cons.2 ⟨rfl, ?_⟩⟩⟩
      · exact fun c hc => h c (List.mem_of_mem_take hc)
      · exact fun c hc => h c (List.mem_of_mem_drop hc)
    · refine ⟨List.cons_ne_nil _ _, ?_⟩
      exact List.forall_mem_cons.2 ⟨rfl, List.forall_mem_cons.2 ⟨rfl, isNumeric_padded h⟩⟩

theorem token_scientific {cs : List Char} (h : ∀ c ∈ cs, isNumeric c = true) (width : Nat)
    (order : Int) : Token (Decimal.scientific width cs order) := by
  have hsign : isNumeric (if order < 0 then '-' else '+') = true := by
    split <;> rfl
  have hbehind : ∀ c ∈ 'e' :: (if order < 0 then '-' else '+') ::
      Decimal.padded width (Decimal.digitChars order.natAbs), isNumeric c = true :=
    List.forall_mem_cons.2 ⟨rfl, List.forall_mem_cons.2
      ⟨hsign, isNumeric_padded (isNumeric_digitChars _)⟩⟩
  refine ⟨by simp [Decimal.scientific], ?_⟩
  unfold Decimal.scientific
  dsimp only
  -- no digit, one digit, or a point behind the first of several digits
  split
  · exact hbehind
  · exact List.forall_mem_append.2 ⟨h, hbehind⟩
  · rw [List.forall_mem_cons] at h
    exact List.forall_mem_cons.2 ⟨h.1, List.forall_mem_cons.2
      ⟨rfl, List.forall_mem_append.2 ⟨h.2, hbehind⟩⟩⟩

theorem token_decimal (l : Decimal.Layout) (d : Decimal) : Token (l.decimal d) := by
  unfold Decimal.Layout.decimal
  dsimp only
  split
  · exact token_plain (isNumeric_digitChars _) _
  · exact token_scientific (isNumeric_digitChars _) _ _

theorem Token.minus {cs : List Char} (h : Token cs) : Token ('-' :: cs) :=
  ⟨List.cons_ne_nil _ _, List.forall_mem_cons.2 ⟨rfl, h.numeric⟩⟩

/-- **An integer is written in characters of numbers.** -/
theorem token_integerChars (n : Int) : Token (integerChars n) := by
  have hdigits : Token (Decimal.digitChars n.natAbs) :=
    ⟨Nat.toDigits_ne_nil, isNumeric_digitChars n.natAbs⟩
  unfold integerChars
  split
  · exact hdigits.minus
  · exact hdigits

/-- **A floating-point number is written as a null, or in characters of numbers.** -/
theorem render_cases (x : Double) :
    (savedNumber.render x).toList = "null".toList ∨ Token (savedNumber.render x).toList := by
  unfold Decimal.Layout.render
  split
  · exact .inl rfl
  · split
    · exact .inl rfl
    · exact .inl rfl
  · exact .inr ⟨by decide, List.all_eq_true.1 rfl⟩
  · split
    · exact .inr ⟨by decide, List.all_eq_true.1 rfl⟩
    · split
      · rw [String.toList_ofList]
        exact .inr (token_decimal _ _).minus
      · rw [String.toList_ofList]
        exact .inr (token_decimal _ _)

/-! ### Reading numbers -/

/-- A place at which no list or table goes on, and none ends. -/
def Stuck (rest : List Char) : Prop :=
  ∃ c cs, rest = c :: cs ∧ isSpace c = false ∧ c ≠ ',' ∧ c ≠ ']' ∧ c ≠ '\x7d'

theorem isSpace_of_isNumeric {c : Char} (h : isNumeric c = true) : isSpace c = false := by
  simp only [isSpace, Bool.or_eq_false_iff, beq_eq_false_iff_ne]
  exact ⟨⟨⟨ne_of_isNumeric h rfl, ne_of_isNumeric h rfl⟩, ne_of_isNumeric h rfl⟩,
    ne_of_isNumeric h rfl⟩

theorem stuck_of_isNumeric {c : Char} (h : isNumeric c = true) (cs : List Char) :
    Stuck (c :: cs) :=
  ⟨c, cs, rfl, isSpace_of_isNumeric h, ne_of_isNumeric h rfl, ne_of_isNumeric h rfl,
    ne_of_isNumeric h rfl⟩

/-- **A number is read to its end, or reading is stuck**: behind the number stands no character of
numbers. -/
theorem rest_of_eats {tok rest rest' : List Char} (htok : ∀ c ∈ tok, isNumeric c = true)
    (hrest : Closing rest) (h : Eats (tok ++ rest) rest') : rest' = rest ∨ Stuck rest' := by
  obtain ⟨eaten, heq, heaten⟩ := h
  rcases List.append_eq_append_iff.1 heq with ⟨more, rfl, rfl⟩ | ⟨left, rfl, rfl⟩
  · -- nothing behind the number can be eaten
    cases more with
    | nil => exact .inl rfl
    | cons c more =>
        have hc : isNumeric c = true := heaten c (by simp)
        rcases hrest c rfl with rfl | rfl <;> cases hc
  · cases left with
    | nil => exact .inl rfl
    | cons c left => exact .inr (stuck_of_isNumeric (htok c (by simp)) _)

/-- A word is not read where the text begins with another character. -/
theorem after?_of_head {word : String} {a : Char} {as : List Char} (hw : word.toList = a :: as)
    {c : Char} (hc : a ≠ c) (cs : List Char) : after? word (c :: cs) = none := by
  rw [after?, hw, List.isPrefixOf, beq_false_of_ne hc, Bool.false_and, if_neg Bool.false_ne_true]

/-- No word is read where a number was written.  A minus is the head of one word, but no character
of a number follows it there. -/
theorem words_token {tok rest : List Char} (htok : Token tok) (hrest : Closing rest) :
    (words.findSome? fun w => (after? w.1 (tok ++ rest)).map fun rest => (w.2, rest)) = none := by
  obtain ⟨hne, hnumeric⟩ := htok
  obtain ⟨c, cs, rfl⟩ := List.exists_cons_of_ne_nil hne
  rw [List.forall_mem_cons] at hnumeric
  have hsecond : (cs ++ rest).head? ≠ some 'I' := by
    intro hI
    cases cs with
    | nil => rcases hrest 'I' hI with h | h <;> cases h
    | cons d cs =>
        cases hI
        cases hnumeric.2 'I' List.mem_cons_self
  rw [List.findSome?_eq_none_iff]
  intro w hw
  rw [Option.map_eq_none_iff, List.cons_append]
  simp only [words, List.mem_cons, List.not_mem_nil, or_false] at hw
  rcases hw with rfl | rfl | rfl | rfl | rfl | rfl
  · exact after?_of_head rfl (ne_of_isNumeric hnumeric.1 rfl).symm _
  · exact after?_of_head rfl (ne_of_isNumeric hnumeric.1 rfl).symm _
  · exact after?_of_head rfl (ne_of_isNumeric hnumeric.1 rfl).symm _
  · exact after?_of_head rfl (ne_of_isNumeric hnumeric.1 rfl).symm _
  · exact after?_of_head rfl (ne_of_isNumeric hnumeric.1 rfl).symm _
  · cases hmore : cs ++ rest with
    | nil => simp [after?, List.isPrefixOf]
    | cons d ds =>
        rw [hmore] at hsecond
        have hI : 'I' ≠ d := fun h => hsecond (by rw [h]; rfl)
        simp [after?, List.isPrefixOf, hI]

theorem wordOrNumber_token {tok rest : List Char} (htok : Token tok) (hrest : Closing rest) :
    wordOrNumber (tok ++ rest) = number (tok ++ rest) := by
  rw [wordOrNumber, words_token htok hrest]

end Storyworld.Json
