/-
**Reading texts and integers that were written.**

Texts are written between quotes, with escapes for some characters, and the reader undoes one escape
at a time.  Integers are written in their digits, and the reader takes all digits that it finds, so
an integer is read as it was written where no digit follows it.

Main definitions:

* `Storyworld.Json.Closing` — how a text goes on behind a value that was written.

Main results:

* `Storyworld.Json.string_quoteChars` — **quoted texts**;
* `Storyworld.Json.number_integerChars` — **integers**, unless they have too many digits.
-/

import Storyworld.Json.Printer
import Storyworld.Json.Reader

set_option relaxedAutoImplicit false
set_option autoImplicit false

namespace Storyworld.Json

open Reader

/-! ### Texts -/

theorem hexValue?_hexDigit : ∀ n < 16, hexValue? (hexDigit n) = some n := by decide

/-- The number of a control character, spelled in two hexadecimal digits behind two zeros. -/
theorem scanString_numbered {c : Char} (hc : c.toNat < 0x20) (opening : Nat) {rest : List Char}
    (hrest : rest ≠ []) (s : StringSoFar) :
    scanString opening ('\\' :: 'u' :: '0' :: '0' :: hexDigit (c.toNat / 16) ::
      hexDigit (c.toNat % 16) :: rest) .plain s = scanString opening rest .plain (s.push c) := by
  have hzero : hexValue? '0' = some 0 := by decide
  have hhigh := hexValue?_hexDigit (c.toNat / 16) (by omega)
  have hlow := hexValue?_hexDigit (c.toNat % 16) (by omega)
  have hempty : rest.isEmpty = false := by
    cases rest with
    | nil => exact absurd rfl hrest
    | cons d rest => rfl
  have hunit : c.toNat / 16 * 16 + c.toNat % 16 = c.toNat := by omega
  have hpush : s.pushUnit c.toNat = s.push c := by
    rw [StringSoFar.pushUnit, if_neg (by omega), if_neg (by omega), Char.ofNat_toNat]
  simp [scanString, hzero, hhigh, hlow, hempty]
  rw [hunit, hpush]

/-- What was escaped is read as the character that it stands for. -/
theorem scanString_escape (c : Char) (opening : Nat) {rest : List Char} (hrest : rest ≠ [])
    (s : StringSoFar) : scanString opening (escape c ++ rest) .plain s =
      scanString opening rest .plain (s.push c) := by
  -- seven characters have an escape of their own, and the other control characters have numbers
  unfold escape
  split
  · subst c; rfl
  split
  · subst c; rfl
  split
  · subst c; rfl
  split
  · subst c; rfl
  split
  · subst c; rfl
  split
  · subst c; rfl
  split
  · subst c; rfl
  split
  · next hc => exact scanString_numbered hc opening hrest s
  · next hquote hslash _ _ _ _ _ hcontrol =>
    simp only [List.cons_append, List.nil_append, scanString, if_neg hquote, if_neg hslash,
      if_neg hcontrol]

theorem scanString_flatMap (cs : List Char) (opening : Nat) (rest : List Char)
    (reversed : List Char) :
    scanString opening (cs.flatMap escape ++ '"' :: rest) .plain ⟨reversed, none⟩ =
      .ok (String.ofList (reversed.reverse ++ cs), rest) := by
  induction cs generalizing reversed with
  | nil =>
      rw [List.append_nil]
      rfl
  | cons c cs ih =>
      rw [List.flatMap_cons, List.append_assoc, scanString_escape c opening (by simp)]
      refine (ih (c :: reversed)).trans ?_
      rw [List.reverse_cons, List.append_assoc]
      rfl

/-- **A quoted text is read as the text.** -/
theorem string_quoteChars (s : String) (rest : List Char) :
    ∃ inner, quoteChars s ++ rest = '"' :: inner ∧ string inner = .ok (s, rest) := by
  refine ⟨s.toList.flatMap escape ++ '"' :: rest, by simp [quoteChars], ?_⟩
  rw [string, scanString_flatMap]
  simp

/-! ### Integers -/

theorem isAsciiDigit_of_isDigit {c : Char} (h : c.isDigit = true) : Text.isAsciiDigit c = true := by
  simp only [Char.isDigit, Bool.and_eq_true, decide_eq_true_eq] at h
  exact decide_eq_true h

theorem decimalValue?_of_isDigit {c : Char} (h : c.isDigit = true) :
    Text.decimalValue? c = some (c.toNat - '0'.toNat) := by
  have hc : 0x30 ≤ c.toNat ∧ c.toNat < 0x30 + 10 := by
    simp only [Char.isDigit, Bool.and_eq_true, decide_eq_true_eq, UInt32.le_iff_toNat_le] at h
    have h₁ : 48 ≤ c.toNat := h.1
    have h₂ : c.toNat ≤ 57 := h.2
    omega
  simp only [Text.decimalValue?, Text.decimalZeros, List.findSome?_cons, if_pos hc]
  rfl

/-- The ten ASCII digits spell what they usually do. -/
theorem natOfDecimals_of_isDigit {cs : List Char} (h : ∀ c ∈ cs, c.isDigit = true) :
    Text.natOfDecimals cs = Nat.ofDigitChars 10 cs 0 := by
  have hvalue : ∀ m, (cs.map fun c => (Text.decimalValue? c).getD 0).foldl
      (fun n d => 10 * n + d) m = Nat.ofDigitChars 10 cs m := by
    induction cs with
    | nil => intro m; rfl
    | cons c cs ih =>
        intro m
        rw [List.map_cons, List.foldl_cons, Nat.ofDigitChars_cons,
          decimalValue?_of_isDigit (h c List.mem_cons_self)]
        exact ih (fun d hd => h d (List.mem_cons_of_mem c hd)) _
  exact hvalue 0

theorem natOfDecimals_digitChars (n : Nat) : Text.natOfDecimals (Decimal.digitChars n) = n := by
  have hdigits : ∀ c ∈ Decimal.digitChars n, c.isDigit = true := fun c hc =>
    Nat.isDigit_of_mem_toDigits (by decide) (by decide) hc
  rw [natOfDecimals_of_isDigit hdigits]
  exact Nat.ofDigitChars_ten_toDigits

/-- **How a text goes on behind a value that was written**: it ends, or there is a comma or a line
end. -/
def Closing (rest : List Char) : Prop := ∀ c, rest.head? = some c → c = ',' ∨ c = '\n'

theorem digits_append {ds rest : List Char} (hds : ∀ c ∈ ds, c.isDigit = true)
    (hrest : Closing rest) : digits (ds ++ rest) = (ds, rest) := by
  have hall : ∀ c ∈ ds, Text.isAsciiDigit c = true := fun c hc => isAsciiDigit_of_isDigit (hds c hc)
  have hstop : rest.takeWhile Text.isAsciiDigit = [] ∧ rest.dropWhile Text.isAsciiDigit = rest := by
    cases rest with
    | nil => exact ⟨rfl, rfl⟩
    | cons c rest =>
        have hc : Text.isAsciiDigit c = false := by
          rcases hrest c rfl with rfl | rfl <;> rfl
        exact ⟨by simp [hc], by simp [hc]⟩
  rw [digits, List.takeWhile_append_of_pos hall, List.dropWhile_append_of_pos hall, hstop.1,
    hstop.2, List.append_nil]

/-- Behind an integer that was written there is neither a fraction nor an exponent. -/
theorem fraction_closing {rest : List Char} (hrest : Closing rest) :
    fraction rest = ([], rest) := by
  cases rest with
  | nil => rfl
  | cons c rest => rcases hrest c rfl with rfl | rfl <;> rfl

theorem exponent?_closing {rest : List Char} (hrest : Closing rest) :
    exponent? rest = (none, rest) := by
  cases rest with
  | nil => rfl
  | cons c rest => rcases hrest c rfl with rfl | rfl <;> rfl

theorem digitChars_zero : Decimal.digitChars 0 = ['0'] := rfl

/-- Zero is the only number whose digits begin with a zero. -/
theorem head_digitChars {n : Nat} (hn : n ≠ 0) :
    ∃ c ds, Decimal.digitChars n = c :: ds ∧ c ≠ '0' ∧ c.isDigit = true := by
  induction n using Nat.strongRecOn with
  | ind n ih =>
      by_cases hsmall : n < 10
      · have hdigit : ∀ n < 10, n ≠ 0 → n.digitChar ≠ '0' ∧ n.digitChar.isDigit = true := by decide
        exact ⟨n.digitChar, [], Nat.toDigits_of_lt_base hsmall, hdigit n hsmall hn⟩
      · obtain ⟨c, ds, hds, hc⟩ := ih (n / 10) (by omega) (by omega)
        refine ⟨c, ds ++ [(n % 10).digitChar], ?_, hc⟩
        rw [Decimal.digitChars, Nat.toDigits_of_base_le (by decide) (by omega)]
        rw [Decimal.digitChars] at hds
        rw [hds, List.cons_append]

theorem isDigit_digitChars (n : Nat) : ∀ c ∈ Decimal.digitChars n, c.isDigit = true :=
  fun _ hc => Nat.isDigit_of_mem_toDigits (by decide) (by decide) hc

/-- A number has so many digits at most, for any such bound. -/
theorem length_digitChars_le {n k : Nat} (hk : 0 < k) (hn : n < Nat.pow 10 k) :
    (Decimal.digitChars n).length ≤ k :=
  (Nat.length_toDigits_le_iff (by decide) hk).2 hn

/-- The digits of a number are read as the number, unless there are too many. -/
theorem unsigned_digitChars (n : Nat) (start : List Char) (negative : Bool) {rest : List Char}
    (hrest : Closing rest) : unsigned start negative (Decimal.digitChars n ++ rest) =
      if maxDigits < (Decimal.digitChars n).length then
        .error (.tooManyDigits (Decimal.digitChars n).length)
      else .ok (int (if negative then -(n : Int) else n), rest) := by
  have hvalue := natOfDecimals_digitChars n
  by_cases hzero : n = 0
  · subst hzero
    rw [digitChars_zero] at hvalue ⊢
    simp only [unsigned, List.cons_append, List.nil_append, fraction_closing hrest,
      exponent?_closing hrest, hvalue, List.isEmpty_cons, List.isEmpty_nil, Option.isNone_none,
      Bool.and_self, if_true, Bool.false_eq_true, if_false]
  · obtain ⟨c, ds, hds, hc, -⟩ := head_digitChars hzero
    have hne : (Decimal.digitChars n).isEmpty = false := by rw [hds]; rfl
    rw [unsigned]
    · simp only [digits_append (isDigit_digitChars n) hrest, hne, fraction_closing hrest,
        exponent?_closing hrest, hvalue, List.isEmpty_nil, Option.isNone_none, Bool.and_self,
        if_true, Bool.false_eq_true, if_false]
    · intro tail htail
      rw [hds, List.cons_append] at htail
      exact hc (List.head_eq_of_cons_eq htail)

/-- **An integer is read as it was written**, unless it has too many digits. -/
theorem number_integerChars (n : Int) {rest : List Char} (hrest : Closing rest) :
    number (integerChars n ++ rest) =
      if maxDigits < (Decimal.digitChars n.natAbs).length then
        .error (.tooManyDigits (Decimal.digitChars n.natAbs).length)
      else .ok (int n, rest) := by
  unfold integerChars
  split
  · next hneg =>
    rw [List.cons_append, number, unsigned_digitChars _ _ true hrest, if_pos rfl]
    rw [show -(n.natAbs : Int) = n by omega]
  · next hpos =>
    rw [number]
    · rw [unsigned_digitChars _ _ false hrest, if_neg Bool.false_ne_true]
      rw [show (n.natAbs : Int) = n by omega]
    · intro tail htail
      have hmem : '-' ∈ Decimal.digitChars n.natAbs := by
        cases hds : Decimal.digitChars n.natAbs with
        | nil => exact absurd hds Nat.toDigits_ne_nil
        | cons c cs =>
            rw [hds, List.cons_append] at htail
            rw [List.head_eq_of_cons_eq htail]
            exact List.mem_cons_self
      cases isDigit_digitChars _ _ hmem

end Storyworld.Json
