/-
**Rolling dice by notation.**

A notation is a row of digits, the letter d in either case, a second row of digits, and perhaps a sign
with a third row, with blanks around.  No character can belong to two of these parts, so a text is a
notation in at most one way, and the program finds it: it reads every notation, and reads nothing
else.

A die shows one more than the integer part of its draw times its sides.  The product is exact for dice
of up to `2 ^ 21` sides, so that what is rolled can be told from the states in integers: one state for
each die, and nothing else is drawn.

Main definitions:

* `Storyworld.Dice.Notation` — **the parts of a notation**, in digits of some class;
* `Storyworld.Dice.Notation.IsWritten` — a text is a notation;
* `Storyworld.Generator.face` — what a die shows in a state.

Main results:

* `Storyworld.Dice.read_of_isWritten`, `Storyworld.Dice.exists_of_read` — **a notation is read, and
  nothing else is**;
* `Storyworld.Generator.sumOfDice_linear` — the dice that are rolled, and the generator after them;
* `Storyworld.Generator.rolls_take_a_state_each` — **what is rolled for a text**.
-/

import Mathlib.Algebra.BigOperators.Intervals
import Mathlib.Algebra.Order.BigOperators.Group.Finset
import Storyworld.Chance.Dice
import Storyworld.Proofs.Draws
import Storyworld.Proofs.Lexemes
import Storyworld.Proofs.Reading

set_option relaxedAutoImplicit false
set_option autoImplicit false

namespace Storyworld

open Generator (modulus)

/-! ### Blanks and digits -/

namespace Text

theorem inRanges_iff {ranges : List (Nat × Nat)} {n : Nat} :
    inRanges ranges n = true ↔ ∃ r ∈ ranges, r.1 ≤ n ∧ n ≤ r.2 := by
  simp [inRanges]

theorem isDecimal_iff {c : Char} :
    isDecimal c = true ↔ ∃ z ∈ decimalZeros, z ≤ c.toNat ∧ c.toNat < z + 10 := by
  unfold isDecimal decimalValue?
  rw [List.isSome_findSome?, List.any_eq_true]
  constructor
  · rintro ⟨z, hz, h⟩
    refine ⟨z, hz, ?_⟩
    by_contra hnot
    rw [if_neg hnot] at h
    cases h
  · rintro ⟨z, hz, h⟩
    exact ⟨z, hz, by rw [if_pos h]; rfl⟩

/-- **No decimal digit is a blank.** -/
theorem isBlank_of_isDecimal {c : Char} (h : isDecimal c = true) : isBlank c = false := by
  -- the ranges of the blanks and of the digits lie apart
  have hapart : ∀ z ∈ decimalZeros, ∀ r ∈ (0x1C, 0x1F) :: whiteSpaceRanges,
      r.2 < z ∨ z + 10 ≤ r.1 := by decide
  obtain ⟨z, hz, hlow, hhigh⟩ := isDecimal_iff.1 h
  have hout : ∀ r ∈ (0x1C, 0x1F) :: whiteSpaceRanges, ¬ (r.1 ≤ c.toNat ∧ c.toNat ≤ r.2) := by
    intro r hr hin
    rcases hapart z hz r hr with hbelow | habove
    · omega
    · omega
  have hseparator : inRanges [(0x1C, 0x1F)] c.toNat = false := by
    rw [Bool.eq_false_iff, Ne, inRanges_iff]
    rintro ⟨r, hr, hin⟩
    rw [List.mem_singleton] at hr
    subst hr
    exact hout _ List.mem_cons_self hin
  have hspace : isWhiteSpace c = false := by
    rw [Bool.eq_false_iff, Ne, isWhiteSpace, inRanges_iff]
    rintro ⟨r, hr, hin⟩
    exact hout r (List.mem_cons_of_mem _ hr) hin
  rw [isBlank, hspace, hseparator]
  rfl

theorem isDecimal_of_isDigit {c : Char} (h : c.isDigit = true) : isDecimal c = true := by
  unfold isDecimal
  rw [Json.decimalValue?_of_isDigit h]
  rfl

end Text

/-! ### Notations -/

namespace Dice

/-- **The parts of a notation**: the digits of the number of dice, which may be none, those of the
number of sides, and those of the number that is added, which again may be none, with whether it is
negative. -/
structure Notation where
  count : List Char
  sides : List Char
  negative : Bool
  added : List Char

namespace Notation

/-- How the number that is added is written. -/
def tail (n : Notation) : List Char :=
  if n.added = [] then [] else (if n.negative then '-' else '+') :: n.added

/-- **A notation is in digits of a class**, and the number of sides is not left out. -/
structure IsIn (digit : Char → Bool) (n : Notation) : Prop where
  count : ∀ c ∈ n.count, digit c = true
  sides : ∀ c ∈ n.sides, digit c = true
  added : ∀ c ∈ n.added, digit c = true
  sides_ne_nil : n.sides ≠ []

theorem IsIn.mono {digit digit' : Char → Bool} (hmono : ∀ c, digit c = true → digit' c = true)
    {n : Notation} (h : n.IsIn digit) : n.IsIn digit' where
  count c hc := hmono c (h.count c hc)
  sides c hc := hmono c (h.sides c hc)
  added c hc := hmono c (h.added c hc)
  sides_ne_nil := h.sides_ne_nil

/-- **A text is a notation**, up to blanks around it and the case of its letter. -/
inductive IsWritten (n : Notation) : List Char → Prop
  | mk {before behind : List Char} {letter : Char} (hletter : letter = 'd' ∨ letter = 'D')
      (hbefore : ∀ c ∈ before, Text.isBlank c = true)
      (hbehind : ∀ c ∈ behind, Text.isBlank c = true) :
      IsWritten n (before ++ (n.count ++ letter :: (n.sides ++ (n.tail ++ behind))))

/-- No number of a notation has too many digits. -/
structure IsShort (n : Notation) : Prop where
  count : n.count.length ≤ maxDigits
  sides : n.sides.length ≤ maxDigits
  added : n.added.length ≤ maxDigits

/-- The dice of a notation, by the numbers that its digits spell. -/
def dice (value : List Char → Nat) (n : Notation) : Dice where
  count := if n.count = [] then 1 else value n.count
  sides := value n.sides
  added := if n.negative then -(value n.added : Int) else value n.added

end Notation

section Reading

variable {cs rest digits : List Char} {negative : Bool}

/-- The digits at the head of a text, where something else stands behind them. -/
theorem split_append (hdigits : ∀ c ∈ digits, Text.isDecimal c = true)
    (hrest : ∀ c, rest.head? = some c → Text.isDecimal c = false) :
    Numeral.split Text.isDecimal (digits ++ rest) = (digits, rest) := by
  obtain ⟨htake, hdrop⟩ := Expression.takeWhile_of_head? hdigits hrest
  rw [Numeral.split, htake, hdrop]

/-- Blanks are no digits. -/
theorem head_blank (h : ∀ c ∈ rest, Text.isBlank c = true) :
    ∀ c, rest.head? = some c → Text.isDecimal c = false := by
  intro c hc
  have hblank := h c (List.mem_of_head? hc)
  by_contra hdecimal
  rw [Text.isBlank_of_isDecimal (by simpa using hdecimal)] at hblank
  cases hblank

/-- A signed row of digits is what is added. -/
theorem added?_eq_some_iff : added? cs = some (negative, digits, rest) ↔
    cs = (if negative then '-' else '+') :: (digits ++ rest) ∧ digits ≠ [] ∧
      (∀ c ∈ digits, Text.isDecimal c = true) ∧
      ∀ c, rest.head? = some c → Text.isDecimal c = false := by
  constructor
  · intro h
    cases cs with
    | nil => cases h
    | cons sign cs =>
        unfold added? Numeral.split at h
        dsimp only at h
        split at h
        · next hsign =>
          cases h
          refine ⟨?_, hsign.2, ?_, fun c hc => Expression.head?_dropWhile hc⟩
          · rw [List.takeWhile_append_dropWhile]
            rcases hsign.1 with rfl | rfl
            · rfl
            · rfl
          · exact List.all_eq_true.1 List.all_takeWhile
        · cases h
  · rintro ⟨rfl, hne, hdigits, hrest⟩
    rw [added?, split_append hdigits hrest]
    cases negative with
    | true => simp [hne]
    | false => simp [hne]

/-- Where nothing but blanks stand, nothing is added. -/
theorem added?_blank (h : ∀ c ∈ cs, Text.isBlank c = true) : added? cs = none := by
  cases hadded : added? cs with
  | none => rfl
  | some parts =>
      obtain ⟨negative, digits, rest⟩ := parts
      obtain ⟨rfl, -⟩ := added?_eq_some_iff.1 hadded
      have hsign := h _ List.mem_cons_self
      cases negative with
      | true => exact absurd hsign (by decide)
      | false => exact absurd hsign (by decide)

end Reading

/-- What is added to a notation, with the blanks behind it. -/
theorem added?_tail {n : Notation} (hin : n.IsIn Text.isDecimal) {behind : List Char}
    (hbehind : ∀ c ∈ behind, Text.isBlank c = true) :
    (added? (n.tail ++ behind)).getD (false, [], n.tail ++ behind) =
      (n.negative && n.added ≠ [], n.added, behind) := by
  by_cases hnone : n.added = []
  · have htail : n.tail = [] := if_pos hnone
    rw [htail, List.nil_append, added?_blank hbehind, hnone]
    simp
  · have htail : n.tail = (if n.negative then '-' else '+') :: n.added := if_neg hnone
    have hadded : added? (n.tail ++ behind) = some (n.negative, n.added, behind) :=
      added?_eq_some_iff.2 ⟨by rw [htail]; rfl, hnone, hin.added, head_blank hbehind⟩
    rw [hadded]
    simp [hnone]

/-- What stands behind the sides of a notation begins with no digit. -/
theorem head_tail {n : Notation} {behind : List Char}
    (hbehind : ∀ c ∈ behind, Text.isBlank c = true) :
    ∀ c, (n.tail ++ behind).head? = some c → Text.isDecimal c = false := by
  unfold Notation.tail
  split
  · exact head_blank hbehind
  · intro c hc
    cases hc
    cases n.negative with
    | true => decide
    | false => decide

/-- **A notation is read**, unless a number of it has too many digits. -/
theorem read_of_isWritten {n : Notation} {cs : List Char} (hin : n.IsIn Text.isDecimal)
    (h : n.IsWritten cs) :
    (n.IsShort → read cs = .dice (n.dice Text.natOfDecimals)) ∧ read cs ≠ .unreadable := by
  cases h with
  | @mk before behind letter hletter hbefore hbehind =>
      have hletters : Text.isBlank letter = false ∧ Text.isDecimal letter = false := by
        rcases hletter with rfl | rfl
        · decide
        · decide
      -- the blanks before the notation end with its first digit or its letter
      have hbody : (before ++ (n.count ++ letter :: (n.sides ++ (n.tail ++ behind)))).dropWhile
          Text.isBlank = n.count ++ letter :: (n.sides ++ (n.tail ++ behind)) := by
        refine (Expression.takeWhile_of_head? hbefore fun c hc => ?_).2
        cases hcount : n.count with
        | nil =>
            rw [hcount] at hc
            cases hc
            exact hletters.1
        | cons d ds =>
            rw [hcount] at hc
            cases hc
            exact Text.isBlank_of_isDecimal (hin.count _ (by rw [hcount]; exact List.mem_cons_self))
      have hcount : Numeral.split Text.isDecimal
          (n.count ++ letter :: (n.sides ++ (n.tail ++ behind))) =
            (n.count, letter :: (n.sides ++ (n.tail ++ behind))) :=
        split_append hin.count fun c hc => by cases hc; exact hletters.2
      have hsides := split_append hin.sides (head_tail (n := n) hbehind)
      have hall : behind.all Text.isBlank = true := List.all_eq_true.2 hbehind
      rw [read, hbody, hcount]
      dsimp only
      rw [hsides]
      dsimp only
      rw [added?_tail hin hbehind]
      dsimp only
      rw [if_pos ⟨hletter, hin.sides_ne_nil, hall⟩]
      refine ⟨fun hshort => ?_, ?_⟩
      · have hlong : ¬ (maxDigits < n.count.length ∨ maxDigits < n.sides.length ∨
            maxDigits < n.added.length) := by
          rintro (h | h | h)
          · exact absurd hshort.count (not_le.2 h)
          · exact absurd hshort.sides (not_le.2 h)
          · exact absurd hshort.added (not_le.2 h)
        rw [if_neg hlong, Notation.dice]
        by_cases hnone : n.added = []
        · have hzero : Text.natOfDecimals [] = 0 := rfl
          simp [hnone, hzero]
        · simp [hnone]
      · split
        · exact Reading.noConfusion
        · exact Reading.noConfusion

/-- Blanks behind the sides of a notation, or a number that is added and blanks behind it. -/
theorem exists_tail {cs : List Char}
    (h : ((added? cs).getD (false, [], cs)).2.2.all Text.isBlank = true) :
    ∃ negative digits behind, (∀ c ∈ digits, Text.isDecimal c = true) ∧
      (∀ c ∈ behind, Text.isBlank c = true) ∧
      ∀ count sides, cs = Notation.tail ⟨count, sides, negative, digits⟩ ++ behind := by
  cases hadded : added? cs with
  | none =>
      rw [hadded] at h
      exact ⟨false, [], cs, nofun, List.all_eq_true.1 h, fun _ _ => rfl⟩
  | some parts =>
      obtain ⟨negative, digits, behind⟩ := parts
      rw [hadded] at h
      obtain ⟨rfl, hne, hdigits, -⟩ := added?_eq_some_iff.1 hadded
      refine ⟨negative, digits, behind, hdigits, List.all_eq_true.1 h, fun count sides => ?_⟩
      rw [Notation.tail, if_neg hne]
      rfl

/-- **Nothing else is read.** -/
theorem exists_of_read {cs : List Char} (h : read cs ≠ .unreadable) :
    ∃ n : Notation, n.IsIn Text.isDecimal ∧ n.IsWritten cs := by
  have hdigits (cs : List Char) : ∀ c ∈ cs.takeWhile Text.isDecimal, Text.isDecimal c = true :=
    List.all_eq_true.1 List.all_takeWhile
  unfold read Numeral.split at h
  dsimp only at h
  split at h
  · next letter rest hrest =>
    split at h
    · next hread =>
      obtain ⟨hletter, hsides, hblank⟩ := hread
      obtain ⟨negative, digits, behind, hadded, hbehind, htail⟩ := exists_tail hblank
      have hwritten : cs = cs.takeWhile Text.isBlank ++
          ((cs.dropWhile Text.isBlank).takeWhile Text.isDecimal ++ letter ::
            (rest.takeWhile Text.isDecimal ++ rest.dropWhile Text.isDecimal)) := by
        rw [List.takeWhile_append_dropWhile, ← hrest, List.takeWhile_append_dropWhile,
          List.takeWhile_append_dropWhile]
      let n : Notation := ⟨(cs.dropWhile Text.isBlank).takeWhile Text.isDecimal,
        rest.takeWhile Text.isDecimal, negative, digits⟩
      refine ⟨n, ⟨hdigits _, hdigits _, hadded, hsides⟩, ?_⟩
      rw [htail n.count n.sides] at hwritten
      rw [hwritten]
      exact .mk hletter (List.all_eq_true.1 List.all_takeWhile) hbehind
    · exact absurd rfl h
  · exact absurd rfl h

end Dice

/-! ### Dice that are rolled -/

namespace Generator

/-- **What a die shows in a state.** -/
def face (sides n : Nat) : Nat := 1 + n * sides / modulus

theorem one_le_face (sides n : Nat) : 1 ≤ face sides n := Nat.le_add_right 1 _

theorem face_le {sides n : Nat} (hsides : 1 ≤ sides) (hn : n < modulus) : face sides n ≤ sides := by
  have hlt : n * sides / modulus < sides := by
    rw [Nat.div_lt_iff_lt_mul (by decide), Nat.mul_comm sides]
    exact Nat.mul_lt_mul_of_pos_right hn hsides
  unfold face
  omega

/-- So many dice show no less than their number, and no more than their number times their sides. -/
theorem sum_face_bounds {sides : Nat} (hpos : 1 ≤ sides) {states : Nat → Nat}
    (hstates : ∀ k, states k < modulus) (count : Nat) :
    (count : Int) ≤ ∑ k ∈ Finset.range count, (face sides (states k) : Int) ∧
      ∑ k ∈ Finset.range count, (face sides (states k) : Int) ≤ count * sides := by
  constructor
  · have h := Finset.card_nsmul_le_sum (Finset.range count)
      (fun k => (face sides (states k) : Int)) 1 fun k _ => by exact_mod_cast one_le_face sides _
    simpa using h
  · have h := Finset.sum_le_card_nsmul (Finset.range count)
      (fun k => (face sides (states k) : Int)) sides
      fun k _ => by exact_mod_cast face_le hpos (hstates k)
    simpa using h

section Rolling

variable {sides : Nat} (hpos : 1 ≤ sides) (hle : sides ≤ 2 ^ 21)

include hpos hle

/-- A die shows what the state of its draw says. -/
theorem pick_drawAt {n : Nat} (hn : n < modulus) :
    pick (drawAt n) 1 sides = .ok (face sides n : Int) := by
  have hspan : Double.ofInt? (sides : Int) = some (.finite (sides : Int)) :=
    Double.ofInt?_eq_some (by omega)
  have hproduct : ((drawAt n).mul (.finite (sides : Int))).Grains (n * (sides : Int)) := by
    refine (grains_drawAt n).mul rfl ?_
    rw [← Nat.cast_mul, Int.natAbs_natCast]
    calc n * sides ≤ modulus * 2 ^ 21 := Nat.mul_le_mul hn.le hle
      _ = 2 ^ 53 := by decide
  have hwhole := hproduct.truncate? (Int.mul_nonneg (Int.natCast_nonneg _) (Int.natCast_nonneg _))
  have hface : 1 + (n * sides / modulus : Int) = face sides n := by
    rw [face, Int.natCast_add, Int.natCast_ediv, Int.natCast_mul, Nat.cast_one]
  unfold pick
  rw [hspan]
  dsimp only
  rw [hwhole]
  dsimp only
  rw [hface]

/-- A die takes one state. -/
theorem integer_linear (state : Nat) :
    (linear state).integer 1 sides =
      (.ok (face sides (successor state) : Int), linear (successor state)) := by
  have hlow : ¬ (sides : Int) < 1 := by omega
  have hspan : (sides : Int) - 1 + 1 = sides := by omega
  rw [integer, next_linear]
  dsimp only
  rw [if_neg hlow, hspan, pick_drawAt hpos hle (successor_lt state)]

/-- **The dice that are rolled**: one state for each, and nothing else is drawn. -/
theorem sumOfDice_linear (count : Nat) (sum : Int) (state : Nat) :
    sumOfDice sides count sum (linear state) =
      (.ok (sum + ∑ k ∈ Finset.range count, (face sides (successor^[k + 1] state) : Int)),
        linear (successor^[count] state)) := by
  induction count generalizing sum state with
  | zero => rw [sumOfDice, Finset.sum_range_zero, add_zero, Function.iterate_zero_apply]
  | succ count ih =>
      have hsum (f : Nat → Nat) :
          ∑ k ∈ Finset.range (count + 1), (face sides (f^[k + 1] state) : Int) =
            face sides (f state) +
              ∑ k ∈ Finset.range count, (face sides (f^[k + 1] (f state)) : Int) := by
        rw [Finset.sum_range_succ', add_comm]
        rfl
      rw [sumOfDice, integer_linear hpos hle]
      dsimp only
      rw [ih, hsum, Function.iterate_succ_apply, add_assoc]

end Rolling

/-- **What is rolled for a text.**  For a notation in ASCII digits, as many states are taken as there
are dice, each of which shows what its state says; a text that is no notation, in digits of whatever
script, rolls zero and takes none. -/
theorem rolls_take_a_state_each (state : Nat) (text : String) :
    (∀ n : Dice.Notation, n.IsIn Char.isDigit → n.IsShort → n.IsWritten text.toList →
      let dice := n.dice fun digits => Nat.ofDigitChars 10 digits 0
      1 ≤ dice.sides → dice.sides ≤ 2 ^ 21 →
      ∃ sum : Int, (linear state).roll text = (.ok sum, linear (successor^[dice.count] state)) ∧
        sum = dice.added +
          ∑ k ∈ Finset.range dice.count, (face dice.sides (successor^[k + 1] state) : Int) ∧
        dice.count + dice.added ≤ sum ∧ sum ≤ dice.count * dice.sides + dice.added) ∧
    ((∀ n : Dice.Notation, n.IsIn Text.isDecimal → ¬ n.IsWritten text.toList) →
      (linear state).roll text = (.ok 0, linear state)) := by
  constructor
  · intro n hin hshort hwritten dice hpos hle
    have hvalue : n.dice Text.natOfDecimals = dice := by
      unfold dice Dice.Notation.dice
      rw [Json.natOfDecimals_of_isDigit hin.count, Json.natOfDecimals_of_isDigit hin.sides,
        Json.natOfDecimals_of_isDigit hin.added]
    have hread := (Dice.read_of_isWritten (hin.mono fun _ => Text.isDecimal_of_isDigit) hwritten).1
      hshort
    have hstates (k : Nat) : successor^[k + 1] state < modulus := by
      rw [Function.iterate_succ_apply']
      exact successor_lt _
    have hbounds := sum_face_bounds hpos hstates dice.count
    refine ⟨_, ?_, rfl, ?_, ?_⟩
    · rw [roll, hread, hvalue]
      dsimp only
      rw [sumOfDice_linear hpos hle]
      dsimp only
      rw [zero_add, add_comm]
    · rw [add_comm]
      exact Int.add_le_add_left hbounds.1 _
    · rw [add_comm]
      exact Int.add_le_add_right hbounds.2 _
  · intro hnone
    have hread : Dice.read text.toList = .unreadable := by
      by_contra hread
      obtain ⟨n, hin, hwritten⟩ := Dice.exists_of_read hread
      exact hnone n hin hwritten
    rw [roll, hread]

/-- Two dice of six sides with one added, written with blanks around and a capital letter, and a text
that is no notation. -/
theorem rolls_take_a_state_each_two_dice :
    let n : Dice.Notation := ⟨['2'], ['6'], false, ['1']⟩
    let dice := n.dice fun digits => Nat.ofDigitChars 10 digits 0
    n.IsIn Char.isDigit ∧ n.IsShort ∧ n.IsWritten " 2D6+1\n".toList ∧
      1 ≤ dice.sides ∧ dice.sides ≤ 2 ^ 21 ∧
      (∃ sum : Int,
        (linear 1).roll " 2D6+1\n" = (.ok sum, linear (successor^[dice.count] 1)) ∧
        sum = dice.added +
          ∑ k ∈ Finset.range dice.count, (face dice.sides (successor^[k + 1] 1) : Int) ∧
        dice.count + dice.added ≤ sum ∧ sum ≤ dice.count * dice.sides + dice.added) ∧
      (∀ n : Dice.Notation, n.IsIn Text.isDecimal → ¬ n.IsWritten "six".toList) ∧
      (linear 1).roll "six" = (.ok 0, linear 1) := by
  intro n dice
  have hin : n.IsIn Char.isDigit :=
    ⟨List.all_eq_true.1 rfl, List.all_eq_true.1 rfl, List.all_eq_true.1 rfl, by decide⟩
  have hshort : n.IsShort := ⟨by decide, by decide, by decide⟩
  have hwritten : n.IsWritten " 2D6+1\n".toList :=
    @Dice.Notation.IsWritten.mk n [' '] ['\n'] 'D' (.inr rfl) (List.all_eq_true.1 rfl)
      (List.all_eq_true.1 rfl)
  have hpos : 1 ≤ dice.sides := by decide
  have hle : dice.sides ≤ 2 ^ 21 := by decide
  have hnone : ∀ n : Dice.Notation, n.IsIn Text.isDecimal → ¬ n.IsWritten "six".toList :=
    fun _ hin hwritten => (Dice.read_of_isWritten hin hwritten).2 (by decide)
  exact ⟨hin, hshort, hwritten, hpos, hle,
    (rolls_take_a_state_each 1 " 2D6+1\n").1 n hin hshort hwritten hpos hle, hnone,
    (rolls_take_a_state_each 1 "six").2 hnone⟩

end Generator

end Storyworld
