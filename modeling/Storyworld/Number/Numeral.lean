/-
**Decimal notation in texts.**

A numeral is an optional sign, digits with at most one point among them or at either end, and an
optional exponent: a mark, an optional sign and at least one digit.  There is at least one digit
before the exponent.  Which characters are digits is for the reader of the text to say.

Main definitions:

* `Storyworld.Numeral.split` — the characters of a class at the head of a text, and the rest;
* `Storyworld.Numeral.grouped?` — the digits of a text with underscores between digits;
* `Storyworld.Numeral.read?` — the number that a whole text spells.
-/

import Storyworld.Number.Decimal
import Storyworld.Text.Digit

set_option relaxedAutoImplicit false
set_option autoImplicit false

namespace Storyworld.Numeral

/-- The characters of a class at the head of a text, and the rest. -/
def split (digit : Char → Bool) (cs : List Char) : List Char × List Char :=
  (cs.takeWhile digit, cs.dropWhile digit)

/-- The digits of a text in which single underscores may stand between digits; none if the text is
anything else. -/
def grouped? (digit : Char → Bool) : List Char → Option (List Char)
  | [] => none
  | [c] => if digit c then some [c] else none
  | c :: '_' :: rest => if digit c then (grouped? digit rest).map (c :: ·) else none
  | c :: d :: rest => if digit c then (grouped? digit (d :: rest)).map (c :: ·) else none

/-- An optional sign: whether it is a minus, and the rest. -/
def sign (cs : List Char) : Bool × List Char :=
  match cs with
  | '-' :: rest => (true, rest)
  | '+' :: rest => (false, rest)
  | _ => (false, cs)

/-- The value of an exponent that takes up a whole text; no text is no exponent. -/
def exponent? (digit : Char → Bool) (cs : List Char) : Option Int :=
  match cs with
  | [] => some 0
  | mark :: rest =>
    let (negative, rest) := sign rest
    if (mark = 'e' ∨ mark = 'E') ∧ rest ≠ [] ∧ rest.all digit then
      let n : Int := Text.natOfDecimals rest
      some (if negative then -n else n)
    else none

/-- **The number that a whole text spells**: its sign, and a decimal. -/
def read? (digit : Char → Bool) (cs : List Char) : Option (Bool × Decimal) :=
  let (negative, rest) := sign cs
  let (whole, rest) := split digit rest
  let (places, rest) := match rest with
    | '.' :: rest => split digit rest
    | _ => ([], rest)
  if whole.isEmpty && places.isEmpty then none
  else (exponent? digit rest).map fun e =>
    (negative, ⟨Text.natOfDecimals (whole ++ places), e - (places.length : Int)⟩)

end Storyworld.Numeral
