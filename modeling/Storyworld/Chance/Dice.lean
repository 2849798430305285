/-
**Dice.**

A dice notation names how many dice are rolled, how many sides each has, and what is added: `2d6+1`.
The number of dice may be left out and is then one; nothing needs to be added.  Letters of either
case, digits of any script, and blanks around the notation are accepted.

Main definitions:

* `Storyworld.Dice` — a notation that was read;
* `Storyworld.Dice.read` — reading a notation;
* `Storyworld.Generator.roll` — rolling dice by notation; **what is no notation rolls zero**.
-/

import Storyworld.Chance.Generator
import Storyworld.Number.Numeral
import Storyworld.Text.Blank

set_option relaxedAutoImplicit false
set_option autoImplicit false

namespace Storyworld

/-- So many dice with so many sides, and a number that is added. -/
structure Dice where
  count : Nat
  sides : Nat
  added : Int
deriving DecidableEq

namespace Dice

/-- What comes of reading a text as a notation: dice, nothing, or numbers with too many digits. -/
inductive Reading where
  | dice (d : Dice)
  | unreadable
  | tooLong
deriving DecidableEq

/-- The most digits of a number in a notation. -/
def maxDigits : Nat := 4300

/-- The number that is added, with its digits: a sign and at least one digit, or nothing. -/
def added? (cs : List Char) : Option (Bool × List Char × List Char) :=
  match cs with
  | sign :: rest =>
    let (ds, rest') := Numeral.split Text.isDecimal rest
    if (sign = '+' ∨ sign = '-') ∧ ds ≠ [] then some (sign = '-', ds, rest') else none
  | [] => none

/-- Reads a notation. -/
def read (cs : List Char) : Reading :=
  let (count, rest) := Numeral.split Text.isDecimal (cs.dropWhile Text.isBlank)
  match rest with
  | d :: rest =>
    let (sides, rest) := Numeral.split Text.isDecimal rest
    let (negative, added, rest) := (added? rest).getD (false, [], rest)
    if (d = 'd' ∨ d = 'D') ∧ sides ≠ [] ∧ rest.all Text.isBlank then
      if maxDigits < count.length ∨ maxDigits < sides.length ∨ maxDigits < added.length then .tooLong
      else
        let n : Int := Text.natOfDecimals added
        .dice ⟨if count = [] then 1 else Text.natOfDecimals count, Text.natOfDecimals sides,
          if negative then -n else n⟩
    else .unreadable
  | [] => .unreadable

end Dice

namespace Generator

/-- The sum of so many dice, put onto a sum before. -/
def sumOfDice (sides : Nat) : Nat → Int → Generator → Except Fault Int × Generator
  | 0, sum, g => (.ok sum, g)
  | count + 1, sum, g =>
    match g.integer 1 sides with
    | (.ok n, g') => sumOfDice sides count (sum + n) g'
    | (.error f, g') => (.error f, g')

/-- **Rolls dice by notation.**  A scripted generator gives its next roll whatever the notation, and
zero when its rolls are used up. -/
def roll (dice : String) : Generator → Except Fault Int × Generator
  | scripted draws [] => (.ok 0, scripted draws [])
  | scripted draws (r :: rolls) => (.ok r, scripted draws rolls)
  | linear state =>
    match Dice.read dice.toList with
    | .unreadable => (.ok 0, linear state)
    | .tooLong => (.error .badValue, linear state)
    | .dice d =>
      match sumOfDice d.sides d.count 0 (linear state) with
      | (.ok sum, g) => (.ok (sum + d.added), g)
      | (.error f, g) => (.error f, g)

end Generator

end Storyworld
