/-
**Reading single values leniently.**

Where an integer, a number or a truth value is expected, a document may also hold a text that
spells one, or a value of another kind that stands for one exactly.

Main definitions:

* `Storyworld.Schema.integerText`, `Storyworld.Schema.floatText?` — the numbers that texts spell;
* `Storyworld.Schema.readInteger`, `Storyworld.Schema.readFloat`, `Storyworld.Schema.readBoolean` —
  a value of a kind, or in words why there is none.
-/

import Storyworld.Json.Value
import Storyworld.Number.Numeral
import Storyworld.Text.Blank

set_option relaxedAutoImplicit false
set_option autoImplicit false

namespace Storyworld.Schema

/-! ### Integers in texts -/

/-- The digits from one to nine. -/
def isLeadingDigit (c : Char) : Bool := Text.isAsciiDigit c && c != '0'

/-- A text without a plus at its head; none if a minus follows the plus. -/
def withoutPlus? : List Char → Option (List Char)
  | '+' :: '-' :: _ => none
  | '+' :: rest => some rest
  | cs => some cs

/-- A text without the zeros at its head and the underscores among them.  What follows them is
another digit, a minus, or a point, which keeps the character before it; if nothing follows, the
last character stays.  None if the text goes on, or begins, in any other way. -/
def withoutZeros? : List Char → Option (List Char)
  | [] => none
  | c :: rest =>
    if c = '0' then
      let isFiller (c : Char) : Bool := c == '0' || c == '_'
      let last := ((rest.takeWhile isFiller).getLast?).getD '0'
      match rest.dropWhile isFiller with
      | [] => some [last]
      | '.' :: places => some (last :: '.' :: places)
      | d :: more => if isLeadingDigit d ∨ d = '-' then some (d :: more) else none
    else if isLeadingDigit c ∨ c = '-' then some (c :: rest)
    else none

/-- A text without a fraction that consists of zeros. -/
def withoutZeroFraction (cs : List Char) : List Char :=
  let whole := cs.takeWhile (· != '.')
  match cs.dropWhile (· != '.') with
  | '.' :: z :: zs => if (z :: zs).all (· == '0') then whole else cs
  | _ => cs

/-- A text without its single underscores; none if it begins or ends with an underscore, or has two
in a row. -/
def withoutUnderscores? : List Char → Option (List Char)
  | [] => some []
  | '_' :: _ => none
  | c :: '_' :: d :: rest => (withoutUnderscores? (d :: rest)).map (c :: ·)
  | c :: rest => (withoutUnderscores? rest).map (c :: ·)

/-- What a text spells where an integer is expected. -/
inductive IntegerText where
  | value (n : Int)
  | tooLong
  | malformed
deriving DecidableEq

/-- The most characters of an integer in a text, its minus included. -/
def maxTextDigits : Nat := 4300

/-- The integer that a text spells in plain notation: digits of which the first is no zero unless
it is the only one, perhaps behind a minus.  Too many digits are noticed before what follows
them. -/
def plainInteger (cs : List Char) : IntegerText :=
  let negative := cs.head? == some '-'
  let (ds, rest) := Numeral.split Text.isAsciiDigit (if negative then cs.drop 1 else cs)
  let size := ds.length + if negative then 1 else 0
  if ds = ['0'] ∧ rest = [] then .value 0
  else if ds.isEmpty ∨ ds.head? = some '0' then .malformed
  else if maxTextDigits < size then .tooLong
  else if rest = [] then
    let n : Int := Text.natOfDecimals ds
    .value (if negative then -n else n)
  else .malformed

/-- **The integer that a text spells.**  White space around it, a plus, zeros at its head, a fraction
of zeros and single underscores do not matter. -/
def integerText (s : String) : IntegerText :=
  match (withoutPlus? (Text.trimList Text.isWhiteSpace s.toList)).bind withoutZeros? with
  | none => .malformed
  | some cs =>
    let cs := withoutZeroFraction cs
    plainInteger ((withoutUnderscores? cs).getD cs)

/-! ### Floating-point numbers in texts -/

/-- ASCII capitals as small letters. -/
def lowered (cs : List Char) : List Char := cs.map Char.toLower

/-- The floating-point number that a text spells in plain notation: decimal notation, or a word for
infinity or NaN in letters of either case, with an optional sign. -/
def plainFloat? (cs : List Char) : Option Double :=
  let (negative, word) := Numeral.sign cs
  if lowered word = "inf".toList ∨ lowered word = "infinity".toList then some (.infinite negative)
  else if lowered word = "nan".toList then some .nan
  else (Numeral.read? Text.isAsciiDigit cs).map fun (negative, d) => d.toDouble negative

/-- **The floating-point number that a text spells**: plain notation, either with white space around
it or with single underscores in it. -/
def floatText? (s : String) : Option Double :=
  plainFloat? (Text.trimList Text.isWhiteSpace s.toList) <|>
    (withoutUnderscores? s.toList).bind plainFloat?

/-! ### Values of a kind -/

/-- The least power of two beyond the integers that a floating-point number may stand for. -/
def wordLimit : Rat := 9223372036854775808

/-- Reads an integer. -/
def readInteger : Json → Except String Int
  | .int n => .ok n
  | .bool b => .ok (if b then 1 else 0)
  | .float x =>
    match x.toRat? with
    | none => .error "Input should be a finite number"
    | some v =>
      if v.den ≠ 1 then
        .error "Input should be a valid integer, got a number with a fractional part"
      else if wordLimit ≤ v.abs then
        .error "Unable to parse input string as an integer, exceeded maximum size"
      else .ok v.num
  | .str s =>
    match integerText s with
    | .value n => .ok n
    | .tooLong => .error "Unable to parse input string as an integer, exceeded maximum size"
    | .malformed => .error "Input should be a valid integer, unable to parse string as an integer"
  | _ => .error "Input should be a valid integer"

/-- Reads a floating-point number from a value that is none. -/
def readFloat : Json → Except String Double
  | .float x => .ok x
  | .str s =>
    match floatText? s with
    | some x => .ok x
    | none => .error "Input should be a valid number, unable to parse string as a number"
  | _ => .error "Input should be a valid number"

/-- The texts that spell a truth value, in small letters. -/
def booleanTexts : List (String × Bool) :=
  [("0", false), ("off", false), ("f", false), ("false", false), ("n", false), ("no", false),
   ("1", true), ("on", true), ("t", true), ("true", true), ("y", true), ("yes", true)]

/-- The words for a value that might have been a truth value. -/
def uninterpreted : String := "Input should be a valid boolean, unable to interpret input"

/-- Reads a truth value. -/
def readBoolean : Json → Except String Bool
  | .bool b => .ok b
  | .int n =>
    if n = 0 then .ok false
    else if n = 1 then .ok true
    else if -9223372036854775808 ≤ n ∧ n < 9223372036854775808 then .error uninterpreted
    else .error "Input should be a valid boolean"
  | .float x =>
    match x.toRat? with
    | none => .error "Input should be a valid boolean"
    | some v =>
      if v = 0 then .ok false
      else if v = 1 then .ok true
      else if v.den = 1 ∧ v.abs < wordLimit then .error uninterpreted
      else .error "Input should be a valid boolean"
  | .str s =>
    match Table.get? booleanTexts (String.ofList (lowered s.toList)) with
    | some b => .ok b
    | none => .error uninterpreted
  | _ => .error "Input should be a valid boolean"

end Storyworld.Schema
