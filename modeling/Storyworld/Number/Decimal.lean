/-
**Decimals: reading them into the binary format, and the fewest digits that read back.**

A decimal is a natural number of digits times a power of ten.  Reading rounds it once to the
nearest number of the binary format.  Writing goes the other way in two steps: the *selection* of
the fewest digits that lie among the reals which round to the number, and the *layout* of those
digits, whose decisions are the fields of a `Layout` record.

Main definitions:

* `Storyworld.Decimal.toDouble` — the number of the format nearest to a decimal;
* `Storyworld.Decimal.readsBack` — whether a decimal lies among the reals that round to a value;
* `Storyworld.Decimal.shortest` — the first grid of decimals with such a point, and of two points
  on it the nearer;
* `Storyworld.Decimal.Layout` — the decisions of a text format for numbers;
* `Storyworld.Decimal.Layout.render` — the text of a number in a format.
-/

import Storyworld.Number.Double

set_option relaxedAutoImplicit false
set_option autoImplicit false

namespace Storyworld

/-- The decimal `digits * 10 ^ exponent`. -/
structure Decimal where
  digits : Nat
  exponent : Int
deriving DecidableEq

namespace Decimal

/-- The power of ten with a signed exponent. -/
def powerOfTen (e : Int) : Rat := (10 : Rat) ^ e

def toRat (d : Decimal) : Rat := (d.digits : Rat) * powerOfTen d.exponent

/-- The decimal digits of a natural number, the leading one first. -/
def digitChars (n : Nat) : List Char := Nat.toDigits 10 n

/-! ### Reading -/

/-- The number nearest to a decimal, with the given sign.  A decimal whose leading digit stands at
`10 ^ 400` or above is infinite and one below `10 ^ -400` is zero, whatever its digits: both lie
far outside the format, and their powers of ten need not be computed. -/
def toDouble (negative : Bool) (d : Decimal) : Double :=
  if d.digits = 0 then Double.zero negative
  else
    let order : Int := (digitChars d.digits).length + d.exponent
    if 400 < order then .infinite negative
    else if order < -400 then Double.zero negative
    else Double.round (if negative then -d.toRat else d.toRat)

/-! ### Selecting the fewest digits -/

/-- The reals that round to a positive value of the format reach half a quantum to either side,
half as far below a power of two; the ends belong to them when the significand is even. -/
def readsBack (v : Rat) (d : Decimal) : Bool :=
  let q := Double.quantum v
  let unit := Double.powerOfTwo q
  let significand := (v / unit).floor
  let narrowBelow := significand = (Double.fullSignificand : Int) ∧ -1074 < q
  let low := v - (if narrowBelow then unit / 4 else unit / 2)
  let high := v + unit / 2
  let x := d.toRat
  if significand % 2 = 0 then decide (low ≤ x ∧ x ≤ high) else decide (low < x ∧ x < high)

/-- The least `k` with `v < 10 ^ k`, for a positive value of the format.  The decimal logarithm of
two is `0.30103` closely enough for all exponents of the format. -/
def decimalOrder (v : Rat) : Int :=
  let k := Int.fdiv (Double.binaryOrder v * 30103) 100000 + 1
  if v < powerOfTen k then k else k + 1

/-- The point nearest to `v` among its two neighbours on the grid of multiples of `10 ^ e`, if one
of them reads back; a tie goes to the even one. -/
def onGrid? (v : Rat) (e : Int) : Option Decimal :=
  let below := (v / powerOfTen e).floor.toNat
  let lower : Decimal := ⟨below, e⟩
  let upper : Decimal := ⟨below + 1, e⟩
  match readsBack v lower, readsBack v upper with
  | false, false => none
  | true, false => some lower
  | false, true => some upper
  | true, true =>
    let down := v - lower.toRat
    let up := upper.toRat - v
    if down < up then some lower
    else if up < down then some upper
    else if below % 2 = 0 then some lower else some upper

/-- The decimal without the zeros at its end, at most `fuel` of them. -/
def stripZeros : Nat → Decimal → Decimal
  | 0, d => d
  | fuel + 1, d =>
    if d.digits ≠ 0 ∧ d.digits % 10 = 0 then stripZeros fuel ⟨d.digits / 10, d.exponent + 1⟩ else d

/-- **The fewest digits that read back to a positive value of the format**: grids of one, two, …
digits are tried, and seventeen digits always suffice. -/
def shortest (v : Rat) : Decimal :=
  let k := decimalOrder v
  let found := (List.range 17).findSome? fun (n : Nat) => onGrid? v (k - (n : Int) - 1)
  stripZeros 17 (found.getD ⟨(v / powerOfTen (k - 17)).floor.toNat, k - 17⟩)

/-! ### Layout -/

/-- The decisions of a text format for numbers.  A number whose leading digit stands at `10 ^ e` is
written positionally when `plainFrom ≤ e < plainBelow`, and with a signed exponent otherwise. -/
structure Layout where
  /-- the least leading exponent that is written positionally -/
  plainFrom : Int
  /-- the first leading exponent above that is not -/
  plainBelow : Int
  /-- the least number of digits of a written exponent -/
  exponentWidth : Nat
  /-- the text of NaN -/
  nan : String
  /-- the text of the positive infinity -/
  infinity : String
  /-- the text of the negative infinity -/
  negativeInfinity : String

/-- Leading zeros up to a least width. -/
def padded (width : Nat) (cs : List Char) : List Char :=
  List.replicate (width - cs.length) '0' ++ cs

/-- The digits in positional notation, with at least one digit on each side of the point. -/
def plain (cs : List Char) (exponent : Int) : List Char :=
  if 0 ≤ exponent then cs ++ List.replicate exponent.toNat '0' ++ ['.', '0']
  else
    let places := (-exponent).toNat
    if places < cs.length then
      cs.take (cs.length - places) ++ '.' :: cs.drop (cs.length - places)
    else '0' :: '.' :: padded places cs

/-- The digits with one of them before the point, and the exponent of that digit. -/
def scientific (width : Nat) (cs : List Char) (order : Int) : List Char :=
  let mantissa := match cs with
    | [] => []
    | [c] => [c]
    | c :: rest => c :: '.' :: rest
  let sign := if order < 0 then '-' else '+'
  mantissa ++ 'e' :: sign :: padded width (digitChars order.natAbs)

/-- The text of a positive decimal. -/
def Layout.decimal (l : Layout) (d : Decimal) : List Char :=
  let cs := digitChars d.digits
  let order : Int := d.exponent + (cs.length : Int) - 1
  if l.plainFrom ≤ order ∧ order < l.plainBelow then plain cs d.exponent
  else scientific l.exponentWidth cs order

/-- **The text of a number.** -/
def Layout.render (l : Layout) : Double → String
  | .nan => l.nan
  | .infinite negative => if negative then l.negativeInfinity else l.infinity
  | .negativeZero => "-0.0"
  | .finite v =>
    if v = 0 then "0.0"
    else if v < 0 then String.ofList ('-' :: l.decimal (shortest (-v)))
    else String.ofList (l.decimal (shortest v))

end Decimal

end Storyworld
