/-
**Binary floating-point numbers, computed exactly and rounded once.**

A number of the 64-bit binary format is NaN, an infinity, the negative zero, or a rational that
the format can hold.  Every operation is the exact operation on rationals followed by one
rounding: to the nearest number of the format, a tie to the neighbour with the even significand.
Nothing here uses the machine's own floating-point unit, so each operation can be reasoned about
as arithmetic on rationals.

Main definitions:

* `Storyworld.Double` — the numbers of the format;
* `Storyworld.Double.quantum` — the exponent of the last binary digit that is kept near a value;
* `Storyworld.Double.round` — the number nearest to a rational;
* `Storyworld.Double.add`, `Storyworld.Double.mul` — the exact result, rounded;
* `Storyworld.Double.order?` — the order of two numbers, none where NaN takes part;
* `Storyworld.Double.toBits` — the 64 bits of a number.
-/

set_option relaxedAutoImplicit false
set_option autoImplicit false

namespace Storyworld

/-- A number of the 64-bit binary format.  The positive zero is the rational zero. -/
inductive Double where
  | nan
  | infinite (negative : Bool)
  | negativeZero
  | finite (value : Rat)
deriving DecidableEq

namespace Double

/-! ### Rounding -/

/-- The power of two with a signed exponent. -/
def powerOfTwo (e : Int) : Rat := (2 : Rat) ^ e

/-- The exponent of the leading binary digit of a positive value: `2 ^ e ≤ v < 2 ^ (e + 1)`. -/
def binaryOrder (v : Rat) : Int :=
  let e : Int := (v.num.natAbs.log2 : Int) - (v.den.log2 : Int)
  if v < powerOfTwo e then e - 1 else e

/-- The exponent of the last binary digit kept near a positive value: 53 digits are kept, and none
below `2 ^ -1074`. -/
def quantum (v : Rat) : Int := max (binaryOrder v - 52) (-1074)

/-- The nearest integer, a half going to the even neighbour. -/
def nearestInt (v : Rat) : Int :=
  let f := v.floor
  let rest := v - (f : Rat)
  if rest < 1 / 2 then f
  else if 1 / 2 < rest then f + 1
  else if f % 2 = 0 then f else f + 1

/-- The multiple of the quantum nearest to a positive value. -/
def nearest (v : Rat) : Rat :=
  let unit := powerOfTwo (quantum v)
  (nearestInt (v / unit) : Rat) * unit

/-- The least power of two that is too large for the format. -/
def limit : Rat := powerOfTwo 1024

/-- **The number of the format nearest to a rational.**  A value that rounds to `2 ^ 1024` or more
is infinite; a negative value that rounds to zero keeps its sign. -/
def round (v : Rat) : Double :=
  if v = 0 then finite 0
  else
    let magnitude := nearest v.abs
    if limit ≤ magnitude then infinite (decide (v < 0))
    else if magnitude = 0 then (if v < 0 then negativeZero else finite 0)
    else finite (if v < 0 then -magnitude else magnitude)

/-! ### Conversions -/

/-- The zero of the given sign. -/
def zero (negative : Bool) : Double := if negative then negativeZero else finite 0

/-- The rational that a finite number stands for. -/
def toRat? : Double → Option Rat
  | finite v => some v
  | negativeZero => some 0
  | nan => none
  | infinite _ => none

/-- The number nearest to an integer; none when the integer is too large for the format. -/
def ofInt? (n : Int) : Option Double :=
  match round (n : Rat) with
  | infinite _ => none
  | x => some x

/-- The integer part, taken toward zero. -/
def truncate? (x : Double) : Option Int :=
  x.toRat?.map fun v => if v < 0 then -((-v).floor) else v.floor

def isNaN : Double → Bool
  | nan => true
  | _ => false

/-- Whether the sign is negative. -/
def isNegative : Double → Bool
  | nan => false
  | infinite negative => negative
  | negativeZero => true
  | finite v => decide (v < 0)

/-- Whether the number is a zero of either sign. -/
def isZero (x : Double) : Bool := x.toRat? == some 0

/-! ### Arithmetic -/

/-- The sum, rounded once.  Two negative zeros keep their sign; any other exact zero is positive. -/
def add : Double → Double → Double
  | nan, _ => nan
  | _, nan => nan
  | infinite a, infinite b => if a = b then infinite a else nan
  | infinite a, _ => infinite a
  | _, infinite b => infinite b
  | negativeZero, negativeZero => negativeZero
  | negativeZero, finite w => round w
  | finite v, negativeZero => round v
  | finite v, finite w => round (v + w)

/-- The number with the opposite sign. -/
def neg : Double → Double
  | nan => nan
  | infinite a => infinite (!a)
  | negativeZero => finite 0
  | finite v => if v = 0 then negativeZero else finite (-v)

/-- The difference, rounded once. -/
def sub (x y : Double) : Double := add x (neg y)

/-- The product, rounded once.  Its sign is that of the operands, also where it is zero. -/
def mul (x y : Double) : Double :=
  let negative := x.isNegative != y.isNegative
  match x, y with
  | nan, _ => nan
  | _, nan => nan
  | infinite _, y => if y.isZero then nan else infinite negative
  | x, infinite _ => if x.isZero then nan else infinite negative
  | x, y =>
    match x.toRat?, y.toRat? with
    | some v, some w => if v * w = 0 then zero negative else round (v * w)
    | _, _ => nan

/-! ### Order -/

/-- The order of two numbers; NaN has no order, and the two zeros are equal. -/
def order? : Double → Double → Option Ordering
  | nan, _ => none
  | _, nan => none
  | infinite a, infinite b => some (if a = b then .eq else if a then .lt else .gt)
  | infinite a, _ => some (if a then .lt else .gt)
  | _, infinite b => some (if b then .gt else .lt)
  | x, y =>
    match x.toRat?, y.toRat? with
    | some v, some w => some (if v < w then .lt else if v = w then .eq else .gt)
    | _, _ => none

def lt (x y : Double) : Bool := order? x y == some .lt

def le (x y : Double) : Bool := order? x y == some .lt || order? x y == some .eq

/-- Equality of values: the two zeros are equal, NaN equals nothing. -/
def same (x y : Double) : Bool := order? x y == some .eq

/-! ### Bits -/

/-- The least significand of a number with all its bits, `2 ^ 52`. -/
def fullSignificand : Nat := 4503599627370496

/-- The bit for the sign, `2 ^ 63`. -/
def signBit : Nat := 9223372036854775808

/-- **The 64 bits of a number**: sign, eleven bits of exponent, 52 bits of significand. -/
def toBits : Double → Nat
  | nan => 0x7FF8000000000000
  | infinite negative => if negative then 0xFFF0000000000000 else 0x7FF0000000000000
  | negativeZero => 0x8000000000000000
  | finite v =>
    if v = 0 then 0
    else
      let q := quantum v.abs
      let significand := (v.abs / powerOfTwo q).floor.toNat
      let exponent := if significand < fullSignificand then 0 else (q + 1075).toNat
      (if v < 0 then signBit else 0) + exponent * fullSignificand
        + (if significand < fullSignificand then significand else significand - fullSignificand)

end Double

end Storyworld
