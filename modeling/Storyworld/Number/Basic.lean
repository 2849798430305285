/-
**Numbers of a story: integers of any size, and binary floating-point numbers.**

Both kinds stand side by side in stats, weights and variables.  Their order is exact: an integer is
never rounded in order to be compared.  A sum of two kinds is a floating-point sum, and fails when
the integer is too large to be one.

Main definitions:

* `Storyworld.Number` — an integer or a floating-point number;
* `Storyworld.Number.order?` — the exact order, none where NaN takes part;
* `Storyworld.Number.add?` — the sum;
* `Storyworld.Number.clamp` — a number held between two optional bounds.
-/

import Storyworld.Number.Double

set_option relaxedAutoImplicit false
set_option autoImplicit false

namespace Storyworld

/-- An integer or a floating-point number; `1` and `1.0` are different numbers of equal value. -/
inductive Number where
  | int (n : Int)
  | float (x : Double)
deriving DecidableEq

namespace Number

/-- The point of the extended line at which a number stands.  The order of two such points looks
at exact values only, so an integer stands at its own value even where the format cannot hold
it. -/
def point : Number → Double
  | int n => .finite (n : Rat)
  | float x => x

/-- **The exact order of two numbers**; NaN has none. -/
def order? : Number → Number → Option Ordering
  | int a, int b => some (if a < b then .lt else if a = b then .eq else .gt)
  | x, y => Double.order? x.point y.point

def lt (x y : Number) : Bool := order? x y == some .lt

def le (x y : Number) : Bool := order? x y == some .lt || order? x y == some .eq

/-- Equality of values, whatever the kinds. -/
def same (x y : Number) : Bool := order? x y == some .eq

/-- The floating-point number nearest to a number; none for an integer beyond the format. -/
def toDouble? : Number → Option Double
  | int n => Double.ofInt? n
  | float x => some x

/-- The sum.  Integers are added exactly; otherwise both become floating-point numbers first, which
fails for an integer beyond the format. -/
def add? : Number → Number → Option Number
  | int a, int b => some (int (a + b))
  | x, y => do
    let a ← x.toDouble?
    let b ← y.toDouble?
    pure (float (a.add b))

/-- Raises a value to a lower bound.  The bound itself is the result unless the value is above
it, so a tie and NaN both give the bound. -/
def atLeast (bound value : Number) : Number := if bound.lt value then value else bound

/-- Lowers a value to an upper bound.  The bound itself is the result unless the value is below
it. -/
def atMost (bound value : Number) : Number := if value.lt bound then value else bound

/-- A value held between two optional bounds, the lower one first. -/
def clamp (value : Number) (low high : Option Number) : Number :=
  let raised := match low with
    | some bound => atLeast bound value
    | none => value
  match high with
  | some bound => atMost bound raised
  | none => raised

/-- Whether a number is NaN. -/
def isNaN : Number → Bool
  | int _ => false
  | float x => x.isNaN

end Number

end Storyworld
