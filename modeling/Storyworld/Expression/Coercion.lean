/-
**Values in expressions and conditions: as numbers, as truth values, and as equals.**

An ordering comparison turns both sides into floating-point numbers.  Equality turns nothing into
anything: only numbers of different kinds can be equal to each other, and two lists or tables are
never equal unless they are one and the same, which is for the caller to know.

Main definitions:

* `Storyworld.Coercion.textNumber` — the number that a text counts as;
* `Storyworld.Coercion.toNumber?` — the number that a value counts as, none where an integer is too
  large;
* `Storyworld.Coercion.truthy` — whether a value counts as true;
* `Storyworld.Coercion.strictEquals` — equality without coercion.
-/

import Storyworld.Json.Value
import Storyworld.Number.Numeral
import Storyworld.Text.Blank

set_option relaxedAutoImplicit false
set_option autoImplicit false

namespace Storyworld.Coercion

/-- The number that a text counts as.  Blanks around it do not matter; an empty text is zero,
`Infinity` is infinite with or without a sign, decimal notation may use the digits of any script,
and any other text is no number. -/
def textNumber (s : String) : Double :=
  let cs := Text.trimList Text.isBlank s.toList
  if cs.isEmpty then .finite 0
  else if cs = "Infinity".toList ∨ cs = "+Infinity".toList then .infinite false
  else if cs = "-Infinity".toList then .infinite true
  else
    match Numeral.read? Text.isDecimal cs with
    | some (negative, d) => d.toDouble negative
    | none => .nan

/-- The number that a value counts as; none for an integer beyond the format.  A list counts as its
only item, and as zero when it is empty.  Lists around one another are all gone through, so how deep
this goes is bounded by the value's `Json.nesting` and by nothing else. -/
def toNumber? : Json → Option Double
  | .null => some (.finite 0)
  | .bool b => some (.finite (if b then 1 else 0))
  | .int n => Double.ofInt? n
  | .float x => some x
  | .str s => some (textNumber s)
  | .arr [] => some (.finite 0)
  | .arr [v] => toNumber? v
  | .arr (_ :: _ :: _) => some .nan
  | .obj _ => some .nan

/-- Whether a value counts as true.  Lists and tables do, even empty ones; null, NaN, zero, false
and the empty text do not. -/
def truthy : Json → Bool
  | .null => false
  | .bool b => b
  | .int n => n != 0
  | .float x => !(x.isNaN || x.isZero)
  | .str s => s != ""
  | .arr _ => true
  | .obj _ => true

/-- **Equality without coercion** of values that are no list and no table. -/
def strictEquals : Json → Json → Bool
  | .null, .null => true
  | .bool a, .bool b => a == b
  | .str s, .str t => s == t
  | x, y =>
    match x.number?, y.number? with
    | some a, some b => a.same b
    | _, _ => false

/-- A variable changed by an amount: numbers are added, texts are joined, and any other amount
takes the place of the value.  None where an integer is too large for a floating-point sum. -/
def combine? (current amount : Json) : Option Json :=
  match current.number?, amount.number? with
  | some a, some b => (a.add? b).map Json.ofNumber
  | _, _ =>
    match current, amount with
    | .str s, .str t => some (.str (s ++ t))
    | _, _ => some amount

end Storyworld.Coercion
