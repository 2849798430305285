/-
**Documents as messages show them.**

Messages write texts between quotes, truth values as `True` and `False`, null as `None`, lists in
brackets, and tables in braces with their names quoted.

Main definitions:

* `Storyworld.Json.shownNumber` — the layout of floating-point numbers in messages;
* `Storyworld.Json.display` — a document in a message;
* `Storyworld.Json.plain` — the same, but a text stands for itself.
-/

import Storyworld.Json.Printer
import Storyworld.Text.Quoted

set_option relaxedAutoImplicit false
set_option autoImplicit false

namespace Storyworld.Json

/-- Numbers are shown positionally from `0.0001` up to below `1e+16`, exponents with two digits at
least. -/
def shownNumber : Decimal.Layout where
  plainFrom := -4
  plainBelow := 16
  exponentWidth := 2
  nan := "nan"
  infinity := "inf"
  negativeInfinity := "-inf"

mutual

/-- A document in a message. -/
def display : Json → String
  | null => "None"
  | bool b => if b then "True" else "False"
  | int n => String.ofList (integerChars n)
  | float x => shownNumber.render x
  | str s => Text.quoted s
  | arr items => "[" ++ ", ".intercalate (displayItems items) ++ "]"
  | obj fields => "\x7b" ++ ", ".intercalate (displayFields fields) ++ "\x7d"

/-- The items of a list. -/
def displayItems : List Json → List String
  | [] => []
  | v :: vs => display v :: displayItems vs

/-- The fields of a table. -/
def displayFields : List (String × Json) → List String
  | [] => []
  | (k, v) :: fields => (Text.quoted k ++ ": " ++ display v) :: displayFields fields

end

/-- A document in a message, where a text stands for itself. -/
def plain : Json → String
  | str s => s
  | j => display j

end Storyworld.Json
