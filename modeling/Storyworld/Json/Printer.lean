/-
**Writing a document as text.**

A document is written either in one line, or with two spaces of indentation for each level, one
item or field a line, and empty lists and tables closed at once.  Only quotes, backslashes and
control characters are escaped.  NaN and the infinities are written as null.

Main definitions:

* `Storyworld.Json.quote` — a text between quotes;
* `Storyworld.Json.savedNumber` — the layout of floating-point numbers;
* `Storyworld.Json.pretty` — the indented form;
* `Storyworld.Json.compact` — the form in one line.
-/

import Storyworld.Json.Value
import Storyworld.Number.Decimal

set_option relaxedAutoImplicit false
set_option autoImplicit false

namespace Storyworld.Json

/-! ### Texts and numbers -/

/-- A digit of a hexadecimal number below sixteen. -/
def hexDigit (n : Nat) : Char :=
  if n < 10 then Char.ofNat ('0'.toNat + n) else Char.ofNat ('a'.toNat + (n - 10))

/-- The characters that stand for one character between quotes. -/
def escape (c : Char) : List Char :=
  if c = '"' then ['\\', '"']
  else if c = '\\' then ['\\', '\\']
  else if c = '\x08' then ['\\', 'b']
  else if c = '\x0c' then ['\\', 'f']
  else if c = '\n' then ['\\', 'n']
  else if c = '\r' then ['\\', 'r']
  else if c = '\t' then ['\\', 't']
  else if c.toNat < 0x20 then
    ['\\', 'u', '0', '0', hexDigit (c.toNat / 16), hexDigit (c.toNat % 16)]
  else [c]

/-- The characters of a text between quotes. -/
def quoteChars (s : String) : List Char := '"' :: s.toList.flatMap escape ++ ['"']

/-- A text between quotes. -/
def quote (s : String) : String := String.ofList (quoteChars s)

/-- Numbers are written positionally from `0.00001` up to below `1e+16`, with the fewest digits that
read back. -/
def savedNumber : Decimal.Layout where
  plainFrom := -5
  plainBelow := 16
  exponentWidth := 1
  nan := "null"
  infinity := "null"
  negativeInfinity := "null"

/-- The characters of an integer. -/
def integerChars (n : Int) : List Char :=
  if n < 0 then '-' :: Decimal.digitChars n.natAbs else Decimal.digitChars n.natAbs

/-! ### The indented form -/

/-- A line end and the indentation of a level. -/
def newline (level : Nat) : List Char := '\n' :: List.replicate (2 * level) ' '

mutual

/-- The characters of a document whose first line starts at the given level. -/
def prettyChars (level : Nat) : Json → List Char
  | null => "null".toList
  | bool b => (if b then "true" else "false").toList
  | int n => integerChars n
  | float x => (savedNumber.render x).toList
  | str s => quoteChars s
  | arr [] => ['[', ']']
  | arr (v :: vs) =>
    '[' :: newline (level + 1) ++ prettyChars (level + 1) v ++ prettyItems (level + 1) vs
      ++ newline level ++ [']']
  | obj [] => ['\x7b', '\x7d']
  | obj ((k, v) :: fields) =>
    '\x7b' :: newline (level + 1) ++ quoteChars k ++ ':' :: ' ' :: prettyChars (level + 1) v
      ++ prettyFields (level + 1) fields ++ newline level ++ ['\x7d']

/-- Further items, each behind a comma and on a line of its own. -/
def prettyItems (level : Nat) : List Json → List Char
  | [] => []
  | v :: vs => ',' :: newline level ++ prettyChars level v ++ prettyItems level vs

/-- Further fields, each behind a comma and on a line of its own. -/
def prettyFields (level : Nat) : List (String × Json) → List Char
  | [] => []
  | (k, v) :: fields =>
    ',' :: newline level ++ quoteChars k ++ ':' :: ' ' :: prettyChars level v
      ++ prettyFields level fields

end

/-- **The indented form of a document.** -/
def pretty (j : Json) : String := String.ofList (prettyChars 0 j)

/-! ### The form in one line -/

mutual

/-- The form of a document in one line, put behind the characters before it. -/
def compactOnto (before : String) : Json → String
  | null => before ++ "null"
  | bool b => before ++ (if b then "true" else "false")
  | int n => before ++ String.ofList (integerChars n)
  | float x => before ++ savedNumber.render x
  | str s => before ++ quote s
  | arr items => compactItems (before ++ "[") "" items ++ "]"
  | obj fields => compactFields (before ++ "\x7b") "" fields ++ "\x7d"

/-- Items, each behind a separator; all but the first are separated by a comma. -/
def compactItems (before separator : String) : List Json → String
  | [] => before
  | v :: vs => compactItems (compactOnto (before ++ separator) v) "," vs

/-- Fields, each behind a separator; all but the first are separated by a comma. -/
def compactFields (before separator : String) : List (String × Json) → String
  | [] => before
  | (k, v) :: fields =>
    compactFields (compactOnto (before ++ separator ++ quote k ++ ":") v) "," fields

end

/-- The form of a document in one line. -/
def compact (j : Json) : String := compactOnto "" j

end Storyworld.Json
