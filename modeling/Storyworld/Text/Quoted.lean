/-
**Texts between quotes, as messages show them.**

A text stands in single quotes, or in double quotes if it holds a single quote and no double one.
The quote in use and the backslash are written behind a backslash, and so are line feeds, carriage
returns and tabs, with a letter.  Other characters that are not printable are written as numbers of
two, four or eight hexadecimal digits.

Main definitions:

* `Storyworld.Text.quoteFor` — the quote that a text is put in;
* `Storyworld.Text.quotedChars` — the characters of a quoted text.
-/

import Storyworld.Text.Printable

set_option relaxedAutoImplicit false
set_option autoImplicit false

namespace Storyworld.Text

/-- A number in hexadecimal digits, with leading zeros up to a width. -/
def hexPadded (width n : Nat) : List Char :=
  let ds := Nat.toDigits 16 n
  List.replicate (width - ds.length) '0' ++ ds

/-- The quote that a text is put in. -/
def quoteFor (cs : List Char) : Char :=
  if '\'' ∈ cs ∧ '"' ∉ cs then '"' else '\''

/-- The characters that stand for one character between the given quotes. -/
def quotedChar (quote c : Char) : List Char :=
  if c = quote ∨ c = '\\' then ['\\', c]
  else if c = '\n' then ['\\', 'n']
  else if c = '\r' then ['\\', 'r']
  else if c = '\t' then ['\\', 't']
  else if isPrintable c then [c]
  else if c.toNat < 0x100 then '\\' :: 'x' :: hexPadded 2 c.toNat
  else if c.toNat < 0x10000 then '\\' :: 'u' :: hexPadded 4 c.toNat
  else '\\' :: 'U' :: hexPadded 8 c.toNat

/-- The characters of a quoted text. -/
def quotedChars (cs : List Char) : List Char :=
  let quote := quoteFor cs
  quote :: cs.flatMap (quotedChar quote) ++ [quote]

/-- A quoted text. -/
def quoted (s : String) : String := String.ofList (quotedChars s.toList)

end Storyworld.Text
