/-
**Blank characters.**

Two sets of blanks are in use.  The Unicode property White_Space has 25 characters; text typed by
a player or written in a story is also trimmed of the four information separators.

Main definitions:

* `Storyworld.Text.isWhiteSpace` — the Unicode property;
* `Storyworld.Text.isBlank` — the property and the information separators;
* `Storyworld.Text.trimList` — a text without the characters of a class at both ends.
-/

set_option relaxedAutoImplicit false
set_option autoImplicit false

namespace Storyworld.Text

/-- Whether a code point lies in one of the closed ranges. -/
def inRanges (ranges : List (Nat × Nat)) (n : Nat) : Bool :=
  ranges.any fun r => decide (r.1 ≤ n ∧ n ≤ r.2)

/-- The Unicode property White_Space as closed ranges of code points, ascending and apart. -/
def whiteSpaceRanges : List (Nat × Nat) :=
  [(0x09, 0x0D), (0x20, 0x20), (0x85, 0x85), (0xA0, 0xA0), (0x1680, 0x1680), (0x2000, 0x200A),
   (0x2028, 0x2029), (0x202F, 0x202F), (0x205F, 0x205F), (0x3000, 0x3000)]

/-- The Unicode property White_Space. -/
def isWhiteSpace (c : Char) : Bool := inRanges whiteSpaceRanges c.toNat

/-- White space and the four information separators. -/
def isBlank (c : Char) : Bool := isWhiteSpace c || inRanges [(0x1C, 0x1F)] c.toNat

/-- A text without the characters of a class at both ends. -/
def trimList (blank : Char → Bool) (cs : List Char) : List Char :=
  ((cs.dropWhile blank).reverse.dropWhile blank).reverse

end Storyworld.Text
