/-
**Reading a document from text.**

The reader takes the usual notation, with three additions: `NaN`, `Infinity` and `-Infinity` are
numbers.  A repeated field name keeps its first place and its last value.  The first fault in the
text is reported with its position.

Lists and tables may stand inside one another to a limit, beyond which reading is given up.  A text
is made of characters, and half of a pair of units is none: where a half stands alone in a string,
the replacement character is read in its place.

Main definitions:

* `Storyworld.Json.ReadFault` — what is wrong with a text, and where;
* `Storyworld.Json.ReadFault.message` — the fault in words;
* `Storyworld.Json.read` — the document that a text spells.

Positions inside the reader count the characters that are still unread; `read` turns them into
distances from the start.
-/

import Storyworld.Json.Value
import Storyworld.Number.Decimal
import Storyworld.Text.Digit

set_option relaxedAutoImplicit false
set_option autoImplicit false

namespace Storyworld.Json

/-! ### Faults -/

/-- What was found wrong at a position. -/
inductive Complaint where
  | expectingValue
  | expectingName
  | expectingColon
  | expectingComma
  | extraData
  | unterminatedString
  | controlCharacter
  | badEscape
  | badUnicodeEscape
  | byteOrderMark
deriving DecidableEq

/-- The words of a complaint. -/
def Complaint.message : Complaint → String
  | expectingValue => "Expecting value"
  | expectingName => "Expecting property name enclosed in double quotes"
  | expectingColon => "Expecting ':' delimiter"
  | expectingComma => "Expecting ',' delimiter"
  | extraData => "Extra data"
  | unterminatedString => "Unterminated string starting at"
  | controlCharacter => "Invalid control character at"
  | badEscape => "Invalid \\escape"
  | badUnicodeEscape => "Invalid \\uXXXX escape"
  | byteOrderMark => "Unexpected UTF-8 BOM (decode using utf-8-sig)"

/-- Why a text is no document: it breaks the notation at some place, it holds an integer with more
digits than are read, or its lists and tables stand too deep inside one another. -/
inductive ReadFault where
  | malformed (complaint : Complaint) (position line column : Nat)
  | tooManyDigits (digits : Nat)
  | tooDeep
deriving DecidableEq

/-- The most digits that an integer in a text may have. -/
def maxDigits : Nat := 4300

/-- How many lists and tables in a text may stand inside one another: as many as a stack of a
thousand frames has room for, beside those that are in use when reading begins. -/
def maxNesting : Nat := 980

/-- The words for an integer with too many digits. -/
def tooManyDigitsMessage (digits : Nat) : String :=
  s!"Exceeds the limit ({maxDigits} digits) for integer string conversion: value has {digits} " ++
    "digits; use sys.set_int_max_str_digits() to increase the limit"

/-- The fault in words, with line, column and position. -/
def ReadFault.message : ReadFault → String
  | malformed complaint position line column =>
    s!"{complaint.message}: line {line} column {column} (char {position})"
  | tooManyDigits digits => tooManyDigitsMessage digits
  | tooDeep => "maximum recursion depth exceeded"

namespace Reader

/-- A fault inside the reader: a complaint with the number of characters unread, an integer with too
many digits, or a list or table too deep inside others. -/
inductive Stop where
  | complaint (complaint : Complaint) (unread : Nat)
  | tooManyDigits (digits : Nat)
  | tooDeep
deriving DecidableEq

/-- Stops at the head of the given rest of the text. -/
def stopAt {α : Type} (c : Complaint) (rest : List Char) : Except Stop α :=
  .error (.complaint c rest.length)

/-! ### Strings -/

/-- The value of a hexadecimal digit. -/
def hexValue? (c : Char) : Option Nat :=
  if '0' ≤ c ∧ c ≤ '9' then some (c.toNat - '0'.toNat)
  else if 'a' ≤ c ∧ c ≤ 'f' then some (c.toNat - 'a'.toNat + 10)
  else if 'A' ≤ c ∧ c ≤ 'F' then some (c.toNat - 'A'.toNat + 10)
  else none

/-- The character that a one-letter escape stands for. -/
def escaped? : Char → Option Char
  | '"' => some '"'
  | '\\' => some '\\'
  | '/' => some '/'
  | 'b' => some '\x08'
  | 'f' => some '\x0c'
  | 'n' => some '\n'
  | 'r' => some '\r'
  | 't' => some '\t'
  | _ => none

/-- Where the scan of a string stands: between characters, behind a backslash, or among the four
digits of a numbered character.  The two last remember the place to complain about. -/
inductive StringMode where
  | plain
  | escape (place : Nat)
  | numbered (place left value : Nat)

/-- Characters of a string, the last one first.  The first half of a pair of units waits for the
second; a half that stays alone is replaced. -/
structure StringSoFar where
  reversed : List Char
  waiting : Option Nat

def replacement : Char := '\ufffd'

def StringSoFar.settled (s : StringSoFar) : List Char :=
  if s.waiting.isSome then replacement :: s.reversed else s.reversed

def StringSoFar.push (s : StringSoFar) (c : Char) : StringSoFar := ⟨c :: s.settled, none⟩

/-- Adds a numbered character: two halves of a pair are joined. -/
def StringSoFar.pushUnit (s : StringSoFar) (unit : Nat) : StringSoFar :=
  if 0xDC00 ≤ unit ∧ unit < 0xE000 then
    match s.waiting with
    | some high => ⟨Char.ofNat (0x10000 + (high - 0xD800) * 0x400 + (unit - 0xDC00)) :: s.reversed, none⟩
    | none => s.push replacement
  else if 0xD800 ≤ unit ∧ unit < 0xDC00 then ⟨s.settled, some unit⟩
  else s.push (Char.ofNat unit)

/-- Reads a string behind its opening quote, up to its closing one.  `opening` is the place of the
opening quote. -/
def scanString (opening : Nat) :
    List Char → StringMode → StringSoFar → Except Stop (String × List Char)
  | [], .numbered place _ _, _ => .error (.complaint .badUnicodeEscape place)
  | [], _, _ => .error (.complaint .unterminatedString opening)
  | c :: rest, .plain, s =>
    if c = '"' then .ok (String.ofList s.settled.reverse, rest)
    else if c = '\\' then scanString opening rest (.escape (rest.length + 1)) s
    else if c.toNat < 0x20 then stopAt .controlCharacter (c :: rest)
    else scanString opening rest .plain (s.push c)
  | c :: rest, .escape place, s =>
    if c = 'u' then scanString opening rest (.numbered (rest.length + 1) 4 0) s
    else
      match escaped? c with
      | some d => scanString opening rest .plain (s.push d)
      | none => .error (.complaint .badEscape place)
  | c :: rest, .numbered place left value, s =>
    match hexValue? c with
    | none => .error (.complaint .badUnicodeEscape place)
    | some d =>
      if left ≤ 1 then
        if rest.isEmpty then .error (.complaint .badUnicodeEscape place)
        else scanString opening rest .plain (s.pushUnit (value * 16 + d))
      else scanString opening rest (.numbered place (left - 1) (value * 16 + d)) s

/-- Reads a string behind its opening quote. -/
def string (rest : List Char) : Except Stop (String × List Char) :=
  scanString (rest.length + 1) rest .plain ⟨[], none⟩

/-! ### Numbers -/

/-- The digits at the head of a text, and the rest. -/
def digits (cs : List Char) : List Char × List Char :=
  (cs.takeWhile Text.isAsciiDigit, cs.dropWhile Text.isAsciiDigit)

/-- The digits of a fraction, if a point with a digit behind it stands at the head. -/
def fraction (cs : List Char) : List Char × List Char :=
  match cs with
  | '.' :: rest => if (digits rest).1.isEmpty then ([], cs) else digits rest
  | _ => ([], cs)

/-- The exponent, if a mark with digits behind it stands at the head. -/
def exponent? (cs : List Char) : Option Int × List Char :=
  let signed (negative : Bool) (rest : List Char) : Option Int × List Char :=
    if (digits rest).1.isEmpty then (none, cs)
    else
      let n : Int := Text.natOfDecimals (digits rest).1
      (some (if negative then -n else n), (digits rest).2)
  match cs with
  | mark :: rest =>
    if mark = 'e' ∨ mark = 'E' then
      match rest with
      | '+' :: rest => signed false rest
      | '-' :: rest => signed true rest
      | rest => signed false rest
    else (none, cs)
  | [] => (none, cs)

/-- Reads a number whose sign has been read.  `start` is the text from the sign on. -/
def unsigned (start : List Char) (negative : Bool) (cs : List Char) : Except Stop (Json × List Char) :=
  let (whole, rest) := match cs with
    | '0' :: rest => (['0'], rest)
    | _ => digits cs
  if whole.isEmpty then stopAt .expectingValue start
  else
    let (places, rest) := fraction rest
    let (exponent, rest) := exponent? rest
    if places.isEmpty && exponent.isNone then
      if maxDigits < whole.length then .error (.tooManyDigits whole.length)
      else
        let n : Int := Text.natOfDecimals whole
        .ok (int (if negative then -n else n), rest)
    else
      let d : Decimal :=
        ⟨Text.natOfDecimals (whole ++ places), exponent.getD 0 - (places.length : Int)⟩
      .ok (float (d.toDouble negative), rest)

/-- Reads a number. -/
def number (cs : List Char) : Except Stop (Json × List Char) :=
  match cs with
  | '-' :: rest => unsigned cs true rest
  | _ => unsigned cs false cs

/-! ### Values -/

def isSpace (c : Char) : Bool := c == ' ' || c == '\t' || c == '\n' || c == '\r'

def skip (cs : List Char) : List Char := cs.dropWhile isSpace

/-- The rest behind a word at the head of a text. -/
def after? (word : String) (cs : List Char) : Option (List Char) :=
  if word.toList.isPrefixOf cs then some (cs.drop word.toList.length) else none

/-- The words that stand for a value. -/
def words : List (String × Json) :=
  [("null", null), ("true", bool true), ("false", bool false), ("NaN", float .nan),
   ("Infinity", float (.infinite false)), ("-Infinity", float (.infinite true))]

/-- Reads one of the words, or else a number. -/
def wordOrNumber (cs : List Char) : Except Stop (Json × List Char) :=
  match words.findSome? fun w => (after? w.1 cs).map fun rest => (w.2, rest) with
  | some found => .ok found
  | none => number cs

mutual

/-- Reads a value, in which as many lists and tables may stand inside one another as `depth` says.
Two units of fuel for each character of a text, and one more, are enough: a list or a table around a
value takes two, one for itself and one for its first entry, and every further entry takes one
behind its comma. -/
def value : Nat → Nat → List Char → Except Stop (Json × List Char)
  | 0, _, cs => stopAt .expectingValue cs
  | fuel + 1, depth, cs =>
    match cs with
    | '"' :: rest => do
      let (s, rest) ← string rest
      pure (str s, rest)
    | '{' :: rest =>
      if depth = 0 then .error .tooDeep
      else
        match skip rest with
        | '}' :: rest => .ok (obj [], rest)
        | rest => members fuel (depth - 1) [] rest
    | '[' :: rest =>
      if depth = 0 then .error .tooDeep
      else
        match skip rest with
        | ']' :: rest => .ok (arr [], rest)
        | rest => items fuel (depth - 1) [] rest
    | _ => wordOrNumber cs

/-- Reads the items of a list up to its closing bracket; the items before are given last first. -/
def items : Nat → Nat → List Json → List Char → Except Stop (Json × List Char)
  | 0, _, _, cs => stopAt .expectingValue cs
  | fuel + 1, depth, before, cs => do
    let (v, rest) ← value fuel depth cs
    match skip rest with
    | ']' :: rest => .ok (arr (v :: before).reverse, rest)
    | ',' :: rest => items fuel depth (v :: before) (skip rest)
    | rest => stopAt .expectingComma rest

/-- Reads the fields of a table up to its closing brace; the fields before are given last first. -/
def members : Nat → Nat → List (String × Json) → List Char → Except Stop (Json × List Char)
  | 0, _, _, cs => stopAt .expectingName cs
  | fuel + 1, depth, before, cs =>
    match cs with
    | '"' :: rest => do
      let (k, rest) ← string rest
      match skip rest with
      | ':' :: rest => do
        let (v, rest) ← value fuel depth (skip rest)
        match skip rest with
        | '}' :: rest => .ok (obj (Table.ofPairs ((k, v) :: before).reverse), rest)
        | ',' :: rest => members fuel depth ((k, v) :: before) (skip rest)
        | rest => stopAt .expectingComma rest
      | rest => stopAt .expectingColon rest
    | _ => stopAt .expectingName cs

end

/-- Reads a whole text: one value with spaces around it. -/
def whole (cs : List Char) : Except Stop Json := do
  let (v, rest) ← value (2 * cs.length + 1) maxNesting (skip cs)
  match skip rest with
  | [] => pure v
  | rest => stopAt .extraData rest

/-- The line and column of a position, both counted from one. -/
def lineColumn (before : List Char) : Nat × Nat :=
  ((before.filter (· == '\n')).length + 1, (before.reverse.takeWhile (· != '\n')).length + 1)

/-- The fault of a text at which reading stopped. -/
def Stop.fault (cs : List Char) : Stop → ReadFault
  | .complaint c unread =>
    let position := cs.length - unread
    let (line, column) := lineColumn (cs.take position)
    .malformed c position line column
  | .tooManyDigits n => .tooManyDigits n
  | .tooDeep => .tooDeep

end Reader

/-- Reads the characters of a document. -/
def readChars (cs : List Char) : Except ReadFault Json :=
  (Reader.whole cs).mapError (Reader.Stop.fault cs)

/-- **The document that a text spells.**  A text may not begin with a byte order mark. -/
def read (text : String) : Except ReadFault Json :=
  match text.toList with
  | '\ufeff' :: _ => .error (.malformed .byteOrderMark 0 1 1)
  | cs => readChars cs

end Storyworld.Json
