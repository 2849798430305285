/-
**Texts from bytes.**

The encoding of a document is told by its byte order mark, or else by where zero bytes stand among
its first four: a document begins with ASCII characters.  Half a pair of 16-bit units cannot stand
in a text and is replaced.

Main definitions:

* `Storyworld.Text.Encoding` — the encodings, and `Storyworld.Text.Encoding.detect`;
* `Storyworld.Text.DecodeFault` — the bytes that could not be decoded, and why;
* `Storyworld.Text.decode` — the text that some bytes hold.
-/

set_option relaxedAutoImplicit false
set_option autoImplicit false

namespace Storyworld.Text

/-- An encoding of texts, with the order of bytes where units have more than one. -/
inductive Encoding where
  | utf8
  | utf16 (bigEndian : Bool)
  | utf32 (bigEndian : Bool)
deriving DecidableEq

namespace Encoding

def name : Encoding → String
  | utf8 => "utf-8"
  | utf16 bigEndian => if bigEndian then "utf-16-be" else "utf-16-le"
  | utf32 bigEndian => if bigEndian then "utf-32-be" else "utf-32-le"

/-- The encoding of a document and the length of its byte order mark. -/
def detect : List UInt8 → Encoding × Nat
  | 0x00 :: 0x00 :: 0xFE :: 0xFF :: _ => (utf32 true, 4)
  | 0xFF :: 0xFE :: 0x00 :: 0x00 :: _ => (utf32 false, 4)
  | 0xFE :: 0xFF :: _ => (utf16 true, 2)
  | 0xFF :: 0xFE :: _ => (utf16 false, 2)
  | 0xEF :: 0xBB :: 0xBF :: _ => (utf8, 3)
  | a :: b :: c :: d :: _ =>
    if a = 0 then (if b = 0 then (utf32 true, 0) else (utf16 true, 0))
    else if b = 0 then (if c = 0 ∧ d = 0 then (utf32 false, 0) else (utf16 false, 0))
    else (utf8, 0)
  | [a, b] => if a = 0 then (utf16 true, 0) else if b = 0 then (utf16 false, 0) else (utf8, 0)
  | _ => (utf8, 0)

end Encoding

/-! ### Faults -/

/-- Why bytes hold no text. -/
inductive DecodeReason where
  | invalidStart
  | invalidContinuation
  | endOfData
  | truncated
  | outOfRange
deriving DecidableEq

def DecodeReason.message : DecodeReason → String
  | invalidStart => "invalid start byte"
  | invalidContinuation => "invalid continuation byte"
  | endOfData => "unexpected end of data"
  | truncated => "truncated data"
  | outOfRange => "code point not in range(0x110000)"

/-- A row of bytes that could not be decoded. -/
structure DecodeFault where
  encoding : Encoding
  first : Nat
  count : Nat
  byte : UInt8
  reason : DecodeReason
deriving DecidableEq

/-- A byte in two hexadecimal digits. -/
def hexByte (b : UInt8) : String :=
  String.ofList ((Nat.toDigits 16 (b.toNat + 256)).drop 1)

/-- The fault in words. -/
def DecodeFault.message (f : DecodeFault) : String :=
  let place :=
    if f.count ≤ 1 then s!"byte 0x{hexByte f.byte} in position {f.first}"
    else s!"bytes in position {f.first}-{f.first + f.count - 1}"
  s!"'{f.encoding.name}' codec can't decode {place}: {f.reason.message}"

/-! ### The encodings -/

def replaced : Char := '\ufffd'

/-- Whether a byte continues a character of several bytes. -/
def isContinuation (b : UInt8) : Bool := decide (0x80 ≤ b ∧ b < 0xC0)

/-- Whether a byte may follow the first byte of a character: some first bytes narrow the range, so
that no character has two spellings, none is half a pair, and none lies beyond the last one. -/
def mayFollow (first second : UInt8) : Bool :=
  isContinuation second &&
    (if first = 0xE0 then decide (0xA0 ≤ second)
    else if first = 0xED then decide (second < 0xA0)
    else if first = 0xF0 then decide (0x90 ≤ second)
    else if first = 0xF4 then decide (second < 0x90)
    else true)

/-- The number spelled by the lower six bits of continuation bytes behind the bits of the first. -/
def joinBits (first : Nat) (rest : List UInt8) : Nat :=
  rest.foldl (fun n b => n * 64 + b.toNat % 64) first

/-- Decodes bytes of variable length from the given place on; the characters before are given last
first. -/
def decodeUtf8 (place : Nat) (before : List Char) : List UInt8 → Except DecodeFault (List Char)
  | [] => .ok before.reverse
  | a :: rest =>
    let stop (count : Nat) (reason : DecodeReason) : Except DecodeFault (List Char) :=
      .error ⟨.utf8, place, count, a, reason⟩
    if a < 0x80 then decodeUtf8 (place + 1) (Char.ofNat a.toNat :: before) rest
    else if a < 0xC2 ∨ 0xF4 < a then stop 1 .invalidStart
    else
      match rest with
      | [] => stop 1 .endOfData
      | b :: rest =>
        if a = 0xED ∧ 0xA0 ≤ b ∧ b < 0xC0 then
          match rest with
          | c :: rest =>
            if isContinuation c then decodeUtf8 (place + 3) (replaced :: before) rest
            else stop 1 .invalidContinuation
          | [] => stop 1 .invalidContinuation
        else if !mayFollow a b then stop 1 .invalidContinuation
        else if a < 0xE0 then
          decodeUtf8 (place + 2) (Char.ofNat (joinBits (a.toNat % 32) [b]) :: before) rest
        else
          match rest with
          | [] => stop 2 .endOfData
          | c :: rest =>
            if !isContinuation c then stop 2 .invalidContinuation
            else if a < 0xF0 then
              decodeUtf8 (place + 3) (Char.ofNat (joinBits (a.toNat % 16) [b, c]) :: before) rest
            else
              match rest with
              | [] => stop 3 .endOfData
              | d :: rest =>
                if !isContinuation d then stop 3 .invalidContinuation
                else
                  decodeUtf8 (place + 4)
                    (Char.ofNat (joinBits (a.toNat % 8) [b, c, d]) :: before) rest

/-- The 16-bit units of some bytes from the given place on. -/
def units16 (bigEndian : Bool) (place : Nat) : List UInt8 → Except DecodeFault (List Nat)
  | [] => .ok []
  | [a] => .error ⟨.utf16 bigEndian, place, 1, a, .truncated⟩
  | a :: b :: rest => do
    let units ← units16 bigEndian (place + 2) rest
    pure ((if bigEndian then a.toNat * 256 + b.toNat else b.toNat * 256 + a.toNat) :: units)

/-- The characters of 16-bit units: two halves of a pair are joined, a half alone is replaced. -/
def ofUnits16 : List Nat → List Char
  | [] => []
  | [u] => [if 0xD800 ≤ u ∧ u < 0xE000 then replaced else Char.ofNat u]
  | u :: v :: rest =>
    if 0xD800 ≤ u ∧ u < 0xDC00 ∧ 0xDC00 ≤ v ∧ v < 0xE000 then
      Char.ofNat (0x10000 + (u - 0xD800) * 0x400 + (v - 0xDC00)) :: ofUnits16 rest
    else (if 0xD800 ≤ u ∧ u < 0xE000 then replaced else Char.ofNat u) :: ofUnits16 (v :: rest)

/-- Decodes units of four bytes from the given place on. -/
def decodeUtf32 (bigEndian : Bool) (place : Nat) : List UInt8 → Except DecodeFault (List Char)
  | [] => .ok []
  | a :: b :: c :: d :: rest => do
    let value (w x y z : UInt8) : Nat := ((w.toNat * 256 + x.toNat) * 256 + y.toNat) * 256 + z.toNat
    let n := if bigEndian then value a b c d else value d c b a
    if 0x110000 ≤ n then .error ⟨.utf32 bigEndian, place, 4, a, .outOfRange⟩
    else
      let cs ← decodeUtf32 bigEndian (place + 4) rest
      pure ((if 0xD800 ≤ n ∧ n < 0xE000 then replaced else Char.ofNat n) :: cs)
  | a :: rest => .error ⟨.utf32 bigEndian, place, rest.length + 1, a, .truncated⟩

/-- **The text that some bytes hold.**  Places are counted from the first byte, except behind a
byte order mark of the 8-bit encoding. -/
def decode (bytes : List UInt8) : Except DecodeFault (List Char) :=
  match Encoding.detect bytes with
  | (.utf8, mark) => decodeUtf8 0 [] (bytes.drop mark)
  | (.utf16 bigEndian, mark) => (units16 bigEndian mark (bytes.drop mark)).map ofUnits16
  | (.utf32 bigEndian, mark) => decodeUtf32 bigEndian mark (bytes.drop mark)

end Storyworld.Text
