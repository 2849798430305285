/-
**Tokens of condition expressions.**

An expression is split into operators, parentheses, commas, numbers, quoted strings, the two truth
values and identifiers.  Blanks, tabs and line ends separate tokens.  Two-character operators are
taken before one-character ones, and numbers and identifiers reach as far as they can.  In a string
a backslash makes the next character stand for itself.

Main definitions:

* `Storyworld.Expression.Token` — a token;
* `Storyworld.Expression.Fault` — why a text is no expression, with
  `Storyworld.Expression.Fault.message`;
* `Storyworld.Expression.lexeme` — the first token of a text and the rest;
* `Storyworld.Expression.tokenize` — the tokens of a whole text.
-/

import Storyworld.Text.Digit

set_option relaxedAutoImplicit false
set_option autoImplicit false

namespace Storyworld.Expression

/-! ### Tokens -/

/-- The operators that stand between two operands. -/
inductive Operator where
  | or
  | and
  | equal
  | notEqual
  | less
  | lessEqual
  | greater
  | greaterEqual
deriving DecidableEq

/-- The spelling of an operator. -/
def Operator.spelling : Operator → String
  | or => "||"
  | and => "&&"
  | equal => "=="
  | notEqual => "!="
  | less => "<"
  | lessEqual => "<="
  | greater => ">"
  | greaterEqual => ">="

/-- A token.  A number is kept as it is spelled, a string without its quotes and escapes. -/
inductive Token where
  | number (spelling : List Char)
  | string (content : List Char)
  | boolean (value : Bool)
  | identifier (name : List Char)
  | operator (op : Operator)
  | negation
  | opening
  | closing
  | comma
deriving DecidableEq

/-- The characters that a token is quoted with in messages. -/
def Token.text : Token → List Char
  | number spelling => spelling
  | string content => content
  | boolean value => (if value then "true" else "false").toList
  | identifier name => name
  | operator op => op.spelling.toList
  | negation => ['!']
  | opening => ['(']
  | closing => [')']
  | comma => [',']

/-! ### Faults -/

/-- Why a text is no expression. -/
inductive Fault where
  | empty
  | unterminatedString
  | unexpectedToken (text : List Char)
  | unexpectedOperand
  | unclosedCall
  | unclosedGroup
  | tooDeep
  | badNumber (spelling : List Char)
  | bareNamespace (name : List Char)
deriving DecidableEq

/-- The fault in words. -/
def Fault.message : Fault → String
  | empty => "Empty expression"
  | unterminatedString => "Unterminated string literal"
  | unexpectedToken text => s!"Unexpected token: {String.ofList text}"
  | unexpectedOperand => "Unexpected expression token"
  | unclosedCall => "Expected closing parenthesis for function call"
  | unclosedGroup => "Expected closing parenthesis"
  | tooDeep => "Expression nested too deeply"
  | badNumber spelling => s!"Invalid number literal: {String.ofList spelling}"
  | bareNamespace name => s!"Invalid {String.ofList name} identifier"

/-! ### Character classes -/

def isSeparator (c : Char) : Bool := c == ' ' || c == '\t' || c == '\r' || c == '\n'

/-- Characters of a number: ASCII digits and points. -/
def isNumberChar (c : Char) : Bool := Text.isAsciiDigit c || c == '.'

/-- Characters that begin an identifier: ASCII letters and the underscore. -/
def isIdentifierStart (c : Char) : Bool :=
  decide ('a' ≤ c ∧ c ≤ 'z') || decide ('A' ≤ c ∧ c ≤ 'Z') || c == '_'

/-- Characters of an identifier: ASCII letters and digits, the underscore and the point. -/
def isIdentifierChar (c : Char) : Bool := isIdentifierStart c || isNumberChar c

/-- Whether a number begins here: with a digit, or with a point and a digit. -/
def startsNumber (c : Char) (rest : List Char) : Bool :=
  Text.isAsciiDigit c ||
    (c == '.' && match rest with
      | d :: _ => Text.isAsciiDigit d
      | [] => false)

/-! ### Lexemes -/

/-- The content of a string up to its closing quote, and the rest behind the quote; none if the
text ends first. -/
def stringBody (quote : Char) : List Char → Option (List Char × List Char)
  | [] => none
  | '\\' :: c :: rest => (stringBody quote rest).map fun (content, rest) => (c :: content, rest)
  | c :: rest =>
    if c = quote then some ([], rest)
    else (stringBody quote rest).map fun (content, rest) => (c :: content, rest)

/-- The token of a word: a truth value or an identifier. -/
def word (name : List Char) : Token :=
  if name = "true".toList then .boolean true
  else if name = "false".toList then .boolean false
  else .identifier name

/-- A token that is no operator, parenthesis or comma, beginning with the character `c`. -/
def operand (c : Char) (rest : List Char) : Except Fault (Token × List Char) :=
  if c = '"' ∨ c = '\'' then
    match stringBody c rest with
    | some (content, rest) => .ok (.string content, rest)
    | none => .error .unterminatedString
  else if startsNumber c rest then
    .ok (.number (c :: rest.takeWhile isNumberChar), rest.dropWhile isNumberChar)
  else if isIdentifierStart c then
    .ok (word (c :: rest.takeWhile isIdentifierChar), rest.dropWhile isIdentifierChar)
  else .error (.unexpectedToken [c])

/-- The first token of a text that begins with the character `c`, and the rest. -/
def lexeme (c : Char) (rest : List Char) : Except Fault (Token × List Char) :=
  match c, rest with
  | '(', rest => .ok (.opening, rest)
  | ')', rest => .ok (.closing, rest)
  | ',', rest => .ok (.comma, rest)
  | '=', '=' :: rest => .ok (.operator .equal, rest)
  | '!', '=' :: rest => .ok (.operator .notEqual, rest)
  | '>', '=' :: rest => .ok (.operator .greaterEqual, rest)
  | '<', '=' :: rest => .ok (.operator .lessEqual, rest)
  | '&', '&' :: rest => .ok (.operator .and, rest)
  | '|', '|' :: rest => .ok (.operator .or, rest)
  | '>', rest => .ok (.operator .greater, rest)
  | '<', rest => .ok (.operator .less, rest)
  | '!', rest => .ok (.negation, rest)
  | c, rest => operand c rest

/-- The tokens of a text, with fuel for each of its characters. -/
def tokensWithin : Nat → List Char → Except Fault (List Token)
  | _, [] => .ok []
  | 0, _ :: _ => .ok []
  | fuel + 1, c :: rest =>
    if isSeparator c then tokensWithin fuel rest
    else do
      let (token, rest) ← lexeme c rest
      let tokens ← tokensWithin fuel rest
      pure (token :: tokens)

/-- **The tokens of a text.** -/
def tokenize (cs : List Char) : Except Fault (List Token) := tokensWithin cs.length cs

end Storyworld.Expression
