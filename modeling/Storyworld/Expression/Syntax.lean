/-
**Condition expressions, and parsing them.**

From the loosest to the tightest, the levels are: or, and, equality, ordering, negation.  The
levels of binary operators associate to the left.  An operand is a literal, an identifier, a call
with a possibly empty list of arguments, or an expression in parentheses.  Negations, parentheses
and call arguments may be nested 63 deep around an operand.

Main definitions:

* `Storyworld.Expression.Expr` — an expression;
* `Storyworld.Expression.chain` — one level of left-associative operators over a tighter level;
* `Storyworld.Expression.unary`, `Storyworld.Expression.disjunction` — the tightest and the loosest
  level;
* `Storyworld.Expression.parse` — the expression that a text spells.
-/

import Storyworld.Expression.Token
import Storyworld.Number.Basic
import Storyworld.Number.Decimal

set_option relaxedAutoImplicit false
set_option autoImplicit false

namespace Storyworld.Expression

/-! ### Expressions -/

/-- An expression. -/
inductive Expr where
  | number (n : Number)
  | string (s : String)
  | boolean (b : Bool)
  | identifier (name : String)
  | call (name : String) (args : List Expr)
  | not (e : Expr)
  | binary (op : Operator) (left right : Expr)

/-- The namespaces of identifiers. -/
def namespaces : List String := ["flag", "stat", "var", "rep"]

/-- The key that an identifier names in a namespace. -/
def keyIn? (space : String) (name : List Char) : Option (List Char) :=
  let head := space.toList ++ ['.']
  if head.isPrefixOf name then some (name.drop head.length) else none

/-- The most digits of an integer literal. -/
def maxLiteralDigits : Nat := 4300

/-- The number that a number token spells: an integer without a point, else a floating-point
number. -/
def literal (spelling : List Char) : Except Fault Number :=
  match spelling.count '.' with
  | 0 =>
    if maxLiteralDigits < spelling.length then .error (.badNumber spelling)
    else .ok (.int (Text.natOfDecimals spelling))
  | 1 =>
    let whole := spelling.takeWhile (· != '.')
    let places := (spelling.dropWhile (· != '.')).drop 1
    let d : Decimal := ⟨Text.natOfDecimals (whole ++ places), -(places.length : Int)⟩
    .ok (.float (d.toDouble false))
  | _ => .error (.badNumber spelling)

/-- An identifier may not be a namespace with nothing behind its point. -/
def checked (name : List Char) : Except Fault Expr :=
  match namespaces.find? fun space => keyIn? space name = some [] with
  | some space => .error (.bareNamespace space.toList)
  | none => .ok (.identifier (String.ofList name))

/-! ### Levels -/

/-- A parser takes an expression off the head of a list of tokens. -/
abbrev Parser := List Token → Except Fault (Expr × List Token)

/-- Goes on with operators of a level behind a left operand.  A list of tokens needs no more fuel
than its length. -/
def chainFrom (ops : List Operator) (tighter : Parser) :
    Nat → Expr → List Token → Except Fault (Expr × List Token)
  | 0, left, tokens => .ok (left, tokens)
  | fuel + 1, left, tokens =>
    match tokens with
    | .operator op :: rest =>
      if op ∈ ops then do
        let (right, rest) ← tighter rest
        chainFrom ops tighter fuel (.binary op left right) rest
      else .ok (left, tokens)
    | _ => .ok (left, tokens)

/-- **One level of left-associative operators over a tighter level.** -/
def chain (ops : List Operator) (tighter : Parser) : Parser := fun tokens => do
  let (left, rest) ← tighter tokens
  chainFrom ops tighter rest.length left rest

/-- The loosest level over the tightest one. -/
def disjunctionOver (tightest : Parser) : Parser :=
  chain [.or] (chain [.and] (chain [.equal, .notEqual]
    (chain [.greater, .greaterEqual, .less, .lessEqual] tightest)))

/-- Further arguments of a call, each behind a comma, up to where no comma stands. -/
def moreArguments (argument : Parser) :
    Nat → List Token → Except Fault (List Expr × List Token)
  | 0, tokens => .ok ([], tokens)
  | fuel + 1, tokens =>
    match tokens with
    | .comma :: rest => do
      let (e, rest) ← argument rest
      let (es, rest) ← moreArguments argument fuel rest
      pure (e :: es, rest)
    | _ => .ok ([], tokens)

/-- The arguments of a call behind its opening parenthesis, and the closing one. -/
def arguments (argument : Parser) (tokens : List Token) : Except Fault (List Expr × List Token) :=
  match tokens with
  | .closing :: rest => .ok ([], rest)
  | _ => do
    let (e, rest) ← argument tokens
    let (es, rest) ← moreArguments argument rest.length rest
    match rest with
    | .closing :: rest => pure (e :: es, rest)
    | _ => .error .unclosedCall

/-- An operand, given the parser for what stands inside parentheses. -/
def primary (inner : Parser) : Parser := fun tokens =>
  match tokens with
  | .number spelling :: rest => do
    let n ← literal spelling
    pure (.number n, rest)
  | .string content :: rest => .ok (.string (String.ofList content), rest)
  | .boolean b :: rest => .ok (.boolean b, rest)
  | .identifier name :: .opening :: rest => do
    let (args, rest) ← arguments inner rest
    pure (.call (String.ofList name) args, rest)
  | .identifier name :: rest => do
    let e ← checked name
    pure (e, rest)
  | .opening :: rest => do
    let (e, rest) ← inner rest
    match rest with
    | .closing :: rest => pure (e, rest)
    | _ => .error .unclosedGroup
  | _ => .error .unexpectedOperand

/-- The tightest level: an operand behind any number of negations.  The argument counts the levels
of nesting that are left. -/
def unary : Nat → Parser
  | 0, _ => .error .tooDeep
  | depth + 1, tokens =>
    match tokens with
    | .negation :: rest => do
      let (e, rest) ← unary depth rest
      pure (.not e, rest)
    | _ => primary (disjunctionOver (unary depth)) tokens

/-- The loosest level. -/
def disjunction (depth : Nat) : Parser := disjunctionOver (unary depth)

/-- The number of operands that may enclose one another, the innermost included. -/
def maxDepth : Nat := 64

/-- Parses a whole list of tokens. -/
def parseTokens (tokens : List Token) : Except Fault Expr := do
  let (e, rest) ← disjunction maxDepth tokens
  match rest with
  | [] => pure e
  | t :: _ => .error (.unexpectedToken t.text)

/-- Parses a text that has tokens. -/
def parseChars (cs : List Char) : Except Fault Expr := do
  let tokens ← tokenize cs
  if tokens.isEmpty then .error .empty else parseTokens tokens

/-- **The expression that a text spells.** -/
def parse (text : String) : Except Fault Expr := parseChars text.toList

end Storyworld.Expression
