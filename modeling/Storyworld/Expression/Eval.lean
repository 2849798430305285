/-
**Evaluating condition expressions.**

An expression is evaluated in a scope, which says what its identifiers name and how many of an item
the player carries.  Lists and tables are compared as objects and not by what they hold, so the scope
also says which variables hold one and the same object.  The right side of `&&` and `||` is evaluated
only where the left one does not decide.  Evaluation goes down at most 900 operators, negations and
calls into an expression.

Main definitions:

* `Storyworld.Expression.Scope` — what an expression can see of a game;
* `Storyworld.Expression.Value` — a value, and the object that it is;
* `Storyworld.Expression.eval` — the value of an expression;
* `Storyworld.Expression.evaluate` — the outcome for a text: an answer, or why there is none.
-/

import Storyworld.Expression.Coercion
import Storyworld.Expression.Syntax

set_option relaxedAutoImplicit false
set_option autoImplicit false

namespace Storyworld.Expression

/-! ### Scopes and values -/

/-- What an expression can see of a game.  The list or table that a variable holds is an object with
a name, and two variables may hold the same one. -/
structure Scope where
  flag : String → Json
  stat : String → Json
  var : String → Json
  object : String → String
  reputation : String → Json
  itemCount : String → Int

/-- A value, with the name of the object if it is a list or a table. -/
structure Value where
  json : Json
  object : Option String

/-- A value that was computed. -/
def Value.computed (j : Json) : Value := ⟨j, none⟩

def Value.ofBool (b : Bool) : Value := .computed (.bool b)

/-- Equality without coercion.  Two lists or tables are equal just if they are one object, whatever
they hold. -/
def Value.equals (v w : Value) : Bool :=
  match v.object, w.object with
  | some a, some b => a == b
  | none, none => Coercion.strictEquals v.json w.json
  | _, _ => false

/-- The value of a variable. -/
def Scope.held (scope : Scope) (key : String) : Value :=
  ⟨scope.var key, if (scope.var key).isCompound then some (scope.object key) else none⟩

/-- The value of an identifier.  Outside the four namespaces nothing is named. -/
def Scope.resolve (scope : Scope) (name : String) : Value :=
  let key? (space : String) : Option String := (keyIn? space name.toList).map String.ofList
  match key? "flag" with
  | some key => .computed (scope.flag key)
  | none =>
    match key? "stat" with
    | some key => .computed (scope.stat key)
    | none =>
      match key? "var" with
      | some key => scope.held key
      | none =>
        match key? "rep" with
        | some key => .computed (scope.reputation key)
        | none => .computed .null

/-- The value of a call.  The first argument names an item if it is a text; without one, the item
is that with the empty name. -/
def Scope.call (scope : Scope) (name : String) (args : List Value) : Value :=
  let item := match args with
    | v :: _ => (v.json.str?).getD ""
    | [] => ""
  if name = "hasItem" then .ofBool (decide (0 < scope.itemCount item))
  else if name = "itemCount" then .computed (.int (scope.itemCount item))
  else .computed .null

/-! ### Evaluation -/

/-- Why an expression has no value: it goes too deep, or it compares an integer that is too large
for a floating-point number. -/
inductive EvalFault where
  | tooDeep
  | tooLarge
deriving DecidableEq

/-- An ordering comparison of two values as numbers. -/
def compareNumbers (v w : Value) (holds : Double → Double → Bool) : Except EvalFault Value :=
  match Coercion.toNumber? v.json with
  | none => .error .tooLarge
  | some x =>
    match Coercion.toNumber? w.json with
    | none => .error .tooLarge
    | some y => .ok (.ofBool (holds x y))

/-- A binary operator other than `&&` and `||` on two values. -/
def apply (op : Operator) (v w : Value) : Except EvalFault Value :=
  match op with
  | .equal => .ok (.ofBool (v.equals w))
  | .notEqual => .ok (.ofBool (!v.equals w))
  | .greater => compareNumbers v w fun x y => y.lt x
  | .greaterEqual => compareNumbers v w fun x y => y.le x
  | .less => compareNumbers v w Double.lt
  | .lessEqual => compareNumbers v w Double.le
  | .or => .ok (.ofBool (Coercion.truthy v.json || Coercion.truthy w.json))
  | .and => .ok (.ofBool (Coercion.truthy v.json && Coercion.truthy w.json))

/-- How deep evaluation goes. -/
def maxEvalDepth : Nat := 900

mutual

/-- **The value of an expression**, going down at most `depth` levels. -/
def eval (scope : Scope) (depth : Nat) : Expr → Except EvalFault Value
  | .number n => if depth = 0 then .error .tooDeep else .ok (.computed (.ofNumber n))
  | .string s => if depth = 0 then .error .tooDeep else .ok (.computed (.str s))
  | .boolean b => if depth = 0 then .error .tooDeep else .ok (.ofBool b)
  | .identifier name => if depth = 0 then .error .tooDeep else .ok (scope.resolve name)
  | .call name args =>
    if depth = 0 then .error .tooDeep
    else do
      let values ← evalAll scope (depth - 1) args
      pure (scope.call name values)
  | .not e =>
    if depth = 0 then .error .tooDeep
    else do
      let v ← eval scope (depth - 1) e
      pure (.ofBool (!Coercion.truthy v.json))
  | .binary op left right =>
    if depth = 0 then .error .tooDeep
    else do
      let v ← eval scope (depth - 1) left
      let decided := match op with
        | .and => !Coercion.truthy v.json
        | .or => Coercion.truthy v.json
        | _ => false
      if decided then pure (.ofBool (op = .or))
      else do
        let w ← eval scope (depth - 1) right
        apply op v w

/-- The values of the arguments of a call, from left to right. -/
def evalAll (scope : Scope) (depth : Nat) : List Expr → Except EvalFault (List Value)
  | [] => .ok []
  | e :: es => do
    let v ← eval scope depth e
    let vs ← evalAll scope depth es
    pure (v :: vs)

end

/-! ### Outcomes -/

/-- What comes of a text: an answer, or a fault. -/
inductive Outcome where
  | answer (b : Bool)
  | fault (f : Fault)

/-- The value of a text before it is taken as a truth value.  The outer failure is an integer too
large to compare. -/
def evaluateRaw (scope : Scope) (text : String) : Except EvalFault (Except Fault Json) :=
  match parse text with
  | .error f => .ok (.error f)
  | .ok e =>
    match eval scope maxEvalDepth e with
    | .ok v => .ok (.ok v.json)
    | .error .tooDeep => .ok (.error .tooDeep)
    | .error .tooLarge => .error .tooLarge

/-- **The outcome of a text.** -/
def evaluate (scope : Scope) (text : String) : Except EvalFault Outcome :=
  (evaluateRaw scope text).map fun
    | .ok j => .answer (Coercion.truthy j)
    | .error f => .fault f

end Storyworld.Expression
