/-
**Documents: the values that stories, saves and variables are made of.**

A document is null, a truth value, an integer of any size, a floating-point number, a text, a list,
or a table of named fields in the order in which they were given.

Main definitions:

* `Storyworld.Json` — a document;
* `Storyworld.Json.field?` — a field of a table;
* `Storyworld.Json.number?` — the number that a document is;
* `Storyworld.Json.nesting` — how many lists and tables stand inside one another;
* `Storyworld.Json.same` — equality of values: kinds of numbers and the order of fields make no
  difference, a truth value equals zero or one, and NaN equals NaN.
-/

import Storyworld.Number.Basic
import Storyworld.Table

set_option relaxedAutoImplicit false
set_option autoImplicit false

namespace Storyworld

/-- A document. -/
inductive Json where
  | null
  | bool (b : Bool)
  | int (n : Int)
  | float (x : Double)
  | str (s : String)
  | arr (items : List Json)
  | obj (fields : List (String × Json))
deriving Inhabited

namespace Json

/-! ### Parts -/

/-- A field of a table. -/
def field? : Json → String → Option Json
  | obj fields, k => Table.get? fields k
  | _, _ => none

/-- A field of a table, where null counts as absent. -/
def given? (j : Json) (k : String) : Option Json :=
  match j.field? k with
  | some null => none
  | other => other

def str? : Json → Option String
  | str s => some s
  | _ => none

def bool? : Json → Option Bool
  | bool b => some b
  | _ => none

def int? : Json → Option Int
  | int n => some n
  | _ => none

def arr? : Json → Option (List Json)
  | arr items => some items
  | _ => none

def obj? : Json → Option (List (String × Json))
  | obj fields => some fields
  | _ => none

/-- The number that a document is; a truth value is none. -/
def number? : Json → Option Number
  | int n => some (.int n)
  | float x => some (.float x)
  | _ => none

def ofNumber : Number → Json
  | .int n => int n
  | .float x => float x

/-- Whether a document counts as given in the widest sense: null, false, zero, and an empty text,
list or table do not. -/
def isFilled : Json → Bool
  | null => false
  | bool b => b
  | int n => n != 0
  | float x => !x.isZero
  | str s => s != ""
  | arr items => !items.isEmpty
  | obj fields => !fields.isEmpty

/-- Whether a document is a list or a table. -/
def isCompound : Json → Bool
  | arr _ => true
  | obj _ => true
  | _ => false

/-! ### Nesting -/

mutual

/-- **How many lists and tables stand inside one another** at the most. -/
def nesting : Json → Nat
  | arr items => nestingItems items + 1
  | obj fields => nestingFields fields + 1
  | _ => 0

/-- The nesting of the items of a list. -/
def nestingItems : List Json → Nat
  | [] => 0
  | v :: vs => max v.nesting (nestingItems vs)

/-- The nesting of the fields of a table. -/
def nestingFields : List (String × Json) → Nat
  | [] => 0
  | (_, v) :: fields => max v.nesting (nestingFields fields)

end

/-! ### Equality of values -/

/-- The number that a document counts as in a comparison: a truth value is zero or one. -/
def count? : Json → Option Number
  | bool b => some (.int (if b then 1 else 0))
  | int n => some (.int n)
  | float x => some (.float x)
  | _ => none

mutual

/-- **Equality of values.** -/
def same : Json → Json → Bool
  | null, null => true
  | str s, str t => s == t
  | arr xs, arr ys => sameItems xs ys
  | obj xs, obj ys => xs.length == ys.length && sameFields xs ys
  | x, y =>
    match x.count?, y.count? with
    | some a, some b => a.same b || (a.isNaN && b.isNaN)
    | _, _ => false

/-- Equality of lists, item by item. -/
def sameItems : List Json → List Json → Bool
  | [], [] => true
  | x :: xs, y :: ys => same x y && sameItems xs ys
  | _, _ => false

/-- Whether every field on the left has an equal one of its name on the right. -/
def sameFields : List (String × Json) → List (String × Json) → Bool
  | [], _ => true
  | (k, x) :: xs, ys =>
    match Table.get? ys k with
    | some y => same x y && sameFields xs ys
    | none => false

end

end Json

end Storyworld
