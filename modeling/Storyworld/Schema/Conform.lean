/-
**Bringing a document into its shape.**

A document is brought into a shape by taking every value where the shape expects it, in the kind
and the order that the shape asks for; fields that the shape does not know are left out, and fields
that are absent get what stands for them.  All values are looked at, and everything that is wrong
is reported in the order of the shape.

Main definitions:

* `Storyworld.Schema.Refusal` — why a document does not fit: issues at places, or a tag that cannot
  be looked up;
* `Storyworld.Schema.conform` — the document in its shape;
* `Storyworld.Schema.written` — the document as it is written, without the nulls among the further
  fields of open records;
* `Storyworld.Schema.shown` — the document as messages show it.
-/

import Storyworld.Issue
import Storyworld.Schema.Scalar
import Storyworld.Schema.Shape

set_option relaxedAutoImplicit false
set_option autoImplicit false

namespace Storyworld.Schema

/-! ### Refusals -/

/-- Something wrong at a place below the root of a document. -/
structure Misfit where
  path : List String
  message : String
deriving DecidableEq

/-- Why a document does not fit a shape. -/
inductive Refusal where
  | misfits (found : List Misfit)
  | unusableTag
deriving DecidableEq

/-- The refusal of a value at one place. -/
def refuse {α : Type} (message : String) : Except Refusal α := .error (.misfits [⟨[], message⟩])

/-- The refusal seen from one step above. -/
def Refusal.under (step : String) : Refusal → Refusal
  | misfits found => misfits (found.map fun m => ⟨step :: m.path, m.message⟩)
  | unusableTag => unusableTag

/-- A value that was read one step below. -/
def under {α : Type} (step : String) (r : Except Refusal α) : Except Refusal α :=
  r.mapError (Refusal.under step)

/-- Both of two values.  What is wrong with either is reported, unless a tag cannot be looked up:
nothing is read after that. -/
def both {α β : Type} : Except Refusal α → Except Refusal β → Except Refusal (α × β)
  | .ok a, .ok b => .ok (a, b)
  | .error (.misfits m), .error (.misfits m') => .error (.misfits (m ++ m'))
  | .error (.misfits _), .error .unusableTag => .error .unusableTag
  | .error r, _ => .error r
  | .ok _, .error r => .error r

/-- The issues of a refusal, with their places as paths. -/
def Misfit.issue (m : Misfit) : Issue := .error ("/" ++ "/".intercalate m.path) m.message

/-! ### Scalars -/

/-- A scalar read leniently. -/
def scalar {α : Type} (wrap : α → Json) (r : Except String α) : Except Refusal Json :=
  match r with
  | .ok a => .ok (wrap a)
  | .error message => refuse message

/-- A number.  Both kinds of number are taken as they are; anything else is read as an integer if
that is possible, else as a floating-point number. -/
def conformNumber (j : Json) : Except Refusal Json :=
  match j with
  | .int n => .ok (.int n)
  | .float x => .ok (.float x)
  | j =>
    match readInteger j, readFloat j with
    | .ok n, _ => .ok (.int n)
    | .error _, .ok x => .ok (.float x)
    | .error m, .error m' => .error (.misfits [⟨["int"], m⟩, ⟨["float"], m'⟩])

/-- Words in a row, the last two joined by "or". -/
def alternatives : List String → String
  | [] => ""
  | [a] => Text.quoted a
  | [a, b] => Text.quoted a ++ " or " ++ Text.quoted b
  | a :: rest => Text.quoted a ++ ", " ++ alternatives rest

/-! ### Shapes -/

/-- Every item of a list, with its index as the step. -/
def eachItem (f : Json → Except Refusal Json) : Nat → List Json → Except Refusal (List Json)
  | _, [] => .ok []
  | i, v :: vs =>
    (both (under (toString i) (f v)) (eachItem f (i + 1) vs)).map fun (w, ws) => w :: ws

/-- Every value of a table, with its name as the step. -/
def eachValue (f : Json → Except Refusal Json) :
    List (String × Json) → Except Refusal (List (String × Json))
  | [] => .ok []
  | (k, v) :: rest =>
    (both (under k (f v)) (eachValue f rest)).map fun (w, ws) => (k, w) :: ws

/-- The value of one field, if it has one. -/
def conformField (need : Need) (name : String) (f : Json → Except Refusal Json)
    (given : List (String × Json)) : Except Refusal (List (String × Json)) :=
  let read (k : String) (v : Json) : Except Refusal (List (String × Json)) :=
    under k ((f v).map fun w => [(name, w)])
  match lookup? given name, need with
  | none, .required => under name (refuse "Field required")
  | none, .optional => .ok []
  | none, .defaulted d => .ok [(name, d)]
  | none, .optionalDefaulted d => .ok [(name, d)]
  | some (_, .null), .optional => .ok []
  | some (_, .null), .optionalDefaulted _ => .ok []
  | some (k, v), _ => read k v

mutual

/-- **The document in its shape.** -/
def conform : Shape → Json → Except Refusal Json
  | .text, j =>
    match j with
    | .str s => .ok (.str s)
    | _ => refuse "Input should be a valid string"
  | .integer, j => scalar .int (readInteger j)
  | .number, j => conformNumber j
  | .boolean, j => scalar .bool (readBoolean j)
  | .anything, j => .ok j
  | .word choices, j =>
    if j.str?.any (· ∈ choices) then .ok j
    else refuse s!"Input should be {alternatives choices}"
  | .list item, j =>
    match j with
    | .arr items => (eachItem (conform item) 0 items).map .arr
    | _ => refuse "Input should be a valid list"
  | .table value, j =>
    match j with
    | .obj fields => (eachValue (conform value) fields).map .obj
    | _ => refuse "Input should be a valid dictionary"
  | .record name fields isOpen, j =>
    match j with
    | .obj given =>
      let further := if isOpen then given.filter fun f => !fields.isKnown f.1 else []
      (conformFields fields given).map fun read => .obj (read ++ further)
    | _ => refuse s!"Input should be a valid dictionary or instance of {name}"
  | .union rule cases, j =>
    match rule.select cases.tags j with
    | .case tag => under tag (conformCase cases tag j)
    | .refused message => refuse message
    | .unusable => .error .unusableTag

/-- The fields of a record that have a value. -/
def conformFields : Fields → List (String × Json) → Except Refusal (List (String × Json))
  | .done, _ => .ok []
  | .field name need shape rest, given =>
    (both (conformField need name (conform shape) given) (conformFields rest given)).map
      fun (a, b) => a ++ b

/-- The document in the shape of a case. -/
def conformCase : Cases → String → Json → Except Refusal Json
  | .done, _, j => .ok j
  | .case name shape rest, tag, j => if name = tag then conform shape j else conformCase rest tag j

end

/-! ### Writing and showing -/

/-- Replaces the value of each item of a list. -/
def overItems (f : Json → Json) : Json → Json
  | .arr items => .arr (items.map f)
  | j => j

/-- Replaces the value of each field of a table. -/
def overValues (f : Json → Json) : Json → Json
  | .obj fields => .obj (fields.map fun (k, v) => (k, f v))
  | j => j

mutual

/-- **A document in its shape as it is written**: nulls among the further fields of open records
are left out. -/
def written : Shape → Json → Json
  | .list item, j => overItems (written item) j
  | .table value, j => overValues (written value) j
  | .record _ fields isOpen, j =>
    match j with
    | .obj given =>
      .obj ((given.filter fun f =>
          !(isOpen && !fields.isKnown f.1 && f.2 matches .null)).map fun (k, v) =>
        (k, writtenField fields k v))
    | j => j
  | .union rule cases, j =>
    match rule.select cases.tags j with
    | .case tag => writtenCase cases tag j
    | _ => j
  | _, j => j

/-- The value of a field of a record as it is written. -/
def writtenField : Fields → String → Json → Json
  | .done, _, v => v
  | .field name _ shape rest, k, v => if name = k then written shape v else writtenField rest k v

/-- A document in the shape of a case as it is written. -/
def writtenCase : Cases → String → Json → Json
  | .done, _, j => j
  | .case name shape rest, tag, j => if name = tag then written shape j else writtenCase rest tag j

end

/-- The items of a list. -/
def itemsOf : Json → List Json
  | .arr items => items
  | _ => []

mutual

/-- A document in its shape as messages show it: records by name, with all their fields. -/
def shown : Shape → Json → String
  | .list item, j => "[" ++ ", ".intercalate ((itemsOf j).map (shown item)) ++ "]"
  | .record name fields isOpen, j =>
    match j with
    | .obj given =>
      let further := if isOpen then given.filter fun f => !fields.isKnown f.1 else []
      let parts := shownFields fields given ++ further.map fun (k, v) => s!"{k}={v.display}"
      name ++ "(" ++ ", ".intercalate parts ++ ")"
    | j => j.display
  | .union rule cases, j =>
    match rule.select cases.tags j with
    | .case tag => shownCase cases tag j
    | _ => j.display
  | _, j => j.display

/-- The fields of a record as messages show them. -/
def shownFields : Fields → List (String × Json) → List String
  | .done, _ => []
  | .field name _ shape rest, given =>
    let value := match Table.get? given name with
      | some v => shown shape v
      | none => "None"
    s!"{alternate name}={value}" :: shownFields rest given

/-- A document in the shape of a case as messages show it. -/
def shownCase : Cases → String → Json → String
  | .done, _, j => j.display
  | .case name shape rest, tag, j => if name = tag then shown shape j else shownCase rest tag j

end

end Storyworld.Schema
