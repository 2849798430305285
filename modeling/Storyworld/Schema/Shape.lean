/-
**Shapes: what a document must look like.**

A shape describes the documents that a part of a bundle or a save may be.  A record has named
fields in a fixed order; each may be given under its name or under the same name in lower case with
underscores.  A union has several cases, and a rule that tells from a document which case it is.

Main definitions:

* `Storyworld.Schema.Need` — whether a field must be given, and what stands for it if it is not;
* `Storyworld.Schema.Shape`, with `Storyworld.Schema.Fields` and `Storyworld.Schema.Cases` — a
  shape, the fields of a record and the cases of a union;
* `Storyworld.Schema.Rule.select` — the case that a document belongs to.
-/

import Storyworld.Json.Display

set_option relaxedAutoImplicit false
set_option autoImplicit false

namespace Storyworld.Schema

/-- Whether a field must be given, and what stands for it if it is not.  Only an optional field may
be null; a null counts as no value. -/
inductive Need where
  | required
  | optional
  | defaulted (value : Json)
  | optionalDefaulted (value : Json)

/-- How a document tells which case of a union it is. -/
inductive Rule where
  /-- by the text in its field `type`; all that is none of the named cases is `custom` -/
  | condition
  /-- by the text in its field `type`, which must name a case -/
  | effect
  /-- a text is `plain`, a list that begins with a translation is `localized`, all else `variants` -/
  | narrative
deriving DecidableEq

mutual

/-- A shape. -/
inductive Shape where
  | text
  | integer
  | number
  | boolean
  | anything
  | word (choices : List String)
  | list (item : Shape)
  | table (value : Shape)
  | record (name : String) (fields : Fields) (isOpen : Bool)
  | union (rule : Rule) (cases : Cases)

/-- The fields of a record, in order. -/
inductive Fields where
  | done
  | field (name : String) (need : Need) (shape : Shape) (rest : Fields)

/-- The cases of a union. -/
inductive Cases where
  | done
  | case (tag : String) (shape : Shape) (rest : Cases)

end

/-! ### Names of fields -/

/-- A name with each capital written as an underscore and the small letter. -/
def underscored (name : String) : String :=
  String.ofList (name.toList.flatMap fun c => if c.isUpper then ['_', c.toLower] else [c])

/-- The other name under which a field may be given.  A name that is a keyword gets an underscore
behind it. -/
def alternate (name : String) : String := if name = "from" then "from_" else underscored name

/-- Where a field is found in a table: its name wins over its other name. -/
def lookup? (fields : List (String × Json)) (name : String) : Option (String × Json) :=
  match Table.get? fields name with
  | some v => some (name, v)
  | none => (Table.get? fields (alternate name)).map fun v => (alternate name, v)

/-- The names of fields under which a record reads its values. -/
def Fields.isKnown (k : String) : Fields → Bool
  | .done => false
  | .field name _ _ rest => k == name || k == alternate name || rest.isKnown k

/-! ### Cases of unions -/

/-- The tags of the cases of a union. -/
def Cases.tags : Cases → List String
  | .done => []
  | .case tag _ rest => tag :: rest.tags

/-- What a rule makes of a document: a case, a refusal in words, or no answer because the text that
tells the case is a list or a table. -/
inductive Selection where
  | case (tag : String)
  | refused (message : String)
  | unusable
deriving DecidableEq

/-- The tags of some cases, as a message lists them. -/
def listed (tags : List String) : String := ", ".intercalate (tags.map Text.quoted)

/-- **The case that a document belongs to**, among the given tags. -/
def Rule.select (tags : List String) : Rule → Json → Selection
  | .condition, j =>
    match j.field? "type" with
    | some (.str s) => .case (if s ∈ tags then s else "custom")
    | some (.arr _) => .unusable
    | some (.obj _) => .unusable
    | _ => .case "custom"
  | .effect, .obj fields =>
    match Table.get? fields "type" with
    | none => .refused "Unable to extract tag using discriminator 'type'"
    | some tag =>
      if tag.str?.any (· ∈ tags) then .case tag.plain
      else .refused (s!"Input tag '{tag.plain}' found using 'type' does not match any of the " ++
        s!"expected tags: {listed tags}")
  | .effect, _ => .refused "Input should be a valid dictionary or object to extract fields from"
  | .narrative, .str _ => .case "plain"
  | .narrative, .arr (first :: _) =>
    .case (if (first.field? "locale").isSome then "localized" else "variants")
  | .narrative, _ => .case "variants"

end Storyworld.Schema
