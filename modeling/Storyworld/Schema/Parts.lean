/-
**Taking apart a document that is in its shape.**

Once a document has been brought into a shape, its fields are known to be of the kinds that the
shape asks for.  These functions take a field as a value of its kind; a field that is absent, or of
another kind, gives the plainest value.

Main definitions:

* `Storyworld.Json.text`, `Storyworld.Json.text?` — a field that holds a text;
* `Storyworld.Json.items` — the items of a field that holds a list;
* `Storyworld.Json.tableOf?` — a field that holds a table of values of a kind;
* `Storyworld.Json.record` — a document from fields that may have no value.
-/

import Storyworld.Json.Value

set_option relaxedAutoImplicit false
set_option autoImplicit false

namespace Storyworld.Json

/-! ### Fields of a kind -/

def text? (j : Json) (k : String) : Option String := (j.field? k).bind str?

def text (j : Json) (k : String) : String := (j.text? k).getD ""

def truth? (j : Json) (k : String) : Option Bool := (j.field? k).bind bool?

def truth (j : Json) (k : String) : Bool := (j.truth? k).getD false

def integer? (j : Json) (k : String) : Option Int := (j.field? k).bind int?

def integer (j : Json) (k : String) : Int := (j.integer? k).getD 0

def quantity? (j : Json) (k : String) : Option Number := (j.field? k).bind number?

def quantity (j : Json) (k : String) : Number := (j.quantity? k).getD (.int 0)

/-- A field of any kind; absent, it is null. -/
def anything (j : Json) (k : String) : Json := (j.field? k).getD .null

/-- The items of a field that holds a list, if it is there. -/
def items? (j : Json) (k : String) : Option (List Json) := (j.field? k).bind arr?

/-- The items of a field that holds a list. -/
def items (j : Json) (k : String) : List Json := (j.items? k).getD []

/-- The texts of a field that holds a list of texts, if it is there. -/
def texts? (j : Json) (k : String) : Option (List String) := (j.items? k).map (·.filterMap str?)

/-- A field that holds a table, if it is there. -/
def fields? (j : Json) (k : String) : Option (Table Json) := (j.field? k).bind obj?

/-- A field that holds a table of values of a kind, if it is there. -/
def tableOf? {α : Type} (value? : Json → Option α) (j : Json) (k : String) : Option (Table α) :=
  (j.fields? k).map fun fields => fields.filterMap fun (k, v) => (value? v).map (k, ·)

/-- A field that holds a table of values of a kind. -/
def tableOf {α : Type} (value? : Json → Option α) (j : Json) (k : String) : Table α :=
  (j.tableOf? value? k).getD []

/-! ### Building documents -/

/-- A document from fields; those without a value are left out. -/
def record (fields : List (String × Option Json)) : Json :=
  .obj (fields.filterMap fun (k, v) => v.map (k, ·))

def ofTexts (ts : List String) : Json := .arr (ts.map .str)

/-- A table whose values are turned into documents. -/
def ofTable {α : Type} (toJson : α → Json) (t : Table α) : Json :=
  .obj (t.map fun (k, v) => (k, toJson v))

end Storyworld.Json
