/-
**Tables given as rows of pairs.**

A host may give a table as such, or as a row of pairs of a name and a value.  A pair is a list of
two, a text of two characters, or a table of two fields, which pairs their names.  Pairs whose first
part is no text name nothing.

Main definitions:

* `Storyworld.Json.pair` — a pair, or the fault;
* `Storyworld.Json.givenFields` — **the table that a document gives**.
-/

import Storyworld.Fault
import Storyworld.Json.Value

set_option relaxedAutoImplicit false
set_option autoImplicit false

namespace Storyworld.Json

/-- The pair that a document is, if its first part is a text. -/
def pair : Json → Except Fault (Option (String × Json))
  | arr [arr _, _] => .error .wrongKind
  | arr [obj _, _] => .error .wrongKind
  | arr [k, v] => .ok (k.str?.map (·, v))
  | obj [(k, _), (l, _)] => .ok (some (k, str l))
  | str s =>
    match s.toList with
    | [a, b] => .ok (some (String.singleton a, str (String.singleton b)))
    | _ => .error .badValue
  | arr _ => .error .badValue
  | obj _ => .error .badValue
  | _ => .error .wrongKind

/-- The pairs in a row, up to the first that is none. -/
def pairs : List Json → Except Fault (List (String × Json))
  | [] => .ok []
  | j :: rest => do
    let p ← pair j
    let ps ← pairs rest
    return p.toList ++ ps

/-- **The table that a document gives.** -/
def givenFields : Json → Except Fault (Table Json)
  | obj fields => .ok fields
  | arr items => (pairs items).map Table.ofPairs
  | str s => if s = "" then .ok [] else .error .badValue
  | _ => .error .wrongKind

end Storyworld.Json
