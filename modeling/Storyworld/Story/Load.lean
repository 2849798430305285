/-
**Loading bundles.**

A bundle is loaded from a document, from text or from bytes.  A text that is no document, and a
document that does not fit the shape of its bundle, are reported with their issues.

Main definitions:

* `Storyworld.Source` — what a bundle or a save is loaded from;
* `Storyworld.fit` — a document brought into a shape, or the fault;
* `Storyworld.StoryBundle.load`, `Storyworld.LoreBundle.load` — the loaders;
* `Storyworld.StoryBundle.toJson`, `Storyworld.LoreBundle.toJson` — a bundle as it is written.
-/

import Storyworld.Fault
import Storyworld.Json.Reader
import Storyworld.Story.OfDocument
import Storyworld.Story.Shapes
import Storyworld.Text.Encoding

set_option relaxedAutoImplicit false
set_option autoImplicit false

namespace Storyworld

/-- What a bundle or a save is loaded from. -/
inductive Source where
  | document (j : Json)
  | text (s : String)
  | bytes (b : List UInt8)

/-- Why a source holds no document. -/
inductive SourceFault where
  | undecodable (f : Text.DecodeFault)
  | unreadable (f : Json.ReadFault)

/-- The document in a source.  A document that is a text counts as the text. -/
def Source.read : Source → Except SourceFault Json
  | document (.str s) => (Json.read s).mapError .unreadable
  | document j => .ok j
  | text s => (Json.read s).mapError .unreadable
  | bytes b =>
    match Text.decode b with
    | .error f => .error (.undecodable f)
    | .ok cs => (Json.readChars cs).mapError .unreadable

/-- A document brought into a shape, or the fault. -/
def fit (shape : Schema.Shape) (j : Json) : Except Fault Json :=
  match Schema.conform shape j with
  | .ok d => .ok d
  | .error (.misfits found) => .error (.misfit (found.map Schema.Misfit.issue))
  | .error .unusableTag => .error .wrongKind

/-- Loads the document of a bundle.  The label says which kind of bundle it is. -/
def loadDocument (shape : Schema.Shape) (label : String) (source : Source) : Except Fault Json :=
  match source.read with
  | .error (.undecodable _) => .error .undecodable
  | .error (.unreadable (.tooManyDigits _)) => .error .badValue
  | .error (.unreadable .tooDeep) => .error .tooDeep
  | .error (.unreadable (.malformed complaint _ line _)) =>
    .error (.badBundle s!"{label} is not valid JSON"
      [.error "/" s!"Invalid JSON: {complaint.message} (line {line})"])
  | .ok j =>
    match fit shape j with
    | .error (.misfit found) => .error (.badBundle s!"{label} failed schema validation" found)
    | r => r

/-- **Loads a story bundle.** -/
def StoryBundle.load (source : Source) : Except Fault StoryBundle :=
  (loadDocument Story.storyShape "Story bundle" source).map StoryBundle.ofDocument

/-- **Loads a lore bundle.** -/
def LoreBundle.load (source : Source) : Except Fault LoreBundle :=
  (loadDocument Story.loreShape "Lore bundle" source).map LoreBundle.ofDocument

/-- A story bundle as it is written. -/
def StoryBundle.toJson (s : StoryBundle) : Json := Schema.written Story.storyShape s.document

/-- A lore bundle as it is written. -/
def LoreBundle.toJson (l : LoreBundle) : Json := Schema.written Story.loreShape l.document

end Storyworld
