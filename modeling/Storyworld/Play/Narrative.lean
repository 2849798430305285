/-
**Telling a narrative.**

A narrative in several languages is told in the language of the engine, or else in the first one.
Of the variants of a narrative, those whose conditions hold are candidates, and one of them is drawn
with the chances that their weights give them; without candidates the first variant is told.

Rule modules give narratives as documents of any form; most forms that are no narrative are a fault.

Main definitions:

* `Storyworld.Narrative.read` — the narrative in a document;
* `Storyworld.pickVariant` — the variant at a point of the line of weights;
* `Storyworld.Engine.tell` — **the text of a narrative**.
-/

import Storyworld.Play.Condition
import Storyworld.Story.Load

set_option relaxedAutoImplicit false
set_option autoImplicit false

namespace Storyworld

/-! ### Narratives from documents -/

/-- Whether a document is a table. -/
def isTable : Json → Bool
  | .obj _ => true
  | _ => false

/-- The narrative in a document.  What is not filled tells nothing; a list must hold a table, and
then fit the shape of narratives. -/
def Narrative.read (j : Json) : Except Fault Narrative :=
  if j.isFilled then
    match j with
    | .str s => .ok (.plain s)
    | .arr items =>
      if items.any isTable then (fit Story.narrativeShape j).map Narrative.ofDocument
      else .error .missingPart
    | .obj _ => .error .missingKey
    | _ => .error .wrongKind
  else .ok (.plain "")

/-! ### Languages -/

/-- The text in the language of the engine, or else the first one. -/
def Engine.translation (e : Engine) (translations : List Translation) : String :=
  let wanted? := (e.locale.filter (· != "")).bind fun locale =>
    translations.find? (·.locale == locale)
  ((wanted? <|> translations.head?).map Translation.text).getD ""

/-! ### Variants -/

/-- The weight of a variant, which is one unless given. -/
def Variant.share (v : Variant) : Number := v.weight.getD (.int 1)

/-- The sum of the weights of some variants. -/
def totalShare : List Variant → Number → Option Number
  | [], sum => some sum
  | v :: rest, sum => (sum.add? v.share).bind (totalShare rest)

/-- The first variant at whose end a point lies on the line of weights, or else the last one. -/
def pickVariant (point : Double) (fallback : String) : List Variant → Except Fault String
  | [] => .ok fallback
  | v :: rest =>
    match v.share.toDouble? with
    | none => .error .tooLarge
    | some w =>
      if (point.sub w).le (.finite 0) then .ok v.text else pickVariant (point.sub w) v.text rest

/-- Draws one of some variants.  The draw comes first, so that it is made even if the weights are
out of reach. -/
def drawVariant (candidates : List Variant) : Turn String := do
  let x ← Turn.draw
  match (totalShare candidates (.int 0)).bind Number.toDouble? with
  | none => throw .tooLarge
  | some total => .ofExcept (pickVariant (x.mul total) "" candidates)

/-! ### All narratives -/

/-- **The text of a narrative.** -/
def Engine.tell (e : Engine) : Narrative → Turn String
  | .plain text => pure text
  | .localized translations => pure (e.translation translations)
  | .variants variants => do
    match ← e.available Variant.condition variants with
    | [] => return ((variants.head?).map Variant.text).getD ""
    | candidates => drawVariant candidates

/-- The text of a narrative in a document. -/
def Engine.tellDocument (e : Engine) (j : Json) : Turn String := do
  e.tell (← Turn.ofExcept (Narrative.read j))

end Storyworld
