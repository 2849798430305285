/-
**Issues: what is found wrong with a bundle, a save or a game.**

An issue names the place, as a path into the document, and says what is wrong there.  An error
keeps a bundle or save from being used; a warning does not.

Main definitions:

* `Storyworld.Issue` — a finding;
* `Storyworld.Issue.hasError` — whether one of some findings is an error;
* `Storyworld.Issue.summary` — the errors among some findings in one line.
-/

set_option relaxedAutoImplicit false
set_option autoImplicit false

namespace Storyworld

/-- How grave an issue is. -/
inductive Severity where
  | error
  | warning
deriving DecidableEq

/-- A finding at a place of a document. -/
structure Issue where
  path : String
  message : String
  severity : Severity
deriving DecidableEq

namespace Issue

def error (path message : String) : Issue := ⟨path, message, .error⟩

def warning (path message : String) : Issue := ⟨path, message, .warning⟩

def isError (i : Issue) : Bool := i.severity == .error

/-- Whether one of some findings is an error. -/
def hasError (issues : List Issue) : Bool := issues.any isError

/-- The errors among some findings. -/
def errors (issues : List Issue) : List Issue := issues.filter isError

/-- The warnings among some findings. -/
def warnings (issues : List Issue) : List Issue := issues.filter fun i => !i.isError

/-- The errors among some findings, in one line. -/
def summary (issues : List Issue) : String :=
  "; ".intercalate ((errors issues).map fun i => s!"{i.path}: {i.message}")

/-- A headline followed by the errors among some findings, if there are any. -/
def headed (headline : String) (issues : List Issue) : String :=
  if hasError issues then s!"{headline}: {summary issues}" else headline

end Issue

end Storyworld
