/-
**Running a command.**

A command works on files and on the lines that a player types.  Checking a story lists its issues.
Playing needs a story that loads and an engine that can be built; the rule modules that come with
the engine are on offer.

Main definitions:

* `Storyworld.Terminal.Files` — the files that a command may read;
* `Storyworld.Terminal.Command.begin` — what a command says before the first line is typed;
* `Storyworld.Terminal.Command.run` — **all that a command says, and how it ends**.
-/

import Storyworld.Engine.Build
import Storyworld.Rules.Bundled
import Storyworld.Story.LanternRoad
import Storyworld.Terminal.Arguments
import Storyworld.Terminal.Playing

set_option relaxedAutoImplicit false
set_option autoImplicit false

namespace Storyworld.Terminal

/-! ### Files -/

/-- The files that a command may read, by their paths. -/
abbrev Files := String → Option Source

/-- A text in which every line ends with a line feed alone. -/
def unifiedLines : List Char → List Char
  | [] => []
  | '\r' :: '\n' :: rest => '\n' :: unifiedLines rest
  | '\r' :: rest => '\n' :: unifiedLines rest
  | c :: rest => c :: unifiedLines rest

/-- The source that a file with a text is. -/
def sourceOfText (s : String) : Source := .text (String.ofList (unifiedLines s.toList))

/-- The lines of a text; what follows the last line feed is a line unless it is empty. -/
def linesOf (s : String) : List String :=
  let lines := s.splitOn "\n"
  if lines.getLast? = some "" then lines.dropLast else lines

/-- What is said and how the program ends when something cannot be loaded. -/
abbrev Failure := String × Ending

/-- Loads a bundle from a file, or the bundle that comes with the program. -/
def loadFile {α : Type} (files : Files) (load : Source → Except Fault α) (path : String) :
    Except Failure α :=
  match files path with
  | none => .error (s!"Error: File not found: {path}\n", .exit 1)
  | some source =>
    match load source with
    | .ok a => .ok a
    | .error (.badBundle headline issues) =>
      .error (s!"Error: {Issue.headed headline issues}\n", .exit 1)
    | .error f => .error ("", .broken f)

/-- Loads a bundle from the file that an option names.  Nothing can be done with an option that has
no value. -/
def loadNamed {α : Type} (files : Files) (load : Source → Except Fault α) (path : String) :
    Except Failure α :=
  if path = noValue then .error ("", .broken .wrongKind) else loadFile files load path

/-- Loads a bundle that comes with the program. -/
def loadOwn {α : Type} (load : Source → Except Fault α) (j : Json) : Except Failure α :=
  (load (.document j)).mapError fun f => ("", .broken f)

/-! ### Commands -/

def usageText : String := "usage: storyworld [-h] [--verbose] (play | validate) ...\n"

/-- What a check says. -/
def checkReport (story : StoryBundle) (lore : List LoreBundle) : String × Ending :=
  let issues := story.check lore
  let listing := String.join (issues.map fun i =>
    let severity := if i.isError then "error" else "warning"
    s!"[{severity}] {i.path}: {i.message}\n")
  let errors := (Issue.errors issues).length
  let warnings := (Issue.warnings issues).length
  if Issue.hasError issues then
    (listing ++ s!"✗ {story.name} has {errors} error(s)\n", .exit 1)
  else (listing ++ s!"✓ {story.name} is valid ({warnings} warning(s))\n", .returned)

/-- Checks a story with its lore. -/
def check (files : Files) (story : String) (lore : List String) : Except Failure Failure := do
  let story ← loadFile files StoryBundle.load story
  let lore ← lore.mapM (loadNamed files LoreBundle.load)
  return checkReport story lore

/-- What a story and its lore are played with. -/
def setup (story : StoryBundle) (lore : List LoreBundle) (locale : Option String) : Setup where
  story := story
  lore := lore
  modules := [Rules.core, Rules.sample, Rules.dice (.str Rules.defaultDice)]
  locale := locale
  consultsModules := true
  features := ⟨true, false, true, false⟩
  maxHops := 64

/-- Why an engine was not built. -/
def buildReport (issues : List Issue) : Failure :=
  ("Runtime init failed:\n" ++
    String.join ((Issue.errors issues).map fun i => s!"  {i.path}: {i.message}\n"), .exit 1)

/-- Loads a story and its lore, and begins to play. -/
def play (files : Files) (story : Option String) (lore : List String) (withoutLore : Bool)
    (locale : Option String) (seed : Option Int) : Except Failure (String × Next) := do
  let story ← match story with
    | some path => loadNamed files StoryBundle.load path
    | none => loadOwn StoryBundle.load LanternRoad.story
  let lore ←
    if withoutLore then pure []
    else if lore.isEmpty then (loadOwn LoreBundle.load LanternRoad.lore).map ([·])
    else lore.mapM (loadNamed files LoreBundle.load)
  let seed ← seed.elim (.error ("", .broken .wrongKind)) .ok
  let built := Engine.build (setup story lore locale)
  match built.engine with
  | none => throw (buildReport built.issues)
  | some e => return Playing.start e ⟨.seeded seed, []⟩

namespace Command

/-- The files that a command reads. -/
def paths : Command → List String
  | play story lore withoutLore _ _ => story.toList ++ if withoutLore then [] else lore
  | check story lore => story :: lore
  | usage _ => []
  | refused => []

/-- What a command says before the first line is typed, and what comes next. -/
def begin (files : Files) : Command → String × Next
  | usage asked => (usageText, .stop (.exit (if asked then 0 else 1)))
  | refused => ("", .stop (.exit 2))
  | check story lore =>
    match Terminal.check files story lore with
    | .ok (said, e) => (said, .stop e)
    | .error (said, e) => (said, .stop e)
  | play story lore withoutLore locale seed =>
    match Terminal.play files story lore withoutLore locale seed with
    | .ok next => next
    | .error (said, e) => (said, .stop e)

/-- **All that a command says, and how it ends.** -/
def run (files : Files) (lines : List String) (c : Command) : String × Ending :=
  match c.begin files with
  | (said, .stop e) => (said, e)
  | (said, .goOn g) =>
    let (more, e) := g.converse lines
    (said ++ more, e)

end Command

end Storyworld.Terminal
