/-
**Playing at a terminal.**

The player sees a scene and numbered choices, and types the number of a choice or a word: `look`,
`state`, `help`, or one of the words that end the game.  Letters of either case and digits of any
script are understood.  A choice that turns out not to be open is reported, and play goes on; any
other fault ends it.

Main definitions:

* `Storyworld.Terminal.Playing` — a game at a terminal;
* `Storyworld.Terminal.Playing.answer` — **what is answered to a line**;
* `Storyworld.Terminal.Playing.converse` — the answers to all lines.
-/

import Storyworld.Game.NewGame
import Storyworld.Play.Move

set_option relaxedAutoImplicit false
set_option autoImplicit false

namespace Storyworld.Terminal

/-! ### What is written -/

def line (s : String) : String := s ++ "\n"

/-- A scene and what the last action told. -/
def showScene (v : SceneView) : String :=
  let heading := match v.locationId.filter (· != "") with
    | some location => s!"{v.sceneId} @ {location}"
    | none => v.sceneId
  let outcome :=
    if v.recent.isEmpty then ""
    else "\nOutcome:\n" ++ String.join (v.recent.map fun told => s!"- {told}\n")
  s!"\n=== {heading} ===\n{v.narrative}\n{outcome}"

/-- A choice that the player has. -/
inductive Offer where
  | exit (e : Exit)
  | action (a : Action)

/-- The exits and then the actions of a view. -/
def choices (v : SceneView) : List Offer := v.exits.map .exit ++ v.actions.map .action

def Offer.shown : Offer → String
  | exit e => s!"[Exit] {e.label}"
  | action a => s!"[Action] {a.label}"

/-- The choices with their numbers. -/
def showChoices (v : SceneView) : String :=
  if (choices v).isEmpty then "\nNo available actions or exits.\n"
  else
    "\nChoices:\n" ++ String.join ((choices v).zipIdx.map fun (c, i) => s!"{i + 1}) {c.shown}\n")

/-- Names in a row, or a word if they come to nothing. -/
def listed (names : List String) (nothing : String) : String :=
  let row := ", ".intercalate names
  if row = "" then nothing else row

/-- What the player has come to. -/
def showState (s : GameState) : String :=
  let location := match s.currentLocationId.filter (· != "") with
    | some l => s!"Location: {l}\n"
    | none => ""
  let items := s.character.inventory.map fun e => s!"{e.item.name} x{e.count}"
  let companions :=
    if s.party.isEmpty then ""
    else
      let names := ", ".intercalate (s.party.map (·.name))
      s!"Companions: {names}\n"
  let flags := listed s.flags.keys "(none)"
  let vars := listed s.vars.keys "(none)"
  let carried := listed items "(empty)"
  s!"\nScene: {s.currentSceneId}\n{location}Flags: {flags}\nVars: {vars}\nInventory: {carried}\n" ++
    companions

/-- The warnings that were added to a log. -/
def showWarnings (before after : List Issue) : String :=
  String.join ((after.drop before.length).map fun i => s!"Warning: {i.message}\n")

def farewell : String := "Goodbye.\n"

def help : String := "Commands: [number] to choose, \"look\", \"state\", \"help\", \"quit\"\n"

def notUnderstood : String := "Unknown command. Type a choice number or \"help\".\n"

/-! ### What is typed -/

/-- A letter as a small letter, if that is an ASCII letter.  One letter beyond ASCII has such a
small letter: the sign for kelvin. -/
def smallLetter (c : Char) : Char := if c = '\u212a' then 'k' else c.toLower

/-- A line without blanks around it, in small letters. -/
def normalized (typed : String) : String :=
  String.ofList ((Text.trimList Text.isBlank typed.toList).map smallLetter)

/-- The most digits that a number may have. -/
def maxDigits : Nat := 4300

/-- What a line without a word asks for: nothing that is known, the choice of a number, or a number
that cannot be read although all its characters are digits of some kind. -/
inductive Request where
  | unknown
  | choice (number : Nat)
  | unreadable
deriving DecidableEq

def readRequest (command : String) : Request :=
  let cs := command.toList
  if cs.isEmpty ∨ !cs.all Text.isDigitLike then .unknown
  else if cs.all Text.isDecimal ∧ cs.length ≤ maxDigits then .choice (Text.natOfDecimals cs)
  else .unreadable

/-! ### Games at a terminal -/

/-- How the program ends: by coming to its end, with a code, or with a fault that it cannot deal
with. -/
inductive Ending where
  | returned
  | exit (code : Nat)
  | broken (f : Fault)

/-- A game at a terminal, with the view that the player chooses from. -/
structure Playing where
  engine : Engine
  play : Play
  view : SceneView

/-- What comes next. -/
inductive Next where
  | goOn (p : Playing)
  | stop (e : Ending)

namespace Playing

/-- The move that a choice stands for. -/
def move (e : Engine) : Offer → Turn SceneView
  | .exit x => e.leave (.itself x)
  | .action a => e.act a.id

/-- Begins a game: the start scene is entered. -/
def start (e : Engine) (shared : Shared) : String × Next :=
  match Character.ofSeed .null with
  | .error f => ("", .stop (.broken f))
  | .ok c =>
    let (s, newer) := e.newGame c shared
    let (r, p) := (e.enter s.currentSceneId).on { toShared := newer, state := s }
    let warnings := showWarnings shared.warnings p.warnings
    match r with
    | .ok v => (warnings ++ showScene v, .goOn ⟨e, p, v⟩)
    | .error f => (warnings, .stop (.broken f))

/-- Takes a choice. -/
def choose (g : Playing) (c : Offer) : String × Next :=
  let (r, p) := (move g.engine c).on g.play
  let warnings := showWarnings g.play.warnings p.warnings
  match r with
  | .ok v => (warnings ++ showScene v, .goOn { g with play := p, view := v })
  | .error f =>
    let reason := f.message?.getD ""
    let report := s!"Error: {reason}\n"
    if f.isLookup then (warnings ++ report, .goOn { g with play := p })
    else if f.isOfGame then (warnings ++ report, .stop (.exit 1))
    else (warnings, .stop (.broken f))

/-- Looks at the scene again. -/
def look (g : Playing) : String × Next :=
  let (r, p) := g.engine.look.on g.play
  let warnings := showWarnings g.play.warnings p.warnings
  match r with
  | .ok v => (warnings ++ showScene v, .goOn { g with play := p, view := v })
  | .error f => (warnings, .stop (.broken f))

/-- **What is answered to a line.** -/
def answer (g : Playing) (typed : String) : String × Next :=
  match normalized typed with
  | "quit" => (farewell, .stop .returned)
  | "exit" => (farewell, .stop .returned)
  | "q" => (farewell, .stop .returned)
  | "help" => (help, .goOn g)
  | "look" => g.look
  | "state" => (showState g.play.state, .goOn g)
  | command =>
    match readRequest command with
    | .unknown => (notUnderstood, .goOn g)
    | .unreadable => ("", .stop (.broken .badValue))
    | .choice 0 => (notUnderstood, .goOn g)
    | .choice (n + 1) =>
      match (choices g.view)[n]? with
      | some c => g.choose c
      | none => (notUnderstood, .goOn g)

/-- What stands before a line: the choices and a prompt. -/
def prompt (g : Playing) : String := showChoices g.view ++ "> "

/-- The answer to the end of the input. -/
def leaveTaking : String := "\n" ++ farewell

/-- **The answers to all lines**, and how the program ends. -/
def converse (g : Playing) : List String → String × Ending
  | [] => (g.prompt ++ leaveTaking, .returned)
  | typed :: rest =>
    match g.answer typed with
    | (said, .stop e) => (g.prompt ++ said, e)
    | (said, .goOn g') =>
      let (more, e) := g'.converse rest
      (g.prompt ++ said ++ more, e)

end Playing

end Storyworld.Terminal
