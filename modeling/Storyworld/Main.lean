/-
**The program.**

The command line of the program: it reads the files that a command names, says what the command
says, and answers one line after the other.

Main definitions:

* `Storyworld.Terminal.readFiles` — the files that are there;
* `Storyworld.Terminal.talk` — the conversation with a player;
* `Storyworld.Terminal.program`, `main` — **the program**.
-/

import Storyworld.Terminal.Run

set_option relaxedAutoImplicit false
set_option autoImplicit false

namespace Storyworld.Terminal

/-- The files among some paths that can be read. -/
def readFiles : List String → IO (Table Source)
  | [] => return []
  | path :: rest => do
    let others ← readFiles rest
    try
      let bytes ← IO.FS.readBinFile path
      match String.fromUTF8? bytes with
      | some text => return (path, sourceOfText text) :: others
      | none => return (path, .bytes bytes.toList) :: others
    catch _ => return others

/-- Says how the program ended, where that needs words, and gives its code. -/
def conclude : Ending → IO UInt32
  | .returned => return 0
  | .exit code => return code.toUInt32
  | .broken f => do
    IO.eprintln (f.message?.getD "The game cannot go on: a value is of no use where it stands.")
    return 1

/-- Answers one line after the other. -/
partial def talk (input output : IO.FS.Stream) (g : Playing) : IO UInt32 := do
  output.putStr g.prompt
  output.flush
  let typed ← input.getLine
  if typed.isEmpty then
    output.putStr Playing.leaveTaking
    return 0
  else
    let (said, next) := g.answer typed
    output.putStr said
    match next with
    | .stop e => conclude e
    | .goOn g => talk input output g

/-- Runs the program with some arguments. -/
def program (args : List String) : IO UInt32 := do
  let around : Surroundings := ⟨← IO.getEnv "STORYWORLD_LOCALE", ← IO.getEnv "STORYWORLD_SEED"⟩
  let command := Command.read around args
  let files ← readFiles command.paths
  let output ← IO.getStdout
  let (said, next) := command.begin files.get?
  output.putStr said
  match next with
  | .stop e => conclude e
  | .goOn g => talk (← IO.getStdin) output g

end Storyworld.Terminal

/-- The program. -/
def main (args : List String) : IO UInt32 := Storyworld.Terminal.program args
