/-
**Turns: what changes a game.**

A turn works on the state of one game and on what the games of an engine share: the generator of
random numbers and the log of warnings.  A turn may end in a fault.  What was done before the fault
stays done.

Main definitions:

* `Storyworld.Shared`, `Storyworld.Play` — what a turn works on;
* `Storyworld.Turn`, `Storyworld.Turn.on` — a turn, and what comes of it;
* `Storyworld.Turn.record`, `Storyworld.Turn.warn` — adding to the logs;
* `Storyworld.Turn.withCopy` — a turn that leaves the generator as it was.
-/

import Storyworld.Fault
import Storyworld.Chance.Generator
import Storyworld.Game.State

set_option relaxedAutoImplicit false
set_option autoImplicit false

namespace Storyworld

/-- What the games on one engine share. -/
structure Shared where
  rng : Generator
  warnings : List Issue

/-- What a turn works on: the state of a game, and what it shares with others. -/
structure Play extends Shared where
  state : GameState

/-- **A turn**: it works on a play, and gives a result or a fault. -/
abbrev Turn : Type → Type := ExceptT Fault (StateM Play)

namespace Turn

variable {α : Type}

/-- What comes of a turn: a result or a fault, and what the play has become either way. -/
def on (t : Turn α) (p : Play) : Except Fault α × Play := StateT.run (ExceptT.run t) p

/-- The state of the game. -/
def state : Turn GameState := do return (← get).state

/-- Changes the state of the game. -/
def change (f : GameState → GameState) : Turn Unit := modify fun p => { p with state := f p.state }

/-- Adds a warning to the log of warnings. -/
def warn (i : Issue) : Turn Unit := modify fun p => { p with warnings := p.warnings ++ [i] }

/-- Adds an entry to the log of the game. -/
def record (kind : EventKind) (sceneId actionId : Option String) (data : Option (Table Json)) :
    Turn Unit :=
  change (·.record kind sceneId actionId data)

/-- A draw from the generator. -/
def draw : Turn Double := do
  let p ← get
  set { p with rng := p.rng.next.2 }
  return p.rng.next.1

/-- Carries out a turn with a copy of the generator, which is as before afterwards. -/
def withCopy (t : Turn α) : Turn α :=
  ExceptT.mk fun p => ((t.on p).1, { (t.on p).2 with rng := p.rng })

/-- A result that was computed, or its fault. -/
def ofExcept : Except Fault α → Turn α
  | .ok a => pure a
  | .error f => throw f

end Turn

/-- Carries a turn out on a game. -/
def Shared.carryOut {α : Type} (shared : Shared) (s : GameState) (t : Turn α) :
    Except Fault α × GameState × Shared :=
  let (r, p) := t.on { toShared := shared, state := s }
  (r, p.state, p.toShared)

end Storyworld
