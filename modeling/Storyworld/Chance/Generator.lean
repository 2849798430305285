/-
**Random numbers.**

All chance in a game comes from one generator, so that a seed replays a game exactly.  The usual
generator is linear congruential with a state of 32 bits; its draws are the states divided by
`2 ^ 32`.  A scripted generator gives out fixed draws and rolls.

Main definitions:

* `Storyworld.Generator` — a generator, with `Storyworld.Generator.seeded`;
* `Storyworld.Generator.successor` — the state that follows a state;
* `Storyworld.Generator.next` — a draw from `[0, 1)`;
* `Storyworld.Generator.integer` — a draw from the integers between two bounds.
-/

import Storyworld.Fault
import Storyworld.Number.Double

set_option relaxedAutoImplicit false
set_option autoImplicit false

namespace Storyworld

/-- A source of random numbers. -/
inductive Generator where
  /-- linear congruential; the state is below `2 ^ 32` -/
  | linear (state : Nat)
  /-- the draws in order, the last one repeated, and the rolls in order -/
  | scripted (draws : List Double) (rolls : List Int)
deriving DecidableEq

namespace Generator

/-- The number of states of a linear generator, `2 ^ 32`. -/
def modulus : Nat := 4294967296

/-- The seed of a generator for which none is given. -/
def defaultSeed : Int := 1

/-- The linear generator of a seed. -/
def seeded (seed : Int) : Generator := linear (seed % modulus).toNat

/-- The state that follows a state. -/
def successor (state : Nat) : Nat := (1664525 * state + 1013904223) % modulus

/-- **A draw from `[0, 1)`**, and the generator after it. -/
def next : Generator → Double × Generator
  | linear state => (.finite ((successor state : Rat) / (modulus : Rat)), linear (successor state))
  | scripted [] rolls => (.finite 0, scripted [] rolls)
  | scripted [x] rolls => (x, scripted [x] rolls)
  | scripted (x :: y :: draws) rolls => (x, scripted (y :: draws) rolls)

/-- The integer that a draw picks from `count` integers that begin with `low`. -/
def pick (draw : Double) (low count : Int) : Except Fault Int :=
  match Double.ofInt? count with
  | none => .error .tooLarge
  | some span =>
    match (draw.mul span).truncate? with
    | some n => .ok (low + n)
    | none => .error (if (draw.mul span).isNaN then .badValue else .tooLarge)

/-- A draw from the integers between two bounds, both included and given in any order.  A span too
large for a floating-point number is noticed after the draw. -/
def integer (low high : Int) (g : Generator) : Except Fault Int × Generator :=
  let (x, g') := g.next
  if high < low then (pick x high (low - high + 1), g') else (pick x low (high - low + 1), g')

/-- A generator in messages. -/
def shown : Generator → String
  | linear state => s!"LcgRng(state={state})"
  | scripted draws rolls => s!"FixedRng({draws.length},{rolls.length})"

end Generator

end Storyworld
