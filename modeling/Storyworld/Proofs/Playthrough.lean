/-
**Games played from their beginning.**

A player begins a game, enters the start scene, and then leaves and acts, whatever came of the moves
before.  A playthrough gives what came of each move, and the play after the last.

Main definitions:

* `Storyworld.Move`, `Storyworld.Move.turn` — what a player can do in a scene;
* `Storyworld.Turn.onAll` — turns in a row, where a fault does not keep the next from being tried;
* `Storyworld.Engine.beginning`, `Storyworld.Engine.playthrough` — **a game from its beginning**;
* `Storyworld.Fault.isRefusal` — the faults by which a move is refused.

Main results:

* `Storyworld.Turn.onAll_invariant` — what each turn preserves, the whole row preserves;
* `Storyworld.Turn.onAll_faults` — the faults of a row under such an invariant.
-/

import Storyworld.Game.NewGame
import Storyworld.Play.Move
import Storyworld.Proofs.Turn

set_option relaxedAutoImplicit false
set_option autoImplicit false

namespace Storyworld

/-! ### Moves -/

/-- What a player can do in a scene. -/
inductive Move where
  /-- leave through an exit -/
  | leave (ref : ExitRef)
  /-- take an action -/
  | act (id : String)

/-- The turn of a move. -/
def Move.turn (e : Engine) : Move → Turn SceneView
  | leave ref => e.leave ref
  | act id => e.act id

/-- Whether a fault says that a move is refused: what it names is not there or not open. -/
def Fault.isRefusal : Fault → Bool
  | exitNotFound _ _ => true
  | actionNotFound _ _ => true
  | exitClosed _ => true
  | actionClosed _ => true
  | _ => false

/-! ### Turns in a row -/

namespace Turn

variable {α : Type}

/-- What comes of turns in a row, and the play after them.  A turn that ends in a fault does not
keep the next one from being tried. -/
def onAll : List (Turn α) → Play → List (Except Fault α) × Play
  | [], p => ([], p)
  | t :: ts, p => ((t.on p).1 :: (onAll ts (t.on p).2).1, (onAll ts (t.on p).2).2)

variable {I : Play → Prop} {ts : List (Turn α)}

/-- **What each turn of a row preserves, the row preserves.** -/
theorem onAll_invariant (hI : ∀ t ∈ ts, ∀ p, I p → I (t.on p).2) {p : Play} (hp : I p) :
    I (onAll ts p).2 := by
  induction ts generalizing p with
  | nil => exact hp
  | cons t ts ih =>
      have ht := hI t List.mem_cons_self p hp
      exact ih (fun u hu => hI u (List.mem_cons_of_mem t hu)) ht

/-- **The faults of a row of turns**, where each turn preserves an invariant and fails in some way
only from plays of which the invariant holds. -/
theorem onAll_faults {F : Fault → Prop} (hI : ∀ t ∈ ts, ∀ p, I p → I (t.on p).2)
    (hF : ∀ t ∈ ts, ∀ p, I p → ∀ f, (t.on p).1 = .error f → F f) {p : Play} (hp : I p) {f : Fault}
    (hf : .error f ∈ (onAll ts p).1) : F f := by
  induction ts generalizing p with
  | nil => cases hf
  | cons t ts ih =>
      rcases List.mem_cons.1 hf with h | h
      · exact hF t List.mem_cons_self p hp f h.symm
      · exact ih (fun u hu => hI u (List.mem_cons_of_mem t hu))
          (fun u hu => hF u (List.mem_cons_of_mem t hu)) (hI t List.mem_cons_self p hp) h

end Turn

/-! ### Games -/

namespace Engine

/-- The play of a new game. -/
def beginning (e : Engine) (c : Character) (shared : Shared) : Play :=
  { toShared := (e.newGame c shared).2, state := (e.newGame c shared).1 }

/-- **A game from its beginning**: the player enters the start scene and then moves. -/
def playthrough (e : Engine) (c : Character) (shared : Shared) (moves : List Move) :
    List (Except Fault SceneView) × Play :=
  Turn.onAll (e.enter e.story.startScene :: moves.map (Move.turn e)) (e.beginning c shared)

end Engine

end Storyworld
