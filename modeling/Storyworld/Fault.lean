/-
**Faults: why a call gives no result.**

A fault names its cause.  Most causes belong to the game: a scene that is not there, a choice that
is not open, a bundle that does not fit its shape.  The last few say that a value which a rule
module, a story or a host handed in is of no use where it stands, or too large to compute with.

Main definitions:

* `Storyworld.Fault` — a cause;
* `Storyworld.Fault.message?` — the cause in words, where it has any;
* `Storyworld.Fault.issues` — the issues that come with it;
* `Storyworld.Fault.isLookup` — whether a choice was refused, so that play can go on.
-/

import Storyworld.Issue

set_option relaxedAutoImplicit false
set_option autoImplicit false

namespace Storyworld

/-- Why a call gives no result. -/
inductive Fault where
  /-- the story has no scene with the id -/
  | sceneNotFound (scene : String)
  /-- the scene has no exit to which the reference leads -/
  | exitNotFound (scene reference : String)
  /-- the scene has no action with the id -/
  | actionNotFound (scene action : String)
  /-- the condition of the exit does not hold -/
  | exitClosed (label : String)
  /-- the condition of the action does not hold -/
  | actionClosed (id : String)
  /-- a chain of teleports is longer than allowed -/
  | teleportLoop (chain : List String) (maxHops : Int)
  /-- sessions are not enabled -/
  | sessionsDisabled
  /-- the player who votes is not registered -/
  | notRegistered (player session : String)
  /-- a vote does not name exactly one choice -/
  | undecidedVote
  /-- there is no such way of resolving votes -/
  | unknownMode (mode : String)
  /-- a choice to carry out names nothing -/
  | emptyChoice
  /-- the session has ended -/
  | sessionOver (session status : String)
  /-- a session cannot go on from the save -/
  | cannotResume (issues : List Issue)
  /-- a bundle cannot be loaded -/
  | badBundle (headline : String) (issues : List Issue)
  /-- an engine cannot be built -/
  | badEngine (issues : List Issue)
  /-- a value does not fit its shape -/
  | misfit (issues : List Issue)
  /-- a value is of a kind that cannot be used where it stands -/
  | wrongKind
  /-- a table is used as if it were a list -/
  | missingKey
  /-- a value has not the part that is asked of it -/
  | missingPart
  /-- a value is of the right kind and still of no use -/
  | badValue
  /-- an integer or a result is too large for a floating-point number -/
  | tooLarge
  /-- bytes hold no text -/
  | undecodable
  /-- a text has lists and tables too deep inside one another -/
  | tooDeep
  /-- a game cannot be written as a save -/
  | unwritable

namespace Fault

/-- The last five of some names, with arrows between them. -/
def tail (chain : List String) : String := " -> ".intercalate (chain.drop (chain.length - 5))

/-- The cause in words, where it has any. -/
def message? : Fault → Option String
  | sceneNotFound scene => some s!"Scene {scene} not found"
  | exitNotFound scene reference => some s!"Exit {reference} not found in scene {scene}"
  | actionNotFound scene action => some s!"Action {action} not found in scene {scene}"
  | exitClosed label => some s!"Exit condition failed: {label}"
  | actionClosed id => some s!"Action condition failed: {id}"
  | teleportLoop chain maxHops =>
    some s!"Teleport chain exceeded {maxHops} hops (... {tail chain})"
  | sessionsDisabled => some "Sessions are not enabled on this runtime"
  | notRegistered player session =>
    some s!"Player {player} is not registered in session {session}"
  | undecidedVote => some "A session vote needs exactly one of actionId or exitLabel"
  | unknownMode mode => some s!"Unknown session resolution mode: {mode}"
  | emptyChoice => some "Session choice has neither actionId nor exitLabel"
  | sessionOver session status => some s!"Session {session} is {status}"
  | cannotResume issues => some s!"Cannot resume save: {Issue.summary issues}"
  | badBundle headline issues => some (Issue.headed headline issues)
  | badEngine issues => some (Issue.headed "Runtime construction failed" issues)
  | misfit _ => none
  | wrongKind => none
  | missingKey => none
  | missingPart => none
  | badValue => none
  | tooLarge => none
  | undecodable => none
  | tooDeep => none
  | unwritable => none

/-- The issues that come with a fault. -/
def issues : Fault → List Issue
  | badBundle _ found => found
  | badEngine found => found
  | misfit found => found
  | _ => []

/-- Whether a scene, an exit or an action could not be used: the choice was stale, and play can go
on from where it stood. -/
def isLookup : Fault → Bool
  | sceneNotFound _ => true
  | exitNotFound _ _ => true
  | actionNotFound _ _ => true
  | exitClosed _ => true
  | actionClosed _ => true
  | _ => false

/-- Whether a fault belongs to the game, rather than to a value that was handed in. -/
def isOfGame : Fault → Bool
  | misfit _ => false
  | wrongKind => false
  | missingKey => false
  | missingPart => false
  | badValue => false
  | tooLarge => false
  | undecodable => false
  | tooDeep => false
  | unwritable => false
  | _ => true

end Fault

end Storyworld
