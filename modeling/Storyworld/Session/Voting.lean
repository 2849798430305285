/-
**Voting in a session.**

Several players may share one game.  They register, queue one vote each for an action or an exit,
and the votes are resolved into one choice: the earliest vote, the choice of more than half of the
votes, or the choice of all of them.  A resolution with a choice empties the queue and ends the
turn; one without leaves the session as it is.

Main definitions:

* `Storyworld.Choice` — what a vote is for;
* `Storyworld.SessionState.register`, `Storyworld.SessionState.queue` — players and votes;
* `Storyworld.winner` — **the vote that decides**;
* `Storyworld.SessionState.resolve` — resolving the votes;
* `Storyworld.Engine.openSession` and the turns behind it — the same on a game.
-/

import Storyworld.Game.Document
import Storyworld.Json.Pairs
import Storyworld.Play.Move

set_option relaxedAutoImplicit false
set_option autoImplicit false

namespace Storyworld

/-! ### Votes -/

/-- What a vote is for. -/
inductive Choice where
  | action (id : String)
  | exit (label : String)
deriving DecidableEq

/-- What a vote is for.  A vote that names an action is for the action. -/
def Vote.choice (v : Vote) : Choice :=
  match v.actionId with
  | some id => .action id
  | none => .exit (v.exitLabel.getD "")

/-- Whether a vote names exactly one of an action and an exit. -/
def Vote.isDecided (v : Vote) : Bool := v.actionId.isSome != v.exitLabel.isSome

/-- How votes are resolved: the way of doing so, and how many votes it takes at least. -/
structure Ballot where
  mode : String
  required : Option Int

/-- The usual way: the earliest vote counts. -/
def Ballot.usual : Ballot := ⟨"first", none⟩

/-- What comes of resolving votes: the vote that decides, or why there is none. -/
structure Resolved where
  chosen : Option Vote
  votes : List Vote
  reason : Option String

/-! ### Deciding -/

/-- How many votes are for a choice. -/
def votesFor (votes : List Vote) (c : Choice) : Nat := votes.countP fun v => v.choice = c

/-- The earliest vote for a choice that more than half of the votes are for. -/
def majority? (votes : List Vote) : Option Vote :=
  votes.find? fun v => votes.length < 2 * votesFor votes v.choice

/-- The earliest vote, if all votes are for the same choice. -/
def consensus? (votes : List Vote) : Option Vote :=
  votes.head?.filter fun v => votes.all fun w => w.choice = v.choice

/-- **The vote that decides**, if there is one. -/
def winner (mode : String) (votes : List Vote) : Except Fault (Option Vote) :=
  match mode with
  | "first" => .ok votes.head?
  | "majority" => .ok (majority? votes)
  | "consensus" => .ok (consensus? votes)
  | mode => .error (.unknownMode mode)

/-- Why votes are not resolved before one of them is looked at. -/
def Ballot.obstacle? (b : Ballot) (votes : List Vote) : Option String :=
  match b.required with
  | some n =>
    if (votes.length : Int) < n then some s!"Waiting for votes ({votes.length}/{n})"
    else if votes.isEmpty then some "No votes queued"
    else none
  | none => if votes.isEmpty then some "No votes queued" else none

namespace SessionState

/-! ### Sessions -/

/-- The votes in the queue. -/
def votes (s : SessionState) : List Vote := s.pending.getD []

/-- The votes in the queue, the earliest one first. -/
def orderedVotes (s : SessionState) : List Vote := s.votes.mergeSort fun v w => v.seq ≤ w.seq

/-- Adds a player.  A player who is registered stays as before. -/
def register (s : SessionState) (p : Player) : Player × SessionState :=
  match s.player? p.id with
  | some known => (known, s)
  | none => (p, { s with players := s.players ++ [p] })

/-- The number of the next vote: one more than the greatest in the queue. -/
def nextSeq (s : SessionState) : Int := ((s.votes.map Vote.seq).max?.getD (-1)) + 1

/-- **Queues a vote** in the place of an earlier one of the same player. -/
def queue (s : SessionState) (v : Vote) : Except Fault (Vote × SessionState) :=
  if (s.player? v.playerId).isNone then .error (.notRegistered v.playerId s.id)
  else if v.isDecided then
    let v := { v with seq := s.nextSeq }
    .ok (v, { s with pending := some ((s.votes.filter (·.playerId != v.playerId)) ++ [v]) })
  else .error .undecidedVote

/-- **Resolves the votes.** -/
def resolve (s : SessionState) (b : Ballot) : Except Fault (Resolved × SessionState) :=
  let votes := s.orderedVotes
  match b.obstacle? votes with
  | some reason => .ok (⟨none, votes, some reason⟩, s)
  | none =>
    match winner b.mode votes with
    | .error f => .error f
    | .ok none =>
      .ok (⟨none, votes, some s!"No {b.mode} among {votes.length} votes"⟩, s)
    | .ok (some v) =>
      .ok (⟨some v, votes, none⟩,
        { s with pending := some [], currentTurn := some (s.currentTurn.getD 0 + 1) })

end SessionState

/-! ### Sessions of games -/

namespace Engine

/-- Refuses where sessions are not enabled. -/
def requireSessions (e : Engine) : Turn Unit :=
  if e.features.sessions then pure () else throw .sessionsDisabled

/-- Puts a session into the state of the game. -/
def setSession (session : SessionState) : Turn Unit :=
  Turn.change fun s => { s with session := some session }

/-- **Opens a session**: nobody has joined it, and no turn is over. -/
def openSession (e : Engine) (id : String) : Turn SessionState := do
  e.requireSessions
  let session : SessionState := ⟨id, [], some 0, some []⟩
  setSession session
  return session

/-- The session of the game, which is put there if it is missing. -/
def requireSession (e : Engine) : Turn SessionState := do
  e.requireSessions
  match (← Turn.state).session with
  | some session => return session
  | none =>
    setSession .unopened
    return .unopened

/-- Registers a player whom a document describes. -/
def registerPlayer (e : Engine) (given : Json) : Turn Player := do
  let session ← e.requireSession
  let fields ← Turn.ofExcept given.givenFields
  let player ← Turn.ofExcept ((fit Game.playerShape (.obj fields)).map Player.ofDocument)
  let (known, session) := session.register player
  setSession session
  return known

/-- The vote that a document describes. -/
def readVote (given : Json) : Except Fault Vote := (fit Game.voteShape given).map Vote.ofDocument

/-- Queues a vote that a document describes. -/
def queueVote (e : Engine) (given : Json) : Turn Vote := do
  let session ← e.requireSession
  let fields ← Turn.ofExcept given.givenFields
  let vote ← Turn.ofExcept (readVote (.obj fields))
  let (queued, session) ← Turn.ofExcept (session.queue vote)
  setSession session
  return queued

/-- Resolves the votes of the session. -/
def resolveVotes (e : Engine) (b : Ballot) : Turn Resolved := do
  let session ← e.requireSession
  let (resolved, session) ← Turn.ofExcept (session.resolve b)
  setSession session
  return resolved

/-- **Carries out what a vote is for.** -/
def carryOut (e : Engine) (v : Vote) : Turn SceneView :=
  match v.actionId, v.exitLabel with
  | some id, _ => e.act id
  | none, some label => e.leave (.label label)
  | none, none => throw .emptyChoice

end Engine

end Storyworld
