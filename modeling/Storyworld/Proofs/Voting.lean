/-
**A session stays in order.**

The players of a session register, vote, and have their votes resolved, in any order, and somebody
may open the session anew at any time.  Whatever they do, and whether it is accepted or rejected,
nobody is registered twice, every vote in the queue is the only one of a registered player and is
for one choice, and the votes stand in the order of their numbers.  The number that a client puts
on a vote has no say in this.  A call that is rejected changes nothing.

On a game that has a session, a call does no more than to answer from the session and to put the
session into the game that comes of it; so what is claimed of calls is claimed of sessions.

Main definitions:

* `Storyworld.SessionCall`, `Storyworld.SessionCall.turn` — a call on the session of a game;
* `Storyworld.SessionState.answer` — what comes of a call on a session;
* `Storyworld.SessionState.Orderly` — **a session in order**.

Main results:

* `Storyworld.SessionCall.on_turn` — a call on a game is a call on its session;
* `Storyworld.SessionState.queue_eq_ok`, `Storyworld.SessionState.resolve_eq_ok` — what a vote that
  is accepted and a resolution do to a session;
* `Storyworld.SessionState.Orderly.answer` — a call keeps a session in order;
* `Storyworld.Engine.session_stays_orderly` — **a session stays in order**.
-/

import Mathlib.Data.List.Nodup
import Storyworld.Proofs.Checked
import Storyworld.Proofs.Playthrough
import Storyworld.Session.Voting

set_option relaxedAutoImplicit false
set_option autoImplicit false

namespace Storyworld

/-! ### Calls -/

/-- A call on the session of a game.  Players and votes are given as documents. -/
inductive SessionCall where
  | openSession (id : String)
  | register (player : Json)
  | queue (vote : Json)
  | resolve (b : Ballot)

/-- What a call gives if it is accepted. -/
inductive SessionReply where
  | opened (s : SessionState)
  | registered (p : Player)
  | queued (v : Vote)
  | resolved (r : Resolved)

/-- The turn of a call. -/
def SessionCall.turn (e : Engine) : SessionCall → Turn SessionReply
  | openSession id => do return .opened (← e.openSession id)
  | register player => do return .registered (← e.registerPlayer player)
  | queue vote => do return .queued (← e.queueVote vote)
  | resolve b => do return .resolved (← e.resolveVotes b)

namespace SessionCall

/-- The player whom a document gives. -/
def playerIn (given : Json) : Except Fault Player := do
  let fields ← given.givenFields
  (fit Game.playerShape (.obj fields)).map Player.ofDocument

/-- The vote that a document gives. -/
def voteIn (given : Json) : Except Fault Vote := do
  let fields ← given.givenFields
  Engine.readVote (.obj fields)

end SessionCall

namespace SessionState

/-- A session that has just been opened. -/
def begun (id : String) : SessionState := ⟨id, [], some 0, some []⟩

/-- What a call on a session gives, and the session after it, or why the call is rejected. -/
def accept (s : SessionState) : SessionCall → Except Fault (SessionReply × SessionState)
  | .openSession id => .ok (.opened (begun id), begun id)
  | .register given => (SessionCall.playerIn given).map fun player =>
    (.registered (s.register player).1, (s.register player).2)
  | .queue given => (SessionCall.voteIn given >>= s.queue).map fun out => (.queued out.1, out.2)
  | .resolve b => (s.resolve b).map fun out => (.resolved out.1, out.2)

/-- **What comes of a call on a session**, and the session after it, which is the same as before if
the call is rejected. -/
def answer (s : SessionState) (call : SessionCall) : Except Fault SessionReply × SessionState :=
  match s.accept call with
  | .ok (reply, t) => (.ok reply, t)
  | .error f => (.error f, s)

end SessionState

/-- A play whose game has a session. -/
def Play.seat (p : Play) (s : SessionState) : Play :=
  { p with state := { p.state with session := some s } }

theorem Play.seat_of_session {p : Play} {s : SessionState} (h : p.state.session = some s) :
    p.seat s = p := by
  rw [seat, ← h]

namespace Turn

variable {α β γ : Type}

/-- What comes of a result that was computed and of a turn that goes on from it. -/
theorem on_ofExcept_bind (r : Except Fault α) (k : α → Turn β) (p : Play) :
    (ofExcept r >>= k).on p = match r with
      | .ok a => (k a).on p
      | .error f => (.error f, p) := by
  rw [on_bind, on_ofExcept]
  cases r <;> rfl

/-- Two results that are computed in a row are computed at once. -/
theorem ofExcept_bind (r : Except Fault α) (f : α → Except Fault β) (k : β → Turn γ) :
    (ofExcept r >>= fun a => ofExcept (f a) >>= k) = ofExcept (r >>= f) >>= k := by
  cases r <;> rfl

end Turn

section Calls

variable {e : Engine} (hsessions : e.features.sessions = true)

include hsessions

theorem on_requireSessions (p : Play) : e.requireSessions.on p = (.ok (), p) := by
  rw [Engine.requireSessions, if_pos hsessions, Turn.on_pure]

theorem on_requireSession (p : Play) (s : SessionState) :
    e.requireSession.on (p.seat s) = (.ok s, p.seat s) := by
  rw [Engine.requireSession, Turn.on_bind_ok (on_requireSessions hsessions _),
    Turn.on_bind_ok (Turn.on_state _)]
  rfl

/-- Opening a session does not ask whether there was one. -/
theorem on_openSession (id : String) (p : Play) :
    ((SessionCall.openSession id).turn e).on p =
      (.ok (.opened (.begun id)), p.seat (.begun id)) := by
  rw [SessionCall.turn, Engine.openSession, bind_assoc,
    Turn.on_bind_ok (on_requireSessions hsessions p)]
  rfl

/-- **A call on a game is a call on its session.** -/
theorem SessionCall.on_turn (call : SessionCall) (p : Play) (s : SessionState) :
    (call.turn e).on (p.seat s) = ((s.answer call).1, p.seat (s.answer call).2) := by
  have hsession := on_requireSession hsessions p s
  cases call with
  | openSession id => exact on_openSession hsessions id _
  | register given =>
      simp only [turn, Engine.registerPlayer, bind_assoc, Turn.ofExcept_bind]
      rw [Turn.on_bind_ok hsession, Turn.on_ofExcept_bind]
      simp only [SessionState.answer, SessionState.accept, playerIn]
      cases given.givenFields >>= fun fields =>
        (fit Game.playerShape (.obj fields)).map Player.ofDocument <;> rfl
  | queue given =>
      simp only [turn, Engine.queueVote, bind_assoc, Turn.ofExcept_bind]
      rw [Turn.on_bind_ok hsession, ← bind_assoc, Turn.on_ofExcept_bind]
      simp only [SessionState.answer, SessionState.accept, voteIn]
      cases (given.givenFields >>= fun fields => Engine.readVote (.obj fields)) >>= s.queue <;> rfl
  | resolve b =>
      simp only [turn, Engine.resolveVotes, bind_assoc]
      rw [Turn.on_bind_ok hsession, Turn.on_ofExcept_bind]
      simp only [SessionState.answer, SessionState.accept]
      cases s.resolve b <;> rfl

end Calls

/-! ### What a call does to a session -/

namespace SessionState

variable {s t : SessionState}

theorem player?_isNone {id : String} :
    (s.player? id).isNone = true ↔ id ∉ s.players.map Player.id := by
  simp [player?]

/-- The number of the next vote is greater than those in the queue. -/
theorem lt_nextSeq {v : Vote} (hv : v ∈ s.votes) : v.seq < s.nextSeq := by
  have hmem : v.seq ∈ s.votes.map Vote.seq := List.mem_map_of_mem hv
  obtain ⟨m, hm⟩ := Option.isSome_iff_exists.1 (List.isSome_max?_of_mem hmem)
  have hle : v.seq ≤ m := (List.max?_eq_some_iff.1 hm).2 _ hmem
  rw [nextSeq, hm]
  exact Int.lt_add_one_of_le hle

/-- **A vote that is accepted** is decided and comes from a registered player.  It gets the next
number, and stands behind the votes of the other players. -/
theorem queue_eq_ok {v w : Vote} (h : s.queue v = .ok (w, t)) :
    v.playerId ∈ s.players.map Player.id ∧ v.isDecided = true ∧ w = { v with seq := s.nextSeq } ∧
      t = { s with pending := some (s.votes.filter (·.playerId != w.playerId) ++ [w]) } := by
  unfold queue at h
  split at h
  · cases h
  · next hplayer =>
    rw [player?_isNone, Decidable.not_not] at hplayer
    split at h
    · next hdecided =>
      cases h
      exact ⟨hplayer, hdecided, rfl, rfl⟩
    · cases h

/-- **A resolution** lists the votes in the queue.  If it chooses one of them it empties the queue
and ends the turn, and otherwise it changes nothing. -/
theorem resolve_eq_ok {b : Ballot} {r : Resolved} (h : s.resolve b = .ok (r, t)) :
    r.votes = s.orderedVotes ∧ (r.chosen = none ∧ t = s ∨ r.chosen.isSome = true ∧
      t = { s with pending := some [], currentTurn := some (s.currentTurn.getD 0 + 1) }) := by
  unfold resolve at h
  dsimp only at h
  split at h
  · cases h
    exact ⟨rfl, .inl ⟨rfl, rfl⟩⟩
  · split at h
    · cases h
    · cases h
      exact ⟨rfl, .inl ⟨rfl, rfl⟩⟩
    · cases h
      exact ⟨rfl, .inr ⟨rfl, rfl⟩⟩

/-! ### Sessions in order -/

/-- **A session in order.** -/
structure Orderly (s : SessionState) : Prop where
  /-- nobody is registered twice -/
  players : (s.players.map Player.id).Nodup
  /-- a vote in the queue comes from a player who is registered -/
  registered : ∀ v ∈ s.votes, v.playerId ∈ s.players.map Player.id
  /-- nobody has two votes in the queue -/
  single : (s.votes.map Vote.playerId).Nodup
  /-- a vote in the queue is for an action or for an exit, and not for both -/
  decided : ∀ v ∈ s.votes, v.actionId.isSome = true ∧ v.exitLabel = none ∨
    v.actionId = none ∧ v.exitLabel.isSome = true
  /-- the votes in the queue stand in the order of their numbers -/
  ordered : s.votes.Pairwise fun v w => v.seq < w.seq

namespace Orderly

/-- The votes of a session in order need not be put in order. -/
theorem orderedVotes_eq (hs : s.Orderly) : s.orderedVotes = s.votes :=
  List.mergeSort_of_pairwise (hs.ordered.imp fun h => decide_eq_true (Int.le_of_lt h))

/-- Of a session with an empty queue only the players have to be in order. -/
theorem of_votes_eq_nil (hplayers : (s.players.map Player.id).Nodup) (hvotes : s.votes = []) :
    s.Orderly where
  players := hplayers
  registered := by simp [hvotes]
  single := by simp [hvotes]
  decided := by simp [hvotes]
  ordered := by simp [hvotes]

theorem begun (id : String) : (begun id).Orderly := of_votes_eq_nil List.nodup_nil rfl

theorem register (hs : s.Orderly) (p : Player) : (s.register p).2.Orderly := by
  unfold SessionState.register
  split
  · exact hs
  · next hnew =>
    have hid : p.id ∉ s.players.map Player.id := by
      rw [← player?_isNone, hnew]
      rfl
    have hplayers : (s.players ++ [p]).map Player.id = (s.players.map Player.id).concat p.id := by
      rw [List.concat_eq_append, List.map_append, List.map_singleton]
    refine { hs with players := ?_, registered := fun v hv => ?_ }
    · rw [hplayers]
      exact hs.players.concat hid
    · rw [List.map_append]
      exact List.mem_append_left _ (hs.registered v hv)

/-- The vote that is queued has the greatest number, and the earlier vote of its player is gone. -/
theorem queue (hs : s.Orderly) {v w : Vote} (h : s.queue v = .ok (w, t)) : t.Orderly := by
  obtain ⟨hplayer, hdecided, rfl, rfl⟩ := queue_eq_ok h
  have hothers : (s.votes.filter (·.playerId != v.playerId)).Sublist s.votes :=
    List.filter_sublist
  have hmem (x : Vote) (hx : x ∈ s.votes.filter (·.playerId != v.playerId) ++
      [{ v with seq := s.nextSeq }]) : x ∈ s.votes ∨ x = { v with seq := s.nextSeq } :=
    (List.mem_append.1 hx).imp hothers.mem List.mem_singleton.1
  refine { players := hs.players, registered := fun x hx => ?_, single := ?_,
           decided := fun x hx => ?_, ordered := ?_ }
  · rcases hmem x hx with hx | rfl
    · exact hs.registered x hx
    · exact hplayer
  · show (List.map Vote.playerId (_ ++ [_])).Nodup
    rw [List.map_append, List.map_singleton, ← List.concat_eq_append]
    refine (hs.single.sublist (hothers.map _)).concat fun hold => ?_
    obtain ⟨x, hx, hid⟩ := List.mem_map.1 hold
    exact bne_iff_ne.1 (List.mem_filter.1 hx).2 hid
  · rcases hmem x hx with hx | rfl
    · exact hs.decided x hx
    · revert hdecided
      rw [Vote.isDecided]
      cases v.actionId <;> cases v.exitLabel <;> simp
  · refine List.pairwise_append.2 ⟨hs.ordered.sublist hothers, List.pairwise_singleton _ _, ?_⟩
    intro x hx y hy
    rw [List.mem_singleton.1 hy]
    exact lt_nextSeq (hothers.mem hx)

theorem resolve (hs : s.Orderly) {b : Ballot} {r : Resolved} (h : s.resolve b = .ok (r, t)) :
    t.Orderly := by
  rcases (resolve_eq_ok h).2 with ⟨-, rfl⟩ | ⟨-, rfl⟩
  · exact hs
  · exact of_votes_eq_nil hs.players rfl

/-- **A call keeps a session in order**, whether it is accepted or rejected. -/
theorem answer (hs : s.Orderly) (call : SessionCall) : (s.answer call).2.Orderly := by
  unfold SessionState.answer
  split
  · next reply t h =>
    cases call with
    | openSession id =>
        cases h
        exact begun id
    | register given =>
        obtain ⟨player, -, hreply⟩ := map_eq_ok h
        cases hreply
        exact hs.register player
    | queue given =>
        obtain ⟨out, hqueue, hreply⟩ := map_eq_ok h
        cases hreply
        cases hv : SessionCall.voteIn given with
        | error f => rw [hv] at hqueue; cases hqueue
        | ok v => rw [hv] at hqueue; exact hs.queue hqueue
    | resolve b =>
        obtain ⟨out, hresolve, hreply⟩ := map_eq_ok h
        cases hreply
        exact hs.resolve hresolve
  · exact hs

end Orderly

/-- A call that is rejected leaves the session as it is. -/
theorem answer_error {call : SessionCall} {f : Fault} (h : (s.answer call).1 = .error f) :
    (s.answer call).2 = s := by
  unfold answer at h ⊢
  cases hr : s.accept call with
  | ok out => rw [hr] at h; cases h
  | error g => rfl

end SessionState

/-! ### Calls in a row -/

/-- **A session stays in order.**  Once it has been opened, every sequence of calls leads to a
session in order, in which a call that is rejected changes nothing of the game. -/
theorem Engine.session_stays_orderly {e : Engine} (hsessions : e.features.sessions = true)
    (id : String) (calls : List SessionCall) (p : Play) :
    let q := (Turn.onAll ((SessionCall.openSession id :: calls).map (SessionCall.turn e)) p).2
    (∃ s, q.state.session = some s ∧ s.Orderly) ∧
      ∀ (call : SessionCall) (f : Fault) (q' : Play),
        (call.turn e).on q = (.error f, q') → q' = q := by
  intro q
  have hcall (t : Turn SessionReply) (ht : t ∈ calls.map (SessionCall.turn e)) (p : Play)
      (hp : ∃ s, p.state.session = some s ∧ s.Orderly) :
      ∃ s, (t.on p).2.state.session = some s ∧ s.Orderly := by
    obtain ⟨call, -, rfl⟩ := List.mem_map.1 ht
    obtain ⟨s, hs, hord⟩ := hp
    have hturn := call.on_turn hsessions p s
    rw [Play.seat_of_session hs] at hturn
    rw [hturn]
    exact ⟨_, rfl, hord.answer call⟩
  have hopened : ∃ s, (((SessionCall.openSession id).turn e).on p).2.state.session = some s ∧
      s.Orderly := by
    rw [on_openSession hsessions id p]
    exact ⟨_, rfl, .begun id⟩
  obtain ⟨s, hs, hord⟩ : ∃ s, q.state.session = some s ∧ s.Orderly :=
    Turn.onAll_invariant hcall hopened
  refine ⟨⟨s, hs, hord⟩, fun call f q' h => ?_⟩
  have hturn := call.on_turn hsessions q s
  rw [Play.seat_of_session hs, h] at hturn
  obtain ⟨hf, rfl⟩ := Prod.mk.inj hturn
  rw [SessionState.answer_error hf.symm, Play.seat_of_session hs]

namespace LanternRoad

/-- A player of a session, as a document. -/
def seated (id : String) : Json := .obj [("id", .str id)]

/-- A vote for an action, as a document, with a number that the client made up. -/
def voting (id actionId : String) : Json :=
  .obj [("playerId", .str id), ("actionId", .str actionId), ("seq", .int 7)]

theorem sessions_enabled : engine.features.sessions = true := by
  obtain ⟨-, h⟩ := Engine.of_build build_eq
  rw [h]
  rfl

end LanternRoad

/-- Ann and Ben vote on the Lantern Road, Ann changes her mind, and Cid is not registered. -/
theorem Engine.session_stays_orderly_lanternRoad :
    let e := LanternRoad.engine
    let calls := [.register (LanternRoad.seated "ann"), .register (LanternRoad.seated "ben"),
      .queue (LanternRoad.voting "ann" "act.talk"), .queue (LanternRoad.voting "ben" "act.talk"),
      .queue (LanternRoad.voting "ann" "act.rest"), .queue (LanternRoad.voting "cid" "act.rest")]
    let q := (Turn.onAll ((SessionCall.openSession "table" :: calls).map (SessionCall.turn e))
      (e.beginning LanternRoad.traveller LanternRoad.alone)).2
    e.features.sessions = true ∧ (∃ s, q.state.session = some s ∧ s.Orderly) ∧
      ∀ (call : SessionCall) (f : Fault) (q' : Play),
        (call.turn e).on q = (.error f, q') → q' = q :=
  ⟨LanternRoad.sessions_enabled,
    Engine.session_stays_orderly LanternRoad.sessions_enabled _ _ _⟩

end Storyworld
