/-
**Which vote decides.**

What a resolution decides is said here without the order in which the votes are looked through.  A
choice wins by its number of votes, or because the earliest vote is for it; and the vote that
decides is the earliest vote for the choice that wins.  Of the three ways of resolving votes, only
the one in which the earliest vote counts depends on the order of the queue.  For the other two it
does not matter in which order the same votes were queued: no two choices can win at once, and the
winner can be told from how many votes are for what.

Main definitions:

* `Storyworld.Way` — the three ways of resolving votes;
* `Storyworld.Earliest` — the earliest of some votes;
* `Storyworld.Wins` — **a choice wins**;
* `Storyworld.Ballot.Waits` — fewer votes are there than it takes;
* `Storyworld.Decision` — what a resolution of votes has to be like;
* `Storyworld.Engine.verdict` — the choice that the votes of a game come to.

Main results:

* `Storyworld.Wins.unique`, `Storyworld.Wins.perm` — no two choices win, in whatever order;
* `Storyworld.winner_eq_some_iff` — the vote that decides;
* `Storyworld.SessionState.resolve_decision` — a resolution is a decision;
* `Storyworld.SessionState.casts_queueAll` — the votes after some were queued in a row;
* `Storyworld.Engine.votes_decide` — **votes are resolved as they should be, in whatever order**.
-/

import Storyworld.Proofs.Tally

set_option relaxedAutoImplicit false
set_option autoImplicit false

namespace Storyworld

/-! ### The choice that wins -/

/-- A way of resolving votes. -/
inductive Way where
  /-- the earliest vote counts -/
  | first
  /-- the choice of more than half of the votes counts -/
  | majority
  /-- the choice of all votes counts -/
  | consensus
deriving DecidableEq

/-- The name of a way of resolving votes. -/
def Way.name : Way → String
  | first => "first"
  | majority => "majority"
  | consensus => "consensus"

/-- The earliest of the votes that have a property. -/
structure Earliest (P : Vote → Prop) (votes : List Vote) (v : Vote) : Prop where
  mem : v ∈ votes
  has : P v
  least : ∀ w ∈ votes, P w → v.seq ≤ w.seq

/-- **A choice wins**, when votes are resolved in one of the three ways. -/
inductive Wins (votes : List Vote) (c : Choice) : Way → Prop
  /-- the earliest vote is for it -/
  | first {v : Vote} (hv : Earliest (fun _ => True) votes v) (hc : v.choice = c) :
      Wins votes c .first
  /-- more than half of the votes are for it -/
  | majority (h : votes.length < 2 * votesFor votes c) : Wins votes c .majority
  /-- all votes are for it, and there is one at least -/
  | consensus (hne : votes ≠ []) (h : ∀ v ∈ votes, v.choice = c) : Wins votes c .consensus

variable {votes votes' : List Vote} {c c' : Choice} {way : Way} {v : Vote}

theorem votesFor_eq_count (votes : List Vote) (c : Choice) :
    votesFor votes c = (votes.map Vote.choice).count c := by
  rw [votesFor, List.count, List.countP_map]
  rfl

/-- A vote is for one choice only. -/
theorem votesFor_add_le (votes : List Vote) (hne : c ≠ c') :
    votesFor votes c + votesFor votes c' ≤ votes.length := by
  induction votes with
  | nil => exact Nat.le_refl 0
  | cons v votes ih =>
      have hboth : ¬(v.choice = c ∧ v.choice = c') := fun h => hne (h.1.symm.trans h.2)
      simp only [votesFor, List.countP_cons, List.length_cons, decide_eq_true_eq] at ih ⊢
      split <;> split <;> first | omega | exact absurd ⟨‹_›, ‹_›⟩ hboth

/-- A choice that wins has a vote. -/
theorem Wins.exists_vote (h : Wins votes c way) : ∃ v ∈ votes, v.choice = c := by
  cases h with
  | first hv hc => exact ⟨_, hv.mem, hc⟩
  | majority h =>
      have hpos : 0 < votesFor votes c := by omega
      simpa [votesFor, List.countP_pos_iff] using hpos
  | consensus hne h =>
      obtain ⟨v, hv⟩ := List.exists_mem_of_ne_nil votes hne
      exact ⟨v, hv, h v hv⟩

/-- **No two choices win**, if it is not the earliest vote that counts. -/
theorem Wins.unique (hway : way ≠ .first) (h : Wins votes c way) (h' : Wins votes c' way) :
    c = c' := by
  cases h with
  | first => exact absurd rfl hway
  | majority h =>
      cases h' with
      | majority h' =>
          by_contra hne
          have hle := votesFor_add_le votes hne
          omega
  | consensus hne h =>
      cases h' with
      | consensus _ h' =>
          obtain ⟨v, hv⟩ := List.exists_mem_of_ne_nil votes hne
          rw [← h v hv, h' v hv]

/-- **Who wins does not depend on the order of the votes**, if it is not the earliest that
counts. -/
theorem Wins.perm (hway : way ≠ .first)
    (hperm : (votes.map Vote.choice).Perm (votes'.map Vote.choice)) (h : Wins votes c way) :
    Wins votes' c way := by
  have hlength : votes.length = votes'.length := by simpa using hperm.length_eq
  cases h with
  | first => exact absurd rfl hway
  | majority h =>
      rw [votesFor_eq_count, hperm.count_eq, ← votesFor_eq_count, hlength] at h
      exact .majority h
  | consensus hne h =>
      refine .consensus (fun hnil => hne (List.length_eq_zero_iff.1 ?_)) fun v hv => ?_
      · rw [hlength, hnil, List.length_nil]
      · obtain ⟨w, hw, hchoice⟩ := List.mem_map.1 (hperm.mem_iff.2 (List.mem_map_of_mem hv))
        rw [← hchoice, h w hw]

/-! ### The vote that decides -/

/-- Votes stand in the order of their numbers. -/
def InOrder (votes : List Vote) : Prop := votes.Pairwise fun v w => v.seq < w.seq

/-- The first vote of a queue that has a property is the earliest one. -/
theorem InOrder.find?_eq_some_iff (h : InOrder votes) {P : Vote → Bool} :
    votes.find? P = some v ↔ Earliest (fun w => P w = true) votes v := by
  induction votes with
  | nil => simpa using fun h : Earliest _ [] v => nomatch h.mem
  | cons x xs ih =>
      obtain ⟨hx, hxs⟩ := List.pairwise_cons.1 h
      cases hP : P x with
      | true =>
          rw [List.find?_cons_of_pos hP]
          constructor
          · intro hv
            cases hv
            exact ⟨List.mem_cons_self, hP, List.forall_mem_cons.2
              ⟨fun _ => Int.le_refl _, fun w hw _ => Int.le_of_lt (hx w hw)⟩⟩
          · intro hv
            rcases List.mem_cons.1 hv.mem with rfl | hmem
            · rfl
            · -- a later vote would have to have a smaller number
              have hlt := hx v hmem
              have hle := hv.least x List.mem_cons_self hP
              omega
      | false =>
          rw [List.find?_cons_of_neg (by rw [hP]; exact Bool.false_ne_true), ih hxs]
          have hskip (w : Vote) (hw : w ∈ x :: xs) (hPw : P w = true) : w ∈ xs := by
            rcases List.mem_cons.1 hw with rfl | hw
            · rw [hP] at hPw
              cases hPw
            · exact hw
          constructor
          · intro hv
            exact ⟨List.mem_cons_of_mem _ hv.mem, hv.has,
              fun w hw hPw => hv.least w (hskip w hw hPw) hPw⟩
          · intro hv
            exact ⟨hskip v hv.mem hv.has, hv.has,
              fun w hw => hv.least w (List.mem_cons_of_mem _ hw)⟩

/-- There is an earliest vote for a choice that wins. -/
theorem Wins.exists_earliest (horder : InOrder votes) (h : Wins votes c way) :
    ∃ v, v.choice = c ∧ Earliest (fun w => w.choice = v.choice) votes v := by
  obtain ⟨w, hw, hc⟩ := h.exists_vote
  have hsome : (votes.find? fun w => w.choice = c).isSome = true :=
    List.find?_isSome.2 ⟨w, hw, decide_eq_true hc⟩
  obtain ⟨v, hv⟩ := Option.isSome_iff_exists.1 hsome
  have hearliest := horder.find?_eq_some_iff.1 hv
  have hchoice : v.choice = c := of_decide_eq_true hearliest.has
  refine ⟨v, hchoice, hearliest.mem, rfl, fun w hw hwc => ?_⟩
  exact hearliest.least w hw (decide_eq_true (hwc.trans hchoice))

theorem InOrder.head?_eq_some_iff (horder : InOrder votes) :
    votes.head? = some v ↔ Earliest (fun _ => True) votes v := by
  have hfind : votes.head? = votes.find? fun _ => true := by cases votes <;> rfl
  rw [hfind, horder.find?_eq_some_iff]
  simp only

/-- As soon as there is a vote, there is an earliest one. -/
theorem InOrder.exists_first (horder : InOrder votes) (hne : votes ≠ []) :
    ∃ c, Wins votes c .first := by
  obtain ⟨v, hv⟩ := Option.isSome_iff_exists.1 (List.isSome_head?.2 hne)
  exact ⟨v.choice, .first (horder.head?_eq_some_iff.1 hv) rfl⟩

theorem majority?_eq_some_iff (horder : InOrder votes) : majority? votes = some v ↔
    Wins votes v.choice .majority ∧ Earliest (fun w => w.choice = v.choice) votes v := by
  rw [majority?, horder.find?_eq_some_iff]
  constructor
  · intro h
    have hwins : votes.length < 2 * votesFor votes v.choice := of_decide_eq_true h.has
    refine ⟨.majority hwins, h.mem, rfl, fun w hw hwc => h.least w hw (decide_eq_true ?_)⟩
    rw [hwc]
    exact hwins
  · rintro ⟨hwins, h⟩
    refine ⟨h.mem, ?_, fun w hw hPw => h.least w hw ?_⟩
    · cases hwins with
      | majority hlt => exact decide_eq_true hlt
    · -- no other choice has more than half of the votes as well
      exact Wins.unique (by decide) (.majority (of_decide_eq_true hPw)) hwins

theorem consensus?_eq_some_iff (horder : InOrder votes) : consensus? votes = some v ↔
    Wins votes v.choice .consensus ∧ Earliest (fun w => w.choice = v.choice) votes v := by
  rw [consensus?, Option.filter_eq_some_iff, horder.head?_eq_some_iff]
  simp only [List.all_eq_true, decide_eq_true_eq]
  constructor
  · rintro ⟨h, hall⟩
    exact ⟨.consensus (List.ne_nil_of_mem h.mem) hall, h.mem, rfl,
      fun w hw _ => h.least w hw trivial⟩
  · rintro ⟨hwins, h⟩
    cases hwins with
    | consensus _ hall => exact ⟨⟨h.mem, trivial, fun w hw _ => h.least w hw (hall w hw)⟩, hall⟩

theorem first_eq_some_iff (horder : InOrder votes) : votes.head? = some v ↔
    Wins votes v.choice .first ∧ Earliest (fun w => w.choice = v.choice) votes v := by
  rw [horder.head?_eq_some_iff]
  constructor
  · intro h
    exact ⟨.first h rfl, h.mem, rfl, fun w hw _ => h.least w hw trivial⟩
  · rintro ⟨hwins, h⟩
    cases hwins with
    | first hw hc =>
        exact ⟨h.mem, trivial,
          fun x hx _ => Int.le_trans (h.least _ hw.mem hc) (hw.least x hx trivial)⟩

/-- **The vote that decides** is the earliest one for the choice that wins. -/
theorem winner_eq_some_iff (horder : InOrder votes) (way : Way) :
    ∃ o, winner way.name votes = .ok o ∧ ∀ v, o = some v ↔
      Wins votes v.choice way ∧ Earliest (fun w => w.choice = v.choice) votes v := by
  cases way with
  | first => exact ⟨_, rfl, fun _ => first_eq_some_iff horder⟩
  | majority => exact ⟨_, rfl, fun _ => majority?_eq_some_iff horder⟩
  | consensus => exact ⟨_, rfl, fun _ => consensus?_eq_some_iff horder⟩

/-! ### Resolutions -/

/-- Fewer votes are there than it takes. -/
def Ballot.Waits (b : Ballot) (votes : List Vote) : Prop :=
  ∃ n, b.required = some n ∧ (votes.length : Int) < n

theorem Ballot.obstacle?_eq_none_iff {b : Ballot} :
    b.obstacle? votes = none ↔ ¬ b.Waits votes ∧ votes ≠ [] := by
  unfold obstacle? Waits
  cases b.required with
  | none => simp
  | some n => by_cases hn : (votes.length : Int) < n <;> simp [hn]

/-- **What a resolution of votes has to be like.** -/
structure Decision (way : Way) (required : Option Int) (votes : List Vote) (r : Resolved) :
    Prop where
  /-- it lists the votes -/
  listed : r.votes = votes
  /-- it decides just if there are enough votes and a choice wins -/
  decides : r.chosen.isSome = true ↔
    ¬ Ballot.Waits ⟨way.name, required⟩ votes ∧ ∃ c, Wins votes c way
  /-- what it decides on is the earliest vote for the choice that wins -/
  chosen : ∀ v, r.chosen = some v →
    Wins votes v.choice way ∧ Earliest (fun w => w.choice = v.choice) votes v

namespace SessionState

variable {s t : SessionState}

/-- A session after a resolution: one with a choice empties the queue and ends the turn, and one
without leaves the session as it is. -/
def settled (s : SessionState) (r : Resolved) : SessionState :=
  if r.chosen.isSome then
    { s with pending := some [], currentTurn := some (s.currentTurn.getD 0 + 1) }
  else s

/-- **A resolution is a decision.** -/
theorem resolve_decision (hs : InOrder s.votes) (way : Way) (required : Option Int) :
    ∃ r, s.resolve ⟨way.name, required⟩ = .ok (r, s.settled r) ∧
      Decision way required s.votes r := by
  -- votes that stand in order are looked through as they stand
  have hvotes : s.orderedVotes = s.votes :=
    List.mergeSort_of_pairwise (hs.imp fun h => decide_eq_true (Int.le_of_lt h))
  obtain ⟨o, hwinner, hiff⟩ := winner_eq_some_iff hs way
  simp only [resolve, hvotes, hwinner]
  cases hobstacle : Ballot.obstacle? ⟨way.name, required⟩ s.votes with
  | some reason =>
      refine ⟨_, rfl, rfl, ⟨nofun, fun ⟨henough, c, hwins⟩ => ?_⟩, nofun⟩
      obtain ⟨v, hv, -⟩ := hwins.exists_vote
      rw [Ballot.obstacle?_eq_none_iff.2 ⟨henough, List.ne_nil_of_mem hv⟩] at hobstacle
      cases hobstacle
  | none =>
      have henough := (Ballot.obstacle?_eq_none_iff.1 hobstacle).1
      cases o with
      | none =>
          refine ⟨_, rfl, rfl, ⟨nofun, fun ⟨_, c, hwins⟩ => ?_⟩, nofun⟩
          obtain ⟨v, rfl, hv⟩ := hwins.exists_earliest hs
          cases (hiff v).2 ⟨hwins, hv⟩
      | some v =>
          have hv := (hiff v).1 rfl
          refine ⟨_, rfl, rfl, ⟨fun _ => ⟨henough, v.choice, hv.1⟩, fun _ => rfl⟩, ?_⟩
          rintro _ ⟨⟩
          exact hv

/-! ### Votes that are queued in a row -/

end SessionState

/-- Who votes, and for what. -/
def Vote.cast (v : Vote) : String × Choice := (v.playerId, v.choice)

/-- What players have cast, after one of them votes. -/
def recast (casts : List (String × Choice)) (cast : String × Choice) : List (String × Choice) :=
  casts.filter (·.1 != cast.1) ++ [cast]

/-- What players have cast after votes of different players: the votes of all others, and these. -/
theorem foldl_recast {added : List (String × Choice)} (hplayers : (added.map Prod.fst).Nodup)
    (casts : List (String × Choice)) : added.foldl recast casts =
      casts.filter (fun cast => cast.1 ∉ added.map Prod.fst) ++ added := by
  induction added generalizing casts with
  | nil => simp
  | cons cast added ih =>
      rw [List.map_cons, List.nodup_cons] at hplayers
      rw [List.foldl_cons, ih hplayers.2, recast, List.filter_append, List.filter_filter,
        List.filter_cons_of_pos (by simpa using hplayers.1), List.filter_nil, List.append_assoc,
        List.singleton_append]
      congr 1
      refine List.filter_congr fun x _ => ?_
      rw [List.map_cons, Bool.eq_iff_iff]
      simp [not_or, and_comm]

namespace SessionState

variable {s t : SessionState}

/-- The vote in a document, if the players of a session may cast it. -/
def vote? (s : SessionState) (given : Json) : Option Vote :=
  (SessionCall.voteIn given).toOption.filter fun v => (s.player? v.playerId).isSome && v.isDecided

/-- A session after votes in a row. -/
def queueAll (s : SessionState) (ballots : List Json) : SessionState :=
  ballots.foldl (fun s given => (s.answer (.queue given)).2) s

/-- A session with a vote at the end of its queue, in the place of an earlier one. -/
def withVote (s : SessionState) (v : Vote) : SessionState :=
  { s with pending := some (s.votes.filter (·.playerId != v.playerId) ++ [v]) }

/-- **A session after a vote.** -/
theorem answer_queue (s : SessionState) (given : Json) : (s.answer (.queue given)).2 =
    match s.vote? given with
    | some v => s.withVote { v with seq := s.nextSeq }
    | none => s := by
  simp only [answer, accept, vote?]
  cases SessionCall.voteIn given with
  | error f => rfl
  | ok v =>
      simp only [Except.toOption, Option.filter_some, bind, Except.bind, queue]
      cases s.player? v.playerId with
      | none => rfl
      | some player => cases v.isDecided <;> rfl

theorem answer_queue_players (s : SessionState) (given : Json) :
    (s.answer (.queue given)).2.players = s.players := by
  rw [answer_queue]
  split <;> rfl

/-- Which votes may be cast is up to the players. -/
theorem vote?_congr (h : t.players = s.players) (given : Json) : t.vote? given = s.vote? given := by
  simp only [vote?, player?, h]

theorem inOrder_answer_queue (hs : InOrder s.votes) (given : Json) :
    InOrder (s.answer (.queue given)).2.votes := by
  rw [answer_queue]
  split
  · refine List.pairwise_append.2 ⟨hs.sublist List.filter_sublist, List.pairwise_singleton _ _, ?_⟩
    intro x hx y hy
    rw [List.mem_singleton.1 hy]
    exact lt_nextSeq (List.mem_of_mem_filter hx)
  · exact hs

theorem inOrder_queueAll (hs : InOrder s.votes) (ballots : List Json) :
    InOrder (s.queueAll ballots).votes := by
  induction ballots generalizing s with
  | nil => exact hs
  | cons given ballots ih => exact ih (inOrder_answer_queue hs given)

theorem casts_withVote (s : SessionState) (v : Vote) :
    (s.withVote v).votes.map Vote.cast = recast (s.votes.map Vote.cast) v.cast := by
  show List.map Vote.cast (_ ++ [v]) = _
  rw [List.map_append, recast, List.filter_map]
  rfl

/-- **What players have cast**, after votes in a row. -/
theorem casts_queueAll (s : SessionState) (ballots : List Json) :
    (s.queueAll ballots).votes.map Vote.cast =
      (ballots.filterMap fun given => (s.vote? given).map Vote.cast).foldl recast
        (s.votes.map Vote.cast) := by
  induction ballots generalizing s with
  | nil => rfl
  | cons given ballots ih =>
      have hsame : (fun x => ((s.answer (.queue given)).2.vote? x).map Vote.cast) =
          fun x => (s.vote? x).map Vote.cast :=
        funext fun x => by rw [vote?_congr (answer_queue_players s given)]
      refine (ih (s.answer (.queue given)).2).trans ?_
      rw [hsame, answer_queue]
      cases hvote : s.vote? given with
      | none => rw [List.filterMap_cons_none (by rw [hvote]; rfl)]
      | some v =>
          rw [List.filterMap_cons_some (by rw [hvote]; rfl), List.foldl_cons]
          exact congrArg (List.foldl recast · _) (casts_withVote s _)

/-- **The same votes in another order** are as many votes for each choice. -/
theorem choices_queueAll_perm {ballots ballots' : List Json} (hperm : ballots.Perm ballots')
    (hplayers : (ballots.filterMap fun given => (s.vote? given).map Vote.playerId).Nodup) :
    ((s.queueAll ballots).votes.map Vote.choice).Perm
      ((s.queueAll ballots').votes.map Vote.choice) := by
  -- each player votes once, so the votes of all others stay, and these come after them in a row
  let casts (ballots : List Json) := ballots.filterMap fun given => (s.vote? given).map Vote.cast
  have hcasts : (casts ballots).Perm (casts ballots') := hperm.filterMap _
  have hfirst : ((casts ballots).map Prod.fst).Nodup := by
    rwa [List.map_filterMap, show (fun given => ((s.vote? given).map Vote.cast).map Prod.fst) =
      fun given => (s.vote? given).map Vote.playerId from funext fun _ => Option.map_map ..]
  have hsecond : ((casts ballots').map Prod.fst).Nodup := (hcasts.map _).nodup_iff.1 hfirst
  have hchoices (t : SessionState) :
      t.votes.map Vote.choice = (t.votes.map Vote.cast).map Prod.snd := by
    rw [List.map_map]
    rfl
  have hothers : (fun cast : String × Choice => decide (cast.1 ∉ (casts ballots).map Prod.fst)) =
      fun cast => decide (cast.1 ∉ (casts ballots').map Prod.fst) :=
    funext fun cast => decide_eq_decide.2 (not_congr (hcasts.map _).mem_iff)
  rw [hchoices, hchoices, casts_queueAll, casts_queueAll, foldl_recast hfirst, foldl_recast hsecond,
    hothers]
  exact ((List.Perm.refl _).append hcasts).map _

end SessionState

/-! ### Votes on a game -/

namespace Engine

variable {e : Engine} {p q : Play} {s t : SessionState}

/-- The choice that the votes of a game come to when they are resolved. -/
def verdict (e : Engine) (b : Ballot) (p : Play) : Option Choice :=
  match ((e.resolveVotes b).on p).1 with
  | .ok r => r.chosen.map Vote.choice
  | .error _ => none

section Votes

variable (hsessions : e.features.sessions = true)

include hsessions

/-- Resolving the votes of a game is resolving those of its session. -/
theorem on_resolveVotes (b : Ballot) (p : Play) (s : SessionState) :
    (e.resolveVotes b).on (p.seat s) = match s.resolve b with
      | .ok (r, t) => (.ok r, p.seat t)
      | .error f => (.error f, p.seat s) := by
  rw [resolveVotes, Turn.on_bind_ok (on_requireSession hsessions p s), Turn.on_ofExcept_bind]
  cases s.resolve b <;> rfl

/-- **The votes of a game are resolved**, and the game is as before but for its session. -/
theorem on_resolveVotes_decision (hp : p.state.session = some s) (hs : InOrder s.votes) (way : Way)
    (required : Option Int) :
    ∃ r, (e.resolveVotes ⟨way.name, required⟩).on p = (.ok r, p.seat (s.settled r)) ∧
      Decision way required s.votes r := by
  obtain ⟨r, hr, hdecision⟩ := SessionState.resolve_decision hs way required
  refine ⟨r, ?_, hdecision⟩
  have hon := on_resolveVotes hsessions ⟨way.name, required⟩ p s
  rwa [Play.seat_of_session hp, hr] at hon

/-- **What votes come to does not depend on their order**, if it is not the earliest that counts. -/
theorem verdict_perm {way : Way} (hway : way ≠ .first) (required : Option Int)
    (hp : p.state.session = some s) (hs : InOrder s.votes) (hq : q.state.session = some t)
    (ht : InOrder t.votes) (hperm : (s.votes.map Vote.choice).Perm (t.votes.map Vote.choice)) :
    e.verdict ⟨way.name, required⟩ q = e.verdict ⟨way.name, required⟩ p := by
  obtain ⟨r, hr, hdecision⟩ := on_resolveVotes_decision hsessions hp hs way required
  obtain ⟨r', hr', hdecision'⟩ := on_resolveVotes_decision hsessions hq ht way required
  have hlength : s.votes.length = t.votes.length := by simpa using hperm.length_eq
  have hdecides : r.chosen.isSome = true ↔ r'.chosen.isSome = true := by
    rw [hdecision.decides, hdecision'.decides, Ballot.Waits, Ballot.Waits, hlength]
    refine and_congr_right fun _ => exists_congr fun c => ?_
    exact ⟨Wins.perm hway hperm, Wins.perm hway hperm.symm⟩
  simp only [verdict, hr, hr']
  cases hv : r.chosen with
  | none =>
      rw [hv] at hdecides
      rw [Option.not_isSome_iff_eq_none.1 fun h => nomatch hdecides.2 h]
  | some v =>
      obtain ⟨v', hv'⟩ := Option.isSome_iff_exists.1 (hdecides.1 (by rw [hv]; rfl))
      rw [hv']
      have hwins := (hdecision.chosen v hv).1.perm hway hperm
      exact congrArg some ((hdecision'.chosen v' hv').1.unique hway hwins)

/-- A game after votes in a row has the session after these votes. -/
theorem session_onAll_queue (hp : p.state.session = some s) (ballots : List Json) :
    (Turn.onAll (ballots.map fun given => (SessionCall.queue given).turn e) p).2.state.session =
      some (s.queueAll ballots) := by
  induction ballots generalizing p s with
  | nil => exact hp
  | cons given ballots ih =>
      have hturn := (SessionCall.queue given).on_turn hsessions p s
      rw [Play.seat_of_session hp] at hturn
      refine ih (s := (s.answer (.queue given)).2) ?_
      rw [hturn]
      rfl

/-- **Votes are resolved as they should be, in whatever order.**  On a game whose session has votes
in the order of their numbers, a resolution in one of the three ways gives a result.  It decides
just if there are enough votes and a choice wins, and then on the earliest vote for that choice; it
then empties the queue and ends the turn, and otherwise it changes nothing.  Where the earliest vote
counts, a choice wins as soon as there is a vote.  Where it does not, the choice is the same on any
other game whose session has as many votes for each choice; and so it is if different players queue
the same votes in another order. -/
theorem votes_decide (hp : p.state.session = some s) (hs : InOrder s.votes) (way : Way)
    (required : Option Int) :
    (∃ r, (e.resolveVotes ⟨way.name, required⟩).on p = (.ok r, p.seat (s.settled r)) ∧
      Decision way required s.votes r) ∧
    (s.votes ≠ [] → ∃ c, Wins s.votes c .first) ∧
    (way ≠ .first →
      (∀ (q : Play) (t : SessionState), q.state.session = some t → InOrder t.votes →
        (s.votes.map Vote.choice).Perm (t.votes.map Vote.choice) →
          e.verdict ⟨way.name, required⟩ q = e.verdict ⟨way.name, required⟩ p) ∧
      ∀ ballots ballots' : List Json, ballots.Perm ballots' →
        (ballots.filterMap fun given => (s.vote? given).map Vote.playerId).Nodup →
          e.verdict ⟨way.name, required⟩
              (Turn.onAll (ballots'.map fun given => (SessionCall.queue given).turn e) p).2 =
            e.verdict ⟨way.name, required⟩
              (Turn.onAll (ballots.map fun given => (SessionCall.queue given).turn e) p).2) := by
  refine ⟨on_resolveVotes_decision hsessions hp hs way required, hs.exists_first, fun hway =>
    ⟨fun q t hq ht hperm => verdict_perm hsessions hway required hp hs hq ht hperm, ?_⟩⟩
  intro ballots ballots' hperm hplayers
  exact verdict_perm hsessions hway required (session_onAll_queue hsessions hp ballots)
    (SessionState.inOrder_queueAll hs ballots) (session_onAll_queue hsessions hp ballots')
    (SessionState.inOrder_queueAll hs ballots') (SessionState.choices_queueAll_perm hperm hplayers)

end Votes

end Engine

namespace LanternRoad

/-- Ann, Ben and Cid at a table.  Ann wants to talk and Ben to rest; Cid has not voted yet. -/
def table : SessionState where
  id := "table"
  players := [⟨"ann", none, none⟩, ⟨"ben", none, none⟩, ⟨"cid", none, none⟩]
  currentTurn := some 4
  pending := some [⟨"ann", some "act.talk", none, defaultTimestamp, 0⟩,
    ⟨"ben", some "act.rest", none, defaultTimestamp, 2⟩]

end LanternRoad

/-- Cid wants to talk, and Ann changes her mind, in one order or the other. -/
theorem Engine.votes_decide_lanternRoad :
    let e := LanternRoad.engine
    let s := LanternRoad.table
    let p := (e.beginning LanternRoad.traveller LanternRoad.alone).seat s
    let ballots := [LanternRoad.voting "cid" "act.talk", LanternRoad.voting "ann" "act.rest"]
    e.features.sessions = true ∧ p.state.session = some s ∧ InOrder s.votes ∧
      (ballots.filterMap fun given => (s.vote? given).map Vote.playerId).Nodup ∧
      (∃ r, (e.resolveVotes ⟨"majority", some 2⟩).on p = (.ok r, p.seat (s.settled r)) ∧
        Decision .majority (some 2) s.votes r) ∧
      (s.votes ≠ [] → ∃ c, Wins s.votes c .first) ∧
      e.verdict ⟨"majority", some 2⟩
          (Turn.onAll (ballots.reverse.map fun given => (SessionCall.queue given).turn e) p).2 =
        e.verdict ⟨"majority", some 2⟩
          (Turn.onAll (ballots.map fun given => (SessionCall.queue given).turn e) p).2 := by
  intro e s p ballots
  have horder : InOrder s.votes := by
    show List.Pairwise _ [_, _]
    simp
  have hplayers : (ballots.filterMap fun given => (s.vote? given).map Vote.playerId).Nodup := by
    decide +kernel
  obtain ⟨hresolved, hfirst, hperm⟩ :=
    Engine.votes_decide LanternRoad.sessions_enabled (p := p) rfl horder .majority (some 2)
  exact ⟨LanternRoad.sessions_enabled, rfl, horder, hplayers, hresolved, hfirst,
    (hperm (by decide)).2 ballots _ (List.reverse_perm ballots).symm hplayers⟩

end Storyworld
