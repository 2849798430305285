/-
**No vote is lost or counted twice.**

The log of a session says what came of each call.  A vote that was accepted is accounted for by the
call that queued it, as two votes may well be alike.  Either its player votes again before anything
is decided, or the first resolution after it that decides something lists it, and no other does, or
it is still in the queue.  A resolution that decides nothing leaves all votes where they are.

The calls whose votes a decision lists, and the calls whose votes are in the queue, are kept as lists
of numbers next to the log.  A vote moves from the queue of numbers to the lists in the same way as
the vote itself moves from the queue of the session to the votes of a decision.

Main definitions:

* `Storyworld.voteAt`, `Storyworld.decisionAt` — the votes and the decisions of a log;
* `Storyworld.Replaced`, `Storyworld.DecidedBy` — what may become of a vote;
* `Storyworld.Tally` — **every vote of a log is accounted for**.

Main results:

* `Storyworld.SessionState.answer_cases` — what a call does to the votes of a session;
* `Storyworld.Tally.answer` — a call keeps every vote accounted for;
* `Storyworld.Engine.votes_are_accounted_for` — **no vote is lost or counted twice**.
-/

import Storyworld.Proofs.Voting

set_option relaxedAutoImplicit false
set_option autoImplicit false

namespace Storyworld

/-! ### Votes and decisions of a log -/

/-- What comes of a call. -/
abbrev Outcome : Type := Except Fault SessionReply

/-- The vote that a call queues. -/
def voted? : Outcome → Option Vote
  | .ok (.queued v) => some v
  | _ => none

/-- The resolution that a call brings about.  One without a choice decides nothing. -/
def decided? : Outcome → Option Resolved
  | .ok (.resolved r) => if r.chosen.isSome then some r else none
  | _ => none

/-- The vote that the call with a number queues. -/
def voteAt (log : List Outcome) (i : Nat) : Option Vote := log[i]?.bind voted?

/-- The decision that the call with a number brings about. -/
def decisionAt (log : List Outcome) (i : Nat) : Option Resolved := log[i]?.bind decided?

/-- **A vote is replaced**: its player votes again before anything is decided. -/
def Replaced (log : List Outcome) (i : Nat) : Prop :=
  ∃ j v w, i < j ∧ voteAt log i = some v ∧ voteAt log j = some w ∧ w.playerId = v.playerId ∧
    ∀ k, i < k → k < j → decisionAt log k = none

/-- The first decision after a call. -/
def DecidedBy (log : List Outcome) (i k : Nat) : Prop :=
  i < k ∧ (decisionAt log k).isSome = true ∧ ∀ j, i < j → j < k → decisionAt log j = none

/-- **Every vote of a log is accounted for**, where `lists` are the calls whose votes a decision
lists, and `waiting` are those whose votes are in the queue. -/
structure Tally (log : List Outcome) (s : SessionState) (lists : Nat → List Nat)
    (waiting : List Nat) : Prop where
  /-- a decision lists the votes of calls before it, each call once and each player once -/
  decisions : ∀ k r, decisionAt log k = some r → (lists k).Pairwise (· < ·) ∧
    r.votes.map some = (lists k).map (voteAt log) ∧ (r.votes.map Vote.playerId).Nodup
  /-- a call that decides nothing lists nothing -/
  undecided : ∀ k, decisionAt log k = none → lists k = []
  /-- in the queue are the votes of the calls that wait, each call once -/
  queue : waiting.Pairwise (· < ·) ∧ s.votes.map some = waiting.map (voteAt log)
  /-- a vote is replaced, or it is listed by the first decision after it and by no other, or it
  waits; and never two of these at once -/
  fates : ∀ i v, voteAt log i = some v →
    Replaced log i ∧ (∀ k, i ∉ lists k) ∧ i ∉ waiting ∨
    ¬ Replaced log i ∧ (∃ k, DecidedBy log i k ∧ ∀ l, i ∈ lists l ↔ l = k) ∧ i ∉ waiting ∨
    ¬ Replaced log i ∧ (∀ k, i ∉ lists k) ∧ i ∈ waiting ∧ ∀ k, i < k → decisionAt log k = none
  /-- every decision ends a turn -/
  turns : s.currentTurn = some ((log.filterMap decided?).length : Int)

/-! ### A call more -/

section Concat

variable {α : Type} {log : List Outcome} {o : Outcome}

theorem bind_concat (f : Outcome → Option α) (log : List Outcome) (o : Outcome) (i : Nat) :
    (log ++ [o])[i]?.bind f = if i = log.length then f o else log[i]?.bind f := by
  split
  · next h => rw [h, List.getElem?_concat_length, Option.bind_some]
  · next h =>
    rw [List.getElem?_append]
    split
    · rfl
    · rw [List.getElem?_eq_none (l := [o]) (by rw [List.length_singleton]; omega),
        List.getElem?_eq_none (l := log) (by omega)]

theorem bind_eq_none_of_le (f : Outcome → Option α) {i : Nat} (hi : log.length ≤ i) :
    log[i]?.bind f = none := by
  rw [List.getElem?_eq_none hi, Option.bind_none]

theorem voteAt_concat (log : List Outcome) (o : Outcome) (i : Nat) :
    voteAt (log ++ [o]) i = if i = log.length then voted? o else voteAt log i :=
  bind_concat voted? log o i

theorem decisionAt_concat (log : List Outcome) (o : Outcome) (i : Nat) :
    decisionAt (log ++ [o]) i = if i = log.length then decided? o else decisionAt log i :=
  bind_concat decided? log o i

theorem voteAt_of_le {i : Nat} (hi : log.length ≤ i) : voteAt log i = none :=
  bind_eq_none_of_le voted? hi

theorem decisionAt_of_le {i : Nat} (hi : log.length ≤ i) : decisionAt log i = none :=
  bind_eq_none_of_le decided? hi

theorem voteAt_concat_of_none (ho : voted? o = none) : voteAt (log ++ [o]) = voteAt log := by
  funext i
  rw [voteAt_concat]
  split
  · next h => rw [ho, voteAt_of_le (Nat.le_of_eq h.symm)]
  · rfl

theorem decisionAt_concat_of_none (ho : decided? o = none) :
    decisionAt (log ++ [o]) = decisionAt log := by
  funext i
  rw [decisionAt_concat]
  split
  · next h => rw [ho, decisionAt_of_le (Nat.le_of_eq h.symm)]
  · rfl

theorem lt_of_voteAt {i : Nat} {v : Vote} (h : voteAt log i = some v) : i < log.length := by
  by_contra hi
  rw [voteAt_of_le (Nat.le_of_not_lt hi)] at h
  cases h

theorem lt_of_decisionAt {k : Nat} (h : (decisionAt log k).isSome = true) : k < log.length := by
  by_contra hk
  rw [decisionAt_of_le (Nat.le_of_not_lt hk)] at h
  cases h

theorem voteAt_concat_of_lt {i : Nat} (hi : i < log.length) :
    voteAt (log ++ [o]) i = voteAt log i := by
  rw [voteAt_concat, if_neg (Nat.ne_of_lt hi)]

theorem decisionAt_concat_of_lt {i : Nat} (hi : i < log.length) :
    decisionAt (log ++ [o]) i = decisionAt log i := by
  rw [decisionAt_concat, if_neg (Nat.ne_of_lt hi)]

/-- A vote is replaced by the last call of a log, or by one before it. -/
theorem replaced_concat {i : Nat} (hi : i < log.length) :
    Replaced (log ++ [o]) i ↔ Replaced log i ∨ ∃ v w, voteAt log i = some v ∧
      voted? o = some w ∧ w.playerId = v.playerId ∧ ∀ k, i < k → decisionAt log k = none := by
  constructor
  · rintro ⟨j, v, w, hij, hv, hw, hplayer, hnone⟩
    rw [voteAt_concat_of_lt hi] at hv
    rw [voteAt_concat] at hw
    split at hw
    · next hj =>
      refine .inr ⟨v, w, hv, hw, hplayer, fun k hik => ?_⟩
      rcases Nat.lt_or_ge k log.length with hk | hk
      · rw [← decisionAt_concat_of_lt (o := o) hk]
        exact hnone k hik (hj ▸ hk)
      · exact decisionAt_of_le hk
    · refine .inl ⟨j, v, w, hij, hv, hw, hplayer, fun k hik hkj => ?_⟩
      rw [← decisionAt_concat_of_lt (o := o) (Nat.lt_trans hkj (lt_of_voteAt hw))]
      exact hnone k hik hkj
  · rintro (⟨j, v, w, hij, hv, hw, hplayer, hnone⟩ | ⟨v, w, hv, hw, hplayer, hnone⟩)
    · have hj := lt_of_voteAt hw
      refine ⟨j, v, w, hij, ?_, ?_, hplayer, fun k hik hkj => ?_⟩
      · rw [voteAt_concat_of_lt hi, hv]
      · rw [voteAt_concat_of_lt hj, hw]
      · rw [decisionAt_concat_of_lt (Nat.lt_trans hkj hj)]
        exact hnone k hik hkj
    · refine ⟨log.length, v, w, hi, ?_, ?_, hplayer, fun k hik hk => ?_⟩
      · rw [voteAt_concat_of_lt hi, hv]
      · rw [voteAt_concat, if_pos rfl, hw]
      · rw [decisionAt_concat_of_lt hk]
        exact hnone k hik

theorem not_replaced_last : ¬ Replaced (log ++ [o]) log.length := by
  rintro ⟨j, -, w, hj, -, hw, -⟩
  have := lt_of_voteAt hw
  rw [List.length_append, List.length_singleton] at this
  omega

theorem DecidedBy.concat {i k : Nat} (h : DecidedBy log i k) : DecidedBy (log ++ [o]) i k := by
  obtain ⟨hik, hk, hnone⟩ := h
  have hlt := lt_of_decisionAt hk
  refine ⟨hik, ?_, fun j hij hjk => ?_⟩
  · rwa [decisionAt_concat_of_lt hlt]
  · rw [decisionAt_concat_of_lt (Nat.lt_trans hjk hlt)]
    exact hnone j hij hjk

/-- The last call of a log decides about what was not decided before. -/
theorem decidedBy_last {i : Nat} (hi : i < log.length) (ho : (decided? o).isSome = true)
    (hnone : ∀ k, i < k → decisionAt log k = none) : DecidedBy (log ++ [o]) i log.length := by
  refine ⟨hi, ?_, fun j hij hj => ?_⟩
  · rwa [decisionAt_concat, if_pos rfl]
  · rw [decisionAt_concat_of_lt hj]
    exact hnone j hij

end Concat

/-! ### What a call does to the votes -/

/-- **A call** either leaves the votes as they are, or puts a vote behind those of the other
players, or decides about all of them. -/
theorem SessionState.answer_cases {s : SessionState} (hs : s.Orderly) (call : SessionCall)
    (hcall : ∀ id, call ≠ .openSession id) :
    let o := (s.answer call).1
    let t := (s.answer call).2
    (voted? o = none ∧ decided? o = none ∧ t.votes = s.votes ∧ t.currentTurn = s.currentTurn) ∨
    (∃ w, voted? o = some w ∧ decided? o = none ∧
      t.votes = s.votes.filter (·.playerId != w.playerId) ++ [w] ∧
      t.currentTurn = s.currentTurn) ∨
    ∃ r, voted? o = none ∧ decided? o = some r ∧ r.votes = s.votes ∧ t.votes = [] ∧
      t.currentTurn = some (s.currentTurn.getD 0 + 1) := by
  intro o t
  cases hr : s.accept call with
  | error f =>
      have ho : o = .error f := by simp only [o, answer, hr]
      have ht : t = s := by simp only [t, answer, hr]
      rw [ho, ht]
      exact .inl ⟨rfl, rfl, rfl, rfl⟩
  | ok out =>
      have ho : o = .ok out.1 := by simp only [o, answer, hr]
      have ht : t = out.2 := by simp only [t, answer, hr]
      rw [ho, ht]
      cases call with
      | openSession id => exact absurd rfl (hcall id)
      | register given =>
          obtain ⟨player, -, rfl⟩ := map_eq_ok hr
          refine .inl ⟨rfl, rfl, ?_⟩
          simp only [SessionState.register]
          split <;> exact ⟨rfl, rfl⟩
      | queue given =>
          obtain ⟨⟨w, t'⟩, hqueue, rfl⟩ := map_eq_ok hr
          cases hv : SessionCall.voteIn given with
          | error f => rw [hv] at hqueue; cases hqueue
          | ok v =>
              rw [hv] at hqueue
              obtain ⟨-, -, -, rfl⟩ := queue_eq_ok hqueue
              exact .inr (.inl ⟨w, rfl, rfl, rfl, rfl⟩)
      | resolve b =>
          obtain ⟨⟨r, t'⟩, hresolve, rfl⟩ := map_eq_ok hr
          obtain ⟨hvotes, ⟨hnone, rfl⟩ | ⟨hsome, rfl⟩⟩ := resolve_eq_ok hresolve
          · refine .inl ⟨rfl, ?_, rfl, rfl⟩
            rw [decided?, hnone]
            rfl
          · rw [hs.orderedVotes_eq] at hvotes
            exact .inr (.inr ⟨r, rfl, if_pos hsome, hvotes, rfl, rfl⟩)

/-! ### A call keeps the votes accounted for -/

namespace Tally

variable {log : List Outcome} {s t : SessionState} {lists : Nat → List Nat} {waiting : List Nat}
  {o : Outcome}

/-- Before the first call there is nothing to account for. -/
theorem begun (id : String) : Tally [] (.begun id) (fun _ => []) [] where
  decisions := fun _ _ h => nomatch h
  undecided := fun _ _ => rfl
  queue := ⟨.nil, rfl⟩
  fates := fun _ _ h => nomatch h
  turns := rfl

theorem lt_of_waiting (h : Tally log s lists waiting) {i : Nat} (hi : i ∈ waiting) :
    i < log.length := by
  have hvote : voteAt log i ∈ s.votes.map some := h.queue.2 ▸ List.mem_map_of_mem hi
  obtain ⟨v, -, hv⟩ := List.mem_map.1 hvote
  exact lt_of_voteAt hv.symm

theorem lt_of_listed (h : Tally log s lists waiting) {i k : Nat} (hi : i ∈ lists k) :
    i < log.length := by
  cases hk : decisionAt log k with
  | none =>
      rw [h.undecided k hk] at hi
      cases hi
  | some r =>
      have hvote : voteAt log i ∈ r.votes.map some :=
        (h.decisions k r hk).2.1 ▸ List.mem_map_of_mem hi
      obtain ⟨v, -, hv⟩ := List.mem_map.1 hvote
      exact lt_of_voteAt hv.symm

/-- The votes that stand next to a list of calls do not change when the log goes on. -/
theorem map_voteAt_concat {calls : List Nat} (h : ∀ i ∈ calls, i < log.length) :
    calls.map (voteAt (log ++ [o])) = calls.map (voteAt log) :=
  List.map_congr_left fun i hi => voteAt_concat_of_lt (h i hi)

/-- A call that neither queues a vote nor decides. -/
theorem still (h : Tally log s lists waiting) (hv : voted? o = none) (hd : decided? o = none)
    (hvotes : t.votes = s.votes) (hturn : t.currentTurn = s.currentTurn) :
    Tally (log ++ [o]) t lists waiting := by
  have hvoteAt : voteAt (log ++ [o]) = voteAt log := voteAt_concat_of_none hv
  have hdecisionAt : decisionAt (log ++ [o]) = decisionAt log := decisionAt_concat_of_none hd
  constructor
  · rw [hvoteAt, hdecisionAt]
    exact h.decisions
  · rw [hdecisionAt]
    exact h.undecided
  · rw [hvoteAt, hvotes]
    exact h.queue
  · unfold Replaced DecidedBy
    rw [hvoteAt, hdecisionAt]
    exact h.fates
  · rw [hturn, h.turns, List.filterMap_append, List.filterMap_cons_none hd, List.filterMap_nil,
      List.append_nil]

/-- The calls that wait, without those of a player. -/
def without (log : List Outcome) (player : String) (waiting : List Nat) : List Nat :=
  waiting.filter fun i => (voteAt log i).all (·.playerId != player)

theorem mem_without {player : String} {i : Nat} {v : Vote} (hv : voteAt log i = some v) :
    i ∈ without log player waiting ↔ i ∈ waiting ∧ v.playerId ≠ player := by
  rw [without, List.mem_filter, hv, Option.all_some, bne_iff_ne]

/-- **A vote that is queued** takes the place of the vote of its player that waits. -/
theorem vote (h : Tally log s lists waiting) {w : Vote} (hv : voted? o = some w)
    (hd : decided? o = none)
    (hvotes : t.votes = s.votes.filter (·.playerId != w.playerId) ++ [w])
    (hturn : t.currentTurn = s.currentTurn) :
    Tally (log ++ [o]) t lists (without log w.playerId waiting ++ [log.length]) := by
  have hdecisionAt : decisionAt (log ++ [o]) = decisionAt log := decisionAt_concat_of_none hd
  have hlast : voteAt (log ++ [o]) log.length = some w := by rw [voteAt_concat, if_pos rfl, hv]
  have hwait (i : Nat) (hi : i ∈ without log w.playerId waiting) : i < log.length :=
    h.lt_of_waiting (List.mem_of_mem_filter hi)
  constructor
  · intro k r hk
    rw [hdecisionAt] at hk
    rw [map_voteAt_concat fun i => h.lt_of_listed]
    exact h.decisions k r hk
  · rw [hdecisionAt]
    exact h.undecided
  · constructor
    · refine List.pairwise_append.2 ⟨h.queue.1.filter _, List.pairwise_singleton _ _, ?_⟩
      intro i hi j hj
      rw [List.mem_singleton.1 hj]
      exact hwait i hi
    · rw [hvotes, List.map_append, List.map_append, map_voteAt_concat hwait, List.map_singleton,
        List.map_singleton, hlast, without]
      congr 1
      have hmap : (s.votes.map some).filter (Option.all (·.playerId != w.playerId)) =
          (s.votes.filter (·.playerId != w.playerId)).map some := List.filter_map
      rw [← hmap, h.queue.2, List.filter_map]
      rfl
  · intro i v hi
    rw [voteAt_concat] at hi
    split at hi
    · next hlen =>
      -- the vote that was queued just now waits
      subst hlen
      exact .inr (.inr ⟨not_replaced_last, fun k hk => Nat.lt_irrefl _ (h.lt_of_listed hk),
        List.mem_append_right _ List.mem_cons_self,
        fun k hk => hdecisionAt ▸ decisionAt_of_le (Nat.le_of_lt hk)⟩)
    · have hlt := lt_of_voteAt hi
      have hmem : i ∈ without log w.playerId waiting ++ [log.length] ↔
          i ∈ waiting ∧ v.playerId ≠ w.playerId := by
        rw [List.mem_append, List.mem_singleton, or_iff_left (Nat.ne_of_lt hlt), mem_without hi]
      rw [replaced_concat hlt, hmem, hdecisionAt]
      rcases h.fates i v hi with ⟨hrep, hlists, hout⟩ | ⟨hrep, ⟨k, hk, honly⟩, hout⟩ |
        ⟨hrep, hlists, hin, hnone⟩
      · exact .inl ⟨.inl hrep, hlists, fun hwaits => hout hwaits.1⟩
      · refine .inr (.inl ⟨?_, ⟨k, hk.concat, honly⟩, fun hwaits => hout hwaits.1⟩)
        rintro (hrep' | ⟨-, -, -, -, -, hnone⟩)
        · exact hrep hrep'
        · have hsome := hk.2.1
          rw [hnone k hk.1] at hsome
          cases hsome
      · by_cases hplayer : v.playerId = w.playerId
        · exact .inl ⟨.inr ⟨v, w, hi, hv, hplayer.symm, hnone⟩, hlists,
            fun hwaits => hwaits.2 hplayer⟩
        · refine .inr (.inr ⟨?_, hlists, ⟨hin, hplayer⟩, hnone⟩)
          rintro (hrep' | ⟨v', w', hv', hw', hplayer', -⟩)
          · exact hrep hrep'
          · cases hi.symm.trans hv'
            cases hv.symm.trans hw'
            exact hplayer hplayer'.symm
  · rw [hturn, h.turns, List.filterMap_append, List.filterMap_cons_none hd, List.filterMap_nil,
      List.append_nil]

/-- **A decision** lists all that waits. -/
theorem decision (h : Tally log s lists waiting) (hs : (s.votes.map Vote.playerId).Nodup)
    {r : Resolved} (hv : voted? o = none) (hd : decided? o = some r) (hr : r.votes = s.votes)
    (hvotes : t.votes = []) (hturn : t.currentTurn = some (s.currentTurn.getD 0 + 1)) :
    Tally (log ++ [o]) t (Function.update lists log.length waiting) [] := by
  have hvoteAt : voteAt (log ++ [o]) = voteAt log := voteAt_concat_of_none hv
  have hmem (i k : Nat) : i ∈ Function.update lists log.length waiting k ↔
      k = log.length ∧ i ∈ waiting ∨ k ≠ log.length ∧ i ∈ lists k := by
    by_cases hk : k = log.length
    · subst hk
      rw [Function.update_self]
      simp
    · rw [Function.update_of_ne hk]
      simp [hk]
  constructor
  · intro k r' hk
    rw [decisionAt_concat] at hk
    rw [hvoteAt]
    split at hk
    · next hlen =>
      subst hlen
      cases hd.symm.trans hk
      rw [Function.update_self, hr]
      exact ⟨h.queue.1, h.queue.2, hs⟩
    · next hlen =>
      rw [Function.update_of_ne hlen]
      exact h.decisions k r' hk
  · intro k hk
    rw [decisionAt_concat] at hk
    split at hk
    · rw [hd] at hk
      cases hk
    · next hlen =>
      rw [Function.update_of_ne hlen]
      exact h.undecided k hk
  · rw [hvotes]
    exact ⟨.nil, rfl⟩
  · intro i v hi
    rw [hvoteAt] at hi
    have hlt := lt_of_voteAt hi
    have hreplaced : Replaced (log ++ [o]) i ↔ Replaced log i := by
      rw [replaced_concat hlt, hv]
      simp
    rw [hreplaced]
    rcases h.fates i v hi with ⟨hrep, hlists, hout⟩ | ⟨hrep, ⟨k, hk, honly⟩, hout⟩ |
      ⟨hrep, hlists, hin, hnone⟩
    · refine .inl ⟨hrep, fun k hk => ?_, List.not_mem_nil⟩
      rcases (hmem i k).1 hk with ⟨-, hin⟩ | ⟨-, hin⟩
      · exact hout hin
      · exact hlists k hin
    · refine .inr (.inl ⟨hrep, ⟨k, hk.concat, fun l => ?_⟩, List.not_mem_nil⟩)
      have hne : k ≠ log.length := Nat.ne_of_lt (lt_of_decisionAt hk.2.1)
      rw [hmem, honly l]
      constructor
      · rintro (⟨-, hin⟩ | ⟨-, hl⟩)
        · exact absurd hin hout
        · exact hl
      · rintro rfl
        exact .inr ⟨hne, rfl⟩
    · refine .inr (.inl ⟨hrep, ⟨log.length, decidedBy_last hlt (by rw [hd]; rfl) hnone,
        fun l => ?_⟩, List.not_mem_nil⟩)
      rw [hmem]
      constructor
      · rintro (⟨hl, -⟩ | ⟨-, hin'⟩)
        · exact hl
        · exact absurd hin' (hlists l)
      · exact fun hl => .inl ⟨hl, hin⟩
  · rw [hturn, h.turns, List.filterMap_append, List.filterMap_cons_some hd, List.filterMap_nil,
      List.length_append, List.length_singleton, Option.getD_some]
    rfl

/-- **A call keeps every vote accounted for.** -/
theorem answer (h : Tally log s lists waiting) (hs : s.Orderly) (call : SessionCall)
    (hcall : ∀ id, call ≠ .openSession id) :
    ∃ lists' waiting', Tally (log ++ [(s.answer call).1]) (s.answer call).2 lists' waiting' := by
  rcases SessionState.answer_cases hs call hcall with ⟨hv, hd, hvotes, hturn⟩ |
    ⟨w, hv, hd, hvotes, hturn⟩ | ⟨r, hv, hd, hr, hvotes, hturn⟩
  · exact ⟨_, _, h.still hv hd hvotes hturn⟩
  · exact ⟨_, _, h.vote hv hd hvotes hturn⟩
  · exact ⟨_, _, h.decision hs.single hv hd hr hvotes hturn⟩

end Tally

/-! ### Calls in a row -/

section Calls

variable {e : Engine} (hsessions : e.features.sessions = true)

include hsessions

/-- Calls in a row keep every vote accounted for, if it is accounted for at first. -/
theorem Tally.onAll {calls : List SessionCall} (hcalls : ∀ call ∈ calls, ∀ id, call ≠ .openSession id)
    {log : List Outcome} {p : Play} {s : SessionState} (hp : p.state.session = some s)
    (hs : s.Orderly) (htally : ∃ lists waiting, Tally log s lists waiting) :
    let run := Turn.onAll (calls.map (SessionCall.turn e)) p
    ∃ t, run.2.state.session = some t ∧ ∃ lists waiting, Tally (log ++ run.1) t lists waiting := by
  induction calls generalizing log p s with
  | nil =>
      refine ⟨s, hp, ?_⟩
      simpa only [List.map_nil, Turn.onAll, List.append_nil] using htally
  | cons call calls ih =>
      obtain ⟨lists, waiting, h⟩ := htally
      have hnext := h.answer hs call (hcalls call List.mem_cons_self)
      have hturn := call.on_turn hsessions p s
      rw [Play.seat_of_session hp] at hturn
      have hrest := ih (fun c hc => hcalls c (List.mem_cons_of_mem _ hc))
        (p := p.seat (s.answer call).2) rfl (hs.answer call) hnext
      simpa only [List.map_cons, Turn.onAll, hturn, List.append_assoc, List.singleton_append]
        using hrest

/-- **No vote is lost or counted twice.**  Once a session has been opened, and until it is opened
anew, every vote that was accepted is replaced, listed by the first decision after it and by no
other, or still in the queue; a decision lists at most one vote of each player, and the number of
the turn is the number of decisions. -/
theorem Engine.votes_are_accounted_for (id : String) {calls : List SessionCall}
    (hcalls : ∀ call ∈ calls, ∀ id', call ≠ .openSession id') (p : Play) :
    let run := Turn.onAll (calls.map (SessionCall.turn e))
      (((SessionCall.openSession id).turn e).on p).2
    ∃ s, run.2.state.session = some s ∧ ∃ lists waiting, Tally run.1 s lists waiting := by
  rw [on_openSession hsessions id p]
  exact Tally.onAll hsessions hcalls rfl (.begun id) ⟨_, _, .begun id⟩

end Calls

/-- Ann and Ben vote on the Lantern Road and agree in the end. -/
theorem Engine.votes_are_accounted_for_lanternRoad :
    let e := LanternRoad.engine
    let calls := [.register (LanternRoad.seated "ann"), .register (LanternRoad.seated "ben"),
      .queue (LanternRoad.voting "ann" "act.talk"), .queue (LanternRoad.voting "ben" "act.rest"),
      .resolve ⟨"consensus", none⟩, .queue (LanternRoad.voting "ann" "act.rest"),
      .resolve ⟨"consensus", some 2⟩, .queue (LanternRoad.voting "ben" "act.talk")]
    let run := Turn.onAll (calls.map (SessionCall.turn e))
      (((SessionCall.openSession "table").turn e).on
        (e.beginning LanternRoad.traveller LanternRoad.alone)).2
    e.features.sessions = true ∧ (∀ call ∈ calls, ∀ id, call ≠ SessionCall.openSession id) ∧
      ∃ s, run.2.state.session = some s ∧ ∃ lists waiting, Tally run.1 s lists waiting := by
  intro e calls run
  have hcalls : ∀ call ∈ calls, ∀ id, call ≠ SessionCall.openSession id := by
    simp [calls]
  exact ⟨LanternRoad.sessions_enabled, hcalls,
    Engine.votes_are_accounted_for LanternRoad.sessions_enabled "table" hcalls _⟩

end Storyworld
