/-
**The sessions of a host.**

Sessions are created and ended, are ended when they have been idle for too long, and are played in
between, in any order.  A session that has ended is not lost to those who play in it, so three things
have to agree: which sessions the host holds, which of them are active, and which can be played.  A
ledger of what was asked of the host and what it replied tells what all three should be: the sessions
that were created and have not ended since.

Main definitions:

* `Storyworld.Request`, `Storyworld.Reply`, `Storyworld.Request.on` — what is asked of a host, and
  what comes of it;
* `Storyworld.Host.run` — what comes of requests in a row;
* `Storyworld.createdSessions`, `Storyworld.openSessions` — **what the replies tell** of the sessions
  that were created, and of those that have not ended since;
* `Storyworld.Host.Keeps` — the sessions of a host are as such a ledger says.

Main results:

* `Storyworld.Host.Keeps.finish`, `Storyworld.Host.Keeps.cleanUp` — how sessions end;
* `Storyworld.Host.Keeps.on`, `Storyworld.Host.Keeps.run` — **a host keeps its ledger**;
* `Storyworld.Host.Keeps.play_ended` — **an ended session cannot be played**;
* `Storyworld.Host.holds_open_sessions` — the life of all sessions of a host.
-/

import Storyworld.Proofs.Checked
import Storyworld.Session.Host

set_option relaxedAutoImplicit false
set_option autoImplicit false

namespace Storyworld

/-! ### Requests -/

/-- What is asked of a host.  It may also turn to the games on another engine, or find that what the
games share has changed meanwhile. -/
inductive Request where
  | create (id : String) (now : Rat) (beginning : Beginning) (enter : Bool)
  | finish (id reason : String)
  | cleanUp (now maxIdle : Rat)
  | start (id : String) (now : Rat)
  | leave (id : String) (now : Rat) (ref : ExitRef)
  | act (id : String) (now : Rat) (actionId : String)
  | look (id : String)
  | turnTo (engine : Engine) (shared : Shared)

/-- What comes of a request. -/
inductive Reply where
  | created
  | ended (ids : List String)
  | shown (view : SceneView)
  | failed (f : Fault)
  | noSession
  | done

/-- What comes of a move or a look in a session. -/
def Reply.ofMove (h : Host) : Option (Except Fault SceneView × Host) → Reply × Host
  | some (.ok view, h') => (shown view, h')
  | some (.error f, h') => (failed f, h')
  | none => (noSession, h)

/-- **What comes of a request**, and the host after it. -/
def Request.on : Request → Host → Reply × Host
  | create id now beginning enter, h =>
    match h.create id now beginning enter with
    | (.ok _, h') => (.created, h')
    | (.error f, h') => (.failed f, h')
  | finish id reason, h =>
    (.ended (((h.finish id reason).1.map (·.id)).toList), (h.finish id reason).2)
  | cleanUp now maxIdle, h => (.ended (h.cleanUp now maxIdle).1, (h.cleanUp now maxIdle).2)
  | start id now, h => Reply.ofMove h (h.start id now)
  | leave id now ref, h => Reply.ofMove h (h.play id now (h.engine.leave ref))
  | act id now actionId, h => Reply.ofMove h (h.play id now (h.engine.act actionId))
  | look id, h => Reply.ofMove h (h.look id)
  | turnTo engine shared, h => (.done, { h with engine, shared })

/-- The id under which a session is to be created. -/
def Request.newId? : Request → Option String
  | create id _ _ _ => some id
  | _ => none

/-- **What comes of requests in a row**, each with what came of it, and the host after the last. -/
def Host.run : List Request → Host → List (Request × Reply) × Host
  | [], h => ([], h)
  | r :: rs, h => ((r, (r.on h).1) :: (run rs (r.on h).2).1, (run rs (r.on h).2).2)

/-! ### Ledgers -/

/-- The sessions that have been created, after one more request. -/
def createdAfter (ids : List String) : Request × Reply → List String
  | (.create id _ _ _, .created) => ids ++ [id]
  | _ => ids

/-- The sessions that have been created and not ended since, after one more request. -/
def openAfter (ids : List String) : Request × Reply → List String
  | (.finish id _, _) => ids.filter fun other => other != id
  | (.cleanUp _ _, .ended stale) => ids.filter fun other => !stale.contains other
  | entry => createdAfter ids entry

/-- **The sessions that were created**, in order. -/
def createdSessions (log : List (Request × Reply)) : List String := log.foldl createdAfter []

/-- **The sessions that were created and have not ended since**, in the order of their creation. -/
def openSessions (log : List (Request × Reply)) : List String := log.foldl openAfter []

theorem mem_createdAfter {ids : List String} {id : String} {r : Request} {reply : Reply}
    (h : id ∈ createdAfter ids (r, reply)) : id ∈ ids ∨ r.newId? = some id := by
  unfold createdAfter at h
  split at h
  · next heq =>
    cases heq
    rcases List.mem_append.1 h with h | h
    · exact .inl h
    · exact .inr (congrArg some (List.mem_singleton.1 h).symm)
  · exact .inl h

theorem mem_foldl_createdAfter (log : List (Request × Reply)) {ids : List String} {id : String}
    (h : id ∈ ids) : id ∈ log.foldl createdAfter ids := by
  induction log generalizing ids with
  | nil => exact h
  | cons entry log ih =>
      refine ih ?_
      unfold createdAfter
      split
      · exact List.mem_append_left _ h
      · exact h

/-- A session that is open after a request was open before, or has just been created. -/
theorem mem_openAfter {ids : List String} {id : String} {r : Request} {reply : Reply}
    (h : id ∈ openAfter ids (r, reply)) : id ∈ ids ∨ r.newId? = some id := by
  unfold openAfter at h
  split at h
  · exact .inl (List.mem_filter.1 h).1
  · exact .inl (List.mem_filter.1 h).1
  · exact mem_createdAfter h

/-! ### What a move and a failed beginning leave alone -/

/-- A move in a session leaves alone which session it is, and whether it is active. -/
theorem GameSession.play_same (s : GameSession) (now : Rat) (move : Turn SceneView)
    (shared : Shared) : (s.play now move shared).2.1.id = s.id ∧
      (s.play now move shared).2.1.status = s.status := by
  unfold play
  split
  · rcases shared.carryOut s.state move with ⟨r, state, after⟩
    cases r <;> exact ⟨rfl, rfl⟩
  · exact ⟨rfl, rfl⟩

namespace Host

/-- **A session that could not begin leaves no trace** among the sessions. -/
theorem sessions_create_error {h h' : Host} {id : String} {now : Rat} {beginning : Beginning}
    {enter : Bool} {f : Fault} (hr : h.create id now beginning enter = (.error f, h')) :
    h'.engine = h.engine ∧ h'.sessions = h.sessions := by
  unfold Host.create at hr
  split at hr
  · cases hr
    exact ⟨rfl, rfl⟩
  · dsimp only at hr
    split at hr
    · split at hr
      · cases hr
      · cases hr
        exact ⟨rfl, rfl⟩
    · cases hr

/-! ### Hosts that keep a ledger -/

/-- **The sessions of a host are as a ledger says**: all that were created are there, the open ones
are held, and active are just those that are held. -/
structure Keeps (h : Host) (made opened : List String) : Prop where
  created : h.sessions.map (·.id) = made
  held : h.held.map (·.id) = opened
  active : ∀ s ∈ h.sessions, s.isActive = s.isHeld
  nodup : made.Nodup

namespace Keeps

variable {h h' : Host} {made opened : List String} {id : String} {r : Except Fault SceneView}

theorem empty (e : Engine) (shared : Shared) : Keeps ⟨e, shared, []⟩ [] [] :=
  ⟨rfl, rfl, fun _ hs => (nomatch hs), List.nodup_nil⟩

/-- A session is found under its id. -/
theorem session?_id (hk : h.Keeps made opened) {s : Hosted} (hs : s ∈ h.sessions) :
    h.session? s.id = some s.toGameSession := by
  have hn : (h.sessions.map (·.id)).Nodup := hk.created ▸ hk.nodup
  unfold session?
  generalize h.sessions = sessions at hs hn
  induction sessions with
  | nil => cases hs
  | cons t ts ih =>
      rw [List.map_cons, List.nodup_cons] at hn
      rcases List.mem_cons.1 hs with rfl | hs
      · rw [List.find?_cons_of_pos (by simp)]
        rfl
      · have hne : t.id ≠ s.id := fun heq => hn.1 (heq ▸ List.mem_map_of_mem hs)
        rw [List.find?_cons_of_neg (by simpa using hne)]
        exact ih hs hn.2

theorem session?_cases (hk : h.Keeps made opened) (id : String) :
    (id ∉ made ∧ h.session? id = none) ∨
      ∃ s ∈ h.sessions, s.id = id ∧ h.session? id = some s.toGameSession := by
  by_cases hid : id ∈ made
  · rw [← hk.created] at hid
    obtain ⟨s, hs, rfl⟩ := List.mem_map.1 hid
    exact .inr ⟨s, hs, rfl, hk.session?_id hs⟩
  · refine .inl ⟨hid, ?_⟩
    rw [← hk.created] at hid
    simp only [session?, Option.map_eq_none_iff, List.find?_eq_none, beq_iff_eq]
    exact fun s hs heq => hid (heq ▸ List.mem_map_of_mem hs)

/-- A change of sessions that leaves alone who they are, whether they are held and whether they are
active. -/
theorem map (hk : h.Keeps made opened) (engine : Engine) (shared : Shared) {f : Hosted → Hosted}
    (hf : ∀ s ∈ h.sessions, (f s).id = s.id ∧ (f s).isHeld = s.isHeld ∧ (f s).status = s.status) :
    Keeps ⟨engine, shared, h.sessions.map f⟩ made opened where
  created := by
    rw [← hk.created, List.map_map]
    exact List.map_congr_left fun s hs => (hf s hs).1
  held := by
    rw [← hk.held]
    simp only [Host.held, List.filter_map, List.map_map]
    have hfilter : h.sessions.filter (Hosted.isHeld ∘ f) = h.sessions.filter Hosted.isHeld :=
      List.filter_congr fun s hs => (hf s hs).2.1
    rw [hfilter]
    exact List.map_congr_left fun s hs => (hf s (List.mem_filter.1 hs).1).1
  active := by
    intro s hs
    obtain ⟨t, ht, rfl⟩ := List.mem_map.1 hs
    obtain ⟨-, hheld, hstatus⟩ := hf t ht
    rw [hheld, ← hk.active t ht]
    simp only [GameSession.isActive, hstatus]
  nodup := hk.nodup

/-- Nothing but the sessions counts. -/
theorem of_sessions (hk : h.Keeps made opened) (hsessions : h'.sessions = h.sessions) :
    h'.Keeps made opened := by
  obtain ⟨engine, shared, sessions⟩ := h'
  cases hsessions
  exact { hk with }

/-! ### Moves -/

/-- Another state of a session is put in its place. -/
theorem replace (hk : h.Keeps made opened) {old : Hosted} (hold : old ∈ h.sessions)
    {s : GameSession} (hs : s.id = old.id ∧ s.status = old.status) (shared : Shared) :
    ({ h with shared }.replace s).Keeps made opened := by
  refine hk.map h.engine shared fun t ht => ?_
  split
  · next heq =>
    -- the session in whose place it is put is the only one with that id
    have hfound := hk.session?_id ht
    rw [heq, hs.1, hk.session?_id hold] at hfound
    have hsame : old.status = t.status := congrArg GameSession.status (Option.some.inj hfound)
    exact ⟨heq.symm, rfl, hs.2.trans hsame⟩
  · exact ⟨rfl, rfl, rfl⟩

/-- A session that is put in its own place changes nothing. -/
theorem replace_self (hk : h.Keeps made opened) {s : Hosted} (hs : s ∈ h.sessions) :
    h.replace s.toGameSession = h := by
  have hall : (h.sessions.map fun t => if t.id = s.id then
      { t with toGameSession := s.toGameSession } else t) = h.sessions := by
    refine (List.map_congr_left fun t ht => ?_).trans (List.map_id h.sessions)
    split
    · next heq =>
      have hfound := hk.session?_id ht
      rw [heq, hk.session?_id hs] at hfound
      rw [Option.some.inj hfound]
      rfl
    · rfl
  rw [Host.replace, hall]

/-- **A move neither creates a session nor ends one.** -/
theorem play (hk : h.Keeps made opened) {now : Rat} {move : Turn SceneView}
    (hr : h.play id now move = some (r, h')) : h'.Keeps made opened := by
  rcases hk.session?_cases id with ⟨-, hnone⟩ | ⟨old, hold, -, hsome⟩
  · simp [Host.play, hnone] at hr
  · simp only [Host.play, hsome, Option.map_some, Option.some.injEq, Prod.mk.injEq] at hr
    rw [← hr.2]
    exact hk.replace hold (old.play_same now move h.shared) _

theorem look (hk : h.Keeps made opened) (hr : h.look id = some (r, h')) :
    h'.Keeps made opened := by
  rcases hk.session?_cases id with ⟨-, hnone⟩ | ⟨old, hold, -, hsome⟩
  · simp [Host.look, hnone] at hr
  · simp only [Host.look, hsome, Option.map_some, Option.some.injEq, Prod.mk.injEq] at hr
    have hsame : (old.toGameSession.look h.engine h.shared).2.1.id = old.id ∧
        (old.toGameSession.look h.engine h.shared).2.1.status = old.status := ⟨rfl, rfl⟩
    rw [← hr.2]
    exact hk.replace hold hsame _

/-! ### How sessions begin and end -/

theorem hold (hk : h.Keeps made opened) {s : GameSession} (hactive : s.isActive = true)
    (hnew : s.id ∉ made) : (h.hold s).Keeps (made ++ [s.id]) (opened ++ [s.id]) where
  created := by simp [Host.hold, hk.created]
  held := by
    have hheld := hk.held
    simp only [Host.held] at hheld
    simp [Host.hold, Host.held, hheld]
  active := by
    intro t ht
    rcases List.mem_append.1 ht with ht | ht
    · exact hk.active t ht
    · rw [List.mem_singleton.1 ht]
      exact hactive
  nodup := by
    simp only [List.nodup_append, List.mem_singleton, forall_eq]
    exact ⟨hk.nodup, by simp, fun a ha heq => hnew (heq ▸ ha)⟩

/-- **A session that could begin is held**, under its id. -/
theorem create (hk : h.Keeps made opened) {now : Rat} {beginning : Beginning} {enter : Bool}
    {s : GameSession} (hnew : id ∉ made) (hr : h.create id now beginning enter = (.ok s, h')) :
    h'.Keeps (made ++ [id]) (opened ++ [id]) := by
  have hshared (shared : Shared) : Keeps { h with shared } made opened := hk.of_sessions rfl
  unfold Host.create at hr
  split at hr
  · cases hr
  · next state shared _ =>
    dsimp only at hr
    split at hr
    · have hsame := GameSession.play_same ⟨id, state, .active, now, none⟩ now
        (h.engine.enter state.currentSceneId) shared
      split at hr
      · next _ t after hp =>
        cases hr
        rw [hp] at hsame
        obtain ⟨rfl, hstatus⟩ := hsame
        exact (hshared after).hold (decide_eq_true hstatus) hnew
      · cases hr
    · cases hr
      exact (hshared shared).hold (s := ⟨id, state, .active, now, none⟩) rfl hnew

/-- The host holds a session under each open id, and under no other. -/
theorem held?_cases (hk : h.Keeps made opened) (id : String) :
    (id ∉ opened ∧ h.held? id = none) ∨ (id ∈ opened ∧ ∃ s, h.held? id = some s ∧ s.id = id) := by
  rw [← hk.held]
  cases hfound : h.held? id with
  | some s =>
      have hid : s.id = id := by simpa using List.find?_some hfound
      have hmem : s ∈ h.held := List.mem_of_find?_eq_some hfound
      exact .inr ⟨hid ▸ List.mem_map_of_mem hmem, s, rfl, hid⟩
  | none =>
      refine .inl ⟨fun hid => ?_, rfl⟩
      obtain ⟨s, hs, rfl⟩ := List.mem_map.1 hid
      have hnot := List.find?_eq_none.1 hfound s hs
      simp at hnot

/-- Letting go of a session and marking it as over puts it aside. -/
theorem finish_of_held {s : GameSession} (hs : h.held? s.id = some s) (reason : String) :
    (h.finish s.id reason).2 = { h with sessions := h.sessions.map fun t =>
      if t.id = s.id then ⟨{ s with status := .ofReason reason }, false⟩ else t } := by
  rw [Host.finish, hs]
  simp only [release, Host.replace, List.map_map]
  congr 2
  funext t
  by_cases ht : t.id = s.id <;> simp [ht]

/-- A session is put aside, and the others stay as they are. -/
theorem putAside (hk : h.Keeps made opened) (past : Hosted) (hheld : past.isHeld = false)
    (hactive : past.isActive = false) :
    Keeps { h with sessions := h.sessions.map fun t => if t.id = past.id then past else t } made
      (opened.filter fun other => other != past.id) where
  created := by
    rw [← hk.created, List.map_map]
    refine List.map_congr_left fun t _ => ?_
    simp only [Function.comp_apply]
    split
    · next heq => exact heq.symm
    · rfl
  held := by
    rw [← hk.held]
    simp only [Host.held]
    generalize h.sessions = sessions
    induction sessions with
    | nil => rfl
    | cons t ts ih =>
        by_cases ht : t.id = past.id
        · cases hh : t.isHeld <;> simpa [ht, hh, hheld] using ih
        · cases hh : t.isHeld <;> simpa [ht, hh] using ih
  active := by
    intro s hs
    obtain ⟨t, ht, rfl⟩ := List.mem_map.1 hs
    split
    · rw [hheld, hactive]
    · exact hk.active t ht
  nodup := hk.nodup

/-- **A session that ends is held no longer**, and is not active. -/
theorem finish (hk : h.Keeps made opened) (id reason : String) :
    (h.finish id reason).2.Keeps made (opened.filter fun other => other != id) := by
  rcases hk.held?_cases id with ⟨hid, hnone⟩ | ⟨-, s, hsome, rfl⟩
  · have hall : (opened.filter fun other => other != id) = opened := by
      rw [List.filter_eq_self]
      intro other hother
      have hne : other ≠ id := fun heq => hid (heq ▸ hother)
      simpa using hne
    rw [Host.finish, hnone, hall]
    exact hk
  · rw [finish_of_held hsome]
    have hover : GameSession.isActive { s with status := .ofReason reason } = false := by
      simp only [GameSession.isActive, Status.ofReason]
      split <;> rfl
    exact hk.putAside ⟨{ s with status := .ofReason reason }, false⟩ rfl hover

/-- **All that have been idle for too long end.** -/
theorem cleanUp (hk : h.Keeps made opened) (now maxIdle : Rat) :
    (h.cleanUp now maxIdle).2.Keeps made
      (opened.filter fun other => !(h.cleanUp now maxIdle).1.contains other) := by
  unfold Host.cleanUp
  dsimp only
  generalize (h.held.filter (isStale now maxIdle)).map (·.id) = stale
  -- one after the other ends, and the ledger is filtered as often
  induction stale generalizing h opened with
  | nil =>
      have hall : (opened.filter fun other => !([] : List String).contains other) = opened :=
        List.filter_eq_self.2 fun _ _ => rfl
      rwa [hall]
  | cons id rest ih =>
      have hrest := ih (hk.finish id "stale")
      rw [List.filter_filter] at hrest
      rw [List.foldl_cons]
      have hfilter : (fun other => !(id :: rest).contains other) =
          fun other => !rest.contains other && other != id := by
        funext other
        by_cases heq : other = id <;> simp [heq]
      rwa [hfilter]

/-- **An ended session cannot be played**: a move in it is refused, and changes nothing. -/
theorem play_ended (hk : h.Keeps made opened) (hmade : id ∈ made) (hended : id ∉ opened) :
    ∃ s, h.session? id = some s ∧ s.isActive = false ∧ ∀ (now : Rat) (move : Turn SceneView),
      h.play id now move = some (.error (.sessionOver id s.status.name), h) := by
  rcases hk.session?_cases id with ⟨hid, -⟩ | ⟨s, hs, rfl, hsome⟩
  · exact absurd hmade hid
  · have hheld : s.isHeld = false := by
      rw [← hk.held] at hended
      rw [Bool.eq_false_iff]
      intro hheld
      have hmem : s.toGameSession ∈ h.held :=
        List.mem_map_of_mem (List.mem_filter.2 ⟨hs, hheld⟩)
      exact hended (List.mem_map_of_mem hmem)
    have hover : s.isActive = false := (hk.active s hs).trans hheld
    refine ⟨s.toGameSession, hsome, hover, fun now move => ?_⟩
    have hplay : s.toGameSession.play now move h.shared =
        (.error (.sessionOver s.id s.status.name), s.toGameSession, h.shared) := by
      simp only [GameSession.play, hover, Bool.false_eq_true, if_false]
    simp only [Host.play, hsome, Option.map_some, hplay]
    rw [hk.replace_self hs]

/-- The active sessions that the host holds are the open ones. -/
theorem active_eq (hk : h.Keeps made opened) : h.active = opened := by
  rw [← hk.held, Host.active, List.filter_eq_self.2]
  intro s hs
  obtain ⟨t, ht, rfl⟩ := List.mem_map.1 hs
  obtain ⟨hmem, hheld⟩ := List.mem_filter.1 ht
  exact (hk.active t hmem).trans hheld

/-! ### Requests in a row -/

theorem ofMove (hk : h.Keeps made opened) {out : Option (Except Fault SceneView × Host)}
    (hout : ∀ r h', out = some (r, h') → h'.Keeps made opened) :
    (Reply.ofMove h out).2.Keeps made opened := by
  cases out with
  | none => exact hk
  | some out =>
      obtain ⟨r, h'⟩ := out
      cases r <;> exact hout _ h' rfl

/-- **A host keeps its ledger** under a request, if a session is created under a new id. -/
theorem on (hk : h.Keeps made opened) {r : Request} (hnew : ∀ id, r.newId? = some id → id ∉ made) :
    (r.on h).2.Keeps (createdAfter made (r, (r.on h).1)) (openAfter opened (r, (r.on h).1)) := by
  cases r with
  | create id now beginning enter =>
      have hid : id ∉ made := hnew id rfl
      simp only [Request.on]
      rcases hr : h.create id now beginning enter with ⟨f | s, h'⟩
      · exact hk.of_sessions (sessions_create_error hr).2
      · exact hk.create hid hr
  | finish id reason => exact hk.finish id reason
  | cleanUp now maxIdle => exact hk.cleanUp now maxIdle
  | start id now => exact hk.ofMove fun _ _ => hk.play
  | leave id now ref => exact hk.ofMove fun _ _ => hk.play
  | act id now actionId => exact hk.ofMove fun _ _ => hk.play
  | look id => exact hk.ofMove fun _ _ => hk.look
  | turnTo engine shared => exact hk.of_sessions rfl

/-- **A host keeps its ledger** under requests in a row, if sessions are created under new ids. -/
theorem run (hk : h.Keeps made opened) {rs : List Request}
    (hfresh : (rs.filterMap Request.newId?).Nodup)
    (hnew : ∀ id ∈ made, id ∉ rs.filterMap Request.newId?) :
    (h.run rs).2.Keeps ((h.run rs).1.foldl createdAfter made)
      ((h.run rs).1.foldl openAfter opened) := by
  induction rs generalizing h made opened with
  | nil => exact hk
  | cons r rs ih =>
      -- the ids that are still to come are new after this request, too
      have hon := hk.on (r := r) fun id hr hid => hnew id hid (by simp [hr])
      have hlater : (rs.filterMap Request.newId?).Sublist ((r :: rs).filterMap Request.newId?) :=
        (List.sublist_cons_self r rs).filterMap Request.newId?
      refine ih hon (hfresh.sublist hlater) fun id hid hmem => ?_
      rcases mem_createdAfter hid with hid | hid
      · exact hnew id hid (hlater.subset hmem)
      · simp only [List.filterMap_cons, hid, List.nodup_cons] at hfresh
        exact hfresh.1 hmem

end Keeps

/-- What a ledger has after requests in a row it had before, or it was to be created. -/
theorem mem_ledger_run {enter : List String → Request × Reply → List String}
    (henter : ∀ ids id r reply, id ∈ enter ids (r, reply) → id ∈ ids ∨ r.newId? = some id)
    {id : String} {rs : List Request} {h : Host} {ids : List String}
    (hid : id ∈ (h.run rs).1.foldl enter ids) : id ∈ ids ∨ id ∈ rs.filterMap Request.newId? := by
  induction rs generalizing h ids with
  | nil => exact .inl hid
  | cons r rs ih =>
      rcases ih hid with hid | hid
      · rcases henter ids id r _ hid with hid | hid
        · exact .inl hid
        · exact .inr (List.mem_filterMap.2 ⟨r, List.mem_cons_self, hid⟩)
      · exact .inr (((List.sublist_cons_self r rs).filterMap Request.newId?).subset hid)

/-- **The sessions of a host.**  Whatever is asked of a host that begins without sessions, if sessions
are created under new ids, the host holds just those sessions that were created and have not ended
since, in the order of their creation, and they are the active ones.  A session that has ended is
never active again, whatever follows, and a move in it is refused and leaves all as it was, the
session, the others and what the games share.  A session that cannot be created leaves the sessions
as they were. -/
theorem holds_open_sessions (e : Engine) (shared : Shared) {requests : List Request}
    (hfresh : (requests.filterMap Request.newId?).Nodup) :
    let log := (Host.run requests ⟨e, shared, []⟩).1
    let h := (Host.run requests ⟨e, shared, []⟩).2
    (h.held.map (·.id) = openSessions log ∧ h.active = openSessions log ∧
      ∀ id, (h.held? id).isSome = true ↔ id ∈ openSessions log) ∧
    (∀ id ∈ createdSessions log, id ∉ openSessions log →
      ∀ later, ((requests ++ later).filterMap Request.newId?).Nodup →
        let h' := (h.run later).2
        id ∉ h'.active ∧ ∃ s, h'.session? id = some s ∧ s.isActive = false ∧
          ∀ (now : Rat) (move : Turn SceneView),
            h'.play id now move = some (.error (.sessionOver id s.status.name), h')) ∧
    ∀ id now beginning enter f h', h.create id now beginning enter = (.error f, h') →
      h'.sessions = h.sessions := by
  intro log h
  have hk : h.Keeps (createdSessions log) (openSessions log) :=
    (Keeps.empty e shared).run hfresh fun _ hid => nomatch hid
  refine ⟨⟨hk.held, hk.active_eq, fun id => ?_⟩, fun id hmade hended later hlater => ?_,
    fun id now beginning enter f h' hr => (sessions_create_error hr).2⟩
  · rcases hk.held?_cases id with ⟨hid, hnone⟩ | ⟨hid, s, hsome, -⟩
    · simp [hid, hnone]
    · simp [hid, hsome]
  · intro h'
    rw [List.filterMap_append, List.nodup_append] at hlater
    obtain ⟨-, hfresh', hnew⟩ := hlater
    -- what was created before is not created again
    have hold (id : String) (hid : id ∈ createdSessions log) :
        id ∉ later.filterMap Request.newId? := by
      intro hagain
      rcases mem_ledger_run (fun _ _ _ _ => mem_createdAfter) hid with hid | hid
      · cases hid
      · exact hnew id hid id hagain rfl
    have hk' := hk.run hfresh' hold
    have hended' : id ∉ (h.run later).1.foldl openAfter (openSessions log) := by
      intro hid
      rcases mem_ledger_run (fun _ _ _ _ => mem_openAfter) hid with hid | hid
      · exact hended hid
      · exact hold id hmade hid
    have hmade' := mem_foldl_createdAfter (h.run later).1 hmade
    exact ⟨hk'.active_eq ▸ hended', hk'.play_ended hmade' hended'⟩

/-- Four evenings on the Lantern Road, of which one ends, one is left idle and one cannot begin. -/
theorem holds_open_sessions_lanternRoad :
    let requests : List Request := [.create "ida" 0 (.newGame .null) true,
      .create "tom" 10 (.newGame .null) false,
      .create "lost" 20 (.resume (.source (.document (.obj [])))) true,
      .act "ida" 30 "act.lantern", .finish "ida" "completed", .leave "ida" 40 (.index 0),
      .cleanUp 4000 3600, .create "eve" 4010 (.newGame .null) true]
    let log := (Host.run requests ⟨LanternRoad.engine, LanternRoad.alone, []⟩).1
    let h := (Host.run requests ⟨LanternRoad.engine, LanternRoad.alone, []⟩).2
    (requests.filterMap Request.newId?).Nodup ∧
      createdSessions log = ["ida", "tom", "eve"] ∧ openSessions log = ["eve"] ∧
      h.held.map (·.id) = ["eve"] ∧ h.active = ["eve"] ∧
      ∃ s, h.session? "ida" = some s ∧ s.isActive = false ∧ ∀ (now : Rat) (move : Turn SceneView),
        h.play "ida" now move = some (.error (.sessionOver "ida" s.status.name), h) := by
  intro requests log h
  have hfresh : (requests.filterMap Request.newId?).Nodup := by decide
  have hcreated : createdSessions log = ["ida", "tom", "eve"] := by decide +kernel
  have hopen : openSessions log = ["eve"] := by decide +kernel
  obtain ⟨⟨hheld, hactive, -⟩, hended, -⟩ :=
    holds_open_sessions LanternRoad.engine LanternRoad.alone hfresh
  have hida : "ida" ∈ createdSessions log := hcreated ▸ by decide
  have hover : "ida" ∉ openSessions log := hopen ▸ by decide
  obtain ⟨-, hplay⟩ := hended "ida" hida hover [] hfresh
  exact ⟨hfresh, hcreated, hopen, hheld.trans hopen, hactive.trans hopen, hplay⟩

end Host

end Storyworld
