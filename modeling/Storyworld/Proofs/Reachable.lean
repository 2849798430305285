/-
**Games that go on in any way.**

A game begins anew, and then scenes are entered, left and acted in, effects are applied, and players
share the game in a session, in any order and whatever comes of it.  Meanwhile other games on the
engine draw from the generator and leave warnings.  Through all of this the state belongs to the
story of the engine: it names the story and is at one of its scenes, and the sections of the enabled
features are in use.

Main definitions:

* `Storyworld.WhileSharing` — the small steps of everything that is done to a game, where effects of
  a kind are applied;
* `Storyworld.UnderSessions` — the same, where any effect may be applied;
* `Storyworld.Operation`, `Storyworld.Engine.Reachable` — **what can be done to a game, and what it
  can come to**;
* `Storyworld.Operation.effects` — the effects that an operation brings with it;
* `Storyworld.Operation.shows` — the operations that end with a view;
* `Storyworld.GameState.Belongs` — a state belongs to the story of an engine.

Main results:

* `Storyworld.WhileSharing.keeps_after`, `Storyworld.WhileSharing.keeps_afterAll` — what every small
  step keeps, every operation keeps, and so do all operations in a row;
* `Storyworld.Engine.Reachable.belongs` — **every state that is reached belongs to the story**.
-/

import Storyworld.Proofs.Checked
import Storyworld.Proofs.Frame
import Storyworld.Proofs.Playthrough
import Storyworld.Session.Voting

set_option relaxedAutoImplicit false
set_option autoImplicit false

namespace Storyworld

variable {e : Engine} {R : Play → Play → Prop} {B : Effect → Prop}

/-! ### Sessions -/

/-- A relation that also holds when a session is put into the state.  Any condition may be asked, for
players may leave through exits that are not those of the story. -/
structure WhileSharing (e : Engine) (R : Play → Play → Prop) (B : Effect → Prop) : Prop extends
    WhileMoving e R (fun _ => True) B where
  seated : ∀ (p : Play) (session : SessionState),
    R p { p with state := { p.state with session := some session } }

namespace WhileSharing

theorem keeps_setSession (h : WhileSharing e R B) (session : SessionState) :
    (Engine.setSession session).Keeps R := fun p => h.seated p session

theorem keeps_requireSessions (h : WhileSharing e R B) : e.requireSessions.Keeps R := by
  unfold Engine.requireSessions
  split
  · exact h.keeps_pure _
  · exact h.keeps_throw _

theorem keeps_openSession (h : WhileSharing e R B) (id : String) : (e.openSession id).Keeps R :=
  h.keeps_bind h.keeps_requireSessions fun _ => h.keeps_bind (h.keeps_setSession _) fun _ =>
    h.keeps_pure _

theorem keeps_requireSession (h : WhileSharing e R B) : e.requireSession.Keeps R := by
  refine h.keeps_bind h.keeps_requireSessions fun _ => h.keeps_bind h.keeps_state fun s => ?_
  split
  · exact h.keeps_pure _
  · exact h.keeps_bind (h.keeps_setSession _) fun _ => h.keeps_pure _

theorem keeps_registerPlayer (h : WhileSharing e R B) (given : Json) :
    (e.registerPlayer given).Keeps R :=
  h.keeps_bind h.keeps_requireSession fun _ => h.keeps_bind (h.keeps_ofExcept _) fun _ =>
    h.keeps_bind (h.keeps_ofExcept _) fun _ => h.keeps_bind (h.keeps_setSession _) fun _ =>
      h.keeps_pure _

theorem keeps_queueVote (h : WhileSharing e R B) (given : Json) : (e.queueVote given).Keeps R :=
  h.keeps_bind h.keeps_requireSession fun _ => h.keeps_bind (h.keeps_ofExcept _) fun _ =>
    h.keeps_bind (h.keeps_ofExcept _) fun _ => h.keeps_bind (h.keeps_ofExcept _) fun _ =>
      h.keeps_bind (h.keeps_setSession _) fun _ => h.keeps_pure _

theorem keeps_resolveVotes (h : WhileSharing e R B) (b : Ballot) : (e.resolveVotes b).Keeps R :=
  h.keeps_bind h.keeps_requireSession fun _ => h.keeps_bind (h.keeps_ofExcept _) fun _ =>
    h.keeps_bind (h.keeps_setSession _) fun _ => h.keeps_pure _

theorem keeps_carryOut (h : WhileSharing e R B) (v : Vote) : (e.carryOut v).Keeps R := by
  unfold Engine.carryOut
  split
  · exact h.keeps_act _
  · exact h.keeps_leave fun _ _ _ _ _ _ _ => trivial
  · exact h.keeps_throw _

end WhileSharing

/-- A relation that also holds when a session is put into the state, whatever effects are applied. -/
structure UnderSessions (e : Engine) (R : Play → Play → Prop) : Prop extends UnderMoves e R where
  seated : ∀ (p : Play) (session : SessionState),
    R p { p with state := { p.state with session := some session } }

theorem UnderSessions.whileSharing (h : UnderSessions e R) : WhileSharing e R fun _ => True :=
  { h.whileMoving with seated := h.seated }

/-! ### Operations -/

/-- What can be done to a game. -/
inductive Operation where
  | enter (sceneId : String)
  | leave (ref : ExitRef)
  | act (actionId : String)
  | look
  | apply (effects : List Effect)
  | openSession (id : String)
  | register (player : Json)
  | queue (vote : Json)
  | resolve (b : Ballot)
  | carryOut (v : Vote)

/-- The play after an operation, whatever came of it. -/
def Operation.after (e : Engine) : Operation → Play → Play
  | enter sceneId, p => ((e.enter sceneId).on p).2
  | leave ref, p => ((e.leave ref).on p).2
  | act actionId, p => ((e.act actionId).on p).2
  | look, p => (e.look.on p).2
  | apply effects, p => ((e.applyAll effects).on p).2
  | openSession id, p => ((e.openSession id).on p).2
  | register player, p => ((e.registerPlayer player).on p).2
  | queue vote, p => ((e.queueVote vote).on p).2
  | resolve b, p => ((e.resolveVotes b).on p).2
  | carryOut v, p => ((e.carryOut v).on p).2

/-- The turn of an operation that ends with a view. -/
def Operation.shows (e : Engine) : Operation → Option (Turn SceneView)
  | enter sceneId => some (e.enter sceneId)
  | leave ref => some (e.leave ref)
  | act actionId => some (e.act actionId)
  | look => some e.look
  | carryOut v => some (e.carryOut v)
  | apply _ | openSession _ | register _ | queue _ | resolve _ => none

/-- The effects that an operation brings with it, besides those of the story and of the modules. -/
def Operation.effects : Operation → List Effect
  | apply effects => effects
  | _ => []

/-- **What every small step keeps, every operation keeps** that brings effects of the kind. -/
theorem WhileSharing.keeps_after (h : WhileSharing e R B) {o : Operation}
    (ho : ∀ x ∈ o.effects, B x) (p : Play) : R p (o.after e p) := by
  cases o with
  | enter sceneId => exact h.keeps_enter sceneId p
  | leave ref => exact h.keeps_leave (fun _ _ _ _ _ _ _ => trivial) p
  | act actionId => exact h.keeps_act actionId p
  | look => exact h.keeps_look h.asked p
  | apply effects => exact h.keeps_applyAll ho p
  | openSession id => exact h.keeps_openSession id p
  | register player => exact h.keeps_registerPlayer player p
  | queue vote => exact h.keeps_queueVote vote p
  | resolve b => exact h.keeps_resolveVotes b p
  | carryOut v => exact h.keeps_carryOut v p

theorem Operation.keeps_after (h : UnderSessions e R) (o : Operation) (p : Play) :
    R p (o.after e p) := h.whileSharing.keeps_after (fun _ _ => trivial) p

/-- **The plays that a game can come to** that begins with a character.  What the games on an engine
share can change at any time. -/
inductive Engine.Reachable (e : Engine) (c : Character) : Play → Prop
  | beginning (shared : Shared) : Reachable e c (e.beginning c shared)
  | after {p : Play} (hp : Reachable e c p) (o : Operation) : Reachable e c (o.after e p)
  | meanwhile {p : Play} (hp : Reachable e c p) (shared : Shared) :
      Reachable e c { p with toShared := shared }

/-- The play after operations in a row. -/
def Operation.afterAll (e : Engine) (os : List Operation) (p : Play) : Play :=
  os.foldl (fun p o => o.after e p) p

/-- What every small step keeps, operations in a row keep. -/
theorem WhileSharing.keeps_afterAll (h : WhileSharing e R B) {os : List Operation}
    (hos : ∀ o ∈ os, ∀ x ∈ o.effects, B x) (p : Play) : R p (Operation.afterAll e os p) := by
  induction os generalizing p with
  | nil => exact h.refl p
  | cons o os ih =>
      obtain ⟨ho, hrest⟩ := List.forall_mem_cons.1 hos
      exact h.trans _ _ _ (h.keeps_after ho p) (ih hrest _)

theorem Engine.Reachable.afterAll {c : Character} {p : Play} (hp : e.Reachable c p)
    (os : List Operation) : e.Reachable c (Operation.afterAll e os p) := by
  induction os generalizing p with
  | nil => exact hp
  | cons o os ih => exact ih (hp.after o)

/-! ### States that belong to a story -/

/-- A state belongs to the story of an engine: it says so, it is at a scene of the story, and the
sections of the enabled features are in use. -/
structure GameState.Belongs (e : Engine) (s : GameState) : Prop where
  schemaVersion : s.schemaVersion = e.story.schemaVersion
  storyBundleId : s.storyBundleId = e.story.id
  placed : (e.scene? s.currentSceneId).isSome
  loreKnowledge : e.features.loreReveals = true → s.loreKnowledge.isSome
  relationships : e.features.relationships = true → s.relationships.isSome
  companions : e.features.companions = true → s.companions.isSome
  session : e.features.sessions = true → s.session.isSome

theorem section?_of_isSome {α : Type} {enabled : Bool} {beginning : α} {current : Option α}
    (h : enabled = true → current.isSome) : section? enabled beginning current = current := by
  cases current with
  | some a => rfl
  | none =>
      cases enabled with
      | false => rfl
      | true => cases h rfl

theorem isSome_section? {α : Type} {enabled : Bool} (h : enabled = true) (beginning : α)
    (current : Option α) : (section? enabled beginning current).isSome := by
  subst h
  cases current <;> rfl

namespace GameState.Belongs

variable {s s' : GameState}

/-- **The sections of the enabled features are there already.** -/
theorem withDefaults (h : s.Belongs e) : e.withDefaults s = s := by
  rw [Engine.withDefaults]
  rw [section?_of_isSome h.loreKnowledge, section?_of_isSome h.relationships]
  rw [section?_of_isSome h.companions, section?_of_isSome h.session]

/-- A state that is at home in the story belongs to it once its sections are in use. -/
theorem of_withDefaults (hversion : s.schemaVersion = e.story.schemaVersion)
    (hid : s.storyBundleId = e.story.id) (hplaced : (e.scene? s.currentSceneId).isSome) :
    (e.withDefaults s).Belongs e where
  schemaVersion := hversion
  storyBundleId := hid
  placed := hplaced
  loreKnowledge h := isSome_section? h [] s.loreKnowledge
  relationships h := isSome_section? h [] s.relationships
  companions h := isSome_section? h (e.story.world.companions.map Companion.joined) s.companions
  session h := isSome_section? h SessionState.unopened s.session

theorem fresh (e : Engine) (c : Character) (hstart : (e.scene? e.story.startScene).isSome) :
    (e.fresh c).Belongs e := of_withDefaults rfl rfl hstart

/-- A state that differs from one of the story by no more than effects do belongs to it as well. -/
theorem sameCourse (h : s.Belongs e) (hcourse : s.SameCourse s') : s'.Belongs e where
  schemaVersion := hcourse.schemaVersion.trans h.schemaVersion
  storyBundleId := hcourse.storyBundleId.trans h.storyBundleId
  placed := hcourse.currentSceneId ▸ h.placed
  loreKnowledge he := hcourse.loreKnowledge ▸ h.loreKnowledge he
  relationships he := hcourse.relationships (h.relationships he)
  companions he := hcourse.companions (h.companions he)
  session he := hcourse.session ▸ h.session he

/-- Into whatever scene of the story the player is put, the state still belongs to the story. -/
theorem moved (h : s.Belongs e) {scene : Scene} {id : String} (hs : e.scene? id = some scene) :
    GameState.Belongs e { s.moveTo scene.locationId with currentSceneId := scene.id } := by
  have hplaced : (e.scene? scene.id).isSome := by
    rw [Engine.id_of_scene? hs, hs]
    rfl
  exact { h.sameCourse (s.sameCourse_moveTo scene.locationId) with placed := hplaced }

/-- **Whatever is done to a game, its state belongs to the story.** -/
theorem underSessions (e : Engine) :
    UnderSessions e fun p q => p.state.Belongs e → q.state.Belongs e where
  refl _ h := h
  trans _ _ _ h h' hp := h' (h hp)
  drawn _ _ h := h
  warned _ _ h := h
  noted _ _ h := { h with }
  changed _ _ _ _ ho h := h.sameCourse (Effect.outcome_sameCourse ho)
  applied _ _ h := { h with }
  moved _ _ _ hs h := h.moved hs
  recorded _ _ _ _ _ h := { h with }
  seated _ _ h := { h with session := fun _ => rfl }

end GameState.Belongs

/-- **Every state that is reached belongs to the story of the engine.** -/
theorem Engine.Reachable.belongs {setup : Setup} (hb : (build setup).engine = some e)
    {c : Character} {p : Play} (hp : e.Reachable c p) : p.state.Belongs e := by
  induction hp with
  | beginning shared =>
      exact .fresh e c ((isSome_scene?_iff e _).2 (sound_of_build hb).start)
  | after _ o ih => exact Operation.keeps_after (GameState.Belongs.underSessions e) o _ ih
  | meanwhile _ shared ih => exact ih

end Storyworld
