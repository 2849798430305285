/-
**The last teleport decides, wherever it comes from.**

Where a move leads is put together on the way: within a list of effects, from hook to hook, and from
the effects of an action to those of its hooks.  Here it is said at once.  First all effects are
applied in order, whether or not one of them is a teleport; then the last teleport among all of them
is looked for, and the player goes where it leads.  Without one an action stays in its scene, an
exit leads to its own target, and a scene that has been entered is not left.

A move that does not get that far neither gives a view nor enters a scene after it: it was refused,
or a module, an effect or a text ended in a fault.

Main definitions:

* `Storyworld.LeadsTo` — where the last teleport among some effects leads;
* `Storyworld.Engine.Applies`, `Storyworld.Engine.Fires` — effects are applied in order, and hooks
  fire in order, with all the effects of what the modules answer;
* `Storyworld.Engine.Visits`, `Storyworld.Engine.Departs`, `Storyworld.Engine.Performs` — all that
  entering a scene, leaving it and taking an action have to do is done;
* `Storyworld.Engine.Follows`, `Storyworld.Engine.Leaves`, `Storyworld.Engine.Acts` — **what moves
  come to, told by the last teleport**.

Main results:

* `Storyworld.leadsTo_iff` — the last teleport, looked for at once;
* `Storyworld.Engine.on_applyAll_iff`, `Storyworld.Engine.on_fireAll_iff` — effects and hooks;
* `Storyworld.Engine.follows_of_on` — a whole chain of teleports;
* `Storyworld.Engine.last_teleport_decides` — **what moves come to**.
-/

import Storyworld.Proofs.Locations
import Storyworld.Proofs.Teleports

set_option relaxedAutoImplicit false
set_option autoImplicit false

namespace Storyworld

/-! ### The last teleport -/

/-- **Where the last teleport among some effects leads**, if there is one. -/
inductive LeadsTo : List Effect → Option String → Prop
  | nowhere {xs : List Effect} (h : ∀ x ∈ xs, x.target? = none) : LeadsTo xs none
  | last {before after : List Effect} {next : String} {location : Option String}
      (h : ∀ x ∈ after, x.target? = none) :
      LeadsTo (before ++ .teleport next location :: after) (some next)

variable {xs ys : List Effect} {target : Option String}

theorem lastTarget?_eq_of_leadsTo (h : LeadsTo xs target) : lastTarget? xs = target := by
  cases h with
  | nowhere h => rw [lastTarget?, List.filterMap_eq_nil_iff.2 h, List.getLast?_nil]
  | last h =>
      have hafter : List.filterMap Effect.target? _ = [] := List.filterMap_eq_nil_iff.2 h
      rw [lastTarget?, List.filterMap_append, List.getLast?_append]
      simp only [List.filterMap_cons, Effect.target?, hafter, List.getLast?_singleton,
        Option.some_or]

theorem exists_leadsTo (xs : List Effect) : ∃ target, LeadsTo xs target := by
  induction xs with
  | nil => exact ⟨none, .nowhere fun _ hx => nomatch hx⟩
  | cons x xs ih =>
      obtain ⟨target, h⟩ := ih
      cases h with
      | @last before after next location h =>
          exact ⟨some next, @LeadsTo.last (x :: before) after next location h⟩
      | nowhere h =>
          -- no later effect teleports, so it depends on the first one
          cases x with
          | teleport next location => exact ⟨some next, @LeadsTo.last [] xs next location h⟩
          | _ => exact ⟨none, .nowhere (List.forall_mem_cons.2 ⟨rfl, h⟩)⟩

theorem leadsTo_iff : LeadsTo xs target ↔ lastTarget? xs = target := by
  constructor
  · exact lastTarget?_eq_of_leadsTo
  · rintro rfl
    obtain ⟨target, h⟩ := exists_leadsTo xs
    rwa [lastTarget?_eq_of_leadsTo h]

/-- Of effects after others, the last teleport is looked for among the later ones first. -/
theorem lastTarget?_append (xs ys : List Effect) :
    lastTarget? (xs ++ ys) = (lastTarget? ys).or (lastTarget? xs) := by
  rw [lastTarget?, List.filterMap_append, List.getLast?_append]
  rfl

/-- Effects none of which teleports to a scene without a name. -/
def Named (xs : List Effect) : Prop := ∀ x ∈ xs, ∀ t, x.target? = some t → t ≠ ""

theorem Named.append (hx : Named xs) (hy : Named ys) : Named (xs ++ ys) :=
  List.forall_mem_append.2 ⟨hx, hy⟩

/-- **Effects after others lead where their last teleport leads**, or else where the others led. -/
theorem Named.laterTarget (h : Named xs) (before : Option String) :
    laterTarget before (lastTarget? xs) = (lastTarget? xs).or before := by
  cases ht : lastTarget? xs with
  | none => rfl
  | some t => exact if_neg (lastTarget_of_all h t ht)

theorem laterTarget_append (hx : Named xs) (hy : Named ys) (before : Option String) :
    laterTarget (laterTarget before (lastTarget? xs)) (lastTarget? ys) =
      laterTarget before (lastTarget? (xs ++ ys)) := by
  rw [hy.laterTarget, hx.laterTarget, (hx.append hy).laterTarget, lastTarget?_append,
    Option.or_assoc]

/-! ### Effects and hooks in order -/

/-- A play after an effect that has changed the state and may have left a warning. -/
def Play.applied (p : Play) (x : Effect) (s : GameState) (warning : Option Issue) : Play :=
  { p with state := s, warnings := p.warnings ++ warning.toList }.record
    .effect none none (some [("effect", .str x.kind)])

namespace Engine

variable {e : Engine} {p q : Play} {scene : Scene} {action : Option Action}
  {tell : RuleResult → Turn (List String)} {hooks : List Hook} {texts told : List String}

/-- **Effects are applied in order**, each to the state that those before it have left. -/
inductive Applies (e : Engine) : List Effect → Play → Play → Prop
  | nil {p : Play} : Applies e [] p p
  | cons {x : Effect} {xs : List Effect} {p q : Play} {s : GameState} {warning : Option Issue}
      (hx : x.outcome e p.state = .ok (s, warning)) (hxs : Applies e xs (p.applied x s warning) q) :
      Applies e (x :: xs) p q

/-- **Hooks fire in order**: what the modules answer at one is applied and told before the next one
fires.  The effects are those of all the answers, and so are the texts. -/
inductive Fires (e : Engine) (scene : Scene) (action : Option Action)
    (tell : RuleResult → Turn (List String)) :
    List Hook → Play → List Effect → List String → Play → Prop
  | nil {p : Play} : Fires e scene action tell [] p [] [] p
  /-- the modules have nothing to say -/
  | silent {hook : Hook} {hooks : List Hook} {p p₁ q : Play} {xs : List Effect}
      {texts : List String} (ha : (e.ask scene action hook).on p = (.ok none, p₁))
      (hrest : Fires e scene action tell hooks p₁ xs texts q) :
      Fires e scene action tell (hook :: hooks) p xs texts q
  /-- the modules answer -/
  | answered {hook : Hook} {hooks : List Hook} {p p₁ p₂ p₃ q : Play} {r : RuleResult}
      {xs : List Effect} {told texts : List String}
      (ha : (e.ask scene action hook).on p = (.ok (some r), p₁))
      (hx : e.Applies r.effects p₁ p₂) (ht : (tell r).on p₂ = (.ok told, p₃))
      (hrest : Fires e scene action tell hooks p₃ xs texts q) :
      Fires e scene action tell (hook :: hooks) p (r.effects ++ xs) (told ++ texts) q

theorem on_applyOne (x : Effect) (p : Play) : (e.applyOne x).on p =
    match x.outcome e p.state with
    | .ok (s, warning) => (.ok (), p.applied x s warning)
    | .error f => (.error f, p) := by
  rw [applyOne, Turn.on_bind_ok (Turn.on_state p), Turn.on_bind, Turn.on_ofExcept]
  rcases x.outcome e p.state with f | ⟨s, warning⟩
  · rfl
  · cases warning with
    | none => simp [Turn.on_bind_ok (Turn.on_change _ _), Play.applied]
    | some w => rfl

/-- **Applying effects is applying them in order.** -/
theorem on_forM_iff (xs : List Effect) (p q : Play) :
    (xs.forM e.applyOne).on p = (.ok (), q) ↔ e.Applies xs p q := by
  induction xs generalizing p with
  | nil =>
      constructor
      · rintro ⟨⟩
        exact .nil
      · rintro ⟨⟩
        rfl
  | cons x xs ih =>
      show (e.applyOne x >>= fun _ => xs.forM e.applyOne).on p = _ ↔ _
      rw [Turn.on_bind, on_applyOne]
      constructor
      · intro h
        rcases hx : x.outcome e p.state with f | ⟨s, warning⟩
        · rw [hx] at h
          cases h
        · rw [hx] at h
          exact .cons hx ((ih _).1 h)
      · rintro (_ | ⟨hx, hxs⟩)
        rw [hx]
        exact (ih _).2 hxs

theorem on_applyAll_iff {xs : List Effect} {target : Option String} :
    (e.applyAll xs).on p = (.ok target, q) ↔ e.Applies xs p q ∧ target = lastTarget? xs := by
  rw [applyAll, Turn.on_bind_eq_ok]
  constructor
  · rintro ⟨⟨⟩, p₁, hxs, ht⟩
    cases ht
    exact ⟨(on_forM_iff xs p q).1 hxs, rfl⟩
  · rintro ⟨hxs, rfl⟩
    exact ⟨(), q, (on_forM_iff xs p q).2 hxs, rfl⟩

theorem on_fire_iff {hook : Hook} {out : Option String × List String} :
    (e.fire scene action hook).on p = (.ok out, q) ↔
      ((e.ask scene action hook).on p = (.ok none, q) ∧ out = (none, [])) ∨
      ∃ r p₁ p₂ told, (e.ask scene action hook).on p = (.ok (some r), p₁) ∧
        e.Applies r.effects p₁ p₂ ∧ (e.overlay r).on p₂ = (.ok told, q) ∧
        out = (lastTarget? r.effects, told) := by
  rw [fire, Turn.on_bind_eq_ok]
  constructor
  · rintro ⟨_ | r, p₁, ha, h⟩
    · cases h
      exact .inl ⟨ha, rfl⟩
    · obtain ⟨target, p₂, hx, h⟩ := Turn.on_bind_eq_ok.1 h
      obtain ⟨told, p₃, ht, h⟩ := Turn.on_bind_eq_ok.1 h
      cases h
      obtain ⟨happlied, rfl⟩ := on_applyAll_iff.1 hx
      exact .inr ⟨r, p₁, p₂, told, ha, happlied, ht, rfl⟩
  · rintro (⟨ha, rfl⟩ | ⟨r, p₁, p₂, told, ha, hx, ht, rfl⟩)
    · exact ⟨none, q, ha, rfl⟩
    · refine ⟨some r, p₁, ha, ?_⟩
      dsimp only
      rw [Turn.on_bind_ok (on_applyAll_iff.2 ⟨hx, rfl⟩), Turn.on_bind_ok ht, Turn.on_pure]

/-- The modules name every scene to which they teleport. -/
theorem Fires.named (hm : e.modules.LeadInto (· ≠ "")) {xs : List Effect}
    (h : e.Fires scene action tell hooks p xs texts q) : Named xs := by
  induction h with
  | nil => exact fun _ hx => nomatch hx
  | silent _ _ ih => exact ih
  | answered ha _ _ _ ih => exact Named.append (gives_ask hm _ _ _ _ _ _ ha _ rfl) ih

/-- **What hooks come to** is decided by the last teleport among all of their effects. -/
theorem on_fireAll_iff (hm : e.modules.LeadInto (· ≠ "")) {before : Option String}
    {out : Option String × List String} :
    (e.fireAll scene action hooks before told).on p = (.ok out, q) ↔
      ∃ xs texts, e.Fires scene action e.overlay hooks p xs texts q ∧
        out = (laterTarget before (lastTarget? xs), told ++ texts) := by
  -- what has been told and where the hooks before have led is carried along
  induction hooks generalizing before told p with
  | nil =>
      constructor
      · rintro ⟨⟩
        exact ⟨[], [], .nil, by rw [List.append_nil]; rfl⟩
      · rintro ⟨xs, texts, ⟨⟩, rfl⟩
        rw [List.append_nil]
        rfl
  | cons hook hooks ih =>
      rw [fireAll, Turn.on_bind_eq_ok]
      constructor
      · rintro ⟨⟨next, more⟩, p₁, hfire, hrest⟩
        obtain ⟨xs, texts, hxs, rfl⟩ := ih.1 hrest
        rcases on_fire_iff.1 hfire with ⟨ha, hout⟩ | ⟨r, p₂, p₃, said, ha, hx, ht, hout⟩
        · cases hout
          exact ⟨xs, texts, .silent ha hxs, by rw [List.append_nil]; rfl⟩
        · cases hout
          have hr : Named r.effects := gives_ask hm _ _ _ _ _ _ ha _ rfl
          exact ⟨_, _, .answered ha hx ht hxs,
            by rw [laterTarget_append hr (hxs.named hm), List.append_assoc]⟩
      · rintro ⟨xs, texts, h, rfl⟩
        cases h with
        | silent ha hxs =>
            refine ⟨(none, []), _, on_fire_iff.2 (.inl ⟨ha, rfl⟩), ih.2 ⟨_, _, hxs, ?_⟩⟩
            rw [List.append_nil]
            rfl
        | answered ha hx ht hxs =>
            refine ⟨_, _, on_fire_iff.2 (.inr ⟨_, _, _, _, ha, hx, ht, rfl⟩),
              ih.2 ⟨_, _, hxs, ?_⟩⟩
            have hr := gives_ask hm _ _ _ _ _ _ ha _ rfl
            rw [laterTarget_append hr (hxs.named hm), List.append_assoc]

/-- What hooks come to whose texts are not told. -/
theorem on_fireSilently_iff (hm : e.modules.LeadInto (· ≠ "")) {before target : Option String} :
    (e.fireSilently scene hooks before).on p = (.ok target, q) ↔
      ∃ xs texts, e.Fires scene none (fun _ => pure []) hooks p xs texts q ∧
        target = laterTarget before (lastTarget? xs) := by
  induction hooks generalizing before p with
  | nil =>
      constructor
      · rintro ⟨⟩
        exact ⟨[], [], .nil, rfl⟩
      · rintro ⟨xs, texts, ⟨⟩, rfl⟩
        rfl
  | cons hook hooks ih =>
      rw [fireSilently, Turn.on_bind_eq_ok]
      constructor
      · rintro ⟨_ | r, p₁, ha, hrest⟩
        · obtain ⟨xs, texts, hxs, rfl⟩ := ih.1 hrest
          exact ⟨xs, texts, .silent ha hxs, rfl⟩
        · obtain ⟨next, p₂, hx, hrest⟩ := Turn.on_bind_eq_ok.1 hrest
          obtain ⟨happlied, rfl⟩ := on_applyAll_iff.1 hx
          obtain ⟨xs, texts, hxs, rfl⟩ := ih.1 hrest
          have hr : Named r.effects := gives_ask hm _ _ _ _ _ _ ha _ rfl
          exact ⟨_, _, .answered ha happlied (Turn.on_pure _ _) hxs,
            laterTarget_append hr (hxs.named hm) before⟩
      · rintro ⟨xs, texts, h, rfl⟩
        cases h with
        | silent ha hxs => exact ⟨none, _, ha, ih.2 ⟨_, _, hxs, rfl⟩⟩
        | answered ha hx ht hxs =>
            cases ht
            have hr := gives_ask hm _ _ _ _ _ _ ha _ rfl
            refine ⟨some _, _, ha, Turn.on_bind_eq_ok.2 ⟨_, _, on_applyAll_iff.2 ⟨hx, rfl⟩, ?_⟩⟩
            exact ih.2 ⟨_, _, hxs, (laterTarget_append hr (hxs.named hm) before).symm⟩

/-! ### All that a move has to do -/

/-- **A scene has been entered and its entry rules have fired**, with these effects and texts. -/
inductive Visits (e : Engine) (id : String) (p : Play) :
    Scene → List Effect → List String → Play → Prop
  | done {scene : Scene} {xs : List Effect} {texts : List String} {q : Play}
      (hs : e.scene? id = some scene)
      (hxs : e.Fires scene none e.overlay scene.entryRules (p.arrive scene) xs texts q) :
      Visits e id p scene xs texts q

/-- **An open exit has been chosen and the exit rules have fired**, with these effects. -/
inductive Departs (e : Engine) (ref : ExitRef) (p : Play) :
    Scene → Exit → List Effect → Play → Prop
  | done {scene : Scene} {exit : Exit} {xs : List Effect} {texts : List String} {p₁ q : Play}
      (hs : e.scene? p.state.currentSceneId = some scene) (hx : scene.exit? ref = some exit)
      (hc : (e.meets exit.condition).on p = (.ok true, p₁))
      (hxs : e.Fires scene none (fun _ => pure []) scene.exitRules (p₁.chooseExit scene exit) xs
        texts q) : Departs e ref p scene exit xs q

/-- **An open action has been chosen, its effects have been applied, and its hooks have fired**,
with these effects, those of the action first, and with these texts. -/
inductive Performs (e : Engine) (id : String) (p : Play) :
    Scene → List Effect → List String → Play → Prop
  | done {scene : Scene} {action : Action} {xs : List Effect} {texts : List String} {p₁ p₂ q : Play}
      (hs : e.scene? p.state.currentSceneId = some scene) (ha : scene.action? id = some action)
      (hc : (e.meets action.condition).on p = (.ok true, p₁))
      (hown : e.Applies action.effects (p₁.chooseAction scene id) p₂)
      (hxs : e.Fires scene (some action) e.overlay action.hooks p₂ xs texts q) :
      Performs e id p scene (action.effects ++ xs) texts q

theorem on_visit_iff (hm : e.modules.LeadInto (· ≠ "")) {target : Option String} :
    (e.visit scene).on p = (.ok (target, texts), q) ↔
      ∃ xs, e.Fires scene none e.overlay scene.entryRules (p.arrive scene) xs texts q ∧
        LeadsTo xs target := by
  rw [on_visit, on_fireAll_iff hm]
  constructor
  · rintro ⟨xs, texts, hxs, hout⟩
    cases hout
    refine ⟨xs, hxs, leadsTo_iff.2 ?_⟩
    rw [(hxs.named hm).laterTarget, Option.or_none]
  · rintro ⟨xs, hxs, ht⟩
    refine ⟨xs, texts, hxs, ?_⟩
    rw [(hxs.named hm).laterTarget, Option.or_none, leadsTo_iff.1 ht]
    rfl

theorem on_perform_iff (hm : e.modules.LeadInto (· ≠ "")) {action : Action}
    (hown : Named action.effects) {target : Option String} :
    (e.perform scene action).on p = (.ok (target, texts), q) ↔
      ∃ p₁ xs, e.Applies action.effects p p₁ ∧
        e.Fires scene (some action) e.overlay action.hooks p₁ xs texts q ∧
        LeadsTo (action.effects ++ xs) target := by
  rw [perform, Turn.on_bind_eq_ok]
  constructor
  · rintro ⟨own, p₁, happly, h⟩
    obtain ⟨happlied, rfl⟩ := on_applyAll_iff.1 happly
    obtain ⟨xs, texts, hxs, hout⟩ := (on_fireAll_iff hm).1 h
    cases hout
    refine ⟨p₁, xs, happlied, hxs, leadsTo_iff.2 ?_⟩
    have hnamed := hxs.named hm
    rw [laterTarget_append hown hnamed, (hown.append hnamed).laterTarget, Option.or_none]
  · rintro ⟨p₁, xs, happlied, hxs, ht⟩
    refine ⟨_, p₁, on_applyAll_iff.2 ⟨happlied, rfl⟩, (on_fireAll_iff hm).2 ⟨xs, texts, hxs, ?_⟩⟩
    have hnamed := hxs.named hm
    rw [laterTarget_append hown hnamed, (hown.append hnamed).laterTarget, Option.or_none,
      leadsTo_iff.1 ht]
    rfl

/-! ### What moves come to -/

/-- **What entering a scene comes to**, with so many teleports still allowed. -/
inductive Follows (e : Engine) : Nat → String → Play → Except Fault SceneView → Play → Prop
  /-- no entry rule teleports, and the player stays and sees the scene -/
  | stays {hops : Nat} {id : String} {p q q' : Play} {scene : Scene} {xs : List Effect}
      {texts : List String} {r : Except Fault SceneView} (hv : e.Visits id p scene xs texts q)
      (hx : LeadsTo xs none) (hr : (e.view scene texts []).on q = (r, q')) :
      Follows e hops id p r q'
  /-- the last teleport leads on -/
  | goesOn {hops : Nat} {id next : String} {p q q' : Play} {scene : Scene} {xs : List Effect}
      {texts : List String} {r : Except Fault SceneView} (hv : e.Visits id p scene xs texts q)
      (hx : LeadsTo xs (some next)) (hr : Follows e hops next (q.depart scene) r q') :
      Follows e (hops + 1) id p r q'
  /-- the last teleport leads on, which is not allowed any more -/
  | stops {id next : String} {p q : Play} {scene : Scene} {xs : List Effect} {texts : List String}
      {chain : List String} (hv : e.Visits id p scene xs texts q) (hx : LeadsTo xs (some next)) :
      Follows e 0 id p (.error (.teleportLoop chain e.maxHops)) (q.depart scene)
  /-- not all is done, and no other scene is entered -/
  | halts {hops : Nat} {id : String} {p q : Play} {f : Fault}
      (hv : ∀ scene xs texts q, ¬ e.Visits id p scene xs texts q) (hq : EntersAtMost 1 p q) :
      Follows e hops id p (.error f) q

/-- **What leaving through an exit comes to.** -/
inductive Leaves (e : Engine) (ref : ExitRef) (p : Play) : Except Fault SceneView → Play → Prop
  /-- no exit rule teleports, and the player enters the target of the exit -/
  | targeted {scene : Scene} {exit : Exit} {xs : List Effect} {q q' : Play}
      {r : Except Fault SceneView} (hd : e.Departs ref p scene exit xs q) (hx : LeadsTo xs none)
      (hr : e.Follows e.maxHops.toNat exit.targetScene (q.depart scene) r q') : Leaves e ref p r q'
  /-- the player enters the scene to which the last teleport leads -/
  | teleported {scene : Scene} {exit : Exit} {xs : List Effect} {next : String} {q q' : Play}
      {r : Except Fault SceneView} (hd : e.Departs ref p scene exit xs q)
      (hx : LeadsTo xs (some next)) (hr : e.Follows e.maxHops.toNat next (q.depart scene) r q') :
      Leaves e ref p r q'
  /-- not all is done, and no scene is entered -/
  | halts {q : Play} {f : Fault} (hd : ∀ scene exit xs q, ¬ e.Departs ref p scene exit xs q)
      (hq : EntersAtMost 0 p q) : Leaves e ref p (.error f) q

/-- **What taking an action comes to.** -/
inductive Acts (e : Engine) (id : String) (p : Play) : Except Fault SceneView → Play → Prop
  /-- neither the action nor one of its hooks teleports, and the player stays and sees the scene -/
  | stays {scene : Scene} {xs : List Effect} {texts : List String} {q q' : Play}
      {r : Except Fault SceneView} (hp : e.Performs id p scene xs texts q) (hx : LeadsTo xs none)
      (hr : (e.view scene [] texts).on q = (r, q')) : Acts e id p r q'
  /-- the player leaves and enters the scene to which the last teleport leads -/
  | teleported {scene : Scene} {xs : List Effect} {texts : List String} {next : String}
      {q q' : Play} {r : Except Fault SceneView} (hp : e.Performs id p scene xs texts q)
      (hx : LeadsTo xs (some next)) (hr : e.Follows e.maxHops.toNat next (q.depart scene) r q') :
      Acts e id p r q'
  /-- not all is done, and no scene is entered -/
  | halts {q : Play} {f : Fault} (hp : ∀ scene xs texts q, ¬ e.Performs id p scene xs texts q)
      (hq : EntersAtMost 0 p q) : Acts e id p (.error f) q

variable {r : Except Fault SceneView}

/-- **A whole chain of teleports** goes from each scene to where the last teleport leads. -/
theorem follows_of_on (hm : e.modules.LeadInto (· ≠ "")) {hops : Nat} {chain : List String}
    {id : String} (h : (e.enterWithin hops chain id).on p = (r, q)) : e.Follows hops id p r q := by
  replace h := e.entering_of_on h
  induction h with
  | missing hs =>
      refine .halts ?_ ((entersAtMost_same _).mono (Nat.zero_le _))
      rintro scene xs texts q ⟨hs', -⟩
      cases hs.symm.trans hs'
  | broken hs hv =>
      refine .halts ?_ (entersAtMost_visit hv)
      rintro scene xs texts q ⟨hs', hxs⟩
      cases hs.symm.trans hs'
      obtain ⟨target, hx⟩ := exists_leadsTo xs
      cases hv.symm.trans ((on_visit_iff hm).2 ⟨xs, hxs, hx⟩)
  | stayed hs hv hr =>
      obtain ⟨xs, hxs, hx⟩ := (on_visit_iff hm).1 hv
      exact .stays (.done hs hxs) hx hr
  | looped hs hv =>
      obtain ⟨xs, hxs, hx⟩ := (on_visit_iff hm).1 hv
      exact .stops (.done hs hxs) hx
  | wentOn hs hv _ ih =>
      obtain ⟨xs, hxs, hx⟩ := (on_visit_iff hm).1 hv
      exact .goesOn (.done hs hxs) hx ih

/-- **Leaving** leads where the last teleport of the exit rules leads, or else to the target. -/
theorem leaves_of_on (hm : e.modules.LeadInto (· ≠ "")) {ref : ExitRef}
    (h : (e.leave ref).on p = (r, q)) : e.Leaves ref p r q := by
  cases e.leaving_of_on h with
  | lost hs =>
      refine .halts ?_ (entersAtMost_same p)
      rintro scene exit xs q ⟨hs', -, -, -⟩
      cases hs.symm.trans hs'
  | noExit hs hx =>
      refine .halts ?_ (entersAtMost_same p)
      rintro scene exit xs q ⟨hs', hx', -, -⟩
      cases hs.symm.trans hs'
      cases hx.symm.trans hx'
  | undecided hs hx hc =>
      refine .halts ?_ (entersAtMost_meets hc)
      rintro scene exit xs q ⟨hs', hx', hc', -⟩
      cases hs.symm.trans hs'
      cases hx.symm.trans hx'
      cases hc.symm.trans hc'
  | closed hs hx hc =>
      refine .halts ?_ (entersAtMost_meets hc)
      rintro scene exit xs q ⟨hs', hx', hc', -⟩
      cases hs.symm.trans hs'
      cases hx.symm.trans hx'
      cases hc.symm.trans hc'
  | broken hs hx hc hr =>
      have hfired := ((Indoors.underEffects e).keeps_fireSilently _ _ _).of_on hr
      refine .halts ?_ ((entersAtMost_meets hc).trans
        ((entersAtMost_chooseExit _ _ _).trans (entersAtMost_indoors hfired)))
      rintro scene exit xs q ⟨hs', hx', hc', hxs⟩
      cases hs.symm.trans hs'
      cases hx.symm.trans hx'
      cases hc.symm.trans hc'
      cases hr.symm.trans ((on_fireSilently_iff hm).2 ⟨xs, _, hxs, rfl⟩)
  | left hs hx hc hr he =>
      obtain ⟨xs, texts, hxs, rfl⟩ := (on_fireSilently_iff hm).1 hr
      rw [(hxs.named hm).laterTarget, Option.or_none] at he
      have hd : e.Departs ref p _ _ xs _ := .done hs hx hc hxs
      cases ht : lastTarget? xs with
      | none =>
          rw [ht] at he
          exact .targeted hd (leadsTo_iff.2 ht) (follows_of_on hm he)
      | some next =>
          rw [ht] at he
          exact .teleported hd (leadsTo_iff.2 ht) (follows_of_on hm he)

/-- **Acting** leads where the last teleport of the action and of its hooks leads. -/
theorem acts_of_on (hsound : e.story.Sound) (hm : e.modules.LeadInto (· ≠ "")) {id : String}
    (h : (e.act id).on p = (r, q)) : e.Acts id p r q := by
  cases e.acting_of_on h with
  | lost hs =>
      refine .halts ?_ (entersAtMost_same p)
      rintro scene xs texts q ⟨hs', -, -, -, -⟩
      cases hs.symm.trans hs'
  | noAction hs ha =>
      refine .halts ?_ (entersAtMost_same p)
      rintro scene xs texts q ⟨hs', ha', -, -, -⟩
      cases hs.symm.trans hs'
      cases ha.symm.trans ha'
  | undecided hs ha hc =>
      refine .halts ?_ (entersAtMost_meets hc)
      rintro scene xs texts q ⟨hs', ha', hc', -, -⟩
      cases hs.symm.trans hs'
      cases ha.symm.trans ha'
      cases hc.symm.trans hc'
  | closed hs ha hc =>
      refine .halts ?_ (entersAtMost_meets hc)
      rintro scene xs texts q ⟨hs', ha', hc', -, -⟩
      cases hs.symm.trans hs'
      cases ha.symm.trans ha'
      cases hc.symm.trans hc'
  | broken hs ha hc hr =>
      have hdone := ((Indoors.underEffects e).keeps_perform _ _).of_on hr
      refine .halts ?_ ((entersAtMost_meets hc).trans
        ((entersAtMost_chooseAction _ _ _).trans (entersAtMost_indoors hdone)))
      rintro scene xs texts q ⟨hs', ha', hc', happlied, hxs⟩
      cases hs.symm.trans hs'
      cases ha.symm.trans ha'
      cases hc.symm.trans hc'
      obtain ⟨target, hx⟩ := exists_leadsTo (_ ++ _)
      cases hr.symm.trans
        ((on_perform_iff hm (named_targets hsound hs ha)).2 ⟨_, _, happlied, hxs, hx⟩)
  | stayed hs ha hc hr hv =>
      obtain ⟨p₁, xs, happlied, hxs, hx⟩ :=
        (on_perform_iff hm (named_targets hsound hs ha)).1 hr
      exact .stays (.done hs ha hc happlied hxs) hx hv
  | left hs ha hc hr he =>
      obtain ⟨p₁, xs, happlied, hxs, hx⟩ :=
        (on_perform_iff hm (named_targets hsound hs ha)).1 hr
      exact .teleported (.done hs ha hc happlied hxs) hx (follows_of_on hm he)

/-- **The last teleport decides, wherever it comes from.**  Take a built engine whose modules name
every scene to which they teleport.  When entering a scene, leaving through an exit or taking an
action gives a view or goes on to another scene, all effects of the action and of the answers of the
modules have been applied in order, whether or not there were teleports among them.  An action then
leads where the last teleport leads among its own effects and those of its hooks, and stays in the
scene if there is none; an exit leads where the last teleport of the exit rules leads, and to its
own target if there is none; and a scene that is entered is left exactly if its entry rules
teleport, for where the last of their teleports leads. -/
theorem last_teleport_decides {setup : Setup} (hb : (build setup).engine = some e)
    (hm : e.modules.LeadInto (· ≠ "")) (p : Play) :
    (∀ id r q, (e.enter id).on p = (r, q) → e.Follows e.maxHops.toNat id p r q) ∧
    (∀ ref r q, (e.leave ref).on p = (r, q) → e.Leaves ref p r q) ∧
    (∀ id r q, (e.act id).on p = (r, q) → e.Acts id p r q) :=
  ⟨fun _ _ _ h => follows_of_on hm h, fun _ _ _ h => leaves_of_on hm h,
    fun _ _ _ h => acts_of_on (sound_of_build hb) hm h⟩

/-- On the Lantern Road every hook sends the player to the road. -/
theorem last_teleport_decides_lanternRoad :
    let e := LanternRoad.engine
    let p := e.beginning LanternRoad.traveller LanternRoad.alone
    (∀ id r q, (e.enter id).on p = (r, q) → e.Follows e.maxHops.toNat id p r q) ∧
    (∀ ref r q, (e.leave ref).on p = (r, q) → e.Leaves ref p r q) ∧
    (∀ id r q, (e.act id).on p = (r, q) → e.Acts id p r q) := by
  intro e p
  have hm : e.modules.LeadInto (· ≠ "") := by
    intro m hm context g r hr x hx t ht
    rw [LanternRoad.engine_answers m hm] at hr
    cases hr
    rw [List.mem_singleton.1 hx] at ht
    cases ht
    decide
  exact last_teleport_decides LanternRoad.build_eq hm p

end Engine

end Storyworld
