/-
**The modules of an engine.**

A story refers to modules by their ids, and a host offers modules.  A reference is served by the last
module on offer with its id, if that stands in for the right system and takes the configuration that
the story gives it.  An engine is built exactly if the check finds no errors and all references are
served, and then it has one module for each id, in the order in which the story first refers to them.

That order decides who answers at a hook that names no module: the modules are asked one after the
other, each with the generator that those before it have left, until one has something to say or
fails, and those behind it are not asked.  A hook that names a module is for that module alone.

The settings of a module may change while references are followed, so that the second configuration of
a module meets other settings than the first one.  Whether it is taken is assumed to depend on the
configuration alone.

Main definitions:

* `Storyworld.RuleModule.ComesTo`, `Storyworld.RuleModule.Becomes` — a module through configurations;
* `Storyworld.RuleModule.JudgesByConfig` — **what is taken depends on the configuration alone**;
* `Storyworld.OfferedLast`, `Storyworld.ModuleRef.ServedBy` — the module for a reference;
* `Storyworld.Enrolment.After` — how far some references have been followed;
* `Storyworld.Registry.Silent`, `Storyworld.Registry.Answers` — **what modules in a row answer at a
  hook**.

Main results:

* `Storyworld.Enrolment.After.follow`, `Storyworld.after_enrolAll` — **one reference**, and all;
* `Storyworld.Registry.answers_resolve` — who answers at a hook;
* `Storyworld.Engine.build_enrols_references` — **when an engine is built, and with which modules**.
-/

import Mathlib.Data.List.Induction
import Storyworld.Game.NewGame
import Storyworld.Proofs.Checked
import Storyworld.Rules.Bundled
import Storyworld.Rules.Scripted

set_option relaxedAutoImplicit false
set_option autoImplicit false

namespace Storyworld

/-! ### Modules through configurations -/

namespace RuleModule

/-- The settings that a module can come to by configurations that it takes. -/
inductive ComesTo (m : RuleModule) : Json → Prop
  | start : m.ComesTo m.settings
  | configured {settings settings' : Json} {config : Table Json} (h : m.ComesTo settings)
      (htaken : m.configure settings config = .ok settings') : m.ComesTo settings'

/-- A module takes a configuration. -/
def Takes (m : RuleModule) (config : Table Json) : Prop :=
  ∃ settings, m.configure m.settings config = .ok settings

/-- **What a module takes depends on the configuration alone**, and not on the settings that it has
come to. -/
def JudgesByConfig (m : RuleModule) : Prop :=
  ∀ settings, m.ComesTo settings → ∀ config,
    (∃ settings', m.configure settings config = .ok settings') ↔ m.Takes config

/-- A module that has been configured. -/
def Becomes (m m' : RuleModule) : Prop := ∃ settings, m.ComesTo settings ∧ m' = { m with settings }

/-- A module stands in for the system of a reference, and takes its configuration if there is one. -/
structure Serves (m : RuleModule) (ref : ModuleRef) : Prop where
  system : m.supports ref.system = true
  config : ∀ config, ref.config = some config → m.Takes config

variable {m m' m'' : RuleModule} {config : Table Json}

theorem Becomes.refl (m : RuleModule) : m.Becomes m := ⟨m.settings, .start, rfl⟩

theorem Becomes.id_eq (h : m.Becomes m') : m'.id = m.id := by
  obtain ⟨settings, -, rfl⟩ := h
  rfl

theorem Becomes.supports_eq (h : m.Becomes m') (system : String) :
    m'.supports system = m.supports system := by
  obtain ⟨settings, -, rfl⟩ := h
  rfl

theorem configured_eq_ok_iff : m.configured config = .ok m' ↔
    ∃ settings, m.configure m.settings config = .ok settings ∧ m' = { m with settings } := by
  constructor
  · intro h
    obtain ⟨settings, htaken, rfl⟩ := map_eq_ok h
    exact ⟨settings, htaken, rfl⟩
  · rintro ⟨settings, htaken, rfl⟩
    rw [configured, htaken]
    rfl

theorem Becomes.configured (h : m.Becomes m') (hc : m'.configured config = .ok m'') :
    m.Becomes m'' := by
  obtain ⟨settings, hcomes, rfl⟩ := h
  obtain ⟨settings', htaken, rfl⟩ := configured_eq_ok_iff.1 hc
  exact ⟨settings', hcomes.configured htaken, rfl⟩

/-- A module that judges by the configuration takes what it has taken at first. -/
theorem Becomes.takes_iff (h : m.Becomes m') (hjudges : m.JudgesByConfig) :
    (∃ m'', m'.configured config = .ok m'') ↔ m.Takes config := by
  obtain ⟨settings, hcomes, rfl⟩ := h
  rw [← hjudges settings hcomes config]
  constructor
  · rintro ⟨m'', hc⟩
    obtain ⟨settings', htaken, -⟩ := configured_eq_ok_iff.1 hc
    exact ⟨settings', htaken⟩
  · rintro ⟨settings', htaken⟩
    exact ⟨_, configured_eq_ok_iff.2 ⟨settings', htaken, rfl⟩⟩

/-- A module that does not look at its settings judges by the configuration. -/
theorem JudgesByConfig.of_configure_eq {judge : Table Json → Except Rejection Json}
    (h : ∀ settings, m.configure settings = judge) : m.JudgesByConfig := by
  intro settings _ config
  rw [Takes, h, h]

/-- A module that takes every configuration judges by the configuration. -/
theorem JudgesByConfig.of_takes
    (h : ∀ settings config, ∃ settings', m.configure settings config = .ok settings') :
    m.JudgesByConfig := fun settings _ config => ⟨fun _ => h _ config, fun _ => h settings config⟩

end RuleModule

/-- A script judges by the configuration. -/
theorem Rules.Script.judgesByConfig_toModule (script : Rules.Script) :
    script.toModule.JudgesByConfig := .of_configure_eq fun _ => rfl

theorem Rules.judgesByConfig_core : Rules.core.JudgesByConfig :=
  .of_takes fun settings _ => ⟨settings, rfl⟩

theorem Rules.judgesByConfig_sample : Rules.sample.JudgesByConfig :=
  .of_takes fun settings _ => ⟨settings, rfl⟩

/-- The usual dice of the dice module remain a text, so that a configuration which names none is
taken. -/
theorem Rules.judgesByConfig_dice (usual : String) :
    (Rules.dice (.str usual)).JudgesByConfig := by
  have htext : ∀ settings, (Rules.dice (.str usual)).ComesTo settings → ∃ s, settings = .str s := by
    intro settings hcomes
    induction hcomes with
    | start => exact ⟨usual, rfl⟩
    | @configured settings settings' config _ htaken ih =>
        simp only [Rules.dice] at htaken
        split at htaken
        · next s _ => exact ⟨s, (Except.ok.inj htaken).symm⟩
        · cases htaken
  intro settings hcomes config
  obtain ⟨s, rfl⟩ := htext settings hcomes
  simp only [RuleModule.Takes, Rules.dice]
  cases Table.get? config "defaultDice" with
  | none => exact ⟨fun _ => ⟨_, rfl⟩, fun _ => ⟨_, rfl⟩⟩
  | some j => exact Iff.rfl

/-! ### Registries -/

namespace Registry

variable {ms : Registry} {m : RuleModule} {id : String}

/-- What is found under an id after a module has been registered. -/
theorem get?_register (ms : Registry) (m : RuleModule) (id : String) :
    (ms.register m).get? id = if m.id = id then some m else ms.get? id := by
  unfold register get?
  by_cases hany : ms.any (·.id == m.id) = true
  · have hsame : ((fun n : RuleModule => n.id == id) ∘ fun n => if n.id == m.id then m else n) =
        fun n => n.id == id := by
      funext n
      by_cases hn : n.id = m.id
      · simp [hn]
      · simp [hn]
    rw [if_pos hany, List.find?_map, hsame]
    cases hfound : ms.find? (·.id == id) with
    | none =>
        have hne : m.id ≠ id := by
          rintro rfl
          obtain ⟨n, hn, hid⟩ := List.any_eq_true.1 hany
          exact absurd hid (List.find?_eq_none.1 hfound n hn)
        rw [if_neg hne]
        rfl
    | some n =>
        have hid : n.id = id := by simpa using List.find?_some hfound
        by_cases hm : m.id = id
        · simp [hid, hm]
        · simp [hid, hm, Ne.symm hm]
  · rw [if_neg hany, List.find?_append]
    by_cases hm : m.id = id
    · have hnone : ms.find? (·.id == id) = none := by
        rw [List.find?_eq_none]
        intro n hn hid
        exact hany (List.any_eq_true.2 ⟨n, hn, by rw [hm]; exact hid⟩)
      simp [hm, hnone]
    · simp [hm]

/-- A module keeps the place of its id, or comes last. -/
theorem ids_register (ms : Registry) (m : RuleModule) : (ms.register m).map (·.id) =
    if m.id ∈ ms.map (·.id) then ms.map (·.id) else ms.map (·.id) ++ [m.id] := by
  have hany : (ms.any (·.id == m.id) = true) ↔ m.id ∈ ms.map (·.id) := by simp
  unfold register
  by_cases hmem : m.id ∈ ms.map (·.id)
  · rw [if_pos (hany.2 hmem), if_pos hmem, List.map_map]
    refine List.map_congr_left fun n _ => ?_
    by_cases hn : n.id = m.id
    · simp [hn]
    · simp [hn]
  · rw [if_neg fun h => hmem (hany.1 h), if_neg hmem, List.map_append]
    rfl

end Registry

/-! ### The modules on offer -/

/-- **The last module on offer with an id.** -/
def OfferedLast (offered : List RuleModule) (id : String) (m : RuleModule) : Prop :=
  ∃ before after, offered = before ++ m :: after ∧ m.id = id ∧ ∀ n ∈ after, n.id ≠ id

/-- **A reference is served** by the last module on offer with its id. -/
def ModuleRef.ServedBy (ref : ModuleRef) (offered : List RuleModule) : Prop :=
  ∃ m, OfferedLast offered ref.id m ∧ m.Serves ref

/-- Of the modules on offer, the last one with an id is found under it. -/
theorem get?_offered_iff {offered : List RuleModule} {id : String} {m : RuleModule} :
    Registry.get? (offered.foldl Registry.register []) id = some m ↔ OfferedLast offered id m := by
  have hfind (ms : Registry) : Registry.get? (offered.foldl Registry.register ms) id =
      (offered.reverse.find? (·.id == id)).or (ms.get? id) := by
    induction offered generalizing ms with
    | nil => rfl
    | cons n offered ih =>
        rw [List.foldl_cons, ih, Registry.get?_register, List.reverse_cons, List.find?_append,
          Option.or_assoc]
        by_cases hn : n.id = id
        · simp [hn]
        · simp [hn]
  have hempty : Registry.get? [] id = none := rfl
  rw [hfind, hempty, Option.or_none, List.find?_eq_some_iff_append]
  constructor
  · rintro ⟨hid, behind, before, hoffered, hbehind⟩
    refine ⟨before.reverse, behind.reverse, ?_, by simpa using hid, fun n hn => ?_⟩
    · rw [← List.reverse_reverse offered, hoffered]
      simp
    · simpa using hbehind n (List.mem_reverse.1 hn)
  · rintro ⟨before, after, rfl, hid, hafter⟩
    refine ⟨by simpa using hid, after.reverse, before.reverse, by simp, fun n hn => ?_⟩
    simpa using hafter n (List.mem_reverse.1 hn)

/-! ### References that are followed -/

section Following

variable {base : Registry} {refs : List ModuleRef} {ref : ModuleRef} {r : Enrolment}

/-- **How far some references have been followed**, from the modules on offer.  The modules that are in
use are told where nothing was found wrong. -/
structure Enrolment.After (base : Registry) (refs : List ModuleRef) (r : Enrolment) : Prop where
  current : ∀ id, Option.Rel RuleModule.Becomes (base.get? id) (r.offered.get? id)
  grave : ∀ i ∈ r.issues, i.isError = true
  faultless : r.issues = [] ↔ ∀ ref ∈ refs, ∃ n, base.get? ref.id = some n ∧ n.Serves ref
  ids : r.issues = [] → r.enrolled.map (·.id) = (refs.map (·.id)).eraseDups
  nodup : (r.enrolled.map (·.id)).Nodup
  modules : ∀ m ∈ r.enrolled, ∃ n, base.get? m.id = some n ∧ n.Becomes m

/-- No reference has been followed. -/
theorem Enrolment.After.start (base : Registry) : (⟨base, [], []⟩ : Enrolment).After base [] where
  current id := by
    dsimp only
    cases base.get? id with
    | none => exact .none
    | some n => exact .some (RuleModule.Becomes.refl n)
  grave := nofun
  faultless := by simp
  ids _ := rfl
  nodup := .nil
  modules := nofun

/-- **The module for a reference** is the one on offer, as it has become, if that serves the reference;
or else there is an error. -/
theorem moduleFor_cases {current : Registry} (index : Nat)
    (hcurrent : Option.Rel RuleModule.Becomes (base.get? ref.id) (current.get? ref.id))
    (hjudges : ∀ n, base.get? ref.id = some n → n.JudgesByConfig) :
    (∃ n m, base.get? ref.id = some n ∧ n.Serves ref ∧ n.Becomes m ∧
      moduleFor current index ref = .ok m) ∨
    (¬ ∃ n, base.get? ref.id = some n ∧ n.Serves ref) ∧
      ∃ i, moduleFor current index ref = .error i ∧ i.isError = true := by
  unfold moduleFor
  generalize base.get? ref.id = n? at hcurrent hjudges ⊢
  generalize current.get? ref.id = m? at hcurrent ⊢
  cases hcurrent with
  | none => exact .inr ⟨by simp, _, rfl, rfl⟩
  | @some n m hbecomes =>
      dsimp only
      rw [hbecomes.supports_eq]
      by_cases hsystem : n.supports ref.system = true
      · rw [if_pos hsystem]
        cases hconfig : ref.config with
        | none =>
            have hserves : n.Serves ref := ⟨hsystem, fun config hc => by
              rw [hconfig] at hc; cases hc⟩
            exact .inl ⟨n, m, rfl, hserves, hbecomes, rfl⟩
        | some config =>
            have htakes : (∃ m', m.configured config = .ok m') ↔ n.Takes config :=
              hbecomes.takes_iff (hjudges n rfl)
            dsimp only
            cases hc : m.configured config with
            | ok m' =>
                have hserves : n.Serves ref := ⟨hsystem, fun config' hc' => by
                  cases hconfig.symm.trans hc'
                  exact htakes.1 ⟨m', hc⟩⟩
                exact .inl ⟨n, m', rfl, hserves, hbecomes.configured hc, rfl⟩
            | error rejection =>
                refine .inr ⟨?_, _, rfl, rfl⟩
                rintro ⟨_, ⟨⟩, hserves⟩
                obtain ⟨m', hm'⟩ := htakes.2 (hserves.config config hconfig)
                rw [hc] at hm'
                cases hm'
      · rw [if_neg hsystem]
        refine .inr ⟨?_, _, rfl, rfl⟩
        rintro ⟨_, ⟨⟩, hserves⟩
        exact hsystem hserves.system

/-- An id that comes again adds nothing, and a new one comes last. -/
theorem eraseDups_concat (ids : List String) (id : String) : (ids ++ [id]).eraseDups =
    if id ∈ ids.eraseDups then ids.eraseDups else ids.eraseDups ++ [id] := by
  rw [List.eraseDups_append]
  by_cases hid : id ∈ ids
  · rw [if_pos (List.mem_eraseDups.2 hid)]
    simp [List.removeAll, hid]
  · have hone : [id].eraseDups = [id] := rfl
    rw [if_neg fun h => hid (List.mem_eraseDups.1 h)]
    simp [List.removeAll, hid, hone]

/-- **One reference is followed.** -/
theorem Enrolment.After.follow (h : r.After base refs)
    (hjudges : ∀ id n, base.get? id = some n → n.JudgesByConfig) (ref : ModuleRef) (index : Nat) :
    (r.follow (ref, index)).After base (refs ++ [ref]) := by
  unfold Enrolment.follow
  dsimp only
  rcases moduleFor_cases index (h.current ref.id) (hjudges ref.id) with
    ⟨n, m, hn, hserves, hbecomes, hm⟩ | ⟨hmissed, i, hi, herror⟩
  · have hid : m.id = ref.id := by
      rw [hbecomes.id_eq]
      simpa using List.find?_some hn
    rw [hm]
    constructor
    · intro id
      rw [Registry.get?_register]
      by_cases hsame : m.id = id
      · rw [if_pos hsame, ← hsame, hid, hn]
        exact .some hbecomes
      · rw [if_neg hsame]
        exact h.current id
    · exact h.grave
    · rw [h.faultless, List.forall_mem_append]
      simp only [List.mem_singleton, forall_eq]
      exact ⟨fun hall => ⟨hall, n, hn, hserves⟩, And.left⟩
    · intro hnone
      rw [Registry.ids_register, h.ids hnone, List.map_append, List.map_singleton, hid,
        eraseDups_concat]
    · rw [Registry.ids_register]
      split
      · exact h.nodup
      · next hnew => exact List.nodup_append.2 ⟨h.nodup, by simp, by simpa using hnew⟩
    · intro m' hm'
      rcases Registry.mem_of_mem_register hm' with rfl | hm'
      · exact ⟨n, by rw [hid, hn], hbecomes⟩
      · exact h.modules m' hm'
  · rw [hi]
    constructor
    · exact h.current
    · intro j hj
      rcases List.mem_append.1 hj with hj | hj
      · exact h.grave j hj
      · rw [List.mem_singleton.1 hj]
        exact herror
    · constructor
      · intro hnone
        exact absurd hnone (by simp)
      · intro hall
        exact absurd (hall ref (by simp)) hmissed
    · intro hnone
      exact absurd hnone (by simp)
    · exact h.nodup
    · exact h.modules

/-- **All references of a story are followed.** -/
theorem after_enrolAll {offered : List RuleModule} (hjudges : ∀ m ∈ offered, m.JudgesByConfig)
    (refs : List ModuleRef) :
    (enrolAll offered refs).After (offered.foldl Registry.register []) refs := by
  have hbase : ∀ id n, Registry.get? (offered.foldl Registry.register []) id = some n →
      n.JudgesByConfig := by
    intro id n hn
    obtain ⟨before, after, rfl, -⟩ := get?_offered_iff.1 hn
    exact hjudges n (by simp)
  unfold enrolAll
  generalize offered.foldl Registry.register [] = base at *
  induction refs using List.reverseRecOn with
  | nil => exact .start base
  | append_singleton refs ref ih =>
      rw [List.zipIdx_append, List.foldl_append]
      exact ih.follow hbase ref _

end Following

/-! ### Who answers at a hook -/

namespace Registry

/-- **Modules in a row have nothing to say at a hook**, each being asked with the generator that those
before it have left. -/
inductive Silent (context : HookContext) :
    Registry → Option Generator → Option Generator → Prop
  | nil {g : Option Generator} : Silent context [] g g
  | cons {m : RuleModule} {ms : Registry} {g g₁ g₂ : Option Generator} {answer : Option RuleResult}
      (hasked : m.ask context g = (.ok answer, g₁))
      (hsilent : ∀ r, answer = some r → r.isHandled = false) (hrest : Silent context ms g₁ g₂) :
      Silent context (m :: ms) g g₂

/-- An answer for which no further module is asked: a result that has something to say, or a fault. -/
def IsFinal : Except Fault (Option RuleResult) → Prop
  | .ok (some r) => r.isHandled = true
  | .ok none => False
  | .error _ => True

/-- A hook that names no module; the empty id names none. -/
def IsOpen (context : HookContext) : Prop :=
  ∀ id, context.hook.bind Hook.moduleId = some id → id = ""

/-- **What modules in a row answer at a hook**, and the generator after it. -/
inductive Answers (ms : Registry) (context : HookContext) (g : Option Generator) :
    Except Fault (Option RuleResult) × Option Generator → Prop
  | named {id : String} {m : RuleModule} (hid : context.hook.bind Hook.moduleId = some id)
      (hset : id ≠ "") (hm : m ∈ ms) (hmid : m.id = id) : Answers ms context g (m.ask context g)
  | absent {id : String} (hid : context.hook.bind Hook.moduleId = some id) (hset : id ≠ "")
      (hnone : ∀ m ∈ ms, m.id ≠ id) : Answers ms context g (.ok none, g)
  | first {before after : Registry} {m : RuleModule} {g₁ : Option Generator}
      (hopen : IsOpen context) (hms : ms = before ++ m :: after)
      (hbefore : Silent context before g g₁) (hfinal : IsFinal (m.ask context g₁).1)
      -- the modules behind it are not asked: they might be any others
      (hbehind : ∀ others : Registry,
        (before ++ m :: others).resolve context g = m.ask context g₁) :
      Answers ms context g (m.ask context g₁)
  | silent {g₁ : Option Generator} (hopen : IsOpen context) (hall : Silent context ms g g₁) :
      Answers ms context g (.ok none, g₁)

section Asking

variable {context : HookContext} {ms before : Registry} {m : RuleModule} {g g₁ : Option Generator}

theorem firstHandled_of_silent (h : Silent context before g g₁) (ms : Registry) :
    firstHandled context (before ++ ms) g = firstHandled context ms g₁ := by
  induction h with
  | nil => rfl
  | @cons m before g g₁ g₂ answer hasked hsilent _ ih =>
      rw [List.cons_append, firstHandled, hasked]
      cases answer with
      | none => exact ih
      | some r =>
          dsimp only
          rw [hsilent r rfl]
          exact ih

theorem firstHandled_of_final (h : IsFinal (m.ask context g).1) (ms : Registry) :
    firstHandled context (m :: ms) g = m.ask context g := by
  rw [firstHandled]
  rcases hasked : m.ask context g with ⟨f | answer, g'⟩
  · rfl
  · rw [hasked] at h
    cases answer with
    | none => exact absurd h id
    | some r =>
        exact if_pos h

/-- Modules in a row are silent, or there is a first one that is not. -/
theorem silent_or_first (context : HookContext) (ms : Registry) (g : Option Generator) :
    (∃ g₁, Silent context ms g g₁) ∨ ∃ before m after g₁, ms = before ++ m :: after ∧
      Silent context before g g₁ ∧ IsFinal (m.ask context g₁).1 := by
  induction ms generalizing g with
  | nil => exact .inl ⟨g, .nil⟩
  | cons m ms ih =>
      rcases hasked : m.ask context g with ⟨f | answer, g'⟩
      · exact .inr ⟨[], m, ms, g, rfl, .nil, by rw [hasked]; trivial⟩
      · by_cases hfinal : IsFinal (.ok answer)
        · exact .inr ⟨[], m, ms, g, rfl, .nil, by rw [hasked]; exact hfinal⟩
        · have hsilent : ∀ r, answer = some r → r.isHandled = false := by
            rintro r rfl
            exact Bool.eq_false_iff.2 hfinal
          rcases ih g' with ⟨g₁, hall⟩ | ⟨before, n, after, g₁, rfl, hbefore, hn⟩
          · exact .inl ⟨g₁, .cons hasked hsilent hall⟩
          · exact .inr ⟨m :: before, n, after, g₁, rfl, .cons hasked hsilent hbefore, hn⟩

theorem resolve_of_isOpen (h : IsOpen context) (ms : Registry) (g : Option Generator) :
    ms.resolve context g = firstHandled context ms g := by
  unfold resolve
  split
  · next id hid => rw [if_pos (h id hid)]
  · rfl

/-- **Who answers at a hook.** -/
theorem answers_resolve (ms : Registry) (context : HookContext) (g : Option Generator) :
    ms.Answers context g (ms.resolve context g) := by
  by_cases hopen : IsOpen context
  · rw [resolve_of_isOpen hopen]
    rcases silent_or_first context ms g with
      ⟨g₁, hall⟩ | ⟨before, m, after, g₁, rfl, hbefore, hfinal⟩
    · have hend := firstHandled_of_silent hall []
      rw [List.append_nil] at hend
      rw [hend]
      exact .silent hopen hall
    · have hanswer (others : Registry) :
          firstHandled context (before ++ m :: others) g = m.ask context g₁ := by
        rw [firstHandled_of_silent hbefore, firstHandled_of_final hfinal]
      rw [hanswer]
      refine .first hopen rfl hbefore hfinal fun others => ?_
      rw [resolve_of_isOpen hopen, hanswer]
  · obtain ⟨id, hid, hset⟩ : ∃ id, context.hook.bind Hook.moduleId = some id ∧ id ≠ "" := by
      simpa [IsOpen] using hopen
    unfold resolve
    rw [hid]
    dsimp only
    rw [if_neg hset]
    cases hfound : ms.get? id with
    | some m =>
        exact .named hid hset (List.mem_of_find?_eq_some hfound)
          (by simpa using List.find?_some hfound)
    | none =>
        refine .absent hid hset fun m hm hmid => ?_
        exact List.find?_eq_none.1 hfound m hm (by simpa using hmid)

end Asking

end Registry

/-! ### Building an engine -/

/-- An engine is built exactly if the check finds no errors and nothing is wrong with a reference. -/
theorem Engine.isSome_build_iff {s : Setup} : (build s).engine.isSome = true ↔
    Issue.hasError (s.story.check s.lore) = false ∧
      Issue.hasError (enrolAll s.modules s.story.ruleModules).issues = false := by
  unfold build
  dsimp only
  rw [hasError_append, ← Bool.or_eq_false_iff]
  split
  · next h => simp [h]
  · next h => simpa using h

/-- Without an engine there is an error. -/
theorem Engine.hasError_of_build_eq_none {s : Setup} (h : (build s).engine = none) :
    Issue.hasError (build s).issues = true := by
  unfold build at h ⊢
  dsimp only at h ⊢
  split
  · next herror => exact herror
  · next hnone =>
    rw [if_neg hnone] at h
    cases h

/-- Where all issues are errors, there are no errors exactly if there are no issues. -/
theorem hasError_eq_false_iff_of_grave {issues : List Issue} (h : ∀ i ∈ issues, i.isError = true) :
    Issue.hasError issues = false ↔ issues = [] := by
  rw [hasError_eq_false_iff, List.eq_nil_iff_forall_not_mem]
  refine forall₂_congr fun i hi => ?_
  simp [h i hi]

/-- **When an engine is built, and with which modules.**  It needs a story without errors, and for each
reference of the story the last module on offer with that id, which serves it.  Then there is one module
for each id, in the order in which the story first refers to them, and a hook is answered by the first
module in this order that has something to say or fails, or by the module that it names.  Where no
engine is built there is an error. -/
theorem Engine.build_enrols_references (s : Setup)
    (hjudges : ∀ m ∈ s.modules, m.JudgesByConfig) :
    ((build s).engine.isSome = true ↔ Issue.hasError (s.story.check s.lore) = false ∧
      ∀ ref ∈ s.story.ruleModules, ref.ServedBy s.modules) ∧
    (∀ e, (build s).engine = some e →
      e.modules.map (·.id) = (s.story.ruleModules.map (·.id)).eraseDups ∧
      (e.modules.map (·.id)).Nodup ∧
      (∀ m ∈ e.modules, ∃ n, OfferedLast s.modules m.id n ∧ n.Becomes m) ∧
      ∀ context g, e.modules.Answers context g (e.modules.resolve context g)) ∧
    ((build s).engine = none → Issue.hasError (build s).issues = true) := by
  have hafter := after_enrolAll hjudges s.story.ruleModules
  have hfaultless := hasError_eq_false_iff_of_grave hafter.grave
  refine ⟨?_, fun e he => ?_, hasError_of_build_eq_none⟩
  · rw [isSome_build_iff, hfaultless, hafter.faultless]
    simp only [get?_offered_iff]
    rfl
  · have hbuilt := isSome_build_iff.1 (Option.isSome_iff_exists.2 ⟨e, he⟩)
    obtain ⟨-, rfl⟩ := of_build he
    refine ⟨hafter.ids (hfaultless.1 hbuilt.2), hafter.nodup, fun m hm => ?_, fun context g => ?_⟩
    · obtain ⟨n, hn, hbecomes⟩ := hafter.modules m hm
      exact ⟨n, get?_offered_iff.1 hn, hbecomes⟩
    · exact Registry.answers_resolve _ context g

/-! ### The Lantern Road with a module that fails -/

namespace LanternRoad

/-- A script that stumbles at the hook of the sample narrative: a number is no list of effects. -/
def stumbling : Rules.Script where
  id := "rules.core"
  system := "Custom"
  compatible := []
  answers := []
  hooks := [("sampleNarrative", .obj [("effects", .int 5)])]
  reject := .null

/-- The Lantern Road with a module that stumbles before the others are asked.  The core module is on
offer, but does not count, because the script has its id. -/
def motley : Setup :=
  { setup "scene.road" with modules := [Rules.core, Rules.dice (.str Rules.defaultDice),
      Rules.sample, stumbling.toModule] }

theorem motley_judges : ∀ m ∈ motley.modules, m.JudgesByConfig := by
  simp only [motley, List.forall_mem_cons]
  exact ⟨Rules.judgesByConfig_core, Rules.judgesByConfig_dice _, Rules.judgesByConfig_sample,
    stumbling.judgesByConfig_toModule, nofun⟩

theorem motley_built : (Engine.build motley).engine.isSome = true := by decide +kernel

/-- The engine with the module that stumbles. -/
def motleyEngine : Engine := (Engine.build motley).engine.get motley_built

theorem motleyEngine_eq : (Engine.build motley).engine = some motleyEngine :=
  (Option.some_get motley_built).symm

theorem motleyEngine_ids :
    motleyEngine.modules.map (·.id) = ["rules.core", "rules.sample", "rules.dice"] := by
  decide +kernel

/-- What the modules see at a hook of a bare scene in a new game. -/
def sees (hook : Hook) : HookContext where
  state := (motleyEngine.newGame traveller alone).1
  scene := ⟨"scene.gate", .plain "The gate.", [], none, [], [], [], [], none, .null⟩
  action := none
  hook := some hook

/-- The hook of the sample effect, for the module with the empty id. -/
def nobody : HookContext := sees ⟨some "", "sampleEffect", none⟩

/-- The hook of the sample narrative, for no module. -/
def anybody : HookContext := sees ⟨none, "sampleNarrative", none⟩

/-- The hook for the empty id is answered. -/
theorem nobody_answered :
    ((motleyEngine.modules.resolve nobody none).1.toOption.bind id).isSome = true := by
  decide +kernel

/-- The hook for no module fails, though there is a module that would handle it. -/
theorem anybody_fails : (motleyEngine.modules.resolve anybody none).1.toOption.isNone = true := by
  decide +kernel

theorem anybody_handled : (motleyEngine.modules.any fun m =>
    ((m.ask anybody none).1.toOption.bind id).any RuleResult.isHandled) = true := by
  decide +kernel

/-- **The empty id is the id of no module, and yet a hook with it is answered.  A module that stumbles
is the last one to be asked.** -/
theorem motley_answers_otherwise :
    (∀ m ∈ motley.modules, m.JudgesByConfig) ∧ (Engine.build motley).engine = some motleyEngine ∧
      (¬ ∀ context g id, context.hook.bind Hook.moduleId = some id →
        (∃ m ∈ motleyEngine.modules, m.id = id ∧
          motleyEngine.modules.resolve context g = m.ask context g) ∨
        (motleyEngine.modules.resolve context g).1 = .ok none) ∧
      ¬ ∀ context g, context.hook.bind Hook.moduleId = none →
        (∃ m ∈ motleyEngine.modules, ∃ r, (m.ask context g).1 = .ok (some r) ∧
          r.isHandled = true) →
        ∃ r, (motleyEngine.modules.resolve context g).1 = .ok (some r) ∧ r.isHandled = true := by
  refine ⟨motley_judges, motleyEngine_eq, fun h => ?_, fun h => ?_⟩
  · have hanswered := nobody_answered
    rcases h nobody none "" rfl with ⟨m, hm, hid, -⟩ | hnothing
    · have hmem : "" ∈ motleyEngine.modules.map (·.id) := List.mem_map.2 ⟨m, hm, hid⟩
      rw [motleyEngine_ids] at hmem
      exact absurd hmem (by decide)
    · rw [hnothing] at hanswered
      cases hanswered
  · obtain ⟨m, hm, hhandled⟩ := List.any_eq_true.1 anybody_handled
    have hcould : ∃ r, (m.ask anybody none).1 = .ok (some r) ∧ r.isHandled = true := by
      cases hasked : (m.ask anybody none).1 with
      | error f => rw [hasked] at hhandled; cases hhandled
      | ok answer =>
          rw [hasked] at hhandled
          cases answer with
          | none => cases hhandled
          | some r => exact ⟨r, rfl, hhandled⟩
    obtain ⟨r, hr, -⟩ := h anybody none rfl ⟨m, hm, hcould⟩
    have hfails := anybody_fails
    rw [hr] at hfails
    cases hfails

/-- The engine with the module that stumbles is built as references demand. -/
theorem build_enrols_references_motley : (∀ m ∈ motley.modules, m.JudgesByConfig) ∧
    (∀ ref ∈ motley.story.ruleModules, ref.ServedBy motley.modules) ∧
    motleyEngine.modules.Answers anybody none (motleyEngine.modules.resolve anybody none) := by
  obtain ⟨hbuilt, hmodules, -⟩ := Engine.build_enrols_references motley motley_judges
  exact ⟨motley_judges, (hbuilt.1 motley_built).2, (hmodules _ motleyEngine_eq).2.2.2 anybody none⟩

end LanternRoad

end Storyworld
