/-
**What is told of a narrative, and how many random numbers that takes.**

A plain narrative is told as it is.  A narrative in several languages is told in the language of the
engine, or else in the first one; an engine whose language is the empty text has none.  Neither asks
or draws anything.

Of the variants of a narrative the conditions are asked one after the other, each in the play that
those before it have left, because asking may add to the logs.  If none holds, the first variant is
told, and nothing is drawn.  If some do, exactly one number is drawn, and the text is that of a
variant whose condition held.  It is so whatever the weights are: the walk along them falls back to
the variant that it has passed last, so that it ends on one of them even if they add up to nothing,
or to no number.

Main definitions:

* `Storyworld.Engine.Sifts` — **conditions that are asked one after the other**;
* `Storyworld.Engine.Translates` — what is told of a narrative in several languages;
* `Storyworld.Engine.Tells` — **what is told of a narrative**, and whether a number is drawn.

Main results:

* `Storyworld.Engine.on_available_iff` — what is available has been sifted out;
* `Storyworld.mem_of_pickVariant` — the walk along the weights ends on a variant;
* `Storyworld.Engine.telling_draws_once` — **the text of a narrative and its cost**.
-/

import Storyworld.Proofs.Looking

set_option relaxedAutoImplicit false
set_option autoImplicit false

namespace Storyworld

namespace Engine

/-! ### What is told -/

/-- **A row is sifted**: the conditions are asked in order, each in the play that those before it have
left, and what stays is that for which they hold. -/
inductive Sifts {α : Type} (e : Engine) (condition : α → Option Condition) :
    List α → Play → List α → Play → Prop
  | nil {p : Play} : Sifts e condition [] p [] p
  | kept {a : α} {as bs : List α} {p p₁ q : Play}
      (hasked : (e.meets (condition a)).on p = (.ok true, p₁))
      (hrest : Sifts e condition as p₁ bs q) : Sifts e condition (a :: as) p (a :: bs) q
  | dropped {a : α} {as bs : List α} {p p₁ q : Play}
      (hasked : (e.meets (condition a)).on p = (.ok false, p₁))
      (hrest : Sifts e condition as p₁ bs q) : Sifts e condition (a :: as) p bs q

/-- **What is told of a narrative in several languages**: the first translation into the language of
the engine, or else the first one of all. -/
inductive Translates (e : Engine) : List Translation → String → Prop
  | spoken {locale : String} {before behind : List Translation} {t : Translation}
      (hlocale : e.locale = some locale) (hset : locale ≠ "") (ht : t.locale = locale)
      (hbefore : ∀ u ∈ before, u.locale ≠ locale) : Translates e (before ++ t :: behind) t.text
  | foreign {t : Translation} {rest : List Translation}
      (hnone : ∀ locale, e.locale = some locale → locale ≠ "" →
        ∀ u ∈ t :: rest, u.locale ≠ locale) : Translates e (t :: rest) t.text
  | nothing : Translates e [] ""

/-- **What is told of a narrative**, whether a number is drawn for it, and the play once its
conditions have been asked. -/
inductive Tells (e : Engine) (p : Play) : Narrative → String → Bool → Play → Prop
  | plain {text : String} : Tells e p (.plain text) text false p
  | localized {translations : List Translation} {text : String}
      (h : e.Translates translations text) : Tells e p (.localized translations) text false p
  | empty : Tells e p (.variants []) "" false p
  | closed {v : Variant} {vs : List Variant} {q : Play}
      (hsifted : e.Sifts Variant.condition (v :: vs) p [] q) :
      Tells e p (.variants (v :: vs)) v.text false q
  | drawn {v : Variant} {vs candidates : List Variant} {q : Play}
      (hsifted : e.Sifts Variant.condition vs p candidates q) (hv : v ∈ candidates) :
      Tells e p (.variants vs) v.text true q

/-! ### Conditions that are asked -/

section Asking

variable {e : Engine} {α : Type} {condition : α → Option Condition} {as bs : List α} {p q : Play}

/-- **What is available has been sifted out.** -/
theorem on_available_iff :
    (e.available condition as).on p = (.ok bs, q) ↔ e.Sifts condition as p bs q := by
  constructor
  · intro h
    induction as generalizing p bs with
    | nil =>
        cases h
        exact .nil
    | cons a as ih =>
        obtain ⟨isOpen, p₁, hasked, h⟩ := Turn.on_bind_eq_ok.1 h
        obtain ⟨others, p₂, hothers, h⟩ := Turn.on_bind_eq_ok.1 h
        cases h
        cases isOpen with
        | true => exact .kept hasked (ih hothers)
        | false => exact .dropped hasked (ih hothers)
  · intro h
    induction h with
    | nil => rfl
    | kept hasked _ ih =>
        exact Turn.on_bind_eq_ok.2 ⟨_, _, hasked, Turn.on_bind_eq_ok.2 ⟨_, _, ih, rfl⟩⟩
    | dropped hasked _ ih =>
        exact Turn.on_bind_eq_ok.2 ⟨_, _, hasked, Turn.on_bind_eq_ok.2 ⟨_, _, ih, rfl⟩⟩

theorem rng_meets (e : Engine) (c : Option Condition) (p : Play) :
    ((e.meets c).on p).2.rng = p.rng := by
  cases c with
  | none => rfl
  | some c => exact e.rng_holds c p

/-- Nothing is drawn while conditions are asked. -/
theorem Sifts.rng (h : e.Sifts condition as p bs q) : q.rng = p.rng := by
  have hstep {c : Option Condition} {p p₁ : Play} {isOpen : Bool}
      (hasked : (e.meets c).on p = (.ok isOpen, p₁)) : p₁.rng = p.rng := by
    have := e.rng_meets c p
    rwa [hasked] at this
  induction h with
  | nil => rfl
  | kept hasked _ ih => exact ih.trans (hstep hasked)
  | dropped hasked _ ih => exact ih.trans (hstep hasked)

end Asking

/-! ### Languages -/

theorem translates_translation (e : Engine) (translations : List Translation) :
    e.Translates translations (e.translation translations) := by
  unfold translation
  dsimp only
  cases hfound : (e.locale.filter (· != "")).bind fun locale =>
      translations.find? (·.locale == locale) with
  | some t =>
      obtain ⟨locale, hlocale, hfind⟩ := Option.bind_eq_some_iff.1 hfound
      obtain ⟨hlocale, hset⟩ := Option.filter_eq_some_iff.1 hlocale
      obtain ⟨ht, before, behind, rfl, hbefore⟩ := List.find?_eq_some_iff_append.1 hfind
      refine .spoken hlocale (by simpa using hset) (by simpa using ht) fun u hu => ?_
      simpa using hbefore u hu
  | none =>
      cases translations with
      | nil => exact .nothing
      | cons t rest =>
          refine .foreign fun locale hlocale hset u hu hspoken => ?_
          have hwanted : e.locale.filter (· != "") = some locale := by simp [hlocale, hset]
          rw [hwanted, Option.bind_some] at hfound
          exact absurd (beq_iff_eq.2 hspoken) (List.find?_eq_none.1 hfound u hu)

end Engine

/-! ### Draws -/

/-- **The walk along the weights ends on a variant**, whatever they are, and falls back to a text only
if there is no variant. -/
theorem mem_of_pickVariant {point : Double} {fallback text : String} {vs : List Variant}
    (h : pickVariant point fallback vs = .ok text) :
    (vs = [] ∧ text = fallback) ∨ ∃ v ∈ vs, text = v.text := by
  induction vs generalizing point fallback with
  | nil =>
      cases h
      exact .inl ⟨rfl, rfl⟩
  | cons v rest ih =>
      right
      unfold pickVariant at h
      split at h
      · cases h
      · split at h
        · cases h
          exact ⟨v, List.mem_cons_self, rfl⟩
        · rcases ih h with ⟨-, htext⟩ | ⟨u, hu, htext⟩
          · exact ⟨v, List.mem_cons_self, htext⟩
          · exact ⟨u, List.mem_cons_of_mem v hu, htext⟩

theorem on_drawVariant {candidates : List Variant} {text : String} {p q : Play}
    (hne : candidates ≠ []) (h : (drawVariant candidates).on p = (.ok text, q)) :
    (∃ v ∈ candidates, text = v.text) ∧ q = { p with rng := p.rng.next.2 } := by
  obtain ⟨x, p₁, hdraw, h⟩ := Turn.on_bind_eq_ok.1 h
  cases hdraw
  split at h
  · cases h
  · rw [Turn.on_ofExcept] at h
    obtain ⟨hpicked, rfl⟩ := Prod.mk.inj h
    rcases mem_of_pickVariant hpicked with ⟨hnil, -⟩ | hmem
    · exact absurd hnil hne
    · exact ⟨hmem, rfl⟩

/-! ### Whole narratives -/

namespace Engine

variable {e : Engine} {n : Narrative} {text : String} {p q : Play}

/-- **The text of a narrative and its cost.**  The generator moves on by exactly one number if some
variant may be told, and not at all otherwise; nothing else changes once the conditions have been
asked. -/
theorem telling_draws_once (h : (e.tell n).on p = (.ok text, q)) :
    ∃ drawn q₁, e.Tells p n text drawn q₁ ∧ q₁.rng = p.rng ∧
      q = if drawn then { q₁ with rng := p.rng.next.2 } else q₁ := by
  cases n with
  | plain text' =>
      cases h
      exact ⟨false, p, .plain, rfl, rfl⟩
  | localized translations =>
      cases h
      exact ⟨false, p, .localized (e.translates_translation translations), rfl, rfl⟩
  | variants vs =>
      obtain ⟨candidates, q₁, hcandidates, h⟩ := Turn.on_bind_eq_ok.1 h
      have hsifted := on_available_iff.1 hcandidates
      split at h
      · cases h
        cases vs with
        | nil =>
            cases hsifted
            exact ⟨false, p, .empty, rfl, rfl⟩
        | cons v vs => exact ⟨false, q, .closed hsifted, hsifted.rng, rfl⟩
      · next hne =>
        obtain ⟨⟨v, hv, rfl⟩, rfl⟩ := on_drawVariant hne h
        exact ⟨true, q₁, .drawn hsifted hv, hsifted.rng, by rw [hsifted.rng]; rfl⟩

/-- Of two tales of the weather on the Lantern Road one is told in summer only, and the other one
weighs nothing. -/
theorem telling_draws_once_lanternRoad :
    let e := LanternRoad.engine
    let p := e.beginning LanternRoad.traveller LanternRoad.alone
    let n : Narrative := .variants [⟨"Sunshine.", some (.int 100), some (.flag "summer" none none)⟩,
      ⟨"Rain.", some (.float .negativeZero), none⟩]
    let q := ((e.tell n).on p).2
    (e.tell n).on p = (.ok "Rain.", q) ∧
      ∃ drawn q₁, e.Tells p n "Rain." drawn q₁ ∧ q₁.rng = p.rng ∧
        q = if drawn then { q₁ with rng := p.rng.next.2 } else q₁ := by
  intro e p n q
  have htext : ((e.tell n).on p).1.toOption = some "Rain." := by decide +kernel
  have hresult : ((e.tell n).on p).1 = .ok "Rain." := by
    rw [eq_ok_of_isSome (Option.isSome_of_eq_some htext), Option.get_of_eq_some _ htext]
  have h : (e.tell n).on p = (.ok "Rain.", q) := Prod.ext hresult rfl
  exact ⟨h, telling_draws_once h⟩

end Engine

/-! ### An engine without a language -/

namespace Nameless

/-- The Lantern Road, told in a language without a name. -/
def setup : Setup := { LanternRoad.setup "scene.road" with locale := some "" }

theorem built : (Engine.build setup).engine.isSome = true := LanternRoad.built

def engine : Engine := (Engine.build setup).engine.get built

/-- The first translation is told, although there is one into the language of the engine. -/
theorem tells_first_translation :
    let p := engine.beginning LanternRoad.traveller LanternRoad.alone
    let english : Translation := ⟨"en", "A road."⟩
    let nameless : Translation := ⟨"", "Ein Weg."⟩
    engine.locale = some "" ∧
      [english, nameless].find? (·.locale == "") = some nameless ∧
      (engine.tell (.localized [english, nameless])).on p = (.ok english.text, p) ∧
      english.text ≠ nameless.text :=
  ⟨rfl, rfl, rfl, by decide⟩

end Nameless

end Storyworld
