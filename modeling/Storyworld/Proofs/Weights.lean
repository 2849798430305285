/-
**The walk along the weights.**

The variants that may be told lie one behind the other on a line, each as long as its weight, and a
draw is a point of that line.  The program walks along the line: it takes the weights from the point
one after the other, and stops at the variant that leaves nothing of it.  Where the weights are
natural numbers that do not add up to more than `2 ^ 21`, every step of the walk is exact, so that it
stops at the first variant whose end lies at the point or beyond it.  A variant of no weight has its
end where the one before it has, and is passed by, but for those at the beginning, of which the first
one is told by the draw zero.

The walk never comes to its end without a stop, because the last end is the end of the line.

Main definitions:

* `Storyworld.stop?`, `Storyworld.chosen?` — where a walk stops, and the variant that a draw chooses;
* `Storyworld.Variant.Weighs` — the weight of a variant is a natural number;
* `Storyworld.reach`, `Storyworld.Covers` — **the ends on the line, and the first one that a point does
  not lie beyond**.

Main results:

* `Storyworld.exists_covers` — every point of the line is covered;
* `Storyworld.stop?_of_covers` — **the walk stops there**;
* `Storyworld.chosen?_eq_some_iff` — what a draw chooses;
* `Storyworld.Engine.telling_stops_at_first_reach` — what is told of a narrative.
-/

import Storyworld.Proofs.Draws
import Storyworld.Proofs.Narratives

set_option relaxedAutoImplicit false
set_option autoImplicit false

namespace Storyworld

open Generator (modulus)

/-! ### Where walks stop -/

/-- **Where a walk along the weights stops**, if it stops before they end. -/
def stop? (point : Double) : List Variant → Option Nat
  | [] => none
  | v :: rest =>
    match v.share.toDouble? with
    | none => none
    | some w =>
      if (point.sub w).le (.finite 0) then some 0 else (stop? (point.sub w) rest).map (· + 1)

/-- **The variant that a draw chooses**, if the walk to its point stops. -/
def chosen? (draw : Double) (candidates : List Variant) : Option Nat :=
  ((totalShare candidates (.int 0)).bind Number.toDouble?).bind fun total =>
    stop? (draw.mul total) candidates

/-- A walk that stops tells the variant at which it stops, and does not fall back to any other. -/
theorem pickVariant_of_stop? {point : Double} (fallback : String) {vs : List Variant} {i : Nat}
    (h : stop? point vs = some i) :
    ∃ hi : i < vs.length, pickVariant point fallback vs = .ok vs[i].text := by
  induction vs generalizing point fallback i with
  | nil => cases h
  | cons v rest ih =>
      unfold stop? at h
      unfold pickVariant
      cases hw : v.share.toDouble? with
      | none => rw [hw] at h; cases h
      | some w =>
          rw [hw] at h
          dsimp only at h ⊢
          split at h
          · next hstop =>
            cases h
            exact ⟨Nat.succ_pos _, if_pos hstop⟩
          · next hpass =>
            obtain ⟨j, hj, rfl⟩ := Option.map_eq_some_iff.1 h
            obtain ⟨hlt, htext⟩ := ih v.text hj
            exact ⟨Nat.succ_lt_succ hlt, (if_neg hpass).trans htext⟩

theorem on_drawVariant_of_chosen? {candidates : List Variant} {i : Nat} {p : Play}
    (h : chosen? p.rng.next.1 candidates = some i) :
    ∃ hi : i < candidates.length, (drawVariant candidates).on p =
      (.ok candidates[i].text, { p with rng := p.rng.next.2 }) := by
  obtain ⟨total, htotal, hstop⟩ := Option.bind_eq_some_iff.1 h
  obtain ⟨hi, htext⟩ := pickVariant_of_stop? "" hstop
  refine ⟨hi, ?_⟩
  unfold drawVariant
  rw [Turn.on_bind_ok (Turn.on_draw p), htotal]
  dsimp only
  rw [htext, Turn.on_ofExcept]

/-! ### The line of weights -/

/-- **The weight of a variant is a natural number.** -/
def Variant.Weighs (v : Variant) (w : Nat) : Prop := v.share.Counts w

/-- **The end of the variant at an index** on the line of weights. -/
def reach (ws : List Nat) (i : Nat) : Nat := (ws.take (i + 1)).sum

/-- **A point is covered by the first variant whose end does not lie before it.**  The point is given
in grains. -/
structure Covers (ws : List Nat) (point i : Nat) : Prop where
  lt : i < ws.length
  reached : point ≤ reach ws i * modulus
  passed : ∀ j < i, reach ws j * modulus < point

section Line

variable {w : Nat} {ws : List Nat} {point i j : Nat}

@[simp] theorem reach_zero (w : Nat) (ws : List Nat) : reach (w :: ws) 0 = w := by
  simp [reach]

@[simp] theorem reach_succ (w : Nat) (ws : List Nat) (i : Nat) :
    reach (w :: ws) (i + 1) = w + reach ws i := by
  simp [reach]

/-- The first end is not before the point. -/
theorem covers_zero_iff : Covers (w :: ws) point 0 ↔ point ≤ w * modulus := by
  constructor
  · intro h
    simpa using h.reached
  · intro h
    exact ⟨Nat.succ_pos _, by simpa using h, nofun⟩

/-- Behind the first end the rest of the line is walked with the rest of the point. -/
theorem covers_succ_iff : Covers (w :: ws) point (i + 1) ↔
    w * modulus < point ∧ Covers ws (point - w * modulus) i := by
  constructor
  · intro h
    have hfirst : w * modulus < point := by simpa using h.passed 0 (Nat.succ_pos i)
    refine ⟨hfirst, Nat.lt_of_succ_lt_succ h.lt, ?_, ?_⟩
    · have hreached := h.reached
      rw [reach_succ, Nat.add_mul] at hreached
      omega
    · intro j hj
      have hpassed := h.passed (j + 1) (Nat.succ_lt_succ hj)
      rw [reach_succ, Nat.add_mul] at hpassed
      omega
  · rintro ⟨hfirst, h⟩
    refine ⟨Nat.succ_lt_succ h.lt, ?_, ?_⟩
    · have hreached := h.reached
      rw [reach_succ, Nat.add_mul]
      omega
    · intro j hj
      cases j with
      | zero => simpa using hfirst
      | succ j =>
          have hpassed := h.passed j (Nat.lt_of_succ_lt_succ hj)
          rw [reach_succ, Nat.add_mul]
          omega

/-- **Every point of the line is covered.** -/
theorem exists_covers (hne : ws ≠ []) (h : point ≤ ws.sum * modulus) : ∃ i, Covers ws point i := by
  induction ws generalizing point with
  | nil => exact absurd rfl hne
  | cons w ws ih =>
      by_cases hfirst : point ≤ w * modulus
      · exact ⟨0, covers_zero_iff.2 hfirst⟩
      · rw [List.sum_cons, Nat.add_mul] at h
        have hne' : ws ≠ [] := by
          rintro rfl
          simp only [List.sum_nil, Nat.zero_mul, Nat.add_zero] at h
          exact hfirst h
        have hrest : point - w * modulus ≤ ws.sum * modulus := by omega
        obtain ⟨i, hi⟩ := ih hne' hrest
        exact ⟨i + 1, covers_succ_iff.2 ⟨by omega, hi⟩⟩

end Line

/-! ### Exact walks -/

section Walk

variable {candidates : List Variant} {ws : List Nat}

/-- The weights are added up exactly. -/
theorem totalShare_counts (hweights : List.Forall₂ Variant.Weighs candidates ws) {sum : Number}
    {s : Nat} (hsum : sum.Counts s) (hle : s + ws.sum ≤ 2 ^ 53) :
    ∃ total, totalShare candidates sum = some total ∧ total.Counts (s + ws.sum) := by
  induction hweights generalizing sum s with
  | nil => exact ⟨sum, rfl, hsum⟩
  | @cons v w vs ws hv _ ih =>
      rw [List.sum_cons, ← Nat.add_assoc] at hle ⊢
      obtain ⟨next, hnext, hcounts⟩ := hsum.add? hv (by omega)
      obtain ⟨total, htotal, hcounts⟩ := ih hcounts hle
      refine ⟨total, ?_, hcounts⟩
      rw [totalShare, hnext, Option.bind_some, htotal]

/-- **A walk to a point stops at the variant that covers it.** -/
theorem stop?_of_covers (hweights : List.Forall₂ Variant.Weighs candidates ws)
    (hle : ws.sum ≤ 2 ^ 21) {x : Double} {point i : Nat} (hx : x.Grains point)
    (hpoint : point ≤ 2 ^ 53) (h : Covers ws point i) : stop? x candidates = some i := by
  induction hweights generalizing x point i with
  | nil => exact absurd h.lt (Nat.not_lt_zero i)
  | @cons v w vs ws hv _ ih =>
      rw [List.sum_cons] at hle
      obtain ⟨y, hy, hyw⟩ := Number.Counts.toDouble? hv (by omega)
      have hgrains : y.Grains ((w : Int) * modulus) :=
        Double.grains_of_toRat? (by exact_mod_cast hyw)
      -- what is left of the point lies between the two ends of the exact range
      have hrest : (x.sub y).Grains (point - (w : Int) * modulus) := by
        refine hx.sub hgrains ?_
        unfold modulus
        omega
      rw [stop?, hy]
      dsimp only
      cases i with
      | zero =>
          have hstop : (point : Int) - w * modulus ≤ 0 := by
            have hreached := covers_zero_iff.1 h
            unfold modulus at hreached ⊢
            omega
          rw [if_pos (hrest.le_zero_iff.2 hstop)]
      | succ i =>
          obtain ⟨hpass, hcovers⟩ := covers_succ_iff.1 h
          have hleft : ((point - w * modulus : Nat) : Int) = point - (w : Int) * modulus := by
            push_cast [hpass.le]
            rfl
          rw [← hleft] at hrest
          have hgoes : ¬ (x.sub y).le (.finite 0) = true := by
            rw [hrest.le_zero_iff]
            omega
          rw [if_neg hgoes, ih (by omega) hrest (by omega) hcovers]
          rfl

/-- The point of a draw is no further than the end of the line. -/
theorem point_le {n : Nat} (hn : n < modulus) (total : Nat) : n * total ≤ total * modulus := by
  rw [Nat.mul_comm total]
  exact Nat.mul_le_mul_right total hn.le

/-- **What a draw chooses**: the variant that covers its point on the line of weights. -/
theorem chosen?_eq_some_iff (hweights : List.Forall₂ Variant.Weighs candidates ws)
    (hle : ws.sum ≤ 2 ^ 21) {draw : Double} {n : Nat} (hdraw : draw.Grains n) (hn : n < modulus)
    {i : Nat} : chosen? draw candidates = some i ↔ Covers ws (n * ws.sum) i := by
  have hzero : (Number.int 0).Counts 0 := rfl
  obtain ⟨total, htotal, hcounts⟩ := totalShare_counts hweights hzero (by omega)
  rw [Nat.zero_add] at hcounts
  obtain ⟨y, hy, hyvalue⟩ := hcounts.toDouble? (by omega)
  have hpoint : n * ws.sum ≤ 2 ^ 53 :=
    calc n * ws.sum ≤ modulus * 2 ^ 21 := Nat.mul_le_mul hn.le hle
      _ = 2 ^ 53 := by decide
  have hgrains : (draw.mul y).Grains ((n * ws.sum : Nat) : Int) := by
    generalize ws.sum = t at hyvalue hpoint ⊢
    have h := hdraw.mul (b := (t : Int)) (by exact_mod_cast hyvalue) (by exact_mod_cast hpoint)
    exact_mod_cast h
  have hwalk : chosen? draw candidates = stop? (draw.mul y) candidates := by
    rw [chosen?, htotal, Option.bind_some, hy, Option.bind_some]
  rw [hwalk]
  constructor
  · intro h
    have hne : ws ≠ [] := by
      rintro rfl
      cases hweights
      cases h
    obtain ⟨j, hj⟩ := exists_covers hne (point_le hn ws.sum)
    obtain rfl : j = i :=
      Option.some.inj ((stop?_of_covers hweights hle hgrains hpoint hj).symm.trans h)
    exact hj
  · exact stop?_of_covers hweights hle hgrains hpoint

end Walk

/-! ### Narratives -/

namespace Engine

variable {e : Engine} {vs candidates : List Variant} {p q : Play}

/-- Once the conditions have been asked, the candidate is told that the draw chooses. -/
theorem on_tell_of_chosen? (hsifted : e.Sifts Variant.condition vs p candidates q) {i : Nat}
    (h : chosen? p.rng.next.1 candidates = some i) :
    ∃ hi : i < candidates.length, (e.tell (.variants vs)).on p =
      (.ok candidates[i].text, { q with rng := p.rng.next.2 }) := by
  rw [← hsifted.rng] at h ⊢
  obtain ⟨hi, htold⟩ := on_drawVariant_of_chosen? h
  refine ⟨hi, ?_⟩
  rw [tell, Turn.on_bind_ok (on_available_iff.2 hsifted), ← htold]
  cases candidates with
  | nil => exact absurd hi (Nat.not_lt_zero i)
  | cons v rest => rfl

/-- **With a generator of states, the candidate is told that covers the point of the next state.** -/
theorem exists_told {ws : List Nat} {state : Nat}
    (hsifted : e.Sifts Variant.condition vs p candidates q) (hne : candidates ≠ [])
    (hweights : List.Forall₂ Variant.Weighs candidates ws) (hle : ws.sum ≤ 2 ^ 21)
    (hrng : p.rng = .linear state) : ∃ i, ∃ hi : i < candidates.length,
      Covers ws (Generator.successor state * ws.sum) i ∧
      chosen? (Generator.drawAt (Generator.successor state)) candidates = some i ∧
      (e.tell (.variants vs)).on p =
        (.ok candidates[i].text, { q with rng := .linear (Generator.successor state) }) := by
  have hn : Generator.successor state < modulus := Generator.successor_lt state
  have hwne : ws ≠ [] := by
    rintro rfl
    cases hweights
    exact hne rfl
  obtain ⟨i, hcovers⟩ := exists_covers hwne (point_le hn ws.sum)
  have hchosen := (chosen?_eq_some_iff hweights hle (Generator.grains_drawAt _) hn).2 hcovers
  have hnext : p.rng.next = (Generator.drawAt (Generator.successor state),
      .linear (Generator.successor state)) := by
    rw [hrng, Generator.next_linear]
  obtain ⟨hi, htold⟩ := on_tell_of_chosen? hsifted (by rw [hnext]; exact hchosen)
  rw [hnext] at htold
  exact ⟨i, hi, hcovers, hchosen, htold⟩

/-- **What is told is the first candidate whose end on the line of weights is not before the point of
the draw.**  There is always such a candidate, and the walk stops at it. -/
theorem telling_stops_at_first_reach {ws : List Nat} {state : Nat}
    (hsifted : e.Sifts Variant.condition vs p candidates q) (hne : candidates ≠ [])
    (hweights : List.Forall₂ Variant.Weighs candidates ws) (htotal : ws.sum ≤ 2 ^ 21)
    (hrng : p.rng = .linear state) :
    let n := Generator.successor state
    ∃ i, ∃ hi : i < candidates.length,
      n * ws.sum ≤ reach ws i * 2 ^ 32 ∧ (∀ j < i, reach ws j * 2 ^ 32 < n * ws.sum) ∧
      chosen? p.rng.next.1 candidates = some i ∧
      (e.tell (.variants vs)).on p = (.ok candidates[i].text, { q with rng := .linear n }) := by
  intro n
  obtain ⟨i, hi, hcovers, hchosen, htold⟩ := exists_told hsifted hne hweights htotal hrng
  refine ⟨i, hi, hcovers.reached, hcovers.passed, ?_, htold⟩
  rw [hrng, Generator.next_linear]
  exact hchosen

end Engine

/-! ### The weather on the Lantern Road -/

namespace LanternRoad

/-- Three tales of the weather: the first one weighs nothing, the second one weighs one, because it
does not say, and the third one weighs three, given as a fraction. -/
def weather : List Variant :=
  [⟨"Mist.", some (.int 0), none⟩, ⟨"Light rain.", none, none⟩,
    ⟨"Heavy rain.", some (.float (.finite 3)), none⟩]

/-- A tale that is told in summer only. -/
def sunshine : Variant := ⟨"Sunshine.", some (.int 100), some (.flag "summer" none none)⟩

theorem weather_weighs : List.Forall₂ Variant.Weighs weather [0, 1, 3] :=
  .cons rfl (.cons rfl (.cons rfl .nil))

/-- A new game. -/
def morning : Play := engine.beginning traveller alone

theorem sifts_weather :
    engine.Sifts Variant.condition (sunshine :: weather) morning weather morning :=
  .dropped rfl (.kept rfl (.kept rfl (.kept rfl .nil)))

/-- The first draw of a new game lies behind the end of the mist, and not behind that of the light
rain. -/
theorem telling_stops_at_first_reach_weather :
    engine.Sifts Variant.condition (sunshine :: weather) morning weather morning ∧ weather ≠ [] ∧
      List.Forall₂ Variant.Weighs weather [0, 1, 3] ∧ [0, 1, 3].sum ≤ 2 ^ 21 ∧
      morning.rng = .linear 1 ∧
      let n := Generator.successor 1
      ∃ i, ∃ hi : i < weather.length,
        n * [0, 1, 3].sum ≤ reach [0, 1, 3] i * 2 ^ 32 ∧
        (∀ j < i, reach [0, 1, 3] j * 2 ^ 32 < n * [0, 1, 3].sum) ∧
        chosen? morning.rng.next.1 weather = some i ∧
        (engine.tell (.variants (sunshine :: weather))).on morning =
          (.ok weather[i].text, { morning with rng := .linear n }) := by
  have hne : weather ≠ [] := by decide
  have htotal : [0, 1, 3].sum ≤ 2 ^ 21 := by decide
  exact ⟨sifts_weather, hne, weather_weighs, htotal, rfl,
    Engine.telling_stops_at_first_reach sifts_weather hne weather_weighs htotal rfl⟩

end LanternRoad

end Storyworld
