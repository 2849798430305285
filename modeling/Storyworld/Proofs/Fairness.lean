/-
**Weighted choice is fair.**

Each candidate for a narrative should be told by its share of all draws.  A candidate lies between
two ends on the line of weights, and is chosen by the draws whose points lie behind the first of them
and not behind the second.  So its draws are a run of states, and a run between two ends of a line
misses the share of its length by less than one at either end: it loses a draw at most where it
begins, and wins one at most where it ends.  Two draws are special.  The draw zero has nothing before
it, and goes to the first candidate, even if that weighs nothing.  The draw one does not exist, so
that the end of the line is missing.

Main definitions:

* `Storyworld.drawsFor` — **the states whose draws choose a candidate**.

Main results:

* `Storyworld.covers_iff` — a candidate covers what lies between its ends;
* `Storyworld.drawsFor_eq` — the draws of a candidate are a run;
* `Storyworld.card_drawsFor` — **how many they are**;
* `Storyworld.Engine.choice_is_fair` — no candidate has one draw more or less than its share.
-/

import Mathlib.Algebra.BigOperators.Group.List.Basic
import Mathlib.Algebra.Order.BigOperators.Group.List
import Mathlib.Order.Interval.Finset.Nat
import Storyworld.Proofs.Weights

set_option relaxedAutoImplicit false
set_option autoImplicit false

namespace Storyworld

open Generator (modulus)

/-- **The states whose draws choose a candidate.** -/
def drawsFor (candidates : List Variant) (i : Nat) : Finset Nat :=
  (Finset.range modulus).filter fun n => chosen? (Generator.drawAt n) candidates = some i

/-! ### The two ends of a candidate -/

section Ends

variable {ws : List Nat} {point i j : Nat}

/-- The ends lie in the order of the candidates. -/
theorem reach_le_take (h : j < i) : reach ws j ≤ (ws.take i).sum :=
  (List.take_sublist_take_left h).sum_le_sum fun _ _ => Nat.zero_le _

theorem reach_le_sum (ws : List Nat) (i : Nat) : reach ws i ≤ ws.sum :=
  (List.take_sublist _ ws).sum_le_sum fun _ _ => Nat.zero_le _

/-- A candidate ends as far from where it begins as it weighs. -/
theorem reach_eq (hi : i < ws.length) : reach ws i = (ws.take i).sum + ws[i] :=
  List.sum_take_succ ws i hi

/-- **A candidate covers what lies between its two ends**; the first one has no end before it. -/
theorem covers_iff (hi : i < ws.length) : Covers ws point i ↔
    (i ≠ 0 → (ws.take i).sum * modulus < point) ∧ point ≤ reach ws i * modulus := by
  constructor
  · intro h
    refine ⟨fun hzero => ?_, h.reached⟩
    obtain ⟨j, rfl⟩ := Nat.exists_eq_succ_of_ne_zero hzero
    exact h.passed j (Nat.lt_succ_self j)
  · rintro ⟨hbefore, hreached⟩
    refine ⟨hi, hreached, fun j hj => ?_⟩
    exact (Nat.mul_le_mul_right modulus (reach_le_take hj)).trans_lt (hbefore (by omega))

end Ends

/-! ### Counting draws -/

/-- The first state whose draw chooses a candidate, if any does. -/
def firstDraw (ws : List Nat) (i : Nat) : Nat :=
  if i = 0 then 0 else (ws.take i).sum * modulus / ws.sum + 1

/-- The first state behind those whose draws choose a candidate. -/
def endOfDraws (ws : List Nat) (i : Nat) : Nat := min (reach ws i * modulus / ws.sum + 1) modulus

section Counting

variable {candidates : List Variant} {ws : List Nat} {i : Nat}

/-- **The draws of a candidate are a run.** -/
theorem drawsFor_eq (hweights : List.Forall₂ Variant.Weighs candidates ws) (hpos : 1 ≤ ws.sum)
    (hle : ws.sum ≤ 2 ^ 21) (hi : i < ws.length) :
    drawsFor candidates i = Finset.Ico (firstDraw ws i) (endOfDraws ws i) := by
  ext n
  have hchosen (hn : n < modulus) : chosen? (Generator.drawAt n) candidates = some i ↔
      (i ≠ 0 → (ws.take i).sum * modulus < n * ws.sum) ∧ n * ws.sum ≤ reach ws i * modulus := by
    rw [chosen?_eq_some_iff hweights hle (Generator.grains_drawAt n) hn, covers_iff hi]
  have hfirst : firstDraw ws i ≤ n ↔ (i ≠ 0 → (ws.take i).sum * modulus < n * ws.sum) := by
    unfold firstDraw
    by_cases hzero : i = 0
    · simp [hzero]
    · rw [if_neg hzero, Nat.succ_le_iff, Nat.div_lt_iff_lt_mul hpos]
      simp [hzero]
  have hlast : n < reach ws i * modulus / ws.sum + 1 ↔ n * ws.sum ≤ reach ws i * modulus := by
    rw [Nat.lt_succ_iff, Nat.le_div_iff_mul_le hpos]
  rw [drawsFor, Finset.mem_filter, Finset.mem_range, Finset.mem_Ico, hfirst, endOfDraws, lt_min_iff,
    hlast]
  constructor
  · rintro ⟨hn, h⟩
    obtain ⟨hbefore, hreached⟩ := (hchosen hn).1 h
    exact ⟨hbefore, hreached, hn⟩
  · rintro ⟨hbefore, hreached, hn⟩
    exact ⟨hn, (hchosen hn).2 ⟨hbefore, hreached⟩⟩

/-- A candidate begins with the last end before it, up to one draw. -/
theorem firstDraw_bounds (hpos : 1 ≤ ws.sum) :
    (ws.take i).sum * modulus ≤ firstDraw ws i * ws.sum ∧
      firstDraw ws i * ws.sum ≤ (ws.take i).sum * modulus + ws.sum := by
  unfold firstDraw
  split
  · next hzero =>
    subst hzero
    simp
  · have hquotient := Nat.div_add_mod ((ws.take i).sum * modulus) ws.sum
    have hrest := Nat.mod_lt ((ws.take i).sum * modulus) hpos
    rw [Nat.succ_mul, Nat.mul_comm _ ws.sum]
    constructor
    · omega
    · omega

/-- A candidate ends with its own end, up to one draw. -/
theorem endOfDraws_bounds (hpos : 1 ≤ ws.sum) :
    reach ws i * modulus ≤ endOfDraws ws i * ws.sum ∧
      endOfDraws ws i * ws.sum ≤ reach ws i * modulus + ws.sum := by
  have hquotient := Nat.div_add_mod (reach ws i * modulus) ws.sum
  have hrest := Nat.mod_lt (reach ws i * modulus) hpos
  have hnext : (reach ws i * modulus / ws.sum + 1) * ws.sum =
      ws.sum * (reach ws i * modulus / ws.sum) + ws.sum := by
    rw [Nat.succ_mul, Nat.mul_comm _ ws.sum]
  constructor
  · unfold endOfDraws
    rcases min_choice (reach ws i * modulus / ws.sum + 1) modulus with h | h
    · rw [h, hnext]
      omega
    · -- the line does not go on behind its last end
      rw [h, Nat.mul_comm modulus]
      exact Nat.mul_le_mul_right modulus (reach_le_sum ws i)
  · calc endOfDraws ws i * ws.sum ≤ (reach ws i * modulus / ws.sum + 1) * ws.sum :=
          Nat.mul_le_mul_right ws.sum (min_le_left _ _)
      _ ≤ reach ws i * modulus + ws.sum := by omega

/-- **How many draws a candidate has**: its share of all draws, up to one. -/
theorem card_drawsFor (hweights : List.Forall₂ Variant.Weighs candidates ws) (hpos : 1 ≤ ws.sum)
    (hle : ws.sum ≤ 2 ^ 21) (hi : i < ws.length) :
    |((drawsFor candidates i).card : Rat) - ws[i] * modulus / ws.sum| ≤ 1 := by
  have hfirst := firstDraw_bounds (i := i) hpos
  have hend := endOfDraws_bounds (i := i) hpos
  rw [reach_eq hi, Nat.add_mul] at hend
  have hcard : (drawsFor candidates i).card * ws.sum =
      endOfDraws ws i * ws.sum - firstDraw ws i * ws.sum := by
    rw [drawsFor_eq hweights hpos hle hi, Nat.card_Ico, Nat.sub_mul]
  have hupper : (drawsFor candidates i).card * ws.sum ≤ ws[i] * modulus + ws.sum := by omega
  have hlower : ws[i] * modulus ≤ (drawsFor candidates i).card * ws.sum + ws.sum := by omega
  have hsum : (0 : Rat) < ws.sum := by exact_mod_cast hpos
  rw [abs_sub_le_iff, sub_le_iff_le_add, sub_le_iff_le_add, div_le_iff₀ hsum, add_mul, one_mul,
    ← sub_le_iff_le_add', le_div_iff₀ hsum, sub_mul, one_mul, sub_le_iff_le_add]
  constructor
  · exact_mod_cast hupper
  · rw [add_comm]
    exact_mod_cast hlower

end Counting

/-- **Weighted choice is fair.**  Every state is the next one after exactly one state, so that a draw
is as likely as any other; what is told is what the draw chooses; and no candidate is chosen by one
draw more or less than its share of all draws. -/
theorem Engine.choice_is_fair {candidates : List Variant} {ws : List Nat}
    (hweights : List.Forall₂ Variant.Weighs candidates ws) (hpos : 1 ≤ ws.sum)
    (hle : ws.sum ≤ 2 ^ 21) :
    (∀ n < 2 ^ 32, ∃! state, state < 2 ^ 32 ∧ Generator.successor state = n) ∧
    (∀ (e : Engine) (vs : List Variant) (p q : Play) (state : Nat),
      e.Sifts Variant.condition vs p candidates q → p.rng = .linear state →
      ∃ i, ∃ hi : i < candidates.length, Generator.successor state ∈ drawsFor candidates i ∧
        (e.tell (.variants vs)).on p =
          (.ok candidates[i].text, { q with rng := .linear (Generator.successor state) })) ∧
    ∀ i, ∀ hi : i < ws.length,
      |((drawsFor candidates i).card : Rat) - ws[i] * 2 ^ 32 / ws.sum| ≤ 1 := by
  refine ⟨fun n hn => Generator.existsUnique_successor hn, ?_, ?_⟩
  · intro e vs p q state hsifted hrng
    have hne : candidates ≠ [] := by
      rintro rfl
      cases hweights
      exact absurd hpos (by decide)
    obtain ⟨i, hi, -, hchosen, htold⟩ := exists_told hsifted hne hweights hle hrng
    have hn : Generator.successor state < modulus := Generator.successor_lt state
    exact ⟨i, hi, Finset.mem_filter.2 ⟨Finset.mem_range.2 hn, hchosen⟩, htold⟩
  · intro i hi
    have hmodulus : (modulus : Rat) = 2 ^ 32 := by norm_num [modulus]
    have h := card_drawsFor hweights hpos hle hi
    rwa [hmodulus] at h

/-- Of the weather on the Lantern Road, the light rain has a quarter of all draws, and the heavy rain
three quarters, up to one draw; the mist has one at most. -/
theorem LanternRoad.choice_is_fair_weather :
    List.Forall₂ Variant.Weighs weather [0, 1, 3] ∧ 1 ≤ [0, 1, 3].sum ∧ [0, 1, 3].sum ≤ 2 ^ 21 ∧
    (∀ n < 2 ^ 32, ∃! state, state < 2 ^ 32 ∧ Generator.successor state = n) ∧
    (∀ (e : Engine) (vs : List Variant) (p q : Play) (state : Nat),
      e.Sifts Variant.condition vs p weather q → p.rng = .linear state →
      ∃ i, ∃ hi : i < weather.length, Generator.successor state ∈ drawsFor weather i ∧
        (e.tell (.variants vs)).on p =
          (.ok weather[i].text, { q with rng := .linear (Generator.successor state) })) ∧
    ∀ i, ∀ hi : i < [0, 1, 3].length,
      |((drawsFor weather i).card : Rat) -
        ([0, 1, 3][i] : Nat) * 2 ^ 32 / ([0, 1, 3].sum : Nat)| ≤ 1 := by
  have hpos : 1 ≤ [0, 1, 3].sum := by decide
  have hle : [0, 1, 3].sum ≤ 2 ^ 21 := by decide
  exact ⟨weather_weighs, hpos, hle, Engine.choice_is_fair weather_weighs hpos hle⟩

end Storyworld
