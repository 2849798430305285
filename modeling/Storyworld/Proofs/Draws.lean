/-
**Exact arithmetic with draws.**

A draw of the linear generator is a whole number of grains, where a grain is `2 ^ -32`.  So is an
integer, and so is the product of a draw and an integer.  A number of no more than `2 ^ 53` grains is
in the binary format.  Hence sums, differences and products of such numbers are exact as long as they
do not leave that range, and what is computed with draws can be told in integers.

Every state has exactly one state before it, because the multiplier has an inverse.

Main definitions:

* `Storyworld.Double.Grains` — **a number is so many grains**;
* `Storyworld.Number.Counts` — a number of either kind is a natural number;
* `Storyworld.Generator.drawAt` — the draw of a state.

Main results:

* `Storyworld.Double.round_grains` — up to `2 ^ 53` grains need no rounding;
* `Storyworld.Double.Grains.add`, `Storyworld.Double.Grains.sub`, `Storyworld.Double.Grains.mul` —
  **exact operations**;
* `Storyworld.Double.Grains.le_zero_iff`, `Storyworld.Double.Grains.truncate?` — comparison with zero,
  and the integer part;
* `Storyworld.Generator.existsUnique_successor` — every state follows exactly one state.
-/

import Mathlib.Tactic.Ring
import Storyworld.Chance.Generator
import Storyworld.Number.Basic
import Storyworld.Proofs.Exact

set_option relaxedAutoImplicit false
set_option autoImplicit false

namespace Storyworld

open Generator (modulus)

namespace Double

/-- **A number is so many grains**, that is, so many times `2 ^ -32`.  Both zeros are no grains. -/
def Grains (x : Double) (k : Int) : Prop := x.toRat? = some ((k : Rat) / modulus)

theorem modulus_ne_zero : (modulus : Rat) ≠ 0 := by decide

theorem modulus_pos : (0 : Rat) < modulus := by decide

/-- An integer as grains. -/
theorem grains_of_toRat? {x : Double} {w : Int} (h : x.toRat? = some (w : Rat)) :
    x.Grains (w * modulus) := by
  unfold Grains
  rw [h]
  push_cast
  rw [mul_div_cancel_right₀ _ modulus_ne_zero]

/-- **Up to `2 ^ 53` grains need no rounding.** -/
theorem round_grains {k : Int} (hk : k.natAbs ≤ 2 ^ 53) :
    round ((k : Rat) / modulus) = finite ((k : Rat) / modulus) := by
  have hunit : powerOfTwo (-32) = 1 / modulus := by
    have hcast := powerOfTwo_natCast 32
    unfold powerOfTwo at hcast ⊢
    rw [zpow_neg, one_div]
    exact congrArg _ hcast
  have hmultiple : (k : Rat) / modulus = k * powerOfTwo (-32) := by
    rw [hunit, mul_one_div]
  refine round_eq_finite hmultiple hk (by decide) ?_
  calc |(k : Rat) / modulus| = (k.natAbs : Rat) / modulus := by
        rw [abs_div, abs_of_pos modulus_pos, Nat.cast_natAbs, Int.cast_abs]
    _ ≤ (k.natAbs : Rat) := div_le_self (Nat.cast_nonneg _) (by decide)
    _ ≤ ((2 ^ 53 : Nat) : Rat) := Nat.cast_le.2 hk
    _ = powerOfTwo 53 := (powerOfTwo_natCast 53).symm
    _ < limit := not_le.1 fun hle => absurd (powerOfTwo_le_iff.1 hle) (by decide)

/-! ### Operations on finite numbers -/

section Finite

variable {x y : Double} {v w : Rat}

theorem toRat?_neg (h : x.toRat? = some v) : x.neg.toRat? = some (-v) := by
  cases x with
  | nan => cases h
  | infinite => cases h
  | negativeZero => cases h; rfl
  | finite v =>
      cases h
      rw [neg]
      split
      · next hzero => rw [hzero]; rfl
      · rfl

/-- A sum that needs no rounding. -/
theorem toRat?_add (hx : x.toRat? = some v) (hy : y.toRat? = some w)
    (hexact : round (v + w) = finite (v + w)) : (x.add y).toRat? = some (v + w) := by
  cases x with
  | nan => cases hx
  | infinite => cases hx
  | negativeZero =>
      cases hx
      cases y with
      | nan => cases hy
      | infinite => cases hy
      | negativeZero => cases hy; rw [add_zero]; rfl
      | finite w =>
          cases hy
          rw [zero_add] at hexact ⊢
          simp only [add, hexact, toRat?]
  | finite v =>
      cases hx
      cases y with
      | nan => cases hy
      | infinite => cases hy
      | negativeZero =>
          cases hy
          rw [add_zero] at hexact ⊢
          simp only [add, hexact, toRat?]
      | finite w =>
          cases hy
          simp only [add, hexact, toRat?]

/-- A product that needs no rounding.  A zero of either sign counts as zero. -/
theorem toRat?_mul (hx : x.toRat? = some v) (hy : y.toRat? = some w)
    (hexact : round (v * w) = finite (v * w)) : (x.mul y).toRat? = some (v * w) := by
  have hzero (negative : Bool) : (zero negative).toRat? = some 0 := by
    cases negative <;> rfl
  have hproduct : x.mul y =
      if v * w = 0 then zero (x.isNegative != y.isNegative) else round (v * w) := by
    cases x with
    | nan => cases hx
    | infinite => cases hx
    | negativeZero | finite =>
        cases hx
        cases y with
        | nan => cases hy
        | infinite => cases hy
        | negativeZero | finite => cases hy; rfl
  rw [hproduct]
  split
  · next h => rw [h, hzero]
  · rw [hexact]
    rfl

/-- A finite number compares with zero as its value does. -/
theorem le_zero_iff (hx : x.toRat? = some v) : x.le (.finite 0) = true ↔ v ≤ 0 := by
  have horder : x.order? (.finite 0) =
      some (if v < 0 then .lt else if v = 0 then .eq else .gt) := by
    cases x with
    | nan => cases hx
    | infinite => cases hx
    | negativeZero | finite => cases hx; rfl
  unfold le
  rw [horder]
  rcases lt_trichotomy v 0 with hv | hv | hv
  · simp [hv, hv.le]
  · simp [hv]
  · simp [not_lt.2 hv.le, hv.ne', not_le.2 hv]

end Finite

/-! ### Operations on grains -/

namespace Grains

variable {x y : Double} {a b : Int}

theorem add (hx : x.Grains a) (hy : y.Grains b) (hsum : (a + b).natAbs ≤ 2 ^ 53) :
    (x.add y).Grains (a + b) := by
  have hvalue : (a : Rat) / modulus + b / modulus = ((a + b : Int) : Rat) / modulus := by
    push_cast
    ring
  have hexact := round_grains hsum
  rw [← hvalue] at hexact
  have h := toRat?_add hx hy hexact
  rwa [hvalue] at h

theorem sub (hx : x.Grains a) (hy : y.Grains b) (hdifference : (a - b).natAbs ≤ 2 ^ 53) :
    (x.sub y).Grains (a - b) := by
  have hneg : y.neg.Grains (-b) := by
    have h := toRat?_neg hy
    unfold Grains
    rw [h]
    push_cast
    rw [neg_div]
  rw [sub_eq_add_neg] at hdifference ⊢
  exact hx.add hneg hdifference

/-- The product of a number of grains and an integer. -/
theorem mul (hx : x.Grains a) (hy : y.toRat? = some (b : Rat))
    (hproduct : (a * b).natAbs ≤ 2 ^ 53) : (x.mul y).Grains (a * b) := by
  have hvalue : (a : Rat) / modulus * b = ((a * b : Int) : Rat) / modulus := by
    push_cast
    ring
  have hexact := round_grains hproduct
  rw [← hvalue] at hexact
  have h := toRat?_mul hx hy hexact
  rwa [hvalue] at h

theorem le_zero_iff (hx : x.Grains a) : x.le (.finite 0) = true ↔ a ≤ 0 := by
  rw [Double.le_zero_iff hx, div_le_iff₀ modulus_pos, zero_mul]
  exact_mod_cast Iff.rfl

/-- The integer part of a number that is not negative. -/
theorem truncate? (hx : x.Grains a) (ha : 0 ≤ a) : x.truncate? = some (a / modulus) := by
  have hnonneg : ¬ (a : Rat) / modulus < 0 :=
    not_lt.2 (div_nonneg (by exact_mod_cast ha) modulus_pos.le)
  have hfloor : ((a : Rat) / modulus).floor = a / modulus := Rat.floor_intCast_div_natCast a modulus
  unfold Double.truncate?
  rw [show x.toRat? = _ from hx, Option.map_some, if_neg hnonneg, hfloor]

end Grains

end Double

/-! ### Numbers that count -/

namespace Number

/-- **A number of either kind is a natural number.** -/
def Counts (n : Number) (w : Nat) : Prop := n.point.toRat? = some (w : Rat)

variable {m n : Number} {v w : Nat}

/-- Up to `2 ^ 53`, a number that counts is the same number in the binary format. -/
theorem Counts.toDouble? (h : n.Counts w) (hw : w ≤ 2 ^ 53) :
    ∃ x, n.toDouble? = some x ∧ x.toRat? = some (w : Rat) := by
  cases n with
  | int n =>
      obtain rfl : n = w := by exact_mod_cast Option.some.inj h
      exact ⟨_, Double.ofInt?_eq_some hw, rfl⟩
  | float x => exact ⟨x, rfl, h⟩

/-- Sums up to `2 ^ 53` are exact, whatever the kinds. -/
theorem Counts.add? (hm : m.Counts v) (hn : n.Counts w) (hsum : v + w ≤ 2 ^ 53) :
    ∃ s, m.add? n = some s ∧ s.Counts (v + w) := by
  have hmixed : ∃ x y, m.toDouble? = some x ∧ n.toDouble? = some y ∧
      (float (x.add y)).Counts (v + w) := by
    obtain ⟨x, hx, hxv⟩ := hm.toDouble? (by omega)
    obtain ⟨y, hy, hyw⟩ := hn.toDouble? (by omega)
    have hexact : Double.round ((v : Rat) + w) = .finite ((v : Rat) + w) := by
      exact_mod_cast Double.round_intCast (n := ((v + w : Nat) : Int)) hsum
    refine ⟨x, y, hx, hy, ?_⟩
    have h := Double.toRat?_add hxv hyw hexact
    unfold Counts
    push_cast
    exact h
  cases m with
  | int a =>
      cases n with
      | int b =>
          have ha : (a : Rat) = v := Option.some.inj hm
          have hb : (b : Rat) = w := Option.some.inj hn
          refine ⟨_, rfl, congrArg some ?_⟩
          push_cast
          rw [ha, hb]
      | float y =>
          obtain ⟨x, y, hx, hy, hcounts⟩ := hmixed
          exact ⟨_, by simp only [Number.add?, hx, hy]; rfl, hcounts⟩
  | float x =>
      obtain ⟨x, y, hx, hy, hcounts⟩ := hmixed
      exact ⟨_, by simp only [Number.add?, hx, hy]; rfl, hcounts⟩

end Number

/-! ### States -/

namespace Generator

theorem successor_lt (state : Nat) : successor state < modulus := Nat.mod_lt _ (by decide)

/-- **The draw of a state**, which is as many grains as the state says. -/
def drawAt (state : Nat) : Double := .finite ((state : Rat) / (modulus : Rat))

theorem grains_drawAt (state : Nat) : (drawAt state).Grains state := by
  simp [drawAt, Double.Grains, Double.toRat?]

theorem next_linear (state : Nat) :
    (linear state).next = (drawAt (successor state), linear (successor state)) := rfl

/-- The state before a state: the multiplier has an inverse. -/
def predecessor (state : Nat) : Nat :=
  4276115653 * (state + (modulus - 1013904223)) % modulus

theorem successor_predecessor {state : Nat} (h : state < modulus) :
    successor (predecessor state) = state := by
  unfold successor predecessor
  unfold modulus at h ⊢
  omega

theorem predecessor_successor {state : Nat} (h : state < modulus) :
    predecessor (successor state) = state := by
  unfold successor predecessor
  unfold modulus at h ⊢
  omega

/-- **Every state follows exactly one state.** -/
theorem existsUnique_successor {n : Nat} (h : n < modulus) :
    ∃! state, state < modulus ∧ successor state = n := by
  refine ⟨predecessor n, ⟨Nat.mod_lt _ (by decide), successor_predecessor h⟩, ?_⟩
  rintro state ⟨hstate, rfl⟩
  exact (predecessor_successor hstate).symm

end Generator

end Storyworld
