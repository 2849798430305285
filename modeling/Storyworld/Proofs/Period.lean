/-
**The generator visits every state.**

A linear congruential generator goes from a state to a multiple of it plus an increment, modulo some
power of two.  After `k` steps a state is multiplied by the `k`-th power of the multiplier, and to it
is added the increment times the sum of the powers before.  So it comes back to where it was just when
the modulus divides the product of that sum with another number, which is odd if the increment is odd
and the multiplier is too.  If the multiplier leaves one when it is divided by four, a power of two
divides the sum just when it divides `k`.  So with such constants a state comes back only after as many
steps as there are states, and has met all of them by then.

Main definitions:

* `Storyworld.Generator.congruential` — the steps of a linear congruential generator, with any
  constants;
* `Storyworld.Generator.after` — a generator after so many draws;
* `Storyworld.Generator.succession` — the successor of a state, as a permutation of the states;
* `Storyworld.Generator.multiples` — the multiples of `2 ^ -32` in `[0, 1)`.

Main results:

* `Storyworld.Generator.two_pow_dvd_sum_pow_iff` — the powers of two in a sum of powers;
* `Storyworld.Generator.minimalPeriod_congruential` — **how long a state takes to come back**;
* `Storyworld.Generator.isCycleOn_succession` — the states are one cycle;
* `Storyworld.Generator.states_form_one_cycle` — **the states and the draws of a period**.
-/

import Mathlib.Algebra.Ring.GeomSum
import Mathlib.Dynamics.PeriodicPts.Lemmas
import Mathlib.GroupTheory.Perm.Cycle.Basic
import Mathlib.NumberTheory.Multiplicity
import Mathlib.RingTheory.Coprime.Lemmas
import Mathlib.RingTheory.Int.Basic
import Mathlib.Tactic.LinearCombination
import Storyworld.Proofs.Draws

set_option relaxedAutoImplicit false
set_option autoImplicit false

namespace Storyworld.Generator

open Function (IsPeriodicPt minimalPeriod)

/-! ### Steps with any constants -/

/-- A step of a linear congruential generator. -/
def congruential (multiplier increment m n : Nat) : Nat := (multiplier * n + increment) % m

theorem modulus_eq_two_pow : modulus = 2 ^ 32 := rfl

theorem successor_eq_congruential : successor = congruential 1664525 1013904223 (2 ^ 32) := rfl

section Congruential

variable {a c : Nat}

/-- **A state after so many steps.** -/
theorem iterate_congruential (m k n : Nat) :
    (congruential a c m)^[k] n ≡ a ^ k * n + c * ∑ i ∈ Finset.range k, a ^ i [MOD m] := by
  induction k with
  | zero =>
      rw [Finset.sum_range_zero, pow_zero, one_mul, mul_zero, add_zero]
      exact Nat.ModEq.refl n
  | succ k ih =>
      rw [Function.iterate_succ_apply']
      calc congruential a c m ((congruential a c m)^[k] n)
          ≡ a * (congruential a c m)^[k] n + c [MOD m] := Nat.mod_modEq _ m
        _ ≡ a * (a ^ k * n + c * ∑ i ∈ Finset.range k, a ^ i) + c [MOD m] :=
          (ih.mul_left a).add_right c
        _ = a ^ (k + 1) * n + c * ∑ i ∈ Finset.range (k + 1), a ^ i := by
          rw [geom_sum_succ]
          ring

/-- **The powers of two in a sum of powers** are those in the number of the powers. -/
theorem two_pow_dvd_sum_pow_iff (ha : a % 4 = 1) (e k : Nat) :
    2 ^ e ∣ ∑ i ∈ Finset.range k, a ^ i ↔ 2 ^ e ∣ k := by
  obtain rfl | hne := eq_or_ne a 1
  · simp
  have hfour : (4 : Int) ∣ (a : Int) - 1 := by omega
  have hodd : ¬ (2 : Int) ∣ a := by omega
  have hfinite : emultiplicity (2 : Int) ((a : Int) - 1) ≠ ⊤ := by
    rw [← finiteMultiplicity_iff_emultiplicity_ne_top, Int.finiteMultiplicity_iff]
    omega
  -- both sides are so many times the multiplier less one
  have hlift := Int.two_pow_sub_pow' k hfour hodd
  rw [one_pow, ← geom_sum_mul, emultiplicity_mul Int.prime_two, add_comm] at hlift
  have heq := (ENat.add_right_injective_of_ne_top hfinite hlift :
    emultiplicity (2 : Int) (∑ i ∈ Finset.range k, (a : Int) ^ i) = emultiplicity 2 (k : Int))
  exact_mod_cast emultiplicity_eq_emultiplicity_iff.1 heq e

/-- **When a state comes back**: after the multiples of the modulus. -/
theorem isPeriodicPt_congruential_iff (ha : a % 4 = 1) (hc : c % 2 = 1) {e n : Nat} (hn : n < 2 ^ e)
    (k : Nat) : IsPeriodicPt (congruential a c (2 ^ e)) k n ↔ 2 ^ e ∣ k := by
  have hlt : (congruential a c (2 ^ e))^[k] n < 2 ^ e := by
    cases k with
    | zero => exact hn
    | succ k =>
        rw [Function.iterate_succ_apply']
        exact Nat.mod_lt _ (Nat.two_pow_pos e)
  -- what a state moves by is the sum of powers times an odd number
  have hmoved : (a : Int) ^ k * n + c * ∑ i ∈ Finset.range k, (a : Int) ^ i - n =
      (((a : Int) - 1) * n + c) * ∑ i ∈ Finset.range k, (a : Int) ^ i := by
    have hsum := geom_sum_mul (a : Int) k
    linear_combination (-(n : Int)) * hsum
  have hcoprime : IsCoprime ((2 : Int) ^ e) (((a : Int) - 1) * n + c) := by
    have heven : Even (((a : Int) - 1) * n) := Even.mul_right (by rw [Int.even_iff]; omega) _
    have hodd : Odd (c : Int) := by rw [Int.odd_iff]; omega
    exact IsCoprime.pow_left (Int.isCoprime_two_left.2 (heven.add_odd hodd))
  calc IsPeriodicPt (congruential a c (2 ^ e)) k n
      ↔ (congruential a c (2 ^ e))^[k] n ≡ n [MOD 2 ^ e] :=
        ⟨fun h => congrArg (· % 2 ^ e) h, fun h => h.eq_of_lt_of_lt hlt hn⟩
    _ ↔ n ≡ a ^ k * n + c * ∑ i ∈ Finset.range k, a ^ i [MOD 2 ^ e] :=
        ⟨fun h => h.symm.trans (iterate_congruential _ k n),
          fun h => (iterate_congruential _ k n).trans h.symm⟩
    _ ↔ (2 : Int) ^ e ∣ (((a : Int) - 1) * n + c) * ∑ i ∈ Finset.range k, (a : Int) ^ i := by
        rw [Nat.modEq_iff_dvd, ← hmoved]
        push_cast
        rfl
    _ ↔ (2 : Int) ^ e ∣ ∑ i ∈ Finset.range k, (a : Int) ^ i :=
        ⟨hcoprime.dvd_of_dvd_mul_left, fun h => h.mul_left _⟩
    _ ↔ 2 ^ e ∣ k := by
        rw [← two_pow_dvd_sum_pow_iff ha]
        exact_mod_cast Iff.rfl

/-- **How long a state takes to come back**: as many steps as there are states. -/
theorem minimalPeriod_congruential (ha : a % 4 = 1) (hc : c % 2 = 1) {e n : Nat} (hn : n < 2 ^ e) :
    minimalPeriod (congruential a c (2 ^ e)) n = 2 ^ e := by
  refine Nat.dvd_antisymm ?_ ?_
  · rw [← Function.isPeriodicPt_iff_minimalPeriod_dvd, isPeriodicPt_congruential_iff ha hc hn]
  · rw [← isPeriodicPt_congruential_iff ha hc hn]
    exact Function.isPeriodicPt_minimalPeriod _ n

end Congruential

/-! ### The successor of a state -/

theorem minimalPeriod_successor {n : Nat} (hn : n < modulus) :
    minimalPeriod successor n = modulus := by
  rw [modulus_eq_two_pow] at hn ⊢
  rw [successor_eq_congruential]
  exact minimalPeriod_congruential (by decide) (by decide) hn

theorem iterate_successor_lt {n : Nat} (hn : n < modulus) (k : Nat) :
    successor^[k] n < modulus := by
  cases k with
  | zero => exact hn
  | succ k =>
      rw [Function.iterate_succ_apply']
      exact successor_lt _

/-- **As many steps in a row as there are states meet every state once**, wherever they begin. -/
theorem bijOn_iterate_successor {n : Nat} (hn : n < modulus) (start : Nat) :
    Set.BijOn (fun k => successor^[k] n) (Set.Ico start (start + modulus)) (Set.Iio modulus) := by
  have hmaps : Set.MapsTo (fun k => successor^[k] n) (Set.Ico start (start + modulus))
      (Set.Iio modulus) := fun k _ => iterate_successor_lt hn k
  have hinj : Set.InjOn (fun k => successor^[k] n) (Set.Ico start (start + modulus)) := by
    rintro i ⟨hi, hi'⟩ j ⟨hj, hj'⟩ heq
    obtain ⟨i, rfl⟩ := Nat.exists_eq_add_of_le' hi
    obtain ⟨j, rfl⟩ := Nat.exists_eq_add_of_le' hj
    have hperiod := minimalPeriod_successor (iterate_successor_lt hn start)
    simp only [Function.iterate_add_apply] at heq
    rw [Function.iterate_eq_iterate_iff_of_lt_minimalPeriod (by omega) (by omega)] at heq
    rw [heq]
  refine ⟨hmaps, hinj, ?_⟩
  -- the steps are as many as the states
  have hcard : (Finset.range modulus).card ≤ (Finset.Ico start (start + modulus)).card := by
    rw [Finset.card_range, Nat.card_Ico, Nat.add_sub_cancel_left]
  have hsurj := Finset.surjOn_of_injOn_of_card_le (fun k => successor^[k] n)
    (s := Finset.Ico start (start + modulus)) (t := Finset.range modulus)
    (by simpa using hmaps) (by simpa using hinj) hcard
  simpa using hsurj

/-- **The successor of a state, as a permutation of the states.** -/
def succession : Equiv.Perm (Fin modulus) where
  toFun n := ⟨successor n, successor_lt n⟩
  invFun n := ⟨predecessor n, Nat.mod_lt _ (by decide)⟩
  left_inv n := Fin.ext (predecessor_successor n.isLt)
  right_inv n := Fin.ext (successor_predecessor n.isLt)

theorem succession_pow (k : Nat) (n : Fin modulus) :
    ((succession ^ k) n : Nat) = successor^[k] n := by
  induction k with
  | zero => rfl
  | succ k ih =>
      rw [pow_succ', Equiv.Perm.mul_apply, Function.iterate_succ_apply', ← ih]
      rfl

/-- **The states are one cycle.** -/
theorem isCycleOn_succession : succession.IsCycleOn Set.univ := by
  refine ⟨Set.bijOn_univ.2 succession.bijective, fun m _ n _ => ?_⟩
  obtain ⟨k, -, hk⟩ := (bijOn_iterate_successor m.isLt 0).surjOn n.isLt
  refine ⟨k, Fin.ext ?_⟩
  rw [zpow_natCast, succession_pow]
  exact hk

/-! ### Draws -/

/-- **A generator after so many draws.** -/
def after (g : Generator) (count : Nat) : Generator := (fun g => g.next.2)^[count] g

theorem after_linear (state count : Nat) :
    (linear state).after count = linear (successor^[count] state) := by
  unfold after
  induction count with
  | zero => rfl
  | succ count ih => rw [Function.iterate_succ_apply', ih, Function.iterate_succ_apply', next_linear]

/-- The multiples of `2 ^ -32` in `[0, 1)`. -/
def multiples : Set Rat := {q | 0 ≤ q ∧ q < 1 ∧ ∃ z : Int, q = z / 2 ^ 32}

theorem bijOn_drawAt : Set.BijOn drawAt (Set.Iio modulus) (Double.finite '' multiples) := by
  have hmodulus : (modulus : Rat) = 2 ^ 32 := by norm_num [modulus]
  refine ⟨fun n hn => ?_, fun m _ n _ heq => ?_, ?_⟩
  · refine ⟨_, ⟨by positivity, ?_, n, ?_⟩, rfl⟩
    · rw [div_lt_one Double.modulus_pos]
      exact_mod_cast hn
    · rw [hmodulus]
      rfl
  · have hquotient := Double.finite.inj heq
    rw [div_left_inj' Double.modulus_ne_zero] at hquotient
    exact_mod_cast hquotient
  · rintro x ⟨q, ⟨hnonneg, hlt, z, rfl⟩, rfl⟩
    rw [← hmodulus] at hnonneg hlt ⊢
    rw [div_lt_one Double.modulus_pos] at hlt
    have hz : (0 : Rat) ≤ z := by
      have h := mul_nonneg hnonneg Double.modulus_pos.le
      rwa [div_mul_cancel₀ _ Double.modulus_ne_zero] at h
    obtain ⟨n, rfl⟩ := Int.eq_ofNat_of_zero_le (by exact_mod_cast hz : 0 ≤ z)
    exact ⟨n, by exact_mod_cast hlt, rfl⟩

/-- **The generator visits every state.**  Whatever the seed, no two of the first `2 ^ 32` states are
the same, and then they begin again; the successor of a state runs through all of them in one cycle;
and any `2 ^ 32` draws in a row are the multiples of `2 ^ -32` in `[0, 1)`, each of them once. -/
theorem states_form_one_cycle (seed : Int) :
    Set.InjOn (seeded seed).after (Set.Iio (2 ^ 32)) ∧
    (seeded seed).after (2 ^ 32) = seeded seed ∧
    succession.IsCycleOn Set.univ ∧
    ∀ start : Nat, Set.BijOn (fun i => ((seeded seed).after i).next.1)
      (Set.Ico start (start + 2 ^ 32)) (Double.finite '' multiples) := by
  obtain ⟨state, hstate, hlinear⟩ : ∃ state < modulus, seeded seed = linear state := by
    refine ⟨(seed % modulus).toNat, ?_, rfl⟩
    unfold modulus
    omega
  rw [hlinear, ← modulus_eq_two_pow]
  have hperiod := minimalPeriod_successor hstate
  refine ⟨fun i hi j hj heq => ?_, ?_, isCycleOn_succession, fun start => ?_⟩
  · rw [after_linear, after_linear, linear.injEq] at heq
    rw [← hperiod] at hi hj
    exact Function.iterate_injOn_Iio_minimalPeriod hi hj heq
  · have hback := Function.iterate_minimalPeriod (f := successor) (x := state)
    rw [hperiod] at hback
    rw [after_linear, hback]
  · -- the draw behind a state is that of the next one
    have hdraw : (fun i => ((linear state).after i).next.1) =
        drawAt ∘ fun k => successor^[k] (successor state) := by
      funext i
      rw [after_linear, next_linear, Function.comp_apply, ← Function.iterate_succ_apply,
        Function.iterate_succ_apply' successor]
    rw [hdraw]
    exact bijOn_drawAt.comp (bijOn_iterate_successor (successor_lt state) start)

end Storyworld.Generator
