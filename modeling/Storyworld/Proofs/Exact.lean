/-
**Numbers that need no rounding.**

A rational is in the binary format if it is a whole multiple of a power of two and not too large,
where the multiple has no more than 53 binary digits.  Rounding leaves such a number as it is: the
last digit that is kept near it never stands higher than the power of two, except at `2 ^ 53` times
the power, which is a power of two itself.  So all integers up to `2 ^ 53` are in the format.

Main results:

* `Storyworld.Double.powerOfTwo_binaryOrder_le` — the leading binary digit of a value;
* `Storyworld.Double.exists_multiple_of_quantum` — what stands on the grid of its quantum;
* `Storyworld.Double.round_eq_finite` — **numbers that need no rounding**;
* `Storyworld.Double.round_intCast` — integers up to `2 ^ 53`.
-/

import Mathlib.Algebra.Order.Field.Power
import Mathlib.Data.Rat.Floor
import Storyworld.Number.Double

set_option relaxedAutoImplicit false
set_option autoImplicit false

namespace Storyworld.Double

/-! ### Powers of two -/

theorem powerOfTwo_pos (e : Int) : 0 < powerOfTwo e := Rat.zpow_pos (by decide)

theorem powerOfTwo_add (d e : Int) : powerOfTwo (d + e) = powerOfTwo d * powerOfTwo e :=
  Rat.zpow_add (by decide) d e

theorem powerOfTwo_natCast (n : Nat) : powerOfTwo n = ((2 ^ n : Nat) : Rat) := by
  simp [powerOfTwo]

theorem powerOfTwo_le_iff {d e : Int} : powerOfTwo d ≤ powerOfTwo e ↔ d ≤ e :=
  zpow_le_zpow_iff_right₀ (by norm_num)

/-- **The leading binary digit of a value** stands no higher than the value. -/
theorem powerOfTwo_binaryOrder_le {v : Rat} (hv : 0 < v) : powerOfTwo (binaryOrder v) ≤ v := by
  have hnum : powerOfTwo v.num.natAbs.log2 ≤ v.num.natAbs := by
    rw [powerOfTwo_natCast, Nat.cast_le]
    exact Nat.log2_self_le (Int.natAbs_ne_zero.2 (Rat.num_pos.2 hv).ne')
  have hden : (v.den : Rat) ≤ powerOfTwo (v.den.log2 + 1) := by
    have hlt : v.den < 2 ^ (v.den.log2 + 1) := Nat.lt_log2_self
    have hcast := powerOfTwo_natCast (v.den.log2 + 1)
    push_cast at hcast
    rw [hcast]
    exact_mod_cast hlt.le
  have hvalue : v * v.den = v.num.natAbs := by
    rw [Rat.mul_den_eq_num, Nat.cast_natAbs, abs_of_pos (Rat.num_pos.2 hv)]
  unfold binaryOrder
  dsimp only
  split
  · refine le_of_mul_le_mul_right ?_ (Nat.cast_pos.2 v.den_pos)
    calc powerOfTwo (v.num.natAbs.log2 - v.den.log2 - 1) * v.den
        ≤ powerOfTwo (v.num.natAbs.log2 - v.den.log2 - 1) * powerOfTwo (v.den.log2 + 1) :=
          mul_le_mul_of_nonneg_left hden (powerOfTwo_pos _).le
      _ = powerOfTwo v.num.natAbs.log2 := by
          rw [← powerOfTwo_add]
          congr 1
          omega
      _ ≤ v.num.natAbs := hnum
      _ = v * v.den := hvalue.symm
  · next hle => exact not_lt.1 hle

/-! ### Rounding -/

theorem nearestInt_intCast (n : Int) : nearestInt (n : Rat) = n := by
  have hrest : (n : Rat) - ((n : Rat).floor : Rat) < 1 / 2 := by
    rw [Rat.floor_intCast, sub_self]
    norm_num
  unfold nearestInt
  dsimp only
  rw [if_pos hrest, Rat.floor_intCast]

/-- A value on the grid of its quantum is its own nearest one. -/
theorem nearest_eq_self {v : Rat} {k : Int} (hv : v = k * powerOfTwo (quantum v)) :
    nearest v = v := by
  have hunit : powerOfTwo (quantum v) ≠ 0 := (powerOfTwo_pos _).ne'
  have hquotient : v / powerOfTwo (quantum v) = k := (div_eq_iff hunit).2 hv
  unfold nearest
  dsimp only
  rw [hquotient, nearestInt_intCast]
  exact hv.symm

/-- **What stands on the grid of its quantum**: a multiple of a power of two with no more than 53
binary digits. -/
theorem exists_multiple_of_quantum {v : Rat} {m : Nat} {e : Int} (hpos : 0 < v)
    (hv : v = m * powerOfTwo e) (hm : m ≤ 2 ^ 53) (he : -1074 ≤ e) :
    ∃ k : Int, v = k * powerOfTwo (quantum v) := by
  by_cases hq : quantum v ≤ e
  · refine ⟨m * 2 ^ (e - quantum v).toNat, ?_⟩
    have hsplit : powerOfTwo e =
        ((2 ^ (e - quantum v).toNat : Nat) : Rat) * powerOfTwo (quantum v) := by
      rw [← powerOfTwo_natCast, ← powerOfTwo_add]
      congr 1
      omega
    rw [hsplit, ← mul_assoc] at hv
    exact_mod_cast hv
  · -- only the largest multiple lies so high, and it is a power of two itself
    have hquantum : quantum v = binaryOrder v - 52 := by
      unfold quantum at hq ⊢
      omega
    have hle : v ≤ powerOfTwo (53 + e) := by
      rw [hv, powerOfTwo_add]
      refine mul_le_mul_of_nonneg_right ?_ (powerOfTwo_pos e).le
      have hcast := powerOfTwo_natCast 53
      push_cast at hcast
      rw [hcast]
      exact_mod_cast hm
    have horder := powerOfTwo_binaryOrder_le hpos
    have hupper : binaryOrder v ≤ 53 + e := powerOfTwo_le_iff.1 (horder.trans hle)
    have hequal : binaryOrder v = 53 + e := by omega
    have hpower : v = powerOfTwo (binaryOrder v) :=
      le_antisymm (by rwa [hequal]) horder
    refine ⟨2 ^ 52, ?_⟩
    have hsplit : powerOfTwo (binaryOrder v) = powerOfTwo 52 * powerOfTwo (quantum v) := by
      rw [← powerOfTwo_add, hquantum]
      congr 1
      omega
    have hcast := powerOfTwo_natCast 52
    push_cast at hcast
    rw [hsplit, hcast] at hpower
    exact_mod_cast hpower

theorem abs_eq_abs (v : Rat) : v.abs = |v| := by
  rcases le_total 0 v with hv | hv
  · rw [Rat.abs_of_nonneg hv, abs_of_nonneg hv]
  · rw [Rat.abs_of_nonpos hv, abs_of_nonpos hv]

/-- **Numbers that need no rounding**: multiples of a power of two with no more than 53 binary
digits. -/
theorem round_eq_finite {v : Rat} {m e : Int} (hv : v = m * powerOfTwo e) (hm : m.natAbs ≤ 2 ^ 53)
    (he : -1074 ≤ e) (hlimit : |v| < limit) : round v = finite v := by
  by_cases hzero : v = 0
  · rw [hzero]
    rfl
  · have hpos : 0 < |v| := abs_pos.2 hzero
    have hmultiple : |v| = m.natAbs * powerOfTwo e := by
      rw [Nat.cast_natAbs, Int.cast_abs, hv, abs_mul, abs_of_pos (powerOfTwo_pos e)]
    have hsign : (if v < 0 then -|v| else |v|) = v := by
      split
      · next hneg => rw [abs_of_neg hneg, neg_neg]
      · next hnonneg => rw [abs_of_nonneg (not_lt.1 hnonneg)]
    obtain ⟨k, hk⟩ := exists_multiple_of_quantum hpos hmultiple hm he
    unfold round
    dsimp only
    rw [if_neg hzero, abs_eq_abs, nearest_eq_self hk, if_neg (not_le.2 hlimit), if_neg hpos.ne',
      hsign]

/-- **Integers up to `2 ^ 53`** are in the format. -/
theorem round_intCast {n : Int} (hn : n.natAbs ≤ 2 ^ 53) : round n = finite n := by
  have hmultiple : (n : Rat) = n * powerOfTwo 0 := by simp [powerOfTwo]
  have hlimit : |(n : Rat)| < limit := by
    calc |(n : Rat)| = (n.natAbs : Rat) := by rw [Nat.cast_natAbs, Int.cast_abs]
      _ ≤ ((2 ^ 53 : Nat) : Rat) := Nat.cast_le.2 hn
      _ = powerOfTwo 53 := (powerOfTwo_natCast 53).symm
      _ < limit := not_le.1 fun hle => absurd (powerOfTwo_le_iff.1 hle) (by decide)
  exact round_eq_finite hmultiple hn (by decide) hlimit

theorem ofInt?_eq_some {n : Int} (hn : n.natAbs ≤ 2 ^ 53) : ofInt? n = some (.finite n) := by
  unfold ofInt?
  rw [round_intCast hn]

end Storyworld.Double
