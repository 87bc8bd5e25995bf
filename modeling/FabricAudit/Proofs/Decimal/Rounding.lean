import FabricAudit.Decimal.Shortest
import Mathlib.Tactic

set_option autoImplicit false

/-! # Values and rounding intervals

The value of a number grows with its magnitude, from one magnitude to the next by the power of two
that is its exponent (`Binary64.valueAt_succ`). The reals that round to a number lie between the
points halfway to its neighbours (`RoundingInterval.lower_of`, `RoundingInterval.upper_of`), and
such a point belongs to the one of its two numbers that is even. So no real rounds to two numbers
(`RoundingInterval.magnitude_eq_of_has`).
-/

namespace FabricAudit

/-! ## Values -/

namespace Binary64

def significandAt (m : Nat) : Nat := if m < leastNormal then m else leastNormal + m % leastNormal

def exponentAt (m : Nat) : Int :=
  if m < leastNormal then -1074 else (m / leastNormal : Nat) - 1075

/-- The absolute value that belongs to a magnitude. -/
def valueAt (m : Nat) : ℚ := significandAt m * 2 ^ exponentAt m

theorem significand_eq (x : Binary64) : x.significand = significandAt x.magnitude := rfl

theorem exponent_eq (x : Binary64) : x.exponent = exponentAt x.magnitude := rfl

/-- A magnitude is that of a subnormal number, or has an exponent of its own and the hidden bit. -/
theorem fields_at (m : Nat) :
    (m < 2 ^ 52 ∧ significandAt m = m ∧ exponentAt m = -1074) ∨
      (2 ^ 52 ≤ m ∧ significandAt m = 2 ^ 52 + m % 2 ^ 52 ∧
        exponentAt m = (m / 2 ^ 52 : Nat) - 1075) := by
  rw [significandAt, exponentAt]
  by_cases h : m < leastNormal
  · rw [if_pos h, if_pos h]
    exact .inl ⟨h, rfl, rfl⟩
  · rw [if_neg h, if_neg h]
    exact .inr ⟨Nat.le_of_not_lt h, rfl, rfl⟩

/-- What comes next: a larger significand, or half of one with the next exponent. -/
theorem fields_succ (m : Nat) :
    (significandAt (m + 1) = significandAt m + 1 ∧ exponentAt (m + 1) = exponentAt m) ∨
      (significandAt (m + 1) = 2 ^ 52 ∧ significandAt m + 1 = 2 ^ 53 ∧
        exponentAt (m + 1) = exponentAt m + 1) := by
  rcases fields_at m with ⟨h, hs, he⟩ | ⟨h, hs, he⟩ <;>
    rcases fields_at (m + 1) with ⟨h', hs', he'⟩ | ⟨h', hs', he'⟩ <;>
    omega

/-- **The next value.** -/
theorem valueAt_succ (m : Nat) : valueAt (m + 1) = valueAt m + 2 ^ exponentAt m := by
  rcases fields_succ m with ⟨hsignificand, hexponent⟩ | ⟨hnext, hlast, hexponent⟩
  · rw [valueAt, valueAt, hsignificand, hexponent]
    push_cast
    ring
  · have hdouble : (2 : ℚ) * significandAt (m + 1) = significandAt m + 1 := by
      rw [hnext]
      exact_mod_cast hlast.symm
    rw [valueAt, valueAt, hexponent, zpow_add_one₀ (by norm_num)]
    linear_combination 2 ^ exponentAt m * hdouble

/-- The next value is the significand and one more, in units of the last place. -/
theorem valueAt_succ_eq (m : Nat) :
    valueAt (m + 1) = (significandAt m + 1 : Nat) * 2 ^ exponentAt m := by
  rw [valueAt_succ, valueAt]
  push_cast
  ring

theorem valueAt_strictMono : StrictMono valueAt := by
  refine strictMono_nat_of_lt_succ fun m => ?_
  rw [valueAt_succ]
  exact lt_add_of_pos_right _ (by positivity)

@[simp] theorem valueAt_zero : valueAt 0 = 0 := by
  simp [valueAt, significandAt, leastNormal]

theorem significandAt_lt (m : Nat) : significandAt m < 2 ^ 53 := by
  rcases fields_at m with ⟨h, hs, -⟩ | ⟨h, hs, -⟩ <;> omega

/-- Neighbours have significands of different parity. -/
theorem significandAt_mod_two (m : Nat) : significandAt m % 2 = m % 2 := by
  rcases fields_at m with ⟨h, hs, -⟩ | ⟨h, hs, -⟩ <;> omega

end Binary64

/-! ## Intervals -/

namespace Decimal.RoundingInterval

open Binary64

def lower (i : RoundingInterval) : ℚ := i.low / i.den

def middle (i : RoundingInterval) : ℚ := i.center / i.den

def upper (i : RoundingInterval) : ℚ := i.high / i.den

/-- The reals of the interval; its ends are among them if it is closed. -/
def Has (i : RoundingInterval) (r : ℚ) : Prop :=
  if i.closed then i.lower ≤ r ∧ r ≤ i.upper else i.lower < r ∧ r < i.upper

theorem den_pos (x : Binary64) : 0 < (RoundingInterval.of x).den := by
  rw [RoundingInterval.of]
  dsimp only
  split
  · exact Nat.one_pos
  · exact Nat.pow_pos Nat.two_pos

/-- Every bound is a number of quarters of the last place. -/
theorem quarters_div_den {e : Int} (n : Nat) :
    ((if 2 ≤ e then n * Nat.pow 2 (e - 2).toNat else n : Nat) : ℚ)
        / (if 2 ≤ e then 1 else Nat.pow 2 (2 - e).toNat : Nat) = n * 2 ^ (e - 2) := by
  by_cases he : 2 ≤ e
  · obtain ⟨k, hk⟩ := Int.eq_ofNat_of_zero_le (show 0 ≤ e - 2 by omega)
    rw [if_pos he, if_pos he, hk]
    simp
  · obtain ⟨k, hk⟩ := Int.eq_ofNat_of_zero_le (show 0 ≤ 2 - e by omega)
    have hneg : e - 2 = -(k : Int) := by omega
    rw [if_neg he, if_neg he, hneg, hk, zpow_neg]
    simp [div_eq_mul_inv]

theorem middle_of (x : Binary64) : (RoundingInterval.of x).middle = valueAt x.magnitude := by
  have hquarters : (RoundingInterval.of x).middle
      = (4 * x.significand : Nat) * 2 ^ (x.exponent - 2) := quarters_div_den _
  rw [hquarters, valueAt, ← significand_eq, ← exponent_eq, zpow_sub₀ (by norm_num)]
  push_cast
  ring

/-- **The upper end** is halfway to the next number. -/
theorem upper_of (x : Binary64) : (RoundingInterval.of x).upper
    = (valueAt x.magnitude + valueAt (x.magnitude + 1)) / 2 := by
  have hquarters : (RoundingInterval.of x).upper
      = (4 * x.significand + 2 : Nat) * 2 ^ (x.exponent - 2) := quarters_div_den _
  rw [hquarters, valueAt_succ, valueAt, ← significand_eq, ← exponent_eq, zpow_sub₀ (by norm_num)]
  push_cast
  ring

/-- The numbers below are twice as dense exactly where the exponent has just grown. -/
theorem narrow_iff {m : Nat} :
    significandAt (m + 1) = leastNormal ∧ 2 * leastNormal ≤ m + 1 ↔
      exponentAt (m + 1) = exponentAt m + 1 := by
  rw [show leastNormal = 2 ^ 52 from rfl]
  rcases fields_at m with ⟨h, hs, he⟩ | ⟨h, hs, he⟩ <;>
    rcases fields_at (m + 1) with ⟨h', hs', he'⟩ | ⟨h', hs', he'⟩ <;>
    omega

/-- **The lower end** is halfway to the number before. -/
theorem lower_of {x : Binary64} {m : Nat} (hm : x.magnitude = m + 1) :
    (RoundingInterval.of x).lower = (valueAt m + valueAt (m + 1)) / 2 := by
  have hquarters : (RoundingInterval.of x).lower
      = ((if x.significand = leastNormal ∧ 2 * leastNormal ≤ x.magnitude
          then 4 * x.significand - 1 else 4 * x.significand - 2 : Nat) : ℚ)
        * 2 ^ (x.exponent - 2) := quarters_div_den _
  have hprevious : valueAt m = valueAt (m + 1) - 2 ^ exponentAt m := by
    rw [valueAt_succ]
    ring
  rw [hquarters, significand_eq, exponent_eq, hm, hprevious, valueAt]
  rcases fields_succ m with ⟨hsignificand, hexponent⟩ | ⟨hnext, hlast, hexponent⟩
  · have hsub : 4 * significandAt (m + 1) - 2 = 4 * significandAt m + 2 := by omega
    rw [if_neg (narrow_iff.not.mpr (by omega)), hsub, hexponent, hsignificand,
      zpow_sub₀ (by norm_num)]
    push_cast
    ring
  · rw [if_pos (narrow_iff.mpr hexponent), hnext, hexponent, zpow_sub₀ (by norm_num),
      zpow_add_one₀ (by norm_num)]
    norm_num
    ring

theorem closed_of (x : Binary64) : (RoundingInterval.of x).closed = (x.magnitude % 2 == 0) := by
  rw [← significandAt_mod_two, ← significand_eq]
  rfl

theorem Has.lower_le {i : RoundingInterval} {r : ℚ} (h : i.Has r) : i.lower ≤ r := by
  rw [Has] at h
  split at h
  · exact h.1
  · exact h.1.le

theorem Has.le_upper {i : RoundingInterval} {r : ℚ} (h : i.Has r) : r ≤ i.upper := by
  rw [Has] at h
  split at h
  · exact h.2
  · exact h.2.le

/-- An end is in the interval only if the interval is closed. -/
theorem Has.closed {i : RoundingInterval} {r : ℚ} (h : i.Has r) (hend : r = i.lower ∨ r = i.upper) :
    i.closed = true := by
  by_contra hopen
  rw [Has, if_neg hopen] at h
  rcases hend with rfl | rfl
  · exact lt_irrefl _ h.1
  · exact lt_irrefl _ h.2

theorem magnitude_le_of_has {x y : Binary64} {r : ℚ} (hx : (RoundingInterval.of x).Has r)
    (hy : (RoundingInterval.of y).Has r) : y.magnitude ≤ x.magnitude := by
  by_contra hlt
  obtain ⟨m, hm⟩ := Nat.exists_eq_add_one.mpr (show 0 < y.magnitude by omega)
  have hle : valueAt x.magnitude ≤ valueAt m := valueAt_strictMono.monotone (by omega)
  have hle' : valueAt (x.magnitude + 1) ≤ valueAt (m + 1) :=
    valueAt_strictMono.monotone (by omega)
  have hupper := hx.le_upper
  have hlower := hy.lower_le
  have hxends := upper_of x
  have hyends := lower_of hm
  -- the intervals touch, so the numbers are neighbours and both of them even
  have hsame : valueAt x.magnitude = valueAt m := by linarith
  have hmagnitude : x.magnitude = m := valueAt_strictMono.injective hsame
  have hxclosed := hx.closed (.inr (by linarith))
  have hyclosed := hy.closed (.inl (by linarith))
  rw [closed_of, beq_iff_eq] at hxclosed hyclosed
  omega

/-- **No real rounds to two numbers.** -/
theorem magnitude_eq_of_has {x y : Binary64} {r : ℚ} (hx : (RoundingInterval.of x).Has r)
    (hy : (RoundingInterval.of y).Has r) : x.magnitude = y.magnitude :=
  Nat.le_antisymm (magnitude_le_of_has hy hx) (magnitude_le_of_has hx hy)

end Decimal.RoundingInterval

end FabricAudit
