import Mathlib.Data.List.DropRight
import FabricAudit.Proofs.Decimal.Digits
import FabricAudit.Proofs.Decimal.Rounding

set_option autoImplicit false

/-! # The shortest digits round to their number

The search for the shortest digits of a number looks at one grid of decimals after the other, each
ten times finer than the one before, and takes the first decimal that rounds to the number. With
seventeen digits there is always one (`onGrid_isSome`), because the grid is finer than the numbers
are dense. So the digits that are found denote a decimal that rounds to the number
(`shortest_has`).
-/

namespace FabricAudit.Decimal

open Binary64

/-! ## Quotients -/

theorem shifted_pos {num den : Nat} (h : 0 < den) (power : Int) :
    0 < (shifted num den power).2 := by
  rw [shifted]
  split
  · exact Nat.mul_pos h (Nat.pow_pos (by decide))
  · exact h

/-- A shifted quotient. -/
theorem shifted_eq (num den : Nat) (power : Int) :
    ((shifted num den power).1 : ℚ) / (shifted num den power).2 = num / den * 10 ^ (-power) := by
  rw [shifted]
  split
  · next h =>
      obtain ⟨k, rfl⟩ := Int.eq_ofNat_of_zero_le h
      rw [zpow_neg]
      simp [div_eq_mul_inv, mul_comm, mul_assoc]
  · next h =>
      obtain ⟨k, hk⟩ := Int.eq_ofNat_of_zero_le (show 0 ≤ -power by omega)
      rw [hk]
      simp [div_eq_mul_inv, mul_right_comm]

/-- Shifted down by a power of ten a quotient is at least one exactly if it is at least that
power. -/
theorem le_shifted_iff {num den : Nat} (h : 0 < den) (power : Int) :
    (shifted num den power).2 ≤ (shifted num den power).1 ↔ (10 : ℚ) ^ power ≤ num / den := by
  have hpos : (0 : ℚ) < (shifted num den power).2 := by exact_mod_cast shifted_pos h power
  have hten : (0 : ℚ) < 10 ^ power := by positivity
  rw [← Nat.cast_le (α := ℚ), ← one_le_div hpos, shifted_eq, zpow_neg, ← div_eq_mul_inv,
    one_le_div hten]

/-! ## The first digit -/

/-- The search for the first digit ends at a power of ten that is not too large, if there is one
among those that it may look at. -/
theorem leadingPower_le {num den : Nat} (h : 0 < den) :
    ∀ {steps : Nat} {guess : Int}, (10 : ℚ) ^ (guess - steps) ≤ num / den →
      (10 : ℚ) ^ leadingPower num den steps guess ≤ num / den := by
  intro steps
  induction steps with
  | zero =>
      intro guess hguess
      rwa [Nat.cast_zero, sub_zero] at hguess
  | succ steps ih =>
      intro guess hguess
      rw [leadingPower]
      dsimp only
      split
      · next hle => exact (le_shifted_iff h guess).mp hle
      · refine ih ?_
        rwa [show guess - 1 - (steps : Int) = guess - ((steps + 1 : Nat) : Int) by
          push_cast; ring]

/-- Three tenths are less than the logarithm of two, and twenty-eight of ninety-three parts are
more. -/
theorem ten_zpow_le_two_zpow {i j : Int} (hpos : 0 ≤ i → 10 * j ≤ 3 * i)
    (hneg : i < 0 → 93 * j ≤ 28 * i) : (10 : ℚ) ^ j ≤ 2 ^ i := by
  have hten : (0 : ℚ) ≤ 10 ^ j := by positivity
  have htwo : (0 : ℚ) ≤ 2 ^ i := by positivity
  rcases le_or_gt 0 i with hi | hi
  -- the cubes are compared, by way of `10 ^ 3 ≤ 2 ^ 10`
  · rcases le_or_gt 0 j with hj | hj
    · obtain ⟨k, rfl⟩ := Int.eq_ofNat_of_zero_le hj
      rw [← pow_le_pow_iff_left₀ hten htwo (show 3 ≠ 0 by decide)]
      calc ((10 : ℚ) ^ (k : Int)) ^ 3 = (10 ^ 3) ^ k := by rw [zpow_natCast, ← pow_mul, pow_mul']
        _ ≤ (2 ^ 10) ^ k := pow_le_pow_left₀ (by norm_num) (by norm_num) k
        _ = 2 ^ (10 * (k : Int)) := by rw [← pow_mul]; norm_cast
        _ ≤ 2 ^ (3 * i) := zpow_le_zpow_right₀ (by norm_num) (hpos hi)
        _ = (2 ^ i) ^ 3 := by rw [mul_comm, zpow_mul]; norm_cast
    · exact (zpow_le_one_of_nonpos₀ (by norm_num) hj.le).trans (one_le_zpow₀ (by norm_num) hi)
  -- below zero the reciprocals are, by way of `2 ^ 93 ≤ 10 ^ 28`
  · obtain ⟨k, hk⟩ := Int.eq_ofNat_of_zero_le (show 0 ≤ -i by omega)
    obtain rfl : i = -(k : Int) := by omega
    rw [← pow_le_pow_iff_left₀ hten htwo (show 93 ≠ 0 by decide)]
    calc ((10 : ℚ) ^ j) ^ 93 = 10 ^ (93 * j) := by rw [mul_comm, zpow_mul]; norm_cast
      _ ≤ 10 ^ (28 * -(k : Int)) := zpow_le_zpow_right₀ (by norm_num) (hneg hi)
      _ = ((10 ^ 28) ^ k)⁻¹ := by rw [mul_neg, zpow_neg, ← pow_mul]; norm_cast
      _ ≤ ((2 ^ 93) ^ k)⁻¹ :=
        inv_anti₀ (by positivity) (pow_le_pow_left₀ (by norm_num) (by norm_num) k)
      _ = (2 ^ (-(k : Int))) ^ 93 := by rw [zpow_neg, zpow_natCast, inv_pow, ← pow_mul, pow_mul']

/-! ## Decimals in an interval -/

namespace RoundingInterval

variable {i : RoundingInterval}

theorem Has.of_lt {r : ℚ} (hlower : i.lower < r) (hupper : r < i.upper) : i.Has r := by
  rw [Has]
  split
  · exact ⟨hlower.le, hupper.le⟩
  · exact ⟨hlower, hupper⟩

/-- A decimal as a quotient. -/
theorem exists_quotient (n : Nat) (power : Int) : ∃ a b : Nat, 0 < b ∧
    (if 0 ≤ power then (n * Nat.pow 10 power.toNat, 1) else (n, Nat.pow 10 (-power).toNat))
      = (a, b) ∧
    (a : ℚ) / b = n * 10 ^ power := by
  split
  · next h =>
      obtain ⟨k, rfl⟩ := Int.eq_ofNat_of_zero_le h
      exact ⟨_, _, Nat.one_pos, rfl, by simp⟩
  · next h =>
      obtain ⟨k, hk⟩ := Int.eq_ofNat_of_zero_le (show 0 ≤ -power by omega)
      obtain rfl : power = -(k : Int) := by omega
      refine ⟨_, _, Nat.pow_pos (by decide), rfl, ?_⟩
      simp [div_eq_mul_inv]

/-- **The test for decimals** is the interval. -/
theorem holds_iff (h : 0 < i.den) (n : Nat) (power : Int) :
    i.holds n power = true ↔ i.Has (n * 10 ^ power) := by
  obtain ⟨a, b, hb, hquotient, hvalue⟩ := exists_quotient n power
  have hden : (0 : ℚ) < i.den := by exact_mod_cast h
  have hb' : (0 : ℚ) < b := by exact_mod_cast hb
  rw [holds, hquotient, Has, ← hvalue, lower, upper, div_le_div_iff₀ hden hb',
    div_le_div_iff₀ hb' hden, div_lt_div_iff₀ hden hb', div_lt_div_iff₀ hb' hden]
  dsimp only
  split <;> simp only [Bool.and_eq_true, decide_eq_true_eq] <;> norm_cast

/-- What is found on a grid is in the interval. -/
theorem has_of_onGrid (h : 0 < i.den) {power : Int} {n : Nat} (hn : i.onGrid power = some n) :
    i.Has (n * 10 ^ power) := by
  rw [← holds_iff h]
  rw [onGrid] at hn
  dsimp only at hn
  split at hn
  · next hbelow habove =>
      cases hn
      split <;> assumption
  · next hbelow _ => cases hn; exact hbelow
  · next _ habove => cases hn; exact habove
  · cases hn

/-- A grid whose step is shorter than the interval on either side of its middle, taken twice, has a
decimal in the interval: the nearer one of the two around the middle. -/
theorem onGrid_isSome (h : 0 < i.den) {power : Int}
    (hlower : (10 : ℚ) ^ power < 2 * (i.middle - i.lower))
    (hupper : (10 : ℚ) ^ power < 2 * (i.upper - i.middle)) : (i.onGrid power).isSome := by
  have hstep : (0 : ℚ) < 10 ^ power := by positivity
  have hpos : 0 < (shifted i.center i.den power).2 := shifted_pos h power
  have hshifted := shifted_eq i.center i.den power
  rw [onGrid]
  dsimp only
  generalize (shifted i.center i.den power).1 = n, (shifted i.center i.den power).2 = d
    at hpos hshifted
  have hd : (0 : ℚ) < d := by exact_mod_cast hpos
  -- the middle stands between two decimals of the grid
  obtain ⟨past, hpast⟩ : ∃ past : ℚ, past = (n % d : Nat) / d * 10 ^ power := ⟨_, rfl⟩
  have hsplit : (n : ℚ) = d * (n / d : Nat) + (n % d : Nat) := by
    exact_mod_cast (Nat.div_add_mod n d).symm
  have hmiddle : i.middle = (n / d : Nat) * 10 ^ power + past := by
    rw [zpow_neg, ← div_eq_mul_inv, eq_div_iff hstep.ne', hsplit] at hshifted
    rw [middle, ← hshifted, hpast]
    field_simp
  by_cases hnear : 2 * (n % d) ≤ d
  · have hbelow : i.holds (n / d) power = true := by
      have hnear' : 2 * ((n % d : Nat) : ℚ) ≤ d := by exact_mod_cast hnear
      have hhalf : 2 * past ≤ 10 ^ power := by
        rw [hpast, ← mul_assoc, ← mul_div_assoc]
        exact mul_le_of_le_one_left hstep.le ((div_le_one hd).mpr hnear')
      have hpast' : 0 ≤ past := by rw [hpast]; positivity
      rw [holds_iff h]
      exact .of_lt (by linarith) (by linarith)
    rw [hbelow]
    cases i.holds (n / d + 1) power <;> rfl
  · have habove : i.holds (n / d + 1) power = true := by
      have hnear' : (d : ℚ) ≤ 2 * (n % d : Nat) := by exact_mod_cast (Nat.lt_of_not_le hnear).le
      have hhalf : 10 ^ power ≤ 2 * past := by
        rw [hpast, ← mul_assoc, ← mul_div_assoc]
        exact le_mul_of_one_le_left hstep.le ((one_le_div hd).mpr hnear')
      have hpast' : past < 10 ^ power := by
        rw [hpast]
        refine mul_lt_of_lt_one_left hstep ((div_lt_one hd).mpr ?_)
        exact_mod_cast Nat.mod_lt n hpos
      rw [holds_iff h, Nat.cast_add, Nat.cast_one, add_mul, one_mul]
      exact .of_lt (by linarith) (by linarith)
    rw [habove]
    cases i.holds (n / d) power <;> rfl

end RoundingInterval

/-! ## The search -/

/-- The search ends with a decimal in the interval if the last grid that it may look at has one. -/
theorem has_of_firstHit {i : RoundingInterval} (h : 0 < i.den) {lead : Int} :
    ∀ {steps count : Nat}, (i.onGrid (lead - ((count + steps : Nat) : Int) + 1)).isSome →
      i.Has ((firstHit i lead (steps + 1) count).1
        * 10 ^ (firstHit i lead (steps + 1) count).2) := by
  intro steps
  induction steps with
  | zero =>
      intro count hlast
      obtain ⟨n, hn⟩ := Option.isSome_iff_exists.mp hlast
      rw [firstHit]
      simp only [Nat.add_zero] at hn
      simp only [hn]
      exact RoundingInterval.has_of_onGrid h hn
  | succ steps ih =>
      intro count hlast
      rw [firstHit]
      split
      · next n hn => exact RoundingInterval.has_of_onGrid h hn
      · refine ih ?_
        rwa [show count + 1 + steps = count + (steps + 1) by omega]

theorem exponent_bounds (x : Binary64) : -1074 ≤ x.exponent ∧ x.exponent ≤ 971 := by
  have hfinite := x.finite
  rw [exponent_eq]
  rcases fields_at x.magnitude with ⟨h, -, he⟩ | ⟨h, -, he⟩ <;> omega

theorem log2_lt_of_lt {n k : Nat} (hk : 0 < k) (h : n < 2 ^ k) : n.log2 < k := by
  by_cases hn : n = 0
  · rwa [hn, Nat.log2_zero]
  · exact (Nat.log2_lt hn).mpr h

/-- How many binary digits the two sides of the quotient may differ by. -/
theorem log2_bounds (x : Binary64) :
    ((RoundingInterval.of x).center.log2 : Int) - (RoundingInterval.of x).den.log2 ≤ 1024 ∧
      -1076 ≤ ((RoundingInterval.of x).center.log2 : Int) - (RoundingInterval.of x).den.log2 := by
  have hexponent := exponent_bounds x
  have hsignificand : 4 * x.significand < 2 ^ 55 := by
    have hlt := significandAt_lt x.magnitude
    rw [significand_eq]
    omega
  rw [RoundingInterval.of]
  dsimp only
  -- the power of two stands on one side of the quotient, depending on its sign
  by_cases he : 2 ≤ x.exponent
  · rw [if_pos he, if_pos he]
    have hcenter : (4 * x.significand * Nat.pow 2 (x.exponent - 2).toNat).log2
        < 55 + (x.exponent - 2).toNat := by
      refine log2_lt_of_lt (by omega) ?_
      rw [pow_add]
      exact Nat.mul_lt_mul_of_pos_right hsignificand (Nat.pow_pos Nat.two_pos)
    have hone : Nat.log2 1 = 0 := rfl
    rw [hone]
    omega
  · rw [if_neg he, if_neg he]
    have hcenter := log2_lt_of_lt (by decide) hsignificand
    have hden : (Nat.pow 2 (2 - x.exponent).toNat).log2 = (2 - x.exponent).toNat :=
      Nat.log2_two_pow
    rw [hden]
    omega

/-- The guess at the power of the first digit is less than four powers too high. -/
theorem guess_le {x : Binary64} (hx : x.magnitude ≠ 0) :
    let i := RoundingInterval.of x
    let guess : Int := ((Nat.log2 i.center : Int) - Nat.log2 i.den + 1) * 30103 / 100000 + 1
    (10 : ℚ) ^ (guess - (4 : Nat)) ≤ i.center / i.den := by
  intro i guess
  have hden : i.den ≠ 0 := (RoundingInterval.den_pos x).ne'
  have hcenter : i.center ≠ 0 := by
    intro h
    have hmiddle : i.middle = valueAt x.magnitude := RoundingInterval.middle_of x
    have hpos := valueAt_strictMono (Nat.pos_of_ne_zero hx)
    rw [RoundingInterval.middle, h, Nat.cast_zero, zero_div] at hmiddle
    rw [valueAt_zero, ← hmiddle] at hpos
    exact lt_irrefl _ hpos
  obtain ⟨hhigh, hlow⟩ : (i.center.log2 : Int) - i.den.log2 ≤ 1024 ∧
      -1076 ≤ (i.center.log2 : Int) - i.den.log2 := log2_bounds x
  have hcenter' : (2 : ℚ) ^ (i.center.log2 : Int) ≤ i.center := by
    exact_mod_cast Nat.log2_self_le hcenter
  have hden' : (i.den : ℚ) ≤ 2 ^ ((i.den.log2 : Int) + 1) := by
    exact_mod_cast Nat.lt_log2_self.le
  calc (10 : ℚ) ^ (guess - (4 : Nat))
      ≤ 2 ^ ((i.center.log2 : Int) - ((i.den.log2 : Int) + 1)) :=
        ten_zpow_le_two_zpow (by omega) (by omega)
    _ = 2 ^ (i.center.log2 : Int) / 2 ^ ((i.den.log2 : Int) + 1) := zpow_sub₀ (by norm_num) _ _
    _ ≤ i.center / i.den := by
        have hden'' : (0 : ℚ) < i.den := by exact_mod_cast Nat.pos_of_ne_zero hden
        gcongr

/-- **Seventeen digits are enough**: the grid is finer than the numbers are dense. -/
theorem seventeen_isSome {x : Binary64} (hx : x.magnitude ≠ 0) {lead : Int}
    (hlead : (10 : ℚ) ^ lead ≤ valueAt x.magnitude) :
    ((RoundingInterval.of x).onGrid (lead - ((1 + 16 : Nat) : Int) + 1)).isSome := by
  obtain ⟨m, hm⟩ := Nat.exists_eq_add_one.mpr (Nat.pos_of_ne_zero hx)
  have hstep : (10 : ℚ) ^ (lead - ((1 + 16 : Nat) : Int) + 1) * 10 ^ 16 = 10 ^ lead := by
    rw [← zpow_natCast, ← zpow_add₀ (by norm_num)]
    congr 1
    push_cast
    ring
  rw [hm] at hlead
  -- on either side, half of the way to the neighbour is longer than half a step
  have hunit : ∀ k, k = m ∨ k = m + 1 →
      (10 : ℚ) ^ (lead - ((1 + 16 : Nat) : Int) + 1) < 2 ^ exponentAt k := by
    intro k hk
    have hplaces : valueAt (m + 1) ≤ 2 ^ 53 * 2 ^ exponentAt k := by
      have hlt : significandAt k + 1 ≤ 2 ^ 53 := significandAt_lt k
      have hlt' : ((significandAt k + 1 : Nat) : ℚ) ≤ 2 ^ 53 := by exact_mod_cast hlt
      have hle : valueAt (m + 1) ≤ valueAt (k + 1) := valueAt_strictMono.monotone (by omega)
      rw [valueAt_succ_eq k] at hle
      exact hle.trans (mul_le_mul_of_nonneg_right hlt' (by positivity))
    have hpos : (0 : ℚ) < 2 ^ exponentAt k := by positivity
    linarith
  have hmiddle := RoundingInterval.middle_of x
  have hlower := RoundingInterval.lower_of hm
  have hupper := RoundingInterval.upper_of x
  have hnext := valueAt_succ m
  have hnext' := valueAt_succ (m + 1)
  have hbelow := hunit m (.inl rfl)
  have habove := hunit (m + 1) (.inr rfl)
  rw [hm] at hmiddle hupper
  exact RoundingInterval.onGrid_isSome (RoundingInterval.den_pos x) (by linarith) (by linarith)

/-! ## Digits -/

/-- What the digits denote. -/
def Scientific.value (s : Scientific) : ℚ :=
  Decimal.value s.coefficient * 10 ^ (s.power + 1 - s.coefficient.length)

theorem value_append_zeros (ds : List Char) (k : Nat) :
    Decimal.value (ds ++ List.replicate k '0') = Decimal.value ds * 10 ^ k := by
  induction k with
  | zero => simp
  | succ k ih =>
      rw [List.replicate_succ', ← List.append_assoc, value_append_singleton, ih, pow_succ]
      have hzero : digitValue '0' = 0 := rfl
      rw [hzero]
      ring

/-- Zeros that are dropped at the end are made up for by a power of ten. -/
theorem exists_withoutZeros {ds : List Char} (h : ds ≠ []) : ∃ k,
    Decimal.value ds = Decimal.value (withoutZeros ds) * 10 ^ k ∧
      ds.length = (withoutZeros ds).length + k := by
  have hdropped : ds = ds.rdropWhile (· == '0')
      ++ List.replicate (ds.rtakeWhile (· == '0')).length '0' := by
    have hzeros : ds.rtakeWhile (· == '0')
        = List.replicate (ds.rtakeWhile (· == '0')).length '0' := by
      refine List.eq_replicate_of_mem fun c hc => ?_
      have hzero : (c == '0') = true := List.mem_rtakeWhile_imp (p := (· == '0')) hc
      exact beq_iff_eq.mp hzero
    rw [← hzeros, List.rdropWhile_append_rtakeWhile]
  have hkept : withoutZeros ds
      = if ds.rdropWhile (· == '0') = [] then ['0'] else ds.rdropWhile (· == '0') := by
    rw [withoutZeros, List.rdropWhile]
    cases (ds.reverse.dropWhile (· == '0')).reverse <;> rfl
  generalize (ds.rtakeWhile (· == '0')).length = k at hdropped
  rw [hkept]
  split
  · next hnone =>
      -- nothing but zeros
      rw [hnone, List.nil_append] at hdropped
      obtain ⟨k, rfl⟩ : ∃ n, k = n + 1 := by
        refine Nat.exists_eq_add_one.mpr (Nat.pos_of_ne_zero ?_)
        rintro rfl
        exact h hdropped
      refine ⟨k, ?_, ?_⟩
      · rw [hdropped, ← List.append_nil (List.replicate (k + 1) '0'), value_replicate_append]
        simp [value, digitValue]
      · rw [hdropped, List.length_replicate, List.length_singleton, Nat.add_comm]
  · refine ⟨k, ?_, ?_⟩
    · conv_lhs => rw [hdropped, value_append_zeros]
    · conv_lhs => rw [hdropped, List.length_append, List.length_replicate]

/-- **The shortest digits of a number** denote a decimal that rounds to it. -/
theorem shortest_has {x : Binary64} (hx : x.magnitude ≠ 0) :
    (RoundingInterval.of x).Has (shortest x).value := by
  have hden := RoundingInterval.den_pos x
  have hzero : x.isZero = false := by simpa [Binary64.isZero] using hx
  have hlead := leadingPower_le hden (guess_le hx)
  have hmiddle : ((RoundingInterval.of x).center : ℚ) / (RoundingInterval.of x).den
      = valueAt x.magnitude := RoundingInterval.middle_of x
  rw [hmiddle] at hlead
  have hhas := has_of_firstHit hden (seventeen_isSome hx hlead)
  rw [shortest, hzero, if_neg (by decide)]
  dsimp only
  -- the digits are those of a hit, and the zeros at their end go into the power
  generalize firstHit _ _ 17 1 = hit at hhas ⊢
  obtain ⟨n, power⟩ := hit
  obtain ⟨k, hvalue, hlength⟩ := exists_withoutZeros (isNumeral_digits n).nonempty
  rw [(isNumeral_digits n).value_eq] at hvalue
  have hexponent : power + (digits n).length - 1 + 1 - ((withoutZeros (digits n)).length : Int)
      = k + power := by
    rw [hlength]
    push_cast
    ring
  rw [Scientific.value]
  dsimp only
  rw [hexponent, zpow_add₀ (by norm_num), zpow_natCast, ← mul_assoc]
  dsimp only at hhas
  rw [hvalue] at hhas
  exact_mod_cast hhas

end FabricAudit.Decimal
