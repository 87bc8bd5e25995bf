import FabricAudit.Decimal.Digits
import FabricAudit.Word
import Mathlib.Algebra.Order.Ring.Nat
import Mathlib.Tactic.ByContra

set_option autoImplicit false

/-! # Words and numerals

A word holds the integers of so many bits. A run of digits is a numeral of the number that it
denotes. The numerals that are written, with or without zeros in front, are numerals of the number
that they were written for, and they have as many digits as they should. Where a numeral ends, a run
of digits ends: what follows it is no digit.
-/

namespace FabricAudit

/-! ## Words -/

/-- A word without a sign holds the integers from zero on that have no more bits. -/
theorem Word.holds_unsigned_iff {bits : Nat} {n : Int} :
    (unsigned bits).holds n = true ↔ 0 ≤ n ∧ n < 2 ^ bits := by
  have hlimit : ((Nat.pow 2 bits : Nat) : Int) = 2 ^ bits := Int.natCast_pow 2 bits
  simp only [holds, unsigned, hlimit, Bool.and_eq_true, decide_eq_true_eq]

/-- With a sign, one bit is gone on either side of zero. -/
theorem Word.holds_signed_iff {bits : Nat} {n : Int} :
    (signed bits).holds n = true ↔ -2 ^ (bits - 1) ≤ n ∧ n < 2 ^ (bits - 1) := by
  have hlimit : ((Nat.pow 2 (bits - 1) : Nat) : Int) = 2 ^ (bits - 1) := Int.natCast_pow 2 (bits - 1)
  simp only [holds, signed, hlimit, Bool.and_eq_true, decide_eq_true_eq]

namespace Decimal

/-! ## Single digits -/

theorem isDigit_digitChar {d : Nat} (h : d < 10) : isDigit (digitChar d) = true := by
  revert d
  decide

theorem digitValue_digitChar {d : Nat} (h : d < 10) : digitValue (digitChar d) = d := by
  revert d
  decide

/-- The digits are the characters from 48 to 57. -/
theorem isDigit_iff {c : Char} : isDigit c = true ↔ 48 ≤ c.toNat ∧ c.toNat ≤ 57 := by
  simp only [isDigit, Bool.and_eq_true, decide_eq_true_eq]
  exact Iff.rfl

theorem isDigit_iff_between {c : Char} : isDigit c = true ↔ '0' ≤ c ∧ c ≤ '9' := by
  rw [isDigit, Bool.and_eq_true, decide_eq_true_iff, decide_eq_true_iff]

/-- Only the digit for zero is a zero. -/
theorem digitChar_eq_zero_iff {d : Nat} (h : d < 10) : digitChar d = '0' ↔ d = 0 := by
  revert d
  decide

/-! ## Values -/

theorem value_append_singleton (ds : List Char) (c : Char) :
    value (ds ++ [c]) = 10 * value ds + digitValue c := by
  simp [value]

/-- More digits never make a number smaller. -/
theorem le_foldl (ds : List Char) (n : Nat) :
    n ≤ ds.foldl (fun n c => 10 * n + digitValue c) n := by
  induction ds generalizing n with
  | nil => exact Nat.le_refl n
  | cons d ds ih =>
      have hstep : n ≤ 10 * n + digitValue d := by omega
      exact hstep.trans (ih _)

/-- Zeros in front do not count. -/
theorem value_replicate_append (k : Nat) (ds : List Char) :
    value (List.replicate k '0' ++ ds) = value ds := by
  have hzeros : (List.replicate k '0').foldl (fun n c => 10 * n + digitValue c) 0 = 0 := by
    induction k with
    | zero => rfl
    | succ k ih => rw [List.replicate_succ, List.foldl_cons]; exact ih
  rw [value, List.foldl_append, hzeros]
  rfl

/-! ## Numerals -/

/-- A run of digits, not empty, that denotes a number. -/
structure IsNumeral (ds : List Char) (n : Nat) : Prop where
  nonempty : ds ≠ []
  digits : ∀ c ∈ ds, isDigit c = true
  value_eq : value ds = n

/-- The numeral of a number, digit by digit from its end. -/
theorem digits_induction {motive : Nat → List Char → Prop}
    (short : ∀ n, n < 10 → motive n [digitChar n])
    (long : ∀ n, 10 ≤ n → motive (n / 10) (digits (n / 10)) →
      motive n (digits (n / 10) ++ [digitChar (n % 10)])) (n : Nat) : motive n (digits n) := by
  rw [digits]
  by_cases hn : n < 10
  · rw [if_pos hn]
    exact short n hn
  · rw [if_neg hn]
    exact long n (by omega) (digits_induction short long (n / 10))
termination_by n
decreasing_by omega

/-- **The decimal numeral of a number is a numeral of it.** -/
theorem isNumeral_digits (n : Nat) : IsNumeral (digits n) n := by
  refine digits_induction (motive := fun n ds => IsNumeral ds n) ?_ ?_ n
  · intro n hn
    refine ⟨by simp, ?_, ?_⟩
    · intro c hc
      rw [List.mem_singleton.mp hc]
      exact isDigit_digitChar hn
    · simpa [value] using digitValue_digitChar hn
  · intro n _ ih
    have hlast : n % 10 < 10 := Nat.mod_lt n (by omega)
    refine ⟨by simp, ?_, ?_⟩
    · intro c hc
      rcases List.mem_append.mp hc with hc | hc
      · exact ih.digits c hc
      · rw [List.mem_singleton.mp hc]
        exact isDigit_digitChar hlast
    · rw [value_append_singleton, ih.value_eq, digitValue_digitChar hlast]
      omega

/-- A number below a power of ten has no more digits than that. -/
theorem length_digits_le {n : Nat} : ∀ {width : Nat}, 0 < width → n < 10 ^ width →
    (digits n).length ≤ width := by
  refine digits_induction (motive := fun n ds => ∀ {width : Nat}, 0 < width → n < 10 ^ width →
    ds.length ≤ width) ?_ ?_ n
  · intro n _ width hwidth _
    exact hwidth
  · intro n hn ih width _ hlt
    cases width with
    | zero => omega
    | succ width =>
        have hwidth : 0 < width := by
          by_contra h
          obtain rfl : width = 0 := by omega
          omega
        have hdiv : n / 10 < 10 ^ width := by
          rw [pow_succ] at hlt
          omega
        have hle := ih hwidth hdiv
        simp only [List.length_append, List.length_singleton]
        omega

/-- Only zero has a numeral that begins with a zero, and it is nothing but that. -/
theorem digits_head {n : Nat} : ∀ {rest : List Char}, digits n = '0' :: rest → rest = [] := by
  have hboth : digits n = '0' :: (digits n).tail → n = 0 := by
    refine digits_induction (motive := fun n ds => ds = '0' :: ds.tail → n = 0) ?_ ?_ n
    · intro n hn h
      exact (digitChar_eq_zero_iff hn).mp (List.cons.inj h).1
    · intro n hn ih h
      obtain ⟨c, ds, hds⟩ := List.exists_cons_of_ne_nil (isNumeral_digits (n / 10)).nonempty
      rw [hds] at ih h
      have hc : c = '0' := (List.cons.inj h).1
      have hzero : n / 10 = 0 := ih (by rw [hc]; rfl)
      omega
  intro rest h
  have hn : n = 0 := hboth (by rw [h]; rfl)
  rw [hn, digits] at h
  exact (List.cons.inj h).2.symm

/-- An integer part: digits, of which the first is a zero only if there are no others. -/
structure IsWhole (ds : List Char) : Prop where
  nonempty : ds ≠ []
  digits : ∀ c ∈ ds, isDigit c = true
  unpadded : ∀ {rest}, ds = '0' :: rest → rest = []

theorem isWhole_digits (n : Nat) : IsWhole (digits n) :=
  ⟨(isNumeral_digits n).nonempty, (isNumeral_digits n).digits, digits_head⟩

theorem isWhole_zero : IsWhole ['0'] :=
  ⟨by simp, List.forall_mem_singleton.mpr rfl, by simp⟩

theorem toList_padded (width n : Nat) : (padded width n).toList
    = List.replicate (width - (digits n).length) '0' ++ digits n :=
  String.toList_ofList

/-- A padded numeral is a numeral of its number. -/
theorem isNumeral_padded (width n : Nat) : IsNumeral (padded width n).toList n := by
  have hdigits := isNumeral_digits n
  rw [toList_padded]
  refine ⟨by simp [hdigits.nonempty], ?_, ?_⟩
  · intro c hc
    rcases List.mem_append.mp hc with hc | hc
    · rw [List.eq_of_mem_replicate hc]
      decide
    · exact hdigits.digits c hc
  · rw [value_replicate_append, hdigits.value_eq]

/-- It has the wanted width, if the number fits. -/
theorem length_padded {width n : Nat} (hwidth : 0 < width) (hn : n < 10 ^ width) :
    (padded width n).toList.length = width := by
  have hle := length_digits_le hwidth hn
  rw [toList_padded]
  simp only [List.length_append, List.length_replicate]
  omega

/-- The written form of a natural number, as characters. -/
theorem toList_ofNat (n : Nat) : (ofNat n).toList = digits n := String.toList_ofList

/-! ## Where a run of digits ends -/

/-- What follows does not begin with a digit. -/
def NoDigit (rest : List Char) : Prop := ∀ c ∈ rest.head?, isDigit c = false

theorem takeWhile_append {ds rest : List Char} (h : ∀ c ∈ ds, isDigit c = true)
    (hrest : NoDigit rest) : (ds ++ rest).takeWhile isDigit = ds := by
  rw [List.takeWhile_append_of_pos h]
  cases rest with
  | nil => simp
  | cons c rest => simp [hrest c rfl]

theorem dropWhile_append {ds rest : List Char} (h : ∀ c ∈ ds, isDigit c = true)
    (hrest : NoDigit rest) : (ds ++ rest).dropWhile isDigit = rest := by
  rw [List.dropWhile_append_of_pos h]
  cases rest with
  | nil => rfl
  | cons c rest => simp [hrest c rfl]

end Decimal

end FabricAudit
