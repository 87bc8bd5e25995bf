import FabricAudit.Proofs.Decimal.Layout
import FabricAudit.Proofs.Document.Scalars

set_option autoImplicit false

/-! # Numbers taken to their end

Wherever a value may end after it, the text of a number is taken to its last character: the integer
part, the digits behind the point and the exponent, one after the other. What the number reads as
does not depend on what follows it (`exists_readNumber_text`).
-/

namespace FabricAudit.Draft

open Decimal

/-! ## Exponents -/

/-- Digits have no sign. -/
theorem readSign_digits {ds : List Char} {n : Nat} (h : IsNumeral ds n) (rest : List Char) :
    readSign (ds ++ rest) = (false, ds ++ rest) := by
  obtain ⟨c, cs, rfl⟩ := List.exists_cons_of_ne_nil h.nonempty
  have hc : isDigit c = true := h.digits c List.mem_cons_self
  rw [List.cons_append, readSign.eq_3]
  · rintro tail heq
    rw [(List.cons.inj heq).1] at hc
    cases hc
  · rintro tail heq
    rw [(List.cons.inj heq).1] at hc
    cases hc

/-- An exponent is its sign and the number of its digits. -/
theorem readExponent_numeral {negative : Bool} {n : Nat} {cs ds rest : List Char}
    (hsign : readSign cs = (negative, ds ++ rest)) (h : IsNumeral ds n) (hrest : NoDigit rest) :
    readExponent cs = .ok (if negative then -n else n, rest) := by
  have hnonempty : ds.isEmpty = false := by
    simpa [List.isEmpty_eq_false_iff] using h.nonempty
  rw [readExponent, hsign]
  simp only []
  rw [takeWhile_append h.digits hrest, dropWhile_append h.digits hrest, hnonempty, h.value_eq]
  rfl

/-- **A written exponent is read back**, with or without a plus sign. -/
theorem readExponent?_written {plus : String} (hplus : plus = "" ∨ plus = "+") (n : Int)
    {rest : List Char} (hrest : Delimited rest) :
    readExponent? ('e' :: ((if 0 ≤ n then plus else "").toList ++ (ofInt n).toList) ++ rest)
      = .ok (some n, rest) := by
  have hread : readExponent ((if 0 ≤ n then plus else "").toList ++ (ofInt n).toList ++ rest)
      = .ok (n, rest) := by
    -- only a number that is not negative may have a plus sign
    cases n with
    | ofNat n =>
        have hnumeral := isNumeral_digits n
        have hnonneg : (0 : Int) ≤ Int.ofNat n := Int.natCast_nonneg n
        rw [if_pos hnonneg, ofInt, toList_ofNat, List.append_assoc]
        have hsign : readSign (plus.toList ++ (digits n ++ rest)) = (false, digits n ++ rest) := by
          rcases hplus with rfl | rfl
          · exact readSign_digits hnumeral rest
          · rfl
        exact readExponent_numeral hsign hnumeral hrest.noDigit
    | negSucc n =>
        have hchars : (ofInt (.negSucc n)).toList = '-' :: digits (n + 1) := by
          rw [← toList_ofNat]
          exact String.toList_append
        rw [if_neg (by omega), hchars]
        have hsign : readSign ('-' :: (digits (n + 1) ++ rest)) = (true, digits (n + 1) ++ rest) :=
          rfl
        exact readExponent_numeral hsign (isNumeral_digits (n + 1)) hrest.noDigit
  rw [List.cons_append, readExponent?.eq_1, hread]
  rfl

/-! ## Numbers -/

/-- What a number reads as that has the given digits and perhaps an exponent. -/
def numberOf (negative : Bool) (whole fraction : List Char) (power : Option Int) : Draft :=
  if fraction = [] ∧ power = none then integerOf negative whole
  else floatWith negative whole fraction (power.getD 0)

/-- **A number is taken part by part**, if an exponent is read from what stands behind its digits. -/
theorem readNumber_pointed {whole fraction after rest : List Char} {power : Option Int}
    (hwhole : IsWhole whole) (hfraction : AllDigits fraction)
    (hafter : ∀ c ∈ after.head?, isDigit c = false ∧ c ≠ '.')
    (hread : readExponent? after = .ok (power, rest)) (negative : Bool) :
    readNumber negative (pointed whole fraction ++ after)
      = .ok (numberOf negative whole fraction power, rest) := by
  have hnodigit : NoDigit after := fun c hc => (hafter c hc).1
  -- without a fraction there is no point, and none follows the whole part
  by_cases hnone : fraction = []
  · have hpoint : ∀ tail, after = '.' :: tail → False := by
      rintro tail rfl
      exact (hafter '.' rfl).2 rfl
    rw [hnone, pointed, if_pos rfl, List.append_nil, readNumber_whole hwhole hnodigit,
      readFraction.eq_2 _ _ _ hpoint, hread]
    cases power with
    | none => rfl
    | some power => rfl
  · have hnonempty : fraction.isEmpty = false := by
      simpa [List.isEmpty_eq_false_iff] using hnone
    have hbehind : NoDigit ('.' :: (fraction ++ after)) := by
      intro c hc
      cases hc
      rfl
    rw [pointed_of_ne_nil hnone, List.append_assoc, List.cons_append,
      readNumber_whole hwhole hbehind, readFraction.eq_1, takeWhile_append hfraction hnodigit,
      dropWhile_append hfraction hnodigit, hnonempty, if_neg Bool.false_ne_true, hread, numberOf,
      if_neg (fun h => hnone h.1)]
    rfl

/-- **The text of a float is taken to its end**: behind its sign, a digit and what follows it read
as a number, whatever stands behind them. -/
theorem exists_readNumber_text {l : Layout} (hplus : l.plus = "" ∨ l.plus = "+") (x : Binary64) :
    ∃ c cs y, isDigit c = true ∧
      (l.text x).toList = (if x.negative then ['-'] else []) ++ c :: cs ∧
      ∀ rest, Delimited rest → readNumber x.negative (c :: (cs ++ rest)) = .ok (y, rest) := by
  obtain ⟨whole, fraction, tail, htext, hspells, htail⟩ := exists_text hplus x
  obtain ⟨c, ds, hcons⟩ := List.exists_cons_of_ne_nil hspells.isWhole.nonempty
  have hc : isDigit c = true := hspells.isWhole.digits c (by simp [hcons])
  obtain ⟨power, hread⟩ : ∃ power, ∀ rest, Delimited rest →
      readExponent? (tail ++ rest) = .ok (power, rest) := by
    rcases htail with ⟨rfl, -⟩ | rfl
    · exact ⟨none, fun _ hrest => readExponent?_delimited hrest⟩
    · exact ⟨some _, fun _ hrest => readExponent?_written hplus _ hrest⟩
  have hafter : ∀ rest, Delimited rest →
      ∀ c ∈ (tail ++ rest).head?, isDigit c = false ∧ c ≠ '.' := by
    intro rest hrest c hc
    rcases htail with ⟨rfl, -⟩ | rfl
    · cases rest with
      | nil => cases hc
      | cons d rest =>
          cases hc
          exact ⟨hrest.head.1, hrest.head.2.1⟩
    · cases hc
      decide
  -- the reader has looked at the first digit already, so it stands by itself
  have hchars : pointed whole fraction ++ tail
      = c :: (ds ++ (if fraction = [] then [] else '.' :: fraction) ++ tail) := by
    rw [pointed, hcons]
    simp
  refine ⟨c, _, numberOf x.negative whole fraction power, hc, by rw [htext, hchars], ?_⟩
  intro rest hrest
  rw [← List.cons_append, ← hchars, List.append_assoc]
  exact readNumber_pointed hspells.isWhole hspells.digitsBehind (hafter rest hrest)
    (hread rest hrest) x.negative

end FabricAudit.Draft
