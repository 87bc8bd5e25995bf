import FabricAudit.Document.Draft
import FabricAudit.Document.Written
import FabricAudit.Proofs.Decimal.Digits
import FabricAudit.Proofs.Document.Refusal

set_option autoImplicit false

/-! # Texts and integers read back

What stands between quotation marks reads as the text that was written there, character by
character: every escape that is written is one that is read. A decimal numeral reads as its integer,
as long as this fits 64 bits and the numeral ends where it ends.
-/

namespace FabricAudit.Draft

open Decimal

/-! ## Quotation marks -/

/-- The four hexadecimal digits of a control character read as its number. -/
theorem hexEscape_control {n : Nat} (h : n < 32) (rest : List Char) :
    hexEscape (hexDigits 4 n ++ rest) = .ok (n, rest) := by
  have hdigits : ∀ n < 32, inBase? 16 (hexDigits 4 n) = some n := by decide
  have hread := hdigits n h
  simp only [hexDigits, List.nil_append, List.cons_append, hexEscape] at hread ⊢
  rw [hread]

theorem unicodeEscape_control {n : Nat} (h : n < 32) (rest : List Char) :
    unicodeEscape (hexDigits 4 n ++ rest) = .ok (Char.ofNat n, rest) := by
  rw [unicodeEscape, hexEscape_control h, Except.ok_bind]
  simp only []
  rw [if_neg (by omega), if_pos (by omega)]

/-- **One character reads as it was written**, escaped or not. -/
theorem readText_escapeChar (fuel : Nat) (c : Char) (rest : List Char) :
    readText (fuel + 1) (Document.escapeChar c ++ rest)
      = (readText fuel rest).map fun (s, rest) => (c :: s, rest) := by
  unfold Document.escapeChar
  split
  -- seven characters have an escape of one letter
  · rfl
  · rfl
  · rfl
  · rfl
  · rfl
  · rfl
  · rfl
  · rename_i hquote hbackslash _ _ _ _ _
    -- other control characters are written by number, and all others as they are
    by_cases hcontrol : c.toNat < 32
    · rw [if_pos hcontrol]
      show (unicodeEscape (hexDigits 4 c.toNat ++ rest) >>= _) = _
      rw [unicodeEscape_control hcontrol, Except.ok_bind, Char.ofNat_toNat]
      simp only []
      cases readText fuel rest <;> rfl
    · have hplain : readText (fuel + 1) (c :: rest)
          = readText fuel rest >>= fun read => .ok (c :: read.1, read.2) := by
        rw [readText.eq_def]
        split <;> simp_all
      rw [if_neg hcontrol, List.singleton_append, hplain]
      cases readText fuel rest <;> rfl

/-- Every character is written with at least one. -/
theorem length_le_escaped (cs : List Char) : cs.length ≤ (cs.flatMap Document.escapeChar).length := by
  induction cs with
  | nil => simp
  | cons c cs ih =>
      have hc : 1 ≤ (Document.escapeChar c).length := by
        unfold Document.escapeChar
        split <;> try split
        all_goals simp
      rw [List.flatMap_cons, List.length_append, List.length_cons]
      omega

/-- **What is written between quotation marks is read back.** -/
theorem readText_escaped (cs rest : List Char) {fuel : Nat} (h : cs.length < fuel) :
    readText fuel (cs.flatMap Document.escapeChar ++ '"' :: rest) = .ok (cs, rest) := by
  induction cs generalizing fuel with
  | nil =>
      obtain ⟨fuel, rfl⟩ := Nat.exists_eq_add_one.mpr (Nat.zero_lt_of_lt h)
      rfl
  | cons c cs ih =>
      obtain ⟨fuel, rfl⟩ := Nat.exists_eq_add_one.mpr (Nat.zero_lt_of_lt h)
      have hfuel : cs.length < fuel := by simpa using h
      rw [List.flatMap_cons, List.append_assoc, readText_escapeChar, ih hfuel]
      rfl

/-- So is a text with its quotation marks, by readers that have as much fuel as there are
characters. -/
theorem readText_quoted (s : String) (rest : List Char) :
    ∃ cs, Document.quoted s ++ rest = '"' :: cs ∧
      readText (cs.length + 1) cs = .ok (s.toList, rest) := by
  refine ⟨s.toList.flatMap Document.escapeChar ++ '"' :: rest, by simp [Document.quoted], ?_⟩
  refine readText_escaped _ _ ?_
  have hle := length_le_escaped s.toList
  simp only [List.length_append, List.length_cons]
  omega

/-! ## Integers -/

/-- The digits of a number that fits 64 bits are all gathered. -/
theorem gather_eq (ds : List Char) : ∀ coefficient : Nat,
    ds.foldl (fun n c => 10 * n + digitValue c) coefficient < 2 ^ 64 →
    gather coefficient ds
      = ⟨ds.foldl (fun n c => 10 * n + digitValue c) coefficient, ds.length, 0⟩ := by
  induction ds with
  | nil =>
      intro coefficient _
      rfl
  | cons d ds ih =>
      intro coefficient hfits
      rw [List.foldl_cons] at hfits
      -- the coefficient only grows, so it fits if the last one does
      have hnext := le_foldl ds (10 * coefficient + digitValue d)
      have hholds : (Word.unsigned 64).holds (10 * coefficient + digitValue d : Nat) = true := by
        rw [Word.holds_unsigned_iff]
        omega
      rw [gather, if_pos hholds, ih _ hfits]
      rfl

/-- A numeral stands for its integer if this fits 64 bits, below zero with one of them for the sign.
Minus zero is no integer. -/
theorem integerOf_numeral {negative : Bool} {n : Nat} {ds : List Char} (h : IsNumeral ds n)
    (hn : if negative then 0 < n ∧ n ≤ 2 ^ 63 else n < 2 ^ 64) :
    integerOf negative ds = .int (if negative then -n else n) := by
  have hfits : value ds < 2 ^ 64 := by
    rw [h.value_eq]
    split at hn <;> omega
  have hgather : gather 0 ds = ⟨n, ds.length, 0⟩ := by
    rw [gather_eq ds 0 hfits, ← h.value_eq]
    rfl
  rw [integerOf, hgather]
  cases negative with
  | false => rfl
  | true =>
      simp only [if_true] at hn
      have hholds : (Word.signed 64).holds (-(n : Int)) = true := by
        rw [Word.holds_signed_iff]
        omega
      have hnonzero : n ≠ 0 := by omega
      simp [hholds, hnonzero]

/-- What may stand after a value: a blank, a comma or the end of a list or object. -/
def Delimited (rest : List Char) : Prop :=
  ∀ c ∈ rest.head?, isSpace c = true ∨ c = ',' ∨ c = ']' ∨ c = '\x7d'

/-- No number goes on there. -/
theorem Delimited.head {c : Char} {rest : List Char} (h : Delimited (c :: rest)) :
    isDigit c = false ∧ c ≠ '.' ∧ c ≠ 'e' ∧ c ≠ 'E' := by
  have hc := h c rfl
  simp only [isSpace, Bool.or_eq_true, beq_iff_eq] at hc
  rcases hc with ((((rfl | rfl) | rfl) | rfl) | rfl | rfl | rfl) <;> decide

theorem Delimited.noDigit {rest : List Char} (h : Delimited rest) : NoDigit rest := by
  intro c hc
  cases rest with
  | nil => cases hc
  | cons d rest =>
      cases hc
      exact h.head.1

/-- There is no exponent where a value ends. -/
theorem readExponent?_delimited {rest : List Char} (h : Delimited rest) :
    readExponent? rest = .ok (none, rest) := by
  unfold readExponent?
  split
  · exact absurd rfl h.head.2.2.1
  · exact absurd rfl h.head.2.2.2
  · rfl

/-- **The integer part of a number is taken to its end.** -/
theorem readNumber_whole {whole rest : List Char} (h : IsWhole whole) (hrest : NoDigit rest)
    (negative : Bool) : readNumber negative (whole ++ rest) = readFraction negative whole rest := by
  have hnonempty : whole.isEmpty = false := by
    simpa [List.isEmpty_eq_false_iff] using h.nonempty
  have hdigit : (rest.head?.map isDigit).getD false = false := by
    cases hhead : rest.head? with
    | none => rfl
    | some c => exact hrest c hhead
  obtain ⟨c, cs, hcons⟩ := List.exists_cons_of_ne_nil h.nonempty
  by_cases hc : c = '0'
  · -- a zero is taken alone, and there is nothing else to take
    have hcs : cs = [] := h.unpadded (by rw [hcons, hc])
    obtain rfl : whole = ['0'] := by rw [hcons, hc, hcs]
    rw [List.singleton_append, readNumber.eq_1]
    simp [hdigit]
  · have hother : ∀ tail, whole ++ rest = '0' :: tail → False := by
      intro tail heq
      rw [hcons] at heq
      exact hc (List.cons.inj heq).1
    rw [readNumber.eq_2 _ _ hother, takeWhile_append h.digits hrest]
    simp [hnonempty, hdigit]

/-- A number that ends after its integer part is an integer. -/
theorem readFraction_delimited {rest : List Char} (h : Delimited rest) (negative : Bool)
    (whole : List Char) :
    readFraction negative whole rest = .ok (integerOf negative whole, rest) := by
  rw [readFraction.eq_2]
  · rw [readExponent?_delimited h]
    rfl
  · rintro tail rfl
    exact h.head.2.1 rfl

/-- **A delimited integer part reads as an integer**, of as many bits as it has. -/
theorem readNumber_integer {whole rest : List Char} (h : IsWhole whole) (hrest : Delimited rest)
    (negative : Bool) :
    readNumber negative (whole ++ rest) = .ok (integerOf negative whole, rest) := by
  rw [readNumber_whole h hrest.noDigit, readFraction_delimited hrest]

end FabricAudit.Draft
