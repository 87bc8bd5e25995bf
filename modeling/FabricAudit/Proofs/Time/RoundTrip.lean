import FabricAudit.Proofs.Decimal.Digits
import FabricAudit.Proofs.Document.Refusal
import FabricAudit.Time.Reading

set_option autoImplicit false

/-! # Timestamps read back

The reader of timestamps accepts more than is written. What is written it reads part by part: a
padded numeral of a number in range gives that number, marks stand where they are looked for, and no
blank stands anywhere. So every timestamp is read back from its text, in all years of the calendar
and with every fraction of a second.
-/

namespace FabricAudit.Timestamp

open Decimal

/-! ## Parts of a timestamp -/

theorem skipBlanks_cons {c : Char} (h : Text.isBlank c = false) (rest : List Char) :
    skipBlanks (c :: rest) = c :: rest := by
  rw [skipBlanks, List.dropWhile_cons, if_neg (by simp [h])]

/-- No digit is a blank. -/
theorem isBlank_of_isDigit {c : Char} (h : isDigit c = true) : Text.isBlank c = false := by
  obtain ⟨hlow, hhigh⟩ := isDigit_iff.mp h
  simp only [Text.isBlank, Bool.or_eq_false_iff, Bool.and_eq_false_iff, beq_eq_false_iff_ne,
    decide_eq_false_iff_not]
  omega

theorem skipBlanks_numeral {ds : List Char} {n : Nat} (h : IsNumeral ds n) (rest : List Char) :
    skipBlanks (ds ++ rest) = ds ++ rest := by
  cases ds with
  | nil => exact absurd rfl h.nonempty
  | cons c ds => exact skipBlanks_cons (isBlank_of_isDigit (h.digits c List.mem_cons_self)) _

/-- Of a numeral in front, the digits within a width are its own, if it fills the width or no digit
follows it. -/
theorem takeWhile_take_numeral {ds rest : List Char} {n width : Nat} (h : IsNumeral ds n)
    (hwidth : ds.length ≤ width) (hend : ds.length = width ∨ NoDigit rest) :
    ((ds ++ rest).take width).takeWhile isDigit = ds := by
  have hrest : NoDigit (rest.take (width - ds.length)) := by
    rcases hend with hend | hend
    · simp [hend, NoDigit]
    · intro c hc
      cases rest with
      | nil => simp at hc
      | cons d rest =>
          cases hk : width - ds.length with
          | zero => simp [hk] at hc
          | succ k =>
              obtain rfl : d = c := by simpa [hk] using hc
              exact hend d rfl
  rw [List.take_append, List.take_of_length_le hwidth]
  exact takeWhile_append h.digits hrest

/-- Then it reads as its number. -/
theorem number_numeral {ds rest : List Char} {n width : Nat} (h : IsNumeral ds n)
    (hwidth : ds.length ≤ width) (hend : ds.length = width ∨ NoDigit rest) :
    number width (ds ++ rest) = .ok (n, rest) := by
  obtain ⟨c, cs, hcons⟩ := List.exists_cons_of_ne_nil h.nonempty
  have hnonempty : ds.isEmpty = false := by rw [hcons]; rfl
  have hunfold : number width (ds ++ rest)
      = if (((ds ++ rest).take width).takeWhile isDigit).isEmpty then .error .malformed
        else .ok (value (((ds ++ rest).take width).takeWhile isDigit),
          (ds ++ rest).drop (((ds ++ rest).take width).takeWhile isDigit).length) := by
    rw [hcons]
    rfl
  rw [hunfold, takeWhile_take_numeral h hwidth hend, hnonempty, h.value_eq]
  simp

/-- A number of two digits reads as itself, if it is in range. -/
theorem field_padded {low high n : Nat} (hlow : low ≤ n) (hhigh : n ≤ high) (hn : n < 100)
    (rest : List Char) : field low high ((padded 2 n).toList ++ rest) = .ok (n, rest) := by
  have hnumeral := isNumeral_padded 2 n
  have hlength : (padded 2 n).toList.length = 2 := length_padded (by omega) (by simpa using hn)
  rw [field, skipBlanks_numeral hnumeral, number_numeral hnumeral hlength.le (.inl hlength),
    Except.ok_bind]
  exact if_pos ⟨hlow, hhigh⟩

/-- A mark that is no blank is found where it stands. -/
theorem mark_cons {c : Char} (h : Text.isBlank c = false) (rest : List Char) :
    mark c (c :: rest) = .ok rest := by
  rw [mark, skipBlanks_cons h]
  exact if_pos rfl

/-- Every year of the calendar fits a 32-bit word. -/
theorem wordYear_ok {year : Int} (hfirst : Calendar.firstYear ≤ year)
    (hlast : year ≤ Calendar.lastYear) (rest : List Char) :
    wordYear year rest = .ok (year, rest) := by
  have hholds : (Word.signed 32).holds year = true := by
    simp only [Calendar.firstYear, Calendar.lastYear] at hfirst hlast
    rw [Word.holds_signed_iff]
    omega
  rw [wordYear, if_pos hholds]

/-- After a sign, the number of a year may have any number of digits. -/
theorem number_signed (n : Nat) {rest : List Char} (hrest : NoDigit rest) :
    number ((padded 4 n).toList ++ rest).length ((padded 4 n).toList ++ rest) = .ok (n, rest) :=
  number_numeral (isNumeral_padded 4 n) (by simp) (.inr hrest)

/-- A year without a sign reads as its first four digits say. -/
theorem yearField_numeral {ds : List Char} {n : Nat} (h : IsNumeral ds n) (rest : List Char) :
    yearField (ds ++ rest) = number 4 (ds ++ rest) >>= fun (n, rest) => wordYear n rest := by
  obtain ⟨c, cs, hcons⟩ := List.exists_cons_of_ne_nil h.nonempty
  have hc : isDigit c = true := h.digits c (by simp [hcons])
  rw [yearField, skipBlanks_numeral h]
  -- the first character is a digit, so neither sign matches
  split
  · rename_i heq
    rw [hcons] at heq
    obtain rfl : c = '-' := (List.cons.inj heq).1
    cases hc
  · rename_i heq
    rw [hcons] at heq
    obtain rfl : c = '+' := (List.cons.inj heq).1
    cases hc
  · rfl

/-- **A year reads as it is written**, with or without a sign. -/
theorem yearField_yearText {year : Int} (hfirst : Calendar.firstYear ≤ year)
    (hlast : year ≤ Calendar.lastYear) {rest : List Char} (hrest : NoDigit rest) :
    yearField ((yearText year).toList ++ rest) = .ok (year, rest) := by
  have hword := wordYear_ok hfirst hlast rest
  rw [yearText]
  -- a year that fits into four digits has no sign
  by_cases hshort : 0 ≤ year ∧ year ≤ 9999
  · have hnumeral := isNumeral_padded 4 year.toNat
    have hlength : (padded 4 year.toNat).toList.length = 4 :=
      length_padded (by omega) (by omega)
    have hyear : (year.toNat : Int) = year := by omega
    rw [if_pos hshort, yearField_numeral hnumeral, number_numeral hnumeral hlength.le (.inl hlength),
      Except.ok_bind]
    show wordYear year.toNat rest = _
    rw [hyear, hword]
  rw [if_neg hshort]
  by_cases hneg : year < 0
  · have hyear : -(year.natAbs : Int) = year := by omega
    have hsign : ((if year < 0 then "-" else "+") ++ padded 4 year.natAbs).toList ++ rest
        = '-' :: ((padded 4 year.natAbs).toList ++ rest) := by
      rw [if_pos hneg, String.toList_append]
      rfl
    rw [hsign, yearField, skipBlanks_cons (by decide)]
    show (number ((padded 4 year.natAbs).toList ++ rest).length _ >>= _) = _
    rw [number_signed _ hrest, Except.ok_bind]
    show wordYear (-(year.natAbs : Int)) rest = _
    rw [hyear, hword]
  · have hyear : (year.natAbs : Int) = year := by omega
    have hsign : ((if year < 0 then "-" else "+") ++ padded 4 year.natAbs).toList ++ rest
        = '+' :: ((padded 4 year.natAbs).toList ++ rest) := by
      rw [if_neg hneg, String.toList_append]
      rfl
    rw [hsign, yearField, skipBlanks_cons (by decide)]
    show (number ((padded 4 year.natAbs).toList ++ rest).length _ >>= _) = _
    rw [number_signed _ hrest, Except.ok_bind]
    show wordYear year.natAbs rest = _
    rw [hyear, hword]

/-- A fraction with some of its nine places stands for the nanoseconds. -/
theorem fraction_padded {width n : Nat} (hwidth : 0 < width) (hwidth' : width ≤ 9)
    (hn : n < 10 ^ width) {rest : List Char} (hrest : NoDigit rest) :
    fraction ('.' :: ((padded width n).toList ++ rest)) = .ok (n * 10 ^ (9 - width), rest) := by
  have hnumeral := isNumeral_padded width n
  have hlength : (padded width n).toList.length = width := length_padded hwidth hn
  have hle := hlength.trans_le hwidth'
  have hdropped : ([] ++ rest).dropWhile isDigit = rest := dropWhile_append (by simp) hrest
  rw [List.nil_append] at hdropped
  rw [fraction, takeWhile_take_numeral hnumeral hle (.inr hrest),
    number_numeral hnumeral hle (.inr hrest), Except.ok_bind, hlength]
  simp only [hdropped]
  rfl

/-- **A fraction of a second reads as it is written**, in as many places as it needs. -/
theorem fraction_fractionText {nano : Nat} (h : nano < 1000000000) {rest : List Char}
    (hrest : NoDigit rest) (hpoint : rest.head? ≠ some '.') :
    fraction ((fractionText nano).toList ++ rest) = .ok (nano, rest) := by
  have hpadded : ∀ width n : Nat, ("." ++ padded width n).toList ++ rest
      = '.' :: ((padded width n).toList ++ rest) := by
    intro width n
    rw [String.toList_append]
    rfl
  rw [fractionText]
  -- nine places become six, three or none if the others are zeros
  by_cases hzero : nano = 0
  · rw [if_pos hzero, hzero]
    show fraction rest = _
    rw [fraction.eq_def]
    split
    · exact absurd rfl hpoint
    · rfl
  rw [if_neg hzero]
  by_cases hmilli : nano % 1000000 = 0
  · have hvalue : nano / 1000000 * 10 ^ (9 - 3) = nano := by omega
    rw [if_pos hmilli, hpadded, fraction_padded (by omega) (by omega) (by omega) hrest, hvalue]
  rw [if_neg hmilli]
  by_cases hmicro : nano % 1000 = 0
  · have hvalue : nano / 1000 * 10 ^ (9 - 6) = nano := by omega
    rw [if_pos hmicro, hpadded, fraction_padded (by omega) (by omega) (by omega) hrest, hvalue]
  · have hvalue : nano * 10 ^ (9 - 9) = nano := by omega
    rw [if_neg hmicro, hpadded, fraction_padded (by omega) (by omega) (by omega) hrest, hvalue]

/-! ## The whole timestamp -/

/-- No day of the calendar is beyond the thirty-first of a twelfth month. -/
theorem bounds_of_isDate {year : Int} {month day : Nat}
    (h : Calendar.isDate year month day = true) :
    Calendar.firstYear ≤ year ∧ year ≤ Calendar.lastYear ∧ 1 ≤ month ∧ month ≤ 12 ∧
      1 ≤ day ∧ day ≤ 31 := by
  simp only [Calendar.isDate, Bool.and_eq_true, decide_eq_true_eq] at h
  obtain ⟨⟨⟨hfirst, hlast⟩, hday⟩, hdays⟩ := h
  have hlong : Calendar.daysIn year month ≤ 31 := by
    unfold Calendar.daysIn
    split_ifs <;> omega
  -- there are no other months, and they would have no days
  have hmonth : 1 ≤ month ∧ month ≤ 12 := by
    by_contra hnone
    have hother : Calendar.daysIn year month = 0 := by
      unfold Calendar.daysIn
      rw [if_neg (by omega), if_neg (by simp; omega), if_neg (by simpa using hnone)]
    omega
  exact ⟨hfirst, hlast, hmonth.1, hmonth.2, hday, hdays.trans hlong⟩

/-- At no offset, a clock shows the moment itself. -/
theorem atOffset_zero (t : Timestamp) :
    atOffset t.date t.hour t.minute t.second t.nano 0 = .ok t := by
  have hclock := t.onClock
  simp only [isClock, Bool.and_eq_true, decide_eq_true_eq] at hclock
  have hofDay : ((60 * (t.hour : Int) + t.minute - 0) % 1440).toNat = 60 * t.hour + t.minute := by
    omega
  have hdays : (60 * (t.hour : Int) + t.minute - 0) / 1440 = 0 := by omega
  have hhour : (60 * t.hour + t.minute) / 60 = t.hour := by omega
  have hminute : (60 * t.hour + t.minute) % 60 = t.minute := by omega
  have hof : of? t.date t.hour t.minute t.second t.nano = some t := dif_pos t.onClock
  simp only [atOffset, hofDay, hdays, hhour, hminute]
  rw [shiftDate, if_neg (by omega), if_neg (by omega)]
  simp only [hof]

/-- The characters of a timestamp, part by part. -/
theorem toList_toText (t : Timestamp) :
    t.toText.toList = (yearText t.date.year).toList ++ '-' :: ((padded 2 t.date.month).toList ++
      '-' :: ((padded 2 t.date.day).toList ++ 'T' :: ((padded 2 t.hour).toList ++
        ':' :: ((padded 2 t.minute).toList ++ ':' :: ((padded 2 t.second).toList ++
          ((fractionText t.nano).toList ++ ['Z'])))))) := by
  simp [toText, String.toList_append]

/-- **Every timestamp is read back from its text.** -/
theorem ofChars_toText (t : Timestamp) : ofChars t.toText.toList = .ok t := by
  obtain ⟨hfirst, hlast, hmonth, hmonth', hday, hday'⟩ := bounds_of_isDate t.date.inCalendar
  have hclock := t.onClock
  simp only [isClock, Bool.and_eq_true, decide_eq_true_eq] at hclock
  obtain ⟨⟨⟨hhour, hminute⟩, hsecond⟩, hnano⟩ := hclock
  have hdate : Date.of? t.date.year t.date.month t.date.day = some t.date :=
    dif_pos t.date.inCalendar
  -- each part is read off, whatever stands behind it
  have hyearRead : ∀ rest, yearField ((yearText t.date.year).toList ++ '-' :: rest)
      = .ok (t.date.year, '-' :: rest) := fun rest =>
    yearField_yearText hfirst hlast (by simp [NoDigit]; decide)
  have hmonthRead := field_padded hmonth hmonth' (by omega)
  have hdayRead := field_padded hday hday' (by omega)
  have hseparator : ∀ rest, separator ('T' :: rest) = .ok rest := fun _ => rfl
  have hhourRead : ∀ rest, field 0 23 ((padded 2 t.hour).toList ++ rest) = .ok (t.hour, rest) :=
    field_padded (by omega) (by omega) (by omega)
  have hminuteRead : ∀ rest, field 0 59 ((padded 2 t.minute).toList ++ rest)
      = .ok (t.minute, rest) := field_padded (by omega) (by omega) (by omega)
  have hsecondRead : ∀ rest, field 0 60 ((padded 2 t.second).toList ++ rest)
      = .ok (t.second, rest) := field_padded (by omega) hsecond (by omega)
  have hnanoRead : fraction ((fractionText t.nano).toList ++ ['Z']) = .ok (t.nano, ['Z']) :=
    fraction_fractionText hnano (by simp [NoDigit]; decide) (by simp)
  have hend : skipBlanks ['Z'] = ['Z'] := skipBlanks_cons (by decide) []
  have hoffset : offset ['Z'] = .ok (0, []) := rfl
  have hdash : ∀ rest, mark '-' ('-' :: rest) = .ok rest := mark_cons (by decide)
  have hcolon : ∀ rest, mark ':' (':' :: rest) = .ok rest := mark_cons (by decide)
  rw [toList_toText, ofChars]
  simp only [Except.ok_bind, hyearRead, hmonthRead, hdayRead, hseparator, hhourRead, hminuteRead,
    hsecondRead, hnanoRead, hend, hoffset, hdash, hcolon, hdate]
  exact atOffset_zero t

/-- So the typed reading of the text of a timestamp gives the timestamp. -/
theorem reader_toText (t : Timestamp) : reader (.text t.toText) = .ok t := by
  rw [reader, ofChars_toText]
  rfl

end FabricAudit.Timestamp
