import FabricAudit.Proofs.Decimal.Shortest

set_option autoImplicit false

/-! # Texts of numbers

In every layout the text of a number is a sign, digits with a point among them, and perhaps an
exponent (`exists_text`). Read as a decimal (`decimalOf`), it denotes what the shortest digits of
the number denote. This decimal rounds to no other number, so two numbers never have the same text
(`Layout.text_inj`).
-/

namespace FabricAudit.Decimal

open Binary64

/-! ## Reading a decimal -/

/-- The number that an exponent denotes, with or without a sign. -/
def exponentOf : List Char → Int
  | '-' :: ds => -(value ds : Int)
  | '+' :: ds => value ds
  | ds => value ds

/-- The decimal that digits denote, with a point among them and an exponent after the letter. -/
def decimalOf (cs : List Char) : ℚ :=
  let mantissa := cs.takeWhile (· != 'e')
  let fraction := (mantissa.dropWhile isDigit).drop 1
  value (mantissa.takeWhile isDigit ++ fraction)
    * 10 ^ (exponentOf ((cs.dropWhile (· != 'e')).drop 1) - fraction.length)

/-- Digits, with a point before those of the fraction unless there are none. -/
def pointed (whole fraction : List Char) : List Char :=
  whole ++ if fraction = [] then [] else '.' :: fraction

theorem pointed_of_ne_nil {fraction : List Char} (h : fraction ≠ []) (whole : List Char) :
    pointed whole fraction = whole ++ '.' :: fraction := by
  rw [pointed, if_neg h]

def AllDigits (ds : List Char) : Prop := ∀ c ∈ ds, isDigit c = true

theorem AllDigits.append {ds es : List Char} (h : AllDigits ds) (h' : AllDigits es) :
    AllDigits (ds ++ es) := by
  intro c hc
  exact (List.mem_append.mp hc).elim (h c) (h' c)

theorem AllDigits.subset {ds es : List Char} (h : AllDigits ds) (hsubset : es ⊆ ds) :
    AllDigits es := fun c hc => h c (hsubset hc)

theorem allDigits_zeros (n : Nat) : AllDigits (List.replicate n '0') := by
  intro c hc
  rw [List.eq_of_mem_replicate hc]
  rfl

namespace IsWhole

variable {ds : List Char}

theorem allDigits (h : IsWhole ds) : AllDigits ds := h.digits

/-- Zeros may stand behind an integer part that is not zero. -/
theorem append_zeros (h : IsWhole ds) {n : Nat} (hn : ds = ['0'] → n = 0) :
    IsWhole (ds ++ List.replicate n '0') := by
  refine ⟨List.append_ne_nil_of_left_ne_nil h.nonempty _, h.allDigits.append (allDigits_zeros n),
    ?_⟩
  intro rest heq
  obtain ⟨c, cs, rfl⟩ := List.exists_cons_of_ne_nil h.nonempty
  obtain ⟨rfl, hrest⟩ := List.cons.inj heq
  have hcs : cs = [] := h.unpadded rfl
  rw [← hrest, hcs, hn (by rw [hcs])]
  rfl

/-- The first digits of an integer part are one. -/
theorem take (h : IsWhole ds) {k : Nat} (hk : 0 < k) : IsWhole (ds.take k) := by
  obtain ⟨c, cs, rfl⟩ := List.exists_cons_of_ne_nil h.nonempty
  obtain ⟨k, rfl⟩ := Nat.exists_eq_add_one.mpr hk
  refine ⟨List.cons_ne_nil _ _, h.allDigits.subset (List.take_subset _ _), ?_⟩
  intro rest heq
  obtain ⟨rfl, hrest⟩ := List.cons.inj heq
  have hcs : cs = [] := h.unpadded rfl
  rw [← hrest, hcs, List.take_nil]

end IsWhole

theorem ne_e_of_mem_pointed {whole fraction : List Char} (hwhole : AllDigits whole)
    (hfraction : AllDigits fraction) : ∀ c ∈ pointed whole fraction, (c != 'e') = true := by
  have hdigit : ∀ c, isDigit c = true → (c != 'e') = true := by
    intro c hc
    rw [bne_iff_ne]
    rintro rfl
    cases hc
  intro c hc
  rw [pointed, List.mem_append] at hc
  rcases hc with hc | hc
  · exact hdigit c (hwhole c hc)
  · split at hc
    · cases hc
    · rcases List.mem_cons.mp hc with rfl | hc
      · rfl
      · exact hdigit c (hfraction c hc)

/-- **What is written with a point and an exponent** is read so. -/
theorem decimalOf_eq {whole fraction tail : List Char} (hwhole : AllDigits whole)
    (hfraction : AllDigits fraction) (htail : ∀ c ∈ tail.head?, c = 'e') :
    decimalOf (pointed whole fraction ++ tail)
      = value (whole ++ fraction) * 10 ^ (exponentOf (tail.drop 1) - fraction.length) := by
  have hmantissa := ne_e_of_mem_pointed hwhole hfraction
  -- the mantissa ends at the exponent, and its whole part at the point
  have htake : tail.takeWhile (· != 'e') = [] := by
    cases tail with
    | nil => rfl
    | cons c tail => rw [htail c rfl]; rfl
  have hdrop : tail.dropWhile (· != 'e') = tail := by
    cases tail with
    | nil => rfl
    | cons c tail => rw [htail c rfl]; rfl
  have hpoint : NoDigit (if fraction = [] then [] else '.' :: fraction) := by
    split
    · exact nofun
    · intro c hc
      cases hc
      rfl
  have hbehind : (if fraction = [] then [] else '.' :: fraction).drop 1 = fraction := by
    split
    · next h => rw [h]; rfl
    · rfl
  rw [decimalOf, List.takeWhile_append_of_pos hmantissa, List.dropWhile_append_of_pos hmantissa,
    htake, hdrop, List.append_nil, pointed, takeWhile_append hwhole hpoint,
    dropWhile_append hwhole hpoint, hbehind]

theorem exponentOf_digits (n : Nat) : exponentOf (digits n) = n := by
  have hnumeral := isNumeral_digits n
  obtain ⟨c, ds, hcons⟩ := List.exists_cons_of_ne_nil hnumeral.nonempty
  have hc : isDigit c = true := hnumeral.digits c (by simp [hcons])
  have hvalue := hnumeral.value_eq
  rw [hcons] at hvalue ⊢
  rw [exponentOf.eq_3, hvalue]
  · rintro ds' h
    obtain ⟨rfl, -⟩ := List.cons.inj h
    cases hc
  · rintro ds' h
    obtain ⟨rfl, -⟩ := List.cons.inj h
    cases hc

/-- An exponent is read back as it was written, with or without a plus sign. -/
theorem exponentOf_written {plus : String} (hplus : plus = "" ∨ plus = "+") (n : Int) :
    exponentOf ((if 0 ≤ n then plus else "").toList ++ (ofInt n).toList) = n := by
  cases n with
  | ofNat n =>
      have hnonneg : (0 : Int) ≤ Int.ofNat n := Int.natCast_nonneg n
      rw [if_pos hnonneg, ofInt, toList_ofNat]
      rcases hplus with rfl | rfl
      · exact exponentOf_digits n
      · exact congrArg Int.ofNat (isNumeral_digits n).value_eq
  | negSucc n =>
      have hchars : (ofInt (.negSucc n)).toList = '-' :: digits (n + 1) := by
        rw [← toList_ofNat]
        exact String.toList_append
      rw [if_neg (by omega), hchars]
      show -((value (digits (n + 1)) : Nat) : Int) = _
      rw [(isNumeral_digits (n + 1)).value_eq]
      rfl

/-! ## Layouts -/

theorem withoutZeros_ne_nil (ds : List Char) : withoutZeros ds ≠ [] := by
  rw [withoutZeros]
  split
  · exact List.cons_ne_nil _ _
  · next h => exact h

theorem AllDigits.withoutZeros {ds : List Char} (h : AllDigits ds) :
    AllDigits (withoutZeros ds) := by
  rw [Decimal.withoutZeros]
  split
  · exact allDigits_zeros 1
  · refine h.subset fun c hc => ?_
    rw [List.mem_reverse] at hc
    exact List.mem_reverse.mp (List.dropWhile_subset _ hc)

/-- The shortest digits denote zero only for zero. -/
theorem value_shortest_eq_zero_iff (x : Binary64) :
    (shortest x).value = 0 ↔ x.magnitude = 0 := by
  constructor
  · intro hvalue
    by_contra hx
    obtain ⟨m, hm⟩ := Nat.exists_eq_add_one.mpr (Nat.pos_of_ne_zero hx)
    have hlower := (shortest_has hx).lower_le
    have hpos : valueAt 0 < valueAt (m + 1) := valueAt_strictMono (Nat.succ_pos m)
    have hnonneg : valueAt 0 ≤ valueAt m := valueAt_strictMono.monotone (Nat.zero_le m)
    rw [hvalue, RoundingInterval.lower_of hm] at hlower
    rw [valueAt_zero] at hpos hnonneg
    linarith
  · intro hx
    have hzero : x.isZero = true := by simpa [Binary64.isZero] using hx
    rw [shortest, if_pos hzero, Scientific.value]
    simp [value, digitValue]

/-- The digits of a number that are kept are an integer part, as all of them are. -/
theorem isWhole_withoutZeros (n : Nat) : IsWhole (withoutZeros (digits n)) := by
  refine ⟨withoutZeros_ne_nil _, AllDigits.withoutZeros (isNumeral_digits n).digits, ?_⟩
  intro rest h
  rw [withoutZeros] at h
  split at h
  · exact (List.cons.inj h).2.symm
  · -- what is kept stands at the beginning of the digits
    have hprefix : '0' :: rest <+: digits n := by
      rw [← h, ← List.reverse_suffix, List.reverse_reverse]
      exact List.dropWhile_suffix _
    obtain ⟨tail, htail⟩ := hprefix
    exact (List.append_eq_nil_iff.mp (digits_head htail.symm)).1

theorem isWhole_shortest (x : Binary64) : IsWhole (shortest x).coefficient := by
  rw [shortest]
  split
  · exact isWhole_zero
  · exact isWhole_withoutZeros _

/-- The only digit of zero is the one before the point. -/
theorem power_shortest_of_zero {x : Binary64} (h : (shortest x).coefficient = ['0']) :
    (shortest x).power = 0 := by
  have hvalue : (shortest x).value = 0 := by
    rw [Scientific.value, h]
    simp [value, digitValue]
  have hzero : x.isZero = true := by
    simpa [Binary64.isZero] using (value_shortest_eq_zero_iff x).mp hvalue
  rw [shortest, if_pos hzero]

/-- Digits on either side of a point and an exponent which together denote what shortest digits
denote. -/
structure Spells (s : Scientific) (whole fraction : List Char) (exponent : Int) : Prop where
  isWhole : IsWhole whole
  digitsBehind : AllDigits fraction
  value_eq : value (whole ++ fraction) * 10 ^ (exponent - fraction.length) = s.value

section

variable {ds : List Char} {power : Int}

/-- All digits stand behind the point. -/
theorem spells_behind (hdigits : AllDigits ds) (hneg : power < 0) :
    Spells ⟨ds, power⟩ ['0'] (List.replicate (-power - 1).toNat '0' ++ ds) 0 := by
  refine ⟨isWhole_zero, (allDigits_zeros _).append hdigits, ?_⟩
  have hvalue := value_replicate_append ((-power - 1).toNat + 1) ds
  rw [List.replicate_succ, List.cons_append] at hvalue
  rw [List.singleton_append, hvalue, Scientific.value, List.length_append, List.length_replicate]
  congr 2
  push_cast
  omega

/-- All digits stand before the point. -/
theorem spells_before (hwhole : IsWhole ds) (hzero : ds = ['0'] → power = 0)
    (hcount : ds.length ≤ power + 1) :
    Spells ⟨ds, power⟩ (ds ++ List.replicate (power + 1 - ds.length).toNat '0') ['0'] 0 := by
  have hnone : ds = ['0'] → (power + 1 - ds.length).toNat = 0 := by
    intro h
    rw [hzero h, h]
    rfl
  refine ⟨hwhole.append_zeros hnone, allDigits_zeros 1, ?_⟩
  have hvalue := value_append_zeros ds ((power + 1 - ds.length).toNat + 1)
  rw [List.replicate_succ', ← List.append_assoc] at hvalue
  rw [hvalue, Scientific.value, List.length_singleton, Nat.cast_mul, Nat.cast_pow, mul_assoc,
    ← zpow_natCast, Nat.cast_ofNat, ← zpow_add₀ (by norm_num)]
  congr 2
  push_cast
  omega

/-- The point stands behind some of the digits, and the exponent makes up for it. -/
theorem spells_among (hwhole : IsWhole ds) {k : Nat} {exponent : Int} (hpos : 0 < k)
    (hk : k ≤ ds.length) (hexponent : exponent = power + 1 - k) :
    Spells ⟨ds, power⟩ (ds.take k) (ds.drop k) exponent := by
  refine ⟨hwhole.take hpos, hwhole.allDigits.subset (List.drop_subset _ _), ?_⟩
  rw [List.take_append_drop, Scientific.value, List.length_drop, hexponent]
  congr 2
  dsimp only
  omega

end

/-- **The text of a number**: a sign, digits with a point among them, and perhaps an exponent. Where
there is no exponent there is a point. -/
theorem exists_text {l : Layout} (hplus : l.plus = "" ∨ l.plus = "+") (x : Binary64) :
    ∃ whole fraction tail : List Char,
      (l.text x).toList = (if x.negative then ['-'] else []) ++ (pointed whole fraction ++ tail) ∧
      Spells (shortest x) whole fraction (exponentOf (tail.drop 1)) ∧
      (tail = [] ∧ fraction ≠ [] ∨ tail = 'e' ::
        ((if 0 ≤ (shortest x).power then l.plus else "").toList
          ++ (ofInt (shortest x).power).toList)) := by
  have hwhole := isWhole_shortest x
  have hzero := power_shortest_of_zero (x := x)
  have hsign : (if x.negative then "-" else "").toList = if x.negative then ['-'] else [] := by
    split <;> rfl
  rw [Layout.text]
  generalize shortest x = s at hwhole hzero ⊢
  obtain ⟨ds, power⟩ := s
  dsimp only at hwhole hzero
  have hpos := List.length_pos_of_ne_nil hwhole.nonempty
  dsimp only
  split
  · split
    -- less than one: zeros stand between the point and the digits
    · next hneg =>
        have hfraction : List.replicate (-power - 1).toNat '0' ++ ds ≠ [] :=
          List.append_ne_nil_of_right_ne_nil _ hwhole.nonempty
        refine ⟨_, _, [], ?_, spells_behind hwhole.allDigits hneg, .inl ⟨rfl, hfraction⟩⟩
        rw [pointed_of_ne_nil hfraction, String.toList_append, String.toList_append, hsign,
          String.toList_ofList]
        simp
    · split
      -- a whole number: zeros follow the digits, and one more stands behind the point
      · next hcount =>
          refine ⟨_, _, [], ?_, spells_before hwhole hzero hcount, .inl ⟨rfl, by simp⟩⟩
          rw [pointed_of_ne_nil (by simp), String.toList_append, String.toList_append, hsign,
            String.toList_ofList]
          simp
      -- the point stands among the digits
      · next hneg hcount =>
          have hfraction : ds.drop (power + 1).toNat ≠ [] := by
            rw [Ne, List.drop_eq_nil_iff]
            omega
          have hnone : exponentOf [] = power + 1 - ((power + 1).toNat : Int) := by
            show (0 : Int) = _
            omega
          refine ⟨_, _, [], ?_, spells_among hwhole (by omega) (by omega) hnone,
            .inl ⟨rfl, hfraction⟩⟩
          rw [pointed_of_ne_nil hfraction, String.toList_append, String.toList_append,
            String.toList_append, hsign, String.toList_ofList, String.toList_ofList]
          simp
  -- too large or too small to be written in full: the point stands behind the first digit
  · refine ⟨_, _, _, ?_, spells_among hwhole Nat.one_pos hpos ?_, .inr rfl⟩
    · simp only [pointed, List.isEmpty_iff, String.toList_append, hsign, String.toList_ofList,
        apply_ite String.toList, List.append_assoc]
      rfl
    · rw [List.drop_one, List.tail_cons, exponentOf_written hplus]
      omega

/-- The decimal that the text of a number is read as. -/
theorem decimalOf_text {l : Layout} (hplus : l.plus = "" ∨ l.plus = "+") (x : Binary64) :
    ∃ c cs, isDigit c = true ∧
      (l.text x).toList = (if x.negative then ['-'] else []) ++ c :: cs ∧
      decimalOf (c :: cs) = (shortest x).value := by
  obtain ⟨whole, fraction, tail, htext, hspells, htail⟩ := exists_text hplus x
  obtain ⟨c, ds, rfl⟩ := List.exists_cons_of_ne_nil hspells.isWhole.nonempty
  refine ⟨c, _, hspells.isWhole.digits c List.mem_cons_self, htext, ?_⟩
  rw [← hspells.value_eq]
  refine decimalOf_eq hspells.isWhole.digits hspells.digitsBehind ?_
  intro d hd
  rcases htail with ⟨rfl, -⟩ | rfl
  · cases hd
  · cases hd
    rfl

theorem magnitude_eq_of_value_eq {x y : Binary64} (h : (shortest x).value = (shortest y).value) :
    x.magnitude = y.magnitude := by
  by_cases hx : x.magnitude = 0
  · have hzero := (value_shortest_eq_zero_iff x).mpr hx
    rw [hx, (value_shortest_eq_zero_iff y).mp (h ▸ hzero)]
  · have hy : y.magnitude ≠ 0 := fun hzero =>
      hx ((value_shortest_eq_zero_iff x).mp (h.trans ((value_shortest_eq_zero_iff y).mpr hzero)))
    have hhas := shortest_has hx
    rw [h] at hhas
    exact RoundingInterval.magnitude_eq_of_has hhas (shortest_has hy)

/-- A sign before a digit is the sign. -/
theorem sign_inj {a b : Bool} {c d : Char} {cs ds : List Char} (hc : isDigit c = true)
    (hd : isDigit d = true)
    (h : (if a then ['-'] else []) ++ c :: cs = (if b then ['-'] else []) ++ d :: ds) :
    a = b ∧ c :: cs = d :: ds := by
  cases a <;> cases b
  · exact ⟨rfl, h⟩
  · cases (List.cons.inj h).1
    cases hc
  · cases (List.cons.inj h).1
    cases hd
  · exact ⟨rfl, (List.cons.inj h).2⟩

/-- **Two numbers never have the same text.** -/
theorem Layout.text_inj {l : Layout} (hplus : l.plus = "" ∨ l.plus = "+") {x y : Binary64} :
    l.text x = l.text y ↔ x = y := by
  constructor
  · intro h
    obtain ⟨c, cs, hc, hx, hxvalue⟩ := decimalOf_text hplus x
    obtain ⟨d, ds, hd, hy, hyvalue⟩ := decimalOf_text hplus y
    rw [h] at hx
    obtain ⟨hsign, hrest⟩ := sign_inj hc hd (hx.symm.trans hy)
    have hmagnitude : x.magnitude = y.magnitude :=
      magnitude_eq_of_value_eq (by rw [← hxvalue, ← hyvalue, hrest])
    cases x
    cases y
    cases hsign
    cases hmagnitude
    rfl
  · rintro rfl
    rfl

/-! ## What numbers are written with -/

def isNumeric (c : Char) : Bool := isDigit c || c == '-' || c == '+' || c == '.' || c == 'e'

theorem isNumeric_of_isDigit {c : Char} (h : isDigit c = true) : isNumeric c = true := by
  rw [isNumeric, h]
  rfl

/-- What begins with a minus sign or a digit and has no characters but those of numbers. -/
structure IsWritten (cs : List Char) : Prop where
  begins : ∃ c rest, cs = c :: rest ∧ (c = '-' ∨ isDigit c = true)
  numeric : ∀ c ∈ cs, isNumeric c = true

/-- An integer has a minus sign and digits, or only digits. -/
theorem mem_ofInt {n : Int} {c : Char} (h : c ∈ (ofInt n).toList) : c = '-' ∨ isDigit c = true := by
  cases n with
  | ofNat n =>
      rw [ofInt, toList_ofNat] at h
      exact .inr ((isNumeral_digits n).digits c h)
  | negSucc n =>
      rw [ofInt, String.toList_append, toList_ofNat] at h
      rcases List.mem_append.mp h with h | h
      · exact .inl (List.mem_singleton.mp h)
      · exact .inr ((isNumeral_digits (n + 1)).digits c h)

theorem ofInt_ne_nil (n : Int) : (ofInt n).toList ≠ [] := by
  cases n with
  | ofNat n =>
      rw [ofInt, toList_ofNat]
      exact (isNumeral_digits n).nonempty
  | negSucc n =>
      rw [ofInt, String.toList_append]
      exact List.append_ne_nil_of_left_ne_nil (by decide) _

theorem isWritten_ofInt (n : Int) : IsWritten (ofInt n).toList := by
  refine ⟨?_, fun c hc => ?_⟩
  · obtain ⟨c, rest, hcons⟩ := List.exists_cons_of_ne_nil (ofInt_ne_nil n)
    exact ⟨c, rest, hcons, mem_ofInt (hcons ▸ List.mem_cons_self)⟩
  · rcases mem_ofInt hc with rfl | hc
    · rfl
    · exact isNumeric_of_isDigit hc

/-- **Two integers never have the same text.** -/
theorem ofInt_inj {m n : Int} : ofInt m = ofInt n ↔ m = n := by
  have hread : ∀ n, exponentOf (ofInt n).toList = n := by
    intro n
    simpa only [ite_self, String.toList_empty, List.nil_append] using
      exponentOf_written (.inl rfl) n
  constructor
  · intro h
    rw [← hread m, h, hread n]
  · rintro rfl
    rfl

theorem isNumeric_of_mem_pointed {whole fraction : List Char} (hwhole : AllDigits whole)
    (hfraction : AllDigits fraction) : ∀ c ∈ pointed whole fraction, isNumeric c = true := by
  intro c hc
  rw [pointed] at hc
  rcases List.mem_append.mp hc with hc | hc
  · exact isNumeric_of_isDigit (hwhole c hc)
  · split at hc
    · cases hc
    · rcases List.mem_cons.mp hc with rfl | hc
      · rfl
      · exact isNumeric_of_isDigit (hfraction c hc)

theorem isNumeric_of_mem_exponent {plus : String} (hplus : plus = "" ∨ plus = "+") (n : Int) :
    ∀ c ∈ 'e' :: ((if 0 ≤ n then plus else "").toList ++ (ofInt n).toList),
      isNumeric c = true := by
  have hsign : ∀ c ∈ (if 0 ≤ n then plus else "").toList, c = '+' := by
    intro c hc
    split at hc
    · rcases hplus with rfl | rfl
      · cases hc
      · exact List.mem_singleton.mp hc
    · cases hc
  intro c hc
  rcases List.mem_cons.mp hc with rfl | hc
  · rfl
  rcases List.mem_append.mp hc with hc | hc
  · rw [hsign c hc]
    rfl
  · exact (isWritten_ofInt n).numeric c hc

theorem Layout.isWritten_text {l : Layout} (hplus : l.plus = "" ∨ l.plus = "+") (x : Binary64) :
    IsWritten (l.text x).toList := by
  obtain ⟨whole, fraction, tail, htext, hspells, htail⟩ := exists_text hplus x
  rw [htext]
  refine ⟨?_, fun c hc => ?_⟩
  · cases x.negative with
    | true => exact ⟨'-', _, rfl, .inl rfl⟩
    | false =>
        obtain ⟨c, ds, rfl⟩ := List.exists_cons_of_ne_nil hspells.isWhole.nonempty
        exact ⟨c, _, rfl, .inr (hspells.isWhole.digits c List.mem_cons_self)⟩
  · rcases List.mem_append.mp hc with hc | hc
    · split at hc
      · rw [List.mem_singleton.mp hc]
        rfl
      · cases hc
    rcases List.mem_append.mp hc with hc | hc
    · exact isNumeric_of_mem_pointed hspells.isWhole.digits hspells.digitsBehind c hc
    · rcases htail with ⟨rfl, -⟩ | rfl
      · cases hc
      · exact isNumeric_of_mem_exponent hplus _ c hc

/-- The text of a number has a point or an exponent, so it is not that of an integer. -/
theorem Layout.text_ne_ofInt {l : Layout} (hplus : l.plus = "" ∨ l.plus = "+") (x : Binary64)
    (n : Int) : l.text x ≠ ofInt n := by
  obtain ⟨whole, fraction, tail, htext, -, htail⟩ := exists_text hplus x
  obtain ⟨c, hc, hmark⟩ : ∃ c ∈ (l.text x).toList, c = '.' ∨ c = 'e' := by
    rw [htext]
    rcases htail with ⟨rfl, hfraction⟩ | rfl
    · exact ⟨'.', by simp [pointed_of_ne_nil hfraction], .inl rfl⟩
    · exact ⟨'e', by simp, .inr rfl⟩
  intro h
  rw [h] at hc
  have hdigit := mem_ofInt hc
  rcases hmark with rfl | rfl <;> revert hdigit <;> decide

end FabricAudit.Decimal
