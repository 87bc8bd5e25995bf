import FabricAudit.Proofs.Text.Output
import FabricAudit.Proofs.Text.Search
import FabricAudit.Text.Case
import FabricAudit.Text.Lines

set_option autoImplicit false

/-! # What trimming keeps

Trimming takes blanks from the ends of a text and nothing else (`exists_trimChars`). So a run of
characters that begins and ends with something else is found in the trimmed text exactly if it is
found in the whole one, also after both have been put in lower case (`contains_lower_trim`), and the
trimmed text has as many lines with something besides blanks as the whole one (`filledCount_trim`).

In lower case a capital sigma depends on what stands around it, and trimming may take that away. No
run of ASCII characters holds a sigma of either form, so it is looked for after the two forms have
been made one.
-/

namespace FabricAudit.Text

/-! ## Blanks at the ends -/

/-- **A text is trimmed by taking blanks from its ends.** -/
theorem exists_trimChars (cs : List Char) : ∃ front back,
    cs = front ++ trimChars cs ++ back ∧ (∀ c ∈ front, isBlank c = true) ∧
      ∀ c ∈ back, isBlank c = true := by
  obtain ⟨back, hback⟩ : trimChars cs <+: cs.dropWhile isBlank := List.rdropWhile_prefix _ _
  refine ⟨cs.takeWhile isBlank, back, ?_, fun c hc => List.mem_takeWhile_imp hc, fun c hc => ?_⟩
  · rw [List.append_assoc, hback, List.takeWhile_append_dropWhile]
  · -- what is dropped at the end is what is taken from there
    have htail : back = (cs.dropWhile isBlank).rtakeWhile isBlank := by
      have hsplit := List.rdropWhile_append_rtakeWhile (p := isBlank) (l := cs.dropWhile isBlank)
      exact List.append_cancel_left (hback.trans hsplit.symm)
    rw [htail] at hc
    exact List.mem_rtakeWhile_imp hc

theorem trimChars_blanks_append {front : List Char} (h : ∀ c ∈ front, isBlank c = true)
    (cs : List Char) : trimChars (front ++ cs) = trimChars cs := by
  rw [trimChars, trimChars, stripBy_eq, stripBy_eq, List.dropWhile_append_of_pos h]

theorem trimChars_append_blanks {back : List Char} (h : ∀ c ∈ back, isBlank c = true)
    (cs : List Char) : trimChars (cs ++ back) = trimChars cs := by
  have hend : ∀ ds : List Char, (ds ++ back).rdropWhile isBlank = ds.rdropWhile isBlank := by
    intro ds
    rw [List.rdropWhile, List.rdropWhile, List.reverse_append, List.dropWhile_append_of_pos]
    simpa only [List.mem_reverse] using h
  rw [trimChars, trimChars, stripBy_eq, stripBy_eq, List.dropWhile_append]
  split
  · -- nothing but blanks before, and so nothing at all
    next hnone =>
      rw [List.isEmpty_iff.mp hnone, ← List.nil_append (back.dropWhile isBlank),
        List.dropWhile_eq_nil_iff.mpr h]
      rfl
  · exact hend _

/-- The ending of a line is blank. -/
theorem trimChars_dropEnding (piece : List Char) :
    trimChars (dropEnding piece) = trimChars piece := by
  have hpiece : piece = piece.reverse.reverse := (List.reverse_reverse piece).symm
  have hnewline : ∀ c ∈ ['\n'], isBlank c = true := List.all_eq_true.mp rfl
  have hreturn : ∀ c ∈ ['\r'] ++ ['\n'], isBlank c = true := List.all_eq_true.mp rfl
  rw [dropEnding]
  split
  · next body h =>
      rw [hpiece, h, List.reverse_cons, List.reverse_cons, List.append_assoc,
        trimChars_append_blanks hreturn]
  · next body _ h => rw [hpiece, h, List.reverse_cons, trimChars_append_blanks hnewline]
  · rfl

/-! ## Runs of characters -/

/-- A run that begins with no blank does not begin among blanks. -/
theorem infix_blanks_append {front needle cs : List Char} (hfront : ∀ c ∈ front, isBlank c = true)
    (hfirst : needle.head?.any (fun c => !isBlank c) = true) :
    needle <:+: front ++ cs ↔ needle <:+: cs := by
  induction front with
  | nil => rfl
  | cons b front ih =>
      rw [List.forall_mem_cons] at hfront
      rw [List.cons_append, List.infix_cons_iff, ih hfront.2, or_iff_right]
      intro hprefix
      cases needle with
      | nil => cases hfirst
      | cons c needle =>
          obtain rfl : c = b := (List.cons_prefix_cons.mp hprefix).1
          rw [List.head?_cons, Option.any_some, hfront.1] at hfirst
          cases hfirst

/-- A run that ends with no blank does not end among blanks. -/
theorem infix_append_blanks {back needle cs : List Char} (hback : ∀ c ∈ back, isBlank c = true)
    (hlast : needle.getLast?.any (fun c => !isBlank c) = true) :
    needle <:+: cs ++ back ↔ needle <:+: cs := by
  rw [← List.reverse_infix, List.reverse_append, infix_blanks_append, List.reverse_infix]
  · simpa only [List.mem_reverse] using hback
  · rwa [List.head?_reverse]

/-- A run with no blank at its ends is found in a trimmed text if it is found in the whole one. -/
theorem infix_trimChars {needle : List Char}
    (hfirst : needle.head?.any (fun c => !isBlank c) = true)
    (hlast : needle.getLast?.any (fun c => !isBlank c) = true) (cs : List Char) :
    needle <:+: trimChars cs ↔ needle <:+: cs := by
  obtain ⟨front, back, hcs, hfront, hback⟩ := exists_trimChars cs
  conv_rhs => rw [hcs, infix_append_blanks hback hlast, infix_blanks_append hfront hfirst]

/-- A run is found in the image of a text if no other characters become those of the run. -/
theorem infix_map_iff_of_fixed {f : Char → Char} {needle : List Char}
    (hfixed : ∀ a ∈ needle, ∀ c, f c = a ↔ c = a) (cs : List Char) :
    needle <:+: cs.map f ↔ needle <:+: cs := by
  rw [List.infix_map_iff]
  constructor
  · rintro ⟨run, hrun, rfl⟩
    have hself : ∀ c ∈ run, f c = id c := fun c hc =>
      ((hfixed (f c) (List.mem_map_of_mem hc) c).mp rfl).symm
    rwa [List.map_congr_left hself, List.map_id]
  · intro hneedle
    have hself : ∀ c ∈ needle, f c = id c := fun c hc => (hfixed c hc c).mpr rfl
    exact ⟨needle, hneedle, by rw [List.map_congr_left hself, List.map_id]⟩

/-! ## Lower case without regard to what stands around -/

/-- A sigma that ends a word, made one that does not. -/
def unfinal (c : Char) : Char := if c = Char.ofNat 0x3C2 then Char.ofNat 0x3C3 else c

/-- The lowercase forms of a character, but for the two forms of a sigma. -/
def lowerForms (c : Char) : List Char :=
  if c.toNat = 0x130 then ['i', Char.ofNat 0x307]
  else if c.toNat = 0x3A3 then [Char.ofNat 0x3C3]
  else [unfinal (lowerChar c)]

/-- **But for the two forms of a sigma**, a text is put in lower case character by character. -/
theorem map_unfinal_lowerFrom (before cs : List Char) :
    (lowerFrom before cs).map unfinal = cs.flatMap lowerForms := by
  induction cs generalizing before with
  | nil => rfl
  | cons c cs ih =>
      rw [lowerFrom, List.map_append, ih, List.flatMap_cons, lowerForms]
      congr 1
      split
      · decide
      · split
        · split <;> decide
        · rfl

def blankCodes : List Nat :=
  [9, 10, 11, 12, 13, 0x20, 0x85, 0xA0, 0x1680, 0x2000, 0x2001, 0x2002, 0x2003, 0x2004, 0x2005,
    0x2006, 0x2007, 0x2008, 0x2009, 0x200A, 0x2028, 0x2029, 0x202F, 0x205F, 0x3000]

theorem toNat_mem_blankCodes {c : Char} (h : isBlank c = true) : c.toNat ∈ blankCodes := by
  simp only [isBlank, Bool.or_eq_true, Bool.and_eq_true, decide_eq_true_eq, beq_iff_eq] at h
  simp only [blankCodes, List.mem_cons, List.not_mem_nil, or_false]
  omega

theorem readAll_cons (cs : List Char) (lines : List String) :
    Shift.readAll (String.ofList cs :: lines)
      = (splitChars ' ' cs).map Shift.read ++ Shift.readAll lines := by
  rw [Shift.readAll, tableEntries, List.flatMap_cons, String.toList_ofList, List.map_append]
  rfl

theorem lowerForms_blankCodes :
    ∀ n ∈ blankCodes, lowerForms (Char.ofNat n) = [Char.ofNat n] := by
  unfold lowerForms lowerChar lowercaseShifts
  -- the characters of a literal are known without decoding it
  repeat rw [readAll_cons]
  decide +kernel

/-- A blank has no case. -/
theorem lowerForms_of_isBlank {c : Char} (h : isBlank c = true) : lowerForms c = [c] := by
  have hforms := lowerForms_blankCodes c.toNat (toNat_mem_blankCodes h)
  rwa [Char.ofNat_toNat] at hforms

theorem flatMap_lowerForms_blanks {cs : List Char} (h : ∀ c ∈ cs, isBlank c = true) :
    cs.flatMap lowerForms = cs := by
  have hself : ∀ c ∈ cs, lowerForms c = [id c] := fun c hc => lowerForms_of_isBlank (h c hc)
  rw [List.flatMap_congr hself, ← List.map_eq_flatMap, List.map_id]

/-- A run of ASCII characters does not depend on the forms of a sigma. -/
theorem infix_lowerFrom_iff {needle : List Char} (hascii : ∀ c ∈ needle, c.toNat < 128)
    (before cs : List Char) :
    needle <:+: lowerFrom before cs ↔ needle <:+: cs.flatMap lowerForms := by
  rw [← map_unfinal_lowerFrom before cs, infix_map_iff_of_fixed]
  intro a ha c
  have hsmall := hascii a ha
  rw [unfinal]
  split
  · next hc =>
      -- neither form of a sigma is below 128
      constructor
      · rintro rfl
        exact absurd hsmall (by decide)
      · rintro rfl
        rw [hc] at hsmall
        exact absurd hsmall (by decide)
  · rfl

/-- **Trimming does not matter for what is found in lower case**, if it is a run of ASCII characters
with no blank at its ends. -/
theorem contains_lower_trim {needle : String} (s : String)
    (hascii : ∀ c ∈ needle.toList, c.toNat < 128)
    (hfirst : needle.toList.head?.any (fun c => !isBlank c) = true)
    (hlast : needle.toList.getLast?.any (fun c => !isBlank c) = true) :
    contains (lower (trim s)) needle = contains (lower s) needle := by
  obtain ⟨front, back, hs, hfront, hback⟩ := exists_trimChars s.toList
  rw [Bool.eq_iff_iff, contains_iff, contains_iff, lower, lower, trim, String.toList_ofList,
    String.toList_ofList, String.toList_ofList, infix_lowerFrom_iff hascii,
    infix_lowerFrom_iff hascii]
  conv_rhs => rw [hs]
  rw [List.flatMap_append, List.flatMap_append, flatMap_lowerForms_blanks hfront,
    flatMap_lowerForms_blanks hback, infix_append_blanks hback hlast,
    infix_blanks_append hfront hfirst]

/-! ## Lines that are not blank -/

/-- Nothing is left of a trimmed text if there were only blanks. -/
theorem trimChars_eq_nil_iff {cs : List Char} :
    trimChars cs = [] ↔ ∀ c ∈ cs, isBlank c = true := by
  rw [trimChars, stripBy_eq, List.rdropWhile_eq_nil_iff]
  constructor
  · intro h c hc
    rw [← List.takeWhile_append_dropWhile (p := isBlank) (l := cs), List.mem_append] at hc
    exact hc.elim List.mem_takeWhile_imp (h c)
  · intro h c hc
    exact h c ((List.dropWhile_sublist _).subset hc)

theorem not_isFilled_iff {line : List Char} : ¬ isFilled line = true ↔ trimChars line = [] := by
  rw [isFilled, Bool.not_eq_true', Bool.not_eq_false, List.isEmpty_iff]

/-- A line holds something if one of its characters is no blank. -/
theorem isFilled_eq (line : List Char) : isFilled line = line.any fun c => !isBlank c := by
  rw [Bool.eq_iff_iff, ← not_iff_not, not_isFilled_iff, trimChars_eq_nil_iff, List.any_eq_true]
  push Not
  simp only [ne_eq, Bool.not_eq_true', Bool.not_eq_false]

theorem isFilled_dropEnding (piece : List Char) : isFilled (dropEnding piece) = isFilled piece := by
  rw [isFilled, isFilled, trimChars_dropEnding]

theorem filledCount_eq (s : String) : filledCount s = (cutLines s.toList).countP isFilled := by
  rw [filledCount, linesChars, List.countP_map]
  exact List.countP_congr fun piece _ => by rw [Function.comp_apply, isFilled_dropEnding]

@[simp] theorem isFilled_cons (c : Char) (line : List Char) :
    isFilled (c :: line) = (!isBlank c || isFilled line) := by
  rw [isFilled_eq, isFilled_eq, List.any_cons]

/-- Puts a character into the first of some pieces. -/
def intoFirst (c : Char) : List (List Char) → List (List Char)
  | [] => [[c]]
  | line :: rest => (c :: line) :: rest

/-- Whether the first of some pieces holds something besides blanks. -/
def firstFilled (pieces : List (List Char)) : Bool := pieces.head?.any isFilled

theorem cutLines_cons_of_ne {c : Char} (h : c ≠ '\n') (cs : List Char) :
    cutLines (c :: cs) = intoFirst c (cutLines cs) := by
  rw [cutLines, if_neg h]
  rfl

@[simp] theorem firstFilled_intoFirst (c : Char) (pieces : List (List Char)) :
    firstFilled (intoFirst c pieces) = (!isBlank c || firstFilled pieces) := by
  cases pieces with
  | nil => exact isFilled_cons c []
  | cons line rest => exact isFilled_cons c line

/-- A character fills at most the first piece. -/
theorem countP_intoFirst (c : Char) (pieces : List (List Char)) :
    (intoFirst c pieces).countP isFilled + (firstFilled pieces).toNat
      = pieces.countP isFilled + (!isBlank c || firstFilled pieces).toNat := by
  cases pieces with
  | nil => cases h : isBlank c <;> simp [intoFirst, firstFilled, h, isFilled_eq]
  | cons line rest =>
      cases h : isBlank c <;> cases hline : isFilled line <;>
        simp [intoFirst, firstFilled, h, hline]

/-- Blanks in front fill no line. -/
theorem countP_cutLines_blanks_append {front : List Char} (h : ∀ c ∈ front, isBlank c = true)
    (cs : List Char) :
    (cutLines (front ++ cs)).countP isFilled = (cutLines cs).countP isFilled := by
  induction front with
  | nil => rfl
  | cons c front ih =>
      rw [List.forall_mem_cons] at h
      rw [← ih h.2, List.cons_append]
      by_cases hc : c = '\n'
      · rw [cutLines, if_pos hc, List.countP_cons_of_neg]
        rw [isFilled_cons, h.1]
        decide
      · have hcount := countP_intoFirst c (cutLines (front ++ cs))
        rw [h.1, Bool.not_true, Bool.false_or] at hcount
        rw [cutLines_cons_of_ne hc]
        omega

/-- Blanks at the end fill no line, and not the first one in particular. -/
theorem countP_cutLines_append_blanks {back : List Char} (h : ∀ c ∈ back, isBlank c = true)
    (cs : List Char) :
    (cutLines (cs ++ back)).countP isFilled = (cutLines cs).countP isFilled ∧
      firstFilled (cutLines (cs ++ back)) = firstFilled (cutLines cs) := by
  -- the first line has to be followed as well, since a character may go into it
  induction cs with
  | nil =>
      have hnone : (cutLines back).countP isFilled = 0 := by
        have hcount := countP_cutLines_blanks_append h []
        rwa [List.append_nil] at hcount
      refine ⟨hnone, ?_⟩
      rw [List.nil_append]
      cases hcut : cutLines back with
      | nil => rfl
      | cons line rest =>
          rw [hcut, List.countP_eq_zero, List.forall_mem_cons] at hnone
          exact Bool.eq_false_iff.mpr hnone.1
  | cons c cs ih =>
      obtain ⟨hcount, hfirst⟩ := ih
      by_cases hc : c = '\n'
      · rw [List.cons_append, cutLines, cutLines, if_pos hc, if_pos hc, List.countP_cons,
          List.countP_cons, hcount]
        exact ⟨rfl, rfl⟩
      · have hlong := countP_intoFirst c (cutLines (cs ++ back))
        have hshort := countP_intoFirst c (cutLines cs)
        rw [List.cons_append, cutLines_cons_of_ne hc, cutLines_cons_of_ne hc,
          firstFilled_intoFirst, firstFilled_intoFirst, hfirst]
        rw [hfirst] at hlong
        exact ⟨by omega, rfl⟩

/-- **Trimming takes no line that holds something.** -/
theorem filledCount_trim (s : String) : filledCount (trim s) = filledCount s := by
  obtain ⟨front, back, hs, hfront, hback⟩ := exists_trimChars s.toList
  rw [filledCount_eq, filledCount_eq, trim, String.toList_ofList]
  conv_rhs => rw [hs]
  rw [(countP_cutLines_append_blanks hback _).1, countP_cutLines_blanks_append hfront]

end FabricAudit.Text
