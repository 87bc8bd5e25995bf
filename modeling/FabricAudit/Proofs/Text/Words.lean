import FabricAudit.Proofs.Text.Trimmed

set_option autoImplicit false

/-! # Line by line and word by word

A newline ends a line, whatever comes behind it (`cutLines_append_newline`), and a blank ends a word
(`wordsChars_append_blank`). So blanks between words and around them do not matter, however many
there are, and words joined with single blanks between them are found again (`wordsChars_join`).
-/

namespace FabricAudit.Text

/-! ## Lines -/

/-- A line with its newline is the first of the pieces. -/
theorem cutLines_append_newline {line : List Char} (h : '\n' ∉ line) (rest : List Char) :
    cutLines (line ++ '\n' :: rest) = (line ++ ['\n']) :: cutLines rest := by
  induction line with
  | nil => rfl
  | cons c line ih =>
      rw [List.mem_cons, not_or] at h
      rw [List.cons_append, cutLines_cons_of_ne (Ne.symm h.1), ih h.2]
      rfl

/-- Without a newline there is one line, or none if there is no character. -/
theorem cutLines_of_notMem {line : List Char} (h : '\n' ∉ line) :
    cutLines line = if line = [] then [] else [line] := by
  induction line with
  | nil => rfl
  | cons c line ih =>
      rw [List.mem_cons, not_or] at h
      rw [cutLines_cons_of_ne (Ne.symm h.1), ih h.2]
      cases line <;> rfl

/-! ## Words -/

/-- Characters that are one word: there are some, and none is a blank. -/
structure IsWord (cs : List Char) : Prop where
  nonempty : cs ≠ []
  filled : ∀ c ∈ cs, isBlank c = false

theorem isWord_iff {cs : List Char} :
    IsWord cs ↔ (!cs.isEmpty && cs.all fun c => !isBlank c) = true := by
  simp only [Bool.and_eq_true, Bool.not_eq_true', List.isEmpty_eq_false_iff, List.all_eq_true]
  exact ⟨fun h => ⟨h.nonempty, h.filled⟩, fun h => ⟨h.1, h.2⟩⟩

instance : DecidablePred IsWord := fun _ => decidable_of_iff' _ isWord_iff

theorem wordsFrom_append_blank {c : Char} (h : isBlank c = true) (word cs ds : List Char) :
    wordsFrom word (cs ++ c :: ds) = wordsFrom word cs ++ wordsFrom [] ds := by
  induction cs generalizing word with
  | nil =>
      rw [List.nil_append, wordsFrom, wordsFrom, if_pos h]
      cases word <;> rfl
  | cons d cs ih =>
      rw [List.cons_append, wordsFrom, wordsFrom]
      split
      · split
        · exact ih []
        · rw [ih, List.cons_append]
      · exact ih _

/-- **A blank ends a word.** -/
theorem wordsChars_append_blank {c : Char} (h : isBlank c = true) (cs ds : List Char) :
    wordsChars (cs ++ c :: ds) = wordsChars cs ++ wordsChars ds :=
  wordsFrom_append_blank h [] cs ds

theorem wordsChars_eq_nil {cs : List Char} (h : ∀ c ∈ cs, isBlank c = true) :
    wordsChars cs = [] := by
  induction cs with
  | nil => rfl
  | cons c cs ih =>
      rw [List.forall_mem_cons] at h
      have hfirst := wordsChars_append_blank h.1 [] cs
      rw [List.nil_append] at hfirst
      rw [hfirst, ih h.2]
      rfl

/-- **Any blanks part words**, as long as there is one. -/
theorem wordsChars_append_blanks_append {gap : List Char} (h : ∀ c ∈ gap, isBlank c = true)
    (hne : gap ≠ []) (cs ds : List Char) :
    wordsChars (cs ++ gap ++ ds) = wordsChars cs ++ wordsChars ds := by
  induction gap generalizing cs with
  | nil => exact absurd rfl hne
  | cons c gap ih =>
      rw [List.forall_mem_cons] at h
      rw [List.append_assoc, List.cons_append, wordsChars_append_blank h.1]
      congr 1
      cases gap with
      | nil => rfl
      | cons d gap => exact ih h.2 (List.cons_ne_nil _ _) []

theorem wordsChars_blanks_append {front : List Char} (h : ∀ c ∈ front, isBlank c = true)
    (cs : List Char) : wordsChars (front ++ cs) = wordsChars cs := by
  cases front with
  | nil => rfl
  | cons c front => exact wordsChars_append_blanks_append h (List.cons_ne_nil _ _) [] cs

theorem wordsChars_append_blanks {back : List Char} (h : ∀ c ∈ back, isBlank c = true)
    (cs : List Char) : wordsChars (cs ++ back) = wordsChars cs := by
  cases back with
  | nil => rw [List.append_nil]
  | cons c back =>
      have hwords := wordsChars_append_blanks_append h (List.cons_ne_nil _ _) cs []
      have hnone : wordsChars [] = [] := rfl
      rwa [List.append_nil, hnone, List.append_nil] at hwords

/-- Blanks at the ends do not matter. -/
theorem wordsChars_trimChars (cs : List Char) : wordsChars (trimChars cs) = wordsChars cs := by
  obtain ⟨front, back, hcs, hfront, hback⟩ := exists_trimChars cs
  conv_rhs => rw [hcs, List.append_assoc, wordsChars_blanks_append hfront,
    wordsChars_append_blanks hback]

/-- What is not blank is added to the word being read. -/
theorem wordsFrom_filled_append {cs : List Char} (h : ∀ c ∈ cs, isBlank c = false)
    (word ds : List Char) : wordsFrom word (cs ++ ds) = wordsFrom (word ++ cs) ds := by
  induction cs generalizing word with
  | nil => rw [List.nil_append, List.append_nil]
  | cons c cs ih =>
      rw [List.forall_mem_cons] at h
      have hfirst : wordsFrom word (c :: (cs ++ ds)) = wordsFrom (word ++ [c]) (cs ++ ds) := by
        rw [wordsFrom, if_neg (by simp [h.1])]
      rw [List.cons_append, hfirst, ih h.2, List.append_assoc, List.singleton_append]

/-- A word that is being read is the beginning of the first word. -/
theorem exists_wordsFrom {word : List Char} (h : word ≠ []) (cs : List Char) :
    ∃ first rest, wordsFrom word cs = first :: rest ∧ word <+: first := by
  have hword : word.isEmpty = false := by rwa [List.isEmpty_eq_false_iff]
  induction cs generalizing word with
  | nil => exact ⟨word, [], by rw [wordsFrom, hword]; rfl, List.prefix_rfl⟩
  | cons c cs ih =>
      rw [wordsFrom, hword]
      split
      · exact ⟨word, wordsFrom [] cs, rfl, List.prefix_rfl⟩
      · obtain ⟨first, rest, hfrom, hprefix⟩ :=
          ih (List.append_ne_nil_of_right_ne_nil _ (List.cons_ne_nil c [])) (by simp)
        exact ⟨first, rest, hfrom, (List.prefix_append word [c]).trans hprefix⟩

namespace IsWord

variable {cs : List Char} (h : IsWord cs)
include h

theorem newline_not_mem : '\n' ∉ cs := by
  intro hmem
  cases h.filled _ hmem

/-- A word is the only word of itself. -/
theorem wordsChars_eq : wordsChars cs = [cs] := by
  have hread := wordsFrom_filled_append h.filled [] []
  rw [List.append_nil, List.nil_append] at hread
  rw [wordsChars, hread, wordsFrom, if_neg]
  rw [List.isEmpty_iff]
  exact h.nonempty

/-- What a line begins with, apart from blanks, its first word begins with. -/
theorem exists_wordsChars {line : List Char} (hline : cs <+: trimChars line) :
    ∃ first rest, wordsChars line = first :: rest ∧ cs <+: first := by
  obtain ⟨rest, hrest⟩ := hline
  rw [← wordsChars_trimChars, ← hrest, wordsChars, wordsFrom_filled_append h.filled,
    List.nil_append]
  exact exists_wordsFrom h.nonempty rest

/-- A line that begins with a word still does so without the blanks at its ends. -/
theorem prefix_trimChars (rest : List Char) : cs <+: trimChars (cs ++ rest) := by
  obtain ⟨front, back, hsplit, hfront, hback⟩ := exists_trimChars (cs ++ rest)
  -- the first character is no blank, so nothing is taken in front
  obtain rfl : front = [] := by
    rcases front with _ | ⟨b, front⟩
    · rfl
    · rcases cs with _ | ⟨c, cs⟩
      · exact absurd rfl h.nonempty
      · have hfirst : c = b := (List.cons.inj hsplit).1
        have hblank := hfront b List.mem_cons_self
        rw [← hfirst, h.filled c List.mem_cons_self] at hblank
        cases hblank
  rw [List.nil_append] at hsplit
  rcases List.append_eq_append_iff.mp hsplit with ⟨more, htrim, -⟩ | ⟨more, hcs, hmore⟩
  · exact ⟨more, htrim.symm⟩
  · -- what is taken behind is blank, so it is no part of the word
    obtain rfl : more = [] := by
      rw [List.eq_nil_iff_forall_not_mem]
      intro c hc
      have hblank := hback c (hmore ▸ List.mem_append_left _ hc)
      rw [h.filled c (hcs ▸ List.mem_append_right _ hc)] at hblank
      cases hblank
    rw [List.append_nil] at hcs
    rw [← hcs]

end IsWord

/-- **Words with single blanks between them** are found again. -/
theorem wordsChars_join {words : List String} (h : ∀ word ∈ words, IsWord word.toList) :
    wordsChars (join " " words).toList = words.map String.toList := by
  induction words with
  | nil => rfl
  | cons word words ih =>
      rw [List.forall_mem_cons] at h
      cases words with
      | nil => exact h.1.wordsChars_eq
      | cons next words =>
          have hgap : ∀ c ∈ " ".toList, isBlank c = true := List.all_eq_true.mp rfl
          rw [join, String.toList_append, String.toList_append,
            wordsChars_append_blanks_append hgap (List.cons_ne_nil _ _), h.1.wordsChars_eq,
            ih h.2]
          rfl

theorem newline_not_mem_join {words : List String} (h : ∀ word ∈ words, IsWord word.toList) :
    '\n' ∉ (join " " words).toList := by
  induction words with
  | nil => exact List.not_mem_nil
  | cons word words ih =>
      rw [List.forall_mem_cons] at h
      cases words with
      | nil => exact h.1.newline_not_mem
      | cons next words =>
          rw [join, String.toList_append, String.toList_append, List.mem_append, List.mem_append,
            not_or, not_or]
          exact ⟨⟨h.1.newline_not_mem, by decide⟩, ih h.2⟩

end FabricAudit.Text
