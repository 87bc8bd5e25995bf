import FabricAudit.Proofs.Text.Words

set_option autoImplicit false

/-! # Lines that hold something

A reader of command output that skips blank lines and trims the others sees only the filled lines of
a text (`filledLines`), whatever their endings. A newline between two texts puts their filled lines
together (`filledLines_append_newline`), and it does not matter what stands at the seam: if the
first text is empty or has a newline of its own at the end, one more blank line comes about there;
if it ends with a carriage return, this becomes part of an ending.

A reading is one by lines (`ReadsByLine`) if it is gathered from the filled lines: it is put
together from those of parts of the text, and blank lines do not change it.
-/

namespace FabricAudit.Text

/-! ## From line to line -/

/-- Induction on the lines of a text: the last line, which nothing ends, and a line with its newline
in front of others. -/
@[elab_as_elim]
theorem lines_induction {motive : List Char → Prop}
    (last : ∀ line, '\n' ∉ line → motive line)
    (ended : ∀ line rest, '\n' ∉ line → motive rest → motive (line ++ '\n' :: rest))
    (cs : List Char) : motive cs := by
  -- with the beginning of a line in front, which has been read already
  suffices h : ∀ begun, '\n' ∉ begun → motive (begun ++ cs) from h [] List.not_mem_nil
  induction cs with
  | nil =>
      intro begun hbegun
      rw [List.append_nil]
      exact last begun hbegun
  | cons c cs ih =>
      intro begun hbegun
      by_cases hc : c = '\n'
      · rw [hc]
        exact ended begun cs hbegun (ih [] List.not_mem_nil)
      · have hmore : '\n' ∉ begun ++ [c] := by
          simpa [hbegun] using Ne.symm hc
        have hread := ih (begun ++ [c]) hmore
        rwa [List.append_assoc, List.singleton_append] at hread

/-! ## Filled lines -/

/-- The lines of a text that hold something besides blanks, each without the blanks at its ends. -/
def filledLines (cs : List Char) : List (List Char) :=
  ((linesChars cs).filter isFilled).map trimChars

/-- The endings of the lines do not matter. -/
theorem filledLines_eq (cs : List Char) :
    filledLines cs = ((cutLines cs).filter isFilled).map trimChars := by
  have hfilled : isFilled ∘ dropEnding = isFilled := funext isFilled_dropEnding
  have htrimmed : trimChars ∘ dropEnding = trimChars := funext trimChars_dropEnding
  rw [filledLines, linesChars, List.filter_map, List.map_map, hfilled, htrimmed]

/-- Blanks have no filled lines, however many newlines are among them. -/
theorem filledLines_eq_nil {cs : List Char} (h : ¬ isFilled cs = true) : filledLines cs = [] := by
  have hblank : ∀ c ∈ cs, isBlank c = true := trimChars_eq_nil_iff.mp (not_isFilled_iff.mp h)
  have hcount : (cutLines cs).countP isFilled = 0 := by
    have hfront := countP_cutLines_blanks_append hblank []
    rwa [List.append_nil] at hfront
  rw [filledLines_eq, List.map_eq_nil_iff, List.filter_eq_nil_iff]
  exact List.countP_eq_zero.mp hcount

/-- A line with its newline, and what follows it. -/
theorem filledLines_line_append {line : List Char} (h : '\n' ∉ line) (rest : List Char) :
    filledLines (line ++ '\n' :: rest) = filledLines line ++ filledLines rest := by
  have htrimmed : trimChars (line ++ ['\n']) = trimChars line :=
    trimChars_append_blanks (List.all_eq_true.mp rfl) line
  have hfilled : isFilled (line ++ ['\n']) = isFilled line := by
    rw [isFilled, isFilled, htrimmed]
  rw [filledLines_eq, cutLines_append_newline h, List.filter_cons, hfilled]
  split
  · next hline =>
      have hne : line ≠ [] := by
        rintro rfl
        cases hline
      have halone : filledLines line = [trimChars line] := by
        rw [filledLines_eq, cutLines_of_notMem h, if_neg hne, List.filter_cons_of_pos hline]
        rfl
      rw [halone, List.map_cons, htrimmed, filledLines_eq]
      rfl
  · next hline =>
      rw [filledLines_eq_nil hline, List.nil_append, filledLines_eq]

/-- **A newline puts the filled lines of two texts together**, whatever the first one ends with. -/
theorem filledLines_append_newline (front back : List Char) :
    filledLines (front ++ '\n' :: back) = filledLines front ++ filledLines back := by
  induction front using lines_induction with
  | last line h => exact filledLines_line_append h back
  | ended line rest h ih =>
      calc filledLines (line ++ '\n' :: rest ++ '\n' :: back)
          = filledLines (line ++ '\n' :: (rest ++ '\n' :: back)) := by
            rw [List.append_assoc, List.cons_append]
        _ = filledLines line ++ (filledLines rest ++ filledLines back) := by
            rw [filledLines_line_append h, ih]
        _ = filledLines (line ++ '\n' :: rest) ++ filledLines back := by
            rw [filledLines_line_append h, List.append_assoc]

/-- So the filled lines of texts with newlines between them are those of each, in order. -/
theorem filledLines_join (texts : List String) :
    filledLines (join "\n" texts).toList = texts.flatMap fun s => filledLines s.toList := by
  induction texts with
  | nil => rfl
  | cons s texts ih =>
      cases texts with
      | nil => rw [join, List.flatMap_singleton]
      | cons t texts =>
          have hchars : (join "\n" (s :: t :: texts)).toList
              = s.toList ++ '\n' :: (join "\n" (t :: texts)).toList := by
            rw [join, String.toList_append, String.toList_append, List.append_assoc]
            rfl
          rw [hchars, filledLines_append_newline, ih]
          rfl

/-- Leaving out the blank ones of some texts leaves no filled line out. -/
theorem filledLines_join_filter (texts : List String) :
    filledLines (join "\n" (texts.filter fun s => isFilled s.toList)).toList
      = filledLines (join "\n" texts).toList := by
  rw [filledLines_join, filledLines_join]
  induction texts with
  | nil => rfl
  | cons s texts ih =>
      rw [List.filter_cons, List.flatMap_cons]
      split
      · rw [List.flatMap_cons, ih]
      · next hblank => rw [ih, filledLines_eq_nil hblank, List.nil_append]

/-! ## Readers that look past blanks -/

/-- What is read of filled lines is what is read of all of them, if blanks tell nothing. -/
theorem filterMap_filledLines {β : Type} {f : List Char → Option β}
    (htrim : ∀ line, f (trimChars line) = f line) (hnone : f [] = none) (cs : List Char) :
    (filledLines cs).filterMap f = (linesChars cs).filterMap f := by
  rw [filledLines, List.filterMap_map, List.filterMap_filter]
  refine List.filterMap_congr fun line _ => ?_
  split
  · exact htrim line
  · next hblank =>
      rw [← htrim, not_isFilled_iff.mp hblank, hnone]

/-- So are the lines that are counted. -/
theorem countP_filledLines {p : List Char → Bool} (htrim : ∀ line, p (trimChars line) = p line)
    (hnone : p [] = false) (cs : List Char) :
    (filledLines cs).countP p = (linesChars cs).countP p := by
  rw [filledLines, List.countP_map, List.countP_filter]
  refine List.countP_congr fun line _ => ?_
  rw [Function.comp_apply, htrim, Bool.and_eq_true, and_iff_left_iff_imp]
  intro hcounted
  by_contra hblank
  rw [← htrim, not_isFilled_iff.mp hblank, hnone] at hcounted
  cases hcounted

/-- **A reading of texts by their lines.** It is gathered from the filled lines of a text and sees
nothing else of it. A newline between two texts puts their readings together, and blank lines change
nothing, wherever they stand. -/
structure ReadsByLine {β : Type} (read : String → β) (gather : List (List Char) → β)
    (op : β → β → β) : Prop where
  eq_gather : ∀ s, read s = gather (filledLines s.toList)
  append_newline : ∀ a b, read (a ++ "\n" ++ b) = op (read a) (read b)
  blank_lines : ∀ lines : List String,
    read (join "\n" (lines.filter fun s => isFilled s.toList)) = read (join "\n" lines)

/-- **What is gathered part by part from filled lines is read by lines.** -/
theorem ReadsByLine.of_eq_gather {β : Type} {read : String → β} {gather : List (List Char) → β}
    {op : β → β → β} (heq : ∀ s, read s = gather (filledLines s.toList))
    (happend : ∀ front back, gather (front ++ back) = op (gather front) (gather back)) :
    ReadsByLine read gather op where
  eq_gather := heq
  append_newline a b := by
    have hchars : (a ++ "\n" ++ b).toList = a.toList ++ '\n' :: b.toList := by simp
    rw [heq, heq, heq, hchars, filledLines_append_newline, happend]
  blank_lines lines := by rw [heq, heq, filledLines_join_filter]

end FabricAudit.Text
