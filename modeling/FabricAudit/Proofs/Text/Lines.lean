import Mathlib.Data.List.Infix
import Mathlib.Data.List.SplitBy
import FabricAudit.Proofs.Document.Path
import FabricAudit.Proofs.Text.Output
import FabricAudit.Text.Lines

set_option autoImplicit false

/-! # Lines and their endings

The tokens of a text joined give the text back, so texts with the same tokens are the same
(`lineTokens_inj`). The text is cut wherever a line ends and nowhere else
(`cutTokens_eq_splitBy`). A newline ends its token, so a token without the blanks at its end holds none
(`newline_not_mem_trimEnd`). Where every carriage return belongs to the ending of its line, a text
has as many tokens as lines (`length_lineTokens`). Lines that hold no newline, each ended by one, are
what splitting at newlines gives back (`splitAt_unlines`).
-/

namespace FabricAudit.Text

/-! ## Tokens -/

/-- **The tokens joined are the text.** -/
theorem flatten_cutTokens (cs : List Char) : (cutTokens cs).flatten = cs := by
  fun_induction cutTokens cs with
  | case1 => rfl
  | case2 cs ih => rw [List.flatten_cons, ih]; rfl
  | case3 c cs hnewline hreturn ih => rw [List.flatten_cons, ih]; rfl
  | case4 c cs hnewline hreturn hnone ih =>
      rw [hnone, List.flatten_nil] at ih
      rw [← ih]
      rfl
  | case5 c cs hnewline hreturn token rest hcut ih =>
      rw [hcut, List.flatten_cons] at ih
      rw [List.flatten_cons, List.cons_append, ih]

/-- Texts with the same tokens are the same. -/
theorem lineTokens_inj {s t : String} : lineTokens s = lineTokens t ↔ s = t := by
  constructor
  · intro h
    have hcut : cutTokens s.toList = cutTokens t.toList :=
      List.map_injective_iff.mpr (fun _ _ => String.ofList_injective) h
    have hchars := congrArg List.flatten hcut
    rw [flatten_cutTokens, flatten_cutTokens] at hchars
    exact String.toList_injective hchars
  · rintro rfl
    rfl

theorem join_lineTokens (s : String) : String.join (lineTokens s) = s := by
  apply String.toList_injective
  rw [String.toList_join, lineTokens, List.flatMap_map]
  simp only [String.toList_ofList, List.flatMap_id']
  exact flatten_cutTokens s.toList

/-- Whether a line ends between two characters: always behind a newline, and behind a carriage
return unless its newline follows. -/
def endsLine (c next : Char) : Bool := c == '\n' || (c == '\r' && next != '\n')

/-- **A text is cut exactly where a line ends**: characters that follow each other stand in one
token unless a line ends between them. -/
theorem cutTokens_eq_splitBy (cs : List Char) :
    cutTokens cs = cs.splitBy fun c next => !endsLine c next := by
  fun_induction cutTokens cs with
  | case1 => rfl
  | case2 cs ih =>
      rw [ih]
      refine (List.splitBy_append (l := ['\n']) fun c hc next _ => ?_).symm
      obtain rfl : '\n' = c := Option.some.inj hc
      rfl
  | case3 c cs hnewline hreturn ih =>
      obtain ⟨rfl, hnext⟩ := hreturn
      rw [ih]
      refine (List.splitBy_append (l := ['\r']) fun c hc next hn => ?_).symm
      obtain rfl : '\r' = c := Option.some.inj hc
      have hne : next ≠ '\n' := fun h => hnext (h ▸ hn)
      simp [endsLine, hne]
  | case4 c cs hnewline hreturn hnone ih =>
      have hcs : cs = [] := by rw [← flatten_cutTokens cs, hnone, List.flatten_nil]
      rw [hcs]
      rfl
  | case5 c cs hnewline hreturn token rest hcut ih =>
      -- no line ends behind the first character, so it joins the first token of the others
      rw [hcut] at ih
      obtain ⟨hjoined, hfilled, hwhole, hcuts⟩ := List.splitBy_eq_iff.mp ih.symm
      rw [List.mem_cons, not_or] at hfilled
      cases token with
      | nil => exact absurd rfl hfilled.1
      | cons d token =>
          have hinside : endsLine c d = false := by
            rw [hjoined, List.flatten_cons, List.cons_append, List.head?_cons] at hreturn
            simpa [endsLine, hnewline] using hreturn
          symm
          rw [List.splitBy_eq_iff]
          refine ⟨by rw [hjoined]; rfl, by simpa using hfilled.2, ?_, ?_⟩
          · rw [List.forall_mem_cons] at hwhole ⊢
            refine ⟨List.isChain_cons_cons.mpr ⟨?_, hwhole.1⟩, hwhole.2⟩
            rw [hinside]
            rfl
          · cases rest with
            | nil => exact List.isChain_singleton _
            | cons next rest =>
                rw [List.isChain_cons_cons] at hcuts ⊢
                simpa using hcuts

/-- A newline stands nowhere but at the end of a token. -/
theorem newline_not_mem_dropLast {cs : List Char} :
    ∀ token ∈ cutTokens cs, '\n' ∉ token.dropLast := by
  fun_induction cutTokens cs with
  | case1 => exact List.forall_mem_nil _
  | case2 cs ih => exact List.forall_mem_cons.mpr ⟨List.not_mem_nil, ih⟩
  | case3 c cs hnewline hreturn ih => exact List.forall_mem_cons.mpr ⟨List.not_mem_nil, ih⟩
  | case4 c cs hnewline hreturn hnone ih =>
      exact List.forall_mem_singleton.mpr List.not_mem_nil
  | case5 c cs hnewline hreturn token rest hcut ih =>
      rw [hcut, List.forall_mem_cons] at ih
      refine List.forall_mem_cons.mpr ⟨?_, ih.2⟩
      intro hmem
      cases token with
      | nil => cases hmem
      | cons d token =>
          rw [List.dropLast_cons_cons, List.mem_cons] at hmem
          rcases hmem with hmem | hmem
          · exact hnewline hmem.symm
          · exact ih.1 hmem

/-- No blank is left at the end, so a newline that is left stood before the end. -/
theorem newline_mem_dropLast {cs : List Char} (h : '\n' ∈ trimEndChars cs) :
    '\n' ∈ cs.dropLast := by
  have heq : trimEndChars cs = cs.rdropWhile isBlank := rfl
  rcases List.eq_nil_or_concat cs with rfl | ⟨front, c, rfl⟩
  · cases h
  · rw [List.concat_eq_append] at h heq ⊢
    rw [List.dropLast_concat]
    rw [heq, List.rdropWhile_concat] at h
    split at h
    · exact (List.rdropWhile_prefix _ _).subset h
    · next hblank =>
        rcases List.mem_append.mp h with hmem | hmem
        · exact hmem
        · rw [← List.mem_singleton.mp hmem] at hblank
          exact absurd (by decide) hblank

/-- **A token without the blanks at its end is a line.** -/
theorem newline_not_mem_trimEnd {s token : String} (h : token ∈ lineTokens s) :
    '\n' ∉ (trimEnd token).toList := by
  obtain ⟨cs, hcs, rfl⟩ := List.mem_map.mp h
  rw [trimEnd, String.toList_ofList, String.toList_ofList]
  intro hmem
  exact newline_not_mem_dropLast cs hcs (newline_mem_dropLast hmem)

/-! ## Tokens and lines -/

/-- A carriage return with no newline behind it. It ends a token, and no line. -/
def HasLoneReturn (s : String) : Prop :=
  ∃ back, '\r' :: back <:+ s.toList ∧ back.head? ≠ some '\n'

theorem hasLoneReturn_iff {s : String} : HasLoneReturn s ↔
    ∃ tail ∈ s.toList.tails, tail.head? = some '\r' ∧ tail.tail.head? ≠ some '\n' := by
  constructor
  · rintro ⟨back, hback, hnext⟩
    exact ⟨'\r' :: back, (List.mem_tails _ _).mpr hback, rfl, hnext⟩
  · rintro ⟨tail, htail, hfirst, hnext⟩
    obtain ⟨back, rfl⟩ := List.head?_eq_some_iff.mp hfirst
    exact ⟨back, (List.mem_tails _ _).mp htail, hnext⟩

instance (s : String) : Decidable (HasLoneReturn s) := decidable_of_iff' _ hasLoneReturn_iff

/-- Without lone carriage returns both ways of cutting are one. -/
theorem cutTokens_eq_cutLines {cs : List Char}
    (h : ∀ back, '\r' :: back <:+ cs → back.head? = some '\n') : cutTokens cs = cutLines cs := by
  induction cs with
  | nil => rfl
  | cons c cs ih =>
      have hrest : cutTokens cs = cutLines cs :=
        ih fun back hback => h back (hback.trans (List.suffix_cons c cs))
      have hreturn : ¬(c = '\r' ∧ cs.head? ≠ some '\n') := by
        rintro ⟨rfl, hnext⟩
        exact hnext (h cs List.suffix_rfl)
      rw [cutTokens, cutLines, if_neg hreturn, hrest]

/-- **A text without lone carriage returns has as many tokens as lines.** -/
theorem length_lineTokens {s : String} (h : ¬HasLoneReturn s) :
    (lineTokens s).length = (lines s).length := by
  have hcut : cutTokens s.toList = cutLines s.toList := by
    apply cutTokens_eq_cutLines
    intro back hback
    by_contra hnext
    exact h ⟨back, hback, hnext⟩
  rw [lineTokens, lines, linesChars, List.length_map, List.length_map, List.length_map, hcut]

/-! ## How a line begins -/

/-- How a text begins is decided by as many characters of it. -/
theorem startsWith_append {front start : String} (h : start.toList.length ≤ front.toList.length)
    (rest : String) : startsWith (front ++ rest) start = startsWith front start := by
  rw [Bool.eq_iff_iff, startsWith, startsWith, List.isPrefixOf_iff_prefix,
    List.isPrefixOf_iff_prefix, String.toList_append]
  constructor
  · intro hstart
    exact List.prefix_of_prefix_length_le hstart (List.prefix_append _ _) h
  · intro hstart
    exact hstart.trans (List.prefix_append _ _)

/-! ## Splitting at line endings -/

/-- A line with its ending is the first piece of a text. -/
theorem splitAt_append_newline {line : String} (h : '\n' ∉ line.toList) (rest : String) :
    splitAt '\n' (line ++ "\n" ++ rest) = line :: splitAt '\n' rest := by
  rw [splitAt_append rfl, splitAt_eq_singleton h]
  rfl

/-- **Ended lines are split into the lines again**, with nothing after the last ending. -/
theorem splitAt_unlines {ls : List String} (h : ∀ line ∈ ls, '\n' ∉ line.toList) :
    splitAt '\n' (String.join (ls.map (· ++ "\n"))) = ls ++ [""] := by
  induction ls with
  | nil => rfl
  | cons line ls ih =>
      rw [List.forall_mem_cons] at h
      rw [List.map_cons, String.join_cons, splitAt_append_newline h.1, ih h.2]
      rfl

end FabricAudit.Text
