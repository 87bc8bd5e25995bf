import FabricAudit.Drift.Configuration
import FabricAudit.Proofs.Decimal.Digits
import FabricAudit.Proofs.LineDiff.Hunk
import FabricAudit.Proofs.Text.Lines

set_option autoImplicit false

/-! # Rendered hunks

In the rendered hunks a change is a line and so is a heading, and none of them holds a newline: the
text of a change ends before its line does, and a heading is made of digits. So splitting the text
gives its lines back (`splitAt_render`). How a line begins says what it is, and since the hunks show
every change once, the lines that begin like deletions and insertions are as many as there are
(`countP_change`), and those that begin like headings as many as the hunks (`countP_heading`).
-/

namespace FabricAudit

/-! ## Lines without newlines -/

/-- The numeral of a number holds digits only. -/
theorem Decimal.newline_not_mem (n : Nat) : '\n' ∉ (ofNat n).toList := by
  intro hmem
  rw [toList_ofNat] at hmem
  have hdigit := (isNumeral_digits n).digits _ hmem
  exact absurd hdigit (by decide)

namespace Hunk

theorem newline_not_mem_range (start stop : Nat) : '\n' ∉ (range start stop).toList := by
  have hfirst := Decimal.newline_not_mem
  unfold range
  dsimp only
  split
  · exact hfirst _
  · split
    · simp [hfirst]
    · simp [hfirst]

theorem newline_not_mem_heading (first last : Block String) :
    '\n' ∉ (heading first last).toList := by
  simp [heading, newline_not_mem_range]

/-- What stands before a line, by what becomes of it. -/
def marker : EditKind → String
  | .keep => "  "
  | .delete => "- "
  | .insert => "+ "

theorem changeLine_eq (c : Change String) :
    changeLine false c = marker c.kind ++ Text.trimEnd c.line := by
  obtain ⟨kind, line⟩ := c
  cases kind <;> rfl

theorem newline_not_mem_changeLine {c : Change String}
    (h : '\n' ∉ (Text.trimEnd c.line).toList) : '\n' ∉ (changeLine false c).toList := by
  have hmarker : '\n' ∉ (marker c.kind).toList := by
    cases c.kind <;> decide
  rw [changeLine_eq, String.toList_append, List.mem_append]
  exact not_or.mpr ⟨hmarker, h⟩

/-! ## The lines of hunks -/

/-- A hunk with blocks has a heading and a line for every line of its blocks. -/
theorem hunkLines_eq {hunk : List (Block String)} (h : hunk ≠ []) :
    ∃ first last : Block String, hunkLines false hunk = heading first last
      :: (hunk.flatMap Block.changes).map (changeLine false) := by
  refine ⟨hunk.head h, hunk.getLast h, ?_⟩
  rw [hunkLines, List.head?_eq_some_head h, List.getLast?_eq_some_getLast h]
  rfl

/-- Every line of hunks is a heading or that of a change. -/
theorem newline_not_mem_hunkLines {hunks : List (List (Block String))}
    (h : ∀ hunk ∈ hunks, ∀ b ∈ hunk, ∀ c ∈ b.changes, '\n' ∉ (Text.trimEnd c.line).toList) :
    ∀ line ∈ hunks.flatMap (hunkLines false), '\n' ∉ line.toList := by
  intro line hline
  obtain ⟨hunk, hhunk, hline⟩ := List.mem_flatMap.mp hline
  by_cases hnone : hunk = []
  · rw [hnone] at hline
    cases hline
  · obtain ⟨first, last, hlines⟩ := hunkLines_eq hnone
    rw [hlines, List.mem_cons] at hline
    rcases hline with rfl | hline
    · exact newline_not_mem_heading first last
    · obtain ⟨c, hc, rfl⟩ := List.mem_map.mp hline
      obtain ⟨b, hb, hc⟩ := List.mem_flatMap.mp hc
      exact newline_not_mem_changeLine (h hunk hhunk b hb c hc)

def ofTexts (desired running : String) : List (List (Block String)) :=
  ofBlocks (blocks desired running)

/-- The lines that are shown are tokens of the texts. -/
theorem mem_tokens {desired running : String} {c : Change String}
    (h : c ∈ textChanges desired running) :
    c.line ∈ Text.lineTokens desired ∨ c.line ∈ Text.lineTokens running := by
  by_cases hkind : c.kind = .insert
  · right
    rw [← lineChanges_after (Text.lineTokens desired) (Text.lineTokens running)]
    exact List.mem_map.mpr ⟨c, List.mem_filter.mpr ⟨h, by rw [hkind]; rfl⟩, rfl⟩
  · left
    rw [← lineChanges_before (Text.lineTokens desired) (Text.lineTokens running)]
    exact List.mem_map.mpr ⟨c, List.mem_filter.mpr ⟨h, bne_iff_ne.mpr hkind⟩, rfl⟩

theorem newline_not_mem_ofTexts (desired running : String) :
    ∀ line ∈ (ofTexts desired running).flatMap (hunkLines false), '\n' ∉ line.toList := by
  apply newline_not_mem_hunkLines
  apply ofBlocks_forall (lines_lasting fun line => '\n' ∉ (Text.trimEnd line).toList)
  intro b hb c hc
  have hchange : c ∈ textChanges desired running := List.mem_flatMap.mpr ⟨b, hb, hc⟩
  rcases mem_tokens hchange with hline | hline
  · exact Text.newline_not_mem_trimEnd hline
  · exact Text.newline_not_mem_trimEnd hline

def title (node : String) : String := "── " ++ node ++ " (desired → running) ──"

/-- **The lines of the rendered hunks**: the title, the lines of the hunks, and nothing after the
last ending. -/
theorem splitAt_render {node : String} (h : '\n' ∉ node.toList) (desired running : String) :
    Text.splitAt '\n' (render false node desired running)
      = title node :: (ofTexts desired running).flatMap (hunkLines false) ++ [""] := by
  have htitle : '\n' ∉ (title node).toList := by
    simp [title, h]
  have hrender : render false node desired running = title node ++ "\n" ++
      String.join (((ofTexts desired running).flatMap (hunkLines false)).map (· ++ "\n")) := by
    have hparts : "── " ++ node ++ " (desired → running) ──\n" = title node ++ "\n" := by
      apply String.toList_injective
      simp [title]
    show "── " ++ node ++ " (desired → running) ──\n" ++ _ = _
    rw [hparts]
    rfl
  rw [hrender, Text.splitAt_append_newline htitle,
    Text.splitAt_unlines (newline_not_mem_ofTexts desired running)]
  rfl

/-! ## Counting lines -/

/-- The lines with a property that no heading has are lines of changes. -/
theorem countP_hunkLines {p : String → Bool}
    (hp : ∀ first last : Block String, p (heading first last) = false)
    (hunks : List (List (Block String))) :
    (hunks.flatMap (hunkLines false)).countP p
      = (hunks.flatten.flatMap Block.changes).countP fun c => p (changeLine false c) := by
  induction hunks with
  | nil => rfl
  | cons hunk hunks ih =>
      have hhunk : (hunkLines false hunk).countP p
          = (hunk.flatMap Block.changes).countP fun c => p (changeLine false c) := by
        by_cases hnone : hunk = []
        · rw [hnone]
          rfl
        · obtain ⟨first, last, hlines⟩ := hunkLines_eq hnone
          rw [hlines, List.countP_cons_of_neg (by simp [hp]), List.countP_map]
          rfl
      rw [List.flatMap_cons, List.countP_append, List.flatten_cons, List.flatMap_append,
        List.countP_append, hhunk, ih]

/-- A line begins with the marker of a change if it is the line of such a change. -/
theorem startsWith_changeLine {kind : EditKind} (hkind : kind ≠ .keep) (c : Change String) :
    Text.startsWith (changeLine false c) (marker kind) = (c.kind == kind) := by
  have hlength : (marker kind).toList.length ≤ (marker c.kind).toList.length := by
    cases kind <;> cases c.kind <;> decide
  rw [changeLine_eq, Text.startsWith_append hlength]
  cases kind with
  | keep => exact absurd rfl hkind
  | delete => cases c.kind <;> decide
  | insert => cases c.kind <;> decide

/-- All headings begin in the same way. -/
theorem startsWith_heading (first last : Block String) {start : String}
    (h : start.toList.length ≤ 4) :
    Text.startsWith (heading first last) start = Text.startsWith "@@ -" start := by
  simp only [heading, String.append_assoc]
  exact Text.startsWith_append h _

/-- **Every change is shown in one line.** -/
theorem countP_change (kind : EditKind) (hkind : kind ≠ .keep) (desired running : String) :
    ((ofTexts desired running).flatMap (hunkLines false)).countP
        (fun line => Text.startsWith line (marker kind))
      = changeCount kind (textChanges desired running) := by
  -- no heading looks like a change, and kept lines are no changes either
  have hheading : ∀ first last : Block String,
      Text.startsWith (heading first last) (marker kind) = false := by
    intro first last
    cases kind with
    | keep => exact absurd rfl hkind
    | delete => exact startsWith_heading first last (by decide)
    | insert => exact startsWith_heading first last (by decide)
  have hchanged := changed_ofBlocks (Block.between_uniform (Text.lineTokens desired)
    (Text.lineTokens running))
  calc ((ofTexts desired running).flatMap (hunkLines false)).countP
        (fun line => Text.startsWith line (marker kind))
      = changeCount kind ((ofTexts desired running).flatten.flatMap Block.changes) := by
        rw [countP_hunkLines hheading, changeCount]
        simp only [startsWith_changeLine hkind]
    _ = changeCount kind (changed (ofTexts desired running).flatten) :=
        (Change.changeCount_changed hkind _).symm
    _ = changeCount kind (Change.changed (textChanges desired running)) :=
        congrArg (changeCount kind) hchanged
    _ = changeCount kind (textChanges desired running) :=
        Change.changeCount_changed hkind _

/-- **Every hunk has one heading**, and no other line looks like one. -/
theorem countP_heading (desired running : String) :
    ((ofTexts desired running).flatMap (hunkLines false)).countP
        (fun line => Text.startsWith line "@@ ") = (ofTexts desired running).length := by
  have hnonempty : ∀ hunk ∈ ofTexts desired running, hunk ≠ [] :=
    fun _ => ne_nil_of_mem_ofBlocks
  have hchange : ∀ c, Text.startsWith (changeLine false c) "@@ " = false := by
    intro c
    rw [changeLine_eq]
    cases c.kind <;> simp [marker, Text.startsWith, List.isPrefixOf]
  have hheading : ∀ first last : Block String,
      Text.startsWith (heading first last) "@@ " = true := by
    intro first last
    exact startsWith_heading first last (by decide)
  -- any hunks will do that are not empty
  generalize ofTexts desired running = hunks at hnonempty
  induction hunks with
  | nil => rfl
  | cons hunk hunks ih =>
      rw [List.forall_mem_cons] at hnonempty
      obtain ⟨first, last, hlines⟩ := hunkLines_eq hnonempty.1
      have hnone : ((hunk.flatMap Block.changes).map (changeLine false)).countP
          (fun line => Text.startsWith line "@@ ") = 0 := by
        rw [List.countP_map, List.countP_eq_zero]
        intro c _ hstart
        rw [Function.comp_apply, hchange] at hstart
        cases hstart
      rw [List.flatMap_cons, List.countP_append, ih hnonempty.2, hlines, List.countP_cons, hnone,
        if_pos (hheading first last), List.length_cons]
      omega

/-- **Two texts are the same exactly where they have no hunks.** -/
theorem ofTexts_eq_nil_iff (desired running : String) :
    ofTexts desired running = [] ↔ desired = running :=
  (ofBlocks_between_eq_nil_iff _ _).trans Text.lineTokens_inj

end Hunk

end FabricAudit
