import FabricAudit.Proofs.Drift.Rendered

set_option autoImplicit false

/-! # Every line is accounted for

The changes of two texts leave no line of either out and make none up. Kept and removed lines, in
order, are the tokens of the text before, kept and added ones those of the text after, so either
text can be put together again (`textChanges_accounted`). What neither is removed nor added is a
common subsequence of both lists of tokens, and the counts that a finding states differ from the
numbers of tokens by its length. Nothing is removed and nothing added exactly where the texts are
the same.
-/

namespace FabricAudit

section

variable (desired running : String)

theorem textChanges_before :
    Change.before (textChanges desired running) = Text.lineTokens desired :=
  lineChanges_before _ _

theorem textChanges_after :
    Change.after (textChanges desired running) = Text.lineTokens running :=
  lineChanges_after _ _

/-- No line is removed and none is added exactly if the texts are the same. -/
theorem changeCount_eq_zero_iff :
    changeCount .delete (textChanges desired running) = 0 ∧
        changeCount .insert (textChanges desired running) = 0 ↔ desired = running := by
  have hlength := Change.length_changed (textChanges desired running)
  calc changeCount .delete (textChanges desired running) = 0 ∧
        changeCount .insert (textChanges desired running) = 0
      ↔ Change.changed (textChanges desired running) = [] := by
        rw [← List.length_eq_zero_iff, hlength, Nat.add_eq_zero_iff]
    _ ↔ Text.lineTokens desired = Text.lineTokens running := changed_lineChanges_eq_nil_iff _ _
    _ ↔ desired = running := Text.lineTokens_inj

end

/-- **Every line is accounted for.**

Take two texts, each cut into tokens wherever a line ends. Of the changes that lead from the one to
the other, the kept and removed lines are the tokens of the first text in order, and the kept and
added lines those of the second, so that both joined give the texts back. No line is removed and
none added exactly if the texts are the same. Some common subsequence of the two lists of tokens is
as long as either of them without its removed or added lines. A finding about a change of these
texts counts the removed and added lines. -/
theorem textChanges_accounted (desired running : String) :
    let changes := textChanges desired running
    let removed := changeCount .delete changes
    let added := changeCount .insert changes
    (∀ text, (Text.lineTokens text).map String.toList
      = text.toList.splitBy fun c next => !Text.endsLine c next) ∧
    Change.before changes = Text.lineTokens desired ∧
    Change.after changes = Text.lineTokens running ∧
    String.join (Change.before changes) = desired ∧
    String.join (Change.after changes) = running ∧
    (removed = 0 ∧ added = 0 ↔ desired = running) ∧
    (∃ common : List String,
      common.Sublist (Text.lineTokens desired) ∧ common.Sublist (Text.lineTokens running) ∧
      (Text.lineTokens desired).length = common.length + removed ∧
      (Text.lineTokens running).length = common.length + added) ∧
    ∀ node rc stderr c,
      ConfigFinding.between? node desired running rc stderr = some (.changed c) →
      c.linesRemoved = removed ∧ c.linesAdded = added := by
  intro changes removed added
  have hbefore := textChanges_before desired running
  have hafter := textChanges_after desired running
  refine ⟨fun text => ?_, hbefore, hafter, ?_, ?_, changeCount_eq_zero_iff desired running, ?_,
    fun node rc stderr c => ConfigFinding.counts_of_between?⟩
  · rw [Text.lineTokens, List.map_map, ← Text.cutTokens_eq_splitBy]
    exact (List.map_congr_left fun cs _ => String.toList_ofList).trans (List.map_id _)
  · rw [hbefore, Text.join_lineTokens]
  · rw [hafter, Text.join_lineTokens]
  -- the kept lines are the common subsequence
  · obtain ⟨hdesired, hrunning⟩ := Change.kept_sublist changes
    rw [hbefore] at hdesired
    rw [hafter] at hrunning
    refine ⟨Change.kept changes, hdesired, hrunning, ?_, ?_⟩
    · rw [← hbefore, Change.length_before, Change.length_kept]
    · rw [← hafter, Change.length_after, Change.length_kept]

end FabricAudit
