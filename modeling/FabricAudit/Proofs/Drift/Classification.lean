import FabricAudit.Drift.Configuration
import FabricAudit.Proofs.LineDiff.Block
import FabricAudit.Proofs.Text.Lines
import FabricAudit.Proofs.Text.Trimmed

set_option autoImplicit false

/-! # What is found about a configuration

Three things can be found about the configuration of a node: none was had, it is the desired one, or
it has changed. Which of them is read off the return code and the two texts (`between?_classified`).
An output is tested after trimming, but that it is no configuration can be told from the whole of it
(`isConfig_eq_false_iff`). A change is counted by the tokens of the line diff and stated beside the
numbers of lines; the counts fit these numbers wherever tokens and lines are the same.
-/

namespace FabricAudit

/-- What was had cannot be a configuration: the command failed, hardly a line holds anything, or
there is an error message. -/
def Unusable (running : String) (rc : Int) : Prop :=
  rc ≠ 0 ∨ Text.filledCount running < 5 ∨
    ∃ word ∈ ["invalid input", "error:", "% invalid", "command not found"],
      Text.contains (Text.lower running) word = true

/-- An error word is a run of ASCII characters with no blank at its ends. -/
theorem errorWords_delimited : ∀ word ∈ errorWords,
    word.toList.all (fun c => c.toNat < 128) = true ∧
      word.toList.head?.any (fun c => !Text.isBlank c) = true ∧
      word.toList.getLast?.any (fun c => !Text.isBlank c) = true := by
  decide

/-- **An output is no configuration** if it has too few lines or an error message, the blanks at its
ends counted or not. -/
theorem isConfig_eq_false_iff {output : String} : isConfig output = false ↔
    Text.filledCount output < leastConfigLines ∨
      ∃ word ∈ errorWords, Text.contains (Text.lower output) word = true := by
  have hwords : errorWords.any (fun word => Text.contains (Text.lower (Text.trim output)) word)
      = errorWords.any fun word => Text.contains (Text.lower output) word := by
    rw [Bool.eq_iff_iff, List.any_eq_true, List.any_eq_true]
    refine exists_congr fun word => and_congr_right fun hword => ?_
    obtain ⟨hascii, hfirst, hlast⟩ := errorWords_delimited word hword
    rw [Text.contains_lower_trim output (by simpa using hascii) hfirst hlast]
  rw [isConfig, hwords, Text.filledCount_trim, Bool.and_eq_false_iff, decide_eq_false_iff_not,
    Nat.not_le, Bool.not_eq_false', List.any_eq_true]

namespace ConfigFinding

/-! ## Counting a change -/

section

variable (desired running : String)

/-- Texts that are not the same have a line that is in one of them only. -/
theorem one_le_changeCount (h : desired ≠ running) :
    1 ≤ changeCount .insert (textChanges desired running)
      + changeCount .delete (textChanges desired running) := by
  have hlength := Change.length_changed (textChanges desired running)
  have hne : Change.changed (textChanges desired running) ≠ [] := by
    intro hnone
    exact h (Text.lineTokens_inj.mp ((changed_lineChanges_eq_nil_iff _ _).mp hnone))
  have hpos := List.length_pos_of_ne_nil hne
  omega

/-- What is removed is of the desired lines, what is added is of the running ones, and the others
are kept. -/
theorem changeCount_balanced :
    (Text.lineTokens desired).length = changeCount .keep (textChanges desired running)
        + changeCount .delete (textChanges desired running) ∧
      (Text.lineTokens running).length = changeCount .keep (textChanges desired running)
        + changeCount .insert (textChanges desired running) := by
  rw [← Change.length_before, ← Change.length_after, textChanges, lineChanges_before,
    lineChanges_after]
  exact ⟨rfl, rfl⟩

end

/-! ## The three findings -/

variable {desired running : String} {rc : Int}

theorem unusable_iff : (rc ≠ 0 || !isConfig running) = true ↔ Unusable running rc := by
  rw [Bool.or_eq_true, decide_eq_true_eq, Bool.not_eq_true', isConfig_eq_false_iff]
  rfl

variable (node stderr : String)

theorem between?_of_unusable (h : Unusable running rc) :
    ∃ m, between? node desired running rc stderr = some (.missing m) := by
  rw [between?, if_pos (unusable_iff.mpr h)]
  exact ⟨_, rfl⟩

theorem between?_of_same (h : ¬Unusable running rc)
    (hhash : Sha256.digest desired = Sha256.digest running) :
    between? node desired running rc stderr = none := by
  rw [between?, if_neg (unusable_iff.not.mpr h)]
  exact if_pos hhash

theorem between?_of_changed (h : ¬Unusable running rc)
    (hhash : Sha256.digest desired ≠ Sha256.digest running) :
    between? node desired running rc stderr = some (.changed ⟨node, Sha256.digest desired,
      Sha256.digest running, (Text.lines desired).length, (Text.lines running).length,
      changeCount .insert (textChanges desired running),
      changeCount .delete (textChanges desired running)⟩) := by
  rw [between?, if_neg (unusable_iff.not.mpr h)]
  exact if_neg hhash

/-- **What is found about the configuration of a node.**

None was had exactly if the output is unusable. Otherwise nothing is found exactly if the two texts
have the same digest, and a change exactly if they have not. A change states how many lines the two
texts have, and at least one line is removed or added. If no carriage return stands alone in either
text, the counts fit: no more lines are removed than were desired, no more added than are running,
and without them the two texts have equally many. -/
theorem between?_classified (node desired running : String) (rc : Int) (stderr : String) :
    let found := between? node desired running rc stderr
    ((∃ m, found = some (.missing m)) ↔ Unusable running rc) ∧
    (found = none ↔
      ¬Unusable running rc ∧ Sha256.digest desired = Sha256.digest running) ∧
    ((∃ c, found = some (.changed c)) ↔
      ¬Unusable running rc ∧ Sha256.digest desired ≠ Sha256.digest running) ∧
    ∀ c, found = some (.changed c) →
      c.desiredLines = (Text.lines desired).length ∧
      c.runningLines = (Text.lines running).length ∧
      1 ≤ c.linesAdded + c.linesRemoved ∧
      (¬Text.HasLoneReturn desired → ¬Text.HasLoneReturn running →
        c.linesRemoved ≤ c.desiredLines ∧ c.linesAdded ≤ c.runningLines ∧
        c.desiredLines - c.linesRemoved = c.runningLines - c.linesAdded) := by
  intro found
  by_cases hbad : Unusable running rc
  · obtain ⟨m, hm⟩ : ∃ m, found = some (.missing m) := between?_of_unusable node stderr hbad
    simp [hm, hbad]
  by_cases hhash : Sha256.digest desired = Sha256.digest running
  · have hnone : found = none := between?_of_same node stderr hbad hhash
    simp [hnone, hbad, hhash]
  have hchanged : found = some (.changed _) := between?_of_changed node stderr hbad hhash
  -- from here on it matters what was found, and not how
  clear_value found
  obtain ⟨hbefore, hafter⟩ := changeCount_balanced desired running
  have hne : desired ≠ running := fun h => hhash (congrArg Sha256.digest h)
  refine ⟨?_, ?_, ?_, ?_⟩
  · simp [hchanged, hbad]
  · simp [hchanged, hhash]
  · simp [hchanged, hbad, hhash]
  · intro c hc
    rw [hchanged] at hc
    obtain rfl := ConfigFinding.changed.inj (Option.some.inj hc)
    dsimp only
    refine ⟨rfl, rfl, one_le_changeCount desired running hne, fun hdesired hrunning => ?_⟩
    rw [Text.length_lineTokens hdesired] at hbefore
    rw [Text.length_lineTokens hrunning] at hafter
    omega

/-- Lines that end in both ways: one is removed and two are added. -/
theorem between?_classified_mixedEndings :
    let desired := "vlan 2\r\nvlan 3\nvlan 4\nvlan 5\nend"
    let running := "vlan 2\r\nvlan 3\nvlan 4\nvlan 6\n\nend"
    ∃ c, between? "leaf1" desired running 0 "" = some (.changed c) ∧
      ¬Text.HasLoneReturn desired ∧ ¬Text.HasLoneReturn running ∧
      1 ≤ c.linesAdded + c.linesRemoved ∧
      c.linesRemoved ≤ 5 ∧ c.linesAdded ≤ 6 ∧ 5 - c.linesRemoved = 6 - c.linesAdded := by
  intro desired running
  obtain ⟨-, -, hchanged, hcounts⟩ := between?_classified "leaf1" desired running 0 ""
  have husable : ¬Unusable running 0 := by
    rw [← unusable_iff]
    decide
  have hdesired : ¬Text.HasLoneReturn desired := by decide
  have hrunning : ¬Text.HasLoneReturn running := by decide
  obtain ⟨c, hc⟩ := hchanged.mpr ⟨husable, by decide +kernel⟩
  obtain ⟨hbefore, hafter, hone, hfit⟩ := hcounts c hc
  have hlines : (Text.lines desired).length = 5 ∧ (Text.lines running).length = 6 := by decide
  have hfit := hfit hdesired hrunning
  rw [hbefore, hafter, hlines.1, hlines.2] at hfit
  exact ⟨c, hc, hdesired, hrunning, hone, hfit⟩

end ConfigFinding

end FabricAudit
