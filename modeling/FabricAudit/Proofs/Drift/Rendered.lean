import FabricAudit.Proofs.Evidence.Settled
import FabricAudit.Proofs.LineDiff.Rendering
import FabricAudit.Proofs.Session.Frame

set_option autoImplicit false

/-! # What is rendered is what is counted

A finding about a changed configuration states how many lines were added and removed. The rendered
hunks of the node show as many: both are taken from the blocks of the two texts, and the hunks lose
none of the changes (`rendered_counts`). The running configuration is read off the store, where it
has been since the finding was made, so the rendering asks nothing of the lab, whatever has happened
since (`renderConfig_of_finding`).
-/

namespace FabricAudit

variable {σ : Type}

/-! ## Evidence only grows -/

/-- Every step adds to the evidence. -/
theorem Subject.Frame.grows (s : Subject σ) {asks : EvidenceKind → String → Prop}
    {probes : String → Prop} : s.Frame asks probes Audit.State.Grows :=
  ⟨.refl, .trans, fun kind _ _ => kind.collect_grows, fun _ _ st => .refl st⟩

namespace Session

/-- The state that steps leave that are taken one after the other, each with what is audited in it
and at its moment. -/
def leaves (steps : List (Subject σ × Timestamp × Step)) (st : Audit.State σ) : Audit.State σ :=
  steps.foldl (fun st x => (x.2.2.perform x.1 x.2.1 st).2) st

theorem leaves_grows (steps : List (Subject σ × Timestamp × Step)) (st : Audit.State σ) :
    st.Grows (leaves steps st) := by
  induction steps generalizing st with
  | nil => exact .refl st
  | cons x steps ih =>
      have hstep : st.Grows (x.2.2.perform x.1 x.2.1 st).2 :=
        x.2.2.perform_keeps (.grows x.1) x.2.1 st
      exact hstep.trans (ih _)

end Session

/-! ## Findings about changes -/

namespace ConfigFinding

/-- A finding about a changed configuration counts the changes of its lines. -/
theorem counts_of_between? {node desired running stderr : String} {rc : Int} {c : ChangedConfig}
    (h : between? node desired running rc stderr = some (.changed c)) :
    c.linesRemoved = changeCount .delete (textChanges desired running) ∧
      c.linesAdded = changeCount .insert (textChanges desired running) := by
  rw [between?] at h
  split at h
  · cases h
  · dsimp only at h
    split at h
    · cases h
    · obtain rfl := ConfigFinding.changed.inj (Option.some.inj h)
      constructor <;> dsimp only

end ConfigFinding

namespace Drift

/-- **The hunks of a node can be rendered from the evidence** that was there when a change was
found, and nothing else happens. -/
theorem renderConfig_of_finding {s s' : Subject σ} {st st' later : Audit.State σ}
    {findings : List ConfigFinding} {c : ChangedConfig}
    (hrun : configFindings s st = (.ok findings, st')) (hc : .changed c ∈ findings)
    (hdesired : s'.lab.desired c.node = s.lab.desired c.node) (hlater : st'.Grows later)
    (color : Bool) :
    ∃ desired running, renderConfig s' color c.node later
        = (.ok (Hunk.render color c.node desired running), later) ∧
      c.linesRemoved = changeCount .delete (textChanges desired running) ∧
      c.linesAdded = changeCount .insert (textChanges desired running) := by
  obtain ⟨-, found, rfl, hall⟩ := configFindings_of_ok hrun
  obtain ⟨x, hx, hid⟩ := List.mem_filterMap.mp hc
  obtain rfl : x = some (.changed c) := hid
  obtain ⟨node, -, hfinds⟩ := hall.exists_of_mem_right hx
  obtain rfl : c.node = node := hfinds.node_eq
  obtain ⟨record, desired, hrecord, hfile, hfound⟩ := hfinds
  refine ⟨desired.getD "", record.textAt "raw", ?_, ConfigFinding.counts_of_between? hfound.symm⟩
  have htext : Audit.ofExcept (s'.lab.desiredText c.node) later
      = (.ok (desired.getD ""), later) := by
    rw [Lab.desiredText, hdesired, hfile]
    rfl
  -- the record is still there, so it is not collected again
  have hkept : EvidenceKind.runningConfig.collect s'.lab s'.transport c.node later
      = (.ok record, later) := by
    rw [EvidenceKind.collect_eq_run]
    exact Collection.run_of_kept (hlater.records hrecord)
  exact (Audit.bind_ok htext _).trans (Audit.bind_ok hkept _)

/-- **The lines of rendered hunks**, by how they begin: a removed line, an added line, or the
heading of a hunk. -/
theorem countP_lines_render {node : String} (h : '\n' ∉ node.toList) (desired running : String) :
    let lines := Text.splitAt '\n' (Hunk.render false node desired running)
    lines.countP (Text.startsWith · "- ") = changeCount .delete (textChanges desired running) ∧
      lines.countP (Text.startsWith · "+ ") = changeCount .insert (textChanges desired running) ∧
      lines.countP (Text.startsWith · "@@ ") = (Hunk.ofTexts desired running).length := by
  intro lines
  -- neither the title nor the end of the text begins like any of them
  have hlines : ∀ start : String, start.toList.length ≤ 3 →
      Text.startsWith "── " start = false → Text.startsWith "" start = false →
      lines.countP (Text.startsWith · start)
        = ((Hunk.ofTexts desired running).flatMap (Hunk.hunkLines false)).countP
          (Text.startsWith · start) := by
    intro start hlength htitle hempty
    have htitle' : Text.startsWith (Hunk.title node) start = false := by
      rw [Hunk.title, String.append_assoc, Text.startsWith_append hlength, htitle]
    simp only [lines, Hunk.splitAt_render h, List.countP_append, List.countP_cons, htitle',
      hempty, List.countP_nil, Bool.false_eq_true, if_false, Nat.add_zero]
  refine ⟨?_, ?_, ?_⟩
  · rw [hlines "- " (by decide) (by decide) (by decide)]
    exact Hunk.countP_change .delete (by decide) desired running
  · rw [hlines "+ " (by decide) (by decide) (by decide)]
    exact Hunk.countP_change .insert (by decide) desired running
  · rw [hlines "@@ " (by decide) (by decide) (by decide)]
    exact Hunk.countP_heading desired running

/-- **What is rendered is what is counted.**

Of the lines of the rendered hunks of two texts, as many begin with a minus sign and a blank as
lines are removed, and as many with a plus sign and a blank as lines are added; there are as many
headings as hunks, and none exactly if the texts are the same.

So once a change has been found in the configuration of a node, its hunks show as many lines as the
finding says, after whatever steps, on whatever lab, as long as the desired configuration is the
same: the lab is given no command, and neither it nor the store changes. -/
theorem rendered_counts :
    (∀ node desired running : String, '\n' ∉ node.toList →
      let lines := Text.splitAt '\n' (Hunk.render false node desired running)
      lines.countP (Text.startsWith · "- ") = changeCount .delete (textChanges desired running) ∧
      lines.countP (Text.startsWith · "+ ") = changeCount .insert (textChanges desired running) ∧
      lines.countP (Text.startsWith · "@@ ")
        = (Hunk.ofBlocks (Hunk.blocks desired running)).length ∧
      (Hunk.ofBlocks (Hunk.blocks desired running) = [] ↔ desired = running)) ∧
    ∀ (s s' : Subject σ) (st st' : Audit.State σ) (findings : List ConfigFinding)
      (c : ChangedConfig) (steps : List (Subject σ × Timestamp × Session.Step)),
      configFindings s st = (.ok findings, st') → .changed c ∈ findings → '\n' ∉ c.node.toList →
      s'.lab.desired c.node = s.lab.desired c.node →
      let later := Session.leaves steps st'
      ∃ text, renderConfig s' false c.node later = (.ok text, later) ∧
        (Text.splitAt '\n' text).countP (Text.startsWith · "- ") = c.linesRemoved ∧
        (Text.splitAt '\n' text).countP (Text.startsWith · "+ ") = c.linesAdded := by
  constructor
  · intro node desired running hnode
    obtain ⟨hremoved, hadded, hheadings⟩ := countP_lines_render hnode desired running
    exact ⟨hremoved, hadded, hheadings, Hunk.ofTexts_eq_nil_iff desired running⟩
  · intro s s' st st' findings c steps hrun hc hnode hdesired later
    obtain ⟨desired, running, hrender, hremoved, hadded⟩ :=
      renderConfig_of_finding hrun hc hdesired (Session.leaves_grows steps st') false
    obtain ⟨hminus, hplus, -⟩ := countP_lines_render hnode desired running
    exact ⟨_, hrender, hminus.trans hremoved.symm, hplus.trans hadded.symm⟩

def fourVlans (script : Script) : Subject Unit :=
  ⟨⟨"lab", .standard, .empty, [], [], .object []⟩,
    script.lab
      ⟨[(["lab"], .directory), (["lab", "configs"], .directory),
        (["lab", "configs", "leaf1.cfg"],
          .file (some "vlan 2\nvlan 3\nvlan 4\nvlan 5\nend\n"))], []⟩ "/lab",
    .static []⟩

/-- It has another one and a line that looks like a removed one instead of the third. -/
def otherVlans : Script :=
  (Script.empty.addNode "leaf1" "ceos").addReply ⟨.switch, "leaf1", "show running-config"⟩
    ⟨0, "vlan 2\nvlan 3\n- vlan 4\n+ vlan 6\nvlan 5\nend\n", ""⟩

/-- The change that an answer has, if it has nothing else. -/
def onlyChange? : Except Fault (List ConfigFinding) → Option ChangedConfig
  | .ok [.changed c] => some c
  | _ => none

theorem eq_ok_of_onlyChange? {answer : Except Fault (List ConfigFinding)} {c : ChangedConfig}
    (h : onlyChange? answer = some c) : answer = .ok [.changed c] := by
  unfold onlyChange? at h
  split at h
  · cases h
    rfl
  · cases h

/-- One line is removed and two are added, also after the switch has gone. -/
theorem rendered_counts_otherVlans :
    ∃ findings c st', configFindings (fourVlans otherVlans) (Audit.fresh ⟨(), []⟩)
        = (.ok findings, st') ∧
      .changed c ∈ findings ∧ '\n' ∉ c.node.toList ∧
      let gone := fourVlans (otherVlans.breakNode "leaf1" "no such container")
      gone.lab.desired c.node = (fourVlans otherVlans).lab.desired c.node ∧
      let later := Session.leaves [(gone, .epoch, .snapshot)] st'
      ∃ text, renderConfig gone false c.node later = (.ok text, later) ∧
        (Text.splitAt '\n' text).countP (Text.startsWith · "- ") = 1 ∧
        (Text.splitAt '\n' text).countP (Text.startsWith · "+ ") = 2 := by
  have hfound : (onlyChange? (configFindings (fourVlans otherVlans) (Audit.fresh ⟨(), []⟩)).1).map
      (fun c => (c.node, c.linesRemoved, c.linesAdded)) = some ("leaf1", 1, 2) := by
    decide +kernel
  obtain ⟨c, hc, hcounts⟩ := Option.map_eq_some_iff.mp hfound
  obtain ⟨hnode, hcounts⟩ := Prod.mk.inj hcounts
  obtain ⟨hremoved, hadded⟩ := Prod.mk.inj hcounts
  have hrun : configFindings (fourVlans otherVlans) (Audit.fresh ⟨(), []⟩)
      = (.ok [.changed c], (configFindings (fourVlans otherVlans) (Audit.fresh ⟨(), []⟩)).2) :=
    Prod.ext (eq_ok_of_onlyChange? hc) rfl
  have hline : '\n' ∉ c.node.toList := by
    rw [hnode]
    decide
  refine ⟨_, c, _, hrun, List.mem_singleton_self _, hline, rfl, ?_⟩
  obtain ⟨-, hrendered⟩ := rendered_counts (σ := Unit)
  rw [← hremoved, ← hadded]
  exact hrendered _ _ _ _ _ c _ hrun (List.mem_singleton_self _) hline rfl

end Drift

end FabricAudit
