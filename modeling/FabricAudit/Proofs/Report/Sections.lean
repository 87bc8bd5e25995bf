import Mathlib.Data.List.Induction
import Mathlib.Data.List.Nodup
import FabricAudit.Report.Markdown

set_option autoImplicit false

/-! # Sections of a Markdown report

Results are put into sections one after the other: into the section of their phase if there is one,
else into a new one at the end. What comes of it is a stable partition of the results
(`Markdown.Partitions`): adding a result to a section keeps it one (`Partitions.addTo`), so the
sections of any list of results are one (`sections_partitions`), and the text of a report has a
heading for each of them and, for every result, a bullet with its status, name and message
(`render_partitions`).
-/

namespace FabricAudit.Markdown

/-- The results of a phase, in their order. -/
def ofPhase (phase : String) (items : List Document) : List Document :=
  items.filter fun item => phaseOf item = phase

/-- **The sections are a stable partition of the results.** -/
structure Partitions (items : List Document) (groups : List (String × List Document)) : Prop where
  /-- There is a section for every phase that occurs, and for no other. -/
  phases : ∀ phase, phase ∈ groups.map (·.1) ↔ ∃ item ∈ items, phaseOf item = phase
  /-- Sections stand in the order in which their phases first occur, so there are no two of one
  phase. -/
  ordered : (groups.map (·.1)).Pairwise fun p q =>
    (items.map phaseOf).idxOf p < (items.map phaseOf).idxOf q
  /-- A section has the results of its phase, in their order. -/
  bullets : ∀ group ∈ groups, group.2 = ofPhase group.1 items
  /-- All sections together have every result once. -/
  perm : (groups.flatMap (·.2)).Perm items

/-! ## Adding a result -/

theorem ofPhase_append (phase : String) (items more : List Document) :
    ofPhase phase (items ++ more) = ofPhase phase items ++ ofPhase phase more :=
  List.filter_append items more

theorem ofPhase_ofPhase (phase : String) (items : List Document) :
    ofPhase phase (ofPhase phase items) = ofPhase phase items := by
  simp only [ofPhase, List.filter_filter, Bool.and_self]

theorem ofPhase_eq_nil_iff {phase : String} {items : List Document} :
    ofPhase phase items = [] ↔ ∀ item ∈ items, phaseOf item ≠ phase := by
  simp only [ofPhase, List.filter_eq_nil_iff, decide_eq_true_iff, ne_eq]

theorem ofPhase_concat (phase : String) (items : List Document) (item : Document) :
    ofPhase phase (items ++ [item])
      = ofPhase phase items ++ if phaseOf item = phase then [item] else [] := by
  rw [ofPhase_append]
  congr 1
  by_cases h : phaseOf item = phase <;> simp [ofPhase, h]

/-- A result of a new phase gets a section of its own, behind the others. -/
theorem addTo_of_notMem {phase : String} {groups : List (String × List Document)}
    (h : phase ∉ groups.map (·.1)) (item : Document) :
    addTo phase item groups = groups ++ [(phase, [item])] := by
  induction groups with
  | nil => rfl
  | cons group groups ih =>
      obtain ⟨p, items⟩ := group
      rw [List.map_cons, List.mem_cons, not_or] at h
      rw [addTo, if_neg (Ne.symm h.1), ih h.2, List.cons_append]

/-- Otherwise it goes behind the other results of its phase. -/
theorem addTo_append_cons {phase : String} {front : List (String × List Document)}
    (h : phase ∉ front.map (·.1)) (items : List Document) (back : List (String × List Document))
    (item : Document) :
    addTo phase item (front ++ (phase, items) :: back)
      = front ++ (phase, items ++ [item]) :: back := by
  induction front with
  | nil => rw [List.nil_append, addTo, if_pos rfl, List.nil_append]
  | cons group front ih =>
      obtain ⟨p, items'⟩ := group
      rw [List.map_cons, List.mem_cons, not_or] at h
      rw [List.cons_append, addTo, if_neg (Ne.symm h.1), ih h.2, List.cons_append]

/-- The first section of a phase, with no other of this phase before it. -/
theorem exists_first_section {phase : String} {groups : List (String × List Document)}
    (h : phase ∈ groups.map (·.1)) : ∃ front items back,
      groups = front ++ (phase, items) :: back ∧ phase ∉ front.map (·.1) := by
  induction groups with
  | nil => cases h
  | cons group groups ih =>
      obtain ⟨p, items⟩ := group
      by_cases hp : phase = p
      · exact ⟨[], items, groups, by rw [hp, List.nil_append], List.not_mem_nil⟩
      · obtain ⟨front, items', back, rfl, hfront⟩ := ih ((List.mem_cons.mp h).resolve_left hp)
        refine ⟨(p, items) :: front, items', back, rfl, ?_⟩
        rw [List.map_cons, List.mem_cons, not_or]
        exact ⟨hp, hfront⟩

namespace Partitions

variable {items : List Document} {groups : List (String × List Document)}

theorem nil : Partitions [] [] where
  phases phase := by simp
  ordered := .nil
  bullets := nofun
  perm := .refl _

theorem nodup (h : Partitions items groups) : (groups.map (·.1)).Nodup :=
  h.ordered.imp fun hlt heq => absurd hlt (by rw [heq]; exact Nat.lt_irrefl _)

/-- The one section of a phase. -/
theorem exists_section (h : Partitions items groups) {phase : String}
    (hphase : phase ∈ groups.map (·.1)) : ∃ front own back,
      groups = front ++ (phase, own) :: back ∧ phase ∉ front.map (·.1) ∧
        phase ∉ back.map (·.1) := by
  obtain ⟨front, own, back, rfl, hfront⟩ := exists_first_section hphase
  have hnodup := h.nodup
  rw [List.map_append, List.map_cons] at hnodup
  exact ⟨front, own, back, rfl, hfront, (List.nodup_cons.mp hnodup.of_append_right).1⟩

/-- The phases of the sections come in the same order when a result is added at the end. -/
theorem ordered_concat (h : Partitions items groups) (item : Document) :
    (groups.map (·.1)).Pairwise fun p q =>
      ((items ++ [item]).map phaseOf).idxOf p < ((items ++ [item]).map phaseOf).idxOf q := by
  refine h.ordered.imp_of_mem fun {p q} hp hq hlt => ?_
  have hfound : ∀ phase ∈ groups.map (·.1), ((items ++ [item]).map phaseOf).idxOf phase
      = (items.map phaseOf).idxOf phase := by
    intro phase hphase
    rw [List.map_append, List.idxOf_append_of_mem (List.mem_map.mpr ((h.phases phase).mp hphase))]
  rwa [hfound p hp, hfound q hq]

/-- A phase that occurs for the first time. -/
theorem addTo_new (h : Partitions items groups) {item : Document}
    (hnew : phaseOf item ∉ groups.map (·.1)) :
    Partitions (items ++ [item]) (Markdown.addTo (phaseOf item) item groups) := by
  have hother : ∀ other ∈ items, phaseOf other ≠ phaseOf item := fun other hmem heq =>
    hnew ((h.phases _).mpr ⟨other, hmem, heq⟩)
  rw [addTo_of_notMem hnew]
  have hphases : (groups ++ [(phaseOf item, [item])]).map (·.1)
      = groups.map (·.1) ++ [phaseOf item] := List.map_append
  refine ⟨fun phase => ?_, ?_, fun group hgroup => ?_, ?_⟩
  · simp only [List.map_append, List.mem_append, h.phases, or_and_right, exists_or]
    simp [eq_comm]
  · rw [hphases, List.pairwise_append]
    refine ⟨h.ordered_concat item, List.pairwise_singleton _ _, fun p hp q hq => ?_⟩
    obtain rfl : q = phaseOf item := List.mem_singleton.mp hq
    -- the other phases occur among the results before, this one only behind them
    have hp' : p ∈ items.map phaseOf := List.mem_map.mpr ((h.phases p).mp hp)
    have hitem : phaseOf item ∉ items.map phaseOf := fun hmem =>
      hnew ((h.phases _).mpr (List.mem_map.mp hmem))
    rw [List.map_append, List.idxOf_append_of_mem hp', List.idxOf_append_of_notMem hitem]
    exact Nat.lt_add_right _ (List.idxOf_lt_length_of_mem hp')
  · rcases List.mem_append.mp hgroup with hold | hlast
    · have hne : phaseOf item ≠ group.1 := fun heq => hnew (heq ▸ List.mem_map_of_mem hold)
      rw [ofPhase_concat, if_neg hne, List.append_nil, h.bullets group hold]
    · obtain rfl := List.mem_singleton.mp hlast
      have hnone : ofPhase (phaseOf item) items = [] := ofPhase_eq_nil_iff.mpr hother
      rw [ofPhase_concat, if_pos rfl, hnone, List.nil_append]
  · rw [List.flatMap_append]
    exact h.perm.append_right _

/-- A phase that has a section already. -/
theorem addTo_known (h : Partitions items groups) {item : Document}
    (hknown : phaseOf item ∈ groups.map (·.1)) :
    Partitions (items ++ [item]) (Markdown.addTo (phaseOf item) item groups) := by
  obtain ⟨front, old, back, rfl, hfront, hback⟩ := h.exists_section hknown
  rw [addTo_append_cons hfront]
  have hphases : (front ++ (phaseOf item, old ++ [item]) :: back).map (·.1)
      = (front ++ (phaseOf item, old) :: back).map (·.1) := by
    simp only [List.map_append, List.map_cons]
  refine ⟨fun phase => ?_, ?_, fun group hgroup => ?_, ?_⟩
  · rw [hphases, h.phases]
    constructor
    · rintro ⟨other, hmem, hphase⟩
      exact ⟨other, List.mem_append_left _ hmem, hphase⟩
    · rintro ⟨other, hmem, rfl⟩
      rcases List.mem_append.mp hmem with hmem | hmem
      · exact ⟨other, hmem, rfl⟩
      · rw [List.mem_singleton.mp hmem]
        exact (h.phases _).mp hknown
  · rw [hphases]
    exact h.ordered_concat item
  · rw [ofPhase_concat]
    rcases List.mem_append.mp hgroup with hmem | hmem
    -- a section of another phase stays as it is
    · have hne : phaseOf item ≠ group.1 := fun heq => hfront (heq ▸ List.mem_map_of_mem hmem)
      rw [if_neg hne, List.append_nil, h.bullets group (List.mem_append_left _ hmem)]
    · rcases List.mem_cons.mp hmem with rfl | hmem
      · rw [if_pos rfl, ← h.bullets (phaseOf item, old) (by simp)]
      · have hne : phaseOf item ≠ group.1 := fun heq => hback (heq ▸ List.mem_map_of_mem hmem)
        rw [if_neg hne, List.append_nil, h.bullets group (by simp [hmem])]
  · refine List.Perm.trans ?_ (h.perm.append_right [item])
    simp only [List.flatMap_append, List.flatMap_cons, List.append_assoc]
    have hmoved : List.Perm ([item] ++ back.flatMap (·.2)) (back.flatMap (·.2) ++ [item]) :=
      List.perm_append_comm
    exact (hmoved.append_left old).append_left _

/-- **Adding a result** to the section of its phase keeps the sections a stable partition. -/
theorem addTo (h : Partitions items groups) (item : Document) :
    Partitions (items ++ [item]) (Markdown.addTo (phaseOf item) item groups) := by
  by_cases hknown : phaseOf item ∈ groups.map (·.1)
  · exact h.addTo_known hknown
  · exact h.addTo_new hknown

/-- Sections of other phases have no result of a phase. -/
theorem ofPhase_flatMap_eq_nil (h : Partitions items groups) {phase : String}
    {others : List (String × List Document)} (hothers : others ⊆ groups)
    (hphase : phase ∉ others.map (·.1)) : ofPhase phase (others.flatMap (·.2)) = [] := by
  rw [ofPhase_eq_nil_iff]
  rintro item hitem rfl
  obtain ⟨group, hgroup, hitem⟩ := List.mem_flatMap.mp hitem
  rw [h.bullets group (hothers hgroup)] at hitem
  have heq : phaseOf item = group.1 := of_decide_eq_true (List.mem_filter.mp hitem).2
  exact hphase (heq ▸ List.mem_map_of_mem hgroup)

/-- **Read one after the other**, the sections have the results of each phase in their order. -/
theorem ofPhase_flatMap (h : Partitions items groups) (phase : String) :
    ofPhase phase (groups.flatMap (·.2)) = ofPhase phase items := by
  by_cases hphase : phase ∈ groups.map (·.1)
  · obtain ⟨front, own, back, rfl, hfront, hback⟩ := h.exists_section hphase
    have hown : own = ofPhase phase items := h.bullets (phase, own) (by simp)
    have hbefore := h.ofPhase_flatMap_eq_nil (List.subset_append_left _ _) hfront
    have hbehind : ofPhase phase (back.flatMap (·.2)) = [] :=
      h.ofPhase_flatMap_eq_nil (fun group hmem => by simp [hmem]) hback
    rw [List.flatMap_append, List.flatMap_cons, ofPhase_append, ofPhase_append, hbefore, hbehind,
      List.nil_append, List.append_nil, hown, ofPhase_ofPhase]
  · rw [h.ofPhase_flatMap_eq_nil (List.Subset.refl _) hphase, eq_comm, ofPhase_eq_nil_iff]
    exact fun item hitem heq => hphase ((h.phases phase).mpr ⟨item, hitem, heq⟩)

end Partitions

/-- **The sections of any results** are a stable partition of them. -/
theorem sections_partitions (items : List Document) : Partitions items (sections items) := by
  induction items using List.reverseRecOn with
  | nil => exact .nil
  | append_singleton items item ih =>
      rw [sections, List.foldl_append]
      exact ih.addTo item

/-! ## The text of a report -/

/-- The lines of a report before its sections. -/
def opening (report : Document) (title : String) : List String :=
  let summary := (report.get? "summary").getD .null
  let code := ((summary.get? "exit_code").bind Document.word?).getD 1
  ["# " ++ title, "", "## Summary", "- Exit code: " ++ Decimal.ofInt code] ++ countsLine summary
    ++ ["", "## Results"]

/-- What is shown is the text under a key, or something else if there is none. -/
theorem text_getD_eq_iff {item : Document} {key other s : String} :
    ((item.get? key).bind Document.text?).getD other = s ↔ item.get? key = some (.text s) ∨
      s = other ∧ ∀ t, item.get? key ≠ some (.text t) := by
  rcases item.get? key with _ | d
  · simp [eq_comm]
  · cases d <;> simp [Document.text?, eq_comm]

/-- **The text of a report loses no result.**

Take any document as a report, and any title. The text has the lines of the opening and then, for
each section, a heading with its phase, a bullet for each of its results and an empty line. The
sections are the phases of the results, each phase once and in the order in which they first occur;
a result without a text for its phase counts as one of the phase `other`. The bullets of a section
are the results of its phase in their order, and show the texts that are given for status, name and
message of the result, each of which is left empty if there is none. So every result has exactly one
bullet, and read one after the other the sections have the results of each phase in their order.
Nothing but a list under `results` has any. -/
theorem render_partitions (report : Document) (title : String) :
    (∀ items, report.get? "results" = some (.list items) → results report = items) ∧
    ((∀ items, report.get? "results" ≠ some (.list items)) → results report = []) ∧
    (∀ item phase, phaseOf item = phase ↔ item.get? "phase" = some (.text phase) ∨
      phase = "other" ∧ ∀ s, item.get? "phase" ≠ some (.text s)) ∧
    (∀ item key s, field item key = s ↔ item.get? key = some (.text s) ∨
      s = "" ∧ ∀ t, item.get? key ≠ some (.text t)) ∧
    ∃ groups,
      render report title = Text.join "\n" (opening report title ++ groups.flatMap fun group =>
        ("### " ++ group.1) :: (group.2.map (fun item => "- **" ++ field item "status"
          ++ "** \x60" ++ field item "name" ++ "\x60: " ++ field item "message") ++ [""])) ∧
      Partitions (results report) groups ∧
      ∀ phase, ofPhase phase (groups.flatMap (·.2)) = ofPhase phase (results report) := by
  have hsections := sections_partitions (results report)
  refine ⟨fun items hitems => ?_, fun hnone => ?_, fun _ _ => text_getD_eq_iff,
    fun _ _ _ => text_getD_eq_iff, sections (results report), rfl, hsections,
    hsections.ofPhase_flatMap⟩
  · rw [results, hitems]
  · rw [results]
    split
    · next items hitems => exact absurd hitems (hnone items)
    · rfl

/-- Results of two phases in turn, with one in between that has no phase. -/
def interleaved : List Document :=
  [.object [("name", .text "bgp::leaf1"), ("phase", .text "underlay"), ("status", .text "PASS")],
    .object [("name", .text "vxlan::leaf1"), ("phase", .text "intent"), ("status", .text "FAIL")],
    .object [("name", .text "lint")],
    .object [("name", .text "bgp::leaf2"), ("phase", .text "underlay"), ("status", .text "PASS")]]

example : (sections interleaved).map (fun group => (group.1, group.2.map (field · "name")))
    = [("underlay", ["bgp::leaf1", "bgp::leaf2"]), ("intent", ["vxlan::leaf1"]),
      ("other", ["lint"])] := by
  decide

/-- The sections of a report with these results; the one without phase is in the section `other`. -/
theorem render_partitions_interleaved : ∃ groups,
    render (.object [("results", .list interleaved)]) "lab1"
      = Text.join "\n" (opening (.object [("results", .list interleaved)]) "lab1"
        ++ groups.flatMap fun group =>
          ("### " ++ group.1) :: (group.2.map (fun item => "- **" ++ field item "status"
            ++ "** \x60" ++ field item "name" ++ "\x60: " ++ field item "message") ++ [""])) ∧
    Partitions interleaved groups ∧ "other" ∈ groups.map (·.1) := by
  obtain ⟨hresults, -, hphase, -, groups, hrender, hgroups, -⟩ :=
    render_partitions (.object [("results", .list interleaved)]) "lab1"
  rw [hresults interleaved rfl] at hgroups
  have hlint : phaseOf (.object [("name", .text "lint")]) = "other" :=
    (hphase _ _).mpr (.inr ⟨rfl, nofun⟩)
  exact ⟨groups, hrender, hgroups,
    (hgroups.phases "other").mpr ⟨_, List.getElem_mem (by decide : 2 < interleaved.length), hlint⟩⟩

end FabricAudit.Markdown
