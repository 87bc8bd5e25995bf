import Mathlib.Algebra.BigOperators.Group.List.Basic
import FabricAudit.Check.Result
import FabricAudit.Proofs.Document.Redraft

set_option autoImplicit false

/-! # Reports read back

A result is read back from its document, whatever its message, its advice and its evidence, as long
as the members of the evidence are sorted, as those of all documents are (`Result.reader_document`).
The counts are made result by result, and come out as the number of results of every status and of
every phase that occurs (`Summary.countsByStatus_eq`, `Summary.countsByPhase_eq`). So every result
is counted once by its status and once by its phase (`Summary.sum_countsByStatus`,
`Summary.sum_countsByPhase`), and the report has a count for every status, and one for every phase
that occurs (`Summary.walk_countsByStatus`, `Summary.walk_countsByPhase`).
-/

namespace FabricAudit

/-! ## Names -/

theorem Phase.mem_all (phase : Phase) : phase ∈ all := by
  cases phase <;> decide

theorem Status.mem_all (status : Status) : status ∈ all := by
  cases status <;> decide

/-- A phase is named by the first of its words. -/
theorem Phase.lookup_name (phase : Phase) : words.lookup phase.name = some phase := by
  cases phase <;> rfl

theorem Status.lookup_name (status : Status) : words.lookup status.name = some status := by
  cases status <;> rfl

theorem Severity.lookup_name (severity : Severity) : words.lookup severity.name = some severity := by
  cases severity <;> rfl

/-- What is found again under its name is told by it. -/
theorem name_injective_of_lookup {κ : Type} {words : List (String × κ)} {name : κ → String}
    (h : ∀ k, words.lookup (name k) = some k) : Function.Injective name := by
  intro a b hname
  have hlookup := h a
  rw [hname, h b] at hlookup
  exact (Option.some.inj hlookup).symm

theorem Phase.name_injective : Function.Injective Phase.name :=
  name_injective_of_lookup Phase.lookup_name

theorem Status.name_injective : Function.Injective Status.name :=
  name_injective_of_lookup Status.lookup_name

/-! ## Results -/

namespace Result

def members (r : Result) : List (String × Document) :=
  [("phase", .text r.phase.name), ("name", .text r.name), ("status", .text r.status.name),
    ("severity", .text r.severity.name), ("message", .text r.message),
    ("evidence", .object r.evidence), ("remediation", .optText r.remediation)]

/-- Advice is read back, and so is that there is none. -/
theorem reader_optText (advice : Option String) :
    (Reader.optional Reader.text).document (.optText advice) = .ok advice := by
  cases advice <;> rfl

/-- **A result is read back from its document.** -/
theorem reader_document {r : Result} (h : (Document.object r.evidence).Sorted) :
    reader.document r.toDocument = .ok r := by
  have hphase : phaseField.read.document (.text r.phase.name) = .ok r.phase :=
    Reader.document_oneOfWords r.phase.lookup_name
  have hname : nameField.read.document (.text r.name) = .ok r.name := rfl
  have hstatus : statusField.read.document (.text r.status.name) = .ok r.status :=
    Reader.document_oneOfWords r.status.lookup_name
  have hseverity : severityField.read.document (.text r.severity.name) = .ok r.severity :=
    Reader.document_oneOfWords r.severity.lookup_name
  have hmessage : messageField.read.document (.text r.message) = .ok r.message := rfl
  have hevidence : evidenceField.read.document (.object r.evidence) = .ok r.evidence :=
    Reader.document_object h
  have hremediation : remediationField.read.document (.optText r.remediation)
      = .ok r.remediation := reader_optText r.remediation
  -- every member of the document names a field that can read it
  have hread : ∀ p ∈ r.members, ∃ f, Reader.fieldNamed [phaseField.erase, nameField.erase,
      statusField.erase, severityField.erase, messageField.erase, evidenceField.erase,
      remediationField.erase] p.1 = some f ∧ f.name = p.1 ∧ f.check p.2.toDraft = .ok () := by
    intro p hp
    simp only [members, List.mem_cons, List.not_mem_nil, or_false] at hp
    rcases hp with rfl | rfl | rfl | rfl | rfl | rfl | rfl
    · exact ⟨phaseField.erase, rfl, rfl, Reader.check_erase hphase⟩
    · exact ⟨nameField.erase, rfl, rfl, Reader.check_erase hname⟩
    · exact ⟨statusField.erase, rfl, rfl, Reader.check_erase hstatus⟩
    · exact ⟨severityField.erase, rfl, rfl, Reader.check_erase hseverity⟩
    · exact ⟨messageField.erase, rfl, rfl, Reader.check_erase hmessage⟩
    · exact ⟨evidenceField.erase, rfl, rfl, Reader.check_erase hevidence⟩
    · exact ⟨remediationField.erase, rfl, rfl, Reader.check_erase hremediation⟩
  have hget : ∀ p ∈ r.members, Keyed.get? (Keyed.ofList r.members) p.1 = some p.2 :=
    fun _ => Keyed.get?_ofList_of_nodup (by simp [members])
  refine (Reader.document_record hread).trans ?_
  -- only what is found under the seven names matters from here on
  generalize Keyed.ofList r.members = ms at hget
  simp only [members, List.forall_mem_cons] at hget
  obtain ⟨gphase, gname, gstatus, gseverity, gmessage, gevidence, gremediation, -⟩ := hget
  rw [Given.take_ofMembers (f := phaseField) gphase, hphase, Except.ok_bind,
    Given.take_ofMembers (f := nameField) gname, hname, Except.ok_bind,
    Given.take_ofMembers (f := statusField) gstatus, hstatus, Except.ok_bind,
    Given.take_ofMembers (f := severityField) gseverity, hseverity, Except.ok_bind,
    Given.take_ofMembers (f := messageField) gmessage, hmessage, Except.ok_bind,
    Given.take_ofMembers (f := evidenceField) gevidence, hevidence, Except.ok_bind,
    Given.take_ofMembers (f := remediationField) gremediation, hremediation, Except.ok_bind]

end Result

/-! ## Counting -/

/-- Every item of a list has one key, so the counts of all keys together are the length of it. -/
theorem sum_countP_eq_length {α κ : Type} [DecidableEq κ] {all : List κ} (hnodup : all.Nodup)
    (hall : ∀ k, k ∈ all) (key : α → κ) (xs : List α) :
    (all.map fun k => xs.countP fun x => key x == k).sum = xs.length := by
  induction xs with
  | nil => simp
  | cons x xs ih =>
      -- the first item is counted under its own key and under no other
      have hone : (all.map fun k => if (key x == k) = true then 1 else 0).sum = 1 := by
        have hother : ∀ k, k ≠ key x → k ∈ all → (if (key x == k) = true then 1 else 0) = 0 := by
          intro k hk _
          rw [beq_false_of_ne (Ne.symm hk)]
          rfl
        rw [List.sum_map_eq_nsmul_single (key x) _ hother,
          List.count_eq_one_of_mem hnodup (hall (key x)), beq_self_eq_true]
        rfl
      calc (all.map fun k => (x :: xs).countP fun x => key x == k).sum
          = (all.map fun k => (xs.countP fun x => key x == k)
              + if (key x == k) = true then 1 else 0).sum := by
            simp only [List.countP_cons]
        _ = (all.map fun k => xs.countP fun x => key x == k).sum
              + (all.map fun k => if (key x == k) = true then 1 else 0).sum :=
            List.sum_map_add
        _ = (x :: xs).length := by
            rw [ih, hone, List.length_cons]

section Tally

variable {κ : Type} {rank : κ → Nat} {all : List κ}

/-- The counts of those keys that are kept. -/
def tally (all : List κ) (keep : κ → Bool) (count : κ → Nat) : List (κ × Nat) :=
  (all.filter keep).map fun k => (k, count k)

theorem tally_cons (k : κ) (all : List κ) (keep : κ → Bool) (count : κ → Nat) :
    tally (k :: all) keep count
      = if keep k then (k, count k) :: tally all keep count else tally all keep count := by
  rw [tally, List.filter_cons]
  split <;> rfl

/-- Keys that are not kept have nothing to add. -/
theorem sum_tally {keep : κ → Bool} {count : κ → Nat} (hnone : ∀ k, keep k = false → count k = 0) :
    ((tally all keep count).map (·.2)).sum = (all.map count).sum := by
  induction all with
  | nil => rfl
  | cons k all ih =>
      rw [tally_cons, List.map_cons, List.sum_cons, ← ih]
      cases hkeep : keep k with
      | true => rw [if_pos rfl, List.map_cons, List.sum_cons]
      | false => rw [if_neg Bool.false_ne_true, hnone k hkeep, Nat.zero_add]

variable [DecidableEq κ]

/-- A key before all others gets the first place. -/
theorem countUnder_of_forall_lt {key : κ} {counts : List (κ × Nat)}
    (h : ∀ p ∈ counts, rank key < rank p.1) :
    countUnder rank key counts = (key, 1) :: counts := by
  cases counts with
  | nil => rfl
  | cons p rest =>
      obtain ⟨k, n⟩ := p
      have hlt : rank key < rank k := h (k, n) List.mem_cons_self
      have hne : key ≠ k := by
        rintro rfl
        exact Nat.lt_irrefl _ hlt
      rw [countUnder, if_neg hne, if_pos hlt]

/-- **Counting one more under a key** keeps the key and adds one to its count. -/
theorem countUnder_tally (hall : all.Pairwise fun j k => rank j < rank k) {key : κ}
    (hkey : key ∈ all) {keep : κ → Bool} {count : κ → Nat}
    (hnone : keep key = false → count key = 0) :
    countUnder rank key (tally all keep count)
      = tally all (fun k => keep k || key == k) fun k => count k + if key = k then 1 else 0 := by
  induction all with
  | nil => cases hkey
  | cons k all ih =>
      obtain ⟨hk, hall⟩ := List.pairwise_cons.mp hall
      by_cases heq : key = k
      · subst heq
        -- the other keys come later, and nothing changes for them
        have hother : tally all (fun k => keep k || key == k)
            (fun k => count k + if key = k then 1 else 0) = tally all keep count := by
          have hne : ∀ j ∈ all, key ≠ j := by
            rintro j hj rfl
            exact Nat.lt_irrefl _ (hk key hj)
          rw [tally, tally, List.filter_congr fun j hj => by rw [beq_false_of_ne (hne j hj),
            Bool.or_false]]
          refine List.map_congr_left fun j hj => ?_
          rw [if_neg (hne j (List.mem_of_mem_filter hj)), Nat.add_zero]
        rw [tally_cons, tally_cons, hother, beq_self_eq_true, Bool.or_true, if_pos rfl, if_pos rfl]
        cases hkeep : keep key with
        | true => rw [if_pos rfl, countUnder, if_pos rfl]
        | false =>
            have hlater : ∀ p ∈ tally all keep count, rank key < rank p.1 := by
              intro p hp
              obtain ⟨j, hj, rfl⟩ := List.mem_map.mp hp
              exact hk j (List.mem_of_mem_filter hj)
            rw [if_neg Bool.false_ne_true, countUnder_of_forall_lt hlater, hnone hkeep]
      · have hmem : key ∈ all := (List.mem_cons.mp hkey).resolve_left heq
        have hlate : ¬ rank key < rank k := Nat.not_lt.mpr (hk key hmem).le
        rw [tally_cons, tally_cons, beq_false_of_ne heq, Bool.or_false, if_neg heq, Nat.add_zero,
          ← ih hall hmem]
        cases keep k with
        | true => rw [if_pos rfl, if_pos rfl, countUnder, if_neg heq, if_neg hlate]
        | false => rw [if_neg Bool.false_ne_true, if_neg Bool.false_ne_true]

/-- **Counting the items of a list** under their keys adds, for every key, the number of items that
have it. -/
theorem foldl_countUnder {α : Type} (hall : all.Pairwise fun j k => rank j < rank k)
    (hmem : ∀ k, k ∈ all) (key : α → κ) (xs : List α) :
    ∀ {keep : κ → Bool} {count : κ → Nat}, (∀ k, keep k = false → count k = 0) →
      xs.foldl (fun counts x => countUnder rank (key x) counts) (tally all keep count)
        = tally all (fun k => keep k || xs.any fun x => key x == k)
            fun k => count k + xs.countP fun x => key x == k := by
  -- the table is any one, since each item is counted into that of the items before
  induction xs with
  | nil =>
      intro keep count _
      simp
  | cons x xs ih =>
      intro keep count hnone
      have hnone' : ∀ k, (keep k || key x == k) = false →
          (count k + if key x = k then 1 else 0) = 0 := by
        intro k hk
        obtain ⟨hkeep, hne⟩ := Bool.or_eq_false_iff.mp hk
        rw [hnone k hkeep, if_neg (ne_of_beq_false hne)]
      rw [List.foldl_cons, countUnder_tally hall (hmem _) (hnone _), ih hnone']
      congr 1
      · funext k
        rw [List.any_cons, Bool.or_assoc]
      · funext k
        rw [List.countP_cons]
        simp only [beq_iff_eq]
        omega

end Tally

/-- A path of one key leads to the member of this key. -/
theorem Document.walk_singleton (d : Document) (key : String) : d.walk [key] = d.get? key := by
  rw [walk]
  cases d.get? key <;> rfl

/-- **What stands in a table of counts** under names that tell the keys. -/
theorem Document.get?_counts {κ : Type} {name : κ → String} (hname : Function.Injective name)
    {counts : List (κ × Nat)} (hnodup : (counts.map (·.1)).Nodup) {key : String} {d : Document} :
    (Document.ofPairs (counts.map fun p => (name p.1, .nat p.2))).get? key = some d ↔
      ∃ k n, (k, n) ∈ counts ∧ key = name k ∧ d = .nat n := by
  constructor
  · intro h
    have hmem := Keyed.mem_of_mem_ofList (Keyed.mem_of_get? h)
    obtain ⟨⟨k, n⟩, hp, heq⟩ := List.mem_map.mp hmem
    cases heq
    exact ⟨k, n, hp, rfl, rfl⟩
  · rintro ⟨k, n, hp, rfl, rfl⟩
    have hnames : ((counts.map fun p => (name p.1, Document.nat p.2)).map (·.1)).Nodup := by
      rw [List.map_map]
      have hmap := hnodup.map hname
      rwa [List.map_map] at hmap
    exact Keyed.get?_ofList_of_nodup hnames (List.mem_map.mpr ⟨(k, n), hp, rfl⟩)

namespace Summary

variable (s : Summary)

/-- **The table of statuses** has every status with the number of results that have it. -/
theorem countsByStatus_eq : s.countsByStatus
    = Status.all.map fun status => (status, s.results.countP (·.status == status)) := by
  have hall : Status.all.Pairwise fun a b => a.rank < b.rank := by decide
  have hnone : ∀ status : Status, true = false → 0 = 0 := fun _ _ => rfl
  exact (foldl_countUnder hall Status.mem_all Result.status s.results hnone).trans (by simp [tally])

/-- **The table of phases** has every phase that occurs, with the number of results that have
it. -/
theorem countsByPhase_eq : s.countsByPhase
    = tally Phase.all (fun phase => s.results.any (·.phase == phase))
        fun phase => s.results.countP (·.phase == phase) := by
  have hall : Phase.all.Pairwise fun a b => a.rank < b.rank := by decide
  have hnone : ∀ phase : Phase, false = false → 0 = 0 := fun _ _ => rfl
  exact (foldl_countUnder hall Phase.mem_all Result.phase s.results hnone).trans (by simp)

theorem mem_countsByStatus {status : Status} {n : Nat} :
    (status, n) ∈ s.countsByStatus ↔ n = s.results.countP (·.status == status) := by
  rw [countsByStatus_eq, List.mem_map]
  constructor
  · rintro ⟨_, -, heq⟩
    cases heq
    rfl
  · rintro rfl
    exact ⟨status, status.mem_all, rfl⟩

theorem mem_countsByPhase {phase : Phase} {n : Nat} :
    (phase, n) ∈ s.countsByPhase ↔
      (∃ r ∈ s.results, r.phase = phase) ∧ n = s.results.countP (·.phase == phase) := by
  have hoccurs : s.results.any (·.phase == phase) = true ↔ ∃ r ∈ s.results, r.phase = phase := by
    simp only [List.any_eq_true, beq_iff_eq]
  rw [← hoccurs, countsByPhase_eq, tally, List.mem_map]
  constructor
  · rintro ⟨_, hphase, heq⟩
    cases heq
    exact ⟨(List.mem_filter.mp hphase).2, rfl⟩
  · rintro ⟨hphase, rfl⟩
    exact ⟨phase, List.mem_filter.mpr ⟨phase.mem_all, hphase⟩, rfl⟩

/-- **Every result is counted by its status.** -/
theorem sum_countsByStatus : (s.countsByStatus.map (·.2)).sum = s.results.length := by
  rw [countsByStatus_eq, List.map_map]
  exact sum_countP_eq_length (by decide) Status.mem_all Result.status s.results

/-- **Every result is counted by its phase.** -/
theorem sum_countsByPhase : (s.countsByPhase.map (·.2)).sum = s.results.length := by
  rw [countsByPhase_eq, sum_tally]
  · exact sum_countP_eq_length (by decide) Phase.mem_all Result.phase s.results
  · intro phase hphase
    rw [List.countP_eq_zero]
    exact fun r hr heq => by simp [List.any_eq_false.mp hphase r hr] at heq

/-- The run fails exactly if some result makes it fail. -/
theorem exitCode_eq_one_iff :
    s.exitCode = 1 ↔ ∃ r ∈ s.results, r.status = .fail ∧ r.severity = .error := by
  have hblocking : s.hasErrors = true ↔ ∃ r ∈ s.results, r.status = .fail ∧ r.severity = .error := by
    simp [hasErrors, Result.isBlocking]
  rw [← hblocking, exitCode]
  cases s.hasErrors <;> decide

theorem exitCode_eq_zero_iff :
    s.exitCode = 0 ↔ ∀ r ∈ s.results, ¬ (r.status = .fail ∧ r.severity = .error) := by
  simp [exitCode, hasErrors, Result.isBlocking]

theorem exitCode_eq_one_of_ne_zero (h : s.exitCode ≠ 0) : s.exitCode = 1 := by
  rw [exitCode] at h ⊢
  split_ifs at h ⊢
  · rfl
  · exact absurd rfl h

/-! ## The report -/

/-- The report has two members, with different keys. -/
theorem nodup_reportMembers : (s.reportMembers.map (·.1)).Nodup := by
  simp [reportMembers]

theorem get?_results :
    s.toReport.get? "results" = some (.list (s.results.map Result.toDocument)) := by
  have hmem : ("results", Document.list (s.results.map Result.toDocument)) ∈ s.reportMembers := by
    simp [reportMembers]
  exact Keyed.get?_ofList_of_nodup s.nodup_reportMembers hmem

def summaryMembers : List (String × Document) :=
  [("counts_by_status", .ofPairs (s.countsByStatus.map fun p => (p.1.name, .nat p.2))),
    ("counts_by_phase", .ofPairs (s.countsByPhase.map fun p => (p.1.name, .nat p.2))),
    ("exit_code", .nat s.exitCode)]

theorem get?_summary : s.toReport.get? "summary" = some (.ofPairs s.summaryMembers) :=
  Keyed.get?_ofList_of_nodup s.nodup_reportMembers List.mem_cons_self

theorem get?_summaryMembers {key : String} {d : Document} (h : (key, d) ∈ s.summaryMembers) :
    (Document.ofPairs s.summaryMembers).get? key = some d := by
  have hnodup : (s.summaryMembers.map (·.1)).Nodup := by
    simp [summaryMembers]
  exact Keyed.get?_ofList_of_nodup hnodup h

/-- The last member of the summary is the exit code. -/
theorem get?_exitCode :
    (Document.ofPairs s.summaryMembers).get? "exit_code" = some (.nat s.exitCode) :=
  s.get?_summaryMembers (List.mem_cons_of_mem _ (List.mem_cons_of_mem _ List.mem_cons_self))

/-- A path into the summary goes on inside the member that it names. -/
theorem walk_summary {key : String} {d : Document} (h : (key, d) ∈ s.summaryMembers)
    (path : List String) : s.toReport.walk ("summary" :: key :: path) = d.walk path := by
  rw [Document.walk, s.get?_summary, Option.bind_some, Document.walk, s.get?_summaryMembers h,
    Option.bind_some]

theorem nodup_countsByStatus : (s.countsByStatus.map (·.1)).Nodup := by
  rw [countsByStatus_eq, List.map_map]
  exact (by decide : Status.all.Nodup)

theorem nodup_countsByPhase : (s.countsByPhase.map (·.1)).Nodup := by
  rw [countsByPhase_eq, tally, List.map_map]
  exact ((by decide : Phase.all.Nodup).filter _).map Function.injective_id

/-- **The report has a count for every status**, and nothing else beside them. -/
theorem walk_countsByStatus {key : String} {d : Document} :
    s.toReport.walk ["summary", "counts_by_status", key] = some d ↔
      ∃ status n, (status, n) ∈ s.countsByStatus ∧ key = status.name ∧ d = .nat n := by
  rw [s.walk_summary List.mem_cons_self, Document.walk_singleton,
    Document.get?_counts Status.name_injective s.nodup_countsByStatus]

/-- **The report has a count for every phase that occurs**, and nothing else beside them. -/
theorem walk_countsByPhase {key : String} {d : Document} :
    s.toReport.walk ["summary", "counts_by_phase", key] = some d ↔
      ∃ phase n, (phase, n) ∈ s.countsByPhase ∧ key = phase.name ∧ d = .nat n := by
  rw [s.walk_summary (List.mem_cons_of_mem _ List.mem_cons_self), Document.walk_singleton,
    Document.get?_counts Phase.name_injective s.nodup_countsByPhase]

theorem walk_exitCode : s.toReport.walk ["summary", "exit_code"] = some (.nat s.exitCode) :=
  s.walk_summary (List.mem_cons_of_mem _ (List.mem_cons_of_mem _ List.mem_cons_self)) []

/-- **A report loses nothing and counts everything once.**

Take any number of results, with any names, messages and advice, and with evidence whose members are
sorted at every level. What is under `results` in the report is read back as these results, and the
report of what is read back is the same. For every status, whether it occurs or not, the table of
statuses has the number of results with it; the table of phases has the number of results of every
phase that occurs and no other phase; both tables count every result once. The report shows these
tables and the exit code, which is one exactly if some result is a failure that counts as an
error. -/
theorem report_accounts (h : ∀ r ∈ s.results, (Document.object r.evidence).Sorted) :
    (∃ d, s.toReport.get? "results" = some d ∧
      (Reader.list Result.reader).document d = .ok s.results ∧
      ∀ rs, (Reader.list Result.reader).document d = .ok rs →
        (Summary.mk rs).toReport = s.toReport) ∧
    (∀ status n, (status, n) ∈ s.countsByStatus ↔
      n = s.results.countP (·.status == status)) ∧
    (∀ phase n, (phase, n) ∈ s.countsByPhase ↔
      (∃ r ∈ s.results, r.phase = phase) ∧ n = s.results.countP (·.phase == phase)) ∧
    (s.countsByStatus.map (·.2)).sum = s.results.length ∧
    (s.countsByPhase.map (·.2)).sum = s.results.length ∧
    (∀ key d, s.toReport.walk ["summary", "counts_by_status", key] = some d ↔
      ∃ status n, (status, n) ∈ s.countsByStatus ∧ key = status.name ∧ d = .nat n) ∧
    (∀ key d, s.toReport.walk ["summary", "counts_by_phase", key] = some d ↔
      ∃ phase n, (phase, n) ∈ s.countsByPhase ∧ key = phase.name ∧ d = .nat n) ∧
    s.toReport.walk ["summary", "exit_code"] = some (.nat s.exitCode) ∧
    (s.exitCode = 1 ↔ ∃ r ∈ s.results, r.status = .fail ∧ r.severity = .error) ∧
    (s.exitCode = 0 ↔ ¬ ∃ r ∈ s.results, r.status = .fail ∧ r.severity = .error) := by
  have hread : (Reader.list Result.reader).document (.list (s.results.map Result.toDocument))
      = .ok s.results :=
    Reader.document_list fun r hr => Result.reader_document (h r hr)
  refine ⟨⟨_, s.get?_results, hread, ?_⟩, fun _ _ => s.mem_countsByStatus,
    fun _ _ => s.mem_countsByPhase, s.sum_countsByStatus, s.sum_countsByPhase,
    fun _ _ => s.walk_countsByStatus, fun _ _ => s.walk_countsByPhase, s.walk_exitCode,
    s.exitCode_eq_one_iff, ?_⟩
  · intro rs hrs
    rw [hread] at hrs
    cases hrs
    rfl
  · simpa only [not_exists, not_and] using s.exitCode_eq_zero_iff

/-- Three results: a failure with nested evidence and advice, one that does not count as an error,
and one of a drift run. -/
def mixedResults : Summary := ⟨[
  ⟨.controlPlane, "bgp::leaf1", .fail, .error, "1 of 2 established",
    [("down", .list [.object [("peer", .text "10.0.0.1"), ("since", .null)]]),
      ("ratio", .float .zero)], some "Check the peers."⟩,
  ⟨.controlPlane, "bgp::leaf2", .fail, .warn, "", [], none⟩,
  ⟨.drift, "state drift", .pass, .info, "No state drift", [("sample", .list [])], none⟩]⟩

/-- The first one makes the run fail, and no phase but two is counted. -/
theorem report_accounts_mixedResults :
    (∀ r ∈ mixedResults.results, (Document.object r.evidence).Sorted) ∧
    (∃ d, mixedResults.toReport.get? "results" = some d ∧
      (Reader.list Result.reader).document d = .ok mixedResults.results) ∧
    (Phase.controlPlane, 2) ∈ mixedResults.countsByPhase ∧
    (∀ n, (Phase.underlay, n) ∉ mixedResults.countsByPhase) ∧
    (Status.skip, 0) ∈ mixedResults.countsByStatus ∧
    mixedResults.exitCode = 1 := by
  have hsorted : ∀ r ∈ mixedResults.results, (Document.object r.evidence).Sorted := by
    simp only [mixedResults, List.forall_mem_cons]
    refine ⟨?_, ?_, ?_, List.forall_mem_nil _⟩
    · simp only [Document.Sorted, Document.SortedItems, Document.SortedMembers,
        Document.KeysAscend, List.forall_mem_singleton, and_true]
      decide
    · simp [Document.Sorted, Document.SortedMembers, Document.KeysAscend]
    · simp [Document.Sorted, Document.SortedItems, Document.SortedMembers, Document.KeysAscend]
  obtain ⟨⟨d, hd, hread, -⟩, hstatus, hphase, -, -, -, -, -, hcode, -⟩ :=
    mixedResults.report_accounts hsorted
  refine ⟨hsorted, ⟨d, hd, hread⟩, (hphase _ _).mpr ⟨?_, rfl⟩, ?_, (hstatus _ _).mpr rfl,
    hcode.mpr ?_⟩
  · exact ⟨_, List.mem_cons_self, rfl⟩
  · intro n hn
    obtain ⟨⟨r, hr, hunderlay⟩, -⟩ := (hphase _ _).mp hn
    simp only [mixedResults, List.mem_cons, List.not_mem_nil, or_false] at hr
    rcases hr with rfl | rfl | rfl <;> cases hunderlay
  · exact ⟨_, List.mem_cons_self, rfl, rfl⟩

end Summary

end FabricAudit
