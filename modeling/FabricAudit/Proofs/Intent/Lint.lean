import Mathlib.Data.Finset.Card
import Mathlib.Data.Finset.Dedup
import FabricAudit.Intent.Lint

set_option autoImplicit false

/-! # What lint finds

Every finding has its cause in the intent, and every cause is found. The findings on kinds are one
for every check of an unknown kind (`Intent.flatMap_kindWarning`), those on names one for every check
beyond the first of its name (`Intent.nameWarnings_count`), and those on nodes say which of the named
nodes the inventory lacks (`Intent.nodeWarnings_eq_nil_iff`). `Intent.filter_lint` tells them apart
by their codes, and `Intent.lint_eq_nil_iff` says when there are none.
-/

namespace FabricAudit.Intent

/-! ## Kinds -/

theorem kindWarning_eq (c : Check) :
    kindWarning c = if c.kind.isSupported then [] else [.unsupportedKind c.name c.kind.name] := by
  rw [kindWarning]
  cases c.kind <;> rfl

/-- **A check of an unknown kind is found once**, and no other check is. -/
theorem flatMap_kindWarning (checks : List Check) :
    checks.flatMap kindWarning
      = (checks.filter fun c => !c.kind.isSupported).map
          fun c => .unsupportedKind c.name c.kind.name := by
  induction checks with
  | nil => rfl
  | cons c rest ih =>
      rw [List.flatMap_cons, ih, kindWarning_eq]
      by_cases hc : c.kind.isSupported
      · simp [hc]
      · simp [hc]

theorem flatMap_kindWarning_eq_nil_iff (checks : List Check) :
    checks.flatMap kindWarning = [] ↔ ∀ c ∈ checks, c.kind.isSupported := by
  rw [flatMap_kindWarning, List.map_eq_nil_iff, List.filter_eq_nil_iff]
  simp

/-! ## Names -/

/-- **A name is found once less than it is used.** Of the checks, those with a name that has come
before are found, and every new name is met by exactly one of the others. -/
theorem nameWarnings_count (seen : List String) (checks : List Check) :
    (nameWarnings seen checks).length
      + ((checks.map Check.name).toFinset \ seen.toFinset).card = checks.length := by
  induction checks generalizing seen with
  | nil => simp [nameWarnings]
  | cons c rest ih =>
      rw [nameWarnings, List.map_cons, List.toFinset_cons, List.length_cons]
      by_cases hseen : c.name ∈ seen
      · rw [if_pos (List.contains_iff_mem.mpr hseen), List.length_cons,
          Finset.insert_sdiff_of_mem _ (List.mem_toFinset.mpr hseen), ← ih seen]
        omega
      · have hnew : c.name ∉ seen.toFinset := fun h => hseen (List.mem_toFinset.mp h)
        -- the new names are this one and those that are new after it
        have hnames : insert c.name (rest.map Check.name).toFinset \ seen.toFinset
            = insert c.name ((rest.map Check.name).toFinset \ (c.name :: seen).toFinset) := by
          rw [Finset.insert_sdiff_of_notMem _ hnew, List.toFinset_cons]
          ext name
          by_cases hname : name = c.name <;> simp [hname]
        have hnotin : c.name ∉ (rest.map Check.name).toFinset \ (c.name :: seen).toFinset := by
          simp
        rw [if_neg (by rwa [List.contains_iff_mem]), hnames, Finset.card_insert_of_notMem hnotin,
          ← ih (c.name :: seen)]
        omega

/-- Nothing is found on names exactly if no two checks have one name. -/
theorem nameWarnings_eq_nil_iff (checks : List Check) :
    nameWarnings [] checks = [] ↔ (checks.map Check.name).Nodup := by
  have hcount := nameWarnings_count [] checks
  rw [List.toFinset_nil, Finset.sdiff_empty, List.card_toFinset] at hcount
  rw [← List.length_eq_zero_iff, ← List.dedup_eq_self]
  constructor
  · intro hnone
    refine (List.dedup_sublist _).eq_of_length ?_
    rw [List.length_map]
    omega
  · intro hself
    rw [hself, List.length_map] at hcount
    omega

/-! ## Nodes -/

/-- A node that a check names, by itself or in a list, in a selector that reads. -/
theorem mem_namedNodes_iff {c : Check} {node : String} :
    node ∈ namedNodes c ↔ ∃ d s, Keyed.get? c.params "selector" = some d ∧
      Selector.reader.document d = .ok s ∧ (s.node = some node ∨ node ∈ s.nodes.getD []) := by
  rw [namedNodes]
  cases hd : Keyed.get? c.params "selector" with
  | none => simp
  | some d =>
      rw [Option.map_some]
      cases hs : Selector.reader.document d with
      | error f => simp [hs]
      | ok s => simp [hs]

theorem nodeWarnings_eq_nil_iff (i : Inventory) (c : Check) :
    nodeWarnings i c = [] ↔ ∀ node ∈ namedNodes c, i.contains node := by
  rw [nodeWarnings, List.map_eq_nil_iff, List.filter_eq_nil_iff]
  simp

/-! ## All findings -/

/-- Findings of one code are all of the findings of that code, and none of any other. -/
theorem filter_code {ws : List LintWarning} {code : String} (h : ∀ w ∈ ws, w.code = code)
    (wanted : String) :
    (ws.filter fun w => w.code = wanted) = if code = wanted then ws else [] := by
  by_cases hcode : code = wanted
  · rw [if_pos hcode, List.filter_eq_self]
    intro w hw
    simpa using (h w hw).trans hcode
  · rw [if_neg hcode, List.filter_eq_nil_iff]
    intro w hw
    simpa [h w hw] using hcode

theorem code_of_mem_kindWarning {c : Check} {w : LintWarning} (h : w ∈ kindWarning c) :
    w.code = "W001" := by
  rw [kindWarning_eq] at h
  split at h
  · cases h
  · rw [List.mem_singleton.mp h]
    rfl

theorem code_of_mem_nameWarnings {seen : List String} {checks : List Check} {w : LintWarning}
    (h : w ∈ nameWarnings seen checks) : w.code = "W002" := by
  induction checks generalizing seen with
  | nil => cases h
  | cons c rest ih =>
      rw [nameWarnings] at h
      split at h
      · rcases List.mem_cons.mp h with rfl | h
        · rfl
        · exact ih h
      · exact ih h

theorem code_of_mem_nodeWarnings {i : Inventory} {c : Check} {w : LintWarning}
    (h : w ∈ nodeWarnings i c) : w.code = "W003" := by
  obtain ⟨node, -, rfl⟩ := List.mem_map.mp h
  rfl

/-- **The code of a finding tells what it is about.** -/
theorem filter_lint (i : Intent) (code : String) :
    (i.lint.filter fun w => w.code = code)
      = (if "W001" = code then i.checks.flatMap kindWarning else [])
        ++ (if "W002" = code then nameWarnings [] i.checks else [])
        ++ (if "W003" = code then i.checks.flatMap (nodeWarnings i.inventory) else [])
        ++ (if "W004" = code then
            (if i.inventory.nodes.isEmpty && !i.checks.isEmpty then [.emptyInventory] else [])
          else []) := by
  rw [lint, List.filter_append, List.filter_append, List.filter_append]
  refine congrArg₂ _ (congrArg₂ _ (congrArg₂ _ ?_ ?_) ?_) ?_
  · exact filter_code (List.forall_mem_flatMap.mpr fun _ _ _ => code_of_mem_kindWarning) code
  · exact filter_code (fun _ => code_of_mem_nameWarnings) code
  · exact filter_code (List.forall_mem_flatMap.mpr fun _ _ _ => code_of_mem_nodeWarnings) code
  · refine filter_code (fun w hw => ?_) code
    split at hw
    · rw [List.mem_singleton.mp hw]
      rfl
    · cases hw

/-- **Nothing is found exactly if nothing is wrong**: every kind is known, no two checks have one
name, every node that a selector names is in the inventory, and there are nodes if there are
checks. -/
theorem lint_eq_nil_iff (i : Intent) :
    i.lint = [] ↔ (∀ c ∈ i.checks, c.kind.isSupported) ∧ (i.checks.map Check.name).Nodup ∧
      (∀ c ∈ i.checks, ∀ node ∈ namedNodes c, i.inventory.contains node) ∧
      (i.inventory.nodes ≠ [] ∨ i.checks = []) := by
  have hempty : (if i.inventory.nodes.isEmpty && !i.checks.isEmpty then
      [LintWarning.emptyInventory] else []) = [] ↔ (i.inventory.nodes ≠ [] ∨ i.checks = []) := by
    cases i.inventory.nodes <;> cases i.checks <;> simp
  have hnodes : i.checks.flatMap (nodeWarnings i.inventory) = [] ↔
      ∀ c ∈ i.checks, ∀ node ∈ namedNodes c, i.inventory.contains node := by
    simp only [List.flatMap_eq_nil_iff, nodeWarnings_eq_nil_iff]
  rw [lint, List.append_eq_nil_iff, List.append_eq_nil_iff, List.append_eq_nil_iff,
    flatMap_kindWarning_eq_nil_iff, nameWarnings_eq_nil_iff, hnodes, hempty, and_assoc, and_assoc]

end FabricAudit.Intent
