import FabricAudit.Proofs.Evidence.Interfaces
import FabricAudit.Proofs.Verdict.Switches

set_option autoImplicit false

/-! # Verdicts on interfaces

Which interfaces of a node count is a matter of five lists of names and patterns. `Selects` says it
in one place: an interface counts unless it is ignored, and if any list says which interfaces count,
only if one of them names it. What is ignored is never selected, whatever else names it.

`interfacesUp_judges` says what a check of interfaces makes of this for every node: the node passes
exactly if its interfaces could be collected, some of them count, and all that count are up; and the
evidence has those that count and are not up.
-/

namespace FabricAudit

/-! ## Interfaces that count -/

/-- A pattern that makes sense occurs in a text. -/
def Pattern.Occurs (pattern text : String) : Prop :=
  ∃ p, Pattern.ofText pattern = .ok p ∧ p.occursIn text = true

instance (pattern text : String) : Decidable (Pattern.Occurs pattern text) :=
  match h : Pattern.ofText pattern with
  | .ok p => decidable_of_iff (p.occursIn text = true)
      ⟨fun ho => ⟨p, h, ho⟩, fun ⟨_, hq, ho⟩ => by rw [h] at hq; cases hq; exact ho⟩
  | .error _ => isFalse fun ⟨_, hq, _⟩ => by rw [h] at hq; cases hq

namespace InterfacesUp

variable (p : InterfacesUp) (i : Interface)

/-- An interface is ignored by its name, or by a pattern that occurs in it. -/
def Ignores : Prop :=
  i.name ∈ p.ignoredNames ∨ ∃ text ∈ p.ignoredPatterns, Pattern.Occurs text i.name

/-- An interface is required by its name, or by a pattern that occurs in its name or in its
description. -/
def Requires : Prop :=
  i.name ∈ p.requiredNames ∨ (∃ text ∈ p.namePatterns, Pattern.Occurs text i.name) ∨
    ∃ text ∈ p.descriptionPatterns, Pattern.Occurs text i.description

/-- There are rules that say which interfaces are required. -/
def HasRule : Prop := p.requiredNames ≠ [] ∨ p.namePatterns ≠ [] ∨ p.descriptionPatterns ≠ []

/-- An interface counts if it is not ignored and, where there are rules for it, required. -/
def Selects : Prop := ¬ p.Ignores i ∧ (p.HasRule → p.Requires i)

instance : Decidable (p.Ignores i) := inferInstanceAs (Decidable (_ ∨ _))
instance : Decidable (p.Requires i) := inferInstanceAs (Decidable (_ ∨ _ ∨ _))
instance : Decidable p.HasRule := inferInstanceAs (Decidable (_ ∨ _ ∨ _))
instance : Decidable (p.Selects i) := inferInstanceAs (Decidable (_ ∧ _))

variable {p i}

theorem hasRule_iff : p.HasRule ↔ p.isScoped = true := by
  simp [HasRule, isScoped, or_assoc]

end InterfacesUp

namespace Verdict

/-! ## Rules -/

/-- Patterns that are read are looked for one by one. -/
theorem any_occursIn_iff {texts : List String} {patterns : List Pattern} {text : String}
    (h : texts.mapM (fun text => (Pattern.ofText text).mapError Fault.pattern) = .ok patterns) :
    patterns.any (fun p => p.occursIn text) = true ↔
      ∃ pattern ∈ texts, Pattern.Occurs pattern text := by
  have hread := Except.mapM_eq_ok_iff.mp h
  rw [List.any_eq_true]
  constructor
  · rintro ⟨p, hp, hoccurs⟩
    obtain ⟨pattern, hpattern, hp⟩ := hread.exists_of_mem_right hp
    exact ⟨pattern, hpattern, p, Except.mapError_eq_ok_iff.mp hp, hoccurs⟩
  · rintro ⟨pattern, hpattern, p, hp, hoccurs⟩
    obtain ⟨q, hq, hpq⟩ := hread.exists_of_mem_left hpattern
    rw [Except.mapError_eq_ok_iff, hp] at hpq
    cases hpq
    exact ⟨p, hq, hoccurs⟩

/-- There are rules if all patterns make sense. -/
theorem exists_ofParams {p : InterfacesUp}
    (h : ∀ text ∈ p.namePatterns ++ p.descriptionPatterns ++ p.ignoredPatterns,
      ∃ q, Pattern.ofText text = .ok q) :
    ∃ rules, InterfaceRules.ofParams p = .ok rules := by
  have hread : ∀ texts : List String,
      (∀ text ∈ texts, text ∈ p.namePatterns ++ p.descriptionPatterns ++ p.ignoredPatterns) →
      ∃ patterns, texts.mapM (fun text => (Pattern.ofText text).mapError Fault.pattern)
        = .ok patterns := by
    intro texts hmem
    simp only [Except.mapM_eq_ok_iff, List.exists_forall₂_iff, Except.mapError_eq_ok_iff]
    exact fun text htext => h text (hmem text htext)
  obtain ⟨names, hnames⟩ := hread p.namePatterns fun _ h => by simp [h]
  obtain ⟨descriptions, hdescriptions⟩ := hread p.descriptionPatterns fun _ h => by simp [h]
  obtain ⟨ignored, hignored⟩ := hread p.ignoredPatterns fun _ h => by simp [h]
  exact ⟨_, Except.bind_eq_ok_iff.mpr ⟨names, hnames, Except.bind_eq_ok_iff.mpr
    ⟨descriptions, hdescriptions, Except.bind_eq_ok_iff.mpr ⟨ignored, hignored, rfl⟩⟩⟩⟩

/-- **The rules select the interfaces that count.** -/
theorem selects_iff {p : InterfacesUp} {rules : InterfaceRules}
    (h : InterfaceRules.ofParams p = .ok rules) (i : Interface) :
    rules.selects i = true ↔ p.Selects i := by
  obtain ⟨names, hnames, h⟩ := Except.bind_eq_ok_iff.mp h
  obtain ⟨descriptions, hdescriptions, h⟩ := Except.bind_eq_ok_iff.mp h
  obtain ⟨ignored, hignored, h⟩ := Except.bind_eq_ok_iff.mp h
  cases h
  have hignores : InterfaceRules.ignores ⟨p.requiredNames, names, descriptions, p.ignoredNames,
      ignored, p.isScoped⟩ i = true ↔ p.Ignores i := by
    rw [InterfaceRules.ignores, Bool.or_eq_true, List.contains_iff_mem, any_occursIn_iff hignored]
    rfl
  have hrequires : InterfaceRules.requires ⟨p.requiredNames, names, descriptions, p.ignoredNames,
      ignored, p.isScoped⟩ i = true ↔ p.Requires i := by
    rw [InterfaceRules.requires, Bool.or_eq_true, Bool.or_eq_true, List.contains_iff_mem,
      any_occursIn_iff hnames, any_occursIn_iff hdescriptions, or_assoc]
    rfl
  rw [InterfaceRules.selects, Bool.and_eq_true, Bool.not_eq_true', ← Bool.not_eq_true, hignores,
    Bool.or_eq_true, hrequires, InterfacesUp.Selects, InterfacesUp.hasRule_iff,
    Bool.not_eq_true', ← Bool.not_eq_true]
  exact and_congr_right fun _ => imp_iff_not_or.symm

end Verdict

/-! ## Verdicts -/

/-- Evidence that counts as collected: that of telemetry does, that of a command if it returned
zero. -/
def Record.Succeeded (r : Record) : Prop :=
  r.source = .telemetry ∨ r.source = .cli ∧ r.rc? = some 0

theorem Record.succeeded_iff {r : Record} : r.Succeeded ↔ r.rc = 0 := by
  obtain ⟨source, data⟩ := r
  cases source with
  | telemetry => simp [Succeeded, rc]
  | cli =>
      -- a command that tells no return code counts as failed
      rcases hrc : Record.rc? ⟨.cli, data⟩ with _ | n <;> simp [Succeeded, rc, hrc]

namespace InterfacesUp

variable (p : InterfacesUp) (entries : List Interface)

/-- The interfaces that count. -/
def selected : List Interface := entries.filter p.Selects

/-- The interfaces that count and are not up. -/
def down : List Interface := (p.selected entries).filter fun i => ¬ i.Up

/-- **What is to be said of a node** with the given record and interfaces. -/
structure Judges (record : Record) (r : Result) : Prop where
  passes_iff : r.status = .pass ↔
    record.Succeeded ∧ p.selected entries ≠ [] ∧ ∀ i ∈ p.selected entries, i.Up
  selected_count :
    Keyed.get? r.evidence "selected_count" = some (.nat (p.selected entries).length)
  bad_interfaces : Keyed.get? r.evidence "bad_interfaces"
    = some (.texts ((p.down entries).map fun i => i.name ++ ":" ++ i.status ++ "/" ++ i.protocol))
  bad_count : Keyed.get? r.evidence "bad_count" = some (.nat (p.down entries).length)
  bad_le : (p.down entries).length ≤ (p.selected entries).length
  ignored : ∀ i, p.Ignores i → i ∉ p.selected entries

variable {p entries}

theorem down_eq_nil_iff : p.down entries = [] ↔ ∀ i ∈ p.selected entries, i.Up := by
  simp [down, List.filter_eq_nil_iff]

end InterfacesUp

namespace Verdict

/-- The result for a node says what is to be said of it. -/
theorem judges_interfacesResult (c : Check) {p : InterfacesUp} {rules : InterfaceRules}
    (hrules : InterfaceRules.ofParams p = .ok rules) (node : String) (record : Record)
    (entries : List Interface) :
    p.Judges entries record (interfacesResult c rules node record entries) := by
  -- the rules select what the parameters say, as all of their patterns have been read
  have hselected : entries.filter rules.selects = p.selected entries :=
    List.filter_congr fun i _ => by rw [Bool.eq_iff_iff, selects_iff hrules, decide_eq_true_iff]
  have hdown : (p.selected entries).filter (fun i => !i.isUp) = p.down entries := by
    refine List.filter_congr fun i _ => ?_
    simp only [Interface.isUp, Interface.Up]
    rw [Bool.eq_iff_iff]
    simp
  refine ⟨?_, ?_, ?_, ?_, List.length_filter_le _ _, fun i hi hmem => ?_⟩
  · rw [interfacesResult, Check.outcome_status_eq_pass, hselected, hdown, Bool.and_eq_true,
      Bool.and_eq_true, beq_iff_eq, Record.succeeded_iff, ← InterfacesUp.down_eq_nil_iff]
    simp [and_assoc]
  · rw [interfacesResult, hselected]
    exact Check.get?_outcome_evidence _ _ _ _ (by simp) (by simp)
  · have hlabels : (p.down entries).map Interface.label
        = (p.down entries).map fun i => i.name ++ ":" ++ i.status ++ "/" ++ i.protocol := rfl
    rw [interfacesResult, hselected, hdown, hlabels]
    exact Check.get?_outcome_evidence _ _ _ _ (by simp) (by simp)
  · rw [interfacesResult, hselected, hdown, List.length_map]
    exact Check.get?_outcome_evidence _ _ _ _ (by simp) (by simp)
  · exact (of_decide_eq_true (List.mem_filter.mp hmem).2 : p.Selects i).1 hi

/-- **What a check of interfaces says.**

Take a check of interfaces whose parameters and patterns read, and let it run in any state. If it
leaves evidence that reads on every node that it selects, then it has one result for each of them,
in order, under the name of the node, and this says of the interfaces on record what is to be said
of them: it passes exactly if they could be collected, some of them count, and all that count are
up; its evidence has the number of those that count and the labels of those among them that are not
up. What is ignored does not count, even if it is required. -/
theorem interfacesUp_judges {σ : Type} (s : Subject σ) (c : Check) (st : Audit.State σ)
    {p : InterfacesUp} (hkind : c.kind = .interfacesUp)
    (hp : c.readParams InterfacesUp.reader = .ok p)
    (hpatterns : ∀ text ∈ p.namePatterns ++ p.descriptionPatterns ++ p.ignoredPatterns,
      ∃ q, Pattern.ofText text = .ok q)
    (hall : Informs (runCheck s c st).2.store c s.intent.inventory) :
    List.Forall₂
      (fun node r => r.name = c.name ++ "::" ++ node ∧ ∃ record entries,
        Keyed.get? (runCheck s c st).2.store.records (EvidenceKind.interfaces.key node)
          = some record ∧
        record.readAt "parsed" [] (Reader.list Interface.reader) = .ok entries ∧
        p.Judges entries record r)
      (c.nodes s.intent.inventory) (runCheck s c st).1 := by
  obtain ⟨rules, hrules⟩ := exists_ofParams hpatterns
  refine ((interfacesUp_judgesBy s hkind hp hrules).forall₂ hall).imp ?_
  rintro node r ⟨record, entries, hkept, hread, rfl⟩
  refine ⟨Check.outcome_name _ _ _ _ _, record, entries, hkept, hread, ?_⟩
  exact judges_interfacesResult c hrules node record entries

/-- A check of uplinks that requires an interface and ignores it. -/
def uplinks : Check :=
  ⟨"uplinks", .underlay, .interfacesUp, .error,
    [("ignore_interfaces", .list [.text "Et2"]),
      ("required_description_regex", .list [.text "^uplink"]),
      ("required_interfaces", .list [.text "Et2"]),
      ("selector", .object [("node", .text "leaf1")])]⟩

/-- A switch with two uplinks, one of which is down. -/
def uplinkFabric : Subject Unit :=
  scriptedLeaf [("show interfaces description",
    ⟨0, "Et1 up up uplink spine1\nEt2 down down uplink spine2\nEt9 down down spare\n", ""⟩)]

/-- The one that is down is ignored, so the switch passes. -/
theorem interfacesUp_judges_uplinks :
    ∃ p record entries r, uplinks.readParams InterfacesUp.reader = .ok p ∧
      p.requiredNames = ["Et2"] ∧ p.ignoredNames = ["Et2"] ∧
      (runCheck uplinkFabric uplinks (Audit.fresh ⟨(), []⟩)).1 = [r] ∧ r.status = .pass ∧
      p.Judges entries record r := by
  have hp : uplinks.readParams InterfacesUp.reader
      = .ok ⟨⟨some "leaf1", none, none, none⟩, ["Et2"], [], ["^uplink"], ["Et2"], []⟩ := rfl
  have hnodes : uplinks.nodes uplinkFabric.intent.inventory = ["leaf1"] := by decide +kernel
  have hpass : (runCheck uplinkFabric uplinks (Audit.fresh ⟨(), []⟩)).1.map (·.status)
      = [.pass] := by decide +kernel
  have hresults := interfacesUp_judges uplinkFabric uplinks (Audit.fresh ⟨(), []⟩) rfl hp
    (fun text htext => by
      obtain rfl : text = "^uplink" := by simpa using htext
      exact Except.exists_of_isOk (by decide +kernel))
    (informs_of_nodes rfl hnodes fun node hnode => by
      obtain rfl := List.mem_singleton.mp hnode
      exact readable_iff.mpr (by decide +kernel))
  rw [hnodes] at hresults
  obtain ⟨r, hr, -, record, entries, -, -, hjudges⟩ := hresults.exists_of_singleton
  rw [hr] at hpass
  exact ⟨_, record, entries, r, hp, rfl, rfl, hr, List.head_eq_of_cons_eq hpass, hjudges⟩

end Verdict

end FabricAudit
