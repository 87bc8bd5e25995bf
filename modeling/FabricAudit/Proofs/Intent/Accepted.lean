import FabricAudit.Intent.Basic
import FabricAudit.Proofs.Document.Refusal
import Mathlib.Tactic.Common

set_option autoImplicit false

/-! # Which documents are intents

`Intent.FormsIntent` says which members make an object an intent, part by part, and
`Check.FormsCheck` what an entry of its list of checks must be. `Intent.Holds` and
`Check.DeclaredBy` say what is then read from them. Every reader is taken apart as an equivalence,
so that the readers accept exactly the forms, nothing that was written is lost, and whatever is not
accepted is a problem of the intent.
-/

namespace FabricAudit

/-! ## Parts that may be left out -/

namespace Document

/-- The document itself, or the empty object in place of null. -/
def orEmpty : Document → Document
  | .null => .object []
  | d => d

/-- A part that is absent, null or an object. -/
def IsObjectOrNothing (part : Option Document) : Prop :=
  part = none ∨ part = some .null ∨ ∃ ms, part = some (.object ms)

/-- The members of a part that is an object; otherwise there are none. -/
def membersOf : Option Document → Members
  | some (.object ms) => ms
  | _ => []

end Document

/-! ## Phases and severities -/

/-- The spellings of the phases that a check may be declared for. -/
def Phase.spellings : List (String × Phase) := [
  ("intent", .intent),
  ("underlay", .underlay),
  ("control-plane", .controlPlane),
  ("control_plane", .controlPlane),
  ("dataplane", .dataplane)]

theorem Phase.ne_drift_of_mem_spellings {s : String} {phase : Phase}
    (h : (s, phase) ∈ spellings) : phase ≠ .drift := by
  rintro rfl
  simp [spellings] at h

/-- The names of phases are these spellings, and the one of the drift phase. -/
theorem Phase.ofName?_eq_some_iff {s : String} {phase : Phase} :
    ofName? s = some phase ↔ (s, phase) ∈ spellings ∨ s = "drift" ∧ phase = .drift := by
  constructor
  · intro h
    obtain ⟨before, after, hwords, _⟩ := List.lookup_eq_some_iff.mp h
    have hmem : (s, phase) ∈ words := by simp [hwords]
    simpa [words, spellings, or_assoc] using hmem
  · rintro (h | ⟨rfl, rfl⟩)
    · simp only [spellings, List.mem_cons, Prod.mk.injEq, List.not_mem_nil, or_false] at h
      rcases h with ⟨rfl, rfl⟩ | ⟨rfl, rfl⟩ | ⟨rfl, rfl⟩ | ⟨rfl, rfl⟩ | ⟨rfl, rfl⟩ <;> rfl
    · rfl

/-- A word spells a severity if it is its name, whatever the case of its letters. -/
def Severity.IsSpelt (s : String) (severity : Severity) : Prop :=
  s.toList.map capital = severity.name.toList

/-- A severity reads as the one that it spells, and as an error if it spells none. -/
theorem Severity.ofText_eq_iff {s : String} {severity : Severity} :
    ofText s = severity ↔
      IsSpelt s severity ∨ severity = .error ∧ ∀ other, ¬ IsSpelt s other := by
  -- no text spells two severities
  have hdistinct : ∀ a b, IsSpelt s a → IsSpelt s b → a = b := by
    intro a b ha hb
    have hname : a.name.toList = b.name.toList := ha.symm.trans hb
    revert hname
    cases a <;> cases b <;> decide
  unfold ofText
  by_cases hwarn : s.toList.map capital = "WARN".toList
  · simp only [hwarn, if_true]
    constructor
    · rintro rfl
      exact .inl hwarn
    · rintro (h | ⟨-, h⟩)
      · exact hdistinct _ _ hwarn h
      · exact absurd hwarn (h .warn)
  by_cases hinfo : s.toList.map capital = "INFO".toList
  · simp only [hinfo]
    constructor
    · rintro rfl
      exact .inl hinfo
    · rintro (h | ⟨-, h⟩)
      · exact hdistinct _ _ hinfo h
      · exact absurd hinfo (h .info)
  simp only [hwarn, hinfo, if_false]
  constructor
  · rintro rfl
    by_cases herror : IsSpelt s .error
    · exact .inl herror
    · refine .inr ⟨rfl, fun other => ?_⟩
      cases other with
      | error => exact herror
      | warn => exact hwarn
      | info => exact hinfo
  · rintro (h | ⟨h, -⟩)
    · cases severity with
      | error => rfl
      | warn => exact absurd h hwarn
      | info => exact absurd h hinfo
    · exact h.symm

/-! ## The forms -/

/-- What a check is that the members of an entry declare. -/
structure Check.DeclaredBy (fields : Members) (c : Check) : Prop where
  name : ∃ d, Keyed.get? fields "name" = some d ∧ c.name = d.plain
  phase : ∃ d, Keyed.get? fields "phase" = some d ∧ (d.plain, c.phase) ∈ Phase.spellings
  /-- The kind is the one named, known or not. -/
  kind : ∃ d, Keyed.get? fields "kind" = some d ∧ c.kind = CheckKind.ofName d.plain
  /-- The severity is the one spelt; if none is spelt, it is that of an error. -/
  severity : (∃ d, Keyed.get? fields "severity" = some d ∧ Severity.IsSpelt d.plain c.severity) ∨
    c.severity = .error ∧ ∀ d, Keyed.get? fields "severity" = some d →
      ∀ other, ¬ Severity.IsSpelt d.plain other
  /-- The parameters are the ones written, or none. -/
  params : Document.IsObjectOrNothing (Keyed.get? fields "params") ∧
    c.params = Document.membersOf (Keyed.get? fields "params")

/-- What the intent of a lab is that the members of an object hold. -/
structure Intent.Holds (lab : String) (ms : Members) (i : Intent) : Prop where
  /-- It is the intent of that lab. -/
  lab : i.lab = lab
  /-- The whole document is kept. -/
  raw : i.raw = .object ms
  inventory : ∃ nodes, Keyed.get? ms "inventory" = some (.object nodes) ∧
    Inventory.reader.document (.object nodes) = .ok i.inventory
  /-- The services are the ones written, or none. -/
  services : Document.IsObjectOrNothing (Keyed.get? ms "services") ∧
    i.services = Document.membersOf (Keyed.get? ms "services")
  /-- The checks are those that the entries declare, one for each, in their order. -/
  checks : ∃ entries, Keyed.get? ms "checks" = some (.list entries) ∧
    List.Forall₂ (fun entry c => ∃ fields, entry = .object fields ∧ Check.DeclaredBy fields c)
      entries i.checks
  /-- The telemetry defaults are the ones that read, or the usual ones. -/
  telemetry : (Keyed.get? ms "gnmi" = none ∨ Keyed.get? ms "gnmi" = some .null) ∧
      i.telemetry = .standard ∨
    ∃ d, Keyed.get? ms "gnmi" = some d ∧
      TelemetryDefaults.reader.document d = .ok i.telemetry

/-! ## Reading a check -/

namespace Intent

theorem required_eq_ok_iff {ms : Members} {key : String} {d : Document} :
    required ms key = .ok d ↔ Keyed.get? ms key = some d := by
  unfold required
  cases Keyed.get? ms key with
  | none => exact ⟨nofun, nofun⟩
  | some d' => simp

theorem membersAt_eq_ok_iff {ms fields : Members} {key : String} {problem : IntentProblem} :
    membersAt ms key problem = .ok fields ↔
      Document.IsObjectOrNothing (Keyed.get? ms key)
        ∧ fields = Document.membersOf (Keyed.get? ms key) := by
  unfold membersAt Document.IsObjectOrNothing
  cases Keyed.get? ms key with
  | none => simp [Document.membersOf, eq_comm]
  | some d => cases d <;> simp [Document.membersOf, eq_comm]

/-- The severity of an entry, as its form says it. -/
theorem severity_eq_iff {fields : Members} {severity : Severity} :
    ((Keyed.get? fields "severity").map fun s => Severity.ofText s.plain).getD .error = severity ↔
      (∃ d, Keyed.get? fields "severity" = some d ∧ Severity.IsSpelt d.plain severity) ∨
        severity = .error ∧ ∀ d, Keyed.get? fields "severity" = some d →
          ∀ other, ¬ Severity.IsSpelt d.plain other := by
  cases Keyed.get? fields "severity" with
  | none => simp [eq_comm]
  | some d => simp [Severity.ofText_eq_iff]

/-- **An entry reads as a check** exactly if it is an object that declares it. -/
theorem readCheck_eq_ok_iff {d : Document} {c : Check} :
    readCheck d = .ok c ↔ ∃ fields, d = .object fields ∧ Check.DeclaredBy fields c := by
  constructor
  · intro h
    cases d with
    | object fields =>
        simp only [readCheck, Except.bind_eq_ok_iff, required_eq_ok_iff] at h
        obtain ⟨name, hname, word, hword, h⟩ := h
        -- the phase of drift is refused, and so is a word that is no phase
        split at h
        · cases h
        · cases h
        · rename_i phase hdrift hphase
          obtain ⟨kind, hkind, params, hparams, h⟩ := by
            simpa only [Except.bind_eq_ok_iff, required_eq_ok_iff] using h
          cases h
          have hspelt : (word.plain, phase) ∈ Phase.spellings := by
            rcases Phase.ofName?_eq_some_iff.mp hphase with hspelt | ⟨-, rfl⟩
            · exact hspelt
            · exact absurd rfl hdrift
          exact ⟨fields, rfl, ⟨name, hname, rfl⟩, ⟨word, hword, hspelt⟩, ⟨kind, hkind, rfl⟩,
            severity_eq_iff.mp rfl, membersAt_eq_ok_iff.mp hparams⟩
    | _ => cases h
  · rintro ⟨fields, rfl, hc⟩
    obtain ⟨name, hname, hname'⟩ := hc.name
    obtain ⟨word, hword, hspelt⟩ := hc.phase
    obtain ⟨kind, hkind, hkind'⟩ := hc.kind
    have hphase := Phase.ofName?_eq_some_iff.mpr (.inl hspelt)
    have hdrift := Phase.ne_drift_of_mem_spellings hspelt
    have hparams : membersAt fields "params" (.paramsNotObject name.plain) = .ok c.params :=
      membersAt_eq_ok_iff.mpr hc.params
    have hseverity := severity_eq_iff.mpr hc.severity
    obtain ⟨cname, cphase, ckind, cseverity, cparams⟩ := c
    subst hname' hkind' hseverity
    simp only [readCheck, Except.bind_eq_ok_iff, required_eq_ok_iff]
    refine ⟨name, hname, word, hword, ?_⟩
    split
    · simp_all
    · simp_all
    · rename_i phase _ hphase'
      obtain rfl : phase = cphase := by simpa [hphase'] using hphase
      simp only [Except.bind_eq_ok_iff, required_eq_ok_iff]
      exact ⟨kind, hkind, cparams, hparams, rfl⟩

theorem readInventory_eq_ok_iff {ms : Members} {inventory : Inventory} :
    readInventory ms = .ok inventory ↔
      ∃ nodes, Keyed.get? ms "inventory" = some (.object nodes) ∧
        Inventory.reader.document (.object nodes) = .ok inventory := by
  simp only [readInventory, Except.bind_eq_ok_iff, required_eq_ok_iff]
  constructor
  · rintro ⟨d, hd, h⟩
    cases d with
    | object nodes => exact ⟨nodes, hd, Except.mapError_eq_ok_iff.mp h⟩
    | _ => cases h
  · rintro ⟨nodes, hd, h⟩
    exact ⟨.object nodes, hd, Except.mapError_eq_ok_iff.mpr h⟩

theorem readChecks_eq_ok_iff {ms : Members} {checks : List Check} :
    readChecks ms = .ok checks ↔
      ∃ entries, Keyed.get? ms "checks" = some (.list entries) ∧
        List.Forall₂ (fun entry c => ∃ fields, entry = .object fields ∧ Check.DeclaredBy fields c)
          entries checks := by
  simp only [readChecks, Except.bind_eq_ok_iff, required_eq_ok_iff, ← readCheck_eq_ok_iff]
  constructor
  · rintro ⟨d, hd, h⟩
    cases d with
    | list entries => exact ⟨entries, hd, Except.mapM_eq_ok_iff.mp h⟩
    | _ => cases h
  · rintro ⟨entries, hd, h⟩
    exact ⟨.list entries, hd, Except.mapM_eq_ok_iff.mpr h⟩

/-- Null does not read as telemetry defaults. -/
theorem telemetry_null {t : TelemetryDefaults} :
    TelemetryDefaults.reader.document .null ≠ .ok t :=
  nofun

theorem readTelemetry_eq_ok_iff {ms : Members} {t : TelemetryDefaults} :
    readTelemetry ms = .ok t ↔
      (Keyed.get? ms "gnmi" = none ∨ Keyed.get? ms "gnmi" = some .null) ∧ t = .standard ∨
        ∃ d, Keyed.get? ms "gnmi" = some d ∧ TelemetryDefaults.reader.document d = .ok t := by
  unfold readTelemetry
  split
  · rename_i h
    simp [h, eq_comm]
  · rename_i h
    have hnone : ¬ ∃ d, some Document.null = some d ∧ TelemetryDefaults.reader.document d = .ok t := by
      rintro ⟨d, hd, hreads⟩
      cases hd
      exact telemetry_null hreads
    rw [h, or_iff_left hnone, and_iff_right (.inr rfl), Except.ok.injEq, eq_comm]
  · rename_i d hnull h
    have hnull' : d ≠ .null := hnull
    simp [h, hnull', Except.mapError_eq_ok_iff]

/-- **A document reads as an intent** exactly if it is an object, or null in place of the empty one,
that holds it. -/
theorem ofDocument_eq_ok_iff {lab : String} {d : Document} {i : Intent} :
    ofDocument lab d = .ok i ↔ ∃ ms, d.orEmpty = .object ms ∧ Holds lab ms i := by
  have hdoc : (if d.isNull then Document.object [] else d) = d.orEmpty := by
    cases d <;> rfl
  rw [ofDocument, hdoc]
  constructor
  · intro h
    split at h
    · rename_i ms hms
      simp only [Except.bind_eq_ok_iff, readInventory_eq_ok_iff, membersAt_eq_ok_iff,
        readChecks_eq_ok_iff, readTelemetry_eq_ok_iff] at h
      obtain ⟨inventory, hinventory, services, hservices, checks, hchecks, t, ht, h⟩ := h
      cases h
      exact ⟨ms, hms, rfl, rfl, hinventory, hservices, hchecks, ht⟩
    · cases h
  · rintro ⟨ms, hms, hi⟩
    obtain ⟨ilab, it, iinventory, iservices, ichecks, iraw⟩ := i
    obtain ⟨rfl, rfl, hinventory, hservices, hchecks, ht⟩ := hi
    rw [hms]
    simp only [Except.bind_eq_ok_iff, readInventory_eq_ok_iff, membersAt_eq_ok_iff,
      readChecks_eq_ok_iff, readTelemetry_eq_ok_iff]
    exact ⟨iinventory, hinventory, iservices, hservices, ichecks, hchecks, it, ht, rfl⟩

/-- No check that members hold is declared for the drift phase. -/
theorem Holds.phase_ne_drift {lab : String} {ms : Members} {i : Intent} (h : Holds lab ms i)
    {c : Check} (hc : c ∈ i.checks) : c.phase ≠ .drift := by
  obtain ⟨entries, -, hchecks⟩ := h.checks
  obtain ⟨entry, -, fields, -, hdeclared⟩ := hchecks.exists_of_mem_right hc
  obtain ⟨word, -, hspelt⟩ := hdeclared.phase
  exact Phase.ne_drift_of_mem_spellings hspelt

/-- A YAML text that parses reads as the intent that its document does. -/
theorem ofYaml_eq (lab : String) {text : String} {d : Document}
    (h : Document.ofYaml text = .ok d) :
    ofYaml lab text = (ofDocument lab d).mapError .intent := by
  rw [ofYaml, h]
  rfl

/-- An intent with the other spelling of a phase, a name that is a number and a misspelt severity. -/
def smallText : String :=
  "\x7binventory: {}, checks: [{name: a, phase: control_plane, kind: x}, "
    ++ "{name: 7, phase: intent, kind: y, severity: w}]\x7d"

/-- The text is an intent with these two checks. -/
theorem exists_ofYaml_smallText :
    ∃ i, ofYaml "lab" smallText = .ok i ∧
      i.checks.map (fun c => (c.name, c.phase, c.severity)) =
        [("a", .controlPlane, .error), ("7", .intent, .error)] := by
  have hchecks : (ofYaml "lab" smallText).toOption.map
      (fun i => i.checks.map fun c => (c.name, c.phase, c.severity)) =
        some [("a", .controlPlane, .error), ("7", .intent, .error)] := by
    decide +kernel
  cases hi : ofYaml "lab" smallText with
  | error e => rw [hi] at hchecks; cases hchecks
  | ok i =>
      rw [hi] at hchecks
      exact ⟨i, rfl, Option.some.inj hchecks⟩

end Intent

end FabricAudit
