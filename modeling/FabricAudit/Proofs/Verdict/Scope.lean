import FabricAudit.Proofs.Audit.Ending
import FabricAudit.Verdict.Run

set_option autoImplicit false

/-! # What a check is about, and what can keep it from its results

The parameters of a check and the inventory say which results it owes: one for every selected node,
one for every host and address, or a single one (`Check.scope`, `Scope.names`). `Answers` says what
such a result looks like, whatever was found.

A check gives all of them unless something is in its way, and `Hindrance` lists what can be: its
parameters, its patterns, a desired configuration, or the evidence that a store has on a node. A
command that cannot be executed is the only other reason; it is not a matter of the store.
-/

namespace FabricAudit

/-! ## Scopes -/

/-- What the results of a check are about, in the order in which they come. -/
inductive Scope where
  | nodes (selector : Selector)
  | probes (pairs : List (String × String))
  | whole

namespace Check

/-- What the results of a check are about, if its parameters read. A check of a kind that is not
known has no parameters to read. -/
def scope (c : Check) : Except ReadFault Scope :=
  match c.kind with
  | .configContains => (c.readParams ConfigContains.reader).map fun p => .nodes p.selector
  | .interfacesUp => (c.readParams InterfacesUp.reader).map fun p => .nodes p.selector
  | .bgpEstablished => (c.readParams BgpEstablished.reader).map fun p => .nodes p.selector
  | .evpnRoutesPresent => (c.readParams EvpnRoutes.reader).map fun p => .nodes p.selector
  | .evpnSessionsUp => (c.readParams EvpnSessions.reader).map fun p => .nodes p.selector
  | .pingTargets => (c.readParams PingTargets.reader).map fun p =>
      .probes (p.probes.flatMap fun probe => probe.targets.map fun target => (probe.source, target))
  | .neighborAbsent => (c.readParams NeighborAbsent.reader).map fun p =>
      .probes (p.probes.map fun probe => (probe.source, probe.target))
  | .intentDistinct => (c.readParams IntentDistinct.reader).map fun _ => .whole
  | .unsupported _ => .ok .whole

/-- The nodes that a check selects. -/
def nodes (c : Check) (i : Inventory) : List String :=
  match c.scope with
  | .ok (.nodes selector) => selector.resolve i
  | _ => []

/-- The patterns that a check has to read. -/
def patterns (c : Check) : List String :=
  match c.kind, c.readParams InterfacesUp.reader with
  | .interfacesUp, .ok p => p.namePatterns ++ p.descriptionPatterns ++ p.ignoredPatterns
  | _, _ => []

end Check

/-- The names of the results of a check, in order. -/
def Scope.names (c : Check) (i : Inventory) : Scope → List String
  | .nodes selector => (selector.resolve i).map fun node => c.name ++ "::" ++ node
  | .probes pairs => pairs.map fun pair => c.name ++ "::" ++ pair.1 ++ "->" ++ pair.2
  | .whole => [c.name]

/-- A result that a check gives under a name: it counts for the phase of the check, and either
passes, as mere information, or fails with the severity of the check. -/
structure Check.Answers (c : Check) (name : String) (r : Result) : Prop where
  name_eq : r.name = name
  phase_eq : r.phase = c.phase
  graded : r.status = .pass ∧ r.severity = .info ∨ r.status = .fail ∧ r.severity = c.severity

namespace Check.Answers

variable {c : Check} {name : String}

theorem outcome (c : Check) (name : String) (ok : Bool) (message : String) (evidence : Document) :
    c.Answers name (c.outcome name ok message evidence) := by
  cases ok with
  | false => exact ⟨rfl, rfl, .inr ⟨rfl, rfl⟩⟩
  | true => exact ⟨rfl, rfl, .inl ⟨rfl, rfl⟩⟩

theorem failed (c : Check) (name message : String) :
    c.Answers name (Result.failed c.phase name c.severity message) :=
  ⟨rfl, rfl, .inr ⟨rfl, rfl⟩⟩

/-- Neither evidence nor advice changes what a result says. -/
theorem withEvidence {r : Result} (h : c.Answers name r) (d : Document) :
    c.Answers name (r.withEvidence d) := ⟨h.name_eq, h.phase_eq, h.graded⟩

theorem withRemediation {r : Result} (h : c.Answers name r) (advice : String) :
    c.Answers name (r.withRemediation advice) := ⟨h.name_eq, h.phase_eq, h.graded⟩

end Check.Answers

/-! ## Outcomes -/

namespace Check

variable (c : Check) (name : String) (ok : Bool) (message : String)

theorem outcome_name (evidence : Document) : (c.outcome name ok message evidence).name = name := by
  cases ok <;> rfl

theorem outcome_status_eq_pass (evidence : Document) :
    (c.outcome name ok message evidence).status = .pass ↔ ok = true := by
  cases ok with
  | false => exact ⟨nofun, nofun⟩
  | true => exact ⟨fun _ => rfl, fun _ => rfl⟩

theorem outcome_status_eq_fail (evidence : Document) :
    (c.outcome name ok message evidence).status = .fail ↔ ok = false := by
  cases ok with
  | false => exact ⟨fun _ => rfl, fun _ => rfl⟩
  | true => exact ⟨nofun, nofun⟩

/-- An outcome has the evidence that it is given. -/
theorem get?_outcome_evidence {pairs : List (String × Document)} {key : String} {d : Document}
    (h : (key, d) ∈ pairs) (huniq : ∀ d', (key, d') ∈ pairs → d' = d) :
    Keyed.get? (c.outcome name ok message (.ofPairs pairs)).evidence key = some d :=
  Keyed.get?_ofList_of_mem h huniq

end Check

/-! ## Hindrances -/

/-- The evidence on switches that a check looks at. -/
def CheckKind.evidence? : CheckKind → Option EvidenceKind
  | .interfacesUp => some .interfaces
  | .bgpEstablished => some .sessions
  | .evpnRoutesPresent => some .evpnRoutes
  | .evpnSessionsUp => some .evpnSummary
  | _ => none

/-- The part of a record that a check reads with its type. Texts are taken as they are. -/
def EvidenceKind.readPart : EvidenceKind → Record → Except ReadFault Unit
  | .interfaces, r => (r.readAt "parsed" [] (Reader.list Interface.reader)).map fun _ => ()
  | .sessions, r => (r.readAt "parsed" Sessions.none Sessions.reader).map fun _ => ()
  | .evpnSummary, r => (r.readAt "summary" EvpnSummary.none EvpnSummary.reader).map fun _ => ()
  | .runningConfig, _ | .evpnRoutes, _ => .ok ()

namespace Verdict

variable {σ : Type}

/-- **What can be in the way of a check**, apart from commands, and the fault that it then ends
in. -/
inductive Hindrance (s : Subject σ) (c : Check) : Fault → Store → Prop where
  /-- The parameters do not read. -/
  | params {store : Store} {f : ReadFault} (h : c.scope = .error f) : Hindrance s c (.json f) store
  /-- A pattern makes no sense. -/
  | pattern {store : Store} {text : String} {f : PatternFault} (hmem : text ∈ c.patterns)
      (h : Pattern.ofText text = .error f) : Hindrance s c (.pattern f) store
  /-- The desired configuration of a selected node cannot be read. -/
  | desired {store : Store} {node : String} {f : FileFault} (hkind : c.kind = .configContains)
      (hmem : node ∈ c.nodes s.intent.inventory) (h : s.lab.desired node = .error f) :
      Hindrance s c (.file f) store
  /-- The evidence on a selected node does not read. -/
  | evidence {store : Store} {kind : EvidenceKind} {node : String} {r : Record} {f : ReadFault}
      (hkind : c.kind.evidence? = some kind) (hmem : node ∈ c.nodes s.intent.inventory)
      (hkept : Keyed.get? store.records (kind.key node) = some r)
      (h : kind.readPart r = .error f) : Hindrance s c (.json f) store

/-- What was in the way of a check that left the state `st'`: a command that could not be executed,
or one of the other hindrances. -/
def Obstacle (s : Subject σ) (c : Check) (st st' : Audit.State σ) (f : Fault) : Prop :=
  (∃ calls, st'.world.calls = st.world.calls ++ calls ∧
    .error f ∈ s.lab.replies calls st.world.state) ∨
  Hindrance s c f st'.store

/-- The results of a check are all there, one for every name of its scope, and nothing is in the
way. -/
structure Complete (s : Subject σ) (c : Check) (rs : List Result) (store : Store) : Prop where
  results : ∃ scope, c.scope = .ok scope ∧
    List.Forall₂ c.Answers (scope.names c s.intent.inventory) rs
  unhindered : ∀ f, ¬ Hindrance s c f store

end Verdict

end FabricAudit
