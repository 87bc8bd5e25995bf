import FabricAudit.Proofs.Audit.Determined
import FabricAudit.Proofs.Evidence.Collection

set_option autoImplicit false

/-! # The kinds of evidence on switches

The five collectors side by side: under which key each keeps its record, which telemetry would
answer it, and which commands it falls back on. The keys of two collectors never meet, whatever the
names of the nodes (`EvidenceKind.key_inj`), because what stands before the first colon tells the
collector.
-/

namespace FabricAudit

/-- What is collected on a switch. -/
inductive EvidenceKind where
  | interfaces
  | sessions
  | evpnSummary
  | runningConfig
  | evpnRoutes
  deriving DecidableEq, Repr

namespace EvidenceKind

variable {σ : Type}

/-! ## Keys -/

/-- What the keys of a kind of evidence begin with. -/
def keyHead : EvidenceKind → String
  | .interfaces => "interfaces:"
  | .sessions => "bgp-summary:"
  | .evpnSummary => "evpn-summary:"
  | .runningConfig => "running-config:"
  | .evpnRoutes => "evpn-routes:"

def key (kind : EvidenceKind) (node : String) : String := kind.keyHead ++ node

/-- **Keys do not collide**: a key tells the kind of evidence and the node. -/
theorem key_inj {kind kind' : EvidenceKind} {node node' : String}
    (h : kind.key node = kind'.key node') : kind = kind' ∧ node = node' := by
  have hchars : kind.keyHead.toList ++ node.toList = kind'.keyHead.toList ++ node'.toList := by
    rw [← String.toList_append, ← String.toList_append]
    exact congrArg String.toList h
  -- two different heads differ in one of their first characters, whatever follows them
  cases kind <;> cases kind' <;> simp [keyHead] at hchars ⊢ <;> exact String.toList_inj.mp hchars

/-! ## Collectors -/

/-- The telemetry request that would answer, unless there is none. -/
def telemetry (node : String) : EvidenceKind → Option Request
  | .interfaces => some ⟨node, interfacesPath⟩
  | .sessions => some ⟨node, sessionsPath⟩
  | .evpnSummary | .runningConfig | .evpnRoutes => none

def fallback (lab : Lab σ) (node : String) : EvidenceKind → Work σ Document
  | .interfaces => do
    pure (Evidence.interfacesData (← lab.switch node "show interfaces description"))
  | .sessions => do pure (Evidence.sessionsData (← lab.switch node "show bgp summary"))
  | .evpnSummary => do
    let bgp ← lab.switch node "show bgp summary"
    let evpn ← lab.switch node "show bgp evpn summary"
    pure (Evidence.evpnData bgp evpn)
  | .runningConfig => do pure (Evidence.rawData (← lab.switch node "show running-config"))
  | .evpnRoutes => do pure (Evidence.rawData (← lab.switch node "show bgp evpn"))

def collect (lab : Lab σ) (t : Transport) (node : String) : EvidenceKind → Audit σ Record
  | .interfaces => Evidence.interfaces lab t node
  | .sessions => Evidence.sessions lab t node
  | .evpnSummary => Evidence.evpnSummary lab node
  | .runningConfig => Evidence.runningConfig lab node
  | .evpnRoutes => Evidence.evpnRoutes lab node

/-- The collection that the collector carries out. -/
def collection (lab : Lab σ) (kind : EvidenceKind) (node : String) : Collection σ :=
  ⟨kind.key node, kind.telemetry node, kind.fallback lab node⟩

theorem collect_eq_run (lab : Lab σ) (t : Transport) (kind : EvidenceKind) (node : String) :
    kind.collect lab t node = (kind.collection lab node).run t := by
  cases kind <;> rfl

/-- In a steady lab the commands of a collector always find the same. -/
theorem fallback_determined {lab : Lab σ} (h : lab.IsSteady) (kind : EvidenceKind)
    (node : String) : Determined (fun _ => True) (kind.fallback lab node).run := by
  cases kind with
  | interfaces => exact .run_bind (h.perform _) fun _ => .run_pure _
  | sessions => exact .run_bind (h.perform _) fun _ => .run_pure _
  | evpnSummary =>
      refine .run_bind (h.perform _) fun bgp => .run_bind (h.perform _) fun evpn => ?_
      exact .run_pure _
  | runningConfig => exact .run_bind (h.perform _) fun _ => .run_pure _
  | evpnRoutes => exact .run_bind (h.perform _) fun _ => .run_pure _

end EvidenceKind

end FabricAudit
