import FabricAudit.Check.Params
import FabricAudit.Evidence.Host
import FabricAudit.Verdict.Subject

set_option autoImplicit false

/-! # Probes from hosts

Whether hosts reach addresses, and whether they have not learned certain neighbours. Results come
probe by probe, in order.
-/

namespace FabricAudit.Verdict

/-- The interface that a probe goes through; an empty name is none. -/
def through (p : PingTargets) : Option String := p.interface.filter (· != "")

/-- Whether a listing that succeeded lacks an interface. -/
def lacks (found : Host.Interfaces) (interface : String) : Bool :=
  found.rc == 0 && !found.names.contains interface

/-- The result for a target that cannot be pinged, because the interface is not there. -/
def absentResult (c : Check) (source interface target : String) : Result :=
  (Result.failed c.phase (c.probeName source target) c.severity
    ("interface " ++ interface ++ " not present on " ++ source)).withEvidence
    (.ofPairs [("interface", .text interface)])

def pingResult (c : Check) (source target : String) (r : Reply) : Result :=
  c.outcome (c.probeName source target) r.isSuccess
    (if r.isSuccess then "ping " ++ target ++ " ok"
      else "ping " ++ target ++ " failed (rc=" ++ Decimal.ofInt r.rc ++ ")")
    (.ofPairs [("rc", .int r.rc)])

/-- The results of one host. If the interface turns out not to be there, nothing is pinged. -/
def pingProbe {σ : Type} (s : Subject σ) (c : Check) (interface : Option String)
    (probe : PingProbe) : Audit σ (List Result) := do
  let absent ←
    match interface with
    | none => pure none
    | some i => do
      let found ← Audit.ofWork (Host.interfaces s.lab probe.source)
      pure (if lacks found i then some i else none)
  match absent with
  | some i => pure (probe.targets.map (absentResult c probe.source i))
  | none =>
    probe.targets.mapM fun target => do
      let reply ← Audit.ofWork (Host.ping s.lab probe.source target interface)
      pure (pingResult c probe.source target reply)

def pingTargets {σ : Type} (s : Subject σ) (c : Check) : Audit σ (List Result) := do
  let p ← Audit.params c PingTargets.reader
  let results ← p.probes.mapM (pingProbe s c (through p))
  pure results.flatten

/-- The result for a host with the given table of neighbours. -/
def neighborResult (c : Check) (probe : NeighborProbe) (r : Reply) : Result :=
  let ok := !Text.contains r.stdout probe.target
  let message :=
    if ok && !r.isSuccess then
      probe.target ++ " not learned on " ++ probe.interface ++ " (ip neigh rc="
        ++ Decimal.ofInt r.rc ++ ")"
    else if ok then probe.target ++ " not learned on " ++ probe.interface
    else probe.target ++ " present in neighbor table of " ++ probe.interface
  c.outcome (c.probeName probe.source probe.target) ok message
    (.ofPairs [("interface", .text probe.interface), ("rc", .int r.rc)])

/-- The result of one host. The ping before the look-up gives the host a chance to learn the
neighbour; how it ends does not matter. -/
def neighborProbe {σ : Type} (s : Subject σ) (c : Check) (probe : NeighborProbe) :
    Audit σ Result := do
  let _ ← Audit.ofWork (Host.ping s.lab probe.source probe.target (some probe.interface))
  let reply ← Audit.ofWork (Host.neighbors s.lab probe.source probe.interface)
  pure (neighborResult c probe reply)

def neighborAbsent {σ : Type} (s : Subject σ) (c : Check) : Audit σ (List Result) := do
  let p ← Audit.params c NeighborAbsent.reader
  p.probes.mapM (neighborProbe s c)

end FabricAudit.Verdict
