import FabricAudit.Verdict.Configuration
import FabricAudit.Verdict.Distinct
import FabricAudit.Verdict.Interfaces
import FabricAudit.Verdict.Probes
import FabricAudit.Verdict.Routes
import FabricAudit.Verdict.Sessions

set_option autoImplicit false

/-! # Running checks

A check of a known kind either gives all of its results, or crashes and gives a single failure. A
run carries out the checks of its phases one after the other; it never ends early.
-/

namespace FabricAudit.Verdict

variable {σ : Type}

/-- The results of a check, unless it ends in a fault. -/
def ofCheck (s : Subject σ) (c : Check) : Audit σ (List Result) :=
  match c.kind with
  | .configContains => configContains s c
  | .interfacesUp => interfacesUp s c
  | .bgpEstablished => bgpEstablished s c
  | .evpnRoutesPresent => evpnRoutesPresent s c
  | .evpnSessionsUp => evpnSessionsUp s c
  | .pingTargets => pingTargets s c
  | .neighborAbsent => neighborAbsent s c
  | .intentDistinct => intentDistinct s c
  | .unsupported _ => pure [Result.unsupported c]

/-- The results of a check. A fault becomes a failure. -/
def runCheck (s : Subject σ) (c : Check) : StateM (Audit.State σ) (List Result) := do
  match ← (ofCheck s c).run with
  | .ok results => pure results
  | .error f => pure [Result.crashed c f.message]

def run (s : Subject σ) (mode : RunMode) : StateM (Audit.State σ) Summary := do
  let results ← (s.intent.checks.filter fun c => mode.includes c.phase).mapM (runCheck s)
  pure ⟨results.flatten⟩

end FabricAudit.Verdict
