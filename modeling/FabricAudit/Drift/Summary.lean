import FabricAudit.Check.Result
import FabricAudit.Drift.Configuration
import FabricAudit.Drift.Difference

set_option autoImplicit false

/-! # Summaries of drift

Drift counts as two results of the phase that is kept for it: one for the state of the fabric, one
for its configurations. Each fails if there is any drift, and shows a sample of it.
-/

namespace FabricAudit.Drift

/-- How many entries a sample shows at most. -/
def sampleSize : Nat := 20

def sample {α : Type} (document : α → Document) (items : List α) : Document :=
  .ofPairs [("sample", .list ((items.take sampleSize).map document))]

def stateResult (state : List Difference) : Result :=
  if state.isEmpty then .passed .drift "state drift" "No state drift"
  else
    (Result.failed .drift "state drift" .error
      (Decimal.ofNat state.length ++ " differences")).withEvidence
      (sample Difference.toDocument state)

def configResult (findings : List ConfigFinding) : Result :=
  if findings.isEmpty then .passed .drift "config drift" "No config drift"
  else
    ((Result.failed .drift "config drift" .error
      (Decimal.ofNat findings.length ++ " nodes changed")).withEvidence
      (sample ConfigFinding.toDocument findings)).withRemediation
      "reconcile running-config with configs/<node>.cfg or refresh the desired file"

def summary (state : List Difference) (findings : List ConfigFinding) : Summary :=
  ⟨[stateResult state, configResult findings]⟩

end FabricAudit.Drift
