import FabricAudit.Check.Params
import FabricAudit.Text.Quoted
import FabricAudit.Verdict.Subject

set_option autoImplicit false

/-! # Routes that must be present

Whether the EVPN routes of a node show certain texts.
-/

namespace FabricAudit.Verdict

def routesResult (c : Check) (p : EvpnRoutes) (node : String) (record : Record) : Result :=
  let rc := record.rc
  let ok := rc == 0 && p.isSatisfied (record.textAt "raw")
  let message :=
    if ok then "EVPN routes present"
    else if rc ≠ 0 then "show bgp evpn failed (rc=" ++ Decimal.ofInt rc ++ ")"
    else "no EVPN routes matching " ++ p.demand ++ " of " ++ Text.quoteList p.patterns
  c.outcome (c.nodeName node) ok message
    (.ofPairs [("rc", .int rc), ("patterns", .texts p.patterns)])

def evpnRoutesPresent {σ : Type} (s : Subject σ) (c : Check) : Audit σ (List Result) := do
  let p ← Audit.params c EvpnRoutes.reader
  (p.selector.resolve s.intent.inventory).mapM fun node => do
    pure (routesResult c p node (← Evidence.evpnRoutes s.lab node))

end FabricAudit.Verdict
