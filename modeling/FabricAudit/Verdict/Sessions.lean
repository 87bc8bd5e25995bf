import FabricAudit.Check.Params
import FabricAudit.Verdict.Subject

set_option autoImplicit false

/-! # Sessions that must be established

Whether enough BGP sessions of a node are established, and whether it has any established EVPN
session. BGP sessions are counted in 64-bit words: telemetry may give counts up to two to the 64,
and from two to the 63 on they wrap around to negative numbers.
-/

namespace FabricAudit.Verdict

/-- A count as a signed 64-bit word. -/
def wrapped (n : Nat) : Int := Int.bmod n (Nat.pow 2 64)

def sessionsResult (c : Check) (p : BgpEstablished) (node : String) (source : Source)
    (found : Sessions) : Result :=
  c.outcome (c.nodeName node) (p.isSatisfied (wrapped found.total) (wrapped found.established))
    ("established " ++ Decimal.ofNat found.established ++ "/" ++ Decimal.ofNat found.total)
    (.ofPairs [("source", .text source.name), ("established", .nat found.established),
      ("total", .nat found.total)])

def bgpEstablished {σ : Type} (s : Subject σ) (c : Check) : Audit σ (List Result) := do
  let p ← Audit.params c BgpEstablished.reader
  (p.selector.resolve s.intent.inventory).mapM fun node => do
    let record ← Evidence.sessions s.lab s.transport node
    let found ← Audit.ofReading (record.readAt "parsed" Sessions.none Sessions.reader)
    pure (sessionsResult c p node record.source found)

def evpnResult (c : Check) (node : String) (record : Record) (found : EvpnSummary) : Result :=
  c.outcome (c.nodeName node) (0 < found.neighbors && 0 < found.established)
    ("EVPN sessions established " ++ Decimal.ofNat found.established ++ "/"
      ++ Decimal.ofNat found.neighbors)
    (.ofPairs [("summary", found.toDocument),
      ("evpn_summary_rc", (record.data.get? "evpn_summary_rc").getD .null),
      ("evpn_summary_lines", (record.data.get? "evpn_summary_lines").getD .null)])

def evpnSessionsUp {σ : Type} (s : Subject σ) (c : Check) : Audit σ (List Result) := do
  let p ← Audit.params c EvpnSessions.reader
  (p.selector.resolve s.intent.inventory).mapM fun node => do
    let record ← Evidence.evpnSummary s.lab node
    let found ← Audit.ofReading (record.readAt "summary" EvpnSummary.none EvpnSummary.reader)
    pure (evpnResult c node record found)

end FabricAudit.Verdict
