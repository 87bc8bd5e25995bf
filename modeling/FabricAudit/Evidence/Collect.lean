import FabricAudit.Evidence.Interfaces
import FabricAudit.Evidence.Sessions
import FabricAudit.Evidence.Store

set_option autoImplicit false

/-! # Collecting evidence on switches

Which commands tell what of a switch, and how their outputs become records. Interfaces and BGP
sessions are asked for by telemetry first; everything else has the command line only. Each kind of
evidence has keys of its own, told apart by what stands before the colon.
-/

namespace FabricAudit

def interfacesPath : String := "/interfaces/interface/state"

def sessionsPath : String :=
  "/network-instances/network-instance/protocols/protocol/bgp/neighbors/neighbor"
    ++ "/state/session-state"

namespace Evidence

def interfacesData (r : Reply) : Document :=
  let parsed := Interface.ofTable r.stdout
  let up := parsed.countP Interface.isUp
  .ofPairs [("rc", .int r.rc), ("up", .nat up), ("down", .nat (parsed.length - up)),
    ("parsed", .list (parsed.map Interface.toDocument)), ("raw", .text r.stdout),
    ("err", .text r.stderr)]

def sessionsData (r : Reply) : Document :=
  .ofPairs [("rc", .int r.rc), ("parsed", (Sessions.ofTable r.stdout).toDocument),
    ("raw", .text r.stdout), ("err", .text r.stderr)]

/-- The record of the two tables that tell of EVPN sessions: that of BGP sessions, and its own. -/
def evpnData (bgp evpn : Reply) : Document :=
  .ofPairs [("summary", (EvpnSummary.ofTable bgp.stdout).toDocument),
    ("evpn_summary_rc", .int evpn.rc), ("evpn_summary_lines", .nat (Text.filledCount evpn.stdout)),
    ("raw", .text evpn.stdout), ("err", .text evpn.stderr)]

def rawData (r : Reply) : Document :=
  .ofPairs [("rc", .int r.rc), ("raw", .text r.stdout), ("err", .text r.stderr)]

variable {σ : Type}

def interfaces (lab : Lab σ) (t : Transport) (node : String) : Audit σ Record :=
  Audit.collect t ("interfaces:" ++ node) interfacesPath node do
    pure (interfacesData (← lab.switch node "show interfaces description"))

def sessions (lab : Lab σ) (t : Transport) (node : String) : Audit σ Record :=
  Audit.collect t ("bgp-summary:" ++ node) sessionsPath node do
    pure (sessionsData (← lab.switch node "show bgp summary"))

def evpnSummary (lab : Lab σ) (node : String) : Audit σ Record :=
  Audit.collectByCommand ("evpn-summary:" ++ node) do
    let bgp ← lab.switch node "show bgp summary"
    let evpn ← lab.switch node "show bgp evpn summary"
    pure (evpnData bgp evpn)

def runningConfig (lab : Lab σ) (node : String) : Audit σ Record :=
  Audit.collectByCommand ("running-config:" ++ node) do
    pure (rawData (← lab.switch node "show running-config"))

def evpnRoutes (lab : Lab σ) (node : String) : Audit σ Record :=
  Audit.collectByCommand ("evpn-routes:" ++ node) do
    pure (rawData (← lab.switch node "show bgp evpn"))

end Evidence

end FabricAudit
