set_option autoImplicit false

/-! # Kinds of checks

The closed set of questions that can be asked of a lab. A kind that is not known is kept by name: an
intent with such a check loads, and the check fails when it runs.
-/

namespace FabricAudit

inductive CheckKind where
  /-- Do the desired configurations of the nodes contain certain lines? -/
  | configContains
  /-- Are the selected interfaces of the nodes up? -/
  | interfacesUp
  /-- Are enough BGP sessions of the nodes established? -/
  | bgpEstablished
  /-- Do the nodes have EVPN routes? -/
  | evpnRoutesPresent
  /-- Do the nodes have an established EVPN session? -/
  | evpnSessionsUp
  /-- Can hosts reach certain addresses? -/
  | pingTargets
  /-- Have hosts not learned certain neighbours? -/
  | neighborAbsent
  /-- Are certain values of the intent pairwise different? -/
  | intentDistinct
  /-- A kind that is not known, by its name. -/
  | unsupported (name : String)
  deriving DecidableEq, Repr

namespace CheckKind

def words : List (String × CheckKind) := [
  ("config_contains", .configContains),
  ("interfaces_up", .interfacesUp),
  ("bgp_established", .bgpEstablished),
  ("evpn_routes_present", .evpnRoutesPresent),
  ("evpn_sessions_up", .evpnSessionsUp),
  ("ping_targets", .pingTargets),
  ("l2_neighbor_absent", .neighborAbsent),
  ("intent_distinct", .intentDistinct)]

def ofName (s : String) : CheckKind := (words.lookup s).getD (.unsupported s)

def name : CheckKind → String
  | .configContains => "config_contains"
  | .interfacesUp => "interfaces_up"
  | .bgpEstablished => "bgp_established"
  | .evpnRoutesPresent => "evpn_routes_present"
  | .evpnSessionsUp => "evpn_sessions_up"
  | .pingTargets => "ping_targets"
  | .neighborAbsent => "l2_neighbor_absent"
  | .intentDistinct => "intent_distinct"
  | .unsupported name => name

def isSupported : CheckKind → Bool
  | .unsupported _ => false
  | _ => true

end CheckKind

end FabricAudit
