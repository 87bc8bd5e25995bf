import FabricAudit.Intent.Telemetry

set_option autoImplicit false

/-! # Telemetry transports

A transport answers requests for paths of the telemetry of a node, with a payload or by declining.
An answer may depend on the requests before it.
-/

namespace FabricAudit

/-- A request for a path of the telemetry of a node. -/
structure Request where
  node : String
  path : String
  deriving DecidableEq, Repr

inductive TelemetryAnswer where
  | payload (data : Document)
  | declined (reason : String)

/-- A transport: its answer to a request, given the requests before. -/
abbrev Transport := List Request → Request → TelemetryAnswer

namespace Transport

/-- The transport of a fabric without telemetry, which declines everything. -/
def disabled (t : TelemetryDefaults) : Transport := fun _ r =>
  .declined ("telemetry not available for " ++ r.path ++ " (no gNMI client for " ++ t.username
    ++ "@" ++ r.node ++ ":" ++ Decimal.ofNat t.port ++ ")")

/-- A transport that knows certain paths, the same for every node. -/
def static (payloads : Members) : Transport := fun _ r =>
  match Keyed.get? payloads r.path with
  | some d => .payload d
  | none => .declined ("unsupported path " ++ r.path)

end Transport

end FabricAudit
