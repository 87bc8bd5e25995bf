import FabricAudit.Document.Reading

set_option autoImplicit false

/-! # Problems of an intent

Why a document is not an intent. All of them are found when the intent is loaded, before any check
runs.
-/

namespace FabricAudit

/-- Why a document is not an intent. -/
inductive IntentProblem where
  | notObject
  /-- A key is absent that every intent, or every check, must have. -/
  | missingKey (key : String)
  | inventoryNotObject
  | badInventory (fault : ReadFault)
  | servicesNotObject
  | checksNotList
  | checkNotObject
  | unknownPhase (name : String)
  /-- A check is declared for the phase that drift runs report in. -/
  | reservedPhase (check : String)
  | paramsNotObject (check : String)
  | badTelemetry (fault : ReadFault)

def IntentProblem.message : IntentProblem → String
  | .notObject => "intent document must be a mapping"
  | .missingKey key => "Missing required key: " ++ key
  | .inventoryNotObject => "inventory must be a mapping"
  | .badInventory fault => "invalid inventory: " ++ fault.message
  | .servicesNotObject => "services must be a mapping"
  | .checksNotList => "checks must be a list"
  | .checkNotObject => "each check entry must be a mapping"
  | .unknownPhase name => "unknown phase: " ++ name
  | .reservedPhase check => "check '" ++ check ++ "': phase 'drift' is reserved"
  | .paramsNotObject check => "check '" ++ check ++ "': params must be a mapping"
  | .badTelemetry fault => "invalid gnmi section: " ++ fault.message

end FabricAudit
