import FabricAudit.Document.Reading

set_option autoImplicit false

/-! # Telemetry defaults

Where and as whom the structured telemetry of a node is asked for, unless a node says otherwise.
-/

namespace FabricAudit

structure TelemetryDefaults where
  port : Nat
  username : String
  password : String
  deriving DecidableEq, Repr

namespace TelemetryDefaults

/-- The defaults of an intent that names none. -/
def standard : TelemetryDefaults := ⟨6030, "clab", "clab"⟩

def portField : Field Nat :=
  .withDefault "port" standard.port fun d => (Reader.integer (.unsigned 16) "u16" d).map Int.toNat
def usernameField : Field String := .withDefault "username" standard.username Reader.text
def passwordField : Field String := .withDefault "password" standard.password Reader.text

def reader : Reader TelemetryDefaults :=
  Reader.record "struct TelemetryDefaults"
    [portField.erase, usernameField.erase, passwordField.erase]
    fun g => do .ok ⟨← g.take portField, ← g.take usernameField, ← g.take passwordField⟩

def toDocument (t : TelemetryDefaults) : Document :=
  .ofPairs [("port", .nat t.port), ("username", .text t.username), ("password", .text t.password)]

end TelemetryDefaults

end FabricAudit
