import FabricAudit.Check.Result
import FabricAudit.Evidence.Collect
import FabricAudit.Intent.Basic

set_option autoImplicit false

/-! # What is audited

An audit holds an intent against a lab, of which it learns by telemetry and by commands.
-/

namespace FabricAudit

structure Subject (σ : Type) where
  intent : Intent
  lab : Lab σ
  transport : Transport

namespace Check

def nodeName (c : Check) (node : String) : String := c.name ++ "::" ++ node

def probeName (c : Check) (source target : String) : String :=
  c.name ++ "::" ++ source ++ "->" ++ target

def outcome (c : Check) (name : String) (ok : Bool) (message : String) (evidence : Document) :
    Result :=
  (Result.outcome c.phase name ok c.severity message).withEvidence evidence

end Check

def Audit.params {σ α : Type} (c : Check) (r : Reader α) : Audit σ α := ofReading (c.readParams r)

end FabricAudit
