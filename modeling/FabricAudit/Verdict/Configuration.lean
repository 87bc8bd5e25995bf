import FabricAudit.Check.Params
import FabricAudit.Verdict.Subject

set_option autoImplicit false

/-! # Desired configurations

Whether the desired configuration of each node contains certain texts. A node without a desired
configuration contains none but the empty text. The lab is not asked anything.
-/

namespace FabricAudit.Verdict

def missingFrom (text : String) (required : List String) : List String :=
  required.filter fun needle => !Text.contains text needle

def configResult (c : Check) (required : List String) (node text : String) : Result :=
  let missing := missingFrom text required
  let evidence := Document.ofPairs [("missing", .texts missing)]
  if missing.isEmpty then
    c.outcome (c.nodeName node) true
      (Decimal.ofNat required.length ++ " required line(s) present") evidence
  else
    (c.outcome (c.nodeName node) false
      (Decimal.ofNat missing.length ++ " required line(s) missing") evidence).withRemediation
      ("add the missing lines to configs/" ++ node ++ ".cfg")

def configContains {σ : Type} (s : Subject σ) (c : Check) : Audit σ (List Result) := do
  let p ← Audit.params c ConfigContains.reader
  (p.selector.resolve s.intent.inventory).mapM fun node => do
    pure (configResult c p.required node (← Audit.ofExcept (s.lab.desiredText node)))

end FabricAudit.Verdict
