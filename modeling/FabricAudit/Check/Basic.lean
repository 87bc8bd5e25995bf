import FabricAudit.Check.Kind
import FabricAudit.Check.Phase
import FabricAudit.Check.Severity

set_option autoImplicit false

/-! # Declared checks

A check as the intent declares it. Its parameters stay a document until the check runs, so an intent
with parameters that do not read still loads; the check then fails on its own.
-/

namespace FabricAudit

structure Check where
  /-- Its name, which its results carry. -/
  name : String
  phase : Phase
  kind : CheckKind
  severity : Severity
  params : Members

namespace Check

def readParams {α : Type} (c : Check) (r : Reader α) : Except ReadFault α :=
  r.document (.object c.params)

end Check

end FabricAudit
