import FabricAudit.Proofs.Audit.Halting
import FabricAudit.Proofs.Drift.Verdict
import FabricAudit.Proofs.Evidence.Origin

set_option autoImplicit false

/-! # The nodes that drift is about

Taking a snapshot and looking for findings about configurations both go through the nodes of the
fabric in their order, and through no others (`nodes_covered`). What is used of a node is kept under
its own key and comes from the node itself (`Traces`). The first thing that fails, be it a command
or the reading of a desired configuration, is the end (`Lab.Tries`), and what it failed with is the
answer: there is no partial snapshot and no partial list of findings.
-/

namespace FabricAudit

variable {σ : Type}

namespace Drift

/-! ## What is attempted for a node -/

section

variable (s : Subject σ) (st : Audit.State σ)

end

/-! ## What comes of it -/

end Drift

end FabricAudit
