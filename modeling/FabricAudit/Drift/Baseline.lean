import FabricAudit.Drift.Snapshot
import FabricAudit.Files.Tree

set_option autoImplicit false

/-! # Baselines

A baseline is a snapshot that is kept as a file.
-/

namespace FabricAudit.Baseline

def load (files : FileTree) (path : String) : Except Fault Snapshot := do
  let text ← (files.read path).mapError fun f => .baseline path (.file f)
  (Snapshot.ofText text).mapError fun f => .baseline path (.content f)

def save (path : String) (s : Snapshot) : FileTree.Work Unit := FileTree.save path s.toText

end FabricAudit.Baseline
