import FabricAudit.Files.Tree
import FabricAudit.Intent.Basic

set_option autoImplicit false

/-! # Intent files

Every lab has a directory under a root, and its intent stands there at a fixed path.
-/

namespace FabricAudit.Intent

def path (root lab : String) : String :=
  Path.join (Path.join (Path.join root lab) "intent") "intent.yml"

/-- The intent of a lab. A file that cannot be read, for whatever reason, is no intent. -/
def load (files : FileTree) (root lab : String) : Except Fault Intent := do
  let path := path root lab
  let text ← (files.read path).mapError fun _ => .intentMissing path
  ofYaml lab text

end FabricAudit.Intent
