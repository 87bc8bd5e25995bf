import FabricAudit.Files.Glob
import FabricAudit.Yaml.Reading

set_option autoImplicit false

/-! # Topologies

The file that describes a lab of containers: the name of the fabric, and its nodes with their kinds.
It stands in the directory of the lab, under the name of the lab if it can be found there, else as
the first file in order whose name ends like that of a topology.
-/

namespace FabricAudit

structure Topology where
  name : String
  /-- The names of the nodes, in the order in which the file has them. -/
  nodes : List String
  kinds : Keyed String
  deriving DecidableEq, Repr

namespace Topology

def ending : String := ".clab.yml"

/-- The kind of a node that names none. -/
def unknownKind : String := "unknown"

/-- A node, if the key of the pair can name one. -/
def node? (pair : Yaml.Node × Yaml.Node) : Option (String × String) :=
  pair.1.text?.map fun name =>
    (name, ((pair.2.get? "kind").bind Yaml.Node.text?).getD unknownKind)

/-- The topology that a YAML document describes. A fabric without a name has that of the lab. -/
def ofNode (lab : String) (n : Yaml.Node) : Topology :=
  let pairs := (((n.get? "topology").bind fun t => t.get? "nodes").bind Yaml.Node.pairs?).getD []
  let nodes := pairs.filterMap node?
  ⟨((n.get? "name").bind Yaml.Node.text?).getD lab, nodes.map (·.1), Keyed.ofList nodes⟩

def ofText (lab text : String) : Except Fault Topology :=
  ((Yaml.Node.ofText text).mapError .yaml).map (ofNode lab)

def kind (t : Topology) (node : String) : String := (Keyed.get? t.kinds node).getD unknownKind

def locate (files : FileTree) (directory lab : String) : Except Fault String := do
  let direct := Path.join directory (lab ++ ending)
  if files.exists? direct then .ok direct
  else
    match Path.least? (← Glob.paths files (Path.join directory ("*" ++ ending))) with
    | some path => .ok path
    | none => .error (.topology directory)

/-- The topology of a lab, with the path of its file. -/
def load (files : FileTree) (directory lab : String) : Except Fault (String × Topology) := do
  let path ← locate files directory lab
  let text ← (files.read path).mapError .file
  let topology ← ofText lab text
  .ok (path, topology)

end Topology

end FabricAudit
