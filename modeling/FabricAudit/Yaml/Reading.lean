import FabricAudit.Document.Basic
import FabricAudit.Text.Blank
import FabricAudit.Yaml.Anchor
import FabricAudit.Yaml.Written

set_option autoImplicit false

/-! # YAML values as documents

Every YAML value has a document: local tags are dropped, floats that are not finite become null, and
keys become texts. When two keys of a mapping have the same text the later pair counts.

`Node.ofDocument` is the other way. `Node.get?` looks a text key up without going through documents.
-/

namespace FabricAudit.Yaml.Node

/-- The text of a key. A text stands for itself, a number or word for its plain form, and any other
key for its written form without the blanks around it; a key without written form has no text. -/
def keyText (n : Node) : String :=
  match n with
  | .sequence _ | .mapping _ | .tagged _ _ => (n.written?.map Text.trim).getD ""
  | n => n.word

mutual

def toDocument : Node → Document
  | .null => .null
  | .bool b => .bool b
  | .int n => .int n
  | .float (.finite x) => .float x
  | .float _ => .null
  | .text s => .text s
  | .sequence items => .list (itemsToDocument items)
  | .mapping pairs => .ofPairs (pairsToDocument pairs)
  | .tagged _ n => toDocument n

def itemsToDocument : List Node → List Document
  | [] => []
  | n :: rest => toDocument n :: itemsToDocument rest

def pairsToDocument : List (Node × Node) → List (String × Document)
  | [] => []
  | (k, v) :: rest => (keyText k, toDocument v) :: pairsToDocument rest

end

mutual

def ofDocument : Document → Node
  | .null => .null
  | .bool b => .bool b
  | .int n => .int n
  | .float x => .float (.finite x)
  | .text s => .text s
  | .list items => .sequence (ofItems items)
  | .object members => .mapping (ofMembers members)

def ofItems : List Document → List Node
  | [] => []
  | d :: rest => ofDocument d :: ofItems rest

def ofMembers : List (String × Document) → List (Node × Node)
  | [] => []
  | (k, d) :: rest => (.text k, ofDocument d) :: ofMembers rest

end

/-- The value without its local tag. -/
def untag : Node → Node
  | .tagged _ n => untag n
  | n => n

def text? (n : Node) : Option String :=
  match n.untag with
  | .text s => some s
  | _ => none

def pairs? (n : Node) : Option (List (Node × Node)) :=
  match n.untag with
  | .mapping pairs => some pairs
  | _ => none

/-- The value of a text key, if this is a mapping that has it. -/
def get? (n : Node) (key : String) : Option Node :=
  n.pairs?.bind fun pairs =>
    (pairs.find? fun p => match p.1 with
      | .text s => s == key
      | _ => false).map (·.2)

end FabricAudit.Yaml.Node

namespace FabricAudit

def Document.ofYaml (s : String) : Except YamlFault Document := do
  let n ← Yaml.Node.ofText s
  .ok n.toDocument

end FabricAudit
