import FabricAudit.Document.Reading
import FabricAudit.Document.Written
import FabricAudit.Inventory.Basic

set_option autoImplicit false

/-! # Selectors

A selector says which nodes a check is about: one node by name, else a list of names as it stands,
else the nodes of the inventory with a role and a group. Named nodes need not be in the inventory. A
filtered selection comes in the order of names, because the inventory does.
-/

namespace FabricAudit

/-- Which nodes a check is about. -/
structure Selector where
  /-- One node; it wins over everything else. -/
  node : Option String
  /-- Several nodes, in this order; they win over a filter. -/
  nodes : Option (List String)
  /-- A role that the nodes must have. An empty role asks for nothing. -/
  role : Option String
  /-- A group that the nodes must be in. An empty group asks for nothing. -/
  group : Option String
  deriving DecidableEq, Repr

namespace Selector

def all : Selector := ⟨none, none, none, none⟩

/-- Whether a set of names has the one that is asked for; nothing and the empty name ask for
none. -/
def admits (wanted : Option String) (names : List String) : Bool :=
  match wanted with
  | none => true
  | some w => w == "" || names.contains w

/-- Whether a node has the role and is in the group that are asked for. -/
def matchesNode (s : Selector) (n : InventoryNode) : Bool :=
  admits s.role n.roles && admits s.group n.groups

def resolve (s : Selector) (i : Inventory) : List String :=
  match s.node, s.nodes with
  | some name, _ => [name]
  | none, some names => names
  | none, none => (i.nodes.filter fun entry => s.matchesNode entry.2).map (·.1)

end Selector

/-! ## Reading selectors

Names may be given as any scalar: everything but null is taken in its plain form. -/

namespace Reader

/-- Any value, in its plain form. -/
def plain : Reader String := fun d => (any d).map Document.plain

def plainList : Reader (List String) := fun d => (list any d).map (List.map Document.plain)

end Reader

namespace Selector

def nodeField : Field (Option String) := .withDefault "node" none (Reader.optional Reader.plain)
def nodesField : Field (Option (List String)) :=
  .withDefault "nodes" none (Reader.optional Reader.plainList)
def roleField : Field (Option String) := .withDefault "role" none (Reader.optional Reader.plain)
def groupField : Field (Option String) := .withDefault "group" none (Reader.optional Reader.plain)

def reader : Reader Selector :=
  Reader.record "struct Selector"
    [nodeField.erase, nodesField.erase, roleField.erase, groupField.erase]
    fun g => do
      .ok ⟨← g.take nodeField, ← g.take nodesField, ← g.take roleField, ← g.take groupField⟩

end Selector

end FabricAudit
