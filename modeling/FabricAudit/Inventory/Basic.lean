import FabricAudit.Document.Reading

set_option autoImplicit false

/-! # Inventories

The nodes of a fabric with their roles and groups. Roles and groups are sets, and nodes have unique
names: all three are kept sorted, so inventories with the same content are equal whatever the order
in which it was written.
-/

namespace FabricAudit

structure InventoryNode where
  /-- The sorted set of its roles. -/
  roles : List String
  /-- The sorted set of its groups. -/
  groups : List String
  deriving DecidableEq, Repr

namespace InventoryNode

/-- A node with roles and groups in any order, repeats allowed. -/
def ofLists (roles groups : List String) : InventoryNode :=
  ⟨Text.sortedSet roles, Text.sortedSet groups⟩

/-- A sorted set of texts. -/
def setReader : Reader (List String) := fun d => (Reader.list Reader.text d).map Text.sortedSet

def rolesField : Field (List String) := .withDefault "roles" [] setReader
def groupsField : Field (List String) := .withDefault "groups" [] setReader

def reader : Reader InventoryNode :=
  Reader.record "struct InventoryNode" [rolesField.erase, groupsField.erase]
    fun g => do .ok ⟨← g.take rolesField, ← g.take groupsField⟩

def toDocument (n : InventoryNode) : Document :=
  .ofPairs [("roles", .texts n.roles), ("groups", .texts n.groups)]

end InventoryNode

structure Inventory where
  nodes : Keyed InventoryNode
  deriving DecidableEq, Repr

namespace Inventory

def empty : Inventory := ⟨[]⟩

/-- Adds a node, or replaces the one of that name. -/
def insert (name : String) (node : InventoryNode) (i : Inventory) : Inventory :=
  ⟨Keyed.insert name node i.nodes⟩

def contains (i : Inventory) (name : String) : Bool := (Keyed.get? i.nodes name).isSome

def nodesField : Field (Keyed InventoryNode) :=
  .withDefault "nodes" [] fun d => (Reader.members InventoryNode.reader d).map Keyed.ofList

def reader : Reader Inventory :=
  Reader.record "struct Inventory" [nodesField.erase] fun g => do .ok ⟨← g.take nodesField⟩

def toDocument (i : Inventory) : Document :=
  .ofPairs [("nodes", .ofPairs (i.nodes.map fun (name, node) => (name, node.toDocument)))]

end Inventory

end FabricAudit
