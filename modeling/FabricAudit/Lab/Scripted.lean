import FabricAudit.Lab.Container

set_option autoImplicit false

/-! # Scripted labs

A lab that answers from a script. A command without an answer in the script fails with return code
127, and a broken node executes nothing.
-/

namespace FabricAudit

structure Script where
  /-- The names of the nodes, each once. -/
  nodes : List String
  kinds : Keyed String
  /-- The replies to commands, the latest first. -/
  replies : List (Call × Reply)
  /-- The nodes that execute nothing, with what is said of them. -/
  broken : Keyed String

namespace Script

def empty : Script := ⟨[], [], [], []⟩

/-- Adds a node. One that is there changes its kind. -/
def addNode (s : Script) (node kind : String) : Script :=
  { s with
    nodes := if s.nodes.contains node then s.nodes else s.nodes ++ [node]
    kinds := Keyed.insert node kind s.kinds }

def addReply (s : Script) (c : Call) (r : Reply) : Script :=
  { s with replies := (c, r) :: s.replies }

def breakNode (s : Script) (node message : String) : Script :=
  { s with broken := Keyed.insert node message s.broken }

def unscripted (command : String) : Reply :=
  ⟨127, "", "no scripted response for '" ++ command ++ "'"⟩

def answer (s : Script) (c : Call) : Except Fault Reply :=
  match Keyed.get? s.broken c.node with
  | some message => .error (.node c.node message)
  | none => .ok ((s.replies.lookup c).getD (unscripted c.command))

def lab (s : Script) (files : FileTree) (directory : String) : Lab Unit :=
  ⟨s.nodes, fun node => (Keyed.get? s.kinds node).getD Topology.unknownKind,
    Container.desired files directory, fun c u => (s.answer c, u)⟩

end Script

end FabricAudit
