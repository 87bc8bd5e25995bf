import FabricAudit.Fault
import FabricAudit.Lab.Reply

set_option autoImplicit false

/-! # Labs

A lab is what an audit looks at: nodes of certain kinds, each with a desired configuration, that
answer commands. How it answers is its own affair and may depend on a state `σ`; an audit sees the
replies only. Every command is noted in the order of execution, whether it could be executed or not.
-/

namespace FabricAudit

/-- How a command reaches a node. -/
inductive Channel where
  | shell
  | switch
  deriving DecidableEq, Repr

structure Call where
  channel : Channel
  node : String
  command : String
  deriving DecidableEq, Repr

/-- A lab whose answers depend on a state `σ`. -/
structure Lab (σ : Type) where
  nodes : List String
  kind : String → String
  desired : String → Except FileFault (Option String)
  /-- The reply to a command, or why it could not be executed, and the state after. -/
  answer : Call → σ → Except Fault Reply × σ

/-- The state of a lab, with the commands it was given. -/
structure World (σ : Type) where
  /-- What the answers of the lab depend on. -/
  state : σ
  /-- The commands so far, in order. -/
  calls : List Call

/-- Work on a lab: it may end in a fault, and what it did up to then stays done. -/
abbrev Work (σ : Type) (α : Type) := ExceptT Fault (StateM (World σ)) α

namespace Lab

variable {σ : Type}

def perform (lab : Lab σ) (c : Call) : Work σ Reply := fun w =>
  let (reply, state) := lab.answer c w.state
  (reply, ⟨state, w.calls ++ [c]⟩)

def shell (lab : Lab σ) (node command : String) : Work σ Reply :=
  lab.perform ⟨.shell, node, command⟩

def switch (lab : Lab σ) (node command : String) : Work σ Reply :=
  lab.perform ⟨.switch, node, command⟩

/-- The desired configuration of a node; that of a node without one is empty. -/
def desiredText (lab : Lab σ) (node : String) : Except Fault String :=
  match lab.desired node with
  | .ok text => .ok (text.getD "")
  | .error f => .error (.file f)

/-- The kind of the nodes that are mere hosts. -/
def hostKind : String := "linux"

/-- The nodes that are part of the fabric: all but the hosts. -/
def fabricNodes (lab : Lab σ) : List String := lab.nodes.filter fun n => lab.kind n != hostKind

end Lab

end FabricAudit
