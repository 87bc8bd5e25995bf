import FabricAudit.Document.Reading

set_option autoImplicit false

/-! # Evidence

What is known of a node, and where it is known from.
-/

namespace FabricAudit

inductive Source where
  | telemetry
  /-- The command line of the node. -/
  | cli
  deriving DecidableEq, Repr

def Source.name : Source → String
  | .telemetry => "telemetry"
  | .cli => "cli"

structure Record where
  source : Source
  data : Document

namespace Record

/-- The return code of the command that gave the evidence, if it tells one. -/
def rc? (r : Record) : Option Int := (r.data.get? "rc").bind Document.word?

/-- The return code to go by. Telemetry has none and counts as success; a command that tells none
counts as failed. -/
def rc (r : Record) : Int :=
  match r.source with
  | .telemetry => 0
  | .cli => r.rc?.getD 1

/-- A text of the evidence; empty if there is none. -/
def textAt (r : Record) (key : String) : String := ((r.data.get? key).bind Document.text?).getD ""

/-- Reads a part of the evidence. What is absent or null has the given default. -/
def readAt {α : Type} (r : Record) (key : String) (absent : α) (reader : Reader α) :
    Except ReadFault α :=
  match r.data.get? key with
  | none | some .null => .ok absent
  | some d => reader.document d

def toDocument (r : Record) : Document :=
  .ofPairs [("source", .text r.source.name), ("data", r.data)]

end Record

end FabricAudit
