import FabricAudit.Evidence.Store
import FabricAudit.Files.Tree
import FabricAudit.Report.Terminal

set_option autoImplicit false

/-! # Consoles

What a command works on: the file tree, a container engine whose answers depend on a state, and two
outputs. A command may end in a fault; what it did and said up to then stays.
-/

namespace FabricAudit

/-- What a command works on. -/
structure Console (σ : Type) where
  files : FileTree
  /-- What the answers of the container engine depend on. -/
  engine : σ
  output : List String
  errors : List String

abbrev Job (σ : Type) (α : Type) := ExceptT Fault (StateM (Console σ)) α

namespace Job

variable {σ α : Type}

/-- Writes a line to the standard output. -/
def say (line : String) : Job σ Unit := modify fun c => { c with output := c.output ++ [line] }

def sayAll (lines : List String) : Job σ Unit :=
  modify fun c => { c with output := c.output ++ lines }

/-- Writes a line to the error output. -/
def report (line : String) : Job σ Unit := modify fun c => { c with errors := c.errors ++ [line] }

/-- An answer that depends on the files alone. -/
def fromFiles (f : FileTree → Except Fault α) : Job σ α := fun c => (f c.files, c)

def ofFiles (w : FileTree.Work α) : Job σ α := fun c =>
  let (answer, files) := w c.files
  (answer.mapError .file, { c with files := files })

/-- A part of an audit, with the evidence collected before it. The answer comes with what has been
collected then. -/
def ofAudit (a : Audit σ α) (store : Store) : Job σ (α × Store) := fun c =>
  let (answer, state) := a ⟨⟨c.engine, []⟩, store⟩
  (answer.map fun x => (x, state.store), { c with engine := state.world.state })

end Job

end FabricAudit
