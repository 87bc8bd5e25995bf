import FabricAudit.Document.Reading
import FabricAudit.Text.Case

set_option autoImplicit false

/-! # Replies

What a command gave back: its return code and its two outputs. A return code other than zero is
data, not a fault; a fault means that the command could not be executed at all.
-/

namespace FabricAudit

structure Reply where
  rc : Int
  stdout : String
  stderr : String
  deriving DecidableEq, Repr

namespace Reply

def isSuccess (r : Reply) : Bool := r.rc == 0

/-- Both outputs on lines of their own and in lower case, to look for words in. -/
def combined (r : Reply) : String := Text.lower (r.stdout ++ "\n" ++ r.stderr)

def toDocument (r : Reply) : Document :=
  .ofPairs [("rc", .int r.rc), ("stdout", .text r.stdout), ("stderr", .text r.stderr)]

def rcField : Field Int := .required "rc" (Reader.integer (.signed 32) "i32")
def stdoutField : Field String := .required "stdout" Reader.text
def stderrField : Field String := .required "stderr" Reader.text

def reader : Reader Reply :=
  Reader.record "struct CmdResult" [rcField.erase, stdoutField.erase, stderrField.erase]
    fun g => do .ok ⟨← g.take rcField, ← g.take stdoutField, ← g.take stderrField⟩

end Reply

end FabricAudit
