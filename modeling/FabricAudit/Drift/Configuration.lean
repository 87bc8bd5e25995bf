import FabricAudit.Digest.Sha256
import FabricAudit.Document.Tagged
import FabricAudit.LineDiff.Block
import FabricAudit.Text.Case
import FabricAudit.Text.Lines

set_option autoImplicit false

/-! # Drift of configurations

A node whose running configuration is not the desired one has drifted. The two are compared by their
digests, and what differs is counted by lines. An output that cannot be a running configuration is
reported as such and compared with nothing.
-/

namespace FabricAudit

/-- A running configuration that could not be had. -/
structure MissingConfig where
  node : String
  message : String
  rc : Int
  stderr : String
  /-- The first lines of what came instead. -/
  preview : String
  deriving DecidableEq, Repr

/-- A running configuration that is not the desired one. -/
structure ChangedConfig where
  node : String
  desiredHash : String
  runningHash : String
  desiredLines : Nat
  runningLines : Nat
  /-- How many lines are in the running configuration only. -/
  linesAdded : Nat
  /-- How many lines are in the desired configuration only. -/
  linesRemoved : Nat
  deriving DecidableEq, Repr

inductive ConfigFinding where
  | missing (m : MissingConfig)
  | changed (c : ChangedConfig)
  deriving DecidableEq, Repr

/-! ## Comparing -/

/-- Words in an output that is an error message. -/
def errorWords : List String := ["invalid input", "error:", "% invalid", "command not found"]

/-- A configuration has at least so many lines that are not blank. -/
def leastConfigLines : Nat := 5

/-- Whether an output can be a configuration: it is long enough, and no error message. -/
def isConfig (output : String) : Bool :=
  let text := Text.trim output
  leastConfigLines ≤ Text.filledCount text
    && !errorWords.any fun word => Text.contains (Text.lower text) word

/-- How many lines of an output are shown. -/
def previewLines : Nat := 5

/-- The changes that lead from the lines of one text to those of another. -/
def textChanges (desired running : String) : List (Change String) :=
  lineChanges (Text.lineTokens desired) (Text.lineTokens running)

namespace ConfigFinding

/-- What is found about a node with the given desired configuration, if anything. The command for
the running configuration gave `rc`, `running` and `stderr`. -/
def between? (node desired running : String) (rc : Int) (stderr : String) :
    Option ConfigFinding :=
  if rc ≠ 0 || !isConfig running then
    some (.missing ⟨node, "Unable to retrieve valid running-config output", rc, stderr,
      Text.join "\n" ((Text.lines running).take previewLines)⟩)
  else
    let desiredHash := Sha256.digest desired
    let runningHash := Sha256.digest running
    if desiredHash = runningHash then none
    else
      let changes := textChanges desired running
      some (.changed ⟨node, desiredHash, runningHash, (Text.lines desired).length,
        (Text.lines running).length, changeCount .insert changes, changeCount .delete changes⟩)

def node : ConfigFinding → String
  | .missing m => m.node
  | .changed c => c.node

/-- Whether there was no running configuration to compare. -/
def isMissing : ConfigFinding → Bool
  | .missing _ => true
  | .changed _ => false

def describe : ConfigFinding → String
  | .missing m => m.node ++ ": running-config unavailable (rc=" ++ Decimal.ofInt m.rc ++ ")"
  | .changed c => c.node ++ ": +" ++ Decimal.ofNat c.linesAdded ++ " -"
    ++ Decimal.ofNat c.linesRemoved ++ " lines"

def missingTag : String := "collection_error"

def changedTag : String := "changed"

def toDocument : ConfigFinding → Document
  | .missing m => .ofPairs [("type", .text missingTag), ("node", .text m.node),
      ("message", .text m.message), ("rc", .int m.rc), ("stderr", .text m.stderr),
      ("running_preview", .text m.preview)]
  | .changed c => .ofPairs [("type", .text changedTag), ("node", .text c.node),
      ("desired_hash", .text c.desiredHash), ("running_hash", .text c.runningHash),
      ("desired_lines", .nat c.desiredLines), ("running_lines", .nat c.runningLines),
      ("lines_added", .nat c.linesAdded), ("lines_removed", .nat c.linesRemoved)]

end ConfigFinding

/-! ## Reading findings -/

namespace MissingConfig

def nodeField : Field String := .required "node" Reader.text
def messageField : Field String := .required "message" Reader.text
def rcField : Field Int := .required "rc" Reader.word
def stderrField : Field String := .required "stderr" Reader.text
def previewField : Field String := .required "running_preview" Reader.text

def reader : Reader MissingConfig :=
  Reader.record "struct variant ConfigDrift::CollectionError"
    [nodeField.erase, messageField.erase, rcField.erase, stderrField.erase, previewField.erase]
    fun g => do
      .ok ⟨← g.take nodeField, ← g.take messageField, ← g.take rcField, ← g.take stderrField,
        ← g.take previewField⟩

end MissingConfig

namespace ChangedConfig

def nodeField : Field String := .required "node" Reader.text
def desiredHashField : Field String := .required "desired_hash" Reader.text
def runningHashField : Field String := .required "running_hash" Reader.text
def desiredLinesField : Field Nat := .required "desired_lines" Reader.count
def runningLinesField : Field Nat := .required "running_lines" Reader.count
def linesAddedField : Field Nat := .required "lines_added" Reader.count
def linesRemovedField : Field Nat := .required "lines_removed" Reader.count

def reader : Reader ChangedConfig :=
  Reader.record "struct variant ConfigDrift::Changed"
    [nodeField.erase, desiredHashField.erase, runningHashField.erase, desiredLinesField.erase,
      runningLinesField.erase, linesAddedField.erase, linesRemovedField.erase]
    fun g => do
      .ok ⟨← g.take nodeField, ← g.take desiredHashField, ← g.take runningHashField,
        ← g.take desiredLinesField, ← g.take runningLinesField, ← g.take linesAddedField,
        ← g.take linesRemovedField⟩

end ChangedConfig

def ConfigFinding.reader : Reader ConfigFinding :=
  Reader.tagged "internally tagged enum ConfigDrift" "type"
    [⟨missingTag, 5, fun d => (MissingConfig.reader d).map .missing⟩,
      ⟨changedTag, 7, fun d => (ChangedConfig.reader d).map .changed⟩]

end FabricAudit
