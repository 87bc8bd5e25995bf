import FabricAudit.CommandLine.Console
import FabricAudit.CommandLine.Invocation
import FabricAudit.Drift.Baseline
import FabricAudit.Drift.Detection
import FabricAudit.Intent.File
import FabricAudit.Intent.Lint
import FabricAudit.Lab.Container
import FabricAudit.Report.File
import FabricAudit.Report.Table
import FabricAudit.Verdict.Run
import FabricAudit.Yaml.Written

set_option autoImplicit false

/-! # Commands

What the program does for each command, what it says, and the code it ends with: zero if all is
well, one if a result makes the run fail or the command ends in a fault, and two if the command
line is none.
-/

namespace FabricAudit.CommandLine

variable {σ : Type}

structure Setting (σ : Type) where
  color : Bool
  engine : Engine σ
  now : Timestamp

/-! ## What is said -/

def countLines (color : Bool) (s : Summary) : List String :=
  let counts := s.countsByStatus.map fun (status, n) => Decimal.ofNat n ++ " " ++ status.name
  let mark := if s.hasErrors then Terminal.paint color .red "✗" else Terminal.paint color .green "✓"
  ["", "Summary: " ++ Text.join ", " counts,
    mark ++ " Exit code: " ++ Decimal.ofNat s.exitCode]

def summaryLines (color : Bool) (s : Summary) : OutputFormat → List String
  | .yaml => [((Yaml.Node.ofDocument s.toReport).written?).getD ""]
  | .json => [s.toReport.pretty]
  | .table => Table.lines s ++ countLines color s
  | .lines => Terminal.lines color s ++ countLines color s

def nodeLine (name : String) (n : InventoryNode) : String :=
  "  " ++ Text.padRight 12 name ++ " roles=[" ++ Text.join ", " n.roles ++ "] groups=["
    ++ Text.join ", " n.groups ++ "]"

def checkLine (color : Bool) (c : Check) : String :=
  let mark := if c.kind.isSupported then Terminal.paint color .green "✓"
    else Terminal.paint color .red "✗"
  "  " ++ mark ++ " " ++ Text.padRight 28 c.name ++ " " ++ Text.padRight 14 c.phase.name ++ " "
    ++ Text.padRight 20 c.kind.name ++ " " ++ c.severity.name

/-- The lines of the warnings about an intent, after an empty one. -/
def warningLines (color : Bool) (i : Intent) : List String :=
  if i.lint.isEmpty then []
  else
    "" :: i.lint.map fun w =>
      "  " ++ Terminal.paint color .yellow "⚠" ++ " [" ++ w.code ++ "] " ++ w.message

def intentLines (color : Bool) (i : Intent) : List String :=
  ["Lab: " ++ i.lab, "",
    "Inventory (" ++ Decimal.ofNat i.inventory.nodes.length ++ " nodes):"]
    ++ i.inventory.nodes.map (fun (name, n) => nodeLine name n)
    ++ ["", "Checks (" ++ Decimal.ofNat i.checks.length ++ "):"]
    ++ i.checks.map (checkLine color)
    ++ warningLines color i

/-! ## What is done -/

/-- What is audited when a lab of containers is. -/
def subject (s : Setting σ) (i : Invocation) (intent : Intent) : Job σ (Subject σ) := do
  let directory := Path.join i.root i.lab
  let (_, topology) ← Job.fromFiles fun files => Topology.load files directory i.lab
  let c ← get
  pure ⟨intent, Container.lab s.engine topology c.files directory, .disabled intent.telemetry⟩

def readIntent (i : Invocation) : Job σ Intent :=
  Job.fromFiles fun files => Intent.load files i.root i.lab

def reportsLine (documentPath markdownPath : String) : String :=
  "Reports: " ++ documentPath ++ ", " ++ markdownPath

def validate (s : Setting σ) (i : Invocation) (modeName documentPath markdownPath : String)
    (format : OutputFormat) : Job σ Nat := do
  let some mode := RunMode.ofName? modeName | throw (.mode modeName)
  let intent ← readIntent i
  let subject ← subject s i intent
  let (summary, _) ← Job.ofAudit (Verdict.run subject mode : StateM _ Summary) .empty
  Job.sayAll (summaryLines s.color summary format)
  Job.ofFiles (Report.save documentPath markdownPath summary.toReport (i.lab ++ " validation"))
  Job.report (reportsLine documentPath markdownPath)
  pure summary.exitCode

/-- Takes a snapshot and keeps it. -/
def takeBaseline (s : Setting σ) (i : Invocation) (path : String) : Job σ Nat := do
  let intent ← readIntent i
  let subject ← subject s i intent
  let (snapshot, _) ← Job.ofAudit (Drift.snapshot subject s.now) .empty
  Job.ofFiles (Baseline.save path snapshot)
  Job.say (Terminal.paint s.color .green "✓" ++ " Baseline saved: " ++ path ++ " ("
    ++ Decimal.ofNat snapshot.fingerprints.length ++ " nodes)")
  pure 0

def outcomeLines (color : Bool) (o : DriftOutcome) : List String :=
  Terminal.lines color o.summary
    ++ o.state.map (fun d => "  " ++ d.kind.name ++ " " ++ d.path)
    ++ o.config.map (fun f => "  " ++ f.describe)

/-- Shows the hunks of the nodes whose configuration has changed. -/
def sayHunks (s : Setting σ) (subject : Subject σ) : List ConfigFinding → Store → Job σ Unit
  | [], _ => pure ()
  | .missing _ :: rest, store => sayHunks s subject rest store
  | .changed c :: rest, store => do
    Job.say ""
    let (text, store) ← Job.ofAudit (Drift.renderConfig subject s.color c.node) store
    Job.say text
    sayHunks s subject rest store

def detectDrift (s : Setting σ) (i : Invocation) (path documentPath markdownPath : String)
    (showsHunks : Bool) : Job σ Nat := do
  let baseline ← Job.fromFiles fun files => Baseline.load files path
  let intent ← readIntent i
  let subject ← subject s i intent
  let (outcome, store) ← Job.ofAudit (Drift.detect subject baseline s.now) .empty
  if baseline.intentHash ≠ outcome.current.intentHash then
    Job.say (Terminal.paint s.color .yellow "⚠" ++ " intent changed since the baseline was taken")
  Job.sayAll (outcomeLines s.color outcome)
  if showsHunks then sayHunks s subject outcome.config store
  Job.ofFiles (Report.save documentPath markdownPath outcome.toReport (i.lab ++ " drift"))
  Job.say ("Exit code: " ++ Decimal.ofNat outcome.summary.exitCode)
  Job.report (reportsLine documentPath markdownPath)
  pure outcome.summary.exitCode

/-- Shows the inventory and the checks. -/
def showIntent (s : Setting σ) (i : Invocation) : Job σ Nat := do
  Job.sayAll (intentLines s.color (← readIntent i))
  pure 0

/-- Does what the program is asked to do. The answer is the exit code. -/
def perform (s : Setting σ) (i : Invocation) : Job σ Nat :=
  match i.command with
  | .validate mode documentPath markdownPath format =>
    validate s i mode documentPath markdownPath format
  | .baseline path => takeBaseline s i path
  | .drift baseline documentPath markdownPath showsHunks =>
    detectDrift s i baseline documentPath markdownPath showsHunks
  | .list => showIntent s i

/-! ## The program -/

inductive Ending where
  /-- With an exit code, after carrying out a command. -/
  | done (code : Nat)
  /-- Without doing anything. -/
  | refused (r : Refusal)
  deriving DecidableEq, Repr

def Ending.code : Ending → Nat
  | .done code => code
  | .refused .usage => 2
  | .refused (.about _) => 0

def versionLine : String := "fabdrift 0.1.0"

def run (s : Setting σ) (args : List String) (env : GivenOptions) (c : Console σ) :
    Ending × Console σ :=
  match Invocation.read args env with
  | .error (.about .version) =>
    (.refused (.about .version), { c with output := c.output ++ [versionLine] })
  | .error r => (.refused r, c)
  | .ok i =>
    match perform s i c with
    | (.ok code, c) => (.done code, c)
    | (.error f, c) =>
      let line := Terminal.paint s.color .red "✗ Error:" ++ " " ++ f.message
      (.done 1, { c with errors := c.errors ++ [line] })

end FabricAudit.CommandLine
