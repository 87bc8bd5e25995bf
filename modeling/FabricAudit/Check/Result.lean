import FabricAudit.Check.Basic

set_option autoImplicit false

/-! # Results

What came of one check, or of one node or probe of it. A result that passes is mere information,
whatever the severity of its check; a failure carries the severity of its check. Results have a
document form, which reads back.
-/

namespace FabricAudit

structure Result where
  phase : Phase
  name : String
  status : Status
  severity : Severity
  message : String
  evidence : Members
  /-- What could be done, if there is advice. -/
  remediation : Option String

namespace Result

def passed (phase : Phase) (name message : String) : Result :=
  ⟨phase, name, .pass, .info, message, [], none⟩

def failed (phase : Phase) (name : String) (severity : Severity) (message : String) : Result :=
  ⟨phase, name, .fail, severity, message, [], none⟩

/-- A success if `ok`, else a failure. -/
def outcome (phase : Phase) (name : String) (ok : Bool) (severity : Severity) (message : String) :
    Result :=
  if ok then passed phase name message else failed phase name severity message

def unsupported (c : Check) : Result :=
  failed c.phase c.name c.severity ("Unsupported check kind: " ++ c.kind.name)

/-- The result of a check that could not be carried out, whatever its severity. -/
def crashed (c : Check) (reason : String) : Result :=
  failed c.phase c.name .error ("Check crashed: " ++ reason)

/-- The members that stand for a document as evidence: those of an object, none for null, and
anything else under the key `value`. -/
def evidenceOf : Document → Members
  | .object ms => ms
  | .null => []
  | d => [("value", d)]

def withEvidence (r : Result) (d : Document) : Result := { r with evidence := evidenceOf d }

def withRemediation (r : Result) (advice : String) : Result := { r with remediation := some advice }

/-- Whether the result makes its run fail. -/
def isBlocking (r : Result) : Bool := r.status == .fail && r.severity == .error

def toDocument (r : Result) : Document :=
  .ofPairs [("phase", .text r.phase.name), ("name", .text r.name), ("status", .text r.status.name),
    ("severity", .text r.severity.name), ("message", .text r.message),
    ("evidence", .object r.evidence), ("remediation", .optText r.remediation)]

def phaseField : Field Phase := .required "phase" Phase.reader
def nameField : Field String := .required "name" Reader.text
def statusField : Field Status := .required "status" Status.reader
def severityField : Field Severity := .required "severity" Severity.reader
def messageField : Field String := .required "message" Reader.text
def evidenceField : Field Members := .withDefault "evidence" [] Reader.object
def remediationField : Field (Option String) :=
  .withDefault "remediation" none (Reader.optional Reader.text)

def reader : Reader Result :=
  Reader.record "struct CheckResult"
    [phaseField.erase, nameField.erase, statusField.erase, severityField.erase, messageField.erase,
      evidenceField.erase, remediationField.erase]
    fun g => do
      .ok ⟨← g.take phaseField, ← g.take nameField, ← g.take statusField, ← g.take severityField,
        ← g.take messageField, ← g.take evidenceField, ← g.take remediationField⟩

end Result

/-! ## Summaries -/

/-- Counts one more under a key. Counts stand in the order of their keys, and a key that has none
gets one at its place. -/
def countUnder {κ : Type} [DecidableEq κ] (rank : κ → Nat) (key : κ) :
    List (κ × Nat) → List (κ × Nat)
  | [] => [(key, 1)]
  | (k, n) :: rest =>
    if key = k then (k, n + 1) :: rest
    else if rank key < rank k then (key, 1) :: (k, n) :: rest
    else (k, n) :: countUnder rank key rest

/-- The results of a run, in order. -/
structure Summary where
  results : List Result

namespace Summary

/-- Whether some result makes the run fail. -/
def hasErrors (s : Summary) : Bool := s.results.any Result.isBlocking

/-- The exit code of the run: one if a result makes it fail, else zero. -/
def exitCode (s : Summary) : Nat := if s.hasErrors then 1 else 0

/-- The number of results of every status, zeros included. -/
def countsByStatus (s : Summary) : List (Status × Nat) :=
  s.results.foldl (fun counts r => countUnder Status.rank r.status counts)
    (Status.all.map fun status => (status, 0))

/-- The number of results of every phase that has any. -/
def countsByPhase (s : Summary) : List (Phase × Nat) :=
  s.results.foldl (fun counts r => countUnder Phase.rank r.phase counts) []

def failures (s : Summary) : List Result := s.results.filter (·.status == .fail)

def reportMembers (s : Summary) : List (String × Document) :=
  [("summary", .ofPairs [
      ("counts_by_status",
        .ofPairs (s.countsByStatus.map fun (status, n) => (status.name, .nat n))),
      ("counts_by_phase", .ofPairs (s.countsByPhase.map fun (phase, n) => (phase.name, .nat n))),
      ("exit_code", .nat s.exitCode)]),
    ("results", .list (s.results.map Result.toDocument))]

def toReport (s : Summary) : Document := .ofPairs s.reportMembers

end Summary

end FabricAudit
