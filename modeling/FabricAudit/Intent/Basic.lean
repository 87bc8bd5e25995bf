import FabricAudit.Check.Basic
import FabricAudit.Digest.Sha256
import FabricAudit.Document.Path
import FabricAudit.Fault
import FabricAudit.Intent.Telemetry
import FabricAudit.Inventory.Selector
import FabricAudit.Yaml.Reading

set_option autoImplicit false

/-! # Intents

What a fabric is meant to be: its nodes, the services it carries and the checks that must hold. An
intent is a document of a certain form; `Intent.ofDocument` says which, and reports the first
departure from it. Keys that an intent does not know are kept in the document and otherwise ignored.
-/

namespace FabricAudit

structure Intent where
  lab : String
  telemetry : TelemetryDefaults
  inventory : Inventory
  services : Members
  checks : List Check
  /-- The whole document. -/
  raw : Document

namespace Intent

/-- What is wrong with the reading of an intent, as an answer. -/
abbrev Checked (α : Type) := Except IntentProblem α

/-- The value of a key that must be there. -/
def required (ms : Members) (key : String) : Checked Document :=
  match Keyed.get? ms key with
  | some d => .ok d
  | none => .error (.missingKey key)

/-- The members under a key, none if it is absent or null; anything but an object is a `problem`. -/
def membersAt (ms : Members) (key : String) (problem : IntentProblem) : Checked Members :=
  match Keyed.get? ms key with
  | none | some .null => .ok []
  | some (.object members) => .ok members
  | some _ => .error problem

/-- A check. Its severity is an error unless it names another. -/
def readCheck (d : Document) : Checked Check :=
  match d with
  | .object ms => do
    let name := (← required ms "name").plain
    let phaseName := (← required ms "phase").plain
    match Phase.ofName? phaseName with
    | none => .error (.unknownPhase phaseName)
    | some .drift => .error (.reservedPhase name)
    | some phase =>
      let kind := CheckKind.ofName (← required ms "kind").plain
      let severity := ((Keyed.get? ms "severity").map fun s => Severity.ofText s.plain).getD .error
      let params ← membersAt ms "params" (.paramsNotObject name)
      .ok ⟨name, phase, kind, severity, params⟩
  | _ => .error .checkNotObject

def readInventory (ms : Members) : Checked Inventory := do
  match ← required ms "inventory" with
  | .object nodes => (Inventory.reader.document (.object nodes)).mapError .badInventory
  | _ => .error .inventoryNotObject

def readChecks (ms : Members) : Checked (List Check) := do
  match ← required ms "checks" with
  | .list items => items.mapM readCheck
  | _ => .error .checksNotList

def readTelemetry (ms : Members) : Checked TelemetryDefaults :=
  match Keyed.get? ms "gnmi" with
  | none | some .null => .ok .standard
  | some d => (TelemetryDefaults.reader.document d).mapError .badTelemetry

/-- The intent of a lab that a document holds. A null document is one without keys. -/
def ofDocument (lab : String) (d : Document) : Checked Intent :=
  match (if d.isNull then .object [] else d) with
  | .object ms => do
    let inventory ← readInventory ms
    let services ← membersAt ms "services" .servicesNotObject
    let checks ← readChecks ms
    let telemetry ← readTelemetry ms
    .ok ⟨lab, telemetry, inventory, services, checks, .object ms⟩
  | _ => .error .notObject

def ofYaml (lab text : String) : Except Fault Intent := do
  let d ← (Document.ofYaml text).mapError .yaml
  (ofDocument lab d).mapError .intent

/-- What the fingerprint of an intent is taken of: the inventory and the services, nothing else. -/
def essence (i : Intent) : Document :=
  .ofPairs [("inventory", i.inventory.toDocument), ("services", .object i.services)]

def fingerprint (i : Intent) : String := Sha256.digest i.essence.compact

end Intent

end FabricAudit
