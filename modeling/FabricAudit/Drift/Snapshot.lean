import FabricAudit.Drift.Difference
import FabricAudit.Time.Reading

set_option autoImplicit false

/-! # Snapshots

The state of a fabric at one moment, reduced to a fingerprint of every node. A snapshot that is kept
as a file is a baseline for later ones. The moment itself never counts as a difference.
-/

namespace FabricAudit

structure Fingerprint where
  hash : String
  /-- How many kinds of evidence it is of. -/
  keyCount : Nat
  deriving DecidableEq, Repr

namespace Fingerprint

def toDocument (f : Fingerprint) : Document :=
  .ofPairs [("hash", .text f.hash), ("key_count", .nat f.keyCount)]

def hashField : Field String := .required "hash" Reader.text
def keyCountField : Field Nat := .required "key_count" Reader.count

def reader : Reader Fingerprint :=
  Reader.record "struct Fingerprint" [hashField.erase, keyCountField.erase]
    fun g => do .ok ⟨← g.take hashField, ← g.take keyCountField⟩

end Fingerprint

/-- The state of a lab at one moment. -/
structure Snapshot where
  lab : String
  timestamp : Timestamp
  intentHash : String
  fingerprints : Keyed Fingerprint
  deriving DecidableEq, Repr

namespace Snapshot

/-- The members of a snapshot, in the order in which a baseline file has them. -/
def members (s : Snapshot) : List (String × Document) :=
  [("lab", .text s.lab), ("timestamp", .text s.timestamp.toText),
    ("intent_hash", .text s.intentHash),
    ("fingerprints", .object (s.fingerprints.map fun (node, f) =>
      (node, .object [("hash", .text f.hash), ("key_count", .nat f.keyCount)])))]

def toDocument (s : Snapshot) : Document := .ofPairs s.members

def toText (s : Snapshot) : String := (Document.object s.members).pretty

def labField : Field String := ⟨"lab", ["label"], Reader.text, none⟩
def timestampField : Field Timestamp := .required "timestamp" Timestamp.reader
def intentHashField : Field String := .required "intent_hash" Reader.text
def fingerprintsField : Field (Keyed Fingerprint) :=
  .withDefault "fingerprints" [] fun d => (Reader.members Fingerprint.reader d).map Keyed.ofList

def reader : Reader Snapshot :=
  Reader.record "struct Snapshot"
    [labField.erase, timestampField.erase, intentHashField.erase, fingerprintsField.erase]
    fun g => do
      .ok ⟨← g.take labField, ← g.take timestampField, ← g.take intentHashField,
        ← g.take fingerprintsField⟩

def ofText (s : String) : Except ReadFault Snapshot := Reader.file reader s

/-- What of a snapshot is compared. -/
def comparable (s : Snapshot) : Document := s.toDocument.withoutVolatile

def differences (baseline current : Snapshot) : List Difference :=
  Difference.between baseline.comparable current.comparable

end Snapshot

end FabricAudit
