import FabricAudit.Evidence.Record
import FabricAudit.Evidence.Transport
import FabricAudit.Lab.Basic

set_option autoImplicit false

/-! # The evidence store

Evidence is collected once. A record is kept under its key, and whoever asks for the key again gets
the same record. A telemetry path that the transport declines once is not asked for again, for no
node: from then on the command line answers in its place. What could not be collected is not kept.
-/

namespace FabricAudit

structure Store where
  records : Keyed Record
  /-- The telemetry paths that were declined. -/
  unsupported : List String
  /-- The requests made so far, in order. -/
  requests : List Request

def Store.empty : Store := ⟨[], [], []⟩

def Store.size (s : Store) : Nat := s.records.length

/-- The state of an audit: the lab, and what has been collected. -/
structure Audit.State (σ : Type) where
  world : World σ
  store : Store

/-- An audit of a lab: it may end in a fault, and what it did up to then stays done. -/
abbrev Audit (σ : Type) (α : Type) := ExceptT Fault (StateM (Audit.State σ)) α

namespace Audit

variable {σ α : Type}

/-- Work on the lab, as a part of an audit. -/
def ofWork (w : Work σ α) : Audit σ α := fun s =>
  let (answer, world) := w s.world
  (answer, { s with world := world })

/-- An answer that does not depend on the lab, as a part of an audit. -/
def ofExcept (e : Except Fault α) : Audit σ α := fun s => (e, s)

/-- A typed reading, as a part of an audit. -/
def ofReading (e : Except ReadFault α) : Audit σ α := ofExcept (e.mapError .json)

def kept? (key : String) : Audit σ (Option Record) := fun s =>
  (.ok (Keyed.get? s.store.records key), s)

def keep (key : String) (r : Record) : Audit σ Unit := fun s =>
  (.ok (), { s with store := { s.store with records := Keyed.insert key r s.store.records } })

/-- Whether a telemetry path was declined before. -/
def isUnsupported (path : String) : Audit σ Bool := fun s =>
  (.ok (s.store.unsupported.contains path), s)

/-- Notes that a telemetry path was declined. -/
def decline (path : String) : Audit σ Unit := fun s =>
  (.ok (), { s with store := { s.store with unsupported := s.store.unsupported ++ [path] } })

def request (t : Transport) (r : Request) : Audit σ TelemetryAnswer := fun s =>
  (.ok (t s.store.requests r),
    { s with store := { s.store with requests := s.store.requests ++ [r] } })

/-- The record of a key: as it was kept, or else what `fallback` finds out. -/
def collectByCommand (key : String) (fallback : Work σ Document) : Audit σ Record := do
  match ← kept? key with
  | some record => pure record
  | none =>
    let record := ⟨.cli, ← ofWork fallback⟩
    keep key record
    pure record

/-- The record of a key: as it was kept, or else the telemetry of a path, or else what `fallback`
finds out. -/
def collect (t : Transport) (key path node : String) (fallback : Work σ Document) :
    Audit σ Record := do
  match ← kept? key with
  | some record => pure record
  | none =>
    if ← isUnsupported path then collectByCommand key fallback
    else
      match ← request t ⟨node, path⟩ with
      | .payload data =>
        let record := ⟨.telemetry, data⟩
        keep key record
        pure record
      | .declined _ =>
        decline path
        collectByCommand key fallback

end Audit

end FabricAudit
