import FabricAudit.Document.Reading

set_option autoImplicit false

/-! # Phases and run modes

Every declared check belongs to one of four validation phases; a fifth phase is kept for the results
of a drift run. A run mode says which phases a validation run covers: all four, or one of them.
-/

namespace FabricAudit

inductive Phase where
  | intent
  | underlay
  | controlPlane
  | dataplane
  | drift
  deriving DecidableEq, Repr

namespace Phase

/-- Every phase, in the order in which they are listed. -/
def all : List Phase := [.intent, .underlay, .controlPlane, .dataplane, .drift]

def rank (phase : Phase) : Nat := all.idxOf phase

/-- The phases of declared checks. -/
def validation : List Phase := [.intent, .underlay, .controlPlane, .dataplane]

def name : Phase → String
  | .intent => "intent"
  | .underlay => "underlay"
  | .controlPlane => "control-plane"
  | .dataplane => "dataplane"
  | .drift => "drift"

/-- The words that name a phase; the control plane has two spellings. -/
def words : List (String × Phase) := [
  ("intent", .intent),
  ("underlay", .underlay),
  ("control-plane", .controlPlane),
  ("control_plane", .controlPlane),
  ("dataplane", .dataplane),
  ("drift", .drift)]

def ofName? (s : String) : Option Phase := words.lookup s

def reader : Reader Phase := Reader.oneOfWords words

end Phase

/-- Which phases a validation run covers. -/
inductive RunMode where
  | all
  | only (phase : Phase)
  deriving DecidableEq, Repr

namespace RunMode

def includes : RunMode → Phase → Bool
  | .all, phase => Phase.validation.contains phase
  | .only selected, phase => selected == phase

def name : RunMode → String
  | .all => "all"
  | .only phase => phase.name

/-- The run mode with the given name. A validation run never covers the drift phase. -/
def ofName? (s : String) : Option RunMode :=
  if s = "all" then some .all
  else
    match Phase.ofName? s with
    | none | some .drift => none
    | some phase => some (.only phase)

end RunMode

end FabricAudit
