set_option autoImplicit false

/-! # Edits

An edit script turns one list of lines into another. It is a list of edits, each of which keeps,
deletes or inserts some lines; the lines kept and deleted, in order, are the list before, and the
lines kept and inserted are the list after. Every edit also states where it stands in both lists.
That statement is what headings are written from; nothing else depends on it.
-/

namespace FabricAudit

inductive EditKind where
  /-- They are in both lists. -/
  | keep
  /-- They are in the list before only. -/
  | delete
  /-- They are in the list after only. -/
  | insert
  deriving DecidableEq, Repr

structure Edit (α : Type) where
  kind : EditKind
  old : Nat
  new : Nat
  lines : List α
  deriving DecidableEq, Repr

namespace Edit

variable {α : Type}

def oldLines (e : Edit α) : List α :=
  match e.kind with
  | .insert => []
  | _ => e.lines

def newLines (e : Edit α) : List α :=
  match e.kind with
  | .delete => []
  | _ => e.lines

def before (es : List (Edit α)) : List α := es.flatMap oldLines

def after (es : List (Edit α)) : List α := es.flatMap newLines

/-- The edit that stands there, with no lines left out: none if there are no lines. -/
def ofLines (kind : EditKind) (old new : Nat) (lines : List α) : List (Edit α) :=
  if lines.isEmpty then [] else [⟨kind, old, new, lines⟩]

/-- An edit with the lines of another of its kind after its own. -/
def append (e f : Edit α) : Edit α := { e with lines := e.lines ++ f.lines }

end Edit

end FabricAudit
