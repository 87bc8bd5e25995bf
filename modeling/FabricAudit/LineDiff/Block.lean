import FabricAudit.LineDiff.Compaction
import FabricAudit.LineDiff.Script

set_option autoImplicit false

/-! # Blocks

A script as an alternation of lines that are kept and lines that are changed. In a block of changes
the deleted lines come before the inserted ones.
-/

namespace FabricAudit

/-- A stretch of two lists of lines, with the place of its beginning in either. -/
structure Block (α : Type) where
  /-- Where it begins in the list before. -/
  old : Nat
  /-- Where it begins in the list after. -/
  new : Nat
  /-- Lines that are in both; none if the block is one of changes. -/
  kept : List α
  /-- Lines that are in the list before only. -/
  deleted : List α
  /-- Lines that are in the list after only. -/
  inserted : List α
  deriving DecidableEq, Repr

/-- A line of a list before or after, or of both. -/
structure Change (α : Type) where
  kind : EditKind
  line : α
  deriving DecidableEq, Repr

namespace Block

variable {α : Type}

def isKept (b : Block α) : Bool := !b.kept.isEmpty

/-- Puts an edit in front of blocks. It joins with the first one if both are of kept lines, or both
of changes. -/
def cons (e : Edit α) : List (Block α) → List (Block α)
  | [] =>
    match e.kind with
    | .keep => [⟨e.old, e.new, e.lines, [], []⟩]
    | .delete => [⟨e.old, e.new, [], e.lines, []⟩]
    | .insert => [⟨e.old, e.new, [], [], e.lines⟩]
  | b :: rest =>
    match e.kind with
    | .keep =>
      if b.isKept then ⟨e.old, e.new, e.lines ++ b.kept, [], []⟩ :: rest
      else ⟨e.old, e.new, e.lines, [], []⟩ :: b :: rest
    | .delete =>
      if b.isKept then ⟨e.old, e.new, [], e.lines, []⟩ :: b :: rest
      else ⟨e.old, if b.inserted.isEmpty then e.new else b.new, [], e.lines ++ b.deleted,
        b.inserted⟩ :: rest
    | .insert =>
      if b.isKept then ⟨e.old, e.new, [], [], e.lines⟩ :: b :: rest
      else ⟨if b.deleted.isEmpty then e.old else b.old, e.new, [], b.deleted,
        e.lines ++ b.inserted⟩ :: rest

def ofScript (es : List (Edit α)) : List (Block α) := es.foldr cons []

/-- The blocks that lead from one list of lines to another. -/
def between [DecidableEq α] (xs ys : List α) : List (Block α) :=
  ofScript (Edit.compact (Edit.script xs ys))

def changes (b : Block α) : List (Change α) :=
  b.kept.map (⟨.keep, ·⟩) ++ b.deleted.map (⟨.delete, ·⟩) ++ b.inserted.map (⟨.insert, ·⟩)

end Block

/-- The lines of two lists, each with what becomes of it: kept and deleted ones are the list before,
kept and inserted ones the list after. -/
def lineChanges {α : Type} [DecidableEq α] (xs ys : List α) : List (Change α) :=
  (Block.between xs ys).flatMap Block.changes

def changeCount {α : Type} (kind : EditKind) (changes : List (Change α)) : Nat :=
  changes.countP fun c => c.kind == kind

end FabricAudit
