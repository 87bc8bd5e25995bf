import FabricAudit.LineDiff.Block
import FabricAudit.Report.Terminal
import FabricAudit.Text.Blank
import FabricAudit.Text.Lines

set_option autoImplicit false

/-! # Hunks

The changes of two texts with two lines of context. Changes with more than four kept lines between
them are in hunks of their own. Each hunk has a heading that says where it stands in both texts.
-/

namespace FabricAudit.Hunk

/-- How many kept lines are shown on either side of a change. -/
def context : Nat := 2

variable {α : Type}

/-- The block without all but the last lines of context. -/
def keepEnd (b : Block α) : Block α :=
  let n := b.kept.length - context
  { b with old := b.old + n, new := b.new + n, kept := b.kept.drop n }

/-- The block without all but the first lines of context. -/
def keepStart (b : Block α) : Block α := { b with kept := b.kept.take context }

/-- Cuts the first block down to its context, if it is one of kept lines. -/
def trimFirst : List (Block α) → List (Block α)
  | b :: rest => (if b.isKept then keepEnd b else b) :: rest
  | [] => []

/-- Cuts the last block down to its context, if it is one of kept lines. -/
def trimLast : List (Block α) → List (Block α)
  | [] => []
  | [b] => [if b.isKept then keepStart b else b]
  | b :: c :: rest => b :: trimLast (c :: rest)

/-- Cuts after and before the context of every long block of kept lines. `hunk` is what has been
read of the present hunk. -/
def group (hunk : List (Block α)) : List (Block α) → List (List (Block α))
  | [] => [hunk]
  | b :: rest =>
    if 2 * context < b.kept.length then (hunk ++ [keepStart b]) :: group [keepEnd b] rest
    else group (hunk ++ [b]) rest

/-- The hunks of a list of blocks. A last hunk that is context only is none. -/
def ofBlocks (bs : List (Block α)) : List (List (Block α)) :=
  (group [] (trimLast (trimFirst bs))).filter fun hunk =>
    match hunk with
    | [] => false
    | [b] => !b.isKept
    | _ => true

/-- A range of lines in a heading: the first line, counted from one, and how many there are unless
it is one. A range without lines is named by the line before it. -/
def range (start stop : Nat) : String :=
  let n := stop - start
  if n = 1 then Decimal.ofNat (start + 1)
  else if n = 0 then Decimal.ofNat start ++ ",0"
  else Decimal.ofNat (start + 1) ++ "," ++ Decimal.ofNat n

def oldEnd (b : Block α) : Nat := b.old + b.kept.length + b.deleted.length

def newEnd (b : Block α) : Nat := b.new + b.kept.length + b.inserted.length

def heading (first last : Block α) : String :=
  "@@ -" ++ range first.old (oldEnd last) ++ " +" ++ range first.new (newEnd last) ++ " @@"

def changeLine (color : Bool) (c : Change String) : String :=
  let line := Text.trimEnd c.line
  match c.kind with
  | .keep => "  " ++ line
  | .delete => Terminal.paint color .red ("- " ++ line)
  | .insert => Terminal.paint color .green ("+ " ++ line)

def hunkLines (color : Bool) (hunk : List (Block String)) : List String :=
  match hunk.head?, hunk.getLast? with
  | some first, some last =>
    Terminal.paint color .cyan (heading first last)
      :: (hunk.flatMap Block.changes).map (changeLine color)
  | _, _ => []

/-- The blocks that lead from one text to another. -/
def blocks (desired running : String) : List (Block String) :=
  Block.between (Text.lineTokens desired) (Text.lineTokens running)

/-- The hunks of two texts, with a title. Every line is ended; the title is painted with its
ending. -/
def render (color : Bool) (node desired running : String) : String :=
  Terminal.paint color .dim ("── " ++ node ++ " (desired → running) ──\n")
    ++ String.join (((ofBlocks (blocks desired running)).flatMap (hunkLines color)).map (· ++ "\n"))

end FabricAudit.Hunk
