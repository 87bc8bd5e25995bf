import FabricAudit.Text.Blank

set_option autoImplicit false

/-! # Lines

Two ways of cutting a text into lines. `lines` serves the readers of command output: a line ends at
a newline, a carriage return before that newline belongs to the ending, and a text that ends with a
newline has no empty last line. `lineTokens` serves the line diff: every line keeps its ending, a
lone carriage return ends a line too, and the tokens joined give the text back.
-/

namespace FabricAudit.Text

/-- Cuts after each newline; every piece but the last ends with one. -/
def cutLines : List Char → List (List Char)
  | [] => []
  | c :: cs =>
    if c = '\n' then [c] :: cutLines cs
    else
      match cutLines cs with
      | [] => [[c]]
      | line :: rest => (c :: line) :: rest

/-- A piece without its newline, and without a carriage return right before that newline. A
carriage return at the end of an unfinished line is text. -/
def dropEnding (piece : List Char) : List Char :=
  match piece.reverse with
  | '\n' :: '\r' :: body => body.reverse
  | '\n' :: body => body.reverse
  | _ => piece

def linesChars (cs : List Char) : List (List Char) := (cutLines cs).map dropEnding

/-- The lines of a text, without their endings. -/
def lines (s : String) : List String := (linesChars s.toList).map String.ofList

/-- A line that holds something besides blanks. -/
def isFilled (line : List Char) : Bool := !(trimChars line).isEmpty

/-- How many lines hold something besides blanks. -/
def filledCount (s : String) : Nat := (linesChars s.toList).countP isFilled

/-- Cuts after each line ending, which is a newline, a carriage return with its newline, or a lone
carriage return; the pieces joined are the text. -/
def cutTokens : List Char → List (List Char)
  | [] => []
  | c :: cs =>
    if c = '\n' then [c] :: cutTokens cs
    else if c = '\r' ∧ cs.head? ≠ some '\n' then [c] :: cutTokens cs
    else
      match cutTokens cs with
      | [] => [[c]]
      | token :: rest => (c :: token) :: rest

/-- The lines of a text, each with its ending. -/
def lineTokens (s : String) : List String := (cutTokens s.toList).map String.ofList

end FabricAudit.Text
