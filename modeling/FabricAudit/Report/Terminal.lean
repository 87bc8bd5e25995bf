import FabricAudit.Check.Result
import FabricAudit.Text.Search

set_option autoImplicit false

/-! # Results on a terminal

Results as lines, one each, and as rows of a table. Colours are used only if they are asked for.
-/

namespace FabricAudit.Terminal

inductive Paint where
  | red
  | green
  | yellow
  | cyan
  | dim

def Paint.code : Paint → String
  | .red => "31"
  | .green => "32"
  | .yellow => "33"
  | .cyan => "36"
  | .dim => "2"

def Paint.opening (p : Paint) : List Char := '\x1b' :: '[' :: (p.code.toList ++ ['m'])

def closing : List Char := ['\x1b', '[', '0', 'm']

/-- Begins the rendition anew after every sequence in the text that ends it. -/
def reopen (p : Paint) : List Char → List Char
  | '\x1b' :: '[' :: '0' :: 'm' :: rest => closing ++ p.opening ++ reopen p rest
  | c :: rest => c :: reopen p rest
  | [] => []

/-- The text in a rendition, if colours are on. -/
def paint (color : Bool) (p : Paint) (s : String) : String :=
  if color then String.ofList (p.opening ++ reopen p s.toList ++ closing) else s

def statusPaint : Status → Paint
  | .pass => .green
  | .fail => .red
  | .warn => .yellow
  | .skip => .dim

def statusSymbol : Status → String
  | .pass => "✓"
  | .fail => "✗"
  | .warn => "⚠"
  | .skip => "○"

def line (color : Bool) (r : Result) : String :=
  "[" ++ r.phase.name ++ "] "
    ++ paint color (statusPaint r.status) (Text.padRight 4 r.status.name)
    ++ " " ++ r.name ++ " - " ++ r.message

def lines (color : Bool) (s : Summary) : List String := s.results.map (line color)

/-- The row of a result: phase, status, severity, name and message. -/
def row (r : Result) : List String :=
  [r.phase.name, statusSymbol r.status ++ " " ++ r.status.name, r.severity.name, r.name, r.message]

end FabricAudit.Terminal
