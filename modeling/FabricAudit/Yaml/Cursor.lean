set_option autoImplicit false

/-! # Positions in a YAML text

The layout of a YAML text carries meaning, so reading keeps the line and column of the next
character beside the characters still to come. Reading ends at the first fault; why a text is no
YAML is told by a `YamlFault`.
-/

namespace FabricAudit

/-- Why a text is not one YAML document. -/
inductive YamlFault where
  | badCharacter
  | noColon
  /-- A dash, question mark or colon stands where no block can begin. -/
  | misplacedIndicator
  | badToken
  | badDirective
  | badAnchor
  | badTag
  | badBlock
  /-- A quoted scalar that does not end, or holds a faulty escape. -/
  | badQuoted
  | badPlain
  | badStructure
  | secondDocument
  | unknownAlias
  | tooDeep
  | tooManyAliases
  | repeatedKey
  | badValue
  deriving DecidableEq, Repr

namespace Yaml

structure Cursor where
  rest : List Char
  /-- How many characters have been read. -/
  index : Nat
  /-- How many lines have been read. -/
  line : Nat
  /-- How many characters of this line have been read. -/
  column : Nat
  deriving Inhabited

/-- A reading that may end in a fault. -/
abbrev Scan (α : Type) := Except YamlFault α

def isBreak (c : Char) : Bool :=
  c == '\n' || c == '\r' || c.toNat == 0x85 || c.toNat == 0x2028 || c.toNat == 0x2029

def isBlank (c : Char) : Bool := c == ' ' || c == '\t'

/-- Whether a character may stand in a handle, an anchor or the name of a directive. -/
def isWordChar (c : Char) : Bool :=
  ('0' ≤ c && c ≤ '9') || ('A' ≤ c && c ≤ 'Z') || ('a' ≤ c && c ≤ 'z') || c == '_' || c == '-'

namespace Cursor

def peek (c : Cursor) : Option Char := c.rest.head?

/-- The character `k` places further. -/
def peekAt (c : Cursor) (k : Nat) : Option Char := c.rest[k]?

def sees (c : Cursor) (x : Char) : Bool := c.peek == some x

/-- Whether the character `k` places further is a blank or a line break, or the text ends there. -/
def spaceAt (c : Cursor) (k : Nat) : Bool :=
  match c.peekAt k with
  | none => true
  | some x => isBlank x || isBreak x

def seesBlank (c : Cursor) : Bool := (c.peek.map isBlank).getD false

def seesBreak (c : Cursor) : Bool := (c.peek.map isBreak).getD false

def atLineEnd (c : Cursor) : Bool := (c.peek.map isBreak).getD true

def atEnd (c : Cursor) : Bool := c.rest.isEmpty

/-- Moves over `n` characters of a line. -/
def skip (c : Cursor) (n : Nat) : Cursor :=
  { c with rest := c.rest.drop n, index := c.index + n, column := c.column + n }

/-- Moves over a line break, of which a carriage return with a newline is one. -/
def skipBreak (c : Cursor) : Cursor :=
  match c.rest with
  | '\r' :: '\n' :: rest => { rest, index := c.index + 2, line := c.line + 1, column := 0 }
  | _ :: rest => { rest, index := c.index + 1, line := c.line + 1, column := 0 }
  | [] => c

/-- The text of the line break that comes next: a newline for every break but the separators of
lines and paragraphs, which stay what they are. -/
def breakText (c : Cursor) : List Char :=
  match c.peek with
  | some x => if isBreak x then (if 0x2028 ≤ x.toNat then [x] else ['\n']) else []
  | none => []

/-- The characters that satisfy `p` up to the first that does not, and the place after them. None of
them may break the line. -/
def takeWhile (c : Cursor) (p : Char → Bool) : List Char × Cursor :=
  let taken := c.rest.takeWhile p
  (taken, c.skip taken.length)

/-- The place after the characters that satisfy `p`. -/
def dropWhile (c : Cursor) (p : Char → Bool) : Cursor := (c.takeWhile p).2

/-- Whether a mark between documents stands here: three dashes or three dots at the beginning of a
line, and a space after them. -/
def atDocumentMark (c : Cursor) : Bool :=
  c.column == 0 && (c.rest.take 3 == ['-', '-', '-'] || c.rest.take 3 == ['.', '.', '.'])
    && c.spaceAt 3

/-- The place after a comment, if one stands here. -/
def skipComment (c : Cursor) : Cursor :=
  if c.sees '#' then c.dropWhile (!isBreak ·) else c

end Cursor

end Yaml

end FabricAudit
