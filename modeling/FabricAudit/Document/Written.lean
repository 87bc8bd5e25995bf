import FabricAudit.Decimal.Shortest
import FabricAudit.Document.Basic

set_option autoImplicit false

/-! # The written form of a document

Documents are written as JSON text, in two forms. The compact form has no blanks; digests are taken
of it. The pretty form puts every item and member on its own line, two spaces deeper than its
parent; reports and snapshots are saved in it. In both, members stand in the order of the document,
texts are quoted with the escapes of `escapeChar`, and floats are written in `jsonLayout`.
-/

namespace FabricAudit.Document

/-- Floats are positional from ten to the minus five up to ten to the sixteen; beyond that they have
an exponent, with a plus sign when it is positive. -/
def jsonLayout : Decimal.Layout := ⟨-5, 16, "+"⟩

/-- One character inside quotation marks. -/
def escapeChar (c : Char) : List Char :=
  match c with
  | '"' => ['\\', '"']
  | '\\' => ['\\', '\\']
  | '\n' => ['\\', 'n']
  | '\r' => ['\\', 'r']
  | '\t' => ['\\', 't']
  | '\x08' => ['\\', 'b']
  | '\x0c' => ['\\', 'f']
  | c => if c.toNat < 32 then ['\\', 'u'] ++ Decimal.hexDigits 4 c.toNat else [c]

def quoted (s : String) : List Char := '"' :: (s.toList.flatMap escapeChar ++ ['"'])

/-- The written form of a document that has no parts; of one that has, its empty form. -/
def scalar : Document → List Char
  | .null => ['n', 'u', 'l', 'l']
  | .bool true => ['t', 'r', 'u', 'e']
  | .bool false => ['f', 'a', 'l', 's', 'e']
  | .int n => (Decimal.ofInt n).toList
  | .float x => (jsonLayout.text x).toList
  | .text s => quoted s
  | .list _ => ['[', ']']
  | .object _ => ['\x7b', '\x7d']

mutual

def compactChars : Document → List Char
  | .list xs => '[' :: (compactItems xs ++ [']'])
  | .object ms => '\x7b' :: (compactMembers ms ++ ['\x7d'])
  | d => scalar d

def compactItems : List Document → List Char
  | [] => []
  | [x] => compactChars x
  | x :: y :: rest => compactChars x ++ ',' :: compactItems (y :: rest)

def compactMembers : List (String × Document) → List Char
  | [] => []
  | [(k, x)] => quoted k ++ ':' :: compactChars x
  | (k, x) :: m :: rest => quoted k ++ ':' :: (compactChars x ++ ',' :: compactMembers (m :: rest))

end

def compact (d : Document) : String := String.ofList (compactChars d)

/-- A line break followed by the indentation of a depth. -/
def breakTo (depth : Nat) : List Char := '\n' :: List.replicate (2 * depth) ' '

mutual

def prettyChars (depth : Nat) : Document → List Char
  | .list (x :: xs) => '[' :: (prettyItems (depth + 1) (x :: xs) ++ breakTo depth ++ [']'])
  | .object (m :: ms) =>
    '\x7b' :: (prettyMembers (depth + 1) (m :: ms) ++ breakTo depth ++ ['\x7d'])
  | d => scalar d

def prettyItems (depth : Nat) : List Document → List Char
  | [] => []
  | [x] => breakTo depth ++ prettyChars depth x
  | x :: y :: rest => breakTo depth ++ prettyChars depth x ++ ',' :: prettyItems depth (y :: rest)

def prettyMembers (depth : Nat) : List (String × Document) → List Char
  | [] => []
  | [(k, x)] => breakTo depth ++ quoted k ++ ':' :: ' ' :: prettyChars depth x
  | (k, x) :: m :: rest =>
    breakTo depth ++ quoted k ++ ':' :: ' ' :: (prettyChars depth x
      ++ ',' :: prettyMembers depth (m :: rest))

end

def pretty (d : Document) : String := String.ofList (prettyChars 0 d)

/-- A document as it appears inside a sentence: a text without its quotation marks, everything else
in its compact form. -/
def plain : Document → String
  | .text s => s
  | d => compact d

end FabricAudit.Document
