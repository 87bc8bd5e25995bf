import FabricAudit.Fault

set_option autoImplicit false

/-! # Wildcards

Names with wildcards: a question mark is any character, a star any number of characters, a bracket
one character of a set, and two stars as a whole part of a path any number of directories. A text
that makes no sense as a whole is refused with the position of what makes none.
-/

namespace FabricAudit

/-- A piece of a name with wildcards. -/
inductive Wildcard where
  | char (c : Char)
  | any
  /-- Any number of characters. -/
  | run
  /-- Any number of directories. -/
  | tree
  /-- A character in one of the ranges. -/
  | within (ranges : List (Char × Char))
  /-- A character in none of the ranges. -/
  | except (ranges : List (Char × Char))
  deriving DecidableEq, Repr

structure WildcardFault where
  position : Nat
  cause : GlobFault
  deriving DecidableEq, Repr

namespace Wildcard

/-- The ranges that the inside of a bracket lists. A dash between two characters makes a range of
them. -/
def ranges : List Char → List (Char × Char)
  | a :: '-' :: b :: rest => (a, b) :: ranges rest
  | a :: rest => (a, a) :: ranges rest
  | [] => []

/-- What is inside a bracket and what follows it. The first character never ends a bracket. -/
def bracket? : List Char → Option (List Char × List Char)
  | [] => none
  | c :: rest =>
    match rest.dropWhile (· ≠ ']') with
    | [] => none
    | _ :: after => some (c :: rest.takeWhile (· ≠ ']'), after)

/-- Two stars, which begin at `position` after the character `previous`, with what follows them: the
characters after them and after the slash that ends their part of the path. -/
def afterTree (position : Nat) (previous : Option Char) (rest : List Char) :
    Except WildcardFault (List Char) :=
  if previous.all (· = '/') then
    match rest with
    | [] => .ok []
    | c :: rest => if c = '/' then .ok rest else .error ⟨position + 2, .recursive⟩
  else .error ⟨position - 1, .recursive⟩

/-- Reads the pieces of a text from a position on. Every piece takes a character at least, so the
length of the text is enough `fuel`. -/
def readFrom (position : Nat) (previous : Option Char) :
    Nat → List Char → Except WildcardFault (List Wildcard)
  | 0, _ | _, [] => .ok []
  | fuel + 1, '?' :: rest => do
    .ok (.any :: (← readFrom (position + 1) (some '?') fuel rest))
  | fuel + 1, '*' :: rest => do
    let stars := (rest.takeWhile (· = '*')).length + 1
    let rest := rest.dropWhile (· = '*')
    -- the fault is at the third star
    if 2 < stars then .error ⟨position + 2, .wildcards⟩
    else if stars = 2 then
      let after ← afterTree position previous rest
      let taken := rest.length - after.length
      .ok (.tree :: (← readFrom (position + 2 + taken) (if taken = 0 then some '*' else some '/')
        fuel after))
    else .ok (.run :: (← readFrom (position + 1) (some '*') fuel rest))
  -- a bracket that does not end is a fault, and not a character
  | fuel + 1, '[' :: '!' :: rest => do
    match bracket? rest with
    | none => .error ⟨position, .range⟩
    | some (inside, after) =>
      .ok (.except (ranges inside) :: (← readFrom (position + 2 + rest.length - after.length)
        (some ']') fuel after))
  | fuel + 1, '[' :: rest => do
    match bracket? rest with
    | none => .error ⟨position, .range⟩
    | some (inside, after) =>
      .ok (.within (ranges inside) :: (← readFrom (position + 1 + rest.length - after.length)
        (some ']') fuel after))
  | fuel + 1, c :: rest => do
    .ok (.char c :: (← readFrom (position + 1) (some c) fuel rest))

def ofText (s : String) : Except WildcardFault (List Wildcard) :=
  readFrom 0 none s.toList.length s.toList

def inRanges (rs : List (Char × Char)) (c : Char) : Bool := rs.any fun r => r.1 ≤ c && c ≤ r.2

/-- Whether a piece that stands for one character stands for this one. -/
def holds (c : Char) : Wildcard → Bool
  | .char d => c == d
  | .any => true
  | .within rs => inRanges rs c
  | .except rs => !inRanges rs c
  | .run | .tree => false

/-- Whether the rest of the pieces fits some end of the text. -/
def someEnd (fits : List Char → Bool) : List Char → Bool
  | [] => fits []
  | c :: cs => fits (c :: cs) || someEnd fits cs

def fits : List Wildcard → List Char → Bool
  | [], cs => cs.isEmpty
  | .run :: ws, cs | .tree :: ws, cs => someEnd (fits ws) cs
  | w :: ws, c :: cs => w.holds c && fits ws cs
  | _ :: _, [] => false

/-- The one character that a piece stands for, if it is a single one. -/
def char? : Wildcard → Option Char
  | .char c => some c
  | _ => none

/-- The one text that the pieces stand for, if it is a single one. -/
def literal? (ws : List Wildcard) : Option String := (ws.mapM char?).map String.ofList

end Wildcard

end FabricAudit
