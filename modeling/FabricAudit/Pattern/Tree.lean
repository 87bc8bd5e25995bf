set_option autoImplicit false

/-! # The form of patterns

A pattern as it is written, before flags are applied to its parts and classes are turned into sets
of characters.
-/

namespace FabricAudit

/-- Why a text is no pattern. -/
inductive PatternFault where
  | unclosedGroup
  | unopenedGroup
  | badGroupName
  | repeatedGroupName
  | badFlags
  | nothingToRepeat
  | badCount
  | unclosedClass
  | badClassItem
  /-- A range whose ends are no characters, or in the wrong order. -/
  | badRange
  | badEscape
  | backreference
  | lookAround
  /-- A property that no character has a value of. -/
  | unknownProperty
  /-- Something that needs characters where only octets are meant. -/
  | octetsOnly
  /-- Something that could match a part of a character. -/
  | partialCharacter
  | tooDeep
  /-- Too many parts once the repetitions are written out. -/
  | tooLarge
  deriving DecidableEq, Repr

namespace Pattern

/-- A condition on a place between characters. -/
inductive Look where
  | startText
  | endText
  /-- The beginning of the text, or of a line if lines are asked for. -/
  | startLine
  /-- The end of the text, or of a line if lines are asked for. -/
  | endLine
  | edge
  | noEdge
  | wordStart
  | wordEnd
  /-- No word character before. -/
  | noneBefore
  /-- No word character after. -/
  | noneAfter
  deriving DecidableEq, Repr

/-- A set of characters with a letter of its own. -/
inductive Shorthand where
  | digit
  | space
  | word
  deriving DecidableEq, Repr

/-- The name of a property of characters, with a value if one is given. -/
structure Property where
  name : String
  value : Option String
  deriving DecidableEq, Repr

/-- A character as it is written; `octet` tells whether two hexadecimal digits are what it is
written with, which may mean an octet. -/
structure Letter where
  char : Char
  /-- Whether it may be an octet. -/
  octet : Bool
  deriving DecidableEq, Repr

/-- A set of characters as it is written. -/
inductive Class where
  | letter (l : Letter)
  | range (low high : Letter)
  | named (negated : Bool) (name : String)
  | shorthand (negated : Bool) (s : Shorthand)
  | property (negated : Bool) (p : Property)
  | bracket (negated : Bool) (inner : Class)
  | any (parts : List Class)
  | both (left right : Class)
  | without (left right : Class)
  | either (left right : Class)

structure FlagChange where
  on : List Char
  off : List Char
  deriving DecidableEq, Repr

/-- A pattern as it is written. -/
inductive Tree where
  | letter (l : Letter)
  | dot
  | look (l : Look)
  | set (c : Class)
  | flags (change : FlagChange)
  | group (change : FlagChange) (inner : Tree)
  | repeated (low : Nat) (high : Option Nat) (inner : Tree)
  | sequence (parts : List Tree)
  | choice (parts : List Tree)

mutual

def Class.depth : Class → Nat
  | .bracket _ inner => inner.depth + 1
  | .any parts => (if parts.length ≤ 1 then 0 else 1) + Class.depthOfParts parts
  | .both l r | .without l r | .either l r => max l.depth r.depth + 1
  | _ => 0

def Class.depthOfParts : List Class → Nat
  | [] => 0
  | c :: rest => max c.depth (Class.depthOfParts rest)

end

mutual

def Tree.depth : Tree → Nat
  | .set c => c.depth
  | .group _ inner => inner.depth + 1
  | .repeated _ _ inner => inner.depth + 1
  | .sequence parts => (if parts.length ≤ 1 then 0 else 1) + Tree.depthOfParts parts
  | .choice parts => (if parts.length ≤ 1 then 0 else 1) + Tree.depthOfParts parts
  | _ => 0

def Tree.depthOfParts : List Tree → Nat
  | [] => 0
  | t :: rest => max t.depth (Tree.depthOfParts rest)

end

end Pattern

end FabricAudit
