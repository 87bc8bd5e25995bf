import FabricAudit.Decimal.Digits
import FabricAudit.Pattern.Tree
import FabricAudit.Text.Blank
import FabricAudit.Text.CategoryTable
import FabricAudit.Text.Search
import FabricAudit.Word

set_option autoImplicit false

/-! # Reading patterns

A recursive descent over the characters of a pattern. Under the flag `x` blanks and comments between
the parts mean nothing; the flag holds to the end of the group in which it is set. Any name of a
property is read here; `Property.set` tells which of them are known.
-/

namespace FabricAudit.Pattern

/-- What is left to read, and what is known at that place. -/
structure Cursor where
  rest : List Char
  /-- Whether blanks and comments mean nothing. -/
  spaced : Bool
  names : List String

abbrev Parse (α : Type) := StateT Cursor (Except PatternFault) α

namespace Parse

def fail {α : Type} (f : PatternFault) : Parse α := fun _ => .error f

def rest : Parse (List Char) := fun c => .ok (c.rest, c)

def goTo (cs : List Char) : Parse Unit := fun c => .ok ((), { c with rest := cs })

def peek : Parse (Option Char) := fun c => .ok (c.rest.head?, c)

def skip (n : Nat) : Parse Unit := fun c => .ok ((), { c with rest := c.rest.drop n })

/-- What follows blanks and comments. -/
def afterSpace : Nat → List Char → List Char
  | 0, cs => cs
  | fuel + 1, cs =>
    match cs with
    | c :: more =>
      if Text.isBlank c then afterSpace fuel more
      else if c = '#' then afterSpace fuel ((more.dropWhile (· != '\n')).drop 1)
      else cs
    | [] => []

/-- Passes blanks and comments, if they mean nothing. -/
def space : Parse Unit := fun c =>
  .ok ((), if c.spaced then { c with rest := afterSpace c.rest.length c.rest } else c)

/-- Passes a character, and blanks and comments after it. -/
def next : Parse Unit := do skip 1; space

/-- Whether the pattern goes on with these characters, which are passed then. -/
def accept (s : String) : Parse Bool := fun c =>
  if s.toList.isPrefixOf c.rest then .ok (true, { c with rest := c.rest.drop s.length })
  else .ok (false, c)

/-- The next character; its absence is a fault. -/
def need (f : PatternFault) : Parse Char := do
  match ← peek with
  | some c => pure c
  | none => fail f

end Parse

open Parse

/-! ## Escapes -/

/-- The number that hexadecimal digits denote, as a character. -/
def hexLetter (octet : Bool) (ds : List Char) : Parse Letter :=
  match Decimal.inBase? 16 ds with
  | some n =>
    if (0xD800 ≤ n ∧ n ≤ 0xDFFF) ∨ 0x10FFFF < n then fail .badEscape
    else pure ⟨Char.ofNat n, octet⟩
  | none => fail .badEscape

def isHex (c : Char) : Bool := (Decimal.inBase? 16 [c]).isSome

/-- A fixed number of hexadecimal digits. -/
def readHexDigits : Nat → List Char → Parse (List Char)
  | 0, ds => pure ds
  | n + 1, ds => do
    let c ← need .badEscape
    if isHex c then do
      next
      readHexDigits n (ds ++ [c])
    else fail .badEscape

/-- Characters up to a closing brace, which is passed. -/
def readBraced (spaced : Bool) : Nat → List Char → Parse (List Char)
  | 0, _ => fail .badEscape
  | fuel + 1, cs => do
    let c ← need .badEscape
    if c = '\x7d' then do
      if spaced then next else skip 1
      pure cs
    else do
      next
      readBraced spaced fuel (cs ++ [c])

/-- A character given by hexadecimal digits, after the letter that announces it. -/
def readHex (digits : Nat) : Parse Letter := do
  next
  if (← need .badEscape) = '\x7b' then do
    next
    let ds ← readBraced true ((← rest).length + 1) []
    if ds.isEmpty || !ds.all isHex then fail .badEscape else hexLetter false ds
  else do
    let ds ← readHexDigits digits []
    hexLetter (digits == 2) ds

/-- The name and value of a property in braces. -/
def propertyOf (cs : List Char) : Property :=
  let split (mark : List Char) (width : Nat) : Option Property :=
    ((List.range cs.length).find? fun i => mark.isPrefixOf (cs.drop i)).map fun i =>
      ⟨String.ofList (cs.take i), some (String.ofList (cs.drop (i + width)))⟩
  match split ['!', '='] 2, split [':'] 1, split ['='] 1 with
  | some p, _, _ => p
  | none, some p, _ => p
  | none, none, some p => p
  | none, none, none => ⟨String.ofList cs, none⟩

/-- A property, after the letter that announces it. Written with an unequal sign it is negated. -/
def readProperty (negated : Bool) : Parse Class := do
  next
  let c ← need .badEscape
  if c = '\x7b' then do
    next
    let cs ← readBraced false ((← rest).length + 1) []
    let unequal := Text.occursIn ['!', '='] cs
    pure (.property (negated != unequal) (propertyOf cs))
  else if c = '\\' then fail .badEscape
  else do
    next
    pure (.property negated ⟨String.ofList [c], none⟩)

/-- The characters that mean something in patterns. -/
def isMeta (c : Char) : Bool :=
  ['\\', '.', '+', '*', '?', '(', ')', '|', '[', ']', '\x7b', '\x7d', '^', '$', '#', '&', '-',
    '~'].contains c

/-- Whether a backslash before a character leaves it as it is: so for all of ASCII but digits,
letters and the angle brackets. -/
def isPlainEscape (c : Char) : Bool :=
  isMeta c || (c.toNat < 128 && !c.isAlphanum && c != '<' && c != '>')

/-- The condition in braces that may follow the letter for an edge of a word. Braces that do not
begin with a letter or a dash are left for a repetition. -/
def readEdge : Parse Look := do
  let start ← rest
  let isWord (c : Char) : Bool := c.isAlpha || c == '-'
  if start.head? != some '\x7b' then pure .edge
  else do
    next
    let c ← need .badEscape
    if !isWord c then do
      goTo start
      pure .edge
    else do
      let name ← readBraced false ((← rest).length + 1) []
      match String.ofList name with
      | "start" => pure .wordStart
      | "end" => pure .wordEnd
      | "start-half" => pure .noneBefore
      | "end-half" => pure .noneAfter
      | _ => fail .badEscape

/-- A part of a pattern that is no group. -/
inductive Piece where
  | letter (l : Letter)
  | set (c : Class)
  | look (l : Look)
  | dot

def readEscape : Parse Piece := do
  skip 1
  let c ← need .badEscape
  let letter (n : Nat) : Parse Piece := do skip 1; pure (.letter ⟨Char.ofNat n, false⟩)
  let set (negated : Bool) (s : Shorthand) : Parse Piece := do
    skip 1; pure (.set (.shorthand negated s))
  let look (l : Look) : Parse Piece := do skip 1; pure (.look l)
  match c with
  | 'x' => return .letter (← readHex 2)
  | 'u' => return .letter (← readHex 4)
  | 'U' => return .letter (← readHex 8)
  | 'p' => return .set (← readProperty false)
  | 'P' => return .set (← readProperty true)
  | 'd' => set false .digit
  | 'D' => set true .digit
  | 's' => set false .space
  | 'S' => set true .space
  | 'w' => set false .word
  | 'W' => set true .word
  | 'a' => letter 7
  | 'f' => letter 12
  | 't' => letter 9
  | 'n' => letter 10
  | 'r' => letter 13
  | 'v' => letter 11
  | 'A' => look .startText
  | 'z' => look .endText
  | 'B' => look .noEdge
  | '<' => look .wordStart
  | '>' => look .wordEnd
  -- braces may follow that tell which edge is meant
  | 'b' =>
    skip 1
    return .look (← readEdge)
  | c =>
    if Decimal.isDigit c then fail .backreference
    else if isPlainEscape c then letter c.toNat
    else fail .badEscape

/-! ## Classes -/

def classNames : List String :=
  ["alnum", "alpha", "ascii", "blank", "cntrl", "digit", "graph", "lower", "print", "punct",
    "space", "upper", "word", "xdigit"]

/-- A class with a name, if one stands here between brackets and colons. -/
def namedClass? (cs : List Char) : Option (Class × List Char) :=
  match cs with
  | '[' :: ':' :: more =>
    let negated := more.head? == some '^'
    let more := if negated then more.drop 1 else more
    let name := more.takeWhile (· != ':')
    match more.drop name.length with
    | ':' :: ']' :: after =>
      if classNames.contains (String.ofList name) then
        some (.named negated (String.ofList name), after)
      else none
    | _ => none
  | _ => none

def readClassPiece : Parse Piece := do
  let c ← need .unclosedClass
  if c = '\\' then readEscape
  else do
    skip 1
    pure (.letter ⟨c, false⟩)

def classOf : Piece → Parse Class
  | .letter l => pure (.letter l)
  | .set c => pure c
  | _ => fail .badClassItem

def letterOf : Piece → Parse Letter
  | .letter l => pure l
  | _ => fail .badRange

/-- The character after the next one, past blanks and comments if they mean nothing. -/
def peekBeyond : Parse (Option Char) := fun c =>
  let more := c.rest.drop 1
  .ok ((if c.spaced then afterSpace more.length more else more).head?, c)

/-- A character, a set or a range in a class. -/
def readClassItem : Parse Class := do
  let first ← readClassPiece
  space
  let c ← need .unclosedClass
  let beyond ← peekBeyond
  if c != '-' || beyond == some ']' || beyond == some '-' then classOf first
  else do
    next
    let _ ← need .unclosedClass
    let second ← readClassPiece
    let low ← letterOf first
    let high ← letterOf second
    if high.char < low.char then fail .badRange else pure (.range low high)

/-- The operator between two parts of a class. -/
inductive ClassOperator where
  | both
  | without
  | either

def ClassOperator.apply (o : ClassOperator) (l r : Class) : Class :=
  match o with
  | .both => .both l r
  | .without => .without l r
  | .either => .either l r

def operator? (cs : List Char) : Option ClassOperator :=
  match cs with
  | '&' :: '&' :: _ => some .both
  | '-' :: '-' :: _ => some .without
  | '~' :: '~' :: _ => some .either
  | _ => none

def unionOf : List Class → Class
  | [c] => c
  | parts => .any parts

/-- Dashes at the beginning of a class, which stand for themselves. -/
def readDashes : Nat → List Class → Parse (List Class)
  | 0, parts => pure parts
  | fuel + 1, parts => do
    if (← need .unclosedClass) = '-' then do
      next
      readDashes fuel (parts ++ [.letter ⟨'-', false⟩])
    else pure parts

mutual

/-- A class in brackets, of which the opening one is next. -/
def readBracket : Nat → Parse Class
  | 0 => fail .unclosedClass
  | fuel + 1 => do
    next
    let negated := (← need .unclosedClass) == '^'
    if negated then next
    let dashes ← readDashes ((← rest).length + 1) []
    let parts ←
      if dashes.isEmpty && (← need .unclosedClass) == ']' then do
        next
        pure [Class.letter ⟨']', false⟩]
      else pure dashes
    let inner ← readClassParts fuel none parts
    pure (.bracket negated inner)

/-- The parts of a class up to its closing bracket. `left` is what stands before the last operator,
with that operator. -/
def readClassParts : Nat → Option (Class × ClassOperator) → List Class → Parse Class
  | 0, _, _ => fail .unclosedClass
  | fuel + 1, left, parts => do
    space
    let cs ← rest
    let done := match left with
      | none => unionOf parts
      | some (l, o) => o.apply l (unionOf parts)
    match cs, operator? cs with
    | [], _ => fail .unclosedClass
    | ']' :: _, _ =>
      skip 1
      pure done
    -- operators group to the left: all that has been read is the left side of the next one
    | _, some o =>
      skip 2
      readClassParts fuel (some (done, o)) []
    | '[' :: _, none =>
      match namedClass? cs with
      | some (c, after) =>
        goTo after
        readClassParts fuel left (parts ++ [c])
      | none =>
        let c ← readBracket fuel
        readClassParts fuel left (parts ++ [c])
    | _, none =>
      let c ← readClassItem
      readClassParts fuel left (parts ++ [c])

end

/-! ## Groups and repetitions -/

def isFlag (c : Char) : Bool := ['i', 'm', 's', 'U', 'u', 'R', 'x'].contains c

/-- Flags up to a colon or a closing parenthesis, which is left; `off` tells whether a dash has been
passed, and `last` whether it was the last character. -/
def readFlags : Nat → Bool → Bool → FlagChange → Parse FlagChange
  | 0, _, _, _ => fail .badFlags
  | fuel + 1, off, last, change => do
    let c ← need .badFlags
    if c = ':' ∨ c = ')' then
      if last then fail .badFlags else pure change
    else if c = '-' then
      if off then fail .badFlags
      else do
        skip 1
        readFlags fuel true true change
    else if !isFlag c || change.on.contains c || change.off.contains c then fail .badFlags
    else do
      skip 1
      let change : FlagChange :=
        if off then ⟨change.on, change.off ++ [c]⟩ else ⟨change.on ++ [c], change.off⟩
      readFlags fuel off false change

def FlagChange.none : FlagChange := ⟨[], []⟩

def isNameChar (first : Bool) (c : Char) : Bool :=
  c == '_' || Text.isAlphabetic c ||
    (!first && (c == '.' || c == '[' || c == ']' || Text.isNumeric c))

/-- The name of a group, up to the closing angle bracket, which is passed. -/
def readName : Parse Unit := do
  let cs ← rest
  let name := cs.takeWhile (· != '>')
  if name.isEmpty || name.length == cs.length then fail .badGroupName
  else if !isNameChar true (name.headD ' ') || !name.all (isNameChar false) then fail .badGroupName
  else fun c =>
    let s := String.ofList name
    if c.names.contains s then .error .repeatedGroupName
    else .ok ((), { c with rest := c.rest.drop (name.length + 1), names := s :: c.names })

/-- A decimal number with blanks around it. -/
def readCount : Parse (Option Nat) := do
  goTo ((← rest).dropWhile Text.isBlank)
  let ds ← readDigits ((← rest).length + 1) []
  goTo ((← rest).dropWhile Text.isBlank)
  if ds.isEmpty then pure none
  else if (Word.unsigned 32).holds (Decimal.value ds) then pure (some (Decimal.value ds))
  else fail .badCount
where
  /-- Decimal digits; under the flag `x` blanks may stand between them. -/
  readDigits : Nat → List Char → Parse (List Char)
    | 0, ds => pure ds
    | fuel + 1, ds => do
      match ← peek with
      | some c =>
        if Decimal.isDigit c then do
          next
          readDigits fuel (ds ++ [c])
        else pure ds
      | none => pure ds

/-- The counts of a repetition in braces, of which the opening one is next. -/
def readCounts : Parse (Nat × Option Nat) := do
  next
  let low ← readCount
  let c ← need .badCount
  let (low, high) ←
    if c = ',' then do
      next
      -- a brace right after the comma leaves out the upper bound
      if (← need .badCount) = '\x7d' then
        match low with
        | some n => pure (n, none)
        | none => fail .badCount
      else
        let high ← readCount
        match low, high with
        | some m, some n => pure (m, some n)
        | _, _ => fail .badCount
    else
      match low with
      | some n => pure (n, some n)
      | none => fail .badCount
  if (← need .badCount) != '\x7d' then fail .badCount
  else do
    next
    if high.any fun n => n < low then fail .badCount else pure (low, high)

/-- Passes the question mark that makes a repetition prefer less; it changes nothing here. -/
def skipLazy : Parse Unit := do
  let _ ← accept "?"

/-- Puts a repetition onto the last of the parts, which come in reverse. -/
def repeatLast (low : Nat) (high : Option Nat) (parts : List Tree) : Parse (List Tree) :=
  match parts with
  | [] | .flags _ :: _ => fail .nothingToRepeat
  | t :: rest => pure (.repeated low high t :: rest)

def treeOf : Piece → Tree
  | .letter l => .letter l
  | .set c => .set c
  | .look l => .look l
  | .dot => .dot

/-- A sequence of parts, which come in reverse. -/
def sequenceOf (reversed : List Tree) : Tree :=
  match reversed.reverse with
  | [t] => t
  | parts => .sequence parts

def choiceOf (branches : List Tree) : Tree :=
  match branches with
  | [t] => t
  | parts => .choice parts

inductive Opening where
  /-- Flags for the rest of the group around. -/
  | flags (change : FlagChange)
  | group (change : FlagChange)

/-- Sets or clears the flag for blanks, if a change of flags names it. -/
def noteSpacing (change : FlagChange) : Parse Unit := fun c =>
  .ok ((), { c with
    spaced := (c.spaced || change.on.contains 'x') && !change.off.contains 'x' })

/-- The beginning of a group, up to its content. -/
def readOpening : Parse Opening := do
  next
  let cs ← rest
  if ["?=", "?!", "?<=", "?<!"].any fun s => s.toList.isPrefixOf cs then fail .lookAround
  else if ← accept "?P<" then do
    readName
    pure (.group .none)
  else if ← accept "?<" then do
    readName
    pure (.group .none)
  else if ← accept "?" then do
    let change ← readFlags (cs.length + 1) false false .none
    let close ← need .unclosedGroup
    skip 1
    if close = ')' then
      if change.on.isEmpty && change.off.isEmpty then fail .nothingToRepeat
      else pure (.flags change)
    else pure (.group change)
  else pure (.group .none)

/-- The content of a group, or of the whole pattern if `depth` is zero: branches, of which the ones
before come in reverse, and the parts of this one, in reverse too. -/
def readParts : Nat → Nat → List Tree → List Tree → Parse Tree
  | 0, _, _, _ => fail .tooDeep
  | fuel + 1, depth, branches, parts => do
    space
    let done := choiceOf ((sequenceOf parts :: branches).reverse)
    match ← peek with
    | none => if depth = 0 then pure done else fail .unclosedGroup
    | some c =>
      match c with
      | ')' =>
        if depth = 0 then fail .unopenedGroup
        else do
          skip 1
          pure done
      | '|' =>
        skip 1
        readParts fuel depth (sequenceOf parts :: branches) []
      | '(' =>
        match ← readOpening with
        | .flags change =>
          -- flags without a group hold for the rest of this one
          noteSpacing change
          readParts fuel depth branches (.flags change :: parts)
        | .group change =>
          let spaced := (← get).spaced
          noteSpacing change
          let inner ← readParts fuel (depth + 1) [] []
          -- what blanks mean is the same again behind the group
          modify fun c => { c with spaced := spaced }
          readParts fuel depth branches (.group change inner :: parts)
      | '[' =>
        let set ← readBracket (2 * (← rest).length + 2)
        readParts fuel depth branches (.set set :: parts)
      | '?' =>
        skip 1
        skipLazy
        readParts fuel depth branches (← repeatLast 0 (some 1) parts)
      | '*' =>
        skip 1
        skipLazy
        readParts fuel depth branches (← repeatLast 0 none parts)
      | '+' =>
        skip 1
        skipLazy
        readParts fuel depth branches (← repeatLast 1 none parts)
      | '\x7b' =>
        -- that there is nothing to repeat is noticed before the counts are read
        let _ ← repeatLast 0 none parts
        let (low, high) ← readCounts
        skipLazy
        readParts fuel depth branches (← repeatLast low high parts)
      | '\\' =>
        let piece ← readEscape
        readParts fuel depth branches (treeOf piece :: parts)
      | '.' =>
        skip 1
        readParts fuel depth branches (.dot :: parts)
      | '^' =>
        skip 1
        readParts fuel depth branches (.look .startLine :: parts)
      | '$' =>
        skip 1
        readParts fuel depth branches (.look .endLine :: parts)
      | c =>
        skip 1
        readParts fuel depth branches (.letter ⟨c, false⟩ :: parts)

def maxDepth : Nat := 250

def Tree.ofText (s : String) : Except PatternFault Tree := do
  let cs := s.toList
  let (t, _) ← (readParts (2 * cs.length + 2) 0 [] []).run ⟨cs, false, []⟩
  if maxDepth < t.depth then .error .tooDeep else .ok t

end FabricAudit.Pattern
