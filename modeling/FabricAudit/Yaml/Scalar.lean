import FabricAudit.Decimal.Digits
import FabricAudit.Yaml.Cursor

set_option autoImplicit false

/-! # Scalars of a YAML text

The three ways to write a scalar: plain, in quotation marks, and as a block of indented lines. The
first two may run over several lines, which are folded: one line break becomes a space, and of
several the first is dropped. A folded block follows the same rule for lines that do not begin with
a blank; a literal block keeps its lines.
-/

namespace FabricAudit.Yaml

/-- Blanks and line breaks between two runs of characters of a scalar. -/
structure Gap where
  /-- Whether a line break was passed. -/
  broken : Bool
  /-- The blanks before the first line break. -/
  blanks : List Char
  first : List Char
  /-- The line breaks after it. -/
  more : List Char

def Gap.none : Gap := ⟨false, [], [], []⟩

/-- What a gap contributes to the scalar when it is folded. -/
def Gap.folded (g : Gap) : List Char :=
  if g.broken then
    if g.first.head? = some '\n' then (if g.more.isEmpty then [' '] else g.more)
    else g.first ++ g.more
  else g.blanks

/-- Reads a gap. In a plain scalar a tab may not stand in the indentation of a line, which is the
first `indent` columns. -/
def readGap (indent : Nat) : Nat → Gap → Cursor → Scan (Gap × Cursor)
  | 0, g, c => .ok (g, c)
  | fuel + 1, g, c =>
    match c.peek with
    | none => .ok (g, c)
    | some x =>
      if isBlank x then
        if g.broken ∧ c.column < indent ∧ x = '\t' then .error .badPlain
        else if g.broken then readGap indent fuel g (c.skip 1)
        else readGap indent fuel { g with blanks := g.blanks ++ [x] } (c.skip 1)
      else if isBreak x then
        let g := if g.broken then { g with more := g.more ++ c.breakText }
          else { g with broken := true, blanks := [], first := c.breakText }
        readGap indent fuel g c.skipBreak
      else .ok (g, c)

/-! ## Plain scalars -/

def endsPlain (flow : Bool) (c : Cursor) : Bool :=
  match c.peek with
  | none => true
  | some x =>
    isBlank x || isBreak x || (x == ':' && c.spaceAt 1)
      || (flow && (x == ',' || x == '[' || x == ']' || x == '\x7b' || x == '\x7d'))

/-- Whether a colon stands before a character of flow collections, which is a fault inside one. -/
def badColon (flow : Bool) (c : Cursor) : Bool :=
  flow && c.sees ':' &&
    match c.peekAt 1 with
    | some x => x == ',' || x == '?' || x == '[' || x == ']' || x == '\x7b' || x == '\x7d'
    | none => false

def plainRun (flow : Bool) : Nat → Cursor → Scan (List Char × Cursor)
  | 0, c => .ok ([], c)
  | fuel + 1, c =>
    if c.spaceAt 0 then .ok ([], c)
    else if badColon flow c then .error .badPlain
    else if endsPlain flow c then .ok ([], c)
    else do
      let (run, after) ← plainRun flow fuel (c.skip 1)
      .ok (c.peek.toList ++ run, after)

/-- A plain scalar from the cursor on; `gap` is what separates it from the characters before. The
answer tells whether the last gap read holds a line break. -/
def plainFrom (flow : Bool) (indent : Nat) : Nat → Gap → Cursor →
    Scan (List Char × Bool × Cursor)
  | 0, g, c => .ok ([], g.broken, c)
  | fuel + 1, g, c =>
    if c.atDocumentMark || c.sees '#' then .ok ([], g.broken, c)
    else do
      let (run, after) ← plainRun flow (c.rest.length + 1) c
      let before := if run.isEmpty then [] else g.folded
      let left := if run.isEmpty then g else Gap.none
      if !(after.seesBlank || after.seesBreak) then .ok (before ++ run, left.broken, after)
      else do
        let (gap, after) ← readGap indent (after.rest.length + 1) left after
        if !flow ∧ after.column < indent then .ok (before ++ run, gap.broken, after)
        else do
          let (text, broken, c) ← plainFrom flow indent fuel gap after
          .ok (before ++ run ++ text, broken, c)

/-- A plain scalar. Outside flow collections it goes on as long as its lines are indented at least
to `indent`. The answer tells whether it ends with a line break. -/
def readPlain (flow : Bool) (indent : Nat) (c : Cursor) : Scan (List Char × Bool × Cursor) :=
  plainFrom flow indent (c.rest.length + 1) Gap.none c

/-! ## Quoted scalars -/

def simpleEscape? (c : Char) : Option Char :=
  match c with
  | '0' => some '\x00'
  | 'a' => some '\x07'
  | 'b' => some '\x08'
  | 't' | '\t' => some '\t'
  | 'n' => some '\n'
  | 'v' => some '\x0b'
  | 'f' => some '\x0c'
  | 'r' => some '\r'
  | 'e' => some '\x1b'
  | ' ' => some ' '
  | '"' => some '"'
  | '/' => some '/'
  | '\\' => some '\\'
  | 'N' => some '\u0085'
  | '_' => some '\u00a0'
  | 'L' => some '\u2028'
  | 'P' => some '\u2029'
  | _ => none

/-- How many hexadecimal digits follow the letter of a numeric escape. -/
def escapeDigits? (c : Char) : Option Nat :=
  match c with
  | 'x' => some 2
  | 'u' => some 4
  | 'U' => some 8
  | _ => none

/-- The character of an escape whose backslash is next. -/
def readEscape (c : Cursor) : Scan (Char × Cursor) :=
  match c.peekAt 1 with
  | none => .error .badQuoted
  | some e =>
    match simpleEscape? e, escapeDigits? e with
    | some x, _ => .ok (x, c.skip 2)
    | none, none => .error .badQuoted
    | none, some count =>
      let ds := (c.rest.drop 2).take count
      match Decimal.inBase? 16 ds with
      | none => .error .badQuoted
      | some n =>
        if ds.length < count ∨ (0xD800 ≤ n ∧ n ≤ 0xDFFF) ∨ 0x10FFFF < n then .error .badQuoted
        else .ok (Char.ofNat n, c.skip (2 + count))

/-- A run of characters inside quotation marks that are not blanks. The answer tells whether the run
ends with an escaped line break, over which the cursor has moved. -/
def quotedRun (single : Bool) : Nat → Cursor → Scan (List Char × Bool × Cursor)
  | 0, c => .ok ([], false, c)
  | fuel + 1, c =>
    if c.spaceAt 0 then .ok ([], false, c)
    else if single ∧ c.sees '\'' ∧ c.peekAt 1 = some '\'' then do
      let (run, escaped, after) ← quotedRun single fuel (c.skip 2)
      .ok ('\'' :: run, escaped, after)
    else if c.sees (if single then '\'' else '"') then .ok ([], false, c)
    else if !single ∧ c.sees '\\' then
      if ((c.peekAt 1).map isBreak).getD false then .ok ([], true, (c.skip 1).skipBreak)
      else do
        let (x, after) ← readEscape c
        let (run, escaped, after) ← quotedRun single fuel after
        .ok (x :: run, escaped, after)
    else do
      let (run, escaped, after) ← quotedRun single fuel (c.skip 1)
      .ok (c.peek.toList ++ run, escaped, after)

/-- A quoted scalar after its opening mark. -/
def quotedFrom (single : Bool) : Nat → Cursor → Scan (List Char × Cursor)
  | 0, _ => .error .badQuoted
  | fuel + 1, c =>
    if c.atDocumentMark ∨ c.atEnd then .error .badQuoted
    else do
      let (run, escaped, after) ← quotedRun single (c.rest.length + 1) c
      if after.sees (if single then '\'' else '"') then .ok (run, after.skip 1)
      else do
        let (gap, after) ← readGap 0 (after.rest.length + 1)
          { Gap.none with broken := escaped } after
        let (text, c) ← quotedFrom single fuel after
        .ok (run ++ gap.folded ++ text, c)

/-- A quoted scalar whose opening mark is next. -/
def readQuoted (single : Bool) (c : Cursor) : Scan (List Char × Cursor) :=
  quotedFrom single (c.rest.length + 1) (c.skip 1)

/-! ## Block scalars -/

/-- What becomes of the line breaks at the end of a block. -/
inductive Chomping where
  /-- All are dropped. -/
  | strip
  /-- The first is kept. -/
  | clip
  /-- All are kept. -/
  | keep
  deriving DecidableEq

def chomping? : Option Char → Option Chomping
  | some '+' => some .keep
  | some '-' => some .strip
  | _ => none

/-- The indentation that a digit asks for; a zero is a fault. -/
def indentDigit (c : Cursor) : Scan (Option Nat) :=
  match c.peek with
  | some x =>
    if x = '0' then .error .badBlock
    else if '1' ≤ x ∧ x ≤ '9' then .ok (some (Decimal.digitValue x))
    else .ok none
  | none => .ok none

/-- The header of a block after its indicator: a sign and a digit in either order, then nothing but
blanks and a comment. -/
def readBlockHeader (c : Cursor) : Scan (Chomping × Option Nat × Cursor) := do
  let (chomp, digit, c) ←
    match chomping? c.peek with
    | some chomp => do
      let c := c.skip 1
      let digit ← indentDigit c
      .ok (chomp, digit, if digit.isSome then c.skip 1 else c)
    | none => do
      let digit ← indentDigit c
      if digit.isSome then
        let c := c.skip 1
        match chomping? c.peek with
        | some chomp => .ok (chomp, digit, c.skip 1)
        | none => .ok (.clip, digit, c)
      else .ok (.clip, digit, c)
  let c := (c.dropWhile isBlank).skipComment
  if c.atLineEnd then .ok (chomp, digit, c.skipBreak) else .error .badBlock

/-- Empty lines inside a block: their line breaks, the deepest column reached, and the place of the
next line that is not empty. Without a known `indent` any number of spaces is passed. -/
def readEmptyLines (indent : Option Nat) : Nat → List Char → Nat → Cursor →
    Scan (List Char × Nat × Cursor)
  | 0, breaks, deepest, c => .ok (breaks, deepest, c)
  | fuel + 1, breaks, deepest, c =>
    let spaces := (c.takeWhile (· == ' ')).1.length
    let c := c.skip (match indent with
      | some n => min spaces (n - c.column)
      | none => spaces)
    let deepest := max deepest c.column
    let indenting := match indent with
      | some n => decide (c.column < n)
      | none => true
    if indenting && c.sees '\t' then .error .badBlock
    else if c.seesBreak then
      readEmptyLines indent fuel (breaks ++ c.breakText) deepest c.skipBreak
    else .ok (breaks, deepest, c)

/-- The lines of a block. `first` is the line break before this line and `more` the empty lines
between; `blank` tells whether the line before began with a blank. -/
def blockLines (literal : Bool) (indent : Nat) : Nat → Bool → List Char → List Char → Cursor →
    Scan (List Char × List Char × List Char × Cursor)
  | 0, _, first, more, c => .ok ([], first, more, c)
  | fuel + 1, blank, first, more, c =>
    if c.column ≠ indent ∨ c.atEnd then .ok ([], first, more, c)
    else do
      let blankHere := c.seesBlank
      let joint :=
        if !literal ∧ first.head? = some '\n' ∧ !blank ∧ !blankHere then
          (if more.isEmpty then [' '] else more)
        else first ++ more
      let (line, after) := c.takeWhile (!isBreak ·)
      let breakHere := after.breakText
      let (more, _, next) ← readEmptyLines (some indent) (after.rest.length + 1) [] 0
        after.skipBreak
      let (text, first, more, c) ← blockLines literal indent fuel blankHere breakHere more next
      .ok (joint ++ line ++ text, first, more, c)

/-- A block scalar whose indicator is next, inside a block indented to `parent` (minus one at the
outermost level). Without a digit in the header its own indentation is that of its first line that
is not empty. -/
def readBlock (literal : Bool) (parent : Int) (c : Cursor) : Scan (List Char × Cursor) := do
  let (chomp, digit, c) ← readBlockHeader (c.skip 1)
  let given := digit.map fun n => (max parent 0).toNat + n
  let (more, deepest, c) ← readEmptyLines given (c.rest.length + 1) [] 0 c
  let indent := given.getD (max (max deepest (parent + 1).toNat) 1)
  let (text, first, more, c) ← blockLines literal indent (c.rest.length + 1) false [] more c
  .ok (text ++ (if chomp = .strip then [] else first) ++ (if chomp = .keep then more else []), c)

end FabricAudit.Yaml
