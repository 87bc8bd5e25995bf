import FabricAudit.Document.Basic

set_option autoImplicit false

/-! # Reading JSON text

A text is read into a `Draft`: a document as it stands in the text, with members in the order
written, repeated keys kept, and the place marked where the text stops being JSON. Reading a draft
into a typed value (`Reading.lean`) reports the first problem in the order of the text, whether
that is a value of the wrong type or a fault of the text; a draft that ends in a fault makes this
possible without reading the text twice.

A text may also hold a value that is well formed but denotes nothing: a number too large to be
finite, or half of a surrogate pair. Such a value is a `Draft.broken` part, and reading goes on
after it, since a reader that has no use for the value does not mind.

`Draft.toDocument` turns a draft without faults into a document; `Document.toDraft` is the other
way.
-/

namespace FabricAudit

/-- Why a text is not a document. -/
inductive DraftFault where
  /-- The text ends where a value should begin or go on. -/
  | endInValue
  | endInList
  | endInObject
  | endInText
  | noColon
  /-- An item is followed neither by a comma nor by the end of the list. -/
  | noListEnd
  /-- A member is followed neither by a comma nor by the end of the object. -/
  | noObjectEnd
  /-- A word begins like null or a truth value and goes on differently. -/
  | badWord
  | noValue
  | badEscape
  | badNumber
  /-- A number is too large to be finite. -/
  | hugeNumber
  /-- A control character stands unescaped inside quotation marks. -/
  | control
  | keyNotText
  /-- The second half of a surrogate pair is missing or stands alone. -/
  | loneSurrogate
  | halfPair
  /-- A comma stands before the end of a list or object. -/
  | trailingComma
  | trailing
  deriving DecidableEq, Repr

def DraftFault.message : DraftFault → String
  | .endInValue => "EOF while parsing a value"
  | .endInList => "EOF while parsing a list"
  | .endInObject => "EOF while parsing an object"
  | .endInText => "EOF while parsing a string"
  | .noColon => "expected \x60:\x60"
  | .noListEnd => "expected \x60,\x60 or \x60]\x60"
  | .noObjectEnd => "expected \x60,\x60 or \x60\x7d\x60"
  | .badWord => "expected ident"
  | .noValue => "expected value"
  | .badEscape => "invalid escape"
  | .badNumber => "invalid number"
  | .hugeNumber => "number out of range"
  | .control => "control character (\\u0000-\\u001F) found while parsing a string"
  | .keyNotText => "key must be a string"
  | .loneSurrogate => "lone leading surrogate in hex escape"
  | .halfPair => "unexpected end of hex escape"
  | .trailingComma => "trailing comma"
  | .trailing => "trailing characters"

/-- A document as written. -/
inductive Draft where
  | null
  | bool (b : Bool)
  | int (n : Int)
  | float (x : Binary64)
  | text (s : String)
  /-- A list, and the fault that ends it before its bracket, if one does. -/
  | list (items : List Draft) (fault : Option DraftFault)
  /-- An object, and the fault that ends it before its brace, if one does. -/
  | object (members : List (String × Draft)) (fault : Option DraftFault)
  /-- A value that could not be read. -/
  | broken (fault : DraftFault)
  deriving Inhabited

mutual

def Document.toDraft : Document → Draft
  | .null => .null
  | .bool b => .bool b
  | .int n => .int n
  | .float x => .float x
  | .text s => .text s
  | .list xs => .list (itemsToDraft xs) none
  | .object ms => .object (membersToDraft ms) none

def Document.itemsToDraft : List Document → List Draft
  | [] => []
  | x :: xs => x.toDraft :: itemsToDraft xs

def Document.membersToDraft : List (String × Document) → List (String × Draft)
  | [] => []
  | (k, x) :: ms => (k, x.toDraft) :: membersToDraft ms

end

namespace Draft

mutual

/-- The document of a draft; the first fault inside it, if it has one. -/
def toDocument : Draft → Except DraftFault Document
  | .null => .ok .null
  | .bool b => .ok (.bool b)
  | .int n => .ok (.int n)
  | .float x => .ok (.float x)
  | .text s => .ok (.text s)
  | .list xs fault => do
    let items ← itemsToDocument xs
    match fault with
    | some f => .error f
    | none => .ok (.list items)
  | .object ms fault => do
    let pairs ← membersToDocument ms
    match fault with
    | some f => .error f
    | none => .ok (.ofPairs pairs)
  | .broken f => .error f

def itemsToDocument : List Draft → Except DraftFault (List Document)
  | [] => .ok []
  | x :: xs => do
    let d ← toDocument x
    let ds ← itemsToDocument xs
    .ok (d :: ds)

def membersToDocument : List (String × Draft) → Except DraftFault (List (String × Document))
  | [] => .ok []
  | (k, x) :: ms => do
    let d ← toDocument x
    let ds ← membersToDocument ms
    .ok ((k, d) :: ds)

end

/-! ## Quotation marks -/

/-- The number of four hexadecimal digits. When the text is too short for them it ends inside the
quotation marks. -/
def hexEscape (cs : List Char) : Except DraftFault (Nat × List Char) :=
  match cs with
  | a :: b :: c :: d :: rest =>
    match Decimal.inBase? 16 [a, b, c, d] with
    | some n => .ok (n, rest)
    | none => .error .badEscape
  | short =>
    if (String.ofList short).utf8ByteSize < 4 then .error .endInText else .error .badEscape

/-- The character an escape of one letter stands for. -/
def simpleEscape? : Char → Option Char
  | '"' => some '"'
  | '\\' => some '\\'
  | '/' => some '/'
  | 'b' => some '\x08'
  | 'f' => some '\x0c'
  | 'n' => some '\n'
  | 'r' => some '\r'
  | 't' => some '\t'
  | _ => none

/-- The character written by the escape after `\u`; a character outside the first plane is written
by two escapes, the halves of a surrogate pair. -/
def unicodeEscape (cs : List Char) : Except DraftFault (Char × List Char) := do
  let (n, rest) ← hexEscape cs
  if 0xDC00 ≤ n ∧ n ≤ 0xDFFF then .error .loneSurrogate
  else if n < 0xD800 ∨ 0xDBFF < n then .ok (Char.ofNat n, rest)
  else
    match rest with
    | [] => .error .endInText
    | '\\' :: [] => .error .endInText
    | '\\' :: 'u' :: rest =>
      let (m, rest) ← hexEscape rest
      if m < 0xDC00 ∨ 0xDFFF < m then .error .loneSurrogate
      else .ok (Char.ofNat (0x10000 + (n - 0xD800) * 0x400 + (m - 0xDC00)), rest)
    | _ => .error .halfPair

/-- The text up to the closing quotation mark, and what follows it. -/
def readText : Nat → List Char → Except DraftFault (List Char × List Char)
  | 0, _ => .error .endInText
  | fuel + 1, cs =>
    match cs with
    | [] => .error .endInText
    | '"' :: rest => .ok ([], rest)
    | '\\' :: [] => .error .endInText
    -- two escapes may make up one character, and then both are taken
    | '\\' :: 'u' :: rest => do
      let (c, rest) ← unicodeEscape rest
      let (s, rest) ← readText fuel rest
      .ok (c :: s, rest)
    | '\\' :: e :: rest =>
      match simpleEscape? e with
      | none => .error .badEscape
      | some c => do
        let (s, rest) ← readText fuel rest
        .ok (c :: s, rest)
    | c :: rest =>
      if c.toNat < 32 then .error .control
      else do
        let (s, rest) ← readText fuel rest
        .ok (c :: s, rest)

/-- What follows the closing quotation mark, when the characters inside are of no interest: halves
of surrogate pairs are not looked at. -/
def skipText : Nat → List Char → Except DraftFault (List Char)
  | 0, _ => .error .endInText
  | fuel + 1, cs =>
    match cs with
    | [] => .error .endInText
    | '"' :: rest => .ok rest
    | '\\' :: [] => .error .endInText
    | '\\' :: 'u' :: rest => do
      let (_, rest) ← hexEscape rest
      skipText fuel rest
    | '\\' :: e :: rest =>
      match simpleEscape? e with
      | none => .error .badEscape
      | some _ => skipText fuel rest
    | c :: rest => if c.toNat < 32 then .error .control else skipText fuel rest

/-! ## Numbers -/

/-- Digits gathered into a coefficient of at most 64 bits. -/
structure Gathered where
  coefficient : Nat
  /-- How many digits went into it. -/
  used : Nat
  /-- How many digits were left over when it was full. -/
  unused : Nat

/-- Adds digits to a coefficient until the next one would not fit into 64 bits. -/
def gather (coefficient : Nat) : List Char → Gathered
  | [] => ⟨coefficient, 0, 0⟩
  | d :: ds =>
    let next := 10 * coefficient + Decimal.digitValue d
    if (Word.unsigned 64).holds next then
      let g := gather next ds
      { g with used := g.used + 1 }
    else ⟨coefficient, 0, ds.length + 1⟩

def floatOf (negative : Bool) (coefficient : Nat) (power : Int) : Draft :=
  match Binary64.scaled negative coefficient power with
  | some x => .float x
  | none => .broken .hugeNumber

/-- The integer with the given digits; a float when it does not fit the integers of documents, which
run from minus two to the 63 up to two to the 64, less one. Minus zero is a float too. -/
def integerOf (negative : Bool) (ds : List Char) : Draft :=
  let g := gather 0 ds
  if g.unused = 0 then
    if !negative then .int g.coefficient
    else if g.coefficient ≠ 0 ∧ (Word.signed 64).holds (-g.coefficient) then .int (-g.coefficient)
    else floatOf true g.coefficient 0
  else floatOf negative g.coefficient g.unused

/-- The sign of an exponent, if it has one, as whether it is a minus. -/
def readSign : List Char → Bool × List Char
  | '+' :: rest => (false, rest)
  | '-' :: rest => (true, rest)
  | rest => (false, rest)

/-- The exponent after its letter: sign and digits. -/
def readExponent (cs : List Char) : Except DraftFault (Int × List Char) :=
  let (negative, cs) := readSign cs
  let ds := cs.takeWhile Decimal.isDigit
  if ds.isEmpty then
    if cs.isEmpty then .error .endInValue else .error .badNumber
  else
    let n : Int := Decimal.value ds
    .ok (if negative then -n else n, cs.dropWhile Decimal.isDigit)

/-- An exponent, if the text goes on with one. -/
def readExponent? (cs : List Char) : Except DraftFault (Option Int × List Char) :=
  match cs with
  | 'e' :: rest | 'E' :: rest => (readExponent rest).map fun (n, rest) => (some n, rest)
  | rest => .ok (none, rest)

/-- The float with digits before and behind the point and with an exponent. Digits that do not fit
the coefficient count as zeros before the point, and not at all behind it. -/
def floatWith (negative : Bool) (whole fraction : List Char) (power : Int) : Draft :=
  let g := gather 0 whole
  let h := gather g.coefficient fraction
  floatOf negative h.coefficient ((g.unused : Int) - h.used + power)

/-- A number from the end of its integer part on: perhaps a fraction and an exponent. Only a number
without the two is an integer. -/
def readFraction (negative : Bool) (whole rest : List Char) :
    Except DraftFault (Draft × List Char) := do
  match rest with
  | '.' :: rest =>
    let fraction := rest.takeWhile Decimal.isDigit
    let after := rest.dropWhile Decimal.isDigit
    if fraction.isEmpty then
      if after.isEmpty then .error .endInValue else .error .badNumber
    else
      let (power, after) ← readExponent? after
      .ok (floatWith negative whole fraction (power.getD 0), after)
  | rest =>
    match ← readExponent? rest with
    | (none, after) => .ok (integerOf negative whole, after)
    | (some power, after) => .ok (floatWith negative whole [] power, after)

/-- A number after its sign. Its integer part has no leading zeros. -/
def readNumber (negative : Bool) (cs : List Char) : Except DraftFault (Draft × List Char) :=
  let whole := match cs with
    | '0' :: _ => ['0']
    | _ => cs.takeWhile Decimal.isDigit
  let rest := cs.drop whole.length
  if whole.isEmpty then
    if cs.isEmpty then .error .endInValue else .error .badNumber
  else if whole = ['0'] ∧ (rest.head?.map Decimal.isDigit).getD false then .error .badNumber
  else readFraction negative whole rest

/-! ## Values -/

/-- The blanks that may stand between the parts of a document. -/
def isSpace (c : Char) : Bool := c == ' ' || c == '\n' || c == '\t' || c == '\r'

def skipSpace (cs : List Char) : List Char := cs.dropWhile isSpace

/-- What was read, and either the text that follows or the fault that ends the reading. -/
abbrev Step (α : Type) := α × Except DraftFault (List Char)

/-- A value that ends the reading. -/
def stop (f : DraftFault) : Step Draft := (.broken f, .error f)

/-- The rest of a word, of which the first letter has been read. -/
def readWord (value : Draft) : List Char → List Char → Step Draft
  | [], rest => (value, .ok rest)
  | _ :: _, [] => stop .endInValue
  | w :: ws, c :: rest => if w = c then readWord value ws rest else stop .badWord

/-- A text after its opening quotation mark, as a value. -/
def readTextValue (cs : List Char) : Step Draft :=
  match readText (cs.length + 1) cs with
  | .ok (s, rest) => (.text (String.ofList s), .ok rest)
  | .error f => (.broken f, skipText (cs.length + 1) cs)

def faultOf (next : Except DraftFault (List Char)) : Option DraftFault :=
  match next with
  | .ok _ => none
  | .error f => some f

mutual

def readValue : Nat → List Char → Step Draft
  | 0, _ => stop .endInValue
  | fuel + 1, cs =>
    match skipSpace cs with
    | [] => stop .endInValue
    | c :: rest =>
      match c with
      | 'n' => readWord .null ['u', 'l', 'l'] rest
      | 't' => readWord (.bool true) ['r', 'u', 'e'] rest
      | 'f' => readWord (.bool false) ['a', 'l', 's', 'e'] rest
      | '"' => readTextValue rest
      | '[' =>
        -- what stands before a fault is kept, since a typed reading may end there first
        let (items, next) := readItems fuel true rest
        (.list items (faultOf next), next)
      | '\x7b' =>
        let (members, next) := readMembers fuel true rest
        (.object members (faultOf next), next)
      | c =>
        if c = '-' ∨ Decimal.isDigit c then
          match (if c = '-' then readNumber true rest else readNumber false (c :: rest)) with
          | .ok (x, rest) => (x, .ok rest)
          | .error f => stop f
        else stop .noValue

/-- The items of a list; `first` tells whether the opening bracket stands right before. -/
def readItems : Nat → Bool → List Char → Step (List Draft)
  | 0, _, _ => ([], .error .endInList)
  | fuel + 1, first, cs =>
    let item (cs : List Char) : Step (List Draft) :=
      match readValue fuel cs with
      | (x, .error f) => ([x], .error f)
      | (x, .ok rest) =>
        let (xs, next) := readItems fuel false rest
        (x :: xs, next)
    match skipSpace cs with
    | [] => ([], .error .endInList)
    | ']' :: rest => ([], .ok rest)
    | c :: rest =>
      if first then item (c :: rest)
      else if c = ',' then
        match skipSpace rest with
        | [] => ([], .error .endInValue)
        | ']' :: _ => ([], .error .trailingComma)
        | rest => item rest
      else ([], .error .noListEnd)

/-- The members of an object; `first` tells whether the opening brace stands right before. -/
def readMembers : Nat → Bool → List Char → Step (List (String × Draft))
  | 0, _, _ => ([], .error .endInObject)
  | fuel + 1, first, cs =>
    let member (cs : List Char) : Step (List (String × Draft)) :=
      match skipSpace cs with
      | [] => ([], .error .endInValue)
      | '\x7d' :: _ => ([], .error .trailingComma)
      | '"' :: rest =>
        match readText (rest.length + 1) rest with
        | .error f => ([], .error f)
        | .ok (key, rest) =>
          let key := String.ofList key
          match skipSpace rest with
          -- the key has been read, so its member stays, with the fault in place of a value
          | [] => ([(key, .broken .endInObject)], .error .endInObject)
          | ':' :: rest =>
            match readValue fuel rest with
            | (x, .error f) => ([(key, x)], .error f)
            | (x, .ok rest) =>
              let (ms, next) := readMembers fuel false rest
              ((key, x) :: ms, next)
          | _ => ([(key, .broken .noColon)], .error .noColon)
      | _ => ([], .error .keyNotText)
    match skipSpace cs with
    | [] => ([], .error .endInObject)
    | '\x7d' :: rest => ([], .ok rest)
    | c :: rest =>
      -- a comma stands before every member but the first
      if first then member (c :: rest)
      else if c = ',' then member rest
      else ([], .error .noObjectEnd)

end

/-- The draft that a text holds, and the fault after it, if the text does not end there. Every call
of the readers but those that open a list or object takes a character away, so twice the length of
the text bounds their number. -/
def ofText (s : String) : Draft × Option DraftFault :=
  let cs := s.toList
  match readValue (2 * cs.length + 2) cs with
  | (d, .error f) => (d, some f)
  | (d, .ok rest) => (d, if (skipSpace rest).isEmpty then none else some .trailing)

end Draft

def Document.ofText (s : String) : Except DraftFault Document := do
  let (draft, fault) := Draft.ofText s
  let d ← draft.toDocument
  match fault with
  | some f => .error f
  | none => .ok d

end FabricAudit
