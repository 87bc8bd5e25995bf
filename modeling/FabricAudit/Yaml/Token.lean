import FabricAudit.Text.Utf8
import FabricAudit.Yaml.Scalar

set_option autoImplicit false

/-! # Tokens of a YAML text

A YAML text is cut into tokens. Besides those that stand in the text there are four that the layout
implies: a block sequence or mapping begins where a line is indented deeper than the block around it
and ends where a line is not. A key need not be announced; when a colon turns up behind something
that may be a key, the tokens that announce it are inserted before that. `Candidate` is such a
place. A candidate lapses at the end of its line, or after 1024 characters.
-/

namespace FabricAudit.Yaml

inductive Style where
  | plain
  | quoted
  | block
  deriving DecidableEq, Repr

inductive Token where
  | version (major minor : Nat)
  | tagDirective (handle start : String)
  | documentStart
  | documentEnd
  | sequenceStart
  | mappingStart
  | blockEnd
  | flowSequenceStart
  | flowSequenceEnd
  | flowMappingStart
  | flowMappingEnd
  | entry
  | flowEntry
  | key
  | value
  | alias (name : String)
  | anchor (name : String)
  | tag (handle suffix : String)
  | scalar (text : String) (style : Style)
  deriving DecidableEq, Repr

/-- A place where a key may have begun. -/
structure Candidate where
  /-- Whether a colon must follow, because the place is at the indentation of a block. -/
  required : Bool
  /-- How many tokens stand before it. -/
  position : Nat
  mark : Cursor

structure Scanner where
  cursor : Cursor
  tokens : Array Token
  /-- The column of the innermost block, minus one outside all blocks. -/
  indent : Int
  /-- The columns of the blocks around it, innermost first. -/
  indents : List Int
  keyAllowed : Bool
  /-- The candidate at each level of flow collections, innermost first. The last one is that of the
  block level. -/
  candidates : List (Option Candidate)

namespace Scanner

def start (cs : List Char) : Scanner :=
  ⟨⟨cs, 0, 0, 0⟩, #[], -1, [], true, [none]⟩

/-- Whether the reading is inside a flow collection. -/
def inFlow (s : Scanner) : Bool := 1 < s.candidates.length

def push (s : Scanner) (t : Token) : Scanner := { s with tokens := s.tokens.push t }

def insertAt (s : Scanner) (position : Nat) (t : Token) : Scanner :=
  { s with tokens := s.tokens.extract 0 position |>.push t
      |>.append (s.tokens.extract position s.tokens.size) }

def moveTo (s : Scanner) (c : Cursor) : Scanner := { s with cursor := c }

/-- Drops the candidate of the present level, which must not be a required one. -/
def dropCandidate (s : Scanner) : Scan Scanner :=
  match s.candidates with
  | some k :: rest =>
    if k.required then .error .noColon else .ok { s with candidates := none :: rest }
  | _ => .ok s

/-- Notes that a key may begin here, if one may. -/
def saveCandidate (s : Scanner) : Scan Scanner := do
  if s.keyAllowed then
    let s ← s.dropCandidate
    let required := !s.inFlow && s.indent == s.cursor.column
    .ok { s with candidates := some ⟨required, s.tokens.size, s.cursor⟩ :: s.candidates.drop 1 }
  else .ok s

/-- Whether a candidate is still on its line and not too far back. -/
def Candidate.fresh (k : Candidate) (c : Cursor) : Bool :=
  k.mark.line == c.line && c.index ≤ k.mark.index + 1024

/-- Drops the candidates that have lapsed; a required one may not lapse. -/
def dropLapsed (s : Scanner) : Scan Scanner := do
  let candidates ← s.candidates.mapM fun k? =>
    match k? with
    | some k =>
      if Candidate.fresh k s.cursor then .ok (some k)
      else if k.required then .error .noColon
      else .ok none
    | none => .ok none
  .ok { s with candidates }

/-- Begins a block at a column that is deeper than the block around it. Its token is inserted before
those from `position` on. -/
def openBlock (s : Scanner) (column : Nat) (position : Nat) (t : Token) : Scanner :=
  if !s.inFlow ∧ s.indent < column then
    { s with indents := s.indent :: s.indents, indent := column }.insertAt position t
  else s

/-- Ends the blocks that are deeper than a column. -/
def closeBlocks (s : Scanner) (column : Int) : Scanner :=
  if s.inFlow then s
  else
    let rec close : List Int → Int → Array Token → Scanner
      | [], indent, tokens => { s with indent, indents := [], tokens }
      | outer :: rest, indent, tokens =>
        if column < indent then close rest outer (tokens.push .blockEnd)
        else { s with indent, indents := outer :: rest, tokens }
    close s.indents s.indent s.tokens

/-- Passes blanks, comments and line breaks. A new line outside flow collections may begin a key. A
tab may not stand where a key may begin. -/
def toNextToken : Nat → Scanner → Scanner
  | 0, s => s
  | fuel + 1, s =>
    let c := s.cursor
    let c := if c.column = 0 ∧ (c.peek.map Char.toNat) = some 0xFEFF then c.skip 1 else c
    let tabs := s.inFlow || !s.keyAllowed
    let c := (c.dropWhile fun x => x == ' ' || (tabs && x == '\t')).skipComment
    if c.seesBreak then
      toNextToken fuel { s with cursor := c.skipBreak, keyAllowed := s.keyAllowed || !s.inFlow }
    else s.moveTo c

/-! ## Directives, anchors and tags -/

def versionNumber (c : Cursor) : Scan (Nat × Cursor) :=
  let (ds, c) := c.takeWhile Decimal.isDigit
  if ds.isEmpty ∨ 9 < ds.length then .error .badDirective else .ok (Decimal.value ds, c)

/-- The handle of a tag: an exclamation mark, or a word between two. In a directive nothing else is
allowed; elsewhere the second mark may be missing. -/
def tagHandle (directive : Bool) (c : Cursor) : Scan (List Char × Cursor) :=
  if !c.sees '!' then .error .badTag
  else
    let (word, c) := (c.skip 1).takeWhile isWordChar
    if c.sees '!' then .ok ('!' :: word ++ ['!'], c.skip 1)
    else if directive ∧ !word.isEmpty then .error .badTag
    else .ok ('!' :: word, c)

/-- Whether a character may stand in a tag. Inside angle brackets the characters of flow collections
may as well. -/
def isTagChar (verbatim : Bool) (x : Char) : Bool :=
  isWordChar x || ";/?:@&=+$.%!~*'()".toList.contains x
    || (verbatim && (x == ',' || x == '[' || x == ']'))

/-- The octets of a run of escapes, each a percent sign and two hexadecimal digits. -/
def tagOctets : Nat → Cursor → Scan (List Nat × Cursor)
  | 0, c => .ok ([], c)
  | count + 1, c =>
    match c.rest with
    | '%' :: a :: b :: _ =>
      match Decimal.inBase? 16 [a, b] with
      | some n => do
        let (ns, c) ← tagOctets count (c.skip 3)
        .ok (n :: ns, c)
      | none => .error .badTag
    | _ => .error .badTag

/-- One character of a tag that is written by escapes. -/
def tagEscape (c : Cursor) : Scan (List Char × Cursor) := do
  let (first, _) ← tagOctets 1 c
  let count := match first with
    | [n] => if n < 0x80 then 1 else if n < 0xC0 then 0 else if n < 0xE0 then 2
      else if n < 0xF0 then 3 else if n < 0xF8 then 4 else 0
    | _ => 0
  if count = 0 then .error .badTag
  else do
    let (octets, c) ← tagOctets count c
    match Text.decode? octets with
    | some s => .ok (s.toList, c)
    | none => .error .badTag

def tagChars (verbatim : Bool) : Nat → Cursor → Scan (List Char × Cursor)
  | 0, c => .ok ([], c)
  | fuel + 1, c =>
    match c.peek with
    | none => .ok ([], c)
    | some x =>
      if !isTagChar verbatim x then .ok ([], c)
      else do
        let (xs, after) ← if x = '%' then tagEscape c else .ok ([x], c.skip 1)
        let (rest, after) ← tagChars verbatim fuel after
        .ok (xs ++ rest, after)

/-- A tag: verbatim in angle brackets, or a handle with a suffix, or an exclamation mark with a
suffix; a mark alone is a suffix without a handle. -/
def readTag (flow : Bool) (c : Cursor) : Scan (Token × Cursor) := do
  let (handle, suffix, c) ←
    if c.peekAt 1 = some '<' then do
      let (suffix, c) ← tagChars true (c.rest.length + 1) (c.skip 2)
      if suffix.isEmpty ∨ !c.sees '>' then .error .badTag
      else .ok ([], suffix, c.skip 1)
    else do
      let (handle, c) ← tagHandle false c
      if 1 < handle.length ∧ handle.getLast? = some '!' then
        let (suffix, c) ← tagChars false (c.rest.length + 1) c
        if suffix.isEmpty then .error .badTag else .ok (handle, suffix, c)
      else
        let (more, c) ← tagChars false (c.rest.length + 1) c
        let suffix := handle.drop 1 ++ more
        if suffix.isEmpty then .ok ([], ['!'], c) else .ok (['!'], suffix, c)
  if (flow && c.sees ',') || c.spaceAt 0 then
    .ok (.tag (String.ofList handle) (String.ofList suffix), c)
  else .error .badTag

/-- An anchor or alias after its mark. -/
def readName (c : Cursor) : Scan (String × Cursor) :=
  let (word, c) := (c.skip 1).takeWhile isWordChar
  let ends := match c.peek with
    | none => true
    | some x => isBlank x || isBreak x || "?:,]\x7d%@\x60".toList.contains x
  if word.isEmpty || !ends then .error .badAnchor else .ok (String.ofList word, c)

/-- A directive: the version of the language, or a handle for tags. -/
def readDirective (c : Cursor) : Scan (Token × Cursor) := do
  let (name, c) := (c.skip 1).takeWhile isWordChar
  if name.isEmpty ∨ !c.spaceAt 0 then .error .badDirective
  else
    let (token, c) ←
      if name = "YAML".toList then do
        let (major, c) ← versionNumber (c.dropWhile isBlank)
        if !c.sees '.' then .error .badDirective
        else do
          let (minor, c) ← versionNumber (c.skip 1)
          .ok (Token.version major minor, c)
      else if name = "TAG".toList then do
        let (handle, c) ← tagHandle true (c.dropWhile isBlank)
        if !c.seesBlank then .error .badDirective
        else do
          let (start, c) ← tagChars true (c.rest.length + 1) (c.dropWhile isBlank)
          if start.isEmpty ∨ !c.spaceAt 0 then .error .badDirective
          else .ok (Token.tagDirective (String.ofList handle) (String.ofList start), c)
      else .error .badDirective
    let c := (c.dropWhile isBlank).skipComment
    if c.atLineEnd then .ok (token, c.skipBreak) else .error .badDirective

/-! ## One token -/

def closeAll (s : Scanner) : Scan Scanner := do
  let s ← (s.closeBlocks (-1)).dropCandidate
  .ok { s with keyAllowed := false }

/-- A token of `width` characters that begins a flow collection. -/
def openFlow (s : Scanner) (t : Token) : Scan Scanner := do
  let s ← s.saveCandidate
  let s := { s with candidates := none :: s.candidates, keyAllowed := true }
  .ok ((s.moveTo (s.cursor.skip 1)).push t)

def closeFlow (s : Scanner) (t : Token) : Scan Scanner := do
  let s ← s.dropCandidate
  let outer := if s.inFlow then s.candidates.drop 1 else s.candidates
  .ok ({ s with candidates := outer, keyAllowed := false, cursor := s.cursor.skip 1 }.push t)

def readEntry (s : Scanner) : Scan Scanner := do
  if !s.inFlow && !s.keyAllowed then .error .misplacedIndicator
  else
    let s := s.openBlock s.cursor.column s.tokens.size .sequenceStart
    let s ← s.dropCandidate
    .ok ({ s with keyAllowed := true, cursor := s.cursor.skip 1 }.push .entry)

def readKey (s : Scanner) : Scan Scanner := do
  if !s.inFlow && !s.keyAllowed then .error .misplacedIndicator
  else
    let s := s.openBlock s.cursor.column s.tokens.size .mappingStart
    let s ← s.dropCandidate
    .ok ({ s with keyAllowed := !s.inFlow, cursor := s.cursor.skip 1 }.push .key)

/-- The colon of a value. With a candidate the key is announced there, and a mapping if the
candidate is deeper than the block around it. -/
def readValue (s : Scanner) : Scan Scanner :=
  match s.candidates with
  | some k :: rest =>
    let s := (s.insertAt k.position .key).openBlock k.mark.column k.position .mappingStart
    let s := { s with candidates := none :: rest, keyAllowed := false }
    .ok ((s.moveTo (s.cursor.skip 1)).push .value)
  | _ =>
    if !s.inFlow && !s.keyAllowed then .error .misplacedIndicator
    else
      let s := s.openBlock s.cursor.column s.tokens.size .mappingStart
      .ok ({ s with keyAllowed := !s.inFlow, cursor := s.cursor.skip 1 }.push .value)

/-- A token that may be a key, and after which none may begin. -/
def readPossibleKey (s : Scanner) (read : Cursor → Scan (Token × Cursor)) : Scan Scanner := do
  let s ← s.saveCandidate
  let (t, c) ← read s.cursor
  .ok ({ s with keyAllowed := false, cursor := c }.push t)

/-- A plain scalar. After one that ends with a line break a key may begin. -/
def readPlainToken (s : Scanner) : Scan Scanner := do
  let s ← s.saveCandidate
  let (text, broken, c) ← readPlain s.inFlow (s.indent + 1).toNat s.cursor
  .ok ({ s with keyAllowed := broken, cursor := c }.push (.scalar (String.ofList text) .plain))

def readBlockToken (s : Scanner) (literal : Bool) : Scan Scanner := do
  let s ← s.dropCandidate
  let (text, c) ← readBlock literal s.indent s.cursor
  .ok ({ s with keyAllowed := true, cursor := c }.push (.scalar (String.ofList text) .block))

def beginsPlain (s : Scanner) (x : Char) : Bool :=
  let c := s.cursor
  !(isBlank x || isBreak x || "-?:,[]\x7b\x7d#&*!|>'\"%@\x60".toList.contains x)
    || (x == '-' && !((c.peekAt 1).map isBlank).getD false)
    || (!s.inFlow && (x == '?' || x == ':') && !c.spaceAt 1)

def readToken (s : Scanner) (x : Char) : Scan Scanner :=
  let c := s.cursor
  let flow := s.inFlow
  -- directives and marks of documents end all blocks
  if c.column = 0 ∧ x = '%' then do
    let s ← s.closeAll
    let (t, c) ← readDirective s.cursor
    .ok ((s.moveTo c).push t)
  else if c.atDocumentMark then do
    let s ← s.closeAll
    .ok ((s.moveTo (c.skip 3)).push (if x = '-' then .documentStart else .documentEnd))
  else if x = '[' then s.openFlow .flowSequenceStart
  else if x = '\x7b' then s.openFlow .flowMappingStart
  else if x = ']' then s.closeFlow .flowSequenceEnd
  else if x = '\x7d' then s.closeFlow .flowMappingEnd
  else if x = ',' then do
    let s ← s.dropCandidate
    .ok ({ s with keyAllowed := true, cursor := c.skip 1 }.push .flowEntry)
  -- outside of flow collections these three need a blank behind them
  else if x = '-' ∧ c.spaceAt 1 then s.readEntry
  else if x = '?' ∧ (flow ∨ c.spaceAt 1) then s.readKey
  else if x = ':' ∧ (flow ∨ c.spaceAt 1) then s.readValue
  else if x = '*' then s.readPossibleKey fun c => (readName c).map fun (n, c) => (.alias n, c)
  else if x = '&' then s.readPossibleKey fun c => (readName c).map fun (n, c) => (.anchor n, c)
  else if x = '!' then s.readPossibleKey (readTag flow)
  else if x = '|' ∧ !flow then s.readBlockToken true
  else if x = '>' ∧ !flow then s.readBlockToken false
  else if x = '\'' ∨ x = '"' then
    s.readPossibleKey fun c => (readQuoted (x = '\'') c).map fun (text, c) =>
      (.scalar (String.ofList text) .quoted, c)
  else if s.beginsPlain x then s.readPlainToken
  else .error .badToken

def readAll : Nat → Scanner → Scan (List Token)
  | 0, s => .ok s.tokens.toList
  | fuel + 1, s => do
    let s := toNextToken (s.cursor.rest.length + 1) s
    let s ← s.dropLapsed
    let s := s.closeBlocks s.cursor.column
    match s.cursor.peek with
    | none =>
      let s ← s.closeAll
      .ok s.tokens.toList
    | some x => readAll fuel (← s.readToken x)

end Scanner

def isAllowed (c : Char) : Bool :=
  let n := c.toNat
  n == 9 || n == 10 || n == 13 || (0x20 ≤ n && n ≤ 0x7E) || n == 0x85
    || (0xA0 ≤ n && n ≤ 0xFFFD) || 0x10000 ≤ n

/-- The tokens of a text. A byte order mark before it is passed over. Every token but the last takes
a character away, so the length of the text bounds their number. -/
def Token.ofText (s : String) : Scan (List Token) :=
  let cs := match s.toList with
    | c :: rest => if c.toNat = 0xFEFF then rest else c :: rest
    | [] => []
  if cs.all isAllowed then Scanner.readAll (cs.length + 1) (Scanner.start cs)
  else .error .badCharacter

end FabricAudit.Yaml
