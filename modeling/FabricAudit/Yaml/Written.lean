import FabricAudit.Decimal.Shortest
import FabricAudit.Yaml.Node

set_option autoImplicit false

/-! # The written form of a YAML value

Collections are written as blocks, two columns deeper for each level; a sequence that is the value
of a plain key stands at the column of its key. Empty collections are written as `[]` and an empty
pair of braces. A key that is short and takes one line stands before its colon; any other key is
announced by a question mark.

A text is written plain if it reads back as the same text, else in single quotes, as a literal block
if it holds a line feed, or in double quotes if only escapes can write it. Lines are never folded.
-/

namespace FabricAudit.Yaml

/-- What has been written, and what the next part has to know of it. -/
structure Page where
  /-- The characters so far, the last one first. -/
  reversed : List Char
  /-- How many characters stand on the last line. -/
  column : Nat
  /-- Whether no blank is needed before the next word. -/
  spaced : Bool
  /-- Whether the last line holds nothing but indentation and block indicators. -/
  fresh : Bool

namespace Page

def empty : Page := ⟨[], 0, true, true⟩

def put (p : Page) (c : Char) : Page :=
  { p with reversed := c :: p.reversed, column := p.column + 1 }

def putBreak (p : Page) (c : Char) : Page := { p with reversed := c :: p.reversed, column := 0 }

def puts (p : Page) (cs : List Char) : Page := cs.foldl put p

/-- A blank, unless none is needed. -/
def space (p : Page) : Page := if p.spaced then p else p.put ' '

/-- Writes characters of which the line now holds more than indentation. -/
def word (p : Page) (cs : List Char) : Page := { p.puts cs with spaced := false, fresh := false }

/-- Goes to a column of a line that holds nothing but indentation and indicators. -/
def goTo (p : Page) (column : Nat) : Page :=
  let p :=
    if !p.fresh || column < p.column || (p.column == column && !p.spaced) then p.putBreak '\n'
    else p
  { p.puts (List.replicate (column - p.column) ' ') with spaced := true, fresh := true }

/-- Writes the indicator of a block, after which a blank or a block on the same line follows. -/
def blockIndicator (p : Page) (c : Char) : Page := { p.space.put c with spaced := false }

end Page

/-! ## Scalars -/

inductive Writing where
  | plain
  | single
  | double
  | literal
  deriving DecidableEq

/-- Characters that are written as they are. -/
def isPrintable (c : Char) : Bool :=
  let n := c.toNat
  n == 0x0A || (0x20 ≤ n && n ≤ 0x7E) || (0xA0 ≤ n && n != 0xFEFF && n != 0xFFFE && n != 0xFFFF)

/-- Characters that begin something other than a plain scalar. -/
def isIndicator (c : Char) : Bool :=
  ['#', ',', '[', ']', '\x7b', '\x7d', '&', '*', '!', '|', '>', '\'', '"', '%', '@',
    '\x60'].contains c

/-- Whether a blank, a line break or nothing comes next. -/
def blankNext : List Char → Bool
  | [] => true
  | c :: _ => c == ' ' || c == '\t' || c == '\x00' || isBreak c

/-- Whether the characters after the first hold a colon before a blank, or a number sign after one;
`afterBlank` tells of the character before. -/
def holdsMark : Bool → List Char → Bool
  | _, [] => false
  | afterBlank, c :: rest =>
    (c == ':' && blankNext rest) || (c == '#' && afterBlank) || holdsMark (blankNext [c]) rest

/-- Whether characters would be read as something other than a plain scalar. -/
def holdsIndicator (cs : List Char) : Bool :=
  match cs with
  | [] => false
  | c :: rest =>
    cs.take 3 == ['-', '-', '-'] || cs.take 3 == ['.', '.', '.'] || isIndicator c
      || ((c == '?' || c == ':' || c == '-') && blankNext rest) || holdsMark (blankNext [c]) rest

/-- Whether two characters next to each other satisfy `p`. -/
def adjacent (p : Char → Char → Bool) : List Char → Bool
  | a :: b :: rest => p a b || adjacent p (b :: rest)
  | _ => false

/-- Whether a text without a line feed is taken for a number or a word, if it is written plain. -/
def readsAsOther (s : String) : Bool :=
  Node.hasLeadingZero s.toList ||
    match Node.ofPlain s with
    | .ok (.text _) => false
    | _ => true

def writing (s : String) : Writing :=
  let cs := s.toList
  let broken := cs.any isBreak
  let breakThenSpace := adjacent (fun a b => isBreak a && b == ' ') cs
  let spaceThenBreak := adjacent (fun a b => a == ' ' && isBreak b) cs
  let special := cs.any (!isPrintable ·) || spaceThenBreak
  let outer := [cs.head?, cs.getLast?].any fun c =>
    (c.map fun c => c == ' ' || isBreak c).getD false
  let quoted := if special || breakThenSpace then Writing.double else .single
  if cs.contains '\n' then
    if special || cs.getLast? == some ' ' then .double else .literal
  else if cs.isEmpty || readsAsOther s then quoted
  else if outer || broken || special || holdsIndicator cs then quoted
  else .plain

def escaped (c : Char) : List Char :=
  let upper (n : Nat) : List Char := (Decimal.hexDigits n c.toNat).map Char.toUpper
  match c with
  | '\x00' => ['\\', '0']
  | '\x07' => ['\\', 'a']
  | '\x08' => ['\\', 'b']
  | '\t' => ['\\', 't']
  | '\n' => ['\\', 'n']
  | '\x0b' => ['\\', 'v']
  | '\x0c' => ['\\', 'f']
  | '\r' => ['\\', 'r']
  | '\x1b' => ['\\', 'e']
  | '"' => ['\\', '"']
  | '\\' => ['\\', '\\']
  | '\u0085' => ['\\', 'N']
  | '\u2028' => ['\\', 'L']
  | '\u2029' => ['\\', 'P']
  | c =>
    if isPrintable c then [c]
    else if c.toNat < 0x100 then '\\' :: 'x' :: upper 2
    else '\\' :: 'u' :: upper 4

/-- Writes the characters between single quotes. A line after a break is indented. -/
def putSingle (indent : Nat) : Bool → List Char → Page → Page
  | broken, [], p => if broken then p.goTo indent else p
  | broken, c :: rest, p =>
    if isBreak c then putSingle indent true rest { p.putBreak c with fresh := true }
    else
      let p := if broken then p.goTo indent else p
      let p := { (if c == '\'' then p.put c else p).put c with fresh := false }
      putSingle indent false rest p

def putLiteral (indent : Nat) : Bool → List Char → Page → Page
  | _, [], p => p
  | broken, c :: rest, p =>
    if isBreak c then putLiteral indent true rest { p.putBreak c with fresh := true }
    else
      let p := if broken then p.goTo indent else p
      putLiteral indent false rest { p.put c with fresh := false }

/-- The header of a literal block: the indentation if the text begins with a blank or a break, and
what becomes of the breaks at its end. -/
def literalHeader (cs : List Char) : List Char :=
  let hint := match cs with
    | c :: _ => if c == ' ' || isBreak c then ['2'] else []
    | [] => []
  let chomping := match cs.reverse with
    | [] => ['-']
    | [c] => if isBreak c then ['+'] else ['-']
    | c :: d :: _ => if !isBreak c then ['-'] else if isBreak d then ['+'] else []
  '|' :: (hint ++ chomping)

/-- Writes a text; lines after the first are indented to `indent`. -/
def putText (indent : Nat) (s : String) (p : Page) : Page :=
  let cs := s.toList
  match writing s with
  | .plain => p.space.word cs
  | .single => (putSingle indent false cs (p.space.word ['\''])).word ['\'']
  | .double => p.space.word (['"'] ++ cs.flatMap escaped ++ ['"'])
  | .literal =>
    let p := p.space.word (literalHeader cs)
    putLiteral indent true cs { p.putBreak '\n' with spaced := true, fresh := true }

/-- The shortest digits, positional from ten to the minus five up to ten to the sixteen. -/
def realLayout : Decimal.Layout := ⟨-5, 16, ""⟩

def Real.text : Real → String
  | .finite x => realLayout.text x
  | .infinite false => ".inf"
  | .infinite true => "-.inf"
  | .notANumber => ".nan"

/-- The word for a value that is neither text nor collection. -/
def Node.word : Node → String
  | .null => "null"
  | .bool true => "true"
  | .bool false => "false"
  | .int n => Decimal.ofInt n
  | .float x => x.text
  | .text s => s
  | _ => ""

/-! ## Collections -/

/-- The characters of a tag that stand for themselves. -/
def isTagCharacter (c : Char) : Bool :=
  isWordChar c ||
    [';', '/', '?', ':', '@', '&', '=', '+', '$', ',', '.', '~', '*', '\'', '(', ')', '[',
      ']'].contains c

/-- The octets of a character, each as a percent sign and two digits. -/
def percentOctets (c : Char) : List Char :=
  (String.utf8EncodeChar c).flatMap fun b =>
    '%' :: (Decimal.hexDigits 2 b.toNat).map Char.toUpper

def tagWord (tag : String) : List Char :=
  '!' :: tag.toList.flatMap fun c => if isTagCharacter c then [c] else percentOctets c

def putTag (tag : Option String) (p : Page) : Page :=
  match tag with
  | none => p
  | some t => p.space.word (tagWord t)

def tagLength (tag : Option String) : Nat := (tag.map fun t => t.utf8ByteSize + 1).getD 0

/-- Whether a key stands before its colon: it takes one line and at most 128 octets. -/
def isShortKey (tag : Option String) : Node → Bool
  | .tagged t n => isShortKey (some t) n
  | .sequence items => items.isEmpty && tagLength tag ≤ 128
  | .mapping pairs => pairs.isEmpty && tagLength tag ≤ 128
  | .text s => !s.toList.any isBreak && s.utf8ByteSize + tagLength tag ≤ 128
  | n => n.word.length + tagLength tag ≤ 128

/-- The column of what belongs to a collection at the given column; the outermost has none. -/
def deeper : Option Nat → Nat
  | none => 0
  | some n => n + 2

/-- The column of the further lines of a scalar inside a collection at the given column. -/
def scalarColumn : Option Nat → Nat
  | none => 2
  | some n => n + 2

mutual

/-- Writes a value inside a collection at `column`; `part` tells whether it is a key or value. -/
def putNode (column : Option Nat) (part : Bool) (tag : Option String) : Node → Page → Page
  | .tagged t n, p => putNode column part (some t) n p
  | .text s, p => putText (scalarColumn column) s (putTag tag p)
  | .sequence [], p => (putTag tag p).space.word ['[', ']']
  | .mapping [], p => (putTag tag p).space.word ['\x7b', '\x7d']
  | .sequence items, p =>
    let p := putTag tag p
    putItems (if part && !p.fresh then column.getD 0 else deeper column) items p
  | .mapping pairs, p => putPairs (deeper column) pairs (putTag tag p)
  | n, p => (putTag tag p).space.word n.word.toList

def putItems (column : Nat) : List Node → Page → Page
  | [], p => p
  | n :: rest, p =>
    putItems column rest (putNode (some column) false none n ((p.goTo column).blockIndicator '-'))

def putPairs (column : Nat) : List (Node × Node) → Page → Page
  | [], p => p
  | (k, v) :: rest, p =>
    let p := p.goTo column
    let p :=
      if isShortKey none k then (putNode (some column) true none k p).word [':']
      else
        let p := putNode (some column) true none k (p.blockIndicator '?')
        (p.goTo column).blockIndicator ':'
    putPairs column rest (putNode (some column) true none v p)

end

mutual

/-- Whether a value has a written form. A mapping whose only key has a local tag has none, unless it
has a tag itself: it could not be told from a tagged value. -/
def isWritable (tagged : Bool) : Node → Bool
  | .tagged _ n => isWritable true n
  | .sequence items => areWritable items
  | .mapping [(.tagged _ k, v)] => tagged && isWritable true k && isWritable false v
  | .mapping pairs => pairsWritable pairs
  | _ => true

def areWritable : List Node → Bool
  | [] => true
  | n :: rest => isWritable false n && areWritable rest

def pairsWritable : List (Node × Node) → Bool
  | [] => true
  | (k, v) :: rest => isWritable false k && isWritable false v && pairsWritable rest

end

/-- The written form of a value, which ends with a line feed. -/
def Node.written? (n : Node) : Option String :=
  if isWritable false n then
    some (String.ofList ((putNode none false none n Page.empty).goTo 0).reversed.reverse)
  else none

end FabricAudit.Yaml
