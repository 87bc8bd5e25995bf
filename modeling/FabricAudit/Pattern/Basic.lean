import FabricAudit.Pattern.Property
import FabricAudit.Pattern.Reading
import FabricAudit.Text.FoldTable

set_option autoImplicit false

/-! # Patterns

What a pattern means: sets of characters, conditions on the places between them, and sequences,
choices and repetitions of these. Flags are applied while a pattern is given its meaning; a flag
holds from where it is set to the end of its group.

A pattern is only ever asked whether it occurs in a text, so repetitions have no preferences, and
groups are nothing but brackets.

A pattern that is too large does not read. The size that counts is an estimate: a set of characters
is one part of it, however many ranges it has, so repetitions of large sets read here that would be
too large for an automaton over octets.
-/

namespace FabricAudit

/-- The meaning of a pattern. -/
inductive Pattern where
  /-- Matches between any two characters. -/
  | empty
  | one (set : Char → Bool)
  /-- Matches between two characters, of which either may be absent, if they satisfy a condition. -/
  | between (condition : Option Char → Option Char → Bool)
  | sequence (first second : Pattern)
  | choice (first second : Pattern)
  /-- Matches a number of times; without a bound, any number from the least on. -/
  | repeated (low : Nat) (high : Option Nat) (inner : Pattern)

namespace Pattern

/-- The flags that matter for the meaning. -/
structure Flags where
  /-- Letters match in either case. -/
  fold : Bool
  /-- Lines have beginnings and ends. -/
  lines : Bool
  /-- A dot matches line feeds too. -/
  dotAll : Bool
  /-- A carriage return ends lines as well. -/
  returns : Bool
  /-- Sets are those of the Unicode standard, and not of ASCII. -/
  unicode : Bool

def Flags.standard : Flags := ⟨false, false, false, false, true⟩

def Flags.change (f : Flags) (c : FlagChange) : Flags :=
  let set (flag : Char) (old : Bool) : Bool := (old || c.on.contains flag) && !c.off.contains flag
  ⟨set 'i' f.fold, set 'm' f.lines, set 's' f.dotAll, set 'R' f.returns, set 'u' f.unicode⟩

/-! ## Sets -/

def ranges (rs : List (Char × Char)) (c : Char) : Bool := rs.any fun r => r.1 ≤ c && c ≤ r.2

/-- The characters of ASCII in a class with a name. -/
def namedSet (name : String) : Char → Bool :=
  match name with
  | "alnum" => ranges [('0', '9'), ('A', 'Z'), ('a', 'z')]
  | "alpha" => ranges [('A', 'Z'), ('a', 'z')]
  | "ascii" => fun c => c.toNat < 128
  | "blank" => ranges [('\t', '\t'), (' ', ' ')]
  | "cntrl" => fun c => c.toNat < 32 || c.toNat == 127
  | "digit" => ranges [('0', '9')]
  | "graph" => ranges [('!', '~')]
  | "lower" => ranges [('a', 'z')]
  | "print" => ranges [(' ', '~')]
  | "punct" => ranges [('!', '/'), (':', '@'), ('[', '\x60'), ('\x7b', '~')]
  | "space" => ranges [('\t', '\r'), (' ', ' ')]
  | "upper" => ranges [('A', 'Z')]
  | "word" => ranges [('0', '9'), ('A', 'Z'), ('_', '_'), ('a', 'z')]
  | "xdigit" => ranges [('0', '9'), ('A', 'F'), ('a', 'f')]
  | _ => fun _ => false

def Shorthand.set (unicode : Bool) : Shorthand → Char → Bool
  | .digit => if unicode then fun c => Text.category c == "Nd" else namedSet "digit"
  | .space => if unicode then Text.isBlank else namedSet "space"
  | .word => if unicode then Text.isWordCharacter else namedSet "word"

/-- The characters that differ from one in the set in case only. -/
def folded (unicode : Bool) (set : Char → Bool) (c : Char) : Bool :=
  if unicode then (Text.caseOrbit c).any set
  else set c || (c.isLower && set c.toUpper) || (c.isUpper && set c.toLower)

/-- The set with characters of either case, if letters match in either case. -/
def Flags.foldSet (f : Flags) (set : Char → Bool) : Char → Bool :=
  if f.fold then folded f.unicode set else set

/-- A character in a class. Without the sets of the standard only ASCII can stand there. -/
def Flags.letterIn (f : Flags) (l : Letter) : Except PatternFault Char :=
  if f.unicode ∨ l.char.toNat < 128 then .ok l.char
  else if l.octet then .error .partialCharacter
  else .error .octetsOnly

/-- The complement of a set, if `negated`. Without the sets of the standard a complement would hold
octets that are parts of characters. -/
def Flags.negate (f : Flags) (negated : Bool) (set : Char → Bool) :
    Except PatternFault (Char → Bool) :=
  if !negated then .ok set
  else if f.unicode then .ok fun c => !set c
  else .error .partialCharacter

mutual

def classSet (f : Flags) : Class → Except PatternFault (Char → Bool)
  | .letter l => do
    let x ← f.letterIn l
    .ok fun c => c == x
  | .range low high => do
    let a ← f.letterIn low
    let b ← f.letterIn high
    .ok (ranges [(a, b)])
  -- case is folded before a set is negated, so that none of the forms of a letter is left in it
  | .named negated name => f.negate negated (f.foldSet (namedSet name))
  | .shorthand negated s => f.negate negated (s.set f.unicode)
  | .property negated p =>
    -- properties are of characters, and without Unicode only octets are meant
    if f.unicode then do f.negate negated (f.foldSet (← p.set))
    else .error .octetsOnly
  | .bracket negated inner => do f.negate negated (f.foldSet (← classSet f inner))
  | .any parts => partsSet f parts
  | .both l r => do
    let a := f.foldSet (← classSet f l)
    let b := f.foldSet (← classSet f r)
    .ok fun c => a c && b c
  | .without l r => do
    let a := f.foldSet (← classSet f l)
    let b := f.foldSet (← classSet f r)
    .ok fun c => a c && !b c
  | .either l r => do
    let a := f.foldSet (← classSet f l)
    let b := f.foldSet (← classSet f r)
    .ok fun c => a c != b c

def partsSet (f : Flags) : List Class → Except PatternFault (Char → Bool)
  | [] => .ok fun _ => false
  | p :: rest => do
    let a ← classSet f p
    let b ← partsSet f rest
    .ok fun c => a c || b c

end

def ofLetter (f : Flags) (l : Letter) : Except PatternFault Pattern :=
  if !f.unicode && l.octet && 128 ≤ l.char.toNat then .error .partialCharacter
  else .ok (.one (f.foldSet fun c => c == l.char))

def ofDot (f : Flags) : Except PatternFault Pattern :=
  if !f.unicode then .error .partialCharacter
  else if f.dotAll then .ok (.one fun _ => true)
  else .ok (.one fun c => c != '\n' && !(f.returns && c == '\r'))

/-! ## Places -/

def isWord (unicode : Bool) (c : Option Char) : Bool := c.any (Shorthand.word.set unicode)

/-- Whether a line begins between two characters. -/
def lineStarts (returns : Bool) (before after : Option Char) : Bool :=
  before == none || before == some '\n' ||
    (returns && before == some '\r' && after != some '\n')

def lineEnds (returns : Bool) (before after : Option Char) : Bool :=
  after == none || (after == some '\n' && !(returns && before == some '\r'))
    || (returns && after == some '\r')

def Look.condition (f : Flags) (l : Look) (before after : Option Char) : Bool :=
  let left := isWord f.unicode before
  let right := isWord f.unicode after
  match l with
  | .startText => before == none
  | .endText => after == none
  | .startLine => if f.lines then lineStarts f.returns before after else before == none
  | .endLine => if f.lines then lineEnds f.returns before after else after == none
  | .edge => left != right
  | .noEdge => left == right
  | .wordStart => !left && right
  | .wordEnd => left && !right
  | .noneBefore => !left
  | .noneAfter => !right

/-! ## The meaning of a pattern -/

mutual

/-- The meaning of a pattern under flags, and the flags after it. -/
def ofTree (f : Flags) : Tree → Except PatternFault (Pattern × Flags)
  | .letter l => do .ok (← ofLetter f l, f)
  | .dot => do .ok (← ofDot f, f)
  | .look l => .ok (.between (l.condition f), f)
  | .set c => do .ok (.one (← classSet f c), f)
  | .flags change => .ok (.empty, f.change change)
  | .group change inner => do
    let (p, _) ← ofTree (f.change change) inner
    .ok (p, f)
  | .repeated low high inner => do
    let (p, f) ← ofTree f inner
    .ok (.repeated low high p, f)
  | .sequence parts => ofParts f parts
  | .choice parts => ofBranches f parts

def ofParts (f : Flags) : List Tree → Except PatternFault (Pattern × Flags)
  | [] => .ok (.empty, f)
  | t :: rest => do
    let (p, f) ← ofTree f t
    let (q, f) ← ofParts f rest
    .ok (.sequence p q, f)

/-- The meaning of a choice. Flags set in one branch hold in the next ones too. -/
def ofBranches (f : Flags) : List Tree → Except PatternFault (Pattern × Flags)
  | [] => .ok (.one fun _ => false, f)
  | t :: rest => do
    let (p, f) ← ofTree f t
    let (q, f) ← ofBranches f rest
    .ok (.choice p q, f)

end

/-- Whether a pattern has a part that takes a character. -/
def takesCharacters : Pattern → Bool
  | .empty | .between _ => false
  | .one _ => true
  | .sequence p q | .choice p q => p.takesCharacters || q.takesCharacters
  | .repeated _ high p => high != some 0 && p.takesCharacters

/-- How many parts a pattern has, with its repetitions written out; a set is one part, whatever is in
it. To repeat what takes no characters is to do it once. -/
def size : Pattern → Nat
  | .empty => 0
  | .one _ | .between _ => 1
  | .sequence p q => p.size + q.size
  | .choice p q => p.size + q.size + 1
  | .repeated low high p =>
    let part := p.size
    if !p.takesCharacters then part
    else low * part + (high.map (· - low)).getD 1 * (part + 1)

def maxSize : Nat := 327680

def ofText (s : String) : Except PatternFault Pattern := do
  let (p, _) ← ofTree .standard (← Tree.ofText s)
  if maxSize < p.size then .error .tooLarge else .ok p

/-! ## Matching

A set of places in a text is a list of truth values, one more than there are characters. A pattern
leads from places to places, and matches somewhere if it leads from the set of all places to one
that is not empty. -/

abbrev Places := List Bool

def advance (set : Char → Bool) (cs : List Char) (places : Places) : Places :=
  false :: List.zipWith (fun c here => here && set c) cs places

/-- The places that satisfy a condition; `before` is the character before the first. -/
def keepWhere (condition : Option Char → Option Char → Bool) (before : Option Char) :
    List Char → Places → Places
  | _, [] => []
  | [], here :: rest => (here && condition before none) :: rest
  | c :: cs, here :: rest =>
    (here && condition before (some c)) :: keepWhere condition (some c) cs rest

def join (a b : Places) : Places := List.zipWith (· || ·) a b

def steps (step : Places → Places) : Nat → Places → Places
  | 0, places => places
  | n + 1, places => steps step n (step places)

def stepsUpTo (step : Places → Places) : Nat → Places → Places
  | 0, places => places
  | n + 1, places =>
    let more := join places (step places)
    if more == places then places else stepsUpTo step n more

/-- The places after a pattern. A repetition needs no more rounds than there are places: after that
many, a round that stays where it is must have been among them. -/
def reach (cs : List Char) : Pattern → Places → Places
  | .empty, places => places
  | .one set, places => advance set cs places
  | .between condition, places => keepWhere condition none cs places
  | .sequence p q, places => reach cs q (reach cs p places)
  | .choice p q, places => join (reach cs p places) (reach cs q places)
  | .repeated low high p, places =>
    let enough := cs.length + 2
    let first := steps (reach cs p) (min low enough) places
    stepsUpTo (reach cs p) (min ((high.map (· - low)).getD enough) enough) first

def occursIn (p : Pattern) (s : String) : Bool :=
  let cs := s.toList
  (reach cs p (List.replicate (cs.length + 1) true)).contains true

end Pattern

end FabricAudit
