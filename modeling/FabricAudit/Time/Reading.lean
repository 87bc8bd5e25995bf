import FabricAudit.Document.Reading
import FabricAudit.Text.Blank
import FabricAudit.Time.Timestamp

set_option autoImplicit false

/-! # Reading timestamps

The form that is read is wider than the one that is written. Numbers may lack their leading zeros,
blanks may stand between the parts, a blank may stand for the `T`, years outside of those with four
digits have a sign, digits of a second beyond the ninth are dropped, and the time may be that of any
offset of less than a day. A number out of its range is noticed where it stands; that a day does not
exist is noticed at the end. Every step gives what it read and the characters after it.
-/

namespace FabricAudit.Timestamp

def skipBlanks (cs : List Char) : List Char := cs.dropWhile Text.isBlank

def number (width : Nat) (cs : List Char) : Except TimeFault (Nat × List Char) :=
  match cs with
  | [] => .error .short
  | _ =>
    let ds := (cs.take width).takeWhile Decimal.isDigit
    if ds.isEmpty then .error .malformed else .ok (Decimal.value ds, cs.drop ds.length)

/-- A number of at most two digits between two limits. -/
def field (low high : Nat) (cs : List Char) : Except TimeFault (Nat × List Char) := do
  let (n, rest) ← number 2 (skipBlanks cs)
  if low ≤ n ∧ n ≤ high then .ok (n, rest) else .error .outOfRange

def mark (c : Char) (cs : List Char) : Except TimeFault (List Char) :=
  match skipBlanks cs with
  | [] => .error .short
  | d :: rest => if d = c then .ok rest else .error .malformed

/-- A year that fits a 32-bit word. -/
def wordYear (year : Int) (rest : List Char) : Except TimeFault (Int × List Char) :=
  if (Word.signed 32).holds year then .ok (year, rest) else .error .outOfRange

/-- A year: at most four digits, or a sign and any number of digits. -/
def yearField (cs : List Char) : Except TimeFault (Int × List Char) :=
  match skipBlanks cs with
  | '-' :: rest => do
    let (n, rest) ← number rest.length rest
    wordYear (-n) rest
  | '+' :: rest => do
    let (n, rest) ← number rest.length rest
    wordYear n rest
  | rest => do
    let (n, rest) ← number 4 rest
    wordYear n rest

def separator : List Char → Except TimeFault (List Char)
  | [] => .error .short
  | c :: rest => if c = 'T' ∨ c = 't' ∨ c = ' ' then .ok rest else .error .malformed

/-- The fraction of a second, in nanoseconds, if there is one. -/
def fraction : List Char → Except TimeFault (Nat × List Char)
  | '.' :: rest => do
    let ds := (rest.take 9).takeWhile Decimal.isDigit
    let (n, rest) ← number 9 rest
    .ok (n * Nat.pow 10 (9 - ds.length), rest.dropWhile Decimal.isDigit)
  | cs => .ok (0, cs)

/-- Two digits, the first of which is at most `high`. A digit above that is out of range. -/
def twoDigits (high : Char) : List Char → Except TimeFault (Nat × List Char)
  | c :: d :: rest =>
    if Decimal.isDigit c && Decimal.isDigit d then
      if c ≤ high then .ok (10 * Decimal.digitValue c + Decimal.digitValue d, rest)
      else .error .outOfRange
    else .error .malformed
  | [c] => .error (if c.toNat < 128 then .short else .malformed)
  | [] => .error .short

def offsetMinutes (cs : List Char) : Except TimeFault (Nat × List Char) := do
  let (hours, rest) ← twoDigits '9' cs
  let (minutes, rest) ← twoDigits '5' (rest.dropWhile fun c => c == ':' || Text.isBlank c)
  .ok (60 * hours + minutes, rest)

def offset (cs : List Char) : Except TimeFault (Int × List Char) :=
  if ((cs.take 3).map Char.toUpper) = ['U', 'T', 'C'] then .ok (0, cs.drop 3)
  else
    match cs with
    | [] => .error .short
    | c :: rest =>
      if c = 'Z' ∨ c = 'z' then .ok (0, rest)
      else if c = '+' then do
        let (n, rest) ← offsetMinutes rest
        .ok ((n : Int), rest)
      else if c = '-' ∨ c = '−' then do
        let (n, rest) ← offsetMinutes rest
        .ok (-(n : Int), rest)
      else .error .malformed

/-- The date that is `days` after another; a time of day is never more than a day off. -/
def shiftDate (d : Date) (days : Int) : Option Date :=
  if days < 0 then d.pred? else if 0 < days then d.succ? else some d

/-- The moment at which a clock with the given offset shows a time. -/
def atOffset (date : Date) (hour minute second nano : Nat) (offset : Int) :
    Except TimeFault Timestamp :=
  let minutes : Int := 60 * hour + minute - offset
  let ofDay := (minutes % 1440).toNat
  match shiftDate date (minutes / 1440) with
  | none => .error .impossible
  | some date =>
    match of? date (ofDay / 60) (ofDay % 60) second nano with
    | none => .error .outOfRange
    | some t => .ok t

def ofChars (cs : List Char) : Except TimeFault Timestamp := do
  let (year, cs) ← yearField cs
  let (month, cs) ← field 1 12 (← mark '-' cs)
  let (day, cs) ← field 1 31 (← mark '-' cs)
  let (hour, cs) ← field 0 23 (← separator cs)
  let (minute, cs) ← field 0 59 (← mark ':' cs)
  let (second, cs) ← field 0 60 (← mark ':' cs)
  let (nano, cs) ← fraction cs
  let (offset, cs) ← offset (skipBlanks cs)
  if !(skipBlanks cs).isEmpty then .error .trailing
  match Date.of? year month day with
  | none => .error .outOfRange
  | some date =>
    if offset.natAbs < 1440 then atOffset date hour minute second nano offset
    else .error .outOfRange

def reader : Reader Timestamp
  | .text s => (ofChars s.toList).mapError .time
  | d => .error (Reader.mismatch "an RFC 3339 formatted date and time string" d)

end FabricAudit.Timestamp
