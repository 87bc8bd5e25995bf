import FabricAudit.Decimal.Digits
import FabricAudit.Text.Search

set_option autoImplicit false

/-! # Sets of characters given by ranges

Properties of the Unicode standard are sorted lists of ranges of code points. Tables hold them as
compact texts: ranges in hexadecimal, separated by blanks, `41-5A` or a single `AA`. A case mapping
is a list of shifts: `41-5A>20` moves the range up by 20 (hexadecimal), `1F08-1F0F<8` moves it down,
and a slash after the range means every second character only.
-/

namespace FabricAudit.Text

/-- A sorted list of ranges of code points, both ends included. -/
abbrev Ranges := List (Nat × Nat)

/-- Membership; the list is sorted, so the search ends at the first range past `n`. -/
def Ranges.holds : Ranges → Nat → Bool
  | [], _ => false
  | (low, high) :: rest, n => if n < low then false else n ≤ high || Ranges.holds rest n

/-- A hexadecimal numeral of a table, zero if it is none. -/
def hexNumeral (cs : List Char) : Nat := (Decimal.inBase? 16 cs).getD 0

/-- One range, `41-5A` or `AA`. -/
def readRange (cs : List Char) : Nat × Nat :=
  match splitChars '-' cs with
  | [low, high] => (hexNumeral low, hexNumeral high)
  | _ => (hexNumeral cs, hexNumeral cs)

def tableEntries (table : List String) : List (List Char) :=
  table.flatMap fun line => splitChars ' ' line.toList

def Ranges.read (table : List String) : Ranges := (tableEntries table).map readRange

/-- Characters that are moved by one distance: those of a range, or every second of it. -/
structure Shift where
  low : Nat
  high : Nat
  /-- Distance from one moved character to the next. -/
  step : Nat
  /-- Whether they move to lower code points. -/
  down : Bool
  /-- How far they move. -/
  distance : Nat

def Shift.read (cs : List Char) : Shift :=
  let down := cs.contains '<'
  let (range, distance) :=
    match splitChars (if down then '<' else '>') cs with
    | [range, distance] => (range, distance)
    | _ => (cs, [])
  let second := range.contains '/'
  let (low, high) := readRange (range.filter (· != '/'))
  ⟨low, high, if second then 2 else 1, down, hexNumeral distance⟩

def Shift.readAll (table : List String) : List Shift := (tableEntries table).map Shift.read

/-- Where a table of sorted shifts moves `n`. -/
def Shift.apply : List Shift → Nat → Nat
  | [], n => n
  | s :: rest, n =>
    if n < s.low then n
    else if n ≤ s.high ∧ (n - s.low) % s.step = 0 then
      if s.down then n - s.distance else n + s.distance
    else Shift.apply rest n

end FabricAudit.Text
