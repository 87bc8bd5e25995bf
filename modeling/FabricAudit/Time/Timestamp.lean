import FabricAudit.Decimal.Digits
import FabricAudit.Time.Calendar

set_option autoImplicit false

/-! # Timestamps

A moment in universal time, to the nanosecond. Any minute may have a second 60, as minutes with a
leap second do. The written form has as many places of a second as are needed, in groups of three.
-/

namespace FabricAudit

def isClock (hour minute second nano : Nat) : Bool :=
  hour < 24 && minute < 60 && second ≤ 60 && nano < 1000000000

/-- A moment in universal time. -/
structure Timestamp where
  date : Date
  hour : Nat
  minute : Nat
  second : Nat
  nano : Nat
  onClock : isClock hour minute second nano = true
  deriving DecidableEq, Repr

namespace Timestamp

/-- The moment of a date and a time of day, if a clock may show it. -/
def of? (date : Date) (hour minute second nano : Nat) : Option Timestamp :=
  if h : isClock hour minute second nano = true then some ⟨date, hour, minute, second, nano, h⟩
  else none

/-- The beginning of the year 1970. -/
def epoch : Timestamp := ⟨⟨1970, 1, 1, by decide⟩, 0, 0, 0, 0, by decide⟩

/-- A year as it is written: with four digits, and with a sign outside of those that have four. -/
def yearText (year : Int) : String :=
  if 0 ≤ year ∧ year ≤ 9999 then Decimal.padded 4 year.toNat
  else (if year < 0 then "-" else "+") ++ Decimal.padded 4 year.natAbs

def fractionText (nano : Nat) : String :=
  if nano = 0 then ""
  else if nano % 1000000 = 0 then "." ++ Decimal.padded 3 (nano / 1000000)
  else if nano % 1000 = 0 then "." ++ Decimal.padded 6 (nano / 1000)
  else "." ++ Decimal.padded 9 nano

def toText (t : Timestamp) : String :=
  yearText t.date.year ++ "-" ++ Decimal.padded 2 t.date.month ++ "-" ++ Decimal.padded 2 t.date.day
    ++ "T" ++ Decimal.padded 2 t.hour ++ ":" ++ Decimal.padded 2 t.minute ++ ":"
    ++ Decimal.padded 2 t.second ++ fractionText t.nano ++ "Z"

end Timestamp

end FabricAudit
