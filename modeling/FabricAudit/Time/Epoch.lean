import FabricAudit.Time.Timestamp

set_option autoImplicit false

/-! # Clocks

The moment that a clock shows which counts from the beginning of 1970. Days are counted within
cycles of four hundred years, and years are taken to begin in March, so that the leap day is the
last one.
-/

namespace FabricAudit

/-- The date that is a number of days after the first of January 1970. -/
def Date.ofDays? (days : Int) : Option Date :=
  let fromMarch := days + 719468
  let cycle := fromMarch / 146097
  let dayOfCycle := (fromMarch % 146097).toNat
  let yearOfCycle :=
    (dayOfCycle - dayOfCycle / 1460 + dayOfCycle / 36524 - dayOfCycle / 146096) / 365
  let dayOfYear := dayOfCycle - (365 * yearOfCycle + yearOfCycle / 4 - yearOfCycle / 100)
  let monthFromMarch := (5 * dayOfYear + 2) / 153
  let month := if monthFromMarch < 10 then monthFromMarch + 3 else monthFromMarch - 9
  let year : Int := yearOfCycle + 400 * cycle + (if month ≤ 2 then 1 else 0)
  Date.of? year month (dayOfYear - (153 * monthFromMarch + 2) / 5 + 1)

/-- The moment that is a number of nanoseconds after the beginning of 1970. -/
def Timestamp.ofNanoseconds? (n : Int) : Option Timestamp := do
  let seconds := n / 1000000000
  let ofDay := (seconds % 86400).toNat
  let date ← Date.ofDays? (seconds / 86400)
  of? date (ofDay / 3600) (ofDay / 60 % 60) (ofDay % 60) (n % 1000000000).toNat

end FabricAudit
