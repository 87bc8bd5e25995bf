set_option autoImplicit false

/-! # Decimal and hexadecimal numerals

Writing a natural number or an integer in base ten, reading one back, and the hexadecimal digits
that escapes and digests use. Numerals are the plain ones: no sign on a natural number, no leading
zeros, a minus sign before a negative integer.
-/

namespace FabricAudit.Decimal

/-- The digit for `n`, for `n` below sixteen; the letters are small. -/
def digitChar (n : Nat) : Char :=
  if n < 10 then Char.ofNat (48 + n) else Char.ofNat (87 + n)

def digits (n : Nat) : List Char :=
  if n < 10 then [digitChar n] else digits (n / 10) ++ [digitChar (n % 10)]
termination_by n
decreasing_by omega

def ofNat (n : Nat) : String := String.ofList (digits n)

/-- The decimal numeral of an integer, with a minus sign when it is negative. -/
def ofInt (n : Int) : String :=
  match n with
  | .ofNat m => ofNat m
  | .negSucc m => "-" ++ ofNat (m + 1)

/-- Whether `c` is one of the ten ASCII digits. -/
def isDigit (c : Char) : Bool := '0' ≤ c && c ≤ '9'

def digitValue (c : Char) : Nat := c.toNat - 48

/-- The number a run of decimal digits denotes. -/
def value (cs : List Char) : Nat := cs.foldl (fun n c => 10 * n + digitValue c) 0

/-- The number a text of decimal digits denotes; `none` for an empty text and for anything but
digits. -/
def toNat? (cs : List Char) : Option Nat :=
  if cs.isEmpty || !cs.all isDigit then none else some (value cs)

/-- The value of a digit in base sixteen, small or capital. -/
def hexValue? (c : Char) : Option Nat :=
  if '0' ≤ c ∧ c ≤ '9' then some (c.toNat - 48)
  else if 'a' ≤ c ∧ c ≤ 'f' then some (c.toNat - 87)
  else if 'A' ≤ c ∧ c ≤ 'F' then some (c.toNat - 55)
  else none

/-- The number that digits in `base` (at most sixteen) denote; `none` for an empty text or a
character that is no digit of that base. -/
def inBase? (base : Nat) (cs : List Char) : Option Nat :=
  if cs.isEmpty then none
  else cs.foldlM (fun n c => do
    let d ← hexValue? c
    if d < base then some (base * n + d) else none) 0

/-- The lowest `width` hexadecimal digits of `n`. -/
def hexDigits : Nat → Nat → List Char
  | 0, _ => []
  | width + 1, n => hexDigits width (n / 16) ++ [digitChar (n % 16)]

/-- The hexadecimal numeral of `n`, without leading zeros. -/
def hex (n : Nat) : List Char :=
  if n < 16 then [digitChar n] else hex (n / 16) ++ [digitChar (n % 16)]
termination_by n
decreasing_by omega

/-- The numeral of `n` with zeros in front until it has `width` digits. -/
def padded (width n : Nat) : String :=
  let ds := digits n
  String.ofList (List.replicate (width - ds.length) '0' ++ ds)

end FabricAudit.Decimal
