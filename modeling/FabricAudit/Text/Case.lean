import FabricAudit.Text.CaseTable

set_option autoImplicit false

/-! # Lowercase

Device output is matched without regard to case by lowering it first. The mapping is the full one of
the Unicode standard, with its two exceptions to the character-by-character rule: a capital I with a
dot becomes two characters, and a capital sigma takes its final form at the end of a word.
-/

namespace FabricAudit.Text

/-- The lowercase form of a character whose form is one character and does not depend on its
neighbours. ASCII needs no table. -/
def lowerChar (c : Char) : Char :=
  if c.toNat < 128 then
    if 'A' ≤ c ∧ c ≤ 'Z' then Char.ofNat (c.toNat + 32) else c
  else Char.ofNat (Shift.apply lowercaseShifts c.toNat)

/-- Whether the first character that is not ignored for case is a cased one. -/
def meetsCased : List Char → Bool
  | [] => false
  | c :: cs =>
    if caseIgnorableRanges.holds c.toNat then meetsCased cs else casedRanges.holds c.toNat

/-- The lowercase forms of the characters of a text; `before` holds the ones already read, the last
one first. -/
def lowerFrom (before : List Char) : List Char → List Char
  | [] => []
  | c :: cs =>
    (if c.toNat = 0x130 then ['i', Char.ofNat 0x307]
      else if c.toNat = 0x3A3 then
        [Char.ofNat (if meetsCased before && !meetsCased cs then 0x3C2 else 0x3C3)]
      else [lowerChar c]) ++ lowerFrom (c :: before) cs

def lower (s : String) : String := String.ofList (lowerFrom [] s.toList)

end FabricAudit.Text
