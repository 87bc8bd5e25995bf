import FabricAudit.Pattern.Tree
import FabricAudit.Text.Blank
import FabricAudit.Text.CategoryTable
import FabricAudit.Text.ScriptTable
import FabricAudit.Text.Search

set_option autoImplicit false

/-! # Properties of characters

The properties of the Unicode standard that a pattern can name: general categories, scripts, and
those that a character has or has not. In names neither case nor separators count.

The tables are not complete. Of the properties that a character has or has not there are seven:
being alphabetic, a capital, a small letter, a blank, a hexadecimal digit, one of ASCII, and a
control of joining. There are none for the age of a character and for the bounds of graphemes, words
and sentences, and the extensions of a script are taken to be the script. A pattern that names
another property does not read, and nothing is said of it here.
-/

namespace FabricAudit.Pattern

/-- The names of general categories, and the letters that their short names begin with. -/
def categoryNames : List (List String × List String) := [
  (["lu", "uppercaseletter"], ["Lu"]), (["ll", "lowercaseletter"], ["Ll"]),
  (["lt", "titlecaseletter"], ["Lt"]), (["lc", "casedletter"], ["Lu", "Ll", "Lt"]),
  (["lm", "modifierletter"], ["Lm"]), (["lo", "otherletter"], ["Lo"]), (["l", "letter"], ["L"]),
  (["mn", "nonspacingmark"], ["Mn"]), (["mc", "spacingmark"], ["Mc"]),
  (["me", "enclosingmark"], ["Me"]), (["m", "mark", "combiningmark"], ["M"]),
  (["nd", "decimalnumber", "digit"], ["Nd"]), (["nl", "letternumber"], ["Nl"]),
  (["no", "othernumber"], ["No"]), (["n", "number"], ["N"]),
  (["pc", "connectorpunctuation"], ["Pc"]), (["pd", "dashpunctuation"], ["Pd"]),
  (["ps", "openpunctuation"], ["Ps"]), (["pe", "closepunctuation"], ["Pe"]),
  (["pi", "initialpunctuation"], ["Pi"]), (["pf", "finalpunctuation"], ["Pf"]),
  (["po", "otherpunctuation"], ["Po"]), (["p", "punctuation", "punct"], ["P"]),
  (["sm", "mathsymbol"], ["Sm"]), (["sc", "currencysymbol"], ["Sc"]),
  (["sk", "modifiersymbol"], ["Sk"]), (["so", "othersymbol"], ["So"]), (["s", "symbol"], ["S"]),
  (["zs", "spaceseparator"], ["Zs"]), (["zl", "lineseparator"], ["Zl"]),
  (["zp", "paragraphseparator"], ["Zp"]), (["z", "separator"], ["Z"]),
  (["cc", "control", "cntrl"], ["Cc"]), (["cf", "format"], ["Cf"]),
  (["cs", "surrogate"], ["Cs"]), (["co", "privateuse"], ["Co"]), (["cn", "unassigned"], ["Cn"]),
  (["c", "other"], ["C"])]

def category? (name : String) : Option (Char → Bool) :=
  match name with
  | "any" => some fun _ => true
  | "assigned" => some fun c => Text.category c != "Cn"
  | "ascii" => some fun c => c.toNat < 128
  | name =>
    (categoryNames.find? fun entry => entry.1.contains name).map fun entry c =>
      entry.2.any (Text.startsWith (Text.category c))

/-- The characters with the property of the given name, which they have or have not; the names of
other such properties are not known. -/
def binary? (name : String) : Option (Char → Bool) :=
  match name with
  | "alphabetic" | "alpha" => some Text.isAlphabetic
  | "uppercase" | "upper" => some Text.isUppercase
  | "lowercase" | "lower" => some Text.isLowercase
  | "whitespace" | "wspace" | "space" => some Text.isBlank
  | "hexdigit" | "hex" => some fun c =>
    let n := c.toNat
    let n := if 0xFF00 < n ∧ n < 0xFF5F then n - 0xFEE0 else n
    (0x30 ≤ n && n ≤ 0x39) || (0x41 ≤ n && n ≤ 0x46) || (0x61 ≤ n && n ≤ 0x66)
  | "asciihexdigit" | "ahex" => some fun c =>
    let n := c.toNat
    (0x30 ≤ n && n ≤ 0x39) || (0x41 ≤ n && n ≤ 0x46) || (0x61 ≤ n && n ≤ 0x66)
  | "joincontrol" | "joinc" => some fun c => c.toNat == 0x200C || c.toNat == 0x200D
  | _ => none

def scriptSet? (name : String) : Option (Char → Bool) :=
  (Text.script? name).map fun ranges c => ranges.holds c.toNat

/-- A name without what does not count: the word `is` before it, blanks, dashes, underscores, the
case of letters, and everything that is not ASCII. -/
def plainName (s : String) : String :=
  let cs := s.toList.map Char.toLower
  let is := ['i', 's'].isPrefixOf cs
  let kept := (if is then cs.drop 2 else cs).filter fun c =>
    c.toNat < 128 && c != ' ' && c != '-' && c != '_'
  if is && kept == ['c'] then "isc" else String.ofList kept

/-- The characters that a property holds of. Extensions of scripts count as the scripts. -/
def Property.set (p : Property) : Except PatternFault (Char → Bool) :=
  let name := plainName p.name
  let found : Option (Char → Bool) :=
    match p.value with
    | none =>
      if name = "cf" ∨ name = "sc" ∨ name = "lc" then category? name
      else (binary? name).or ((category? name).or (scriptSet? name))
    | some value =>
      let value := plainName value
      if name = "gc" ∨ name = "generalcategory" then category? value
      else if name = "sc" ∨ name = "script" ∨ name = "scx" ∨ name = "scriptextensions" then
        scriptSet? value
      else none
  match found with
  | some set => .ok set
  | none => .error .unknownProperty

end FabricAudit.Pattern
