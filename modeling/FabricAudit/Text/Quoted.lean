import FabricAudit.Text.HiddenTable

set_option autoImplicit false

/-! # Quoted texts

How a text is quoted inside a message: in double quotation marks, with a backslash before marks and
backslashes, short escapes for the common control characters, and a number in braces for every other
character that would not be seen.
-/

namespace FabricAudit.Text

def quoteChar (c : Char) : List Char :=
  match c with
  | '"' => ['\\', '"']
  | '\\' => ['\\', '\\']
  | '\n' => ['\\', 'n']
  | '\r' => ['\\', 'r']
  | '\t' => ['\\', 't']
  | '\x00' => ['\\', '0']
  | c =>
    if 0x20 ≤ c.toNat ∧ c.toNat < 0x7F then [c]
    else if hiddenRanges.holds c.toNat then
      ['\\', 'u', '\x7b'] ++ Decimal.hex c.toNat ++ ['\x7d']
    else [c]

def quote (s : String) : String :=
  String.ofList ('"' :: (s.toList.flatMap quoteChar ++ ['"']))

def quoteList (ss : List String) : String := "[" ++ join ", " (ss.map quote) ++ "]"

end FabricAudit.Text
