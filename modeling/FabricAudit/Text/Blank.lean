set_option autoImplicit false

/-! # Blanks

Which characters count as blank, and the three operations that depend on it: trimming a text at
either end, and splitting it into words. A blank is a character with the Unicode property
`White_Space`; device output carries no-break and ideographic spaces, so an ASCII test would leave
them standing at the ends of a line.

Every operation is defined on lists of characters, where recursion and proofs are easy; the
functions on `String` only wrap them.
-/

namespace FabricAudit.Text

/-- The Unicode property `White_Space`. -/
def isBlank (c : Char) : Bool :=
  let n := c.toNat
  (9 ≤ n && n ≤ 13) || n == 0x20 || n == 0x85 || n == 0xA0 || n == 0x1680
    || (0x2000 ≤ n && n ≤ 0x200A) || n == 0x2028 || n == 0x2029 || n == 0x202F
    || n == 0x205F || n == 0x3000

/-- The characters after the leading ones that satisfy `p`, up to the last that does not. -/
def stripBy (p : Char → Bool) (cs : List Char) : List Char :=
  ((cs.dropWhile p).reverse.dropWhile p).reverse

def trimChars (cs : List Char) : List Char := stripBy isBlank cs

def trimEndChars (cs : List Char) : List Char := (cs.reverse.dropWhile isBlank).reverse

/-- The maximal runs of characters that are not blank, in order; `word` is the run being read. -/
def wordsFrom (word : List Char) : List Char → List (List Char)
  | [] => if word.isEmpty then [] else [word]
  | c :: cs =>
    if isBlank c then
      if word.isEmpty then wordsFrom [] cs else word :: wordsFrom [] cs
    else wordsFrom (word ++ [c]) cs

/-- The words of a line: its maximal runs of characters that are not blank. -/
def wordsChars (cs : List Char) : List (List Char) := wordsFrom [] cs

def trim (s : String) : String := String.ofList (trimChars s.toList)

def trimEnd (s : String) : String := String.ofList (trimEndChars s.toList)

def words (s : String) : List String := (wordsChars s.toList).map String.ofList

end FabricAudit.Text
