import FabricAudit.Decimal.Digits

set_option autoImplicit false

/-! # Bytes and characters

File contents and the output of commands are bytes. A file must be valid UTF-8 (`decode?`); the
output of a command is decoded leniently (`decodeLossy`): each maximal prefix of a sequence that
breaks off becomes one replacement character.

Octets are natural numbers below 256, as a list.
-/

namespace FabricAudit.Text

def bytesOf (s : String) : List Nat := s.toUTF8.toList.map UInt8.toNat

/-- What a well-formed sequence needs after its first octet: the range of the second octet, how
many octets follow in all, and the payload bits of the first. -/
structure Lead where
  /-- Least second octet. -/
  low : Nat
  /-- Greatest second octet. -/
  high : Nat
  /-- How many octets follow the first. -/
  count : Nat
  /-- The payload of the first octet. -/
  bits : Nat

/-- The lead octets of sequences of two to four octets; `none` for every other octet. The narrower
ranges rule out overlong forms, surrogates and numbers past the last character. -/
def lead? (b : Nat) : Option Lead :=
  if 0xC2 ≤ b ∧ b ≤ 0xDF then some ⟨0x80, 0xBF, 1, b - 0xC0⟩
  else if b = 0xE0 then some ⟨0xA0, 0xBF, 2, 0⟩
  else if b = 0xED then some ⟨0x80, 0x9F, 2, 0xD⟩
  else if 0xE1 ≤ b ∧ b ≤ 0xEF then some ⟨0x80, 0xBF, 2, b - 0xE0⟩
  else if b = 0xF0 then some ⟨0x90, 0xBF, 3, 0⟩
  else if b = 0xF4 then some ⟨0x80, 0x8F, 3, 4⟩
  else if 0xF1 ≤ b ∧ b ≤ 0xF3 then some ⟨0x80, 0xBF, 3, b - 0xF0⟩
  else none

/-- Takes `count` more continuation octets, the first of them between `low` and `high`. The answer
is the code point, or `none` when the sequence breaks off, with what is left to read. -/
def tailOctets (low high : Nat) : Nat → Nat → List Nat → Option Nat × List Nat
  | 0, n, rest => (some n, rest)
  | _ + 1, _, [] => (none, [])
  | count + 1, n, b :: rest =>
    if low ≤ b ∧ b ≤ high then tailOctets 0x80 0xBF count (64 * n + b % 64) rest
    else (none, b :: rest)

theorem tailOctets_length_le (low high count n : Nat) (bytes : List Nat) :
    (tailOctets low high count n bytes).2.length ≤ bytes.length := by
  induction bytes generalizing low high count n with
  | nil => cases count <;> simp [tailOctets]
  | cons b rest ih =>
    cases count with
    | zero => simp [tailOctets]
    | succ count =>
      simp only [tailOctets]
      split
      · exact Nat.le_succ_of_le (ih ..)
      · simp

/-- The next character of a list of octets, or `none` for a sequence that is not well formed, with
what is left. -/
def nextChar (b : Nat) (rest : List Nat) : Option Char × List Nat :=
  if b < 0x80 then (some (Char.ofNat b), rest)
  else
    match lead? b with
    | none => (none, rest)
    | some l =>
      let (n, left) := tailOctets l.low l.high l.count l.bits rest
      (n.map Char.ofNat, left)

theorem nextChar_length_le (b : Nat) (rest : List Nat) :
    (nextChar b rest).2.length ≤ rest.length := by
  unfold nextChar
  split
  · simp
  · split
    · simp
    · exact tailOctets_length_le ..

/-- Decodes octets, with `none` for each maximal part that is not well formed. -/
def decodeOctets : List Nat → List (Option Char)
  | [] => []
  | b :: rest =>
    let step := nextChar b rest
    step.1 :: decodeOctets step.2
termination_by bytes => bytes.length
decreasing_by
  have := nextChar_length_le b rest
  simp only [List.length_cons]
  omega

/-- The text that the octets encode, if they are well formed throughout. -/
def decode? (bytes : List Nat) : Option String :=
  ((decodeOctets bytes).mapM id).map String.ofList

def replacement : Char := Char.ofNat 0xFFFD

/-- The text that the octets encode, with the replacement character for each part that is not well
formed. -/
def decodeLossy (bytes : List Nat) : String :=
  String.ofList ((decodeOctets bytes).map (·.getD replacement))

end FabricAudit.Text
