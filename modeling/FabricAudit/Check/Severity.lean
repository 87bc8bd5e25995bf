import FabricAudit.Document.Reading

set_option autoImplicit false

/-! # Severity and status

How much a failed check matters, and how a check came out.
-/

namespace FabricAudit

inductive Severity where
  | error
  | warn
  | info
  deriving DecidableEq, Repr

namespace Severity

def name : Severity → String
  | .error => "ERROR"
  | .warn => "WARN"
  | .info => "INFO"

def words : List (String × Severity) := [("ERROR", .error), ("WARN", .warn), ("INFO", .info)]

def reader : Reader Severity := Reader.oneOfWords words

/-- The capital form of the characters whose capital form is a letter of a severity's name: the
ASCII letters, and the small i without a dot. -/
def capital (c : Char) : Char :=
  if 'a' ≤ c ∧ c ≤ 'z' then Char.ofNat (c.toNat - 32)
  else if c.toNat = 0x131 then 'I'
  else c

/-- The severity that an intent names, in any case. Anything that is neither a warning nor
information is an error, so that a misspelt severity is never lost. -/
def ofText (s : String) : Severity :=
  let capitals := s.toList.map capital
  if capitals = "WARN".toList then .warn
  else if capitals = "INFO".toList then .info
  else .error

end Severity

inductive Status where
  | pass
  | fail
  | warn
  | skip
  deriving DecidableEq, Repr

namespace Status

/-- Every status, in the order in which they are counted. -/
def all : List Status := [.pass, .fail, .warn, .skip]

def rank (status : Status) : Nat := all.idxOf status

def name : Status → String
  | .pass => "PASS"
  | .fail => "FAIL"
  | .warn => "WARN"
  | .skip => "SKIP"

def words : List (String × Status) :=
  [("PASS", .pass), ("FAIL", .fail), ("WARN", .warn), ("SKIP", .skip)]

def reader : Reader Status := Reader.oneOfWords words

end Status

end FabricAudit
