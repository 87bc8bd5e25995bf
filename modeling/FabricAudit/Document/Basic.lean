import FabricAudit.Decimal.Binary64
import FabricAudit.Text.Keyed
import FabricAudit.Word

set_option autoImplicit false

/-! # Documents

The data that intents, telemetry payloads, evidence and reports are made of: null, truth values,
integers, floating point numbers, texts, lists and objects. An integer and a float are different
documents even when their values agree.

The members of an object are a list of pairs sorted by key, in the order of code points, with no
key twice. Every operation of this module keeps them so; `Document.Sorted` says it of all levels
at once. Two documents with sorted members are equal as documents exactly when their members are
equal as lists, whatever the order in which the members came in.
-/

namespace FabricAudit

inductive Document where
  | null
  | bool (b : Bool)
  | int (n : Int)
  | float (x : Binary64)
  | text (s : String)
  | list (items : List Document)
  | object (members : List (String × Document))
  deriving Inhabited

/-- The members of an object, sorted by key. -/
abbrev Members := Keyed Document

namespace Document

mutual

/-- Equality of documents, in which the two floating point zeros are equal. -/
def same : Document → Document → Bool
  | .null, .null => true
  | .bool a, .bool b => a == b
  | .int a, .int b => a == b
  | .float x, .float y => x.same y
  | .text s, .text t => s == t
  | .list xs, .list ys => sameItems xs ys
  | .object ms, .object ns => sameMembers ms ns
  | _, _ => false

def sameItems : List Document → List Document → Bool
  | [], [] => true
  | x :: xs, y :: ys => same x y && sameItems xs ys
  | _, _ => false

/-- Equality of members, key by key. -/
def sameMembers : List (String × Document) → List (String × Document) → Bool
  | [], [] => true
  | (k, x) :: ms, (l, y) :: ns => k == l && same x y && sameMembers ms ns
  | _, _ => false

end

/-- The object with the given members, in any order; of two with one key the later one counts. -/
def ofPairs (pairs : List (String × Document)) : Document := .object (Keyed.ofList pairs)

def nat (n : Nat) : Document := .int n

def texts (ss : List String) : Document := .list (ss.map .text)

def optText : Option String → Document
  | none => .null
  | some s => .text s

def isNull : Document → Bool
  | .null => true
  | _ => false

/-- The value of a key, if the document is an object that has it. -/
def get? : Document → String → Option Document
  | .object ms, key => Keyed.get? ms key
  | _, _ => none

def text? : Document → Option String
  | .text s => some s
  | _ => none

def members? : Document → Option Members
  | .object ms => some ms
  | _ => none

/-- The integer, if the document is one between the limits of a signed 64-bit word. -/
def word? : Document → Option Int
  | .int n => if (Word.signed 64).holds n then some n else none
  | _ => none

/-- Keys in strictly increasing order. -/
def KeysAscend : List (String × Document) → Prop
  | [] => True
  | (k, _) :: rest => (∀ m ∈ rest, k < m.1) ∧ KeysAscend rest

mutual

/-- The members of every object in the document are sorted by key, with no key twice. -/
def Sorted : Document → Prop
  | .list xs => SortedItems xs
  | .object ms => KeysAscend ms ∧ SortedMembers ms
  | _ => True

def SortedItems : List Document → Prop
  | [] => True
  | x :: xs => Sorted x ∧ SortedItems xs

def SortedMembers : List (String × Document) → Prop
  | [] => True
  | (_, x) :: ms => Sorted x ∧ SortedMembers ms

end

/-- Walks down through objects, one key after the other. -/
def walk : Document → List String → Option Document
  | d, [] => some d
  | d, key :: rest => (d.get? key).bind (walk · rest)

end Document

end FabricAudit
