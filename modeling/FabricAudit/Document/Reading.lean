import FabricAudit.Document.Draft
import FabricAudit.Document.Written
import FabricAudit.Text.Quoted

set_option autoImplicit false

/-! # Typed reading

A `Reader α` turns a draft into a value of type `α` or says why it cannot. Records are the heart of
it: `record` reads an object by the names of its fields, ignoring unknown members, or a list by the
order of its fields. The fields of an object are checked in the order in which they stand; only when
all that stand there are right is a missing one reported, in the order of declaration. The last
fields of a list may be missing when they have a default.

`Reader.document` reads a document, `Reader.file` a whole JSON text. The two differ in one place
only: a list with more items than the record has fields.
-/

namespace FabricAudit

/-- What was found where something else was wanted. -/
inductive Found where
  | null
  | bool (b : Bool)
  | int (n : Int)
  | float (x : Binary64)
  | text (s : String)
  | list
  | object

def Found.message : Found → String
  | .null => "null"
  | .bool b => "boolean \x60" ++ (if b then "true" else "false") ++ "\x60"
  | .int n => "integer \x60" ++ Decimal.ofInt n ++ "\x60"
  | .float x => "floating point \x60" ++ Document.jsonLayout.text x ++ "\x60"
  | .text s => "string " ++ Text.quote s
  | .list => "sequence"
  | .object => "map"

/-- Why a timestamp does not read. -/
inductive TimeFault where
  /-- The text ends too early. -/
  | short
  /-- A character does not fit the form. -/
  | malformed
  /-- The form is right and a number is not. -/
  | outOfRange
  /-- Something follows the timestamp. -/
  | trailing
  /-- The moment is outside the calendar. -/
  | impossible
  deriving DecidableEq, Repr

def TimeFault.message : TimeFault → String
  | .short => "premature end of input"
  | .malformed => "input contains invalid characters"
  | .outOfRange => "input is out of range"
  | .trailing => "trailing input"
  | .impossible => "no possible date and time matching input"

/-- Why a document does not read as a value of a type. -/
inductive ReadFault where
  | draft (fault : DraftFault)
  | wrongType (found : Found) (wanted : String)
  /-- A value of the right kind that is not allowed. -/
  | wrongValue (found : Found) (wanted : String)
  | tooShort (length : Nat) (wanted : String)
  | tooLong (length : Nat) (wanted : String)
  | missing (field : String)
  /-- A field is given twice, perhaps by two of its names. -/
  | repeated (field : String)
  | unknownWord (word : String) (allowed : List String)
  | notInteger (value : Document)
  | time (fault : TimeFault)

def oneOf (names : List String) : String :=
  match names.map fun n => "\x60" ++ n ++ "\x60" with
  | [a] => a
  | [a, b] => a ++ " or " ++ b
  | many => "one of " ++ Text.join ", " many

def ReadFault.message : ReadFault → String
  | .draft f => f.message
  | .wrongType found wanted => "invalid type: " ++ found.message ++ ", expected " ++ wanted
  | .wrongValue found wanted => "invalid value: " ++ found.message ++ ", expected " ++ wanted
  | .tooShort n wanted => "invalid length " ++ Decimal.ofNat n ++ ", expected " ++ wanted
  | .tooLong n wanted => "invalid length " ++ Decimal.ofNat n ++ ", expected " ++ wanted
  | .missing field => "missing field \x60" ++ field ++ "\x60"
  | .repeated field => "duplicate field \x60" ++ field ++ "\x60"
  | .unknownWord word allowed =>
    "unknown variant \x60" ++ word ++ "\x60, expected " ++ oneOf allowed
  | .notInteger value => "expected an integer, got " ++ value.compact
  | .time f => f.message

/-- A typed reading of drafts. -/
abbrev Reader (α : Type) := Draft → Except ReadFault α

namespace Reader

def document {α : Type} (r : Reader α) (d : Document) : Except ReadFault α := r d.toDraft

/-- Reads a JSON text. A list too long for its record is a fault of the text here: the reader
expects the closing bracket. -/
def file {α : Type} (r : Reader α) (s : String) : Except ReadFault α :=
  let (draft, fault) := Draft.ofText s
  match r draft, fault with
  | .ok a, none => .ok a
  | .ok _, some f => .error (.draft f)
  | .error (.tooLong _ _), _ => .error (.draft .trailing)
  | .error e, _ => .error e

/-- The fault of a draft that is not what is wanted. -/
def mismatch (wanted : String) : Draft → ReadFault
  | .null => .wrongType .null wanted
  | .bool b => .wrongType (.bool b) wanted
  | .int n => .wrongType (.int n) wanted
  | .float x => .wrongType (.float x) wanted
  | .text s => .wrongType (.text s) wanted
  | .list _ _ => .wrongType .list wanted
  | .object _ _ => .wrongType .object wanted
  | .broken f => .draft f

def text : Reader String
  | .text s => .ok s
  | d => .error (mismatch "a string" d)

def bool : Reader Bool
  | .bool b => .ok b
  | d => .error (mismatch "a boolean" d)

/-- An integer among the words of some width, which `wanted` names. -/
def integer (words : Word) (wanted : String) : Reader Int
  | .int n => if words.holds n then .ok n else .error (.wrongValue (.int n) wanted)
  | d => .error (mismatch wanted d)

/-- A count: a natural number of 64 bits. -/
def count : Reader Nat := fun d => (integer (.unsigned 64) "usize" d).map Int.toNat

/-- A signed 64-bit word. -/
def word : Reader Int := integer (.signed 64) "i64"

def any : Reader Document := fun d => d.toDocument.mapError .draft

def optional {α : Type} (r : Reader α) : Reader (Option α)
  | .null => .ok none
  | d => (r d).map some

/-- Ends the reading of a list or object at the fault it ends in, if it does. -/
def finish {α : Type} (fault : Option DraftFault) (a : α) : Except ReadFault α :=
  match fault with
  | some f => .error (.draft f)
  | none => .ok a

def list {α : Type} (r : Reader α) : Reader (List α)
  | .list items fault => do finish fault (← items.mapM r)
  | d => .error (mismatch "a sequence" d)

/-- The members of an object, each read by `r`, in the order in which they stand. -/
def members {α : Type} (r : Reader α) : Reader (List (String × α))
  | .object ms fault => do
    finish fault (← ms.mapM fun m => do .ok (m.1, ← r m.2))
  | d => .error (mismatch "a map" d)

/-- The members of an object as they are, sorted by key. -/
def object : Reader Members := fun d => (members any d).map Keyed.ofList

/-- One of a set of words. An object with one member, whose key is such a word and whose value is
null, stands for the word as well. -/
def oneOfWords {α : Type} (allowed : List (String × α)) : Reader α
  | .text s =>
    match allowed.lookup s with
    | some a => .ok a
    | none => .error (.unknownWord s (allowed.map (·.1)))
  | .object [(s, value)] none =>
    match allowed.lookup s with
    | some a =>
      match value with
      | .null => .ok a
      | d => .error (mismatch "unit" d)
    | none => .error (.unknownWord s (allowed.map (·.1)))
  | .object _ none => .error (.wrongValue .object "map with a single key")
  | d => .error (mismatch "string or map" d)

end Reader

/-! ## Records -/

structure Field (α : Type) where
  /-- The name the field is written and reported with. -/
  name : String
  aliases : List String
  read : Reader α
  /-- Its value when it is absent; a field without one is required. -/
  absent : Option α

def Field.required {α : Type} (name : String) (read : Reader α) : Field α :=
  ⟨name, [], read, none⟩

def Field.withDefault {α : Type} (name : String) (value : α) (read : Reader α) : Field α :=
  ⟨name, [], read, some value⟩

/-- A field without its type: what is needed to check a draft. -/
structure FieldCheck where
  name : String
  aliases : List String
  check : Draft → Except ReadFault Unit

def Field.erase {α : Type} (f : Field α) : FieldCheck :=
  ⟨f.name, f.aliases, fun d => (f.read d).map fun _ => ()⟩

/-- The fields that were given, under their own names, and how many items there were if the record
was written as a list. -/
structure Given where
  fields : List (String × Draft)
  /-- What a missing field is reported as. -/
  absence : String → ReadFault

/-- The value of a field: as given, or its default. -/
def Given.take {α : Type} (g : Given) (f : Field α) : Except ReadFault α :=
  match g.fields.lookup f.name with
  | some d => f.read d
  | none =>
    match f.absent with
    | some a => .ok a
    | none => .error (g.absence f.name)

namespace Reader

def fieldNamed (fields : List FieldCheck) (key : String) : Option FieldCheck :=
  fields.find? fun f => f.name == key || f.aliases.contains key

/-- The members that are fields of the record, under their own names; each is checked as it comes,
and none may come twice. -/
def gatherFields (fields : List FieldCheck) (seen : List (String × Draft)) :
    List (String × Draft) → Except ReadFault (List (String × Draft))
  | [] => .ok seen.reverse
  | (key, value) :: rest =>
    match fieldNamed fields key with
    | none => gatherFields fields seen rest
    | some f =>
      if (seen.lookup f.name).isSome then .error (.repeated f.name)
      else do
        f.check value
        gatherFields fields ((f.name, value) :: seen) rest

/-- The fault of a list that had to end after the last field of a record. -/
def atClosing : DraftFault → DraftFault
  | .noListEnd => .trailing
  | .endInValue => .trailing
  | f => f

/-- A record with the given fields. `title` names the type of record in messages. The value is
built from what was given. -/
def record {α : Type} (title : String) (fields : List FieldCheck)
    (build : Given → Except ReadFault α) : Reader α
  | .object ms fault => do
    let given ← gatherFields fields [] ms
    finish fault ()
    build ⟨given, .missing⟩
  | .list items fault => do
    let given := (fields.map (·.name)).zip items
    let _ ← gatherFields fields [] given
    if items.length < fields.length then finish fault ()
    let elements := Decimal.ofNat fields.length
      ++ (if fields.length = 1 then " element" else " elements")
    let a ← build ⟨given, fun _ => .tooShort items.length (title ++ " with " ++ elements)⟩
    if fields.length < items.length then
      .error (.tooLong items.length "fewer elements in array")
    finish (fault.map atClosing) a
  | d => .error (mismatch title d)

end Reader

end FabricAudit
