import FabricAudit.Document.Reading

set_option autoImplicit false

/-! # Structural differences

The difference of two documents is a list of entries, each about one dotted path: a value was added,
removed or changed. Objects are walked over the sorted union of their keys, and two objects under
one key are walked in turn; everything else is compared as a whole.
-/

namespace FabricAudit

inductive DifferenceKind where
  | added
  | removed
  | changed
  deriving DecidableEq, Repr

namespace DifferenceKind

def name : DifferenceKind → String
  | .added => "added"
  | .removed => "removed"
  | .changed => "changed"

def words : List (String × DifferenceKind) :=
  [("added", .added), ("removed", .removed), ("changed", .changed)]

end DifferenceKind

structure Difference where
  /-- The dotted path of the value. -/
  path : String
  kind : DifferenceKind
  /-- The value before, unless it was added. -/
  old : Option Document
  /-- The value after, unless it was removed. -/
  new : Option Document

namespace Difference

/-- The keys of either list of members, each once, in order. -/
def unionKeys (old new : Members) : List String :=
  Text.sortedSet (Keyed.keys old ++ Keyed.keys new)

/-- The path of a key under the path of its object; the outermost object has the empty path. -/
def under (path key : String) : String := if path = "" then key else path ++ "." ++ key

mutual

/-- The differences under one key, whose value before is given. -/
def ofValues (path : String) : Document → Document → List Difference
  | .object ms, .object ns =>
    (unionKeys ms ns).flatMap fun key =>
      match lookupWith path key ms ns with
      | some entries => entries
      | none =>
        match Keyed.get? ns key with
        | some new => [⟨under path key, .added, none, some new⟩]
        | none => []
  | old, new => if old.same new then [] else [⟨path, .changed, some old, some new⟩]

/-- The differences under `key`, if it is among the members before. -/
def lookupWith (path key : String) : List (String × Document) → Members →
    Option (List Difference)
  | [], _ => none
  | (k, old) :: rest, ns =>
    if k = key then
      match Keyed.get? ns key with
      | some new => some (ofValues (under path key) old new)
      | none => some [⟨under path key, .removed, some old, none⟩]
    else lookupWith path key rest ns

end

/-- The differences of two lists of members whose object stands at `path`. -/
def ofMembers (path : String) (old new : Members) : List Difference :=
  ofValues path (.object old) (.object new)

/-- The differences between two documents. Documents that are not both objects compare as a whole
under the empty path. -/
def between (old new : Document) : List Difference := ofValues "" old new

/-- The document of a difference; a value that is not there is left out. -/
def toDocument (d : Difference) : Document :=
  .ofPairs ([("path", .text d.path), ("type", .text d.kind.name)]
    ++ (d.old.map (("old", ·))).toList ++ (d.new.map (("new", ·))).toList)

def pathField : Field String := .required "path" Reader.text
def kindField : Field DifferenceKind :=
  .required "type" (Reader.oneOfWords DifferenceKind.words)
def oldField : Field (Option Document) := .withDefault "old" none (Reader.optional Reader.any)
def newField : Field (Option Document) := .withDefault "new" none (Reader.optional Reader.any)

/-- Reads a difference. A null is no value. -/
def reader : Reader Difference :=
  Reader.record "struct DriftEntry"
    [pathField.erase, kindField.erase, oldField.erase, newField.erase]
    fun g => do
      .ok ⟨← g.take pathField, ← g.take kindField, ← g.take oldField, ← g.take newField⟩

end Difference

namespace Document

/-- The members that change on every collection and never count as drift. -/
def volatileKeys : List String := ["timestamp"]

/-- The document without its volatile members. Only the outermost level is concerned. -/
def withoutVolatile : Document → Document
  | .object ms => .object (ms.filter fun m => !volatileKeys.contains m.1)
  | d => d

end Document

end FabricAudit
