import FabricAudit.Fault
import FabricAudit.Files.Path

set_option autoImplicit false

/-! # File trees

The files that an audit can see: a tree of directories and files, and the directory in which
relative paths begin. A file whose content is no text cannot be read, and that is all there is to
know of its content. There are no links, so every path leads to at most one place, and a place is
the list of the names that lead to it from the root.
-/

namespace FabricAudit

inductive FileEntry where
  /-- A file with the given content, if that is a text. -/
  | file (text : Option String)
  | directory
  deriving DecidableEq, Repr

structure FileTree where
  /-- What is where, in the order in which it was made; the root is always there. -/
  entries : List (List String × FileEntry)
  /-- The directory where relative paths begin. -/
  here : List String

namespace FileTree

/-- The tree without files in which relative paths begin at a place. -/
def empty (here : List String) : FileTree :=
  ⟨((List.range here.length).map fun n => (here.take (n + 1), FileEntry.directory)), here⟩

def entry? (t : FileTree) (place : List String) : Option FileEntry :=
  if place.isEmpty then some .directory else t.entries.lookup place

def isDirectoryAt (t : FileTree) (place : List String) : Bool := t.entry? place == some .directory

/-- A name has at most so many octets. -/
def longestName : Nat := 255

/-- A path has less than so many octets. -/
def pathLimit : Nat := 4096

/-- Follows names from a place to the place they lead to. Every name, the empty one and the dot
included, must be looked up in a directory. -/
def follow (t : FileTree) (place : List String) : List String → Except FileFault (List String)
  | [] => .ok place
  | name :: rest =>
    if !t.isDirectoryAt place then .error .notDirectory
    else if name = "" ∨ name = "." then t.follow place rest
    else if name = ".." then t.follow place.dropLast rest
    else if longestName < name.utf8ByteSize then .error .nameTooLong
    else if (t.entry? (place ++ [name])).isSome then t.follow (place ++ [name]) rest
    else .error .missing

def checkPath (path : String) : Except FileFault Unit :=
  if path.toList.contains '\x00' then .error .nullInPath
  else if path.isEmpty then .error .missing
  else if pathLimit ≤ path.utf8ByteSize then .error .nameTooLong
  else .ok ()

def start (t : FileTree) (path : String) : List String :=
  if Path.isAbsolute path then [] else t.here

def locate (t : FileTree) (path : String) : Except FileFault (List String) := do
  checkPath path
  t.follow (t.start path) (Text.splitAt '/' path)

def exists? (t : FileTree) (path : String) : Bool := (t.locate path).isOk

def isDirectory (t : FileTree) (path : String) : Bool :=
  match t.locate path with
  | .ok place => t.isDirectoryAt place
  | .error _ => false

def read (t : FileTree) (path : String) : Except FileFault String := do
  match t.entry? (← t.locate path) with
  | some (.file (some text)) => .ok text
  | some (.file none) => .error .notText
  | some .directory => .error .isDirectory
  | none => .error .missing

/-- The names in a directory, in the order in which they were made. -/
def names (t : FileTree) (place : List String) : List String :=
  t.entries.filterMap fun e =>
    if e.1.dropLast = place then e.1.getLast? else none

/-! ## Writing -/

/-- Where something new is to be made: the directory, the name, and whether a slash follows it. -/
structure Target where
  place : List String
  name : String
  /-- Whether a slash follows the last name. -/
  slashed : Bool

/-- Whether a name can be given to something new. -/
def isProper (name : String) : Bool := name != "" && name != "." && name != ".."

/-- Where a path would have something made. -/
def target (t : FileTree) (path : String) : Except FileFault Target := do
  checkPath path
  let names := (Text.splitAt '/' path).reverse
  let trimmed := names.dropWhile (· = "")
  let place ← t.follow (t.start path) trimmed.tail.reverse
  let name := trimmed.head?.getD ""
  if !t.isDirectoryAt place then .error .notDirectory
  else if longestName < name.utf8ByteSize then .error .nameTooLong
  else .ok ⟨place, name, trimmed.length < names.length⟩

/-- Puts something at a place, instead of what was there. -/
def put (t : FileTree) (place : List String) (e : FileEntry) : FileTree :=
  if (t.entry? place).isSome then
    { t with entries := t.entries.map fun (p, old) => if p = place then (p, e) else (p, old) }
  else { t with entries := t.entries ++ [(place, e)] }

/-- Makes the directory at a path; the one above must be there. -/
def makeDirectory (t : FileTree) (path : String) : Except FileFault FileTree := do
  let g ← t.target path
  if !isProper g.name || (t.entry? (g.place ++ [g.name])).isSome then .error .exists
  else .ok (t.put (g.place ++ [g.name]) .directory)

/-- Writes a text to the file at a path; the directory must be there. -/
def write (t : FileTree) (path text : String) : Except FileFault FileTree := do
  let g ← t.target path
  if g.slashed || !isProper g.name then .error .isDirectory
  else
    match t.entry? (g.place ++ [g.name]) with
    | some .directory => .error .isDirectory
    | _ => .ok (t.put (g.place ++ [g.name]) (.file (some text)))

/-- Work on a tree: it may end in a fault, and what it did up to then stays done. -/
abbrev Work (α : Type) := ExceptT FileFault (StateM FileTree) α

/-- A change of the tree, as a part of work on it. -/
def Work.step (change : FileTree → Except FileFault FileTree) : Work Unit := fun t =>
  match change t with
  | .ok t => (.ok (), t)
  | .error f => (.error f, t)

/-- An attempt to make a directory, which has what it wants if the directory is there anyway. -/
def attempt (path : String) (made : Except FileFault FileTree) : Work Unit := fun t =>
  match made with
  | .ok t => (.ok (), t)
  | .error f => if t.isDirectory path then (.ok (), t) else (.error f, t)

/-- Makes the directory of some parts, the last one first, and those above that are not there. -/
def makeAll : List Path.Part → Work Unit
  | [] => pure ()
  | part :: above => fun t =>
    let path := Path.ofParts (part :: above).reverse
    match t.makeDirectory path with
    | .error .missing =>
      match makeAll above t with
      | (.error f, t) => (.error f, t)
      | (.ok (), t) => attempt path (t.makeDirectory path) t
    | made => attempt path made t

/-- Writes a text to the file at a path, and makes the directories above it. -/
def save (path text : String) : Work Unit := do
  makeAll (Path.parts path).reverse.tail
  Work.step fun t => t.write path text

end FileTree

end FabricAudit
