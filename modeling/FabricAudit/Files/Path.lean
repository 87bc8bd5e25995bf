import FabricAudit.Text.Search

set_option autoImplicit false

/-! # Paths

A path is a text of names with slashes between them. Joining and finding the parent work on the text
alone; what a path leads to is a matter of the tree it is followed in (`Files/Tree.lean`).
-/

namespace FabricAudit.Path

def isAbsolute (path : String) : Bool := Text.startsWith path "/"

/-- The path of a part below another path; a part that begins at the root stands for itself. -/
def join (base part : String) : String :=
  if isAbsolute part || base.isEmpty || Text.endsWith base "/" then
    (if isAbsolute part then "" else base) ++ part
  else base ++ "/" ++ part

/-- A part of a path, in the order in which parts are sorted. -/
inductive Part where
  | root
  /-- The place where a relative path begins, if it is written. -/
  | here
  | up
  | name (s : String)
  deriving DecidableEq, Repr

/-- The part that a name stands for, if it stands for any within a path. -/
def partOf? (s : String) : Option Part :=
  if s = "" ∨ s = "." then none
  else if s = ".." then some .up
  else some (.name s)

/-- The parts of a path. Repeated slashes, and dots other than a first one, are no parts. -/
def parts (path : String) : List Part :=
  let names := Text.splitAt '/' path
  (if isAbsolute path then [.root] else if names.head? = some "." then [.here] else [])
    ++ names.filterMap partOf?

def Part.text : Part → String
  | .root => ""
  | .here => "."
  | .up => ".."
  | .name s => s

def ofParts (ps : List Part) : String :=
  if ps = [.root] then "/" else Text.join "/" (ps.map Part.text)

def Part.before : Part → Part → Bool
  | .root, .root => false
  | .root, _ => true
  | .here, .root | .here, .here => false
  | .here, _ => true
  | .up, .name _ => true
  | .up, _ => false
  | .name s, .name t => s < t
  | .name _, _ => false

def partsBefore : List Part → List Part → Bool
  | [], [] => false
  | [], _ :: _ => true
  | _ :: _, [] => false
  | p :: ps, q :: qs => p.before q || (p == q && partsBefore ps qs)

def before (path other : String) : Bool := partsBefore (parts path) (parts other)

def least? : List String → Option String
  | [] => none
  | path :: rest =>
    match least? rest with
    | none => some path
    | some other => if before other path then some other else some path

/-- The last name of a path: what follows the last slash. -/
def fileName (path : String) : String := ((Text.splitAt '/' path).getLast?).getD ""

end FabricAudit.Path
