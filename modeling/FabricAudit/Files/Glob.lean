import FabricAudit.Files.Tree
import FabricAudit.Files.Wildcard

set_option autoImplicit false

/-! # Paths with wildcards

Which paths of a file tree fit a path with wildcards. Parts without wildcards are followed as they
are, whatever they lead to; a part with wildcards fits names in the directory it is looked up in.
-/

namespace FabricAudit.Glob

/-- A path below another, where the place in which relative paths begin is not written. -/
def below (path name : String) : String := if path = "." then name else Path.join path name

/-- The directories and files below a place, at any depth, as paths. -/
def descendants (t : FileTree) (path : String) : List String :=
  match t.locate path with
  | .error _ => []
  | .ok place =>
    t.entries.filterMap fun e =>
      if place.length < e.1.length ∧ place.isPrefixOf e.1 then
        some (below path (Text.join "/" (e.1.drop place.length)))
      else none

/-- The names in a directory that fit. The two names for the directory itself and the one above
fit only pieces that begin with a dot. -/
def children (t : FileTree) (path : String) (ws : List Wildcard) : List String :=
  match t.locate path with
  | .error _ => []
  | .ok place =>
    if !t.isDirectoryAt place then []
    else
      let special :=
        if ws.head? = some (.char '.') then
          [".", ".."].filter (fun s => Wildcard.fits ws s.toList)
        else []
      (((t.names place).filter fun s => Wildcard.fits ws s.toList).map (below path))
        ++ special.map (Path.join path)

/-- The path of a part without wildcards, if it is there. -/
def literal (t : FileTree) (path name : String) : List String :=
  let next := below path name
  if name = "." ∨ name = ".." then (if t.isDirectory path then [next] else [])
  else if t.exists? next then [next] else []

/-- The paths that fit a list of parts, from a path on. `deep` tells that directories may come in
between. -/
def expand (t : FileTree) (path : String) (deep : Bool) : List (List Wildcard) → List String
  | [] => if deep then (descendants t path).filter t.isDirectory else [path]
  | ws :: rest =>
    if ws.contains .tree then expand t path true rest
    else if deep then
      ((descendants t path).filter fun p => Wildcard.fits ws (Path.fileName p).toList).flatMap
        fun p => expand t p false rest
    else
      match Wildcard.literal? ws with
      | some name => (literal t path name).flatMap fun p => expand t p false rest
      | none => (children t path ws).flatMap fun p => expand t p false rest

/-- The parts of a path, without an empty last one. -/
def partsOf (path : String) : List String :=
  let names := Text.splitAt '/' path
  if names.getLast? = some "" then names.dropLast else names

def paths (t : FileTree) (pattern : String) : Except Fault (List String) := do
  let fault (f : WildcardFault) : Fault := .glob f.position f.cause
  let _ ← (Wildcard.ofText pattern).mapError fault
  let absolute := Path.isAbsolute pattern
  let rest := if absolute then String.ofList pattern.toList.tail else pattern
  let parts ← (partsOf rest).mapM fun s => (Wildcard.ofText s).mapError fault
  .ok (expand t (if absolute then "/" else ".") false parts)

end FabricAudit.Glob
