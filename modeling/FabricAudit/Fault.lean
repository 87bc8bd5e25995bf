import FabricAudit.Intent.Problem
import FabricAudit.Pattern.Tree
import FabricAudit.Yaml.Cursor

set_option autoImplicit false

/-! # Faults

Everything that can make an operation end without an answer, each with its cause, and one wording
for all of them. A fault inside a check does not end a run: it becomes the result of that check.
-/

namespace FabricAudit

/-- Why a file cannot be read or written. -/
inductive FileFault where
  | missing
  /-- Something exists where a directory is to be made. -/
  | exists
  | notDirectory
  | isDirectory
  /-- A part of the path has more than 255 octets. -/
  | nameTooLong
  | nullInPath
  | notText
  deriving DecidableEq, Repr

def FileFault.message : FileFault → String
  | .missing => "No such file or directory (os error 2)"
  | .exists => "File exists (os error 17)"
  | .notDirectory => "Not a directory (os error 20)"
  | .isDirectory => "Is a directory (os error 21)"
  | .nameTooLong => "File name too long (os error 36)"
  | .nullInPath => "file name contained an unexpected NUL byte"
  | .notText => "stream did not contain valid UTF-8"

/-- Why a path with wildcards makes no sense. -/
inductive GlobFault where
  /-- More than two stars in a row. -/
  | wildcards
  /-- Two stars that are not a whole part of the path. -/
  | recursive
  | range
  deriving DecidableEq, Repr

def GlobFault.message : GlobFault → String
  | .wildcards => "wildcards are either regular \x60*\x60 or recursive \x60**\x60"
  | .recursive => "recursive wildcards must form a single path component"
  | .range => "invalid range pattern"

/-- Why a baseline cannot be loaded. -/
inductive BaselineFault where
  | file (fault : FileFault)
  | content (fault : ReadFault)

def BaselineFault.message : BaselineFault → String
  | .file fault => fault.message
  | .content fault => fault.message

/-- Why an operation ends without an answer. -/
inductive Fault where
  | intent (problem : IntentProblem)
  | intentMissing (path : String)
  | topology (directory : String)
  | node (name message : String)
  | baseline (path : String) (cause : BaselineFault)
  | mode (name : String)
  | pattern (cause : PatternFault)
  | glob (position : Nat) (cause : GlobFault)
  | file (cause : FileFault)
  | yaml (cause : YamlFault)
  | json (cause : ReadFault)

def Fault.message : Fault → String
  | .intent problem => "Intent validation error: " ++ problem.message
  | .intentMissing path => "Intent file not found: " ++ path
  | .topology directory => "Topology error: No .clab.yml found under " ++ directory
  | .node name message => "Adapter error on " ++ name ++ ": " ++ message
  | .baseline path cause => "Baseline error: " ++ path ++ ": " ++ cause.message
  | .mode name =>
    "Invalid run mode: " ++ name ++ " (expected intent|underlay|control-plane|dataplane|all)"
  | .pattern _ => "Invalid pattern: <regex error>"
  | .glob position cause =>
    "Glob pattern error: Pattern syntax error near position " ++ Decimal.ofNat position ++ ": "
      ++ cause.message
  | .file cause => "IO error: " ++ cause.message
  | .yaml _ => "YAML error"
  | .json cause => "JSON error: " ++ cause.message

end FabricAudit
