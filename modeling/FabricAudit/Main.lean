import FabricAudit.CommandLine.Commands
import FabricAudit.Time.Epoch
import Std.Time.DateTime.Timestamp

set_option autoImplicit false

/-! # The program

The outer layer: it reads the files below the root of the labs and along the paths that a command
names, carries out the command, writes back what has changed, and prints the two outputs. No program
is started from here, so every lab is one without a container engine; checks that need none are
carried out as always.
-/

namespace FabricAudit.Main

def pathOf (place : List String) : String := "/" ++ Text.join "/" place

def namesOf (path : String) : List String := (Text.splitAt '/' path).filter (· != "")

def readText (path : String) : IO (Option String) := do
  pure (String.fromUTF8? (← IO.FS.readBinFile path))

/-- Adds what is at a place, and below it if `deep` says so. -/
partial def survey (deep : Bool) (place : List String) (files : FileTree) : IO FileTree := do
  let here ← IO.currentDir
  let path := here / pathOf place
  if ← path.isDir then
    let files := if place.isEmpty then files else files.put place .directory
    if deep then
      (← path.readDir).foldlM
        (fun files entry => survey true (place ++ [entry.fileName]) files) files
    else pure files
  else if ← path.pathExists then pure (files.put place (.file (← readText (pathOf place))))
  else pure files

/-- Adds what is along a path, and below its end if `deep` says so. -/
def surveyPath (deep : Bool) (path : String) (files : FileTree) : IO FileTree := do
  let mut place := files.start path
  let mut files := files
  for name in Text.splitAt '/' path do
    if name = ".." then place := place.dropLast
    else if name != "" && name != "." then place := place ++ [name]
    files ← survey false place files
  if deep then survey true place files else pure files

def pathsOf : Command → List String
  | .validate _ documentPath markdownPath _ => [documentPath, markdownPath]
  | .baseline path => [path]
  | .drift path documentPath markdownPath _ => [path, documentPath, markdownPath]
  | .list => []

def filesFor (i : Invocation) : IO FileTree := do
  let files := FileTree.empty (namesOf (← IO.currentDir).toString)
  let files ← surveyPath true i.root files
  let files ← surveyPath true (Path.join i.root i.lab) files
  (pathsOf i.command).foldlM (fun files path => surveyPath false path files) files

def writeBack (before after : FileTree) : IO Unit := do
  for (place, entry) in after.entries do
    if before.entry? place != some entry then
      match entry with
      | .directory => IO.FS.createDirAll (pathOf place)
      | .file (some text) => IO.FS.writeFile (pathOf place) text
      | .file none => pure ()

/-- Whether colours are used: if the environment wants them, or on a terminal unless the environment
does not want them. -/
def usesColor : IO Bool := do
  let wants (name : String) : IO (Option Bool) := do
    pure ((← IO.getEnv name).map (· != "0"))
  if (← wants "CLICOLOR_FORCE") = some true then pure true
  else if (← wants "NO_COLOR").isSome then pure false
  else if (← wants "CLICOLOR") = some false then pure false
  else (← IO.getStdout).isTty

/-- The variables of the environment that the program knows. -/
def environment : IO GivenOptions := do
  ["FABDRIFT_ROOT", "FABDRIFT_ARTIFACTS"].filterMapM fun name => do
    pure ((← IO.getEnv name).map (name, ·))

def usage : String :=
  "Usage: fabdrift [--root ROOT] [--artifacts ARTIFACTS] [--verbose]\n"
    ++ "       validate --lab LAB [--mode MODE] [--json-out PATH] [--md-out PATH]\n"
    ++ "                [--output lines|table|yaml|json]\n"
    ++ "       | baseline --lab LAB --out PATH\n"
    ++ "       | drift --lab LAB --baseline PATH [--json-out PATH] [--md-out PATH] [--show-diff]\n"
    ++ "       | list --lab LAB"

def carryOut (args : List String) : IO UInt32 := do
  let env ← environment
  let before ← match Invocation.read args env with
    | .ok i => filesFor i
    | .error _ => pure (FileTree.empty [])
  let clock ← Std.Time.Timestamp.now
  let now := (Timestamp.ofNanoseconds? clock.toNanosecondsSinceUnixEpoch.val).getD .epoch
  let setting : CommandLine.Setting Unit := ⟨← usesColor, .absent, now⟩
  let (ending, console) := CommandLine.run setting args env ⟨before, (), [], []⟩
  writeBack before console.files
  console.output.forM fun line => IO.println line
  console.errors.forM fun line => IO.eprintln line
  match ending with
  | .refused .usage => IO.eprintln usage
  | .refused (.about .help) => IO.println usage
  | _ => pure ()
  pure ending.code.toUInt32

end FabricAudit.Main

def main (args : List String) : IO UInt32 := FabricAudit.Main.carryOut args
