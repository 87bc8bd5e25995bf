import FabricAudit.CommandLine.Options
import FabricAudit.Files.Path

set_option autoImplicit false

/-! # Invocations

What the program is asked to do: one of four commands, with the root of the labs and the directory
for reports. Both may come from the environment, which counts less than the command line.
-/

namespace FabricAudit

inductive OutputFormat where
  | lines
  | table
  | yaml
  | json
  deriving DecidableEq, Repr

def OutputFormat.words : List (String × OutputFormat) :=
  [("lines", .lines), ("table", .table), ("yaml", .yaml), ("json", .json)]

inductive Command where
  /-- Run the checks of a mode, and keep the report in two forms. -/
  | validate (mode documentPath markdownPath : String) (format : OutputFormat)
  /-- Take a snapshot, and keep it as a baseline. -/
  | baseline (path : String)
  /-- Hold the lab against a baseline, and keep the report in two forms. -/
  | drift (baseline documentPath markdownPath : String) (showsHunks : Bool)
  | list
  deriving DecidableEq, Repr

structure Invocation where
  /-- The directory that has the directories of the labs. -/
  root : String
  lab : String
  command : Command
  deriving DecidableEq, Repr

namespace Invocation

def helpOption : OptionSpec := ⟨"help", some 'h', .about .help⟩

def outerOptions : List OptionSpec :=
  [⟨"root", some 'r', .path⟩, ⟨"artifacts", none, .path⟩, ⟨"verbose", some 'v', .switch⟩,
    helpOption, ⟨"version", some 'V', .about .version⟩]

def labOption : OptionSpec := ⟨"lab", some 'l', .text⟩

def reportOptions : List OptionSpec := [⟨"json-out", none, .path⟩, ⟨"md-out", none, .path⟩]

def commandOptions : List (String × List OptionSpec) :=
  [("validate", [labOption, ⟨"mode", some 'm', .text⟩,
      ⟨"output", some 'o', .word (OutputFormat.words.map (·.1))⟩, helpOption] ++ reportOptions),
    ("baseline", [labOption, ⟨"out", none, .path⟩, helpOption]),
    ("drift", [labOption, ⟨"baseline", none, .path⟩, ⟨"show-diff", none, .switch⟩, helpOption]
      ++ reportOptions),
    ("list", [labOption, helpOption])]

/-- The word that asks for help in place of a command. -/
def helpWord : String := "help"

def needed (given : GivenOptions) (name : String) : Except Refusal String :=
  match given.lookup name with
  | some value => .ok value
  | none => .error .usage

/-- An option of the command line, else of the environment, else by default. The environment cannot
name an empty path. -/
def outer (given env : GivenOptions) (name key default : String) : Except Refusal String :=
  match given.lookup name, env.lookup key with
  | some value, _ => .ok value
  | none, some "" => .error .usage
  | none, some value => .ok value
  | none, none => .ok default

/-- The path of a report: as given, or in the directory for reports. -/
def reportPath (given : GivenOptions) (name artifacts lab ending : String) : String :=
  (given.lookup name).getD (Path.join artifacts (lab ++ ending))

def commandOf (name artifacts lab : String) (given : GivenOptions) : Except Refusal Command :=
  match name with
  | "validate" =>
    .ok (.validate ((given.lookup "mode").getD "all")
      (reportPath given "json-out" artifacts lab "-validate.json")
      (reportPath given "md-out" artifacts lab "-validate.md")
      (((given.lookup "output").bind fun w => OutputFormat.words.lookup w).getD .lines))
  | "baseline" => do .ok (.baseline (← needed given "out"))
  | "drift" => do
    .ok (.drift (← needed given "baseline")
      (reportPath given "json-out" artifacts lab "-drift.json")
      (reportPath given "md-out" artifacts lab "-drift.md")
      (given.lookup "show-diff").isSome)
  | _ => .ok .list

/-- What the arguments ask for when help is wanted: help, on the program or on a command. -/
def readHelp : List String → Refusal
  | [] => .about .help
  | name :: rest =>
    if name = helpWord || (commandOptions.lookup name).isSome then
      (if rest.isEmpty then .about .help else .usage)
    else .usage

def read (args : List String) (env : GivenOptions) : Except Refusal Invocation := do
  let isCommand (s : String) : Bool := s == helpWord || (commandOptions.lookup s).isSome
  match ← CommandLine.readOptions outerOptions isCommand ⟨[], none⟩ args with
  | (_, none) => .error .usage
  | (given, some (name, rest)) =>
    match commandOptions.lookup name with
    | none => .error (readHelp rest)
    | some options =>
      let (inner, _) ← CommandLine.readOptions options (fun _ => false) ⟨[], none⟩ rest
      let lab ← needed inner "lab"
      let root ← outer given env "root" "FABDRIFT_ROOT" "."
      let artifacts ← outer given env "artifacts" "FABDRIFT_ARTIFACTS" "artifacts"
      .ok ⟨root, lab, ← commandOf name artifacts lab inner⟩

end Invocation

end FabricAudit
