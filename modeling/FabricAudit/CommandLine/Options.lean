import FabricAudit.Text.Search

set_option autoImplicit false

/-! # Options

How the arguments of a command line are taken as options. An option has a long name, which stands
after two dashes, and perhaps a letter, which stands after one; letters of options without values
can stand together. A value follows the equals sign, or the letter itself, or is the next argument;
that must not look like an option then. No option may be given twice.
-/

namespace FabricAudit

/-- What a command line may ask about the program. -/
inductive About where
  | help
  | version
  deriving DecidableEq, Repr

inductive OptionKind where
  /-- None: the option is given or not. -/
  | switch
  | text
  /-- A path, which is not empty. -/
  | path
  | word (allowed : List String)
  /-- None: the option asks about the program, and nothing else is done. -/
  | about (topic : About)
  deriving DecidableEq, Repr

structure OptionSpec where
  name : String
  letter : Option Char
  kind : OptionKind
  deriving DecidableEq, Repr

/-- Why a command line is not carried out. -/
inductive Refusal where
  | usage
  | about (topic : About)
  deriving DecidableEq, Repr

abbrev GivenOptions := List (String × String)

namespace OptionSpec

def takesValue (o : OptionSpec) : Bool :=
  match o.kind with
  | .switch | .about _ => false
  | _ => true

def admits (o : OptionSpec) (value : String) : Bool :=
  match o.kind with
  | .path => !value.isEmpty
  | .word allowed => allowed.contains value
  | _ => true

def give (o : OptionSpec) (value : String) (given : GivenOptions) : Except Refusal GivenOptions :=
  if (given.lookup o.name).isSome || !o.admits value then .error .usage
  else .ok (given ++ [(o.name, value)])

def giveBare (o : OptionSpec) (given : GivenOptions) : Except Refusal GivenOptions :=
  match o.kind with
  | .about topic => .error (.about topic)
  | _ => o.give "" given

end OptionSpec

namespace CommandLine

/-- What has been read of the arguments: the options given, and one that waits for its value. -/
structure Reading where
  given : GivenOptions
  /-- The option whose value is the next argument. -/
  waiting : Option OptionSpec

/-- Reads an argument that stands after two dashes. -/
def readLong (options : List OptionSpec) (given : GivenOptions) (body : List Char) :
    Except Refusal Reading :=
  let name := String.ofList (body.takeWhile (· ≠ '='))
  match options.find? fun o => o.name == name, body.dropWhile (· ≠ '=') with
  | none, _ => .error .usage
  | some o, [] =>
    if o.takesValue then .ok ⟨given, some o⟩ else (o.giveBare given).map (⟨·, none⟩)
  | some o, _ :: value =>
    if o.takesValue then (o.give (String.ofList value) given).map (⟨·, none⟩) else .error .usage

/-- Reads the letters of an argument that stand after one dash. -/
def readLetters (options : List OptionSpec) (given : GivenOptions) :
    List Char → Except Refusal Reading
  | [] => .ok ⟨given, none⟩
  | c :: rest =>
    match options.find? fun o => o.letter == some c with
    | none => .error .usage
    | some o =>
      if o.takesValue then
        match rest with
        | [] => .ok ⟨given, some o⟩
        | d :: value =>
          (o.give (String.ofList (if d = '=' then value else rest)) given).map (⟨·, none⟩)
      else do readLetters options (← o.giveBare given) rest

/-- Reads arguments up to the end or to the first word that `stops` accepts. The answer is what was
given, with the word and the arguments after it. -/
def readOptions (options : List OptionSpec) (stops : String → Bool) (r : Reading) :
    List String → Except Refusal (GivenOptions × Option (String × List String))
  | [] => if r.waiting.isSome then .error .usage else .ok (r.given, none)
  | arg :: rest =>
    match r.waiting, arg.toList with
    | some _, '-' :: _ :: _ =>
      .error .usage
    | some o, _ => do readOptions options stops ⟨← o.give arg r.given, none⟩ rest
    | none, '-' :: '-' :: [] => if rest.isEmpty then .ok (r.given, none) else .error .usage
    | none, '-' :: '-' :: body => do
      readOptions options stops (← readLong options r.given body) rest
    | none, '-' :: c :: letters => do
      readOptions options stops (← readLetters options r.given (c :: letters)) rest
    | none, _ => if stops arg then .ok (r.given, some (arg, rest)) else .error .usage

end CommandLine

end FabricAudit
