import FabricAudit.Lab.Basic
import FabricAudit.Lab.Topology
import FabricAudit.Text.Utf8

set_option autoImplicit false

/-! # Labs of containers

A lab whose nodes are containers. Commands reach them through the container engine, a program that
is given arguments and leaves a status and two outputs. The command line of a switch may refuse a
command that needs more rights; the command is then given once more, from a script that takes
them.
-/

namespace FabricAudit

structure ProgramOutput where
  /-- Its status; none if it did not end by itself. -/
  status : Option Int
  /-- The octets of its standard output. -/
  stdout : List Nat
  /-- The octets of its error output. -/
  stderr : List Nat
  deriving DecidableEq, Repr

/-- A container engine whose answers depend on a state `σ`. -/
structure Engine (σ : Type) where
  /-- What the program leaves behind when it is given arguments, unless there is no such program. -/
  run : List String → σ → Option ProgramOutput × σ

/-- A machine without a container engine. -/
def Engine.absent : Engine Unit := ⟨fun _ s => (none, s)⟩

namespace Container

def name (t : Topology) (node : String) : String := "clab-" ++ t.name ++ "-" ++ node

/-- What a program left behind, as a reply. A program that did not end by itself has status -1. -/
def replyOf (o : ProgramOutput) : Reply :=
  ⟨o.status.getD (-1), Text.trim (Text.decodeLossy o.stdout),
    Text.trim (Text.decodeLossy o.stderr)⟩

def engineFault (node reason : String) : Fault := .node node ("docker exec failed: " ++ reason)

variable {σ : Type}

/-- Runs the engine on behalf of a node. Arguments cannot hold the null character. -/
def runEngine (e : Engine σ) (node : String) (args : List String) (s : σ) :
    Except Fault Reply × σ :=
  if args.any (·.toList.contains '\x00') then
    (.error (engineFault node "nul byte found in provided data"), s)
  else
    match e.run args s with
    | (some output, s) => (.ok (replyOf output), s)
    | (none, s) => (.error (engineFault node FileFault.missing.message), s)

def shellArgs (container command : String) : List String :=
  ["exec", container, "bash", "-lc", command]

def switchArgs (container command : String) : List String :=
  ["exec", container, "Cli", "-c", command]

/-- The script that gives a command with all rights. -/
def enableScript (command : String) : String :=
  "cat <<'EOF' | Cli\nenable\n" ++ command ++ "\nEOF"

/-- What a reply says if the command needs more rights. -/
def refusal : String := "privileged mode required"

/-- Whether a command was refused and should be given once more. -/
def needsEnable (r : Reply) : Bool :=
  Text.contains r.combined refusal || Text.contains r.combined "% invalid input"

/-- The better of the replies to a command and to the same command with all rights. -/
def better (first second : Reply) : Reply :=
  if second.isSuccess && !Text.contains second.combined refusal then second else first

def answer (e : Engine σ) (t : Topology) (c : Call) (s : σ) : Except Fault Reply × σ :=
  let container := name t c.node
  match c.channel with
  | .shell => runEngine e c.node (shellArgs container c.command) s
  | .switch =>
    match runEngine e c.node (switchArgs container c.command) s with
    | (.error f, s) => (.error f, s)
    | (.ok first, s) =>
      if needsEnable first then
        match runEngine e c.node (shellArgs container (enableScript c.command)) s with
        | (.error f, s) => (.error f, s)
        | (.ok second, s) => (.ok (better first second), s)
      else (.ok first, s)

def desiredPath (directory node : String) : String :=
  Path.join (Path.join directory "configs") (node ++ ".cfg")

def desired (files : FileTree) (directory node : String) : Except FileFault (Option String) :=
  let path := desiredPath directory node
  if files.exists? path then (files.read path).map some else .ok none

def lab (e : Engine σ) (t : Topology) (files : FileTree) (directory : String) : Lab σ :=
  ⟨t.nodes, t.kind, desired files directory, answer e t⟩

end Container

end FabricAudit
