import FabricAudit.Lab.Basic
import FabricAudit.Text.Lines
import FabricAudit.Text.Search

set_option autoImplicit false

/-! # Probing from hosts

Hosts are asked every time: whether an address answers, which neighbours an interface has learned,
and which interfaces there are.
-/

namespace FabricAudit.Host

/-- The command that pings an address, through an interface if one is named. -/
def pingCommand (target : String) (interface : Option String) : String :=
  match interface with
  | none | some "" => "ping -c 2 -W 1 " ++ target
  | some i => "ping -I " ++ i ++ " -c 2 -W 1 " ++ target

def neighborCommand (interface : String) : String := "ip neigh show dev " ++ interface

def listCommand : String := "ip -o link show | awk -F': ' '\x7bprint $2\x7d'"

structure Interfaces where
  rc : Int
  names : List String
  err : String

/-- The names that a listing shows: one a line, without what follows an at sign. -/
def namesOf (listing : String) : List String :=
  ((Text.linesChars listing.toList).map Text.trimChars).filterMap fun line =>
    if line.isEmpty then none else some (String.ofList (line.takeWhile (· != '@')))

variable {σ : Type}

def ping (lab : Lab σ) (host target : String) (interface : Option String) : Work σ Reply :=
  lab.shell host (pingCommand target interface)

def neighbors (lab : Lab σ) (host interface : String) : Work σ Reply :=
  lab.shell host (neighborCommand interface)

def interfaces (lab : Lab σ) (host : String) : Work σ Interfaces := do
  let r ← lab.shell host listCommand
  pure ⟨r.rc, namesOf r.stdout, r.stderr⟩

end FabricAudit.Host
