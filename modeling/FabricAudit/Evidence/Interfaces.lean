import FabricAudit.Document.Reading
import FabricAudit.Text.Case
import FabricAudit.Text.Lines
import FabricAudit.Text.Search

set_option autoImplicit false

/-! # Tables of interfaces

The output of `show interfaces description`: one interface a line, with its status, the status of
its protocol and its description, separated by blanks. Headings and lines of fewer than three words
are skipped.
-/

namespace FabricAudit

structure Interface where
  name : String
  /-- Its status, in lower case. -/
  status : String
  /-- The status of its protocol, in lower case. -/
  protocol : String
  /-- Its description: words with single spaces between them. -/
  description : String
  deriving DecidableEq, Repr

namespace Interface

def isUp (i : Interface) : Bool := i.status == "up" && i.protocol == "up"

/-- The name of an interface with what is known of its status. -/
def label (i : Interface) : String := i.name ++ ":" ++ i.status ++ "/" ++ i.protocol

def toDocument (i : Interface) : Document :=
  .ofPairs [("interface", .text i.name), ("status", .text i.status),
    ("protocol", .text i.protocol), ("description", .text i.description)]

def nameField : Field String := .required "interface" Reader.text
def statusField : Field String := .required "status" Reader.text
def protocolField : Field String := .required "protocol" Reader.text
def descriptionField : Field String := .withDefault "description" "" Reader.text

def reader : Reader Interface :=
  Reader.record "struct InterfaceEntry"
    [nameField.erase, statusField.erase, protocolField.erase, descriptionField.erase]
    fun g => do
      .ok ⟨← g.take nameField, ← g.take statusField, ← g.take protocolField,
        ← g.take descriptionField⟩

def heading : List Char := "Interface".toList

def ofLine? (line : List Char) : Option Interface :=
  let line := Text.trimChars line
  if heading.isPrefixOf line then none
  else
    match (Text.wordsChars line).map String.ofList with
    | name :: status :: protocol :: description =>
      some ⟨name, Text.lower status, Text.lower protocol, Text.join " " description⟩
    | _ => none

def ofTable (text : String) : List Interface := (Text.linesChars text.toList).filterMap ofLine?

end Interface

end FabricAudit
