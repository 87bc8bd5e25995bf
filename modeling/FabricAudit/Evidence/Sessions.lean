import FabricAudit.Document.Reading
import FabricAudit.Text.Lines
import FabricAudit.Text.Search

set_option autoImplicit false

/-! # Tables of sessions

The output of `show bgp summary`: a line that begins with digits and a dot is about a neighbour, and
its session is established if the line says so. Everything else is heading.
-/

namespace FabricAudit

/-- Whether a line is about a neighbour: after trimming it begins with digits and a dot. -/
def isNeighborLine (line : List Char) : Bool :=
  let trimmed := Text.trimChars line
  let digits := trimmed.takeWhile Decimal.isDigit
  !digits.isEmpty && (trimmed.drop digits.length).head? == some '.'

def establishedWord : List Char := "Established".toList

def isEstablishedLine (line : List Char) : Bool :=
  isNeighborLine line && Text.occursIn establishedWord line

structure Sessions where
  established : Nat
  total : Nat
  deriving DecidableEq, Repr

namespace Sessions

def none : Sessions := ⟨0, 0⟩

def ofTable (text : String) : Sessions :=
  let lines := Text.linesChars text.toList
  ⟨lines.countP isEstablishedLine, lines.countP isNeighborLine⟩

def toDocument (s : Sessions) : Document :=
  .ofPairs [("established", .nat s.established), ("total", .nat s.total)]

def establishedField : Field Nat := .required "established" Reader.count
def totalField : Field Nat := .required "total" Reader.count

def reader : Reader Sessions :=
  Reader.record "struct BgpSummary" [establishedField.erase, totalField.erase]
    fun g => do .ok ⟨← g.take establishedField, ← g.take totalField⟩

end Sessions

structure EvpnSummary where
  neighbors : Nat
  established : Nat
  deriving DecidableEq, Repr

namespace EvpnSummary

def none : EvpnSummary := ⟨0, 0⟩

def ofTable (text : String) : EvpnSummary :=
  let s := Sessions.ofTable text
  ⟨s.total, s.established⟩

def toDocument (s : EvpnSummary) : Document :=
  .ofPairs [("neighbors", .nat s.neighbors), ("established", .nat s.established)]

def neighborsField : Field Nat := .required "neighbors" Reader.count
def establishedField : Field Nat := .required "established" Reader.count

def reader : Reader EvpnSummary :=
  Reader.record "struct EvpnSummary" [neighborsField.erase, establishedField.erase]
    fun g => do .ok ⟨← g.take neighborsField, ← g.take establishedField⟩

end EvpnSummary

end FabricAudit
