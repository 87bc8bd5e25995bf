import FabricAudit.Proofs.Evidence.Interfaces
import FabricAudit.Proofs.Evidence.Sessions
import FabricAudit.Proofs.Text.Filled

set_option autoImplicit false

/-! # Tables in parts

What is read of a table depends on its filled lines alone: the interfaces are those that its filled
lines show, in order, and the sessions are counted among them. So the tables of interfaces and of
sessions are read by lines (`tables_readByLine`): of two texts with a newline between them the
interfaces are those of the one and then those of the other, and the counts of sessions are added.
-/

namespace FabricAudit

/-! ## Interfaces -/

namespace Interface

theorem ofLine?_trimChars (line : List Char) : ofLine? (Text.trimChars line) = ofLine? line := by
  rw [ofLine?, ofLine?, Text.trimChars_trimChars]

/-- **The interfaces of a table are those that its filled lines show.** -/
theorem ofTable_eq_filterMap (text : String) :
    ofTable text = (Text.filledLines text.toList).filterMap ofLine? := by
  have hnone : ofLine? [] = none := ofLine?_of_wordsChars_eq_nil rfl
  rw [ofTable, Text.filterMap_filledLines ofLine?_trimChars hnone]

theorem ofTable_readsByLine : Text.ReadsByLine ofTable (List.filterMap ofLine?) (· ++ ·) :=
  .of_eq_gather ofTable_eq_filterMap fun _ _ => List.filterMap_append

end Interface

/-! ## Sessions -/

/-- The sessions of two tables: either count is the sum of both. -/
instance : Add Sessions := ⟨fun s t => ⟨s.established + t.established, s.total + t.total⟩⟩

theorem Sessions.add_eq (s t : Sessions) :
    s + t = ⟨s.established + t.established, s.total + t.total⟩ := rfl

/-- The EVPN sessions of two tables, added in the same way. -/
instance : Add EvpnSummary :=
  ⟨fun s t => ⟨s.neighbors + t.neighbors, s.established + t.established⟩⟩

theorem isNeighborLine_trimChars (line : List Char) :
    isNeighborLine (Text.trimChars line) = isNeighborLine line := by
  rw [isNeighborLine, isNeighborLine, Text.trimChars_trimChars]

/-- The word for an established session is looked for in the whole line. It has no blank at its
ends, so that trimming does not matter to it either. -/
theorem isEstablishedLine_trimChars (line : List Char) :
    isEstablishedLine (Text.trimChars line) = isEstablishedLine line := by
  have hword : Text.occursIn establishedWord (Text.trimChars line)
      = Text.occursIn establishedWord line := by
    rw [Bool.eq_iff_iff, Text.occursIn_iff, Text.occursIn_iff]
    exact Text.infix_trimChars rfl rfl line
  rw [isEstablishedLine, isEstablishedLine, isNeighborLine_trimChars, hword]

namespace Sessions

def ofLines (lines : List (List Char)) : Sessions :=
  ⟨lines.countP isEstablishedLine, lines.countP isNeighborLine⟩

theorem ofLines_append (front back : List (List Char)) :
    ofLines (front ++ back) = ofLines front + ofLines back := by
  rw [ofLines, ofLines, ofLines, add_eq, List.countP_append, List.countP_append]

/-- Lines are counted in any order. -/
theorem ofLines_perm {lines lines' : List (List Char)} (h : lines.Perm lines') :
    ofLines lines = ofLines lines' := by
  rw [ofLines, ofLines, h.countP_eq, h.countP_eq]

/-- **The sessions of a table are those that its filled lines tell of.** -/
theorem ofTable_eq_ofLines (text : String) :
    ofTable text = ofLines (Text.filledLines text.toList) := by
  rw [ofTable, ofLines, Text.countP_filledLines isEstablishedLine_trimChars rfl,
    Text.countP_filledLines isNeighborLine_trimChars rfl]

theorem ofTable_readsByLine : Text.ReadsByLine ofTable ofLines (· + ·) :=
  .of_eq_gather ofTable_eq_ofLines ofLines_append

end Sessions

namespace EvpnSummary

def ofLines (lines : List (List Char)) : EvpnSummary :=
  ⟨(Sessions.ofLines lines).total, (Sessions.ofLines lines).established⟩

theorem ofLines_append (front back : List (List Char)) :
    ofLines (front ++ back) = ofLines front + ofLines back := by
  rw [ofLines, Sessions.ofLines_append]
  rfl

theorem ofTable_eq_ofLines (text : String) :
    ofTable text = ofLines (Text.filledLines text.toList) := by
  rw [ofTable, ofLines, Sessions.ofTable_eq_ofLines]

theorem ofTable_readsByLine : Text.ReadsByLine ofTable ofLines (· + ·) :=
  .of_eq_gather ofTable_eq_ofLines ofLines_append

end EvpnSummary

/-! ## Tables -/

/-- **Tables are read by lines.**

What is read of a text is gathered from its filled lines, each of them read on its own. So put two
texts together with a newline between them, whatever they are and whatever the first one ends with:
the interfaces read are those of the first text and then those of the second one, and either count
of sessions is the sum of both. Blank lines change nothing that is read, wherever they stand and
however many they are. And where two texts have the same filled lines in any order, the same
interfaces are read in some order, and the counts of sessions are the same. -/
theorem tables_readByLine :
    Text.ReadsByLine Interface.ofTable (List.filterMap Interface.ofLine?) (· ++ ·) ∧
    Text.ReadsByLine Sessions.ofTable Sessions.ofLines (· + ·) ∧
    Text.ReadsByLine EvpnSummary.ofTable EvpnSummary.ofLines (· + ·) ∧
    ∀ s t : String, (Text.filledLines s.toList).Perm (Text.filledLines t.toList) →
      (Interface.ofTable s).Perm (Interface.ofTable t) ∧
      Sessions.ofTable s = Sessions.ofTable t ∧
      EvpnSummary.ofTable s = EvpnSummary.ofTable t := by
  refine ⟨Interface.ofTable_readsByLine, Sessions.ofTable_readsByLine,
    EvpnSummary.ofTable_readsByLine, fun s t hlines => ?_⟩
  have hsessions : Sessions.ofTable s = Sessions.ofTable t := by
    rw [Sessions.ofTable_eq_ofLines, Sessions.ofTable_eq_ofLines, Sessions.ofLines_perm hlines]
  refine ⟨?_, hsessions, ?_⟩
  · rw [Interface.ofTable_eq_filterMap, Interface.ofTable_eq_filterMap]
    exact hlines.filterMap Interface.ofLine?
  · rw [EvpnSummary.ofTable, EvpnSummary.ofTable, hsessions]

/-- Two neighbours, one of them with an established session. -/
def neighborRows : String := "10.0.0.1 4 65000 Established\r\n 10.0.0.2 4 65001 Idle"

/-- The same lines the other way round, with blank ones before and between them. The last carriage
return belongs to no ending. -/
def reversedRows : String :=
  "\r\n10.0.0.2 4 65001 Idle\n\u00a0\t\n\n10.0.0.1 4 65000 Established\r"

theorem tables_readByLine_reversedRows :
    (Text.filledLines neighborRows.toList).Perm (Text.filledLines reversedRows.toList) ∧
    (Interface.ofTable neighborRows).Perm (Interface.ofTable reversedRows) ∧
    Sessions.ofTable neighborRows = ⟨1, 2⟩ ∧
    Sessions.ofTable reversedRows = ⟨1, 2⟩ ∧
    EvpnSummary.ofTable neighborRows = EvpnSummary.ofTable reversedRows := by
  have hlines :
      (Text.filledLines neighborRows.toList).Perm (Text.filledLines reversedRows.toList) := by
    decide +kernel
  have hcounts : Sessions.ofTable neighborRows = ⟨1, 2⟩ := by decide +kernel
  obtain ⟨-, -, -, hordered⟩ := tables_readByLine
  obtain ⟨hinterfaces, hsessions, hevpn⟩ := hordered _ _ hlines
  exact ⟨hlines, hinterfaces, hcounts, hsessions.symm.trans hcounts, hevpn⟩

end FabricAudit
