import FabricAudit.Evidence.Collect
import FabricAudit.Proofs.Document.Redraft
import FabricAudit.Proofs.Text.Search

set_option autoImplicit false

/-! # Tables of sessions, line by line

What counts in the output of `show bgp summary` are its lines about neighbours (`IsNeighbor`), and
among them those that say that their session is established. The counts of a table are the numbers
of these lines (`Sessions.ofTable_eq`), so there are never more established sessions than sessions,
and as many only if every line about a neighbour says so. The counts stand in the record of the
command as a document, from which they are read back (`Record.readAt_sessionsData`).
-/

namespace FabricAudit

/-! ## Lines -/

/-- A line about a neighbour: apart from blanks around it, it begins with digits and a dot. -/
def IsNeighbor (line : List Char) : Prop :=
  ∃ digits rest, Text.trimChars line = digits ++ '.' :: rest ∧ digits ≠ [] ∧
    ∀ d ∈ digits, '0' ≤ d ∧ d ≤ '9'

/-- **Lines about neighbours are told** by the run of digits that they begin with, and by what
follows it. -/
theorem isNeighborLine_iff {line : List Char} : isNeighborLine line = true ↔ IsNeighbor line := by
  rw [isNeighborLine, IsNeighbor]
  generalize Text.trimChars line = trimmed
  simp only [Bool.and_eq_true, Bool.not_eq_true', List.isEmpty_eq_false_iff, beq_iff_eq]
  constructor
  · rintro ⟨hdigits, hdot⟩
    have hsplit : trimmed.takeWhile Decimal.isDigit ++ trimmed.dropWhile Decimal.isDigit
        = trimmed := List.takeWhile_append_dropWhile
    have hrest : (trimmed.takeWhile Decimal.isDigit ++ trimmed.dropWhile Decimal.isDigit).drop
        (trimmed.takeWhile Decimal.isDigit).length = trimmed.dropWhile Decimal.isDigit :=
      List.drop_left
    rw [hsplit] at hrest
    obtain ⟨rest, hdropped⟩ := List.head?_eq_some_iff.mp hdot
    refine ⟨trimmed.takeWhile Decimal.isDigit, rest, ?_, hdigits, fun d hd => ?_⟩
    · rw [← hdropped, hrest, hsplit]
    · exact Decimal.isDigit_iff_between.mp (List.mem_takeWhile_imp hd)
  · rintro ⟨digits, rest, rfl, hdigits, hall⟩
    -- the dot is no digit, so the run of digits ends before it
    have hrun : (digits ++ '.' :: rest).takeWhile Decimal.isDigit = digits := by
      rw [List.takeWhile_append_of_pos fun d hd => Decimal.isDigit_iff_between.mpr (hall d hd),
        List.takeWhile_cons_of_neg (by decide), List.append_nil]
    rw [hrun, List.drop_left]
    exact ⟨hdigits, rfl⟩

instance : DecidablePred IsNeighbor := fun _ => decidable_of_iff _ isNeighborLine_iff

/-- A line says that a session is established. -/
def SaysEstablished (line : List Char) : Prop := "Established".toList <:+: line

theorem occursIn_establishedWord_iff {line : List Char} :
    Text.occursIn establishedWord line = true ↔ SaysEstablished line := Text.occursIn_iff

instance : DecidablePred SaysEstablished :=
  fun _ => decidable_of_iff _ occursIn_establishedWord_iff

/-! ## Counts -/

/-- The lines of a table about neighbours. -/
def neighborLines (text : String) : List (List Char) :=
  (Text.linesChars text.toList).filter IsNeighbor

def establishedLines (text : String) : List (List Char) :=
  (neighborLines text).filter SaysEstablished

theorem length_neighborLines_le (text : String) :
    (neighborLines text).length ≤ (Text.linesChars text.toList).length :=
  List.length_filter_le _ _

theorem length_establishedLines_le (text : String) :
    (establishedLines text).length ≤ (neighborLines text).length :=
  List.length_filter_le _ _

theorem length_establishedLines_le_lines (text : String) :
    (establishedLines text).length ≤ (Text.linesChars text.toList).length :=
  (length_establishedLines_le text).trans (length_neighborLines_le text)

/-- There are as many established sessions as sessions exactly if all of them are established. -/
theorem length_establishedLines_eq_iff {text : String} :
    (establishedLines text).length = (neighborLines text).length ↔
      ∀ line ∈ neighborLines text, SaysEstablished line := by
  rw [establishedLines, List.length_filter_eq_length_iff]
  simp only [decide_eq_true_iff]

/-- There are established sessions exactly if one is established. -/
theorem length_establishedLines_pos_iff {text : String} :
    0 < (establishedLines text).length ↔ ∃ line ∈ neighborLines text, SaysEstablished line := by
  rw [List.length_pos_iff_exists_mem]
  simp only [establishedLines, List.mem_filter, decide_eq_true_iff]

/-- **The counts of a table** are the numbers of its lines about neighbours, with an established
session and in all. -/
theorem Sessions.ofTable_eq (text : String) :
    Sessions.ofTable text = ⟨(establishedLines text).length, (neighborLines text).length⟩ := by
  have hneighbor : ∀ line, isNeighborLine line = decide (IsNeighbor line) := by
    intro line
    rw [Bool.eq_iff_iff, isNeighborLine_iff, decide_eq_true_iff]
  have hestablished : ∀ line,
      isEstablishedLine line = (decide (IsNeighbor line) && decide (SaysEstablished line)) := by
    intro line
    rw [isEstablishedLine, hneighbor, Bool.eq_iff_iff, Bool.and_eq_true, Bool.and_eq_true,
      occursIn_establishedWord_iff, decide_eq_true_iff, decide_eq_true_iff]
  rw [Sessions.ofTable, establishedLines, neighborLines, List.filter_filter,
    List.countP_eq_length_filter, List.countP_eq_length_filter]
  congr 2
  · refine List.filter_congr fun line _ => ?_
    rw [hestablished, Bool.and_comm]
  · exact List.filter_congr fun line _ => hneighbor line

theorem EvpnSummary.ofTable_eq (text : String) :
    EvpnSummary.ofTable text = ⟨(neighborLines text).length, (establishedLines text).length⟩ := by
  rw [EvpnSummary.ofTable, Sessions.ofTable_eq]

/-! ## Records -/

/-- Two counts that fit are read back from an object with their names. -/
theorem Reader.document_counts {α : Type} {title name name' : String} (build : Nat → Nat → α)
    (hne : name ≠ name') {m n : Nat} (hm : m < 2 ^ 64) (hn : n < 2 ^ 64) :
    (Reader.record title
      [(Field.required name Reader.count).erase, (Field.required name' Reader.count).erase]
      fun g => do
        .ok (build (← g.take (.required name Reader.count))
          (← g.take (.required name' Reader.count)))).document
      (.ofPairs [(name, .nat m), (name', .nat n)]) = .ok (build m n) := by
  have hcount : ∀ {field : String} {k : Nat}, k < 2 ^ 64 →
      (Field.required field Reader.count).read.document (.nat k) = .ok k := by
    intro field k hk
    simp only [Reader.document, Field.required, Document.nat, Document.toDraft]
    exact Reader.count_of_lt hk
  have hget : Keyed.get? (Keyed.ofList [(name, Document.nat m), (name', .nat n)]) name
      = some (.nat m) := Keyed.get?_ofList_of_mem (by simp) (by simp [hne])
  have hget' : Keyed.get? (Keyed.ofList [(name, Document.nat m), (name', .nat n)]) name'
      = some (.nat n) := Keyed.get?_ofList_of_mem (by simp) (by simp [hne.symm])
  refine (Reader.document_record fun p hp => ?_).trans ?_
  · simp only [List.mem_cons, List.not_mem_nil, or_false] at hp
    rcases hp with rfl | rfl
    · refine ⟨(Field.required name Reader.count).erase, ?_, rfl, Reader.check_erase (hcount hm)⟩
      exact List.find?_cons_of_pos (by simp [Field.erase, Field.required])
    -- the second name is looked for behind the first one
    · refine ⟨(Field.required name' Reader.count).erase, ?_, rfl, Reader.check_erase (hcount hn)⟩
      rw [Reader.fieldNamed, List.find?_cons_of_neg (by simp [Field.erase, Field.required, hne])]
      exact List.find?_cons_of_pos (by simp [Field.erase, Field.required])
  · rw [Given.take_ofMembers hget, hcount hm, Except.ok_bind, Given.take_ofMembers hget', hcount hn,
      Except.ok_bind]

theorem Sessions.document_reader {s : Sessions} (hestablished : s.established < 2 ^ 64)
    (htotal : s.total < 2 ^ 64) : Sessions.reader.document s.toDocument = .ok s :=
  Reader.document_counts Sessions.mk (by decide) hestablished htotal

theorem EvpnSummary.document_reader {s : EvpnSummary} (hneighbors : s.neighbors < 2 ^ 64)
    (hestablished : s.established < 2 ^ 64) :
    EvpnSummary.reader.document s.toDocument = .ok s :=
  Reader.document_counts EvpnSummary.mk (by decide) hneighbors hestablished

/-- A part of a record that is an object is read as it stands. -/
theorem Record.readAt_of_get? {α : Type} {record : Record} {key : String} {absent : α}
    {reader : Reader α} {ms : Members} (h : record.data.get? key = some (.object ms)) :
    record.readAt key absent reader = reader.document (.object ms) := by
  rw [Record.readAt, h]

/-- **The counts in the record of a table are those of the table.** -/
theorem Record.readAt_sessionsData {source : Source} {r : Reply}
    (h : (Text.linesChars r.stdout.toList).length < 2 ^ 64) :
    (Record.mk source (Evidence.sessionsData r)).readAt "parsed" Sessions.none Sessions.reader
      = .ok (Sessions.ofTable r.stdout) := by
  have hget : (Evidence.sessionsData r).get? "parsed"
      = some (Sessions.ofTable r.stdout).toDocument :=
    Keyed.get?_ofList_of_mem (by simp) (by simp)
  refine (Record.readAt_of_get? hget).trans (Sessions.document_reader ?_ ?_)
  · rw [Sessions.ofTable_eq]
    exact (length_establishedLines_le_lines _).trans_lt h
  · rw [Sessions.ofTable_eq]
    exact (length_neighborLines_le _).trans_lt h

/-- So are those in the record of the tables that tell of EVPN sessions. -/
theorem Record.readAt_evpnData {source : Source} {bgp evpn : Reply}
    (h : (Text.linesChars bgp.stdout.toList).length < 2 ^ 64) :
    (Record.mk source (Evidence.evpnData bgp evpn)).readAt "summary" EvpnSummary.none
      EvpnSummary.reader = .ok (EvpnSummary.ofTable bgp.stdout) := by
  have hget : (Evidence.evpnData bgp evpn).get? "summary"
      = some (EvpnSummary.ofTable bgp.stdout).toDocument :=
    Keyed.get?_ofList_of_mem (by simp) (by simp)
  refine (Record.readAt_of_get? hget).trans (EvpnSummary.document_reader ?_ ?_)
  · rw [EvpnSummary.ofTable_eq]
    exact (length_neighborLines_le _).trans_lt h
  · rw [EvpnSummary.ofTable_eq]
    exact (length_establishedLines_le_lines _).trans_lt h

end FabricAudit
