import FabricAudit.Drift.Baseline
import FabricAudit.Proofs.Document.Members
import FabricAudit.Proofs.Document.Record
import FabricAudit.Proofs.Document.Reread
import FabricAudit.Proofs.Drift.Evidence
import FabricAudit.Proofs.Drift.Snapshot
import FabricAudit.Proofs.Files.Save
import FabricAudit.Proofs.Time.RoundTrip

set_option autoImplicit false

/-! # Baselines read back

A snapshot that was collected or read has its nodes in the order of their names, and counts that fit
64 bits (`Snapshot.IsRegular`). Of such a snapshot nothing is lost when it is saved: its text is a
document that reads back (`Proofs/Document/Reread.lean`), the fields of that document are gathered
as they stand (`Proofs/Document/Record.lean`), and its moment is read back from its written form
(`Proofs/Time/RoundTrip.lean`).
-/

namespace FabricAudit

/-! ## Fingerprints -/

namespace Fingerprint

def written (f : Fingerprint) : Document :=
  .object [("hash", .text f.hash), ("key_count", .nat f.keyCount)]

theorem keyCount_lt_of_reader {x : Draft} {f : Fingerprint} (h : reader x = .ok f) :
    f.keyCount < 2 ^ 64 := by
  obtain ⟨g, h⟩ := Reader.record_eq_ok h
  obtain ⟨hash, -, h⟩ := Except.bind_eq_ok_iff.mp h
  obtain ⟨count, hcount, h⟩ := Except.bind_eq_ok_iff.mp h
  cases h
  obtain ⟨y, hy⟩ := Given.take_required hcount
  exact Reader.count_lt hy

/-- **A fingerprint is read back from its document.** -/
theorem reader_written {f : Fingerprint} (h : f.keyCount < 2 ^ 64) :
    reader f.written.toDraft = .ok f := by
  have hhash : hashField.read (.text f.hash) = .ok f.hash := rfl
  have hfield : keyCountField.read = Reader.count := rfl
  have hcount : keyCountField.read (.int f.keyCount) = .ok f.keyCount := by
    rw [hfield, Reader.count_of_lt h]
  have hread : ∀ m ∈ [("hash", Draft.text f.hash), ("key_count", Draft.int f.keyCount)],
      ∃ c, Reader.fieldNamed [hashField.erase, keyCountField.erase] m.1 = some c ∧ c.name = m.1 ∧
        c.check m.2 = .ok () := by
    intro m hm
    simp only [List.mem_cons, List.not_mem_nil, or_false] at hm
    rcases hm with rfl | rfl
    · exact ⟨hashField.erase, rfl, rfl, Reader.check_erase hhash⟩
    · exact ⟨keyCountField.erase, rfl, rfl, Reader.check_erase hcount⟩
  refine (Reader.record_object hread (by simp)).trans ?_
  rw [Given.take_of_lookup (f := hashField) (x := .text f.hash) rfl, hhash, Except.ok_bind,
    Given.take_of_lookup (f := keyCountField) (x := .int f.keyCount) rfl, hcount, Except.ok_bind]

end Fingerprint

namespace Snapshot

/-! ## Snapshots that are collected or read -/

/-- The nodes stand in the order of their names, and every count fits 64 bits. -/
structure IsRegular (s : Snapshot) : Prop where
  sorted : s.fingerprints.Pairwise fun m n => m.1 < n.1
  counts : ∀ m ∈ s.fingerprints, m.2.keyCount < 2 ^ 64

/-- **How a snapshot comes about**: it was collected of a fabric, or read from the draft of a text or
of a document. -/
inductive Arises : Snapshot → Prop where
  | collected {σ : Type} {subject : Subject σ} {now : Timestamp} {st st' : Audit.State σ}
      {s : Snapshot} (h : Drift.snapshot subject now st = (.ok s, st')) : Arises s
  | read {x : Draft} {s : Snapshot} (h : reader x = .ok s) : Arises s

theorem isRegular_of_collected {σ : Type} {subject : Subject σ} {now : Timestamp}
    {st st' : Audit.State σ} {s : Snapshot} (h : Drift.snapshot subject now st = (.ok s, st')) :
    s.IsRegular := by
  obtain ⟨members, st₁, hmembers, h⟩ := Audit.bind_eq_ok_iff.mp h
  cases h
  refine ⟨Keyed.pairwise_ofList members, fun m hm => ?_⟩
  have hall := (Audit.forall₂_of_mapM Audit.State.Grows.refl .trans
    (Drift.fingerprint_grows subject) _ hmembers).2
  obtain ⟨node, -, st₂, st₃, hprint, -⟩ := hall.exists_of_mem_right (Keyed.mem_of_mem_ofList hm)
  obtain ⟨-, interfaces, sessions, -, -, -, hcount⟩ := Drift.fingerprint_of_ok hprint
  rw [hcount]
  omega

theorem isRegular_of_read {x : Draft} {s : Snapshot} (h : reader x = .ok s) : s.IsRegular := by
  obtain ⟨g, h⟩ := Reader.record_eq_ok h
  obtain ⟨lab, -, h⟩ := Except.bind_eq_ok_iff.mp h
  obtain ⟨timestamp, -, h⟩ := Except.bind_eq_ok_iff.mp h
  obtain ⟨intentHash, -, h⟩ := Except.bind_eq_ok_iff.mp h
  obtain ⟨fingerprints, hfingerprints, h⟩ := Except.bind_eq_ok_iff.mp h
  cases h
  rcases Given.take_eq_ok hfingerprints with ⟨y, hy⟩ | habsent
  · obtain ⟨ms, hms, rfl⟩ := Except.map_eq_ok_iff.mp hy
    refine ⟨Keyed.pairwise_ofList ms, fun m hm => ?_⟩
    obtain ⟨z, hz⟩ := Reader.members_eq_ok hms m (Keyed.mem_of_mem_ofList hm)
    exact Fingerprint.keyCount_lt_of_reader hz
  · cases habsent
    exact ⟨.nil, nofun⟩

theorem Arises.isRegular {s : Snapshot} (h : s.Arises) : s.IsRegular := by
  cases h with
  | collected h => exact isRegular_of_collected h
  | read h => exact isRegular_of_read h

/-! ## The text of a baseline file -/

/-- The fingerprints of a regular snapshot are read back. -/
theorem read_fingerprints {s : Snapshot} (h : s.IsRegular) :
    fingerprintsField.read (.object (Document.membersToDraft (s.fingerprints.map fun m =>
      (m.1, m.2.written))) none) = .ok s.fingerprints := by
  have hdrafts : Document.membersToDraft (s.fingerprints.map fun m => (m.1, m.2.written))
      = s.fingerprints.map fun m => (m.1, m.2.written.toDraft) := by
    rw [Document.membersToDraft_eq_map, List.map_map]
    rfl
  have hread : Reader.members Fingerprint.reader
      (.object (s.fingerprints.map fun m => (m.1, m.2.written.toDraft)) none)
        = .ok s.fingerprints := by
    refine Reader.members_of_forall₂ ?_
    rw [List.forall₂_map_left_iff, List.forall₂_same]
    intro m hm
    exact ⟨rfl, Fingerprint.reader_written (h.counts m hm)⟩
  rw [hdrafts]
  exact Except.map_eq_ok_iff.mpr ⟨s.fingerprints, hread, Keyed.ofList_of_pairwise h.sorted⟩

/-- **A regular snapshot is read back from its document.** -/
theorem reader_members {s : Snapshot} (h : s.IsRegular) :
    reader (Document.object s.members).toDraft = .ok s := by
  have hlab : labField.read (.text s.lab) = .ok s.lab := rfl
  have hfield : timestampField.read = Timestamp.reader := rfl
  have htimestamp : timestampField.read (.text s.timestamp.toText) = .ok s.timestamp := by
    rw [hfield, Timestamp.reader_toText]
  have hintent : intentHashField.read (.text s.intentHash) = .ok s.intentHash := rfl
  have hfingerprints := read_fingerprints h
  let given : List (String × Draft) := [("lab", .text s.lab),
    ("timestamp", .text s.timestamp.toText), ("intent_hash", .text s.intentHash),
    ("fingerprints", .object (Document.membersToDraft (s.fingerprints.map fun m =>
      (m.1, m.2.written))) none)]
  -- every member names a field that can read it
  have hread : ∀ m ∈ given, ∃ c, Reader.fieldNamed [labField.erase, timestampField.erase,
      intentHashField.erase, fingerprintsField.erase] m.1 = some c ∧ c.name = m.1 ∧
        c.check m.2 = .ok () := by
    intro m hm
    simp only [given, List.mem_cons, List.not_mem_nil, or_false] at hm
    rcases hm with rfl | rfl | rfl | rfl
    · exact ⟨labField.erase, rfl, rfl, Reader.check_erase hlab⟩
    · exact ⟨timestampField.erase, rfl, rfl, Reader.check_erase htimestamp⟩
    · exact ⟨intentHashField.erase, rfl, rfl, Reader.check_erase hintent⟩
    · exact ⟨fingerprintsField.erase, rfl, rfl, Reader.check_erase hfingerprints⟩
  refine (Reader.record_object hread (by simp [given])).trans ?_
  rw [Given.take_of_lookup (f := labField) (x := .text s.lab) rfl, hlab, Except.ok_bind,
    Given.take_of_lookup (f := timestampField) (x := .text s.timestamp.toText) rfl, htimestamp,
    Except.ok_bind,
    Given.take_of_lookup (f := intentHashField) (x := .text s.intentHash) rfl, hintent,
    Except.ok_bind,
    Given.take_of_lookup (f := fingerprintsField) rfl, hfingerprints, Except.ok_bind]

/-- Its numbers are integers of 64 bits. -/
theorem integral_members {s : Snapshot} (h : s.IsRegular) :
    (Document.object s.members).Integral := by
  have hfingerprints : Document.IntegralMembers (s.fingerprints.map fun m =>
      (m.1, m.2.written)) := by
    rw [Document.integralMembers_iff]
    intro m hm
    obtain ⟨n, hn, rfl⟩ := List.mem_map.mp hm
    have hcount := h.counts n hn
    refine ⟨trivial, ⟨?_, ?_⟩, trivial⟩
    · omega
    · omega
  exact ⟨trivial, trivial, trivial, hfingerprints, trivial⟩

/-- **So it is read back from the text of its file.** -/
theorem ofText_toText {s : Snapshot} (h : s.IsRegular) : ofText s.toText = .ok s := by
  have htext : Draft.ofText s.toText = ((Document.object s.members).toDraft, none) :=
    Document.ofText_pretty_of_integral (integral_members h)
  rw [ofText, Reader.file, htext]
  simp only [reader_members h]

/-- Nothing has changed between a snapshot and itself. -/
theorem differences_self (s : Snapshot) : s.differences s = [] :=
  (differences_eq_nil_iff s s).mpr ⟨rfl, rfl, fun _ => rfl⟩

end Snapshot

/-! ## Saving and loading -/

namespace Baseline

/-- The file that a regular snapshot was saved to holds its text, and loads as the snapshot. -/
theorem load_of_save {s : Snapshot} (h : s.IsRegular) {files files' : FileTree} {path : String}
    (hsave : save path s files = (.ok (), files')) :
    files'.read path = .ok s.toText ∧ load files' path = .ok s := by
  have hread : files'.read path = .ok s.toText := FileTree.read_of_save hsave
  refine ⟨hread, ?_⟩
  rw [load, hread, Except.mapError, Except.ok_bind, Snapshot.ofText_toText h, Except.mapError]

/-- **Saved baselines load as what was saved.** Take a snapshot that was collected or read. Its text
reads back as the snapshot; and if it is saved, whatever the path and whatever the files before, the
file loads as the snapshot. So what is loaded has the same text, saving it again leaves the content
of the file as it is, and there is no difference between the two in either direction. -/
theorem load_save (s : Snapshot) (h : s.Arises) :
    Snapshot.ofText s.toText = .ok s ∧
      ∀ (files files' : FileTree) (path : String), save path s files = (.ok (), files') →
        load files' path = .ok s ∧
        ∀ loaded, load files' path = .ok loaded →
          loaded.toText = s.toText ∧
          (∀ after, save path loaded files' = (.ok (), after) →
            after.read path = files'.read path) ∧
          s.differences loaded = [] ∧ loaded.differences s = [] := by
  have hregular := h.isRegular
  refine ⟨Snapshot.ofText_toText hregular, fun files files' path hsave => ?_⟩
  obtain ⟨hread, hload⟩ := load_of_save hregular hsave
  refine ⟨hload, fun loaded hloaded => ?_⟩
  obtain rfl : s = loaded := Except.ok.inj (hload.symm.trans hloaded)
  refine ⟨rfl, fun after hafter => ?_, s.differences_self, s.differences_self⟩
  rw [hread, (load_of_save hregular hafter).1]

/-- A snapshot before the first year with four digits, in a leap second and with a fraction of it, of
nodes with a control character and with a letter that is not ASCII in their names, and with the
greatest count. -/
def oddSnapshot : Snapshot :=
  ⟨"a \"lab\"", ⟨⟨-44, 12, 31, by decide⟩, 23, 59, 60, 120000000, by decide⟩, "",
    [("\x01", ⟨"x", 0⟩), ("é", ⟨"\\", 18446744073709551615⟩)]⟩

/-- It reads from its own document, and is saved under a directory that is made for it. -/
theorem load_save_oddSnapshot :
    oddSnapshot.Arises ∧ Snapshot.ofText oddSnapshot.toText = .ok oddSnapshot ∧
      ∃ files', save "a/b" oddSnapshot (FileTree.empty []) = (.ok (), files') ∧
        load files' "a/b" = .ok oddSnapshot := by
  have hregular : oddSnapshot.IsRegular := ⟨by decide, by decide⟩
  have harises : oddSnapshot.Arises := .read (Snapshot.reader_members hregular)
  obtain ⟨htext, hload⟩ := load_save oddSnapshot harises
  have hsave : ∃ files', save "a/b" oddSnapshot (FileTree.empty []) = (.ok (), files') :=
    ⟨_, rfl⟩
  obtain ⟨files', hsave⟩ := hsave
  exact ⟨harises, htext, files', hsave, (hload _ _ _ hsave).1⟩

end Baseline

end FabricAudit
