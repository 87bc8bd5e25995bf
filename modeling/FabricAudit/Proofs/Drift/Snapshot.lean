import FabricAudit.Drift.Detection
import FabricAudit.Proofs.Document.Members
import FabricAudit.Proofs.Drift.Difference

set_option autoImplicit false

/-! # What of a snapshot is compared

The document that stands for a snapshot in a comparison has three members: the fingerprints of the
nodes, that of the intent, and the name of the lab. The moment is not among them, so it never makes
a difference. `differences_eq` writes out the list that comes of the comparison.
-/

namespace FabricAudit

theorem Fingerprint.toDocument_eq (f : Fingerprint) :
    f.toDocument = .object [("hash", .text f.hash), ("key_count", .nat f.keyCount)] := by
  simp only [toDocument, Document.ofPairs, Keyed.ofList, List.foldl_cons, List.foldl_nil,
    Keyed.insert, String.reduceEq, String.reduceLT, if_false]

namespace Snapshot

/-- The fingerprints of a snapshot, as they are compared. -/
def fingerprintMembers (s : Snapshot) : Members :=
  s.fingerprints.map fun m => (m.1, m.2.toDocument)

theorem toDocument_eq (s : Snapshot) :
    s.toDocument = .object [("fingerprints", .object s.fingerprintMembers),
      ("intent_hash", .text s.intentHash), ("lab", .text s.lab),
      ("timestamp", .text s.timestamp.toText)] := by
  simp only [toDocument, members, Document.ofPairs, Keyed.ofList, List.foldl_cons, List.foldl_nil,
    Keyed.insert, fingerprintMembers, Fingerprint.toDocument_eq, String.reduceEq, String.reduceLT,
    if_true, if_false]

/-- **What is compared of a snapshot.** -/
theorem comparable_eq (s : Snapshot) :
    s.comparable = .object [("fingerprints", .object s.fingerprintMembers),
      ("intent_hash", .text s.intentHash), ("lab", .text s.lab)] := by
  rw [comparable, toDocument_eq]
  simp [Document.withoutVolatile, Document.volatileKeys]

/-! ## The moment -/

/-- The snapshot, as if it had been taken at another moment. -/
def stamped (now : Timestamp) (s : Snapshot) : Snapshot := { s with timestamp := now }

theorem comparable_stamped (now : Timestamp) (s : Snapshot) :
    (s.stamped now).comparable = s.comparable := by
  rw [comparable_eq, comparable_eq]
  rfl

theorem differences_stamped (now : Timestamp) (baseline current : Snapshot) :
    baseline.differences (current.stamped now) = baseline.differences current := by
  rw [differences, differences, comparable_stamped]

end Snapshot

/-! ## The difference, node by node -/

namespace Fingerprint

/-- What is listed about a node, given its fingerprints before and after. -/
def entries (path : String) : Option Fingerprint → Option Fingerprint → List Difference
  | none, none => []
  | none, some new => [⟨path, .added, none, some new.toDocument⟩]
  | some old, none => [⟨path, .removed, some old.toDocument, none⟩]
  | some old, some new =>
    Difference.ofChange (path ++ ".hash") .text old.hash new.hash
      ++ Difference.ofChange (path ++ ".key_count") .nat old.keyCount new.keyCount

/-- Nothing is listed about a node exactly if its fingerprint is what it was. -/
theorem entries_eq_nil_iff {path : String} {old new : Option Fingerprint} :
    entries path old new = [] ↔ old = new := by
  rcases old with _ | ⟨hash, count⟩ <;> rcases new with _ | ⟨hash', count'⟩ <;> simp [entries]

/-- Fingerprints are objects, so two of them are walked in turn. -/
theorem entriesFor_toDocument {path : String} (hpath : path ≠ "") (old new : Option Fingerprint) :
    Difference.entriesFor path (old.map toDocument) (new.map toDocument)
      = entries path old new := by
  rcases old with _ | old <;> rcases new with _ | new
  · rfl
  · rfl
  · rfl
  · have hkeys : Difference.unionKeys [("hash", .text old.hash), ("key_count", .nat old.keyCount)]
        [("hash", .text new.hash), ("key_count", .nat new.keyCount)] = ["hash", "key_count"] := by
      show Text.sortedSet ["hash", "key_count", "hash", "key_count"] = _
      decide
    show Difference.ofValues path old.toDocument new.toDocument = _
    rw [toDocument_eq, toDocument_eq]
    change Difference.ofMembers path _ _ = _
    rw [Difference.ofMembers_eq_flatMap, hkeys]
    simp [Difference.entriesFor, Keyed.get?_cons, Difference.under, hpath, entries,
      String.append_assoc]

end Fingerprint

namespace Snapshot

theorem get?_fingerprintMembers (s : Snapshot) (node : String) :
    Keyed.get? s.fingerprintMembers node
      = (Keyed.get? s.fingerprints node).map Fingerprint.toDocument :=
  Keyed.get?_map Fingerprint.toDocument s.fingerprints node

/-- The nodes of two snapshots, each once, in order. -/
def unionNodes (baseline current : Snapshot) : List String :=
  Text.sortedSet (Keyed.keys baseline.fingerprints ++ Keyed.keys current.fingerprints)

theorem mem_unionNodes {baseline current : Snapshot} {node : String} :
    node ∈ baseline.unionNodes current ↔
      node ∈ Keyed.keys baseline.fingerprints ∨ node ∈ Keyed.keys current.fingerprints := by
  rw [unionNodes, Text.mem_sortedSet, List.mem_append]

/-- What is listed about a node of two snapshots. -/
def nodeEntries (baseline current : Snapshot) (node : String) : List Difference :=
  Fingerprint.entries ("fingerprints." ++ node) (Keyed.get? baseline.fingerprints node)
    (Keyed.get? current.fingerprints node)

/-- The fingerprints of two snapshots are compared node by node. -/
theorem ofMembers_fingerprintMembers (baseline current : Snapshot) :
    Difference.ofMembers "fingerprints" baseline.fingerprintMembers current.fingerprintMembers
      = (baseline.unionNodes current).flatMap (baseline.nodeEntries current) := by
  have hkeys : ∀ s : Snapshot, Keyed.keys s.fingerprintMembers = Keyed.keys s.fingerprints :=
    fun s => List.map_map
  rw [Difference.ofMembers_eq_flatMap, Difference.unionKeys, hkeys, hkeys, unionNodes]
  refine List.flatMap_congr fun node _ => ?_
  have hpath : Difference.under "fingerprints" node = "fingerprints." ++ node := by
    simp [Difference.under]
  rw [get?_fingerprintMembers, get?_fingerprintMembers, hpath]
  exact Fingerprint.entriesFor_toDocument (by simp) _ _

/-- **The difference of two snapshots**: that of their fingerprints, node by node, then that of
their intents, then that of the names of their labs. -/
theorem differences_eq (baseline current : Snapshot) :
    baseline.differences current
      = (baseline.unionNodes current).flatMap (baseline.nodeEntries current)
        ++ Difference.ofChange "intent_hash" .text baseline.intentHash current.intentHash
        ++ Difference.ofChange "lab" .text baseline.lab current.lab := by
  have hkeys : Difference.unionKeys
      [("fingerprints", .object baseline.fingerprintMembers),
        ("intent_hash", .text baseline.intentHash), ("lab", .text baseline.lab)]
      [("fingerprints", .object current.fingerprintMembers),
        ("intent_hash", .text current.intentHash), ("lab", .text current.lab)]
      = ["fingerprints", "intent_hash", "lab"] := by
    show Text.sortedSet ["fingerprints", "intent_hash", "lab",
      "fingerprints", "intent_hash", "lab"] = _
    decide
  rw [differences, comparable_eq, comparable_eq]
  change Difference.ofMembers "" _ _ = _
  rw [Difference.ofMembers_eq_flatMap, hkeys, ← ofMembers_fingerprintMembers]
  simp [Difference.entriesFor, Keyed.get?_cons, Difference.under, Difference.ofMembers]

/-- **Two snapshots do not differ** exactly if they are of labs of one name and of one intent, and
have the same fingerprint of every node. -/
theorem differences_eq_nil_iff (baseline current : Snapshot) :
    baseline.differences current = [] ↔
      baseline.lab = current.lab ∧ baseline.intentHash = current.intentHash ∧
        ∀ node, Keyed.get? baseline.fingerprints node = Keyed.get? current.fingerprints node := by
  have hnodes : (∀ node ∈ baseline.unionNodes current, baseline.nodeEntries current node = []) ↔
      ∀ node, Keyed.get? baseline.fingerprints node = Keyed.get? current.fingerprints node := by
    refine forall_congr' fun node => ?_
    rw [nodeEntries, Fingerprint.entries_eq_nil_iff]
    refine ⟨fun h => ?_, fun h _ => h⟩
    by_cases hmem : node ∈ baseline.unionNodes current
    · exact h hmem
    · -- a node that neither snapshot has
      rw [mem_unionNodes, not_or] at hmem
      rw [(Keyed.get?_eq_none_iff _ _).mpr hmem.1, (Keyed.get?_eq_none_iff _ _).mpr hmem.2]
  rw [differences_eq, List.append_eq_nil_iff, List.append_eq_nil_iff, List.flatMap_eq_nil_iff,
    hnodes, Difference.ofChange_eq_nil_iff, Difference.ofChange_eq_nil_iff]
  exact ⟨fun h => ⟨h.2, h.1.2, h.1.1⟩, fun h => ⟨⟨h.2.2, h.2.1⟩, h.1⟩⟩

/-- **The difference of two snapshots is exact.** Whatever the moments, it lists the nodes of both
in ascending order, each with what has become of its fingerprint: removed, added, or a changed
digest and then a changed count. After them it lists the fingerprint of the intent, and then the lab,
if they have changed. No name of a node is special, also not one of a field that is left out of the
comparison. In particular nothing is listed exactly if the snapshots agree on everything but the
moment. -/
theorem differences_exact (baseline current : Snapshot) :
    (∃ nodes : List String, nodes.Pairwise (· < ·) ∧
      (∀ node, node ∈ nodes ↔
        node ∈ Keyed.keys baseline.fingerprints ∨ node ∈ Keyed.keys current.fingerprints) ∧
      baseline.differences current
        = nodes.flatMap (fun node => Fingerprint.entries ("fingerprints." ++ node)
            (Keyed.get? baseline.fingerprints node) (Keyed.get? current.fingerprints node))
          ++ Difference.ofChange "intent_hash" .text baseline.intentHash current.intentHash
          ++ Difference.ofChange "lab" .text baseline.lab current.lab) ∧
    (baseline.differences current = [] ↔
      baseline.lab = current.lab ∧ baseline.intentHash = current.intentHash ∧
        ∀ node, Keyed.get? baseline.fingerprints node = Keyed.get? current.fingerprints node) ∧
    ((baseline.fingerprints.Pairwise fun m n => m.1 < n.1) →
      (current.fingerprints.Pairwise fun m n => m.1 < n.1) →
      (baseline.differences current = [] ↔ baseline.stamped current.timestamp = current)) := by
  refine ⟨⟨baseline.unionNodes current, Text.pairwise_sortedSet _, fun _ => mem_unionNodes,
    differences_eq baseline current⟩, differences_eq_nil_iff baseline current, fun hb hc => ?_⟩
  rw [differences_eq_nil_iff]
  constructor
  · rintro ⟨hlab, hintent, hfingerprints⟩
    have hnodes := Keyed.eq_of_get?_eq hb hc hfingerprints
    rw [stamped, hlab, hintent, hnodes]
  · intro h
    rw [← h]
    exact ⟨rfl, rfl, fun _ => rfl⟩

/-- A node that is named after the moment is compared, the moment is not. -/
theorem differences_exact_timestampNode :
    let s : Snapshot := ⟨"lab", .epoch, "a", [("", ⟨"0", 2⟩), ("timestamp", ⟨"0", 2⟩)]⟩
    s.differences (s.stamped ⟨⟨2024, 2, 29, by decide⟩, 23, 59, 60, 0, by decide⟩) = [] := by
  intro s
  obtain ⟨-, -, hempty⟩ := differences_exact s
    (s.stamped ⟨⟨2024, 2, 29, by decide⟩, 23, 59, 60, 0, by decide⟩)
  exact (hempty (by decide) (by decide)).mpr rfl

/-- Nodes named after a field or a path, and one without a name. -/
example :
    (Snapshot.differences ⟨"lab", .epoch, "a", [("", ⟨"0", 2⟩), ("timestamp", ⟨"0", 2⟩)]⟩
      ⟨"lab", .epoch, "a", [("leaf1.hash", ⟨"0", 2⟩), ("timestamp", ⟨"1", 3⟩)]⟩).map
        (fun d => (d.path, d.kind))
      = [("fingerprints.", .removed), ("fingerprints.leaf1.hash", .added),
          ("fingerprints.timestamp.hash", .changed),
          ("fingerprints.timestamp.key_count", .changed)] := by
  decide +kernel

end Snapshot

/-- The outcome, as if the fabric had been looked at at another moment. -/
def DriftOutcome.stamped (now : Timestamp) (o : DriftOutcome) : DriftOutcome :=
  { o with current := o.current.stamped now }

namespace Drift

variable {σ : Type}

/-- The moment of a snapshot shows in its timestamp only. -/
theorem snapshot_stamped (s : Subject σ) (now now' : Timestamp) :
    Snapshot.stamped now' <$> snapshot s now = snapshot s now' := by
  simp [snapshot, Snapshot.stamped]

/-- The moment of a detection shows in the timestamp of its snapshot only. -/
theorem detect_stamped (s : Subject σ) (baseline : Snapshot) (now now' : Timestamp) :
    DriftOutcome.stamped now' <$> detect s baseline now = detect s baseline now' := by
  rw [detect, detect, ← snapshot_stamped s now now']
  simp [DriftOutcome.stamped, Snapshot.differences_stamped]

end Drift

end FabricAudit
