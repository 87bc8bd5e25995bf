import FabricAudit.Document.Draft
import FabricAudit.Proofs.Document.Members

set_option autoImplicit false

/-! # Sorted documents

A document is sorted if the members of every object in it stand in the order of their keys. What is
built with `Document.ofPairs` is sorted, and so is whatever is read from a text
(`Draft.toDocument_sorted`), so a law of sorted documents is a law of all documents that a program
comes to see.

`Document.objectInduction` is induction along the members of objects. To the walks along dotted
paths a list is a value like a number, so it has no case of its own.
-/

namespace FabricAudit

namespace Document

theorem sortedItems_iff {xs : List Document} : SortedItems xs ↔ ∀ x ∈ xs, x.Sorted := by
  induction xs with
  | nil => simp [SortedItems]
  | cons x rest ih => rw [SortedItems, ih, List.forall_mem_cons]

theorem sortedMembers_iff {ms : List (String × Document)} :
    SortedMembers ms ↔ ∀ m ∈ ms, m.2.Sorted := by
  induction ms with
  | nil => simp [SortedMembers]
  | cons m rest ih =>
      obtain ⟨k, v⟩ := m
      rw [SortedMembers, ih, List.forall_mem_cons]

theorem Sorted.keysAscend {ms : Members} (h : (Document.object ms).Sorted) : KeysAscend ms := by
  rw [Sorted] at h
  exact h.1

theorem Sorted.of_get? {ms : Members} {key : String} {d : Document}
    (h : (Document.object ms).Sorted) (hd : Keyed.get? ms key = some d) : d.Sorted := by
  rw [Sorted] at h
  exact sortedMembers_iff.mp h.2 _ (Keyed.mem_of_get? hd)

theorem ofPairs_sorted {pairs : List (String × Document)} (h : ∀ p ∈ pairs, p.2.Sorted) :
    (ofPairs pairs).Sorted := by
  rw [ofPairs, Sorted]
  refine ⟨keysAscend_ofList pairs, sortedMembers_iff.mpr ?_⟩
  induction pairs using List.reverseRecOn with
  | nil => nofun
  | append_singleton pairs p ih =>
      intro m hm
      rw [Keyed.ofList_concat] at hm
      rcases Keyed.mem_insert hm with rfl | hm
      · exact h p (by simp)
      · exact ih (fun q hq => h q (List.mem_append_left _ hq)) m hm

/-- Induction along objects: a document that is none has no parts that would matter. -/
@[elab_as_elim]
theorem objectInduction {P : Document → Prop} (leaf : ∀ d, d.members? = none → P d)
    (object : ∀ ms : Members, (∀ key d, Keyed.get? ms key = some d → P d) → P (.object ms)) :
    ∀ d, P d
  | .object ms => object ms fun key d _ => objectInduction leaf object d
  | .null => leaf .null rfl
  | .bool b => leaf (.bool b) rfl
  | .int n => leaf (.int n) rfl
  | .float x => leaf (.float x) rfl
  | .text s => leaf (.text s) rfl
  | .list xs => leaf (.list xs) rfl
termination_by d => sizeOf d
decreasing_by
  have hlt := List.sizeOf_lt_of_mem (Keyed.mem_of_get? ‹_›)
  simp only [Prod.mk.sizeOf_spec, Document.object.sizeOf_spec] at hlt ⊢
  omega

end Document

namespace Draft

open Document

mutual

/-- A document that is read is sorted, whatever the order in which its members are written. -/
theorem toDocument_sorted : ∀ {x : Draft} {d : Document}, x.toDocument = .ok d → d.Sorted
  | .null, _, h => by cases h; trivial
  | .bool _, _, h => by cases h; trivial
  | .int _, _, h => by cases h; trivial
  | .float _, _, h => by cases h; trivial
  | .text _, _, h => by cases h; trivial
  | .list xs fault, d, h => by
      rw [toDocument] at h
      rcases hxs : itemsToDocument xs with f | ds <;> rw [hxs] at h
      · cases h
      · cases fault <;> cases h
        rw [Sorted, sortedItems_iff]
        exact itemsToDocument_sorted hxs
  | .object ms fault, d, h => by
      rw [toDocument] at h
      rcases hms : membersToDocument ms with f | pairs <;> rw [hms] at h
      · cases h
      · cases fault <;> cases h
        exact ofPairs_sorted (membersToDocument_sorted hms)
  | .broken _, _, h => by cases h

theorem itemsToDocument_sorted : ∀ {xs : List Draft} {ds : List Document},
    itemsToDocument xs = .ok ds → ∀ d ∈ ds, d.Sorted
  | [], _, h => by cases h; nofun
  | x :: xs, ds, h => by
      rw [itemsToDocument] at h
      rcases hx : x.toDocument with f | d <;> rw [hx] at h
      · cases h
      · rcases hxs : itemsToDocument xs with f | es <;> rw [hxs] at h <;> cases h
        rw [List.forall_mem_cons]
        exact ⟨toDocument_sorted hx, itemsToDocument_sorted hxs⟩

theorem membersToDocument_sorted : ∀ {ms : List (String × Draft)}
    {pairs : List (String × Document)}, membersToDocument ms = .ok pairs → ∀ p ∈ pairs, p.2.Sorted
  | [], _, h => by cases h; nofun
  | (k, x) :: ms, pairs, h => by
      rw [membersToDocument] at h
      rcases hx : x.toDocument with f | d <;> rw [hx] at h
      · cases h
      · rcases hms : membersToDocument ms with f | rest <;> rw [hms] at h <;> cases h
        rw [List.forall_mem_cons]
        exact ⟨toDocument_sorted hx, membersToDocument_sorted hms⟩

end

end Draft

end FabricAudit
