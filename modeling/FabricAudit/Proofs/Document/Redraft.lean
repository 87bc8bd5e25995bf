import FabricAudit.Proofs.Document.Record
import FabricAudit.Proofs.Document.Reread
import FabricAudit.Proofs.Document.Sorted

set_option autoImplicit false

/-! # Documents read as they are

A sorted document is the document of its draft (`Document.toDocument_toDraft`): no member changes
its place and no key is there twice. So readers that take what is there, any document
(`Reader.document_any`) or any object (`Reader.document_object`), get just what was written, and a
list of documents is read item by item (`Reader.document_list`). The one document that an optional
value is not read back from is null, which stands for no value (`Reader.document_optional_any`).

A record is read from the members that it is written with, in whatever order they are given
(`Reader.document_record`), and every field is taken as the member of its name reads
(`Given.take_ofMembers`).
-/

namespace FabricAudit

open Document

namespace Document

mutual

/-- **A sorted document is the document of its draft.** -/
theorem toDocument_toDraft : ∀ {d : Document}, d.Sorted → d.toDraft.toDocument = .ok d
  | .null, _ => rfl
  | .bool _, _ => rfl
  | .int _, _ => rfl
  | .float _, _ => rfl
  | .text _, _ => rfl
  | .list xs, h => by
      rw [toDraft, Draft.toDocument, itemsToDocument_itemsToDraft h]
      rfl
  | .object ms, h => by
      obtain ⟨hkeys, hvalues⟩ := h
      rw [toDraft, Draft.toDocument, membersToDocument_membersToDraft hvalues]
      have hsame : Keyed.ofList ms = ms := Keyed.ofList_of_pairwise (keysAscend_iff.mp hkeys)
      show Except.ok (Document.object (Keyed.ofList ms)) = _
      rw [hsame]

/-- So are its items. -/
theorem itemsToDocument_itemsToDraft : ∀ {xs : List Document}, SortedItems xs →
    Draft.itemsToDocument (itemsToDraft xs) = .ok xs
  | [], _ => rfl
  | x :: xs, h => by
      rw [itemsToDraft, Draft.itemsToDocument, toDocument_toDraft h.1,
        itemsToDocument_itemsToDraft h.2]
      rfl

/-- So are the values of its members. -/
theorem membersToDocument_membersToDraft : ∀ {ms : List (String × Document)}, SortedMembers ms →
    Draft.membersToDocument (membersToDraft ms) = .ok ms
  | [], _ => rfl
  | (k, x) :: ms, h => by
      rw [membersToDraft, Draft.membersToDocument, toDocument_toDraft h.1,
        membersToDocument_membersToDraft h.2]
      rfl

end

theorem itemsToDraft_eq_map (xs : List Document) : itemsToDraft xs = xs.map toDraft := by
  induction xs with
  | nil => rfl
  | cons x xs ih => rw [itemsToDraft, ih, List.map_cons]

end Document

namespace Reader

/-- **Any sorted document is read as it is.** -/
theorem document_any {d : Document} (h : d.Sorted) : any.document d = .ok d := by
  rw [document, any, toDocument_toDraft h]
  rfl

/-- **The members of a sorted object are read as they are.** -/
theorem document_object {ms : Members} (h : (Document.object ms).Sorted) :
    object.document (.object ms) = .ok ms := by
  obtain ⟨hkeys, hvalues⟩ := h
  have hread : members any (Document.object ms).toDraft = .ok ms := by
    rw [toDraft, membersToDraft_eq_map]
    apply members_of_forall₂
    rw [List.forall₂_map_left_iff, List.forall₂_same]
    intro m hm
    exact ⟨rfl, document_any (sortedMembers_iff.mp hvalues m hm)⟩
  rw [document, object, hread]
  exact congrArg Except.ok (Keyed.ofList_of_pairwise (keysAscend_iff.mp hkeys))

/-- **What is written item by item is read item by item.** -/
theorem document_list {α : Type} {r : Reader α} {write : α → Document} {xs : List α}
    (h : ∀ x ∈ xs, r.document (write x) = .ok x) :
    (list r).document (.list (xs.map write)) = .ok xs := by
  have hitems : ((xs.map write).map toDraft).mapM r = .ok xs := by
    rw [Except.mapM_eq_ok_iff, List.map_map, List.forall₂_map_left_iff, List.forall₂_same]
    exact h
  rw [document, toDraft, itemsToDraft_eq_map, list, hitems]
  rfl

/-- **A value that may be missing** is read as it is, unless it is null. -/
theorem document_optional_any {d : Document} (h : d.Sorted) :
    (optional any).document d = .ok (if d.isNull then none else some d) := by
  have hany := document_any h
  cases d with
  | null => rfl
  | _ =>
      rw [document] at hany ⊢
      exact Except.map_eq_ok_iff.mpr ⟨_, hany, rfl⟩

/-- A word that is allowed is read as what it stands for. -/
theorem document_oneOfWords {α : Type} {allowed : List (String × α)} {s : String} {a : α}
    (h : allowed.lookup s = some a) : (oneOfWords allowed).document (.text s) = .ok a := by
  rw [document, toDraft, oneOfWords, h]

end Reader

/-! ## Records -/

namespace Keyed

variable {α : Type}

/-- A pair is looked up, if all keys of the list are different. -/
theorem get?_ofList_of_nodup {pairs : List (String × α)} (h : (pairs.map (·.1)).Nodup)
    {p : String × α} (hp : p ∈ pairs) : get? (ofList pairs) p.1 = some p.2 := by
  refine get?_ofList_of_mem hp fun value hvalue => ?_
  exact congrArg Prod.snd (List.inj_on_of_nodup_map h hvalue hp rfl)

end Keyed

/-- The fields that the members of an object give. -/
def Given.ofMembers (ms : Members) : Given := ⟨ms.map fun m => (m.1, m.2.toDraft), .missing⟩

theorem Given.lookup_ofMembers (ms : Members) (key : String) :
    (ofMembers ms).fields.lookup key = (Keyed.get? ms key).map toDraft := by
  induction ms with
  | nil => rfl
  | cons m rest ih =>
      obtain ⟨k, d⟩ := m
      rw [Keyed.get?_cons]
      show List.lookup key ((k, d.toDraft) :: (ofMembers rest).fields) = _
      by_cases hk : k = key
      · rw [if_pos hk, hk, List.lookup_cons_self]
        rfl
      · rw [if_neg hk, ← ih, List.lookup_cons, beq_false_of_ne (Ne.symm hk)]

/-- **A field is taken as the member of its name reads.** -/
theorem Given.take_ofMembers {α : Type} {ms : Members} {f : Field α} {d : Document}
    (h : Keyed.get? ms f.name = some d) : (ofMembers ms).take f = f.read.document d := by
  apply take_of_lookup
  rw [lookup_ofMembers, h]
  rfl

/-- A field without such a member has its default. -/
theorem Given.take_ofMembers_of_none {α : Type} {ms : Members} {f : Field α} {a : α}
    (h : Keyed.get? ms f.name = none) (ha : f.absent = some a) :
    (ofMembers ms).take f = .ok a :=
  take_of_absent (by rw [lookup_ofMembers, h, Option.map_none]) ha

/-- **A record is read from the members that it is written with**, if each of them is a field of it
that reads. -/
theorem Reader.document_record {α : Type} {title : String} {fields : List FieldCheck}
    {build : Given → Except ReadFault α} {pairs : List (String × Document)}
    (hread : ∀ p ∈ pairs, ∃ f, fieldNamed fields p.1 = some f ∧ f.name = p.1 ∧
      f.check p.2.toDraft = .ok ()) :
    (record title fields build).document (.ofPairs pairs)
      = build (.ofMembers (Keyed.ofList pairs)) := by
  have hascend := Keyed.pairwise_ofList pairs
  have hnodup : ((Keyed.ofList pairs).map (·.1)).Nodup := by
    rw [List.nodup_iff_pairwise_ne, List.pairwise_map]
    exact hascend.imp fun hlt => ne_of_lt hlt
  rw [document, ofPairs, toDraft, membersToDraft_eq_map]
  apply record_object
  · intro m hm
    obtain ⟨p, hp, rfl⟩ := List.mem_map.mp hm
    exact hread p (Keyed.mem_of_mem_ofList hp)
  · rw [List.map_map]
    exact hnodup

/-- **A record that was read of an object** was built of its members: each field was given as the
member of its name, if the fields have no other names. -/
theorem Reader.document_record_eq_ok {α : Type} {title : String} {fields : List FieldCheck}
    {build : Given → Except ReadFault α} (halone : ∀ f ∈ fields, f.aliases = []) {ms : Members}
    {a : α} (h : (record title fields build).document (.object ms) = .ok a) :
    ∃ g, build g = .ok a ∧ ∀ name, (fieldNamed fields name).isSome →
      g.fields.lookup name = (Keyed.get? ms name).map toDraft := by
  rw [document, toDraft, membersToDraft_eq_map] at h
  obtain ⟨given, hgiven, h⟩ := Except.bind_eq_ok_iff.mp h
  obtain ⟨-, -, hbuild⟩ := Except.bind_eq_ok_iff.mp h
  refine ⟨_, hbuild, fun name hname => ?_⟩
  exact (lookup_gatherFields halone hgiven hname).trans (Given.lookup_ofMembers ms name)

/-- **A record that was read of a list** was built of its items: each field was given as the item in
its place. -/
theorem Reader.document_record_list_eq_ok {α : Type} {title : String} {fields : List FieldCheck}
    {build : Given → Except ReadFault α} {xs : List Document} {a : α}
    (h : (record title fields build).document (.list xs) = .ok a) :
    ∃ g, build g = .ok a ∧ g.fields = (fields.map (·.name)).zip (xs.map toDraft) := by
  rw [document, toDraft, itemsToDraft_eq_map] at h
  obtain ⟨_, -, h⟩ := Except.bind_eq_ok_iff.mp h
  simp only [] at h
  split at h
  · obtain ⟨_, -, h⟩ := Except.bind_eq_ok_iff.mp h
    exact ⟨_, build_eq_ok h, rfl⟩
  · exact ⟨_, build_eq_ok h, rfl⟩

end FabricAudit
