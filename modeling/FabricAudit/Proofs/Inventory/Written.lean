import FabricAudit.Inventory.Basic
import FabricAudit.Proofs.Document.Injective
import FabricAudit.Proofs.Document.Redraft

set_option autoImplicit false

/-! # Inventories as written

An inventory that reads has a node for every member of its nodes, with the sets of the roles and
groups that are written for it (`Inventory.get?_of_reads`), whether the node is written as an object
or as a list. Its own document tells which nodes there are and which sets they have, and nothing
else: two inventories that are read have the same document exactly if they agree
(`Inventory.Ordered.toDocument_inj`).
-/

namespace FabricAudit

open Document

/-! ## Nodes -/

/-- The texts of a list, if there is one. -/
def Document.textsOf : Option Document → List String
  | some (.list xs) => xs.filterMap text?
  | _ => []

theorem Reader.text_eq_ok_iff {d : Document} {s : String} :
    Reader.text d.toDraft = .ok s ↔ d = .text s := by
  cases d with
  | text t => simp [toDraft, Reader.text]
  | _ => exact ⟨nofun, nofun⟩

namespace InventoryNode

/-- What is written for the roles and for the groups of a node. -/
def partsOf : Document → Option Document × Option Document
  | .object ms => (Keyed.get? ms "roles", Keyed.get? ms "groups")
  | .list xs => (xs[0]?, xs[1]?)
  | _ => (none, none)

/-- The roles that are written for a node, in their order and with repeats. -/
def rolesOf (d : Document) : List String := textsOf (partsOf d).1

/-- The groups that are written for a node, in their order and with repeats. -/
def groupsOf (d : Document) : List String := textsOf (partsOf d).2

/-- A set reads as the texts of its list. -/
theorem setReader_eq_ok {d : Document} {ss : List String} (h : setReader d.toDraft = .ok ss) :
    ss = Text.sortedSet (textsOf (some d)) := by
  obtain ⟨ts, hts, rfl⟩ := Except.map_eq_ok_iff.mp h
  cases d with
  | list xs =>
      obtain ⟨ts', hread, hfinish⟩ := Except.bind_eq_ok_iff.mp hts
      obtain rfl := Reader.finish_eq_ok hfinish
      rw [itemsToDraft_eq_map, Except.mapM_eq_ok_iff, List.forall₂_map_left_iff] at hread
      have htexts : xs.filterMap text? = ts' := by
        clear h hts hfinish
        induction hread with
        | nil => rfl
        | cons hx _ ih =>
            rw [Reader.text_eq_ok_iff] at hx
            rw [hx, List.filterMap_cons_some (show text? (.text _) = some _ from rfl), ih]
      rw [textsOf, htexts]
  | _ => cases hts

/-- A field that holds a set is taken as the texts that were given, or as none. -/
theorem take_set {g : Given} {name : String} {part : Option Document} {ss : List String}
    (hlookup : g.fields.lookup name = part.map toDraft)
    (h : g.take (.withDefault name [] setReader) = .ok ss) :
    ss = Text.sortedSet (textsOf part) := by
  cases part with
  | none =>
      rw [Given.take_of_absent hlookup rfl] at h
      cases h
      rfl
  | some d =>
      rw [Given.take_of_lookup hlookup] at h
      exact setReader_eq_ok h

/-- The two fields of a node are given as they are written, whichever way they are written. -/
theorem exists_given {d : Document} {n : InventoryNode} (h : reader.document d = .ok n) :
    ∃ g : Given, (do .ok ⟨← g.take rolesField, ← g.take groupsField⟩) = Except.ok n ∧
      g.fields.lookup "roles" = (partsOf d).1.map toDraft ∧
      g.fields.lookup "groups" = (partsOf d).2.map toDraft := by
  cases d with
  | object ms =>
      obtain ⟨g, hbuild, hlookup⟩ := Reader.document_record_eq_ok (by simp [rolesField,
        groupsField, Field.withDefault, Field.erase]) h
      exact ⟨g, hbuild, hlookup "roles" rfl, hlookup "groups" rfl⟩
  | list xs =>
      obtain ⟨g, hbuild, hfields⟩ := Reader.document_record_list_eq_ok h
      refine ⟨g, hbuild, ?_, ?_⟩ <;> rw [hfields]
      · cases xs with
        | nil => rfl
        | cons x xs => rfl
      · match xs with
        | [] => rfl
        | [_] => rfl
        | _ :: _ :: _ => rfl
  | _ => cases h

def ofWritten (d : Document) : InventoryNode := ofLists (rolesOf d) (groupsOf d)

/-- **A node reads as it is written.** -/
theorem eq_ofWritten {d : Document} {n : InventoryNode} (h : reader.document d = .ok n) :
    n = ofWritten d := by
  obtain ⟨g, hbuild, hroles, hgroups⟩ := exists_given h
  obtain ⟨roles, htake, hbuild⟩ := Except.bind_eq_ok_iff.mp hbuild
  obtain ⟨groups, htake', hbuild⟩ := Except.bind_eq_ok_iff.mp hbuild
  cases hbuild
  rw [take_set hroles htake, take_set hgroups htake']
  rfl

/-- Both sets of a node ascend. -/
structure Ordered (n : InventoryNode) : Prop where
  roles : n.roles.Pairwise (· < ·)
  groups : n.groups.Pairwise (· < ·)

theorem ordered_ofWritten (d : Document) : (ofWritten d).Ordered :=
  ⟨Text.pairwise_sortedSet _, Text.pairwise_sortedSet _⟩

/-- Two nodes with the same roles and the same groups. -/
structure Agrees (m n : InventoryNode) : Prop where
  roles : ∀ role, role ∈ m.roles ↔ role ∈ n.roles
  groups : ∀ group, group ∈ m.groups ↔ group ∈ n.groups

/-- Sets that ascend are told by what is in them. -/
theorem Ordered.agrees_iff {m n : InventoryNode} (hm : m.Ordered) (hn : n.Ordered) :
    m.Agrees n ↔ m = n := by
  constructor
  · intro h
    have hroles := hm.roles.eq_of_mem_iff hn.roles fun {role} => h.roles role
    have hgroups := hm.groups.eq_of_mem_iff hn.groups fun {group} => h.groups group
    cases m
    cases n
    rw [InventoryNode.mk.injEq]
    exact ⟨hroles, hgroups⟩
  · rintro rfl
    exact ⟨fun _ => Iff.rfl, fun _ => Iff.rfl⟩

theorem toDocument_eq (n : InventoryNode) :
    n.toDocument = .object [("groups", .texts n.groups), ("roles", .texts n.roles)] := by
  simp only [toDocument, Document.ofPairs, Keyed.ofList, List.foldl_cons, List.foldl_nil,
    Keyed.insert, String.reduceEq, String.reduceLT, if_true, if_false]

theorem toDocument_inj {m n : InventoryNode} : m.toDocument = n.toDocument ↔ m = n := by
  have htext : Function.Injective Document.text := fun _ _ => Document.text.inj
  rw [toDocument_eq, toDocument_eq]
  simp only [Document.texts, Document.object.injEq, List.cons.injEq, Prod.mk.injEq, true_and,
    Document.list.injEq, and_true, htext.list_map.eq_iff]
  cases m
  cases n
  rw [InventoryNode.mk.injEq, and_comm]

end InventoryNode

/-! ## Inventories -/

namespace Inventory

/-- The nodes of an inventory are the members of its nodes, each of which reads. -/
theorem exists_nodes {ms : Members} {i : Inventory}
    (h : reader.document (.object ms) = .ok i) :
    (Keyed.get? ms "nodes" = none ∧ i.nodes = []) ∨
      ∃ ns, Keyed.get? ms "nodes" = some (.object ns) ∧
        i.nodes = Keyed.ofList (ns.map fun m => (m.1, InventoryNode.ofWritten m.2)) := by
  obtain ⟨g, hbuild, hlookup⟩ := Reader.document_record_eq_ok (by simp [nodesField,
    Field.withDefault, Field.erase]) h
  replace hlookup := hlookup "nodes" rfl
  obtain ⟨nodes, htake, hbuild⟩ := Except.bind_eq_ok_iff.mp hbuild
  cases hbuild
  cases hnodes : Keyed.get? ms "nodes" with
  -- no nodes are written, and then there are none
  | none =>
      rw [hnodes] at hlookup
      rw [Given.take_of_absent hlookup rfl] at htake
      cases htake
      exact .inl ⟨rfl, rfl⟩
  | some d =>
      rw [hnodes] at hlookup
      rw [Given.take_of_lookup hlookup] at htake
      obtain ⟨read, hmembers, rfl⟩ := Except.map_eq_ok_iff.mp htake
      cases d with
      | object ns =>
          obtain ⟨read', hmapM, hfinish⟩ := Except.bind_eq_ok_iff.mp hmembers
          obtain rfl := Reader.finish_eq_ok hfinish
          rw [membersToDraft_eq_map, Except.mapM_eq_ok_iff, List.forall₂_map_left_iff] at hmapM
          refine .inr ⟨ns, rfl, congrArg Keyed.ofList ?_⟩
          rw [eq_comm, ← List.forall₂_eq_eq_eq, List.forall₂_map_left_iff]
          refine hmapM.imp fun m r hr => ?_
          obtain ⟨n, hn, hr⟩ := Except.bind_eq_ok_iff.mp hr
          cases hr
          rw [InventoryNode.eq_ofWritten hn]
      | _ => cases hmembers

/-- **A node of an inventory** is the one that is written under its name. -/
theorem get?_of_reads {ms : Members} {i : Inventory} (hsorted : (Document.object ms).Sorted)
    (h : reader.document (.object ms) = .ok i) (name : String) :
    Keyed.get? i.nodes name
      = ((Document.object ms).walk ["nodes", name]).map InventoryNode.ofWritten := by
  have hwalk : (Document.object ms).walk ["nodes", name]
      = (Keyed.get? ms "nodes").bind fun d => d.get? name := by
    rw [walk, Document.get?]
    cases Keyed.get? ms "nodes" with
    | none => rfl
    | some d =>
        rw [Option.bind_some, Option.bind_some, walk]
        cases d.get? name <;> rfl
  rw [hwalk]
  rcases exists_nodes h with ⟨hnone, hi⟩ | ⟨ns, hns, hi⟩
  · rw [hnone, hi]
    rfl
  · have hascend := keysAscend_iff.mp (hsorted.of_get? hns).keysAscend
    rw [hi, Keyed.ofList_map_of_pairwise _ hascend, Keyed.get?_map, hns]
    rfl

/-- The nodes stand in the order of their names, and the sets of each of them ascend. -/
structure Ordered (i : Inventory) : Prop where
  nodes : i.nodes.Pairwise fun m n => m.1 < n.1
  sets : ∀ m ∈ i.nodes, m.2.Ordered

theorem ordered_of_reads {ms : Members} {i : Inventory}
    (h : reader.document (.object ms) = .ok i) : i.Ordered := by
  rcases exists_nodes h with ⟨-, hi⟩ | ⟨ns, -, hi⟩
  · exact ⟨hi ▸ .nil, by rw [hi]; nofun⟩
  · refine ⟨hi ▸ Keyed.pairwise_ofList _, fun m hm => ?_⟩
    rw [hi] at hm
    obtain ⟨m', -, rfl⟩ := List.mem_map.mp (Keyed.mem_of_mem_ofList hm)
    exact InventoryNode.ordered_ofWritten m'.2

/-- Two inventories with the same names of nodes, and under each name the same roles and groups. -/
structure Agrees (i j : Inventory) : Prop where
  names : ∀ name, i.contains name = j.contains name
  sets : ∀ name m n, Keyed.get? i.nodes name = some m → Keyed.get? j.nodes name = some n →
    m.Agrees n

/-- **Inventories in order** agree only if they are equal. -/
theorem Ordered.agrees_iff {i j : Inventory} (hi : i.Ordered) (hj : j.Ordered) :
    i.Agrees j ↔ i = j := by
  constructor
  · intro h
    -- both ascend, so it is enough what is found under each name
    have hnodes : i.nodes = j.nodes := by
      refine Keyed.eq_of_get?_eq hi.nodes hj.nodes fun name => ?_
      have hname := h.names name
      rw [contains, contains] at hname
      cases hm : Keyed.get? i.nodes name with
      | none =>
          rw [hm] at hname
          exact (Option.not_isSome_iff_eq_none.mp (by simp [← hname])).symm
      | some m =>
          rw [hm] at hname
          obtain ⟨n, hn⟩ := Option.isSome_iff_exists.mp hname.symm
          have hsame : m = n := ((hi.sets _ (Keyed.mem_of_get? hm)).agrees_iff
            (hj.sets _ (Keyed.mem_of_get? hn))).mp (h.sets name m n hm hn)
          rw [hn, hsame]
    cases i
    cases j
    exact congrArg Inventory.mk hnodes
  · rintro rfl
    refine ⟨fun _ => rfl, fun name m n hm hn => ?_⟩
    cases hm.symm.trans hn
    exact ⟨fun _ => Iff.rfl, fun _ => Iff.rfl⟩

theorem Ordered.toDocument_eq {i : Inventory} (hi : i.Ordered) :
    i.toDocument = .object [("nodes", .object (i.nodes.map fun m => (m.1, m.2.toDocument)))] := by
  exact congrArg (fun nodes => Document.object [("nodes", .object nodes)])
    (Keyed.ofList_map_of_pairwise InventoryNode.toDocument hi.nodes)

/-- **Inventories in order are told by their documents.** -/
theorem Ordered.toDocument_inj {i j : Inventory} (hi : i.Ordered) (hj : j.Ordered) :
    i.toDocument = j.toDocument ↔ i = j := by
  have hmember : Function.Injective fun m : String × InventoryNode => (m.1, m.2.toDocument) := by
    intro m n h
    rw [Prod.mk.injEq, InventoryNode.toDocument_inj] at h
    exact Prod.ext h.1 h.2
  rw [hi.toDocument_eq, hj.toDocument_eq]
  simp only [Document.object.injEq, List.cons.injEq, Prod.mk.injEq, true_and, and_true,
    hmember.list_map.eq_iff]
  cases i
  cases j
  rw [Inventory.mk.injEq]

end Inventory

end FabricAudit
