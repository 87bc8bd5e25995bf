import FabricAudit.Document.Draft
import FabricAudit.Proofs.Document.Members
import FabricAudit.Proofs.Document.Refusal
import Mathlib.Data.List.Perm.Basic

set_option autoImplicit false

/-! # The order of members

A text may write the members of its objects in any order. As long as no object has a key twice, the
document that it holds is the same (`Draft.toDocument_reordered`).
-/

/-- An item may be replaced by one that has its partners. -/
theorem List.Forall₂.replace {α β : Type} {R : α → β → Prop} {before after : List α} {x y : α}
    {zs : List β} (h : List.Forall₂ R (before ++ x :: after) zs) (hxy : ∀ z, R x z → R y z) :
    List.Forall₂ R (before ++ y :: after) zs := by
  induction before generalizing zs with
  | nil =>
      cases h with
      | cons hx hafter => exact .cons (hxy _ hx) hafter
  | cons b before ih =>
      cases h with
      | cons hb hrest => exact .cons hb (ih hrest)

namespace FabricAudit.Draft

/-- In one object, anywhere in a draft, members of different keys change places. -/
inductive Reordered : Draft → Draft → Prop where
  | here {ms ns : List (String × Draft)} {fault : Option DraftFault} (hperm : ms.Perm ns)
      (hkeys : (ms.map (·.1)).Nodup) : Reordered (.object ms fault) (.object ns fault)
  | item {x y : Draft} (before after : List Draft) (fault : Option DraftFault)
      (h : Reordered x y) :
      Reordered (.list (before ++ x :: after) fault) (.list (before ++ y :: after) fault)
  | member {x y : Draft} (key : String) (before after : List (String × Draft))
      (fault : Option DraftFault) (h : Reordered x y) :
      Reordered (.object (before ++ (key, x) :: after) fault)
        (.object (before ++ (key, y) :: after) fault)

theorem itemsToDocument_eq_ok_iff {xs : List Draft} {ds : List Document} :
    itemsToDocument xs = .ok ds ↔ List.Forall₂ (fun x d => x.toDocument = .ok d) xs ds := by
  have hmap : itemsToDocument xs = xs.mapM toDocument := by
    induction xs with
    | nil => rfl
    | cons x xs ih =>
        rw [itemsToDocument, ih, List.mapM_cons]
        rfl
  rw [hmap, Except.mapM_eq_ok_iff]

theorem membersToDocument_eq_ok_iff {ms : List (String × Draft)}
    {pairs : List (String × Document)} :
    membersToDocument ms = .ok pairs ↔
      List.Forall₂ (fun m p => m.1 = p.1 ∧ m.2.toDocument = .ok p.2) ms pairs := by
  induction ms generalizing pairs with
  | nil =>
      rw [membersToDocument, List.forall₂_nil_left_iff, Except.ok.injEq, eq_comm]
  | cons m ms ih =>
      obtain ⟨k, x⟩ := m
      simp only [membersToDocument, Except.bind_eq_ok_iff, ih, List.forall₂_cons_left_iff]
      constructor
      · rintro ⟨d, hd, rest, hrest, h⟩
        cases h
        exact ⟨(k, d), rest, ⟨rfl, hd⟩, hrest, rfl⟩
      · rintro ⟨⟨l, d⟩, rest, ⟨rfl, hd⟩, hrest, rfl⟩
        exact ⟨d, hd, rest, hrest, rfl⟩

theorem toDocument_list_eq_ok_iff {xs : List Draft} {fault : Option DraftFault} {d : Document} :
    toDocument (.list xs fault) = .ok d ↔
      fault = none ∧ ∃ ds, itemsToDocument xs = .ok ds ∧ d = .list ds := by
  rw [toDocument, Except.bind_eq_ok_iff]
  cases fault with
  | none => simp [eq_comm]
  | some f => simp

theorem toDocument_object_eq_ok_iff {ms : List (String × Draft)} {fault : Option DraftFault}
    {d : Document} :
    toDocument (.object ms fault) = .ok d ↔
      fault = none ∧ ∃ pairs, membersToDocument ms = .ok pairs ∧ d = .ofPairs pairs := by
  rw [toDocument, Except.bind_eq_ok_iff]
  cases fault with
  | none => simp [eq_comm]
  | some f => simp

/-- **Members may change places.** -/
theorem Reordered.toDocument {x y : Draft} (h : Reordered x y) {d : Document}
    (hx : x.toDocument = .ok d) : y.toDocument = .ok d := by
  induction h generalizing d with
  | @here ms ns fault hperm hkeys =>
      rw [toDocument_object_eq_ok_iff] at hx ⊢
      obtain ⟨hfault, pairs, hpairs, rfl⟩ := hx
      rw [membersToDocument_eq_ok_iff] at hpairs
      -- the members of the document change places as those of the draft do
      obtain ⟨pairs', hpairs', hperm'⟩ := List.perm_comp_forall₂ hperm.symm hpairs
      have hkeys' : pairs.map (·.1) = ms.map (·.1) := by
        rw [eq_comm, ← List.forall₂_eq_eq_eq, List.forall₂_map_left_iff, List.forall₂_map_right_iff]
        exact hpairs.imp fun _ _ hmp => hmp.1
      refine ⟨hfault, pairs', membersToDocument_eq_ok_iff.mpr hpairs', ?_⟩
      exact congrArg Document.object (Keyed.ofList_perm hperm'.symm (hkeys' ▸ hkeys))
  | item before after fault _ ih =>
      rw [toDocument_list_eq_ok_iff] at hx ⊢
      obtain ⟨hfault, ds, hds, rfl⟩ := hx
      rw [itemsToDocument_eq_ok_iff] at hds
      exact ⟨hfault, ds, itemsToDocument_eq_ok_iff.mpr (hds.replace fun _ => ih), rfl⟩
  | member key before after fault _ ih =>
      rw [toDocument_object_eq_ok_iff] at hx ⊢
      obtain ⟨hfault, pairs, hpairs, rfl⟩ := hx
      rw [membersToDocument_eq_ok_iff] at hpairs
      refine ⟨hfault, pairs, membersToDocument_eq_ok_iff.mpr ?_, rfl⟩
      exact hpairs.replace fun _ hmp => ⟨hmp.1, ih hmp.2⟩

/-- **The document of a text** does not depend on the order of members in it. -/
theorem toDocument_reordered {x y : Draft} (h : Relation.ReflTransGen Reordered x y)
    {d : Document} (hx : x.toDocument = .ok d) : y.toDocument = .ok d := by
  induction h with
  | refl => exact hx
  | tail _ hstep ih => exact hstep.toDocument ih

end FabricAudit.Draft
