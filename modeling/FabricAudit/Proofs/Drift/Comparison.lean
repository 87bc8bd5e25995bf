import Mathlib.Tactic.TFAE
import FabricAudit.Proofs.Document.Sorted
import FabricAudit.Proofs.Drift.Difference

set_option autoImplicit false

/-! # What a difference says of its two sides

Two laws of `Difference.between` that hold whatever the keys of the documents are, with dots in them
or empty.

* In the other direction the same things are found, mirrored, in the same order
  (`between_mirror`): nothing depends on which side is walked.
* Nothing is found exactly if the documents are the same (`between_eq_nil_tfae`): no difference is
  dropped, however deep it lies.

Both are inductions along the objects of one side, with the walk of one level
(`ofMembers_eq_flatMap`) as the step.
-/

namespace FabricAudit

theorem Document.members?_eq_some_iff {d : Document} {ms : Members} :
    d.members? = some ms ↔ d = .object ms := by
  cases d <;> simp [Document.members?]

/-- What happened to a value, seen from the other side. -/
def DifferenceKind.mirror : DifferenceKind → DifferenceKind
  | .added => .removed
  | .removed => .added
  | .changed => .changed

namespace Difference

/-- Values that are not both objects are compared as a whole. -/
theorem ofValues_of_members?_eq_none {path : String} {old new : Document}
    (h : old.members? = none ∨ new.members? = none) :
    ofValues path old new
      = if old.same new then [] else [⟨path, .changed, some old, some new⟩] := by
  cases old <;> cases new <;> simp [ofValues, Document.members?] at h ⊢

/-! ## The other direction -/

/-- A difference, seen from the other side. -/
def mirror (d : Difference) : Difference := ⟨d.path, d.kind.mirror, d.new, d.old⟩

theorem unionKeys_comm (ms ns : Members) : unionKeys ms ns = unionKeys ns ms :=
  Text.sortedSet_congr fun key => by rw [List.mem_append, List.mem_append, or_comm]

/-- At one key the mirror is a matter of the values that are there before and after. -/
theorem entriesFor_mirror {path : String} {old new : Option Document}
    (h : ∀ x y, old = some x → ofValues path y x = (ofValues path x y).map mirror) :
    entriesFor path new old = (entriesFor path old new).map mirror := by
  cases old with
  | none => cases new <;> rfl
  | some x =>
      cases new with
      | none => rfl
      | some y => exact h x y rfl

theorem ofValues_mirror (path : String) (old new : Document) :
    ofValues path new old = (ofValues path old new).map mirror := by
  induction old using Document.objectInduction generalizing path new with
  | leaf old hold =>
      rw [ofValues_of_members?_eq_none (.inr hold), ofValues_of_members?_eq_none (.inl hold),
        Document.same_comm]
      split_ifs <;> rfl
  | object ms ih =>
      rcases hnew : new.members? with _ | ns
      · rw [ofValues_of_members?_eq_none (.inl hnew), ofValues_of_members?_eq_none (.inr hnew),
          Document.same_comm]
        split_ifs <;> rfl
      · obtain rfl := Document.members?_eq_some_iff.mp hnew
        -- two objects: the same keys in both directions, and the mirror under every key
        change ofMembers path ns ms = (ofMembers path ms ns).map mirror
        rw [ofMembers_eq_flatMap, ofMembers_eq_flatMap, List.map_flatMap, unionKeys_comm]
        refine List.flatMap_congr fun key _ => ?_
        exact entriesFor_mirror fun x y hx => ih key x hx _ y

/-- **The difference in the other direction** has the same entries in the same order, each of them
mirrored: between any two documents, and below any path between any two lists of members. -/
theorem between_mirror :
    (∀ old new : Document, between new old = (between old new).map mirror) ∧
      ∀ (path : String) (ms ns : Members),
        ofMembers path ns ms = (ofMembers path ms ns).map mirror :=
  ⟨fun old new => ofValues_mirror "" old new,
    fun path ms ns => ofValues_mirror path (.object ms) (.object ns)⟩

/-! ## No difference -/

/-- **Nothing is found between two values** exactly if they are the same. -/
theorem ofValues_eq_nil_iff {path : String} {old new : Document} (hold : old.Sorted)
    (hnew : new.Sorted) : ofValues path old new = [] ↔ old.same new = true := by
  induction old using Document.objectInduction generalizing path new with
  | leaf old h =>
      rw [ofValues_of_members?_eq_none (.inl h)]
      split_ifs with hsame <;> simp [hsame]
  | object ms ih =>
      rcases h : new.members? with _ | ns
      · rw [ofValues_of_members?_eq_none (.inr h)]
        split_ifs with hsame <;> simp [hsame]
      · obtain rfl := Document.members?_eq_some_iff.mp h
        change ofMembers path ms ns = [] ↔ Document.sameMembers ms ns = true
        rw [ofMembers_eq_nil_iff, Document.sameMembers_iff_get? hold.keysAscend hnew.keysAscend]
        refine forall_congr' fun key => ?_
        rw [entriesFor_eq_nil_iff]
        -- under each key there is nothing, or a value on both sides, which is the hypothesis
        rcases hx : Keyed.get? ms key with _ | x <;> rcases hy : Keyed.get? ns key with _ | y
        · simp
        · simp
        · simp
        · simp [ih key x hx (hold.of_get? hx) (hnew.of_get? hy)]

/-- **There is no difference** between two documents exactly if they are the same, which is to say
that they are equal but for the signs of floating point zeros. -/
theorem between_eq_nil_tfae (old new : Document) (hold : old.Sorted) (hnew : new.Sorted) :
    [between old new = [], old.same new = true,
      old.withoutZeroSigns = new.withoutZeroSigns].TFAE := by
  tfae_have 1 ↔ 2 := ofValues_eq_nil_iff hold hnew
  tfae_have 2 ↔ 3 := Document.same_iff
  tfae_finish

/-- Deep inside two documents there is a zero with and without its sign. -/
theorem between_eq_nil_tfae_zeros :
    let old : Document := .object [("a", .object [("b", .float ⟨true, 0, by decide⟩)])]
    let new : Document := .object [("a", .object [("b", .float .zero)])]
    old.Sorted ∧ new.Sorted ∧ [between old new = [], old.same new = true,
      old.withoutZeroSigns = new.withoutZeroSigns].TFAE ∧ between old new = [] := by
  intro old new
  have hold : old.Sorted := by
    simp [old, Document.Sorted, Document.SortedMembers, Document.KeysAscend]
  have hnew : new.Sorted := by
    simp [new, Document.Sorted, Document.SortedMembers, Document.KeysAscend]
  have htfae := between_eq_nil_tfae old new hold hnew
  exact ⟨hold, hnew, htfae, (htfae.out 0 1).mpr rfl⟩

/-- An integer and a float of the same value are a change. -/
example : (between (.int 1) (.float ⟨false, 0x3FF0000000000000, by decide⟩)).length = 1 := rfl

end Difference

end FabricAudit
