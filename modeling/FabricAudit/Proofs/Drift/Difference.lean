import FabricAudit.Drift.Difference
import FabricAudit.Proofs.Text.Keyed

set_option autoImplicit false

/-! # The difference of two objects, key by key

`Difference.ofMembers` walks the sorted union of the keys. What it finds under one key depends on
the values of that key alone (`entriesFor`), so the law `ofMembers_eq_flatMap` says all there is to
say of one level, and a difference is empty exactly if nothing is found under any key.
-/

namespace FabricAudit.Difference

/-- What is found at a path, given the values before and after. -/
def entriesFor (path : String) : Option Document → Option Document → List Difference
  | none, none => []
  | none, some new => [⟨path, .added, none, some new⟩]
  | some old, none => [⟨path, .removed, some old, none⟩]
  | some old, some new => ofValues path old new

/-- What is found under a key that the members before have. -/
theorem lookupWith_eq (path key : String) (ms : List (String × Document)) (ns : Members) :
    lookupWith path key ms ns
      = (Keyed.get? ms key).map fun old =>
          entriesFor (under path key) (some old) (Keyed.get? ns key) := by
  induction ms with
  | nil => rfl
  | cons m rest ih =>
      obtain ⟨k, old⟩ := m
      rw [lookupWith, Keyed.get?_cons]
      by_cases hk : k = key
      · rw [if_pos hk, if_pos hk]
        cases Keyed.get? ns key <;> rfl
      · rw [if_neg hk, if_neg hk, ih]

/-- **The difference of two objects is found key by key.** -/
theorem ofMembers_eq_flatMap (path : String) (ms ns : Members) :
    ofMembers path ms ns
      = (unionKeys ms ns).flatMap fun key =>
          entriesFor (under path key) (Keyed.get? ms key) (Keyed.get? ns key) := by
  rw [ofMembers, ofValues]
  congr 1
  funext key
  rw [lookupWith_eq]
  -- the walk looks a key up on the left first, and on the right if it is not there
  cases Keyed.get? ms key with
  | some old => rfl
  | none => cases Keyed.get? ns key <;> rfl

theorem mem_unionKeys {key : String} {ms ns : Members} :
    key ∈ unionKeys ms ns ↔ Keyed.get? ms key ≠ none ∨ Keyed.get? ns key ≠ none := by
  rw [unionKeys, Text.mem_sortedSet, List.mem_append, Ne, Ne, Keyed.get?_eq_none_iff,
    Keyed.get?_eq_none_iff, Decidable.not_not, Decidable.not_not]

/-- Two objects do not differ exactly if nothing is found under any key. -/
theorem ofMembers_eq_nil_iff {path : String} {ms ns : Members} :
    ofMembers path ms ns = [] ↔
      ∀ key, entriesFor (under path key) (Keyed.get? ms key) (Keyed.get? ns key) = [] := by
  rw [ofMembers_eq_flatMap, List.flatMap_eq_nil_iff]
  refine ⟨fun h key => ?_, fun h key _ => h key⟩
  by_cases hkey : key ∈ unionKeys ms ns
  · exact h key hkey
  · -- a key that is on neither side
    rw [mem_unionKeys, not_or, Ne, Ne, Classical.not_not, Classical.not_not] at hkey
    rw [hkey.1, hkey.2, entriesFor]

/-- Nothing is found at a path exactly if there is nothing before or after, or both values are there
and do not differ. -/
theorem entriesFor_eq_nil_iff {path : String} {old new : Option Document} :
    entriesFor path old new = [] ↔
      (old = none ∧ new = none) ∨
        ∃ x y, old = some x ∧ new = some y ∧ ofValues path x y = [] := by
  cases old <;> cases new <;> simp [entriesFor]

/-! ## Values that are compared as a whole -/

/-- The entry about a value that is compared as a whole: there is one exactly if it has changed. -/
def ofChange {α : Type} [DecidableEq α] (path : String) (toDocument : α → Document) (old new : α) :
    List Difference :=
  if old = new then [] else [⟨path, .changed, some (toDocument old), some (toDocument new)⟩]

@[simp] theorem ofChange_eq_nil_iff {α : Type} [DecidableEq α] {path : String}
    {toDocument : α → Document} {old new : α} :
    ofChange path toDocument old new = [] ↔ old = new := by
  simp [ofChange]

@[simp] theorem ofValues_text (path a b : String) :
    ofValues path (.text a) (.text b) = ofChange path .text a b := by
  simp [ofValues, Document.same, ofChange]

@[simp] theorem ofValues_nat (path : String) (a b : Nat) :
    ofValues path (.nat a) (.nat b) = ofChange path .nat a b := by
  simp only [ofValues, Document.nat, Document.same, ofChange, beq_iff_eq, Int.ofNat_inj]

end FabricAudit.Difference
