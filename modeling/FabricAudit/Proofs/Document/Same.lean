import FabricAudit.Document.Basic

set_option autoImplicit false

/-! # When two documents are the same

`Document.same` compares two documents part by part. There is one thing only that it does not see,
the sign of a floating point zero: two documents are the same exactly if they are equal once that
sign is dropped everywhere (`Document.same_iff`). Being the same is therefore an equivalence, and an
integer is never the same as a float.
-/

namespace FabricAudit

namespace Binary64

/-- The number, with zero made positive. -/
def withoutZeroSign (x : Binary64) : Binary64 := if x.isZero then zero else x

theorem same_iff {x y : Binary64} : x.same y = true ↔ x.withoutZeroSign = y.withoutZeroSign := by
  obtain ⟨n, a, ha⟩ := x
  obtain ⟨m, b, hb⟩ := y
  by_cases hx : a = 0
  · by_cases hy : b = 0
    · simp [same, withoutZeroSign, isZero, hx, hy]
    · simp [same, withoutZeroSign, isZero, zero, hx, hy, Ne.symm hy]
  · by_cases hy : b = 0
    · simp [same, withoutZeroSign, isZero, zero, hx, hy]
    · simp [same, withoutZeroSign, isZero, hx, hy]

end Binary64

namespace Document

mutual

/-- The document, with every zero in it made positive. -/
def withoutZeroSigns : Document → Document
  | .null => .null
  | .bool b => .bool b
  | .int n => .int n
  | .float x => .float x.withoutZeroSign
  | .text s => .text s
  | .list xs => .list (itemsWithoutZeroSigns xs)
  | .object ms => .object (membersWithoutZeroSigns ms)

def itemsWithoutZeroSigns : List Document → List Document
  | [] => []
  | x :: xs => x.withoutZeroSigns :: itemsWithoutZeroSigns xs

/-- The members of an object, with every zero in their values made positive. -/
def membersWithoutZeroSigns : List (String × Document) → List (String × Document)
  | [] => []
  | (k, x) :: ms => (k, x.withoutZeroSigns) :: membersWithoutZeroSigns ms

end

mutual

/-- **Two documents are the same** exactly if they differ in nothing but the signs of zeros. -/
theorem same_iff : ∀ {d e : Document},
    d.same e = true ↔ d.withoutZeroSigns = e.withoutZeroSigns
  | .null, e => by cases e <;> simp [same, withoutZeroSigns]
  | .bool _, e => by cases e <;> simp [same, withoutZeroSigns]
  | .int _, e => by cases e <;> simp [same, withoutZeroSigns]
  | .float _, e => by cases e <;> simp [same, withoutZeroSigns, Binary64.same_iff]
  | .text _, e => by cases e <;> simp [same, withoutZeroSigns]
  | .list xs, e => by cases e <;> simp [same, withoutZeroSigns, @sameItems_iff xs]
  | .object ms, e => by cases e <;> simp [same, withoutZeroSigns, @sameMembers_iff ms]

theorem sameItems_iff : ∀ {xs ys : List Document},
    sameItems xs ys = true ↔ itemsWithoutZeroSigns xs = itemsWithoutZeroSigns ys
  | [], ys => by cases ys <;> simp [sameItems, itemsWithoutZeroSigns]
  | x :: xs, ys => by
      cases ys <;> simp [sameItems, itemsWithoutZeroSigns, @same_iff x, @sameItems_iff xs]

theorem sameMembers_iff : ∀ {ms ns : List (String × Document)},
    sameMembers ms ns = true ↔ membersWithoutZeroSigns ms = membersWithoutZeroSigns ns
  | [], ns => by cases ns <;> simp [sameMembers, membersWithoutZeroSigns]
  | (k, x) :: ms, ns => by
      cases ns <;>
        simp [sameMembers, membersWithoutZeroSigns, @same_iff x, @sameMembers_iff ms, and_assoc]

end

theorem same_refl (d : Document) : d.same d = true := same_iff.mpr rfl

theorem same_comm (d e : Document) : d.same e = e.same d := by
  rw [Bool.eq_iff_iff, same_iff, same_iff, eq_comm]

end Document

end FabricAudit
