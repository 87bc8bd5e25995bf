import FabricAudit.LineDiff.Script
import Mathlib.Data.List.Basic

set_option autoImplicit false

/-! # Scripts lead from one list to the other

A script for two lists has the first one before it and the second one after it (`script_leads`).
What the two have in common at either end is kept, and what remains is done in halves, which lead
from one half to the other whatever the meeting point is; only how short the script is depends on
that. Where a list stays the same, it is kept in one edit (`script_self`).
-/

namespace FabricAudit.Edit

variable {α : Type}

/-! ## The lists before and after -/

@[simp] theorem before_nil : before ([] : List (Edit α)) = [] := rfl

@[simp] theorem after_nil : after ([] : List (Edit α)) = [] := rfl

@[simp] theorem before_cons (e : Edit α) (es : List (Edit α)) :
    before (e :: es) = e.oldLines ++ before es := rfl

@[simp] theorem after_cons (e : Edit α) (es : List (Edit α)) :
    after (e :: es) = e.newLines ++ after es := rfl

@[simp] theorem before_append (es fs : List (Edit α)) :
    before (es ++ fs) = before es ++ before fs := List.flatMap_append

@[simp] theorem after_append (es fs : List (Edit α)) :
    after (es ++ fs) = after es ++ after fs := List.flatMap_append

/-- What an edit does to the list before, by its kind. -/
theorem oldLines_eq (e : Edit α) :
    e.oldLines = if e.kind = .insert then [] else e.lines := by
  obtain ⟨kind, old, new, lines⟩ := e
  cases kind <;> rfl

/-- What an edit does to the list after, by its kind. -/
theorem newLines_eq (e : Edit α) :
    e.newLines = if e.kind = .delete then [] else e.lines := by
  obtain ⟨kind, old, new, lines⟩ := e
  cases kind <;> rfl

/-- The script has the first list before it and the second one after it. -/
structure Leads (es : List (Edit α)) (xs ys : List α) : Prop where
  before_eq : before es = xs
  after_eq : after es = ys

namespace Leads

theorem append {es fs : List (Edit α)} {xs xs' ys ys' : List α} (h : Leads es xs ys)
    (h' : Leads fs xs' ys') : Leads (es ++ fs) (xs ++ xs') (ys ++ ys') :=
  ⟨by rw [before_append, h.before_eq, h'.before_eq],
    by rw [after_append, h.after_eq, h'.after_eq]⟩

theorem keep (old new : Nat) (lines : List α) :
    Leads (ofLines .keep old new lines) lines lines := by
  cases lines with
  | nil => exact ⟨rfl, rfl⟩
  | cons line rest => exact ⟨List.append_nil _, List.append_nil _⟩

theorem delete (old new : Nat) (lines : List α) :
    Leads (ofLines .delete old new lines) lines [] := by
  cases lines with
  | nil => exact ⟨rfl, rfl⟩
  | cons line rest => exact ⟨List.append_nil _, rfl⟩

theorem insert (old new : Nat) (lines : List α) :
    Leads (ofLines .insert old new lines) [] lines := by
  cases lines with
  | nil => exact ⟨rfl, rfl⟩
  | cons line rest => exact ⟨rfl, List.append_nil _⟩

/-- Deleting one list and inserting the other leads from the one to the other. -/
theorem replace (old new : Nat) (xs ys : List α) :
    Leads (ofLines .delete old new xs ++ ofLines .insert old new ys) xs ys := by
  have h := (delete old new xs).append (insert old new ys)
  rwa [List.append_nil, List.nil_append] at h

end Leads

section

variable [DecidableEq α]

/-! ## Scripts -/

/-- What two lists have in common at their beginning stands at the beginning of both. -/
theorem take_commonLength (xs ys : List α) :
    xs.take (Meeting.commonLength xs ys) = ys.take (Meeting.commonLength xs ys) := by
  induction xs generalizing ys with
  | nil => simp [Meeting.commonLength]
  | cons x xs ih =>
      cases ys with
      | nil => simp [Meeting.commonLength]
      | cons y ys =>
          by_cases hxy : x = y
          · simp [Meeting.commonLength, hxy, ih ys]
          · simp [Meeting.commonLength, hxy]

theorem commonLength_self (xs : List α) : Meeting.commonLength xs xs = xs.length := by
  induction xs with
  | nil => rfl
  | cons x xs ih => simp [Meeting.commonLength, ih]

theorem commonLength_le (xs ys : List α) :
    Meeting.commonLength xs ys ≤ xs.length ∧ Meeting.commonLength xs ys ≤ ys.length := by
  induction xs generalizing ys with
  | nil => simp [Meeting.commonLength]
  | cons x xs ih =>
      cases ys with
      | nil => simp [Meeting.commonLength]
      | cons y ys =>
          have hrest := ih ys
          by_cases hxy : x = y
          · simp only [Meeting.commonLength, if_pos hxy, List.length_cons]
            omega
          · simp [Meeting.commonLength, hxy]

/-- What two lists have in common at their end stands at the end of both. -/
theorem drop_commonLength_reverse (xs ys : List α) :
    xs.drop (xs.length - Meeting.commonLength xs.reverse ys.reverse)
      = ys.drop (ys.length - Meeting.commonLength xs.reverse ys.reverse) := by
  have h := take_commonLength xs.reverse ys.reverse
  rw [List.take_reverse, List.take_reverse] at h
  exact List.reverse_injective h

/-- **A script leads from the one list to the other**, wherever it is cut. -/
theorem scriptAt_leads (depth : Nat) : ∀ (old new : Nat) (xs ys : List α),
    Leads (scriptAt depth old new xs ys) xs ys := by
  induction depth with
  | zero =>
      intro old new xs ys
      exact .replace old new xs ys
  | succ depth ih =>
      intro old new xs ys
      unfold scriptAt
      extract_lets start xs' ys' ending left right middle
      have hleft : left.length = xs'.length - ending := by
        have hle := (commonLength_le xs'.reverse ys'.reverse).1
        simp only [left, List.length_take]
        omega
      have hright : right.length = ys'.length - ending := by
        have hle := (commonLength_le xs'.reverse ys'.reverse).2
        simp only [right, List.length_take]
        omega
      -- the two parts at the ends are common to both lists
      have hstart : xs.take start = ys.take start := take_commonLength xs ys
      have hending : xs'.drop left.length = ys'.drop right.length := by
        rw [hleft, hright]
        exact drop_commonLength_reverse xs' ys'
      have hmiddle : Leads middle left right := by
        simp only [middle]
        split
        · exact .replace _ _ left right
        · split
          · next x y _ =>
              have h := (ih (old + start) (new + start) (left.take x) (right.take y)).append
                (ih (old + start + x) (new + start + y) (left.drop x) (right.drop y))
              rwa [List.take_append_drop, List.take_append_drop] at h
          · exact .replace _ _ left right
      have hxs : xs = xs.take start ++ left ++ xs'.drop left.length := by
        rw [hleft, List.append_assoc, List.take_append_drop, List.take_append_drop]
      have hys : ys = xs.take start ++ right ++ xs'.drop left.length := by
        rw [hstart, hending, hright, List.append_assoc, List.take_append_drop,
          List.take_append_drop]
      have h := ((Leads.keep old new (xs.take start)).append hmiddle).append
        (.keep (old + start + left.length) (new + start + right.length) (xs'.drop left.length))
      rw [← hxs, ← hys] at h
      exact h

theorem script_leads (xs ys : List α) : Leads (script xs ys) xs ys :=
  scriptAt_leads _ 0 0 xs ys

/-- Nothing is done to a list that stays the same. -/
theorem script_self (xs : List α) : script xs xs = ofLines .keep 0 0 xs := by
  simp [script, scriptAt, commonLength_self, ofLines]

end

end FabricAudit.Edit
