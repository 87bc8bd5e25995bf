import Mathlib.Data.List.Infix
import FabricAudit.Text.Search

set_option autoImplicit false

/-! # Laws of substring search

A text contains another one exactly if the characters of the one stand together somewhere in the
other (`Text.contains_iff`). So what a part of a text contains, the whole text contains.
-/

namespace FabricAudit.Text

theorem occursIn_iff {needle cs : List Char} : occursIn needle cs = true ↔ needle <:+: cs := by
  induction cs with
  | nil => rw [occursIn, List.isEmpty_iff, List.infix_nil]
  | cons c cs ih =>
      rw [occursIn, Bool.or_eq_true, ih, List.isPrefixOf_iff_prefix, List.infix_cons_iff]

/-- **Substring search finds runs of characters.** -/
theorem contains_iff {s needle : String} :
    contains s needle = true ↔ needle.toList <:+: s.toList :=
  occursIn_iff

theorem contains_self (s : String) : contains s s = true :=
  contains_iff.mpr (List.infix_refl _)

theorem contains_append_left {s t needle : String} (h : contains s needle = true) :
    contains (s ++ t) needle = true := by
  rw [contains_iff, String.toList_append]
  exact (contains_iff.mp h).trans (List.prefix_append _ _).isInfix

theorem contains_append_right {s t needle : String} (h : contains t needle = true) :
    contains (s ++ t) needle = true := by
  rw [contains_iff, String.toList_append]
  exact (contains_iff.mp h).trans (List.suffix_append _ _).isInfix

end FabricAudit.Text
