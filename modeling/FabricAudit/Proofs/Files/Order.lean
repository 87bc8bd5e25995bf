import Mathlib.Data.List.Lex
import Mathlib.Data.Prod.Lex
import Mathlib.Data.String.Basic
import FabricAudit.Files.Path

set_option autoImplicit false

/-! # The order of paths

Paths are sorted part by part, and parts by what they are before they are sorted by name. This is
the order of the ranks of their parts (`before_iff`), which is linear, so that the first path of a
list is one that no path of the list is sorted before (`mem_of_least?`).
-/

namespace FabricAudit.Path

/-! ## Ranks -/

/-- What a part is, and then its name. -/
def Part.rank : Part → ℕ ×ₗ String
  | .root => toLex (0, "")
  | .here => toLex (1, "")
  | .up => toLex (2, "")
  | .name s => toLex (3, s)

theorem Part.rank_inj {p q : Part} : p.rank = q.rank ↔ p = q := by
  cases p <;> cases q <;> simp [rank]

theorem Part.before_iff {p q : Part} : p.before q = true ↔ p.rank < q.rank := by
  cases p <;> cases q <;> simp [before, rank, Prod.Lex.toLex_lt_toLex]

/-- Lists of parts are sorted as the lists of their ranks. -/
theorem partsBefore_iff {ps qs : List Part} :
    partsBefore ps qs = true ↔ ps.map Part.rank < qs.map Part.rank := by
  induction ps generalizing qs with
  | nil => cases qs <;> simp [partsBefore]
  | cons p ps ih =>
      cases qs with
      | nil => simp [partsBefore]
      | cons q qs =>
          rw [partsBefore, Bool.or_eq_true, Bool.and_eq_true, beq_iff_eq, Part.before_iff, ih,
            List.map_cons, List.map_cons, List.cons_lt_cons_iff, Part.rank_inj]

def ranks (path : String) : List (ℕ ×ₗ String) := (parts path).map Part.rank

/-- **Paths are sorted by the ranks of their parts.** -/
theorem before_iff {path other : String} : before path other = true ↔ ranks path < ranks other :=
  partsBefore_iff

/-! ## The first path -/

theorem least?_eq_none_iff {paths : List String} : least? paths = none ↔ paths = [] := by
  cases paths with
  | nil => simp [least?]
  | cons path rest =>
      rw [least?]
      split
      · simp
      · split_ifs <;> simp

/-- **The first path of a list is one of them, and none of them is sorted before it.** -/
theorem mem_of_least? {paths : List String} {path : String} (h : least? paths = some path) :
    path ∈ paths ∧ ∀ other ∈ paths, ranks path ≤ ranks other := by
  induction paths generalizing path with
  | nil => cases h
  | cons first rest ih =>
      rw [least?] at h
      split at h
      · next hnone =>
          cases h
          rw [least?_eq_none_iff.mp hnone]
          simp
      · next other hother =>
          obtain ⟨hmem, hleast⟩ := ih hother
          -- the first path is held against the least of the others
          split_ifs at h with hbefore
          · cases h
            refine ⟨List.mem_cons_of_mem _ hmem, List.forall_mem_cons.mpr ⟨?_, hleast⟩⟩
            exact (before_iff.mp hbefore).le
          · cases h
            have hfirst : ranks first ≤ ranks other :=
              not_lt.mp fun hlt => hbefore (before_iff.mpr hlt)
            refine ⟨List.mem_cons_self, List.forall_mem_cons.mpr ⟨le_rfl, fun path hpath => ?_⟩⟩
            exact hfirst.trans (hleast path hpath)

end FabricAudit.Path
