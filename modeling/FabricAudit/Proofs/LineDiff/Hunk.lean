import FabricAudit.LineDiff.Hunk
import FabricAudit.Proofs.LineDiff.Block

set_option autoImplicit false

/-! # Hunks show every change once

Hunks are blocks whose kept lines are cut down. A cut leaves the changes of a block alone, and only
blocks of kept lines, which have no changes, are cut in two or left out; so the changes of the hunks
are those of the blocks, in order (`changed_ofBlocks`), and there is no hunk exactly where the lists
are the same (`ofBlocks_between_eq_nil_iff`).
-/

namespace FabricAudit.Hunk

variable {α : Type}

/-! ## Cutting blocks down -/

/-- A property of blocks that a block keeps when it is cut down to its context. -/
structure Lasting (P : Block α → Prop) : Prop where
  keepEnd : ∀ b, P b → P (keepEnd b)
  keepStart : ∀ b, P b → P (keepStart b)

/-- No kept line is added. -/
theorem uniform_lasting : Lasting (Block.Uniform (α := α)) where
  keepEnd := by
    intro b h hkept
    apply h
    rintro hnone
    exact hkept (by simp [Hunk.keepEnd, hnone])
  keepStart := by
    intro b h hkept
    apply h
    rintro hnone
    exact hkept (by simp [Hunk.keepStart, hnone])

/-- No line at all is added. -/
theorem lines_lasting (p : α → Prop) : Lasting fun b : Block α => ∀ c ∈ b.changes, p c.line where
  keepEnd := by
    intro b h c hc
    apply h
    simp only [Block.changes, Hunk.keepEnd, List.mem_append, List.mem_map] at hc ⊢
    rcases hc with (⟨line, hline, rfl⟩ | hc) | hc
    · exact .inl (.inl ⟨line, List.mem_of_mem_drop hline, rfl⟩)
    · exact .inl (.inr hc)
    · exact .inr hc
  keepStart := by
    intro b h c hc
    apply h
    simp only [Block.changes, Hunk.keepStart, List.mem_append, List.mem_map] at hc ⊢
    rcases hc with (⟨line, hline, rfl⟩ | hc) | hc
    · exact .inl (.inl ⟨line, List.mem_of_mem_take hline, rfl⟩)
    · exact .inl (.inr hc)
    · exact .inr hc

theorem trimFirst_forall {P : Block α → Prop} (hP : Lasting P) {bs : List (Block α)}
    (h : ∀ b ∈ bs, P b) : ∀ b ∈ trimFirst bs, P b := by
  cases bs with
  | nil => exact h
  | cons b rest =>
      rw [List.forall_mem_cons] at h
      refine List.forall_mem_cons.mpr ⟨?_, h.2⟩
      split
      · exact hP.keepEnd b h.1
      · exact h.1

theorem trimLast_forall {P : Block α → Prop} (hP : Lasting P) {bs : List (Block α)}
    (h : ∀ b ∈ bs, P b) : ∀ b ∈ trimLast bs, P b := by
  fun_induction trimLast bs with
  | case1 => exact h
  | case2 b =>
      rw [List.forall_mem_singleton] at h ⊢
      split
      · exact hP.keepStart b h
      · exact h
  | case3 b c rest ih =>
      rw [List.forall_mem_cons] at h
      exact List.forall_mem_cons.mpr ⟨h.1, ih h.2⟩

theorem group_forall {P : Block α → Prop} (hP : Lasting P) {hunk bs : List (Block α)}
    (hhunk : ∀ b ∈ hunk, P b) (h : ∀ b ∈ bs, P b) :
    ∀ blocks ∈ group hunk bs, ∀ b ∈ blocks, P b := by
  induction bs generalizing hunk with
  | nil => exact List.forall_mem_singleton.mpr hhunk
  | cons b rest ih =>
      rw [List.forall_mem_cons] at h
      have hput : ∀ c, P c → ∀ b ∈ hunk ++ [c], P b := by
        intro c hc
        exact List.forall_mem_append.mpr ⟨hhunk, List.forall_mem_singleton.mpr hc⟩
      rw [group]
      split
      · refine List.forall_mem_cons.mpr ⟨hput _ (hP.keepStart b h.1), ?_⟩
        exact ih (List.forall_mem_singleton.mpr (hP.keepEnd b h.1)) h.2
      · exact ih (hput b h.1) h.2

/-- **What lasts when a block is cut down holds of all blocks of the hunks.** -/
theorem ofBlocks_forall {P : Block α → Prop} (hP : Lasting P) {bs : List (Block α)}
    (h : ∀ b ∈ bs, P b) : ∀ hunk ∈ ofBlocks bs, ∀ b ∈ hunk, P b := by
  intro hunk hhunk
  have htrimmed := trimLast_forall hP (trimFirst_forall hP h)
  exact group_forall hP (List.forall_mem_nil _) htrimmed hunk (List.mem_of_mem_filter hhunk)

/-! ## The changes of hunks -/

def changed (bs : List (Block α)) : List (Change α) := Change.changed (bs.flatMap Block.changes)

@[simp] theorem changed_nil : changed ([] : List (Block α)) = [] := rfl

@[simp] theorem changed_cons (b : Block α) (bs : List (Block α)) :
    changed (b :: bs) = Change.changed b.changes ++ changed bs := by
  rw [changed, List.flatMap_cons, Change.changed_append]
  rfl

@[simp] theorem changed_append (bs cs : List (Block α)) :
    changed (bs ++ cs) = changed bs ++ changed cs := by
  rw [changed, List.flatMap_append, Change.changed_append]
  rfl

@[simp] theorem changed_keepEnd (b : Block α) :
    Change.changed (keepEnd b).changes = Change.changed b.changes := by
  rw [Block.changed_changes, Block.changed_changes]
  rfl

@[simp] theorem changed_keepStart (b : Block α) :
    Change.changed (keepStart b).changes = Change.changed b.changes := by
  rw [Block.changed_changes, Block.changed_changes]
  rfl

theorem changed_trimFirst (bs : List (Block α)) : changed (trimFirst bs) = changed bs := by
  cases bs with
  | nil => rfl
  | cons b rest =>
      rw [trimFirst, changed_cons, changed_cons]
      split
      · rw [changed_keepEnd]
      · rfl

theorem changed_trimLast (bs : List (Block α)) : changed (trimLast bs) = changed bs := by
  fun_induction trimLast bs with
  | case1 => rfl
  | case2 b =>
      rw [changed_cons, changed_cons]
      split
      · rw [changed_keepStart]
      · rfl
  | case3 b c rest ih => rw [changed_cons, changed_cons b, ih]

/-- A block that is cut in two has no changes, so grouping repeats none. -/
theorem changed_group {hunk bs : List (Block α)} (h : ∀ b ∈ bs, b.Uniform) :
    changed (group hunk bs).flatten = changed hunk ++ changed bs := by
  induction bs generalizing hunk with
  | nil => simp [group]
  | cons b rest ih =>
      rw [List.forall_mem_cons] at h
      rw [group]
      split
      · next hlong =>
          have hkept : b.isKept = true := by
            rw [Block.isKept_iff]
            intro hnone
            rw [hnone] at hlong
            cases hlong
          have hnone := h.1.changed_eq_nil hkept
          rw [List.flatten_cons, changed_append, ih h.2]
          simp [hnone]
      · rw [ih h.2]
        simp

/-- Whether a hunk is shown: it has more than context. -/
def isShown : List (Block α) → Bool
  | [] => false
  | [b] => !b.isKept
  | _ => true

theorem ofBlocks_eq (bs : List (Block α)) :
    ofBlocks bs = (group [] (trimLast (trimFirst bs))).filter isShown := rfl

/-- A hunk that is not shown has no changes. -/
theorem changed_eq_nil {hunk : List (Block α)} (hshown : isShown hunk = false)
    (h : ∀ b ∈ hunk, b.Uniform) : changed hunk = [] := by
  match hunk, hshown with
  | [], _ => rfl
  | [b], hshown =>
      have hkept : b.isKept = true := by simpa [isShown] using hshown
      rw [changed_cons, changed_nil, (h b (List.mem_singleton_self b)).changed_eq_nil hkept]
      rfl

theorem changed_filter {hunks : List (List (Block α))}
    (h : ∀ hunk ∈ hunks, ∀ b ∈ hunk, b.Uniform) :
    changed (hunks.filter isShown).flatten = changed hunks.flatten := by
  induction hunks with
  | nil => rfl
  | cons hunk hunks ih =>
      rw [List.forall_mem_cons] at h
      rw [List.filter_cons, List.flatten_cons, changed_append, ← ih h.2]
      cases hshown : isShown hunk with
      | true => rw [if_pos rfl, List.flatten_cons, changed_append]
      | false =>
          rw [if_neg Bool.false_ne_true, changed_eq_nil hshown h.1, List.nil_append]

/-- **The changes of the hunks are those of the blocks.** -/
theorem changed_ofBlocks {bs : List (Block α)} (h : ∀ b ∈ bs, b.Uniform) :
    changed (ofBlocks bs).flatten = changed bs := by
  have htrimmed := trimLast_forall uniform_lasting (trimFirst_forall uniform_lasting h)
  have hgrouped := group_forall uniform_lasting (List.forall_mem_nil _) htrimmed
  calc changed (ofBlocks bs).flatten
      = changed (group [] (trimLast (trimFirst bs))).flatten := by
        rw [ofBlocks_eq, changed_filter hgrouped]
    _ = changed (trimLast (trimFirst bs)) := by
        rw [changed_group htrimmed, changed_nil, List.nil_append]
    _ = changed bs := by
        rw [changed_trimLast, changed_trimFirst]

/-! ## Where there are hunks -/

/-- Every hunk has a block. -/
theorem ne_nil_of_mem_ofBlocks {bs hunk : List (Block α)} (h : hunk ∈ ofBlocks bs) :
    hunk ≠ [] := by
  rintro rfl
  cases (List.mem_filter.mp h).2

/-- A block of kept lines on its own is no hunk. -/
theorem ofBlocks_singleton {b : Block α} (h : b.isKept = true) : ofBlocks [b] = [] := by
  have hpos : 0 < b.kept.length := by
    rw [List.length_pos_iff]
    exact (Block.isKept_iff b).mp h
  have hend : (keepEnd b).isKept = true := by
    rw [Block.isKept_iff, ← List.length_pos_iff]
    simp only [keepEnd, List.length_drop, context]
    omega
  have hcut : (keepStart (keepEnd b)).isKept = true := by
    rw [Block.isKept_iff, ← List.length_pos_iff]
    simp only [keepStart, keepEnd, List.length_take, List.length_drop, context]
    omega
  have hshort : ¬ 2 * context < (keepStart (keepEnd b)).kept.length := by
    simp only [keepStart, List.length_take, context]
    omega
  rw [ofBlocks_eq, trimFirst, if_pos h, trimLast, if_pos hend, group, if_neg hshort]
  simp [group, isShown, hcut]

/-- **Two lists are the same exactly where they have no hunks.** -/
theorem ofBlocks_between_eq_nil_iff [DecidableEq α] (xs ys : List α) :
    ofBlocks (Block.between xs ys) = [] ↔ xs = ys := by
  constructor
  · intro hnone
    have hchanged := changed_ofBlocks (Block.between_uniform xs ys)
    rw [hnone] at hchanged
    exact (changed_lineChanges_eq_nil_iff xs ys).mp hchanged.symm
  · rintro rfl
    rw [Block.between_self]
    split
    · rfl
    · next hfilled => exact ofBlocks_singleton (by simpa [Block.isKept] using hfilled)

end FabricAudit.Hunk
