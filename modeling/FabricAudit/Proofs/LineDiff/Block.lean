import FabricAudit.LineDiff.Block
import FabricAudit.Proofs.LineDiff.Compaction

set_option autoImplicit false

/-! # Blocks hold the lines of both lists

The lines of the blocks of two lists are the lists: kept and deleted lines, in order, are the list
before (`lineChanges_before`), kept and inserted ones the list after (`lineChanges_after`). No block
holds kept lines and changed ones (`between_uniform`), so cutting kept lines off a block loses no
change. Hence there is a change exactly where the lists differ (`changed_lineChanges_eq_nil_iff`).
-/

namespace FabricAudit

variable {α : Type}

/-! ## The two sides of changes -/

namespace Change

/-- The lines of the list before: all but the inserted ones. -/
def before (cs : List (Change α)) : List α :=
  (cs.filter fun c => c.kind != .insert).map Change.line

/-- The lines of the list after: all but the deleted ones. -/
def after (cs : List (Change α)) : List α :=
  (cs.filter fun c => c.kind != .delete).map Change.line

/-- The lines that are in both lists. -/
def kept (cs : List (Change α)) : List α :=
  (cs.filter fun c => c.kind == .keep).map Change.line

/-- The lines that are in one of the lists only. -/
def changed (cs : List (Change α)) : List (Change α) := cs.filter fun c => c.kind != .keep

@[simp] theorem before_append (cs ds : List (Change α)) :
    before (cs ++ ds) = before cs ++ before ds := by
  rw [before, List.filter_append, List.map_append]
  rfl

@[simp] theorem after_append (cs ds : List (Change α)) :
    after (cs ++ ds) = after cs ++ after ds := by
  rw [after, List.filter_append, List.map_append]
  rfl

@[simp] theorem changed_append (cs ds : List (Change α)) :
    changed (cs ++ ds) = changed cs ++ changed ds := List.filter_append _ _

/-- Lines that all become the same are all taken or all left out. -/
theorem filter_map_kind (kind other : EditKind) (lines : List α) :
    (lines.map (⟨kind, ·⟩)).filter (fun c : Change α => c.kind != other)
      = if kind = other then [] else lines.map (⟨kind, ·⟩) := by
  by_cases h : kind = other
  · rw [if_pos h, List.filter_eq_nil_iff]
    intro c hc
    obtain ⟨line, -, rfl⟩ := List.mem_map.mp hc
    simp [h]
  · rw [if_neg h, List.filter_eq_self]
    intro c hc
    obtain ⟨line, -, rfl⟩ := List.mem_map.mp hc
    simp [h]

/-- Every line is kept, deleted or inserted. -/
theorem length_eq_changeCount (cs : List (Change α)) :
    cs.length = changeCount .keep cs + changeCount .delete cs + changeCount .insert cs := by
  induction cs with
  | nil => rfl
  | cons c cs ih =>
      obtain ⟨kind, line⟩ := c
      simp only [changeCount] at ih
      cases kind <;> simp [changeCount] <;> omega

/-- The lines that become something else are all but those that become it. -/
theorem length_filter_kind (kind : EditKind) (cs : List (Change α)) :
    (cs.filter fun c => c.kind != kind).length + changeCount kind cs = cs.length := by
  have hsplit := List.length_eq_countP_add_countP (l := cs) fun c => c.kind == kind
  rw [hsplit, Nat.add_comm, ← List.countP_eq_length_filter]
  congr 1
  exact List.countP_congr fun c _ => by simp

theorem length_before (cs : List (Change α)) :
    (before cs).length = changeCount .keep cs + changeCount .delete cs := by
  have hall := length_eq_changeCount cs
  have hrest := length_filter_kind .insert cs
  rw [before, List.length_map]
  omega

theorem length_after (cs : List (Change α)) :
    (after cs).length = changeCount .keep cs + changeCount .insert cs := by
  have hall := length_eq_changeCount cs
  have hrest := length_filter_kind .delete cs
  rw [after, List.length_map]
  omega

theorem length_changed (cs : List (Change α)) :
    (changed cs).length = changeCount .delete cs + changeCount .insert cs := by
  have hall := length_eq_changeCount cs
  have hrest := length_filter_kind .keep cs
  rw [changed]
  omega

theorem length_kept (cs : List (Change α)) : (kept cs).length = changeCount .keep cs := by
  rw [kept, List.length_map, changeCount, List.countP_eq_length_filter]

/-- **What is kept is a common subsequence of both lists.** -/
theorem kept_sublist (cs : List (Change α)) :
    (kept cs).Sublist (before cs) ∧ (kept cs).Sublist (after cs) := by
  have hfilter : ∀ kind : EditKind, kind ≠ .keep →
      (cs.filter fun c => c.kind == .keep).Sublist (cs.filter fun c => c.kind != kind) := by
    intro kind hkind
    apply List.monotone_filter_right
    intro c hc
    rw [beq_iff_eq.mp hc]
    exact bne_iff_ne.mpr hkind.symm
  exact ⟨(hfilter .insert nofun).map _, (hfilter .delete nofun).map _⟩

theorem mem_changed {cs : List (Change α)} {c : Change α} :
    c ∈ changed cs ↔ c ∈ cs ∧ c.kind ≠ .keep := by
  rw [changed, List.mem_filter, bne_iff_ne]

/-- Where nothing is changed both sides are the same. -/
theorem before_eq_after {cs : List (Change α)} (h : changed cs = []) : before cs = after cs := by
  have hkeep : ∀ c ∈ cs, c.kind = .keep := by
    intro c hc
    by_contra hkind
    have hmem := mem_changed.mpr ⟨hc, hkind⟩
    rw [h] at hmem
    cases hmem
  have hsame : cs.filter (fun c => c.kind != .insert) = cs.filter (fun c => c.kind != .delete) := by
    apply List.filter_congr
    intro c hc
    rw [hkeep c hc]
    rfl
  rw [before, hsame, after]

/-- Lines that become something are counted among the changed ones. -/
theorem changeCount_changed {kind : EditKind} (hkind : kind ≠ .keep) (cs : List (Change α)) :
    changeCount kind (changed cs) = changeCount kind cs := by
  rw [changeCount, changed, List.countP_filter]
  apply List.countP_congr
  intro c _
  rw [Bool.and_eq_true, beq_iff_eq, bne_iff_ne]
  constructor
  · rintro ⟨h, -⟩
    exact h
  · intro h
    exact ⟨h, h ▸ hkind⟩

end Change

namespace Block

/-! ## The lines of a block -/

@[simp] theorem before_changes (b : Block α) :
    Change.before b.changes = b.kept ++ b.deleted := by
  simp [changes, Change.before, Change.filter_map_kind, Function.comp_def]

@[simp] theorem after_changes (b : Block α) :
    Change.after b.changes = b.kept ++ b.inserted := by
  simp [changes, Change.after, Change.filter_map_kind, Function.comp_def]

/-- The kept lines of a block are none of its changes. -/
theorem changed_changes (b : Block α) :
    Change.changed b.changes
      = b.deleted.map (⟨.delete, ·⟩) ++ b.inserted.map (⟨.insert, ·⟩) := by
  simp [changes, Change.changed, Change.filter_map_kind]

/-- Kept lines and changed lines do not stand in one block. -/
def Uniform (b : Block α) : Prop := b.kept ≠ [] → b.deleted = [] ∧ b.inserted = []

theorem isKept_iff (b : Block α) : b.isKept = true ↔ b.kept ≠ [] := by
  simp [isKept]

/-- A block of kept lines holds no change. -/
theorem Uniform.changed_eq_nil {b : Block α} (h : b.Uniform) (hkept : b.isKept = true) :
    Change.changed b.changes = [] := by
  obtain ⟨hdeleted, hinserted⟩ := h ((isKept_iff b).mp hkept)
  rw [changed_changes, hdeleted, hinserted]
  rfl

/-! ## The blocks of a script -/

/-- An edit in front of blocks makes no block of kept and changed lines. -/
theorem cons_uniform (e : Edit α) {bs : List (Block α)} (h : ∀ b ∈ bs, b.Uniform) :
    ∀ b ∈ cons e bs, b.Uniform := by
  obtain ⟨kind, old, new, lines⟩ := e
  have hkept : ∀ o n (ls : List α), (⟨o, n, ls, [], []⟩ : Block α).Uniform := by
    intro o n ls _
    exact ⟨rfl, rfl⟩
  have hchanged : ∀ o n (ds is : List α), (⟨o, n, [], ds, is⟩ : Block α).Uniform := by
    intro o n ds is hnone
    exact absurd rfl hnone
  cases bs with
  | nil =>
      cases kind <;> simp only [cons, List.forall_mem_singleton]
      · exact hkept _ _ _
      · exact hchanged _ _ _ _
      · exact hchanged _ _ _ _
  | cons b rest =>
      have hrest := (List.forall_mem_cons.mp h).2
      -- an edit joins the first block or begins a new one
      cases kind <;> simp only [cons] <;> split <;> rw [List.forall_mem_cons]
      · exact ⟨hkept _ _ _, hrest⟩
      · exact ⟨hkept _ _ _, h⟩
      · exact ⟨hchanged _ _ _ _, h⟩
      · exact ⟨hchanged _ _ _ _, hrest⟩
      · exact ⟨hchanged _ _ _ _, h⟩
      · exact ⟨hchanged _ _ _ _, hrest⟩

/-- An edit in front of blocks puts its lines in front of theirs. -/
theorem cons_sides (e : Edit α) {bs : List (Block α)} (h : ∀ b ∈ bs, b.Uniform) :
    Change.before ((cons e bs).flatMap changes)
        = e.oldLines ++ Change.before (bs.flatMap changes) ∧
      Change.after ((cons e bs).flatMap changes)
        = e.newLines ++ Change.after (bs.flatMap changes) := by
  obtain ⟨kind, old, new, lines⟩ := e
  cases bs with
  | nil =>
      have hbefore : Change.before ([] : List (Change α)) = [] := rfl
      have hafter : Change.after ([] : List (Change α)) = [] := rfl
      cases kind <;> simp [cons, hbefore, hafter, Edit.oldLines, Edit.newLines]
  | cons b rest =>
      by_cases hb : b.isKept = true
      · -- a block of kept lines has no others
        obtain ⟨hdeleted, hinserted⟩ := (List.forall_mem_cons.mp h).1 ((isKept_iff b).mp hb)
        cases kind <;> simp [cons, hb, hdeleted, hinserted, Edit.oldLines, Edit.newLines]
      · have hkept : b.kept = [] := by
          by_contra hne
          exact hb ((isKept_iff b).mpr hne)
        cases kind <;> simp [cons, hb, hkept, Edit.oldLines, Edit.newLines]

theorem ofScript_uniform (es : List (Edit α)) : ∀ b ∈ ofScript es, b.Uniform := by
  induction es with
  | nil => exact List.forall_mem_nil _
  | cons e es ih => exact cons_uniform e ih

/-- **The blocks of a script hold the lists before and after it.** -/
theorem ofScript_sides (es : List (Edit α)) :
    Change.before ((ofScript es).flatMap changes) = Edit.before es ∧
      Change.after ((ofScript es).flatMap changes) = Edit.after es := by
  induction es with
  | nil => exact ⟨rfl, rfl⟩
  | cons e es ih =>
      obtain ⟨hbefore, hafter⟩ := cons_sides e (ofScript_uniform es)
      constructor
      · rw [Edit.before_cons, ← ih.1]
        exact hbefore
      · rw [Edit.after_cons, ← ih.2]
        exact hafter

end Block

section

variable [DecidableEq α]

/-! ## The blocks of two lists -/

theorem Block.between_uniform (xs ys : List α) : ∀ b ∈ Block.between xs ys, b.Uniform :=
  Block.ofScript_uniform _

/-- A list that stays the same is one block of kept lines. -/
theorem Block.between_self (xs : List α) :
    Block.between xs xs = if xs.isEmpty then [] else [⟨0, 0, xs, [], []⟩] := by
  rw [Block.between, Edit.compact_script_self, Edit.ofLines]
  split <;> rfl

/-- **Kept and deleted lines are the list before.** -/
theorem lineChanges_before (xs ys : List α) : Change.before (lineChanges xs ys) = xs :=
  (Block.ofScript_sides _).1.trans (Edit.compact_script_leads xs ys).before_eq

/-- **Kept and inserted lines are the list after.** -/
theorem lineChanges_after (xs ys : List α) : Change.after (lineChanges xs ys) = ys :=
  (Block.ofScript_sides _).2.trans (Edit.compact_script_leads xs ys).after_eq

/-- **Two lists are the same exactly where no line is changed.** -/
theorem changed_lineChanges_eq_nil_iff (xs ys : List α) :
    Change.changed (lineChanges xs ys) = [] ↔ xs = ys := by
  constructor
  · intro hnone
    rw [← lineChanges_before xs ys, Change.before_eq_after hnone, lineChanges_after]
  · rintro rfl
    cases xs with
    | nil => rw [lineChanges, Block.between_self]; rfl
    | cons x xs =>
        rw [lineChanges, Block.between_self]
        simp [Block.changed_changes]

end

end FabricAudit
