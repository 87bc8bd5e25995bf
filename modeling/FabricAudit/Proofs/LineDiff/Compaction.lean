import FabricAudit.LineDiff.Compaction
import FabricAudit.Proofs.LineDiff.Script

set_option autoImplicit false

/-! # Moving edits together changes no list

Every move leaves the lists before and after a script as they are (`SameLists`). An insertion and a
deletion pass each other because neither is in the list that the other is about
(`SameLists.swap`), and an insertion slides along kept lines only where the line that it leaves on
one side is the one that it gains on the other (`slide_eq`). So the moves of one edit
(`moveUp_same`, `moveDown_same`), of all edits of a kind (`settle_same`) and of all edits
(`compact_same`) change nothing, and the script that is shown still leads from the one list to the
other (`compact_script_leads`).
-/

namespace FabricAudit.Edit

variable {α : Type}

/-! ## Scripts for the same lists -/

/-- The scripts have the same lists before and after them. -/
structure SameLists (es fs : List (Edit α)) : Prop where
  before_eq : before es = before fs
  after_eq : after es = after fs

namespace SameLists

theorem refl (es : List (Edit α)) : SameLists es es := ⟨rfl, rfl⟩

theorem trans {es fs gs : List (Edit α)} (h : SameLists es fs) (h' : SameLists fs gs) :
    SameLists es gs :=
  ⟨h.before_eq.trans h'.before_eq, h.after_eq.trans h'.after_eq⟩

theorem append {es es' fs fs' : List (Edit α)} (h : SameLists es es') (h' : SameLists fs fs') :
    SameLists (es ++ fs) (es' ++ fs') :=
  ⟨by rw [before_append, before_append, h.before_eq, h'.before_eq],
    by rw [after_append, after_append, h.after_eq, h'.after_eq]⟩

/-- A part at the end may be replaced. -/
theorem append_left (front : List (Edit α)) {es fs : List (Edit α)} (h : SameLists es fs) :
    SameLists (front ++ es) (front ++ fs) := (refl front).append h

theorem leads {es fs : List (Edit α)} {xs ys : List α} (h : SameLists es fs)
    (hfs : Leads fs xs ys) : Leads es xs ys :=
  ⟨h.before_eq.trans hfs.before_eq, h.after_eq.trans hfs.after_eq⟩

/-- An insertion and a deletion next to each other change places freely, because neither is in the
list that the other is about. -/
theorem swap {e f : Edit α} (h : e.kind = .insert ∧ f.kind = .delete ∨
    e.kind = .delete ∧ f.kind = .insert) (es : List (Edit α)) :
    SameLists (e :: f :: es) (f :: e :: es) := by
  rcases h with ⟨he, hf⟩ | ⟨he, hf⟩
  · constructor <;> simp [oldLines_eq, newLines_eq, he, hf]
  · constructor <;> simp [oldLines_eq, newLines_eq, he, hf]

/-- Edits of one kind next to each other are one edit. -/
theorem join {e f : Edit α} (h : e.kind = f.kind) (es : List (Edit α)) :
    SameLists (e.append f :: es) (e :: f :: es) := by
  constructor
  · rw [before_cons, before_cons, before_cons, oldLines_eq, oldLines_eq, oldLines_eq, ← h]
    by_cases hkind : e.kind = .insert <;> simp [Edit.append, hkind]
  · rw [after_cons, after_cons, after_cons, newLines_eq, newLines_eq, newLines_eq, ← h]
    by_cases hkind : e.kind = .delete <;> simp [Edit.append, hkind]

/-- An edit without lines does nothing. -/
theorem of_lines_eq_nil {e : Edit α} (h : e.lines = []) (es : List (Edit α)) :
    SameLists es (e :: es) := by
  constructor
  · rw [before_cons, oldLines_eq, h, ite_self, List.nil_append]
  · rw [after_cons, newLines_eq, h, ite_self, List.nil_append]

end SameLists

/-- Kept lines that are put in front of edits are kept in front of them. -/
theorem keepBelow_same (old new : Nat) (passed : List α) (es : List (Edit α)) :
    SameLists (keepBelow old new passed es) (⟨.keep, old, new, passed⟩ :: es) := by
  have hjoin : ∀ o n lines (rest : List (Edit α)),
      SameLists (⟨.keep, o - passed.length, n - passed.length, passed ++ lines⟩ :: rest)
        (⟨.keep, old, new, passed⟩ :: ⟨.keep, o, n, lines⟩ :: rest) := by
    intro o n lines rest
    constructor
    · simp [oldLines]
    · simp [newLines]
  have hput : SameLists (ofLines .keep old new passed ++ es)
      (⟨.keep, old, new, passed⟩ :: es) := by
    have hkeep := Leads.keep old new passed
    constructor
    · rw [before_append, hkeep.before_eq, before_cons]
      rfl
    · rw [after_append, hkeep.after_eq, after_cons]
      rfl
  unfold keepBelow
  split
  · exact hjoin _ _ _ _
  · exact hput

/-- Kept lines that are put behind edits, of which the nearest one comes first, are kept behind
them. -/
theorem keepAbove_same (old new : Nat) (passed : List α) (es : List (Edit α)) :
    SameLists (keepAbove old new passed es).reverse
      (es.reverse ++ [⟨.keep, old, new, passed⟩]) := by
  have hkeep := Leads.keep old new passed
  unfold keepAbove
  split
  · constructor
    · simp [oldLines]
    · simp [newLines]
  · constructor
    · rw [List.reverse_append, before_append, before_append]
      unfold ofLines
      split
      · next h => simp_all [oldLines]
      · simp [oldLines]
    · rw [List.reverse_append, after_append, after_append]
      unfold ofLines
      split
      · next h => simp_all [newLines]
      · simp [newLines]

section

variable [DecidableEq α]

/-! ## Sliding along kept lines -/

/-- **Sliding changes neither list**: the kept lines with those that were passed are the same lines,
and with the inserted ones between them they are too. -/
theorem slide_eq {kept inserted passed kept' inserted' passed' : List α}
    (h : slide kept inserted passed = (kept', inserted', passed')) :
    kept'.reverse ++ passed' = kept.reverse ++ passed ∧
      kept'.reverse ++ inserted'.reverse ++ passed'
        = kept.reverse ++ inserted.reverse ++ passed := by
  fun_induction slide kept inserted passed with
  | case1 inserted passed =>
      cases h
      exact ⟨rfl, rfl⟩
  | case2 passed k ks =>
      cases h
      exact ⟨rfl, rfl⟩
  | case3 passed k ks is ih =>
      -- the line that is left above is the one that is gained below
      obtain ⟨hkept, hall⟩ := ih h
      rw [hkept, hall]
      simp
  | case4 passed k ks i is hne =>
      cases h
      exact ⟨rfl, rfl⟩

/-! ## Moving one edit -/

def Focus.edits (f : Focus α) : List (Edit α) := f.above.reverse ++ f.this :: f.below

/-- An insertion that moves up leaves kept lines above it and puts those that it passed below it. -/
theorem slide_up_same {e this : Edit α} {kept inserted passed : List α}
    (he : e.kind = .keep) (hthis : this.kind = .insert)
    (h : slide e.lines.reverse this.lines.reverse [] = (kept, inserted, passed))
    (o n o' n' old new : Nat) (below : List (Edit α)) :
    SameLists (⟨.keep, o, n, kept.reverse⟩ :: ⟨.insert, o', n', inserted.reverse⟩
        :: keepBelow old new passed below) (e :: this :: below) := by
  obtain ⟨hkept, hall⟩ := slide_eq h
  rw [List.reverse_reverse, List.append_nil] at hkept
  rw [List.reverse_reverse, List.reverse_reverse, List.append_nil] at hall
  have hbelow := keepBelow_same old new passed below
  -- the list before has the kept lines only, and the list after has the inserted ones as well
  constructor
  · calc before (⟨.keep, o, n, kept.reverse⟩ :: ⟨.insert, o', n', inserted.reverse⟩
          :: keepBelow old new passed below)
        = (kept.reverse ++ passed) ++ before below := by
          simp [oldLines, hbelow.before_eq]
      _ = before (e :: this :: below) := by
          simp [oldLines_eq, he, hthis, hkept]
  · calc after (⟨.keep, o, n, kept.reverse⟩ :: ⟨.insert, o', n', inserted.reverse⟩
          :: keepBelow old new passed below)
        = (kept.reverse ++ inserted.reverse ++ passed) ++ after below := by
          simp [newLines, hbelow.after_eq]
      _ = after (e :: this :: below) := by
          simp [newLines_eq, he, hthis, hall]

/-- An insertion that moves down puts the kept lines that it passed above it; they are read from the
other end. -/
theorem slide_down_same {e this : Edit α} {kept inserted passed : List α}
    (he : e.kind = .keep) (hthis : this.kind = .insert)
    (h : slide e.lines this.lines [] = (kept, inserted, passed))
    (o n o' n' old new : Nat) (above below : List (Edit α)) :
    SameLists ((keepAbove old new passed.reverse above).reverse
        ++ ⟨.insert, o', n', inserted⟩ :: ⟨.keep, o, n, kept⟩ :: below)
      (above.reverse ++ this :: e :: below) := by
  obtain ⟨hkept, hall⟩ := slide_eq h
  -- the lines were taken from the other end, so the equations are read backwards
  have hkept' : passed.reverse ++ kept = e.lines := by
    have := congrArg List.reverse hkept
    simpa using this
  have hall' : passed.reverse ++ (inserted ++ kept) = this.lines ++ e.lines := by
    have := congrArg List.reverse hall
    simpa using this
  have habove := keepAbove_same old new passed.reverse above
  constructor
  · calc before ((keepAbove old new passed.reverse above).reverse
          ++ ⟨.insert, o', n', inserted⟩ :: ⟨.keep, o, n, kept⟩ :: below)
        = before above.reverse ++ (passed.reverse ++ kept) ++ before below := by
          simp [oldLines, habove.before_eq]
      _ = before (above.reverse ++ this :: e :: below) := by
          simp [oldLines_eq, he, hthis, hkept']
  · calc after ((keepAbove old new passed.reverse above).reverse
          ++ ⟨.insert, o', n', inserted⟩ :: ⟨.keep, o, n, kept⟩ :: below)
        = after above.reverse ++ (passed.reverse ++ (inserted ++ kept)) ++ after below := by
          simp [newLines, habove.after_eq]
      _ = after (above.reverse ++ this :: e :: below) := by
          simp [newLines_eq, he, hthis, hall']

/-- **Moving an edit up changes no list.** -/
theorem moveUp_same (this : Edit α) (above below : List (Edit α)) :
    SameLists (moveUp this above below).edits (above.reverse ++ this :: below) := by
  fun_induction moveUp this above below with
  | case1 this below => exact .refl _
  | case2 this e above below he hthis kept inserted passed hslide n below' this' hempty ih =>
      -- nothing of the kept lines is left, so the way up goes on above them
      have hnone : kept.reverse = [] := by
        rw [List.isEmpty_iff.mp hempty, List.reverse_nil]
      have hfirst : SameLists (this' :: below') (⟨.keep, e.old, e.new, kept.reverse⟩ :: this' :: below') :=
        .of_lines_eq_nil hnone _
      have hmoved := hfirst.trans (slide_up_same he hthis hslide _ _ _ _ _ _ below)
      rw [List.reverse_cons, List.append_assoc]
      exact ih.trans (hmoved.append_left _)
  | case3 this e above below he hthis kept inserted passed hslide n below' this' hempty =>
      rw [Focus.edits, List.reverse_cons, List.reverse_cons, List.append_assoc, List.append_assoc]
      have hmoved := slide_up_same he hthis hslide e.old e.new this'.old this'.new
        (e.old + kept.length) (this.new + this.lines.length - n) below
      rw [← he] at hmoved
      exact hmoved.append_left _
  | case4 this e above below he hthis ih =>
      rw [List.reverse_cons, List.append_assoc]
      exact ih.trans ((SameLists.swap (.inl ⟨hthis, he⟩) below).append_left _)
  | case5 this e above below he hthis ih =>
      rw [List.reverse_cons, List.append_assoc]
      exact ih.trans ((SameLists.swap (.inr ⟨hthis, he⟩) below).append_left _)
  | case6 this e above below he hthis ih =>
      rw [List.reverse_cons, List.append_assoc]
      exact ih.trans ((SameLists.join (he.trans hthis.symm) below).append_left _)
  | case7 this e above below he hthis ih =>
      rw [List.reverse_cons, List.append_assoc]
      exact ih.trans ((SameLists.join (he.trans hthis.symm) below).append_left _)
  | case8 this e above below he hthis => exact .refl _
  | case9 this e above below hthis => exact .refl _

/-- **Moving an edit down changes no list.** -/
theorem moveDown_same (this : Edit α) (above below : List (Edit α)) :
    SameLists (moveDown this above below).edits (above.reverse ++ this :: below) := by
  -- the edit below is passed, swapped or joined, and each of these changes no list
  fun_induction moveDown this above below with
  | case1 this above => exact .refl _
  | case2 this above e below he hthis kept inserted passed hslide n above' this' hempty ih =>
      have hnone : kept = [] := List.isEmpty_iff.mp hempty
      have hfirst : SameLists (this' :: below) (this' :: ⟨.keep, e.old, e.new, kept⟩ :: below) :=
        (SameLists.of_lines_eq_nil hnone below).append_left [this']
      have hmoved := (hfirst.append_left above'.reverse).trans
        (slide_down_same he hthis hslide _ _ _ _ _ _ above below)
      exact ih.trans hmoved
  | case3 this above e below he hthis kept inserted passed hslide n above' this' hempty =>
      exact slide_down_same he hthis hslide _ _ _ _ _ _ above below
  | case4 this above e below he hthis ih =>
      rw [List.reverse_cons, List.append_assoc] at ih
      exact ih.trans ((SameLists.swap (.inr ⟨he, hthis⟩) below).append_left _)
  | case5 this above e below he hthis ih =>
      rw [List.reverse_cons, List.append_assoc] at ih
      exact ih.trans ((SameLists.swap (.inl ⟨he, hthis⟩) below).append_left _)
  | case6 this above e below he hthis ih =>
      exact ih.trans ((SameLists.join (hthis.trans he.symm) below).append_left _)
  | case7 this above e below he hthis ih =>
      exact ih.trans ((SameLists.join (hthis.trans he.symm) below).append_left _)
  | case8 this above e below he hthis => exact .refl _
  | case9 this above e below hthis => exact .refl _

/-! ## Moving all edits -/

/-- **Moving edits of a kind one after the other changes no list.** -/
theorem settle_same (kind : EditKind) (count : Nat) (above below : List (Edit α)) :
    SameLists (settle kind count above below) (above.reverse ++ below) := by
  induction count generalizing above below with
  | zero => exact .refl _
  | succ count ih =>
      let passed := below.takeWhile fun e => e.kind != kind
      have hsplit : passed ++ below.dropWhile (fun e => e.kind != kind) = below :=
        List.takeWhile_append_dropWhile
      have hover : ∀ rest, (passed.reverse ++ above).reverse ++ rest
          = above.reverse ++ (passed ++ rest) := by
        intro rest
        rw [List.reverse_append, List.reverse_reverse, List.append_assoc]
      rw [settle]
      split
      · next hrest =>
          -- no edit of the kind is left
          rw [hrest] at hsplit
          have h := hover []
          rw [hsplit, List.append_nil] at h
          rw [h]
          exact .refl _
      · next e rest hrest =>
          rw [hrest] at hsplit
          have hup := moveUp_same e (passed.reverse ++ above) rest
          rw [hover, hsplit] at hup
          let up := moveUp e (passed.reverse ++ above) rest
          have hdown := moveDown_same up.this up.above up.below
          let down := moveDown up.this up.above up.below
          have hrest := ih (down.this :: down.above) down.below
          rw [List.reverse_cons, List.append_assoc] at hrest
          exact (hrest.trans hdown).trans hup

/-- **Moving all edits together changes no list.** -/
theorem compact_same (es : List (Edit α)) : SameLists (compact es) es :=
  (settle_same .insert _ [] _).trans (settle_same .delete _ [] es)

/-- Where everything is kept there is nothing to move. -/
theorem compact_of_forall_keep {es : List (Edit α)} (h : ∀ e ∈ es, e.kind = .keep) :
    compact es = es := by
  have hcount : ∀ kind, kind ≠ .keep → es.countP (fun e => e.kind == kind) = 0 := by
    intro kind hkind
    rw [List.countP_eq_zero]
    intro e he hsame
    exact hkind ((eq_of_beq hsame).symm.trans (h e he))
  simp only [compact, hcount .delete (by decide), hcount .insert (by decide), settle,
    List.reverse_nil, List.nil_append]

/-! ## The script that is shown -/

/-- **The script that is shown leads from the one list to the other.** -/
theorem compact_script_leads (xs ys : List α) : Leads (compact (script xs ys)) xs ys :=
  (compact_same _).leads (script_leads xs ys)

/-- For a list that stays the same it keeps everything in one edit. -/
theorem compact_script_self (xs : List α) :
    compact (script xs xs) = ofLines .keep 0 0 xs := by
  rw [script_self]
  apply compact_of_forall_keep
  intro e he
  cases xs with
  | nil => cases he
  | cons x rest =>
      rw [List.mem_singleton.mp he]

end

end FabricAudit.Edit
