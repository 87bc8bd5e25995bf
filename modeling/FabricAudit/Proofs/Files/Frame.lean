import FabricAudit.Files.Tree
import FabricAudit.Proofs.Document.Refusal

set_option autoImplicit false

/-! # What changes in a tree of files

Putting something at a place changes nothing else. So a tree to which directories are added, and in
which files are written, extends the tree that it was (`Extends`): a path that led somewhere still
leads there, and a file that was not written to is still the same.
-/

namespace FabricAudit.FileTree

/-! ## What is where -/

/-- Looking up in entries of which one place was given another content. -/
theorem lookup_map_place (entries : List (List String × FileEntry)) (place : List String)
    (e : FileEntry) (other : List String) :
    (entries.map fun (p, old) => if p = place then (p, e) else (p, old)).lookup other
      = if other = place then (entries.lookup other).map fun _ => e else entries.lookup other := by
  induction entries with
  | nil => simp
  | cons entry entries ih =>
      obtain ⟨p, old⟩ := entry
      rw [List.map_cons]
      by_cases hp : p = place
      · by_cases hother : other = p
        · simp [hother, hp]
        · have hne : other ≠ place := hp ▸ hother
          simp [hp, List.lookup_cons, hne, beq_eq_false_iff_ne.mpr hne] at ih ⊢
          exact ih
      · by_cases hother : other = p
        · simp [hother, hp]
        · simp [hp, List.lookup_cons, beq_eq_false_iff_ne.mpr hother, ih]

/-- **What is put at a place is there, and everything else is where it was.** -/
theorem entry?_put (t : FileTree) {place : List String} (hplace : place ≠ []) (e : FileEntry)
    (other : List String) :
    FileTree.entry? (t.put place e) other = if other = place then some e else t.entry? other := by
  have hroot : place.isEmpty = false := by simpa [List.isEmpty_eq_false_iff] using hplace
  by_cases hother : other.isEmpty
  · have hne : other ≠ place := by
      rintro rfl
      rw [hother] at hroot
      cases hroot
    simp [ entry?, hother, hne]
  · unfold put
    -- an entry that is there is replaced, and a new one goes to the end
    by_cases hthere : (t.entry? place).isSome
    · rw [if_pos hthere]
      simp only [ entry?, hother, Bool.false_eq_true, if_false, lookup_map_place]
      by_cases heq : other = place
      · subst heq
        obtain ⟨old, hold⟩ := Option.isSome_iff_exists.mp hthere
        simp only [ entry?, hroot, Bool.false_eq_true, if_false] at hold
        simp [hold]
      · simp [heq]
    · rw [if_neg hthere]
      have hnone : t.entries.lookup place = none := by
        simpa only [ entry?, hroot, Bool.false_eq_true, if_false, Option.not_isSome_iff_eq_none]
          using hthere
      simp only [ entry?, hother, Bool.false_eq_true, if_false, List.lookup_append]
      by_cases heq : other = place
      · subst heq
        simp [hnone]
      · simp [heq, List.lookup_cons, beq_eq_false_iff_ne.mpr heq]

/-! ## Trees that extend others -/

/-- The later tree has everything where the earlier one had it. A directory is still a directory,
and only what stands at the `changed` places may have changed. -/
structure Extends (changed : List String → Prop) (t t' : FileTree) : Prop where
  here_eq : t'.here = t.here
  isSome : ∀ {place}, (t.entry? place).isSome → (t'.entry? place).isSome
  directory : ∀ {place}, t.isDirectoryAt place = true → t'.isDirectoryAt place = true
  entry_eq : ∀ {place}, ¬ changed place → (t.entry? place).isSome → t'.entry? place = t.entry? place

namespace Extends

variable {changed : List String → Prop}

theorem refl (t : FileTree) : Extends changed t t := ⟨rfl, id, id, fun _ _ => rfl⟩

theorem trans {t₁ t₂ t₃ : FileTree} (h : Extends changed t₁ t₂) (h' : Extends changed t₂ t₃) :
    Extends changed t₁ t₃ :=
  ⟨h'.here_eq.trans h.here_eq, fun hs => h'.isSome (h.isSome hs),
    fun hd => h'.directory (h.directory hd),
    fun hc hs => (h'.entry_eq hc (h.isSome hs)).trans (h.entry_eq hc hs)⟩

/-- Something is put at a place where there is no directory. -/
theorem put {t : FileTree} {place : List String} (hplace : place ≠ [])
    (hfree : t.isDirectoryAt place = false) (e : FileEntry) :
    Extends (· = place) t (t.put place e) := by
  refine ⟨?_, fun {other} hs => ?_, fun {other} hd => ?_, fun {other} hc _ => ?_⟩
  · unfold FileTree.put
    split <;> rfl
  · rw [ entry?_put t hplace]
    split
    · rfl
    · exact hs
  · have hne : other ≠ place := by
      rintro rfl
      rw [hfree] at hd
      cases hd
    rwa [isDirectoryAt, entry?_put t hplace, if_neg hne]
  · rw [ entry?_put t hplace, if_neg hc]

/-- Something is put at a place where there is nothing. -/
theorem put_new {t : FileTree} {place : List String} (hplace : place ≠ [])
    (hnone : t.entry? place = none) (e : FileEntry) :
    Extends (fun _ => False) t (t.put place e) := by
  have hput := put hplace (by rw [isDirectoryAt, hnone]; rfl) e
  refine ⟨hput.here_eq, hput.isSome, hput.directory, fun {other} _ hs => hput.entry_eq ?_ hs⟩
  rintro rfl
  rw [hnone] at hs
  cases hs

/-- **Names that lead to a place still lead there.** -/
theorem follow {t t' : FileTree} (h : Extends changed t t') {names start found : List String}
    (hfollow : t.follow start names = .ok found) : t'.follow start names = .ok found := by
  induction names generalizing start with
  | nil => exact hfollow
  | cons name names ih =>
      rw [FileTree.follow] at hfollow ⊢
      split_ifs at hfollow with hdir hsame hup hlong hthere
      all_goals
        have hdir' := h.directory (by simpa using hdir)
        rw [hdir', if_neg (by decide)]
      · rw [if_pos hsame]
        exact ih hfollow
      · rw [if_neg hsame, if_pos hup]
        exact ih hfollow
      · rw [if_neg hsame, if_neg hup, if_neg hlong, if_pos (h.isSome hthere)]
        exact ih hfollow

theorem start_eq {t t' : FileTree} (h : Extends changed t t') (path : String) :
    t'.start path = t.start path := by
  rw [start, start, h.here_eq]

theorem locate {t t' : FileTree} (h : Extends changed t t') {path : String} {place : List String}
    (hlocate : t.locate path = .ok place) : t'.locate path = .ok place := by
  obtain ⟨_, hcheck, hfollow⟩ := Except.bind_eq_ok_iff.mp hlocate
  rw [FileTree.locate, hcheck, Except.ok_bind, h.start_eq]
  exact h.follow hfollow

/-- **A file that has not changed is read as before.** -/
theorem read {t t' : FileTree} (h : Extends changed t t') {path text : String}
    (hchanged : ∀ place, t'.locate path = .ok place → ¬ changed place)
    (hread : t.read path = .ok text) : t'.read path = .ok text := by
  obtain ⟨place, hlocate, hentry⟩ := Except.bind_eq_ok_iff.mp hread
  have hlocate' := h.locate hlocate
  have hsome : (t.entry? place).isSome := by
    rcases hthere : t.entry? place with _ | e
    · rw [hthere] at hentry
      cases hentry
    · rfl
  rw [FileTree.read, hlocate', Except.ok_bind, h.entry_eq (hchanged place hlocate') hsome]
  exact hentry

end Extends

/-! ## Directories that are made -/

theorem makeDirectory_extends {t t' : FileTree} {path : String}
    (h : t.makeDirectory path = .ok t') : Extends (fun _ => False) t t' := by
  obtain ⟨g, -, h⟩ := Except.bind_eq_ok_iff.mp h
  split_ifs at h with hfree
  cases h
  refine .put_new (by simp) ?_ _
  simp only [Bool.or_eq_true, not_or] at hfree
  exact Option.not_isSome_iff_eq_none.mp hfree.2

theorem attempt_extends {path : String} (t : FileTree) :
    Extends (fun _ => False) t (attempt path (t.makeDirectory path) t).2 := by
  rcases hmade : t.makeDirectory path with f | t' <;> simp only [attempt]
  · split <;> exact .refl t
  · exact makeDirectory_extends hmade

/-- Directories are added where there was nothing. -/
theorem makeAll_extends (parts : List Path.Part) (t : FileTree) :
    Extends (fun _ => False) t (makeAll parts t).2 := by
  induction parts generalizing t with
  | nil => exact .refl t
  | cons part above ih =>
      rw [makeAll]
      dsimp only
      split
      · -- the directories above have to be made first
        split
        · next hrest =>
            have habove := ih t
            rwa [hrest] at habove
        · next hrest =>
            have habove := ih t
            rw [hrest] at habove
            exact habove.trans (attempt_extends _)
      · exact attempt_extends t

end FabricAudit.FileTree
