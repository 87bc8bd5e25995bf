import FabricAudit.Proofs.Audit.Basic
import FabricAudit.Proofs.Files.Frame

set_option autoImplicit false

/-! # Files read back

The path that a text was written to leads to the file with this text, so what was saved is what is
read; and all other files are read as before.
-/

namespace FabricAudit.FileTree

/-! ## Following names -/

/-- Names are followed one after the other. -/
theorem follow_append (t : FileTree) (names more : List String) (place : List String) :
    t.follow place (names ++ more) = t.follow place names >>= fun place => t.follow place more := by
  induction names generalizing place with
  | nil => rfl
  | cons name names ih =>
      rw [List.cons_append, follow, follow]
      split_ifs <;> first | exact ih _ | rfl

/-! ## Writing and reading -/

/-- Where something can be made: the names of the path but the last one lead to the place, which is
that of a directory. -/
theorem target_eq_ok {t : FileTree} {path : String} {g : Target} (h : t.target path = .ok g)
    (hslashed : g.slashed = false) (hname : g.name ≠ "") :
    checkPath path = .ok () ∧ ∃ names, Text.splitAt '/' path = names ++ [g.name] ∧
      t.follow (t.start path) names = .ok g.place ∧ t.isDirectoryAt g.place = true ∧
      g.name.utf8ByteSize ≤ longestName := by
  unfold target at h
  obtain ⟨_, hcheck, h⟩ := Except.bind_eq_ok_iff.mp h
  obtain ⟨place, hplace, h⟩ := Except.bind_eq_ok_iff.mp h
  simp only [] at h hplace
  split_ifs at h with hdir hlong
  cases h
  simp only [decide_eq_false_iff_not] at hslashed
  -- no slash follows, so nothing was dropped
  have hkept : ((Text.splitAt '/' path).reverse.dropWhile (· = "")) = (Text.splitAt '/' path).reverse :=
    (List.dropWhile_suffix _).eq_of_length (by
      have hle := (List.dropWhile_suffix (l := (Text.splitAt '/' path).reverse) (· = "")).length_le
      omega)
  simp only [hkept] at hplace hname hlong ⊢
  refine ⟨hcheck, (Text.splitAt '/' path).reverse.tail.reverse, ?_, hplace, by simpa using hdir,
    by omega⟩
  cases hnames : (Text.splitAt '/' path).reverse with
  | nil =>
      rw [hnames] at hname
      exact absurd rfl hname
  | cons name names =>
      rw [List.tail_cons, List.head?_cons, Option.getD_some, ← List.reverse_cons, ← hnames,
        List.reverse_reverse]

/-- A name of a directory that something stands under leads there. -/
theorem follow_singleton {t : FileTree} {place : List String} {name : String}
    (hdir : t.isDirectoryAt place = true) (hproper : isProper name = true)
    (hlength : name.utf8ByteSize ≤ longestName) (hthere : (t.entry? (place ++ [name])).isSome) :
    t.follow place [name] = .ok (place ++ [name]) := by
  simp only [isProper, Bool.and_eq_true, bne_iff_ne] at hproper
  obtain ⟨⟨hempty, hdot⟩, hup⟩ := hproper
  rw [follow, hdir, if_neg (by decide), if_neg (by simp [hempty, hdot]), if_neg hup,
    if_neg (by omega), if_pos hthere]
  rfl

/-- A text that is written is put at the place that its path then leads to, and takes the place of
no directory. -/
theorem locate_of_write {t t' : FileTree} {path text : String} (h : t.write path text = .ok t') :
    ∃ place, place ≠ [] ∧ t.isDirectoryAt place = false ∧
      t' = t.put place (.file (some text)) ∧ t'.locate path = .ok place := by
  obtain ⟨g, hg, h⟩ := Except.bind_eq_ok_iff.mp h
  split_ifs at h with hplain
  simp only [Bool.or_eq_true, not_or, Bool.not_eq_true, Bool.not_eq_false'] at hplain
  obtain ⟨hslashed, hproper⟩ := hplain
  have hname : g.name ≠ "" := by
    rintro hempty
    rw [hempty] at hproper
    exact absurd hproper (by decide)
  obtain ⟨hcheck, names, hsplit, hnames, hdir, hlength⟩ := target_eq_ok hg hslashed hname
  have hplace : g.place ++ [g.name] ≠ [] := by simp
  split at h
  · cases h
  · rename_i hother
    cases h
    have hfree : t.isDirectoryAt (g.place ++ [g.name]) = false := by
      rw [isDirectoryAt, beq_eq_false_iff_ne]
      exact hother
    have hthere := entry?_put t hplace (.file (some text)) (g.place ++ [g.name])
    rw [if_pos rfl] at hthere
    refine ⟨_, hplace, hfree, rfl, ?_⟩
    -- the names before the last one still lead to the directory of the new file
    have hput := Extends.put hplace hfree (.file (some text))
    rw [locate, hcheck, Except.ok_bind, hput.start_eq, hsplit, follow_append, hput.follow hnames,
      Except.ok_bind]
    exact follow_singleton (hput.directory hdir) hproper hlength (by rw [hthere]; rfl)

/-- **What is written to a file is read from it.** -/
theorem read_of_write {t t' : FileTree} {path text : String} (h : t.write path text = .ok t') :
    t'.read path = .ok text := by
  obtain ⟨place, hplace, -, rfl, hlocate⟩ := locate_of_write h
  rw [read, hlocate, Except.ok_bind, entry?_put t hplace, if_pos rfl]

/-- A text that is saved is written once the directories are made. -/
theorem write_of_save {t t' : FileTree} {path text : String} (h : save path text t = (.ok (), t')) :
    ∃ made, makeAll (Path.parts path).reverse.tail t = (.ok (), made) ∧
      made.write path text = .ok t' := by
  obtain ⟨_, made, hmade, hstep⟩ := Audit.bind_eq_ok_iff.mp h
  refine ⟨made, hmade, ?_⟩
  rw [Work.step] at hstep
  split at hstep
  · next hwrite =>
      cases hstep
      exact hwrite
  · cases hstep

/-- **What is saved is read.** The directories that were made on the way do not matter. -/
theorem read_of_save {t t' : FileTree} {path text : String}
    (h : save path text t = (.ok (), t')) : t'.read path = .ok text := by
  obtain ⟨_, -, hwrite⟩ := write_of_save h
  exact read_of_write hwrite

/-- **What is saved elsewhere does not matter.** A file that could be read before is read as before,
unless its path leads to the file that was saved. -/
theorem read_of_save_ne {t t' : FileTree} {path other text content : String}
    (h : save path text t = (.ok (), t')) (hne : t'.locate other ≠ t'.locate path)
    (hread : t.read other = .ok content) : t'.read other = .ok content := by
  obtain ⟨made, hmade, hwrite⟩ := write_of_save h
  obtain ⟨place, hplace, hfree, rfl, hlocate⟩ := locate_of_write hwrite
  have hdirectories := makeAll_extends (Path.parts path).reverse.tail t
  rw [hmade] at hdirectories
  have hfile := Extends.put hplace hfree (.file (some text))
  refine hfile.read (fun found hfound hc => ?_) (hdirectories.read (fun _ _ => id) hread)
  rw [hfound, hlocate, hc] at hne
  exact hne rfl

end FabricAudit.FileTree
