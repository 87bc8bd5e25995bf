import FabricAudit.Proofs.Files.Walk

set_option autoImplicit false

/-! # Searching for an ending

What a search finds whose pattern is a directory and then a star with an ending, if no character of
the directory is a wildcard: the entries of that directory whose names have the ending
(`Glob.paths_star`). The steps of the directory are followed one by one, and the last part of the
pattern is held against the names that are there.
-/

namespace FabricAudit

/-! ## Wildcards -/

namespace Wildcard

/-- A character that is no wildcard, and begins none. -/
def IsLiteral (c : Char) : Prop := c ≠ '*' ∧ c ≠ '?' ∧ c ≠ '['

instance (c : Char) : Decidable (IsLiteral c) := inferInstanceAs (Decidable (_ ∧ _))

/-- Whether a text has no wildcards can be tested by a pass over it. -/
theorem isLiteral_of_all {s : String} (h : s.toList.all (decide <| IsLiteral ·) = true) :
    ∀ c ∈ s.toList, IsLiteral c :=
  fun c hc => of_decide_eq_true (List.all_eq_true.mp h c hc)

theorem readFrom_cons {c : Char} (hc : IsLiteral c) (position : Nat) (previous : Option Char)
    (fuel : Nat) (rest : List Char) :
    readFrom position previous (fuel + 1) (c :: rest)
      = (readFrom (position + 1) (some c) fuel rest).map (.char c :: ·) := by
  obtain ⟨hstar, hany, hbracket⟩ := hc
  rw [readFrom]
  · rfl
  · exact fun h => hany h
  · exact fun h => hstar h
  · exact fun _ h => absurd h hbracket
  · exact fun h => hbracket h

/-- Characters that are no wildcards are read as they are. -/
theorem readFrom_literal {cs : List Char} (h : ∀ c ∈ cs, IsLiteral c) {position : Nat}
    {previous : Option Char} {fuel : Nat} (hfuel : cs.length ≤ fuel) :
    readFrom position previous fuel cs = .ok (cs.map .char) := by
  induction cs generalizing position previous fuel with
  | nil => cases fuel <;> rfl
  | cons c cs ih =>
      obtain ⟨hc, hcs⟩ := List.forall_mem_cons.mp h
      cases fuel with
      | zero => simp at hfuel
      | succ fuel =>
          rw [readFrom_cons hc, ih hcs (Nat.le_of_succ_le_succ hfuel)]
          rfl

/-- A single star among such characters is read as a run. -/
theorem readFrom_star {cs ds : List Char} (hcs : ∀ c ∈ cs, IsLiteral c)
    (hds : ∀ d ∈ ds, IsLiteral d) {position : Nat} {previous : Option Char} {fuel : Nat}
    (hfuel : cs.length + 1 + ds.length ≤ fuel) :
    readFrom position previous fuel (cs ++ '*' :: ds)
      = .ok (cs.map .char ++ .run :: ds.map .char) := by
  induction cs generalizing position previous fuel with
  | nil =>
      cases fuel with
      | zero => simp at hfuel
      | succ fuel =>
          -- no other star follows, so this one is alone
          have hstars : ds.takeWhile (fun d => decide (d = '*')) = [] ∧
              ds.dropWhile (fun d => decide (d = '*')) = ds := by
            cases ds with
            | nil => exact ⟨rfl, rfl⟩
            | cons d ds =>
                have hd : d ≠ '*' := (hds d List.mem_cons_self).1
                simp [hd]
          have hrest : ds.length ≤ fuel := by
            rw [List.length_nil] at hfuel
            omega
          rw [List.nil_append, readFrom]
          simp only [hstars, readFrom_literal hds hrest]
          rfl
  | cons c cs ih =>
      obtain ⟨hc, hcs⟩ := List.forall_mem_cons.mp hcs
      cases fuel with
      | zero => simp at hfuel
      | succ fuel =>
          rw [List.cons_append, readFrom_cons hc, ih hcs]
          · rfl
          · rw [List.length_cons] at hfuel
            omega

/-! ### Texts that fit -/

theorem someEnd_iff {f : List Char → Bool} {cs : List Char} :
    someEnd f cs = true ↔ ∃ tail, tail <:+ cs ∧ f tail = true := by
  induction cs with
  | nil => simp [someEnd]
  | cons c cs ih =>
      rw [someEnd, Bool.or_eq_true, ih]
      constructor
      · rintro (h | ⟨tail, htail, h⟩)
        · exact ⟨_, List.suffix_refl _, h⟩
        · exact ⟨tail, htail.trans (List.suffix_cons _ _), h⟩
      · rintro ⟨tail, htail, h⟩
        rcases List.suffix_cons_iff.mp htail with rfl | htail
        · exact .inl h
        · exact .inr ⟨tail, htail, h⟩

theorem fits_literal_iff {cs ds : List Char} : fits (cs.map .char) ds = true ↔ cs = ds := by
  induction cs generalizing ds with
  | nil => cases ds <;> simp [fits]
  | cons c cs ih =>
      cases ds with
      | nil => simp [fits]
      | cons d ds =>
          rw [List.map_cons, fits, holds, Bool.and_eq_true, beq_iff_eq, ih, List.cons_eq_cons,
            eq_comm]
          · exact nofun
          · exact nofun

/-- A run and then some characters fit the texts that end with these. -/
theorem fits_run_iff {ending cs : List Char} :
    fits (.run :: ending.map .char) cs = true ↔ ending <:+ cs := by
  rw [fits, someEnd_iff]
  simp only [fits_literal_iff]
  constructor
  · rintro ⟨_, h, rfl⟩
    exact h
  · exact fun h => ⟨ending, h, rfl⟩

theorem literal?_literal (s : String) : literal? (s.toList.map .char) = some s := by
  have hchars : (s.toList.map Wildcard.char).mapM char? = some s.toList := by
    induction s.toList with
    | nil => rfl
    | cons c cs ih => rw [List.map_cons, List.mapM_cons, ih]; rfl
  rw [literal?, hchars, Option.map_some, String.ofList_toList]

theorem literal?_run (ws : List Wildcard) : literal? (.run :: ws) = none := rfl

/-- A text without wildcards is read as its characters. -/
theorem ofText_literal {s : String} (h : ∀ c ∈ s.toList, IsLiteral c) :
    ofText s = .ok (s.toList.map .char) :=
  readFrom_literal h le_rfl

/-- So are the texts before and after a single star. -/
theorem ofText_star {s ending : String} (hs : ∀ c ∈ s.toList, IsLiteral c)
    (hending : ∀ c ∈ ending.toList, IsLiteral c) :
    ofText (s ++ "*" ++ ending) = .ok (s.toList.map .char ++ .run :: ending.toList.map .char) := by
  have hchars : (s ++ "*" ++ ending).toList = s.toList ++ '*' :: ending.toList := by simp
  rw [ofText, hchars, readFrom_star hs hending]
  rw [List.length_append, List.length_cons]
  omega

end Wildcard

namespace FileTree

/-- The names in the directory that a path leads to, or none if it leads to no directory. -/
def namesIn (t : FileTree) (path : String) : List String :=
  match t.locate path with
  | .error _ => []
  | .ok place => if t.isDirectoryAt place then t.names place else []

variable {t : FileTree} {path : String}

theorem isDirectory_iff : t.isDirectory path = true ↔
    ∃ place, t.locate path = .ok place ∧ t.isDirectoryAt place = true := by
  rw [isDirectory]
  cases t.locate path <;> simp

/-- There are no names in what is no directory. -/
theorem namesIn_eq_nil (h : t.isDirectory path = false) : t.namesIn path = [] := by
  rw [isDirectory] at h
  rw [namesIn]
  cases hplace : t.locate path with
  | error f => rfl
  | ok place =>
      simp only [hplace] at h
      simp only [h, Bool.false_eq_true, if_false]

end FileTree

namespace Glob

open FileTree

variable {t : FileTree}

/-! ## Searches -/

/-- What is found with an ending in a directory. -/
theorem children_star (t : FileTree) (path : String) (ending : String) :
    children t path (.run :: ending.toList.map .char)
      = ((t.namesIn path).filter (Text.endsWith · ending)).map (below path) := by
  have hfits : ∀ name : String,
      Wildcard.fits (.run :: ending.toList.map .char) name.toList = Text.endsWith name ending := by
    intro name
    rw [Bool.eq_iff_iff, Wildcard.fits_run_iff, Text.endsWith_iff]
  rw [children, namesIn]
  cases t.locate path with
  | error f => rfl
  | ok place =>
      simp only [hfits]
      cases t.isDirectoryAt place with
      | false => rfl
      | true => simp

/-- There is nothing in what is no directory. -/
theorem children_eq_nil {path : String} (h : t.isDirectory path = false) (ws : List Wildcard) :
    children t path ws = [] := by
  rw [isDirectory] at h
  rw [children]
  cases hplace : t.locate path with
  | error f => rfl
  | ok place =>
      simp only [hplace] at h
      simp only [h]
      rfl

/-- A walk that ends in a directory comes from one. -/
theorem isDirectory_of_walk {path : String} {names : List String} (hwalks : Walks path names)
    (hnames : ∀ name ∈ names, '/' ∉ name.toList)
    (h : t.isDirectory (names.foldl below path) = true) : t.isDirectory path = true := by
  obtain ⟨found, hfound, hdir⟩ := isDirectory_iff.mp h
  obtain ⟨-, place, hplace, hfollow⟩ := (locate_walk_iff hwalks hnames).mp hfound
  refine isDirectory_iff.mpr ⟨place, hplace, ?_⟩
  cases names with
  | nil =>
      cases hfollow
      exact hdir
  | cons name names => exact isDirectoryAt_of_follow (by simp) hfollow

theorem literal_eq_or (t : FileTree) (path name : String) :
    literal t path name = [below path name] ∨ literal t path name = [] := by
  rw [literal]
  split_ifs <;> simp

/-- A step without wildcards leads on, or there is no directory at the end of the walk. -/
theorem literal_of_walk {path name : String} {names : List String}
    (hwalks : Walks path (name :: names)) (hnames : ∀ n ∈ name :: names, '/' ∉ n.toList)
    (h : t.isDirectory (names.foldl below (below path name)) = true) :
    literal t path name = [below path name] := by
  rw [literal]
  split_ifs with hspecial hdir hthere
  · rfl
  · exact absurd (isDirectory_of_walk hwalks hnames h) hdir
  · rfl
  · refine absurd ?_ hthere
    obtain ⟨place, hplace, -⟩ := isDirectory_iff.mp
      (isDirectory_of_walk hwalks.2 (List.forall_mem_cons.mp hnames).2 h)
    rw [exists?, hplace]
    rfl

/-- A last part with wildcards is held against the names in a directory. -/
theorem expand_singleton {ws : List Wildcard} (htree : ws.contains .tree = false)
    (hws : Wildcard.literal? ws = none) (path : String) :
    expand t path false [ws] = children t path ws := by
  rw [expand, htree]
  simp only [hws]
  simp [expand]

/-- **The steps of a directory are followed one by one.** -/
theorem expand_walk {path : String} {names : List String} {ws : List Wildcard}
    (hwalks : Walks path names) (hnames : ∀ name ∈ names, '/' ∉ name.toList)
    (htree : ws.contains .tree = false) (hws : Wildcard.literal? ws = none) :
    expand t path false (names.map (fun name => name.toList.map .char) ++ [ws])
      = children t (names.foldl below path) ws := by
  induction names generalizing path with
  | nil => exact expand_singleton htree hws path
  | cons name names ih =>
      have hnotree : (name.toList.map Wildcard.char).contains .tree = false := by simp
      have hrest := ih hwalks.2 (List.forall_mem_cons.mp hnames).2
      rw [List.map_cons, List.cons_append, expand, hnotree]
      simp only [Wildcard.literal?_literal]
      rcases hdir : t.isDirectory (names.foldl below (below path name)) with _ | _
      · -- whether the step leads on or not, there is nothing at the end
        rw [List.foldl_cons, children_eq_nil hdir]
        rw [children_eq_nil hdir] at hrest
        rcases literal_eq_or t path name with hliteral | hliteral
        · simpa [hliteral] using hrest
        · simp [hliteral]
      · rw [literal_of_walk hwalks hnames hdir]
        simpa using hrest

/-! ## Patterns -/

/-- A path in which no character is a wildcard, and on which no walk meets an empty path: it does
not begin with dots, of which nothing is written, and an empty step after them. -/
structure IsPlain (path : String) : Prop where
  literal : ∀ c ∈ path.toList, Wildcard.IsLiteral c
  passable : Path.isAbsolute path = false →
    ((steps path).dropWhile (· = ".")).head? ≠ some ""

theorem IsPlain.walks {path : String} (h : IsPlain path) : Walks (base path) (steps path) :=
  (walks_steps_iff path).mpr h.passable

/-- The names in a directory are found under its tidy path. -/
theorem IsPlain.namesIn_tidy {path : String} (h : IsPlain path) (hcheck : checkPath path = .ok ()) :
    t.namesIn (tidy path) = t.namesIn path := by
  have hdir : ∀ place, t.isDirectoryAt place = true →
      (t.locate (tidy path) = .ok place ↔ t.locate path = .ok place) :=
    fun _ => locate_tidy_iff hcheck h.walks
  -- both paths lead to the same directory, or neither of them leads to any
  rcases hthere : t.isDirectory path with _ | _
  · rw [namesIn_eq_nil hthere, namesIn_eq_nil]
    rw [Bool.eq_false_iff, Ne, isDirectory_iff] at hthere ⊢
    rintro ⟨place, hplace, hplace'⟩
    exact hthere ⟨place, (hdir place hplace').mp hplace, hplace'⟩
  · obtain ⟨place, hplace, hplace'⟩ := isDirectory_iff.mp hthere
    rw [namesIn, namesIn, (hdir place hplace').mpr hplace, hplace]

/-- A path that a search writes down for a name leads to an entry of the directory that was
searched. -/
theorem IsPlain.locate_entry {path name : String} {found : List String} (h : IsPlain path)
    (hcheck : checkPath path = .ok ()) (hslash : '/' ∉ name.toList)
    (hproper : isProper name = true) (hfound : t.locate (below (tidy path) name) = .ok found) :
    ∃ place, t.locate path = .ok place ∧ found = place ++ [name] := by
  obtain ⟨-, place, hplace, hname⟩ :=
    (locate_below_iff h.walks.foldl_ne_empty hslash).mp hfound
  have hdir := isDirectoryAt_of_follow (List.cons_ne_nil _ _) hname
  exact ⟨place, (locate_tidy_iff hcheck h.walks hdir).mp hplace,
    eq_of_follow_singleton hproper hname⟩

/-- The pattern of a directory, a star and an ending reads. -/
theorem ofText_pattern {directory ending : String}
    (hdirectory : ∀ c ∈ directory.toList, Wildcard.IsLiteral c)
    (hending : ∀ c ∈ ending.toList, Wildcard.IsLiteral c) (hslash : '/' ∉ ("*" ++ ending).toList) :
    ∃ ws, Wildcard.ofText (Path.join directory ("*" ++ ending)) = .ok ws := by
  rw [Path.join_name _ hslash]
  split_ifs
  · rw [← String.append_assoc]
    exact ⟨_, Wildcard.ofText_star hdirectory hending⟩
  · rw [← String.append_assoc]
    refine ⟨_, Wildcard.ofText_star ?_ hending⟩
    simp only [String.toList_append, List.forall_mem_append]
    exact ⟨hdirectory, Wildcard.isLiteral_of_all (by decide)⟩

/-- The steps of a path without wildcards read as their characters. -/
theorem mapM_steps {directory : String} (h : ∀ c ∈ directory.toList, Wildcard.IsLiteral c)
    {fault : WildcardFault → Fault} :
    (steps directory).mapM (fun name => (Wildcard.ofText name).mapError fault)
      = .ok ((steps directory).map fun name => name.toList.map .char) := by
  rw [Except.mapM_eq_ok_iff, List.forall₂_map_right_iff, List.forall₂_same]
  intro name hname
  rw [Wildcard.ofText_literal fun c hc => h c (mem_of_mem_steps hname hc)]
  rfl

/-- **What a search for an ending finds** are the entries of the directory with this ending. -/
theorem paths_star {directory ending : String} (hplain : IsPlain directory)
    (hending : ∀ c ∈ ending.toList, Wildcard.IsLiteral c) (hslash : '/' ∉ ending.toList) :
    paths t (Path.join directory ("*" ++ ending))
      = .ok (((t.namesIn (tidy directory)).filter (Text.endsWith · ending)).map
          (below (tidy directory))) := by
  have hstar : '/' ∉ ("*" ++ ending).toList := by simpa using hslash
  have hne : "*" ++ ending ≠ "" := by simp
  have hnames := not_mem_of_mem_steps directory
  obtain ⟨ws, hws⟩ := ofText_pattern hplain.literal hending hstar
  have hlast : Wildcard.ofText ("*" ++ ending) = .ok (.run :: ending.toList.map .char) :=
    Wildcard.ofText_star (s := "") nofun hending
  let fault (f : WildcardFault) : Fault := .glob f.position f.cause
  -- every name of the directory stands for itself, and only the last part has a star
  have hparts : (steps (Path.join directory ("*" ++ ending))).mapM
      (fun name => (Wildcard.ofText name).mapError fault)
      = .ok ((steps directory).map (fun name => name.toList.map .char)
        ++ [.run :: ending.toList.map .char]) := by
    rw [steps_join directory hstar hne, List.mapM_append, mapM_steps hplain.literal]
    rw [List.mapM_cons, hlast]
    rfl
  calc paths t (Path.join directory ("*" ++ ending))
      = ((Wildcard.ofText (Path.join directory ("*" ++ ending))).mapError fault >>= fun _ =>
          (steps (Path.join directory ("*" ++ ending))).mapM
            (fun name => (Wildcard.ofText name).mapError fault) >>= fun parts =>
          .ok (expand t (base (Path.join directory ("*" ++ ending))) false parts)) := rfl
    _ = .ok (expand t (base directory) false
          ((steps directory).map (fun name => name.toList.map .char)
            ++ [.run :: ending.toList.map .char])) := by
        rw [hws, hparts, base_join directory hstar]
        rfl
    _ = _ := by
        rw [expand_walk hplain.walks hnames (by simp) (Wildcard.literal?_run _), children_star]
        rfl

end Glob

end FabricAudit
