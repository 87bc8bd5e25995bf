import Mathlib.Data.String.Basic
import FabricAudit.Files.Glob
import FabricAudit.Proofs.Document.Path
import FabricAudit.Proofs.Files.Save

set_option autoImplicit false

/-! # Walking a path step by step

A search for paths with wildcards does not follow a path as a whole. It goes from step to step and
writes down a path of its own, in which repeated slashes and first dots are left out
(`Glob.tidy`). This path leads to the same directories as the path that was searched
(`locate_tidy_iff`), unless one of the paths on the way is empty: an empty path leads nowhere, so a
search in such a path finds nothing (`Glob.Walks`).
-/

namespace FabricAudit

/-! ## Pieces of a text -/

namespace Text

theorem endsWith_iff {s ending : String} : endsWith s ending = true ↔ ending.toList <:+ s.toList :=
  List.isSuffixOf_iff_suffix

theorem endsWith_slash_iff {s : String} : endsWith s "/" = true ↔ s.toList.getLast? = some '/' := by
  rw [endsWith_iff, List.getLast?_eq_some_iff]
  exact exists_congr fun _ => eq_comm

/-- A text does not end with a slash, if there is something without slashes at its end. -/
theorem not_endsWith_slash (front : String) {last : String} (h : '/' ∉ last.toList)
    (hne : last ≠ "") : endsWith (front ++ last) "/" = false := by
  rw [Bool.eq_false_iff, Ne, endsWith_slash_iff, String.toList_append, List.getLast?_append]
  rcases hlast : last.toList.getLast? with _ | c
  · exact absurd (String.toList_eq_nil_iff.mp (List.getLast?_eq_none_iff.mp hlast)) hne
  · rw [Option.some_or, Option.some_inj]
    rintro rfl
    exact h (List.mem_of_getLast? hlast)

theorem splitAt_ne_nil (sep : Char) (s : String) : splitAt sep s ≠ [] := by
  rw [splitAt, splitChars_eq_splitOn, Ne, List.map_eq_nil_iff]
  exact List.splitOn_ne_nil _ _

/-- A text splits at any slash. -/
theorem splitAt_append_slash (s t : String) :
    splitAt '/' (s ++ "/" ++ t) = splitAt '/' s ++ splitAt '/' t := by
  have hchars : (s ++ "/" ++ t).toList = s.toList ++ '/' :: t.toList := by simp
  rw [splitAt, splitAt, splitAt, hchars, splitChars_eq_splitOn, splitChars_eq_splitOn,
    splitChars_eq_splitOn, List.splitOn_append_cons_self, List.map_append]

/-- A text has no slash, or there is a last one. -/
theorem exists_last_slash {s : String} (h : '/' ∈ s.toList) :
    ∃ front last, s = front ++ "/" ++ last ∧ '/' ∉ last.toList := by
  obtain ⟨back, front, hchars, hback⟩ := List.eq_append_cons_of_mem (List.mem_reverse.mpr h)
  refine ⟨String.ofList front.reverse, String.ofList back.reverse, ?_, by simpa using hback⟩
  apply String.toList_inj.mp
  simpa using congrArg List.reverse hchars

/-- No piece has the separator in it. -/
theorem not_mem_of_mem_splitChars {sep : Char} {cs : List Char} :
    ∀ piece ∈ splitChars sep cs, sep ∉ piece := by
  induction cs with
  | nil => simp [splitChars]
  | cons c cs ih =>
      rw [splitChars]
      split_ifs with hc
      · exact List.forall_mem_cons.mpr ⟨List.not_mem_nil, ih⟩
      · split
        · simp [Ne.symm hc]
        · next first rest heq =>
            rw [heq] at ih
            obtain ⟨hfirst, hrest⟩ := List.forall_mem_cons.mp ih
            refine List.forall_mem_cons.mpr ⟨?_, hrest⟩
            rw [List.mem_cons, not_or]
            exact ⟨Ne.symm hc, hfirst⟩

theorem not_mem_of_mem_splitAt {sep : Char} {s piece : String} (h : piece ∈ splitAt sep s) :
    sep ∉ piece.toList := by
  obtain ⟨cs, hcs, rfl⟩ := List.mem_map.mp h
  rw [String.toList_ofList]
  exact not_mem_of_mem_splitChars cs hcs

/-- A text is its first piece, and then a slash and a piece for every other one. -/
theorem toList_of_splitAt {s first : String} {rest : List String}
    (h : splitAt '/' s = first :: rest) :
    s.toList = first.toList ++ rest.flatMap fun piece => '/' :: piece.toList := by
  have hjoin : ∀ first : List Char, ['/'].intercalate (first :: rest.map String.toList)
      = first ++ rest.flatMap fun piece => '/' :: piece.toList := by
    clear h
    induction rest with
    | nil => simp
    | cons piece rest ih =>
        intro first
        rw [List.map_cons, List.intercalate_cons_cons, ih, List.flatMap_cons]
        simp
  have hpieces : s.toList.splitOn '/' = first.toList :: rest.map String.toList := by
    rw [splitAt, splitChars_eq_splitOn] at h
    have hchars := congrArg (List.map String.toList) h
    simpa [Function.comp_def] using hchars
  rw [← hjoin, ← hpieces, List.intercalate_splitOn]

end Text

namespace Path

theorem isAbsolute_iff {path : String} : isAbsolute path = true ↔ ∃ rest, path = "/" ++ rest := by
  rw [isAbsolute, Text.startsWith, List.isPrefixOf_iff_prefix]
  constructor
  · rintro ⟨rest, hrest⟩
    exact ⟨String.ofList rest, String.toList_inj.mp (by simpa using hrest.symm)⟩
  · rintro ⟨rest, rfl⟩
    rw [String.toList_append]
    exact List.prefix_append _ _

/-- A name is no absolute path. -/
theorem isAbsolute_of_not_mem {name : String} (h : '/' ∉ name.toList) :
    isAbsolute name = false := by
  rw [Bool.eq_false_iff, Ne, isAbsolute_iff]
  rintro ⟨rest, rfl⟩
  simp at h

/-- The path of a name below another path. -/
theorem join_name (path : String) {name : String} (h : '/' ∉ name.toList) :
    join path name =
      if path = "" ∨ Text.endsWith path "/" = true then path ++ name
      else path ++ "/" ++ name := by
  rw [join, isAbsolute_of_not_mem h]
  simp

/-- A path below another one begins where this one does. -/
theorem isAbsolute_join (path : String) {name : String} (h : '/' ∉ name.toList) :
    isAbsolute (join path name) = isAbsolute path := by
  by_cases hpath : path = ""
  · rw [hpath, join_name _ h, if_pos (.inl rfl), String.empty_append, isAbsolute_of_not_mem h]
    rfl
  obtain ⟨rest, hrest⟩ : ∃ rest, join path name = path ++ rest := by
    rw [join_name path h]
    split_ifs
    · exact ⟨name, rfl⟩
    · exact ⟨"/" ++ name, String.append_assoc⟩
  rw [isAbsolute, isAbsolute, Text.startsWith, Text.startsWith, hrest, String.toList_append]
  cases hchars : path.toList with
  | nil => exact absurd (String.toList_eq_nil_iff.mp hchars) hpath
  | cons c cs => rfl

/-- **The pieces of a path below another one** are those of that path, without an empty last one,
and the name. -/
theorem splitAt_join (path : String) {name : String} (h : '/' ∉ name.toList) :
    Text.splitAt '/' (join path name) = Glob.partsOf path ++ [name] := by
  rw [join_name path h, Glob.partsOf]
  by_cases hslash : '/' ∈ path.toList
  · obtain ⟨front, last, rfl, hlast⟩ := Text.exists_last_slash hslash
    have hpieces : Text.splitAt '/' (front ++ "/" ++ last) = Text.splitAt '/' front ++ [last] := by
      rw [Text.splitAt_append_slash, Text.splitAt_eq_singleton hlast]
    simp only [hpieces, List.getLast?_concat, List.dropLast_concat, Option.some_inj]
    by_cases hempty : last = ""
    · have hends : Text.endsWith (front ++ "/" ++ last) "/" = true := by
        rw [hempty, String.append_empty, Text.endsWith_slash_iff, String.toList_append]
        exact List.getLast?_concat
      rw [if_pos (.inr hends), if_pos hempty, hempty, String.append_empty,
        Text.splitAt_append_slash, Text.splitAt_eq_singleton h]
    · have hends : ¬ (front ++ "/" ++ last = "" ∨
          Text.endsWith (front ++ "/" ++ last) "/" = true) := by
        rw [Text.not_endsWith_slash _ hlast hempty]
        simp
      rw [if_neg hends, if_neg (by simpa using hempty), Text.splitAt_append_slash, hpieces,
        Text.splitAt_eq_singleton h]
  · -- the path is a single piece, or none at all
    rw [Text.splitAt_eq_singleton hslash]
    by_cases hempty : path = ""
    · subst hempty
      simp [Text.splitAt_eq_singleton h]
    · have hends := Text.not_endsWith_slash "" hslash hempty
      rw [String.empty_append] at hends
      rw [hends, if_neg (by simpa using hempty), Text.splitAt_append_slash,
        Text.splitAt_eq_singleton hslash, Text.splitAt_eq_singleton h]
      simp [hempty]

/-- A slash before a path stays before what is below the path. -/
theorem join_slash_append (path : String) {name : String} (h : '/' ∉ name.toList) :
    join ("/" ++ path) name = "/" ++ join path name := by
  rw [join_name _ h, join_name _ h]
  by_cases hempty : path = ""
  · subst hempty
    rw [if_pos (.inr (by decide)), if_pos (.inl rfl), String.append_empty, String.empty_append]
  · have hends : Text.endsWith ("/" ++ path) "/" = Text.endsWith path "/" := by
      rw [Bool.eq_iff_iff, Text.endsWith_slash_iff, Text.endsWith_slash_iff, String.toList_append,
        List.getLast?_append]
      rcases hlast : path.toList.getLast? with _ | c
      · exact absurd (String.toList_eq_nil_iff.mp (List.getLast?_eq_none_iff.mp hlast)) hempty
      · rfl
    have hfirst : "/" ++ path ≠ "" := by simp
    simp only [hends, hempty, hfirst, false_or]
    split_ifs <;> simp only [String.append_assoc]

end Path

/-! ## Following names -/

namespace FileTree

variable {t : FileTree} {place found : List String} {path name : String}

/-- Names are only followed from directories. -/
theorem isDirectoryAt_of_follow {names : List String} (hnames : names ≠ [])
    (h : t.follow place names = .ok found) : t.isDirectoryAt place = true := by
  cases names with
  | nil => exact absurd rfl hnames
  | cons name names =>
      rw [follow] at h
      by_contra hdir
      rw [if_pos (by simpa using hdir)] at h
      cases h

theorem follow_append_iff {names more : List String} :
    t.follow place (names ++ more) = .ok found ↔
      ∃ between, t.follow place names = .ok between ∧ t.follow between more = .ok found := by
  rw [follow_append, Except.bind_eq_ok_iff]

/-- A proper name leads from a directory to what has this name in it. -/
theorem eq_of_follow_singleton (hproper : isProper name = true)
    (h : t.follow place [name] = .ok found) : found = place ++ [name] := by
  simp only [isProper, Bool.and_eq_true, bne_iff_ne] at hproper
  obtain ⟨⟨hempty, hdot⟩, hup⟩ := hproper
  rw [follow] at h
  split_ifs at h with hdir hsame
  · exact absurd hsame (by simp [hempty, hdot])
  · cases h
    rfl

/-- An empty name leads nowhere else. -/
theorem follow_empty_iff :
    t.follow place [""] = .ok found ↔ t.isDirectoryAt place = true ∧ place = found := by
  rw [follow, follow]
  cases t.isDirectoryAt place <;> simp

/-- An empty last piece makes no difference to paths of directories. -/
theorem follow_partsOf_iff (hdir : t.isDirectoryAt found = true) :
    t.follow place (Glob.partsOf path) = .ok found ↔
      t.follow place (Text.splitAt '/' path) = .ok found := by
  rw [Glob.partsOf]
  by_cases hlast : (Text.splitAt '/' path).getLast? = some ""
  · simp only [hlast, if_true]
    conv_rhs => rw [← List.dropLast_append_getLast? _ hlast]
    rw [follow_append_iff]
    simp only [follow_empty_iff]
    constructor
    · exact fun h => ⟨found, h, hdir, rfl⟩
    · rintro ⟨_, h, -, rfl⟩
      exact h
  · simp only [if_neg hlast]

theorem locate_eq_ok_iff : t.locate path = .ok found ↔
    checkPath path = .ok () ∧ t.follow (t.start path) (Text.splitAt '/' path) = .ok found := by
  rw [locate, Except.bind_eq_ok_iff]
  constructor
  · rintro ⟨_, hcheck, h⟩
    exact ⟨hcheck, h⟩
  · rintro ⟨hcheck, h⟩
    exact ⟨(), hcheck, h⟩

theorem checkPath_iff : checkPath path = .ok () ↔
    '\x00' ∉ path.toList ∧ path ≠ "" ∧ path.utf8ByteSize < pathLimit := by
  rw [checkPath]
  split_ifs with hnull hempty hlong
  · simp at hnull
    simp [hnull]
  · simp at hempty
    simp [hempty]
  · simp [hlong]
  · simp at hnull hempty
    simp [hnull, hempty, not_le.mp hlong]

/-- A path below another one leads to an entry of the directory that this one leads to. -/
theorem locate_entry_of_join (hcheck : checkPath path = .ok ()) (hslash : '/' ∉ name.toList)
    (hproper : isProper name = true) (h : t.locate (Path.join path name) = .ok found) :
    ∃ place, t.locate path = .ok place ∧ found = place ++ [name] := by
  obtain ⟨-, hfollow⟩ := locate_eq_ok_iff.mp h
  have hstart : t.start (Path.join path name) = t.start path := by
    rw [start, start, Path.isAbsolute_join path hslash]
  rw [Path.splitAt_join path hslash, hstart, follow_append_iff] at hfollow
  obtain ⟨place, hplace, hname⟩ := hfollow
  have hdir := isDirectoryAt_of_follow (List.cons_ne_nil _ _) hname
  exact ⟨place, locate_eq_ok_iff.mpr ⟨hcheck, (follow_partsOf_iff hdir).mp hplace⟩,
    eq_of_follow_singleton hproper hname⟩

/-- A path that can be followed at all can be cut. -/
theorem checkPath_of_sublist {other : String} (h : checkPath other = .ok ()) (hne : path ≠ "")
    (hsub : path.toList.Sublist other.toList) : checkPath path = .ok () := by
  obtain ⟨hnull, -, hshort⟩ := checkPath_iff.mp h
  refine checkPath_iff.mpr ⟨fun hmem => hnull (hsub.subset hmem), hne, ?_⟩
  have hsize := String.utf8Len_le_of_sublist hsub
  rw [← String.utf8ByteSize_ofList, ← String.utf8ByteSize_ofList, String.ofList_toList,
    String.ofList_toList] at hsize
  exact hsize.trans_lt hshort

end FileTree

namespace Glob

open FileTree

/-! ## One step -/

variable {t : FileTree} {path name : String} {found : List String}

/-- A path with a step at its end has no more characters than the two and a slash. -/
theorem below_sublist (path : String) (hname : '/' ∉ name.toList) :
    (below path name).toList.Sublist (path.toList ++ '/' :: name.toList) := by
  rw [below]
  split_ifs
  · exact (List.sublist_cons_self _ _).trans (List.sublist_append_right _ _)
  · rw [Path.join_name path hname]
    split_ifs
    · rw [String.toList_append]
      exact (List.sublist_cons_self _ _).append_left _
    · rw [String.toList_append, String.toList_append]
      simp

/-- A path stays what it is when a step is added to its end, unless it is a dot. -/
theorem prefix_below (hdot : path ≠ ".") (hname : '/' ∉ name.toList) :
    path.toList <+: (below path name).toList := by
  rw [below, if_neg hdot, Path.join_name path hname]
  split_ifs
  · rw [String.toList_append]
    exact List.prefix_append _ _
  · rw [String.toList_append, String.toList_append, List.append_assoc]
    exact List.prefix_append _ _

/-- What cannot be followed with a step at its end cannot be followed without it. -/
theorem checkPath_of_below (hpath : path ≠ "") (hname : '/' ∉ name.toList)
    (h : checkPath (below path name) = .ok ()) : checkPath path = .ok () := by
  by_cases hdot : path = "."
  · rw [hdot]
    rfl
  · exact checkPath_of_sublist h hpath (prefix_below hdot hname).sublist

/-- **A step at the end of a path** is followed from the place that the path leads to. -/
theorem locate_below_iff (hpath : path ≠ "") (hname : '/' ∉ name.toList) :
    t.locate (below path name) = .ok found ↔
      checkPath (below path name) = .ok () ∧
        ∃ place, t.locate path = .ok place ∧ t.follow place [name] = .ok found := by
  rw [locate_eq_ok_iff]
  refine and_congr_right fun hcheck => ?_
  have hcheck' := checkPath_of_below hpath hname hcheck
  simp only [locate_eq_ok_iff, hcheck', true_and]
  by_cases hdot : path = "."
  · -- after a dot the name is all that is written, and it is followed from the same place
    subst hdot
    have hstart : t.start "." = t.here := rfl
    have hpieces : Text.splitAt '/' "." = ["."] := rfl
    rw [below, if_pos rfl, Text.splitAt_eq_singleton hname, start, Path.isAbsolute_of_not_mem hname,
      if_neg Bool.false_ne_true, hstart, hpieces]
    constructor
    · intro h
      refine ⟨t.here, ?_, h⟩
      rw [follow, isDirectoryAt_of_follow (by simp) h]
      rfl
    · rintro ⟨place, hplace, h⟩
      have hdir := isDirectoryAt_of_follow (by simp) hplace
      rw [follow, hdir] at hplace
      cases hplace
      exact h
  · rw [below, if_neg hdot, Path.splitAt_join path hname, start, start,
      Path.isAbsolute_join path hname, follow_append_iff]
    refine exists_congr fun place => and_congr_left fun h => ?_
    exact follow_partsOf_iff (isDirectoryAt_of_follow (by simp) h)

/-! ## Walks -/

/-- No path on a walk is empty. -/
def Walks : String → List String → Prop
  | path, [] => path ≠ ""
  | path, name :: rest => path ≠ "" ∧ Walks (below path name) rest

theorem Walks.ne_empty {path : String} {names : List String} (h : Walks path names) :
    path ≠ "" := by
  cases names with
  | nil => exact h
  | cons name names => exact h.1

theorem Walks.foldl_ne_empty {path : String} {names : List String} (h : Walks path names) :
    names.foldl below path ≠ "" := by
  induction names generalizing path with
  | nil => exact h
  | cons name names ih => exact ih h.2

theorem checkPath_of_walk {names : List String} (hwalks : Walks path names)
    (hnames : ∀ name ∈ names, '/' ∉ name.toList)
    (h : checkPath (names.foldl below path) = .ok ()) : checkPath path = .ok () := by
  induction names generalizing path with
  | nil => exact h
  | cons name names ih =>
      obtain ⟨hname, hnames⟩ := List.forall_mem_cons.mp hnames
      exact checkPath_of_below hwalks.1 hname (ih hwalks.2 hnames h)

/-- **The path of a walk leads to where its steps lead** from the place where it begins. -/
theorem locate_walk_iff {names : List String} (hwalks : Walks path names)
    (hnames : ∀ name ∈ names, '/' ∉ name.toList) :
    t.locate (names.foldl below path) = .ok found ↔
      checkPath (names.foldl below path) = .ok () ∧
        ∃ place, t.locate path = .ok place ∧ t.follow place names = .ok found := by
  induction names generalizing path with
  | nil =>
      simp only [List.foldl_nil, follow, Except.ok.injEq, exists_eq_right]
      exact ⟨fun h => ⟨(locate_eq_ok_iff.mp h).1, h⟩, fun h => h.2⟩
  | cons name names ih =>
      obtain ⟨hname, hnames⟩ := List.forall_mem_cons.mp hnames
      rw [List.foldl_cons, ih hwalks.2 hnames]
      refine and_congr_right fun hcheck => ?_
      -- the last path of the walk is the longest, so those before it can be followed, too
      have hcheck' := checkPath_of_walk hwalks.2 hnames hcheck
      have hsteps : ∀ place, t.follow place (name :: names) = .ok found ↔
          ∃ between, t.follow place [name] = .ok between ∧ t.follow between names = .ok found := by
        intro place
        rw [← List.singleton_append, follow_append_iff]
      simp only [locate_below_iff hwalks.1 hname, hcheck', true_and, hsteps]
      constructor
      · rintro ⟨between, ⟨place, hplace, hbetween⟩, h⟩
        exact ⟨place, hplace, between, hbetween, h⟩
      · rintro ⟨place, hplace, between, hbetween, h⟩
        exact ⟨between, ⟨place, hplace, hbetween⟩, h⟩

/-! ## Tidy paths -/

/-- A path without the slash that it begins with, if it does. -/
def body (path : String) : String :=
  if Path.isAbsolute path then String.ofList path.toList.tail else path

def steps (path : String) : List String := partsOf (body path)

/-- Where the steps of a path begin. -/
def base (path : String) : String := if Path.isAbsolute path then "/" else "."

/-- The path that a walk along a path writes down. -/
def tidy (path : String) : String := (steps path).foldl below (base path)

theorem body_append (path : String) : body ("/" ++ path) = path := by
  have habsolute : Path.isAbsolute ("/" ++ path) = true := Path.isAbsolute_iff.mpr ⟨path, rfl⟩
  rw [body, if_pos habsolute, String.toList_append]
  simp

/-- A path is its body, or a slash and its body. -/
theorem base_body_cases (path : String) :
    (base path = "." ∧ body path = path ∧ Path.isAbsolute path = false) ∨
    (base path = "/" ∧ path = "/" ++ body path ∧ Path.isAbsolute path = true) := by
  rcases habsolute : Path.isAbsolute path with _ | _
  · exact .inl ⟨by rw [base, habsolute]; rfl, by rw [body, habsolute]; rfl, rfl⟩
  · obtain ⟨rest, rfl⟩ := Path.isAbsolute_iff.mp habsolute
    exact .inr ⟨by rw [base, habsolute]; rfl, by rw [body_append], rfl⟩

/-- The pieces of a path are its parts, and perhaps an empty one. -/
theorem splitAt_eq_partsOf_append (path : String) :
    ∃ more, Text.splitAt '/' path = partsOf path ++ more ∧ (more = [] ∨ more = [""]) := by
  by_cases hlast : (Text.splitAt '/' path).getLast? = some ""
  · have hparts : partsOf path = (Text.splitAt '/' path).dropLast := if_pos hlast
    exact ⟨[""], by rw [hparts, List.dropLast_append_getLast? _ hlast], .inr rfl⟩
  · have hparts : partsOf path = Text.splitAt '/' path := if_neg hlast
    exact ⟨[], by rw [hparts, List.append_nil], .inl rfl⟩

/-- The parts of a path, with slashes between them, are what it consists of. -/
theorem partsOf_sublist {path name : String} {names : List String}
    (h : partsOf path = name :: names) :
    (name.toList ++ names.flatMap fun name => '/' :: name.toList).Sublist path.toList := by
  obtain ⟨more, hpieces, -⟩ := splitAt_eq_partsOf_append path
  rw [h, List.cons_append] at hpieces
  rw [Text.toList_of_splitAt hpieces, List.flatMap_append, ← List.append_assoc]
  exact List.sublist_append_left _ _

/-- Only the empty path has no parts. -/
theorem partsOf_ne_nil {path : String} (h : path ≠ "") : partsOf path ≠ [] := by
  intro hnil
  obtain ⟨more, hpieces, rfl | rfl⟩ := splitAt_eq_partsOf_append path
  · rw [hnil] at hpieces
    exact Text.splitAt_ne_nil _ _ hpieces
  · rw [hnil] at hpieces
    exact h (String.toList_eq_nil_iff.mp (Text.toList_of_splitAt hpieces))

theorem not_mem_of_mem_steps (path : String) : ∀ name ∈ steps path, '/' ∉ name.toList := by
  intro name hname
  obtain ⟨more, hpieces, -⟩ := splitAt_eq_partsOf_append (body path)
  refine Text.not_mem_of_mem_splitAt (s := body path) ?_
  rw [hpieces]
  exact List.mem_append_left _ hname

/-- The steps of a path have no characters but those of the path. -/
theorem mem_of_mem_steps {path name : String} (hname : name ∈ steps path) {c : Char}
    (hc : c ∈ name.toList) : c ∈ path.toList := by
  have hbody : c ∈ (body path).toList := by
    rw [steps] at hname
    cases hparts : partsOf (body path) with
    | nil =>
        rw [hparts] at hname
        cases hname
    | cons first names =>
        refine (partsOf_sublist hparts).subset ?_
        rw [hparts] at hname
        rcases List.mem_cons.mp hname with rfl | hname
        · exact List.mem_append_left _ hc
        · exact List.mem_append_right _ (List.mem_flatMap.mpr
            ⟨name, hname, List.mem_cons_of_mem _ hc⟩)
  obtain ⟨-, heq, -⟩ | ⟨-, heq, -⟩ := base_body_cases path
  · rwa [heq] at hbody
  · rw [heq, String.toList_append]
    exact List.mem_append_right _ hbody

/-- The steps of a path below another one are those of that path, and the name. -/
theorem steps_join (path : String) {name : String} (hslash : '/' ∉ name.toList)
    (hname : name ≠ "") : steps (Path.join path name) = steps path ++ [name] := by
  have hparts : ∀ path, partsOf (Path.join path name) = partsOf path ++ [name] := by
    intro path
    have hlast : (Text.splitAt '/' (Path.join path name)).getLast? ≠ some "" := by
      rw [Path.splitAt_join path hslash, List.getLast?_concat, Ne, Option.some_inj]
      exact hname
    exact (if_neg hlast).trans (Path.splitAt_join path hslash)
  rw [steps, steps]
  obtain ⟨-, hbody, habsolute⟩ | ⟨-, hbody, -⟩ := base_body_cases path
  · rw [body, Path.isAbsolute_join path hslash, habsolute, if_neg Bool.false_ne_true, hbody, hparts]
  · conv_lhs => rw [hbody, Path.join_slash_append _ hslash, body_append, hparts]

theorem base_join (path : String) {name : String} (hslash : '/' ∉ name.toList) :
    base (Path.join path name) = base path := by
  rw [base, base, Path.isAbsolute_join path hslash]

/-! ### Walks that meet no empty path -/

/-- A path with a name at its end is neither empty nor a dot, if it was neither before. -/
theorem walks_of_ne {names : List String} (hempty : path ≠ "") (hdot : path ≠ ".")
    (hnames : ∀ name ∈ names, '/' ∉ name.toList) : Walks path names := by
  induction names generalizing path with
  | nil => exact hempty
  | cons name names ih =>
      obtain ⟨hname, hnames⟩ := List.forall_mem_cons.mp hnames
      have hprefix := prefix_below hdot hname
      refine ⟨hempty, ih (fun h => ?_) (fun h => ?_) hnames⟩
      · rw [h] at hprefix
        exact hempty (String.toList_eq_nil_iff.mp (List.prefix_nil.mp hprefix))
      · -- there is nothing before a dot but the empty path
        have hprefix : path.toList <+: [] ++ ['.'] := by rwa [h] at hprefix
        rcases List.prefix_concat_iff.mp hprefix with heq | hnil
        · exact hdot (String.toList_inj.mp heq)
        · exact hempty (String.toList_eq_nil_iff.mp (List.prefix_nil.mp hnil))

/-- A walk from where relative paths begin meets an empty path only if it begins with dots, of which
nothing is written, and an empty step after them. -/
theorem walks_dot_iff {names : List String} (hnames : ∀ name ∈ names, '/' ∉ name.toList) :
    Walks "." names ↔ (names.dropWhile (· = ".")).head? ≠ some "" := by
  induction names with
  | nil => simp [Walks]
  | cons name names ih =>
      obtain ⟨-, hnames'⟩ := List.forall_mem_cons.mp hnames
      have hstep : Walks "." (name :: names) ↔ Walks name names :=
        and_iff_right (show "." ≠ "" by decide)
      rw [hstep, List.dropWhile_cons]
      by_cases hdot : name = "."
      · subst hdot
        rw [if_pos (by simp), ih hnames']
      · rw [if_neg (by simpa using hdot), List.head?_cons, Ne, Option.some_inj]
        exact ⟨fun h => h.ne_empty, fun h => walks_of_ne h hdot hnames'⟩

theorem walks_steps_iff (path : String) : Walks (base path) (steps path) ↔
    (Path.isAbsolute path = false → ((steps path).dropWhile (· = ".")).head? ≠ some "") := by
  have hnames := not_mem_of_mem_steps path
  obtain ⟨hbase, -, habsolute⟩ | ⟨hbase, -, habsolute⟩ := base_body_cases path
  · rw [hbase, habsolute, walks_dot_iff hnames, forall_prop_of_true rfl]
  · rw [hbase, habsolute]
    exact iff_of_true (walks_of_ne (by decide) (by decide) hnames) nofun

/-! ### Where tidy paths lead -/

theorem foldl_below_sublist {names : List String} (hnames : ∀ name ∈ names, '/' ∉ name.toList) :
    (names.foldl below path).toList.Sublist
      (path.toList ++ names.flatMap fun name => '/' :: name.toList) := by
  induction names generalizing path with
  | nil => simp
  | cons name names ih =>
      obtain ⟨hname, hnames⟩ := List.forall_mem_cons.mp hnames
      refine (ih hnames).trans ?_
      rw [List.flatMap_cons, ← List.append_assoc]
      exact (below_sublist path hname).append_right _

/-- **A tidy path has no characters but those of the path**, in their order. -/
theorem tidy_sublist {path : String} (h : path ≠ "") :
    (tidy path).toList.Sublist path.toList := by
  have hnames := not_mem_of_mem_steps path
  obtain ⟨hbase, hbody, -⟩ | ⟨hbase, hbody, -⟩ := base_body_cases path
  -- a relative path begins with its first name, and an absolute one with the root
  · rw [tidy, hbase]
    cases hsteps : steps path with
    | nil =>
        rw [steps, hbody] at hsteps
        exact absurd hsteps (partsOf_ne_nil h)
    | cons name names =>
        rw [hsteps] at hnames
        rw [steps, hbody] at hsteps
        refine (foldl_below_sublist (List.forall_mem_cons.mp hnames).2).trans ?_
        exact partsOf_sublist hsteps
  · have hchars : path.toList = '/' :: (body path).toList := by
      rw [hbody, body_append, String.toList_append]
      rfl
    rw [tidy, hbase]
    cases hsteps : steps path with
    | nil =>
        rw [hchars]
        exact (List.nil_sublist _).cons_cons _
    | cons name names =>
        rw [hsteps] at hnames
        obtain ⟨hname, hnames⟩ := List.forall_mem_cons.mp hnames
        have hbelow : below "/" name = "/" ++ name := by
          rw [below, if_neg (by decide), Path.join_name _ hname, if_pos (.inr (by decide))]
        refine (foldl_below_sublist hnames).trans ?_
        rw [hbelow, hchars, String.toList_append, List.append_assoc]
        exact (partsOf_sublist hsteps).cons_cons _

/-- Where the steps of a path begin. -/
theorem locate_base_iff : t.locate (base path) = .ok found ↔
    t.isDirectoryAt (t.start path) = true ∧ t.start path = found := by
  obtain ⟨hbase, -, habsolute⟩ | ⟨hbase, -, habsolute⟩ := base_body_cases path
  · have hrun : t.locate "." = t.follow t.here ["."] := rfl
    rw [hbase, hrun, start, habsolute, if_neg Bool.false_ne_true, follow, follow]
    cases t.isDirectoryAt t.here <;> simp
  · rw [hbase, start, habsolute, if_pos rfl]
    have hrun : t.locate "/" = .ok [] := rfl
    have hroot : t.isDirectoryAt [] = true := rfl
    simp [hrun, hroot]

/-- The steps of a path lead to the same directories as its pieces. -/
theorem follow_steps_iff (hdir : t.isDirectoryAt found = true) :
    (t.isDirectoryAt (t.start path) = true ∧ t.follow (t.start path) (steps path) = .ok found) ↔
      t.follow (t.start path) (Text.splitAt '/' path) = .ok found := by
  rw [steps, follow_partsOf_iff hdir]
  obtain ⟨-, hbody, -⟩ | ⟨-, hbody, habsolute⟩ := base_body_cases path
  · rw [hbody]
    exact and_iff_right_of_imp (isDirectoryAt_of_follow (Text.splitAt_ne_nil _ _))
  · -- the empty piece before the first slash is followed from the root, and leads to the root
    have hstart : t.start path = [] := if_pos habsolute
    have hroot : t.isDirectoryAt [] = true := rfl
    have hpieces : Text.splitAt '/' path = "" :: Text.splitAt '/' (body path) := by
      have hsplit := Text.splitAt_append_slash "" (body path)
      rwa [String.empty_append, ← hbody] at hsplit
    rw [hstart, hpieces, follow, hroot, if_neg (by decide), if_pos (.inl rfl)]
    exact and_iff_right rfl

/-- **A tidy path leads to the same directories.** -/
theorem locate_tidy_iff (hcheck : checkPath path = .ok ()) (hwalks : Walks (base path) (steps path))
    (hdir : t.isDirectoryAt found = true) :
    t.locate (tidy path) = .ok found ↔ t.locate path = .ok found := by
  have hnames := not_mem_of_mem_steps path
  have htidy : checkPath (tidy path) = .ok () :=
    checkPath_of_sublist hcheck hwalks.foldl_ne_empty (tidy_sublist (checkPath_iff.mp hcheck).2.1)
  have hwalk : t.locate (tidy path) = .ok found ↔
      ∃ place, t.locate (base path) = .ok place ∧ t.follow place (steps path) = .ok found :=
    (locate_walk_iff hwalks hnames).trans (and_iff_right htidy)
  have hpath : t.locate path = .ok found ↔
      t.follow (t.start path) (Text.splitAt '/' path) = .ok found :=
    locate_eq_ok_iff.trans (and_iff_right hcheck)
  rw [hwalk, hpath, ← follow_steps_iff hdir]
  simp only [locate_base_iff]
  constructor
  · rintro ⟨_, ⟨hstart, rfl⟩, h⟩
    exact ⟨hstart, h⟩
  · rintro ⟨hstart, h⟩
    exact ⟨_, ⟨hstart, rfl⟩, h⟩

end Glob

end FabricAudit
