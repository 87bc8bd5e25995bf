import FabricAudit.Lab.Topology
import FabricAudit.Proofs.Files.Glob
import FabricAudit.Proofs.Files.Order

set_option autoImplicit false

/-! # Where the topology of a lab is found

The topology of a lab is the file in its directory that has the name of the lab, or else the first
topology file there. The directory is then part of a path that is searched, so the law holds for
directories in whose paths nothing is a wildcard, and whose walks meet no empty path
(`stays_inside`). In any other path the search looks for the directory by its wildcards, and may
take the file of another lab or none (`locate_strays`).
-/

namespace FabricAudit

namespace Topology

/-- The path under which the topology of a lab is looked for first. -/
def ownPath (directory lab : String) : String := Path.join directory (lab ++ ending)

/-- The names in a directory that are those of topology files. -/
def namesIn (files : FileTree) (directory : String) : List String :=
  (files.namesIn directory).filter (Text.endsWith · ending)

/-- The paths of the topology files in a directory, as a search of its tidy path writes them
down. -/
def pathsIn (files : FileTree) (directory : String) : List String :=
  (namesIn files (Glob.tidy directory)).map (Glob.below (Glob.tidy directory))

/-- A path is that of the first topology file in a directory. -/
def IsFirst (files : FileTree) (directory path : String) : Prop :=
  path ∈ pathsIn files directory ∧
    ∀ other ∈ pathsIn files directory, Path.ranks path ≤ Path.ranks other

/-- The topology of a lab comes from its directory. -/
structure StaysInside (files : FileTree) (directory lab : String) : Prop where
  /-- If there is a file with the name of the lab, it is taken. -/
  own : files.exists? (ownPath directory lab) = true →
    locate files directory lab = .ok (ownPath directory lab)
  /-- If there is none, the first topology file of the directory is taken. -/
  first : files.exists? (ownPath directory lab) = false → ∀ path,
    locate files directory lab = .ok path → IsFirst files directory path
  /-- The topology is missing exactly if there is no topology file in the directory. Nothing else
  can go wrong. -/
  error_iff : ∀ fault, locate files directory lab = .error fault ↔
    fault = .topology directory ∧ files.exists? (ownPath directory lab) = false ∧
      pathsIn files directory = []
  /-- A topology that is loaded is said to be missing in this case only. -/
  load_error_iff : ∀ directory', load files directory lab = .error (.topology directory') ↔
    directory' = directory ∧ files.exists? (ownPath directory lab) = false ∧
      pathsIn files directory = []
  /-- A topology that is loaded is read from the path that is found. -/
  load_path : ∀ path topology, load files directory lab = .ok (path, topology) →
    locate files directory lab = .ok path
  /-- The directory has the same names in it under its tidy path. -/
  same_names : FileTree.checkPath directory = .ok () →
    namesIn files (Glob.tidy directory) = namesIn files directory
  /-- Both paths under which a topology file is taken lead into the directory, if anywhere. -/
  entry : FileTree.checkPath directory = .ok () → ∀ name : String, '/' ∉ name.toList →
    Text.endsWith name ending = true →
    ∀ path ∈ [Path.join directory name, Glob.below (Glob.tidy directory) name],
      ∀ found, files.locate path = .ok found →
        ∃ place, files.locate directory = .ok place ∧ found = place ++ [name]

variable {files : FileTree} {directory lab : String}

theorem locate_of_exists (h : files.exists? (ownPath directory lab) = true) :
    locate files directory lab = .ok (ownPath directory lab) := by
  rw [locate, if_pos (by simpa [ownPath] using h)]
  rfl

/-- What is taken if there is no file with the name of the lab. -/
theorem locate_of_missing (hplain : Glob.IsPlain directory)
    (h : files.exists? (ownPath directory lab) = false) :
    locate files directory lab =
      (Path.least? (pathsIn files directory)).elim (.error (.topology directory)) .ok := by
  have hpaths : Glob.paths files (Path.join directory ("*" ++ ending))
      = .ok (pathsIn files directory) :=
    Glob.paths_star hplain (Wildcard.isLiteral_of_all (by decide)) (by decide)
  have hown : ¬ files.exists? (Path.join directory (lab ++ ending)) = true := by
    intro hthere
    rw [ownPath, hthere] at h
    cases h
  rw [locate]
  simp only [if_neg hown, hpaths, bind, Except.bind]
  cases Path.least? (pathsIn files directory) with
  | none => rfl
  | some path => rfl

theorem locate_error_iff (hplain : Glob.IsPlain directory) (fault : Fault) :
    locate files directory lab = .error fault ↔
      fault = .topology directory ∧ files.exists? (ownPath directory lab) = false ∧
        pathsIn files directory = [] := by
  rcases hown : files.exists? (ownPath directory lab) with _ | _
  · rw [locate_of_missing hplain hown]
    cases hleast : Path.least? (pathsIn files directory) with
    | none => simp [Path.least?_eq_none_iff.mp hleast, eq_comm]
    | some path =>
        have hne : pathsIn files directory ≠ [] := by
          intro hnil
          rw [hnil] at hleast
          cases hleast
        simp [hne]
  · rw [locate_of_exists hown]
    simp

/-- Only a topology that is not found is said to be missing. -/
theorem load_error_iff_locate (directory' : String) :
    load files directory lab = .error (.topology directory') ↔
      locate files directory lab = .error (.topology directory') := by
  refine ⟨fun h => ?_, fun h => Except.bind_eq_error_iff.mpr (.inl h)⟩
  -- what comes after the search has faults of other kinds
  rcases Except.bind_eq_error_iff.mp h with h | ⟨path, -, h⟩
  · exact h
  rcases Except.bind_eq_error_iff.mp h with h | ⟨text, -, h⟩
  · obtain ⟨fault, -, h⟩ := Except.mapError_eq_error_iff.mp h
    cases h
  rcases Except.bind_eq_error_iff.mp h with h | ⟨topology, -, h⟩
  · rw [ofText] at h
    cases hnode : Yaml.Node.ofText text with
    | error fault =>
        rw [hnode] at h
        cases h
    | ok node =>
        rw [hnode] at h
        cases h
  · cases h

theorem isProper_of_endsWith {name : String} (h : Text.endsWith name ending = true) :
    FileTree.isProper name = true := by
  rw [Text.endsWith_iff] at h
  simp only [FileTree.isProper, Bool.and_eq_true, bne_iff_ne]
  -- none of the improper names is as long as the ending
  refine ⟨⟨?_, ?_⟩, ?_⟩ <;> rintro rfl <;> exact absurd h.length_le (by decide)

/-- **The topology of a lab comes from its directory**, if nothing in the path of the directory is a
wildcard and no walk along it meets an empty path. The file with the name of the lab is taken, or
else the first file of that same directory whose name has the ending. The topology is missing
exactly if the directory has neither, and the path that is taken leads to no other directory. -/
theorem stays_inside (hplain : Glob.IsPlain directory) : StaysInside files directory lab where
  own := locate_of_exists
  first hown path hpath := by
    rw [locate_of_missing hplain hown] at hpath
    cases hleast : Path.least? (pathsIn files directory) with
    | none =>
        rw [hleast] at hpath
        cases hpath
    | some least =>
        rw [hleast] at hpath
        cases hpath
        exact Path.mem_of_least? hleast
  error_iff := locate_error_iff hplain
  load_error_iff directory' := by
    rw [load_error_iff_locate, locate_error_iff hplain, Fault.topology.injEq]
  load_path path topology hload := by
    obtain ⟨path', hpath, hload⟩ := Except.bind_eq_ok_iff.mp hload
    obtain ⟨text, -, hload⟩ := Except.bind_eq_ok_iff.mp hload
    obtain ⟨topology', -, hload⟩ := Except.bind_eq_ok_iff.mp hload
    cases hload
    exact hpath
  same_names hcheck := by rw [namesIn, namesIn, hplain.namesIn_tidy hcheck]
  entry hcheck name hslash hending path hpath found hfound := by
    have hproper := isProper_of_endsWith hending
    simp only [List.mem_cons, List.not_mem_nil, or_false] at hpath
    obtain rfl | rfl := hpath
    · exact FileTree.locate_entry_of_join hcheck hslash hproper hfound
    · exact hplain.locate_entry hcheck hslash hproper hfound

/-- Two labs. The name of one of them has brackets in it, and the other one has two topologies. -/
def labs : FileTree where
  entries :=
    [(["root"], .directory),
      (["root", "lab[1]"], .directory),
      (["root", "lab[1]", "fabric.clab.yml"], .file (some "name: fabric\n")),
      (["root", "lab1"], .directory),
      (["root", "lab1", "other.clab.yml"], .file (some "name: other\n")),
      (["root", "lab1", "more.clab.yml"], .file (some "name: more\n"))]
  here := []

/-- The first one of two topologies is taken. -/
theorem stays_inside_labs : Glob.IsPlain "root/lab1" ∧ StaysInside labs "root/lab1" "lab1" ∧
    namesIn labs "root/lab1" = ["other.clab.yml", "more.clab.yml"] ∧
    locate labs "root/lab1" "lab1" = .ok "root/lab1/more.clab.yml" := by
  have hplain : Glob.IsPlain "root/lab1" := ⟨Wildcard.isLiteral_of_all (by decide), by decide⟩
  exact ⟨hplain, stays_inside hplain, by decide +kernel, by rfl⟩

/-- **A search may stray from the directory.** Brackets in its path are wildcards to the search,
which then takes the topology of another lab. After a dot and an empty step it finds none, although
there are two. -/
theorem locate_strays :
    (labs.exists? (ownPath "root/lab[1]" "lab[1]") = false ∧
      namesIn labs "root/lab[1]" = ["fabric.clab.yml"] ∧
      locate labs "root/lab[1]" "lab[1]" = .ok "root/lab1/more.clab.yml") ∧
    labs.exists? (ownPath ".//root/lab1" "lab1") = false ∧
      namesIn labs ".//root/lab1" = ["other.clab.yml", "more.clab.yml"] ∧
      locate labs ".//root/lab1" "lab1" = .error (.topology ".//root/lab1") := by
  constructor
  · exact ⟨by decide +kernel, by decide +kernel, by rfl⟩
  · exact ⟨by decide +kernel, by decide +kernel, by rfl⟩

end Topology

end FabricAudit
