import FabricAudit.CommandLine.Commands
import FabricAudit.Proofs.Check.Report
import FabricAudit.Proofs.CommandLine.Job
import FabricAudit.Proofs.Document.Reread
import FabricAudit.Proofs.Drift.Verdict
import FabricAudit.Proofs.Files.Save

set_option autoImplicit false

/-! # What an exit code says

A pipeline that runs the checks or looks for drift sees the exit code and nothing else. The two
commands go through several steps that may fail, and what they need on the way to a report is one
case each of `Finds`. They end with the exit code of a summary exactly if they get there and both
forms of the report are written, the document first and the Markdown text after it
(`succeeds_perform`); any fault before that is an exit code of one (`run_eq`). Showing the results
is no such step, as they can be shown in every format (`summaryLines_yaml`). The document tells the
exit code, and so does the text of it when it is read again (`Finds.ofText_pretty`). Together, an
exit code of zero means that everything was looked at, that nothing blocks, and that both files say
so (`run_exit_sound`).
-/

/-! ## Showing results -/

namespace FabricAudit.Yaml

mutual

/-- The keys of an object are texts, and so the value of a document has a written form. -/
theorem isWritable_ofDocument : ∀ d, isWritable false (Node.ofDocument d) = true
  | .null | .bool _ | .int _ | .float _ | .text _ => rfl
  | .list items => areWritable_ofItems items
  | .object [] => rfl
  | .object [(k, d)] => pairsWritable_ofMembers [(k, d)]
  | .object ((k, d) :: m :: rest) => pairsWritable_ofMembers ((k, d) :: m :: rest)

theorem areWritable_ofItems : ∀ items, areWritable (Node.ofItems items) = true
  | [] => rfl
  | d :: rest => by
      rw [Node.ofItems, areWritable, isWritable_ofDocument d, areWritable_ofItems rest]
      rfl

theorem pairsWritable_ofMembers : ∀ members, pairsWritable (Node.ofMembers members) = true
  | [] => rfl
  | (k, d) :: rest => by
      rw [Node.ofMembers, pairsWritable, isWritable_ofDocument d, pairsWritable_ofMembers rest]
      rfl

end

end FabricAudit.Yaml

namespace FabricAudit.CommandLine

open Job (Succeeds)

variable {σ : Type}

/-- Results can be shown in every format: their report has a written form as YAML, too. -/
theorem summaryLines_yaml (color : Bool) (s : Summary) :
    ∃ text, (Yaml.Node.ofDocument s.toReport).written? = some text ∧
      summaryLines color s .yaml = [text] := by
  have hwritten : (Yaml.Node.ofDocument s.toReport).written?.isSome := by
    rw [Yaml.Node.written?, if_pos (Yaml.isWritable_ofDocument s.toReport)]
    rfl
  obtain ⟨text, htext⟩ := Option.isSome_iff_exists.mp hwritten
  exact ⟨text, htext, by rw [summaryLines, htext, Option.getD_some]⟩

/-! ## Steps of the commands -/

/-- The intent and the topology of the lab load, and `subject` is made of them. -/
def Audits (s : Setting σ) (i : Invocation) (files : FileTree) (subject : Subject σ) : Prop :=
  ∃ intent path topology, Intent.load files i.root i.lab = .ok intent ∧
    Topology.load files (Path.join i.root i.lab) i.lab = .ok (path, topology) ∧
    subject = ⟨intent, Container.lab s.engine topology files (Path.join i.root i.lab),
      .disabled intent.telemetry⟩

/-- The hunks of all changed nodes can be rendered, one after the other. -/
def Renders (s : Setting σ) (subject : Subject σ) : List ConfigFinding → σ → Store → Prop
  | [], _, _ => True
  | .missing _ :: rest, engine, store => Renders s subject rest engine store
  | .changed f :: rest, engine, store =>
    ∃ text st, Drift.renderConfig subject s.color f.node ⟨⟨engine, []⟩, store⟩ = (.ok text, st) ∧
      Renders s subject rest st.world.state st.store

/-- A command that audits a lab goes on once its intent and topology are loaded. -/
theorem succeeds_load {s : Setting σ} {i : Invocation} {c : Console σ}
    {post : Subject σ → Console σ → Prop} :
    Succeeds (readIntent i) c (fun intent c' => Succeeds (subject s i intent) c' post) ↔
      ∃ x, Audits s i c.files x ∧ post x c := by
  simp only [readIntent, subject, Job.succeeds_bind, Job.succeeds_fromFiles, Job.succeeds_get,
    Job.succeeds_pure, Audits]
  constructor
  · rintro ⟨intent, hintent, ⟨path, topology⟩, htopology, hrest⟩
    exact ⟨_, ⟨intent, path, topology, hintent, htopology, rfl⟩, hrest⟩
  · rintro ⟨_, ⟨intent, path, topology, hintent, htopology, rfl⟩, hrest⟩
    exact ⟨intent, hintent, (path, topology), htopology, hrest⟩

/-- The document of a report is written, and then its Markdown text, and `post` holds of the files
then. -/
def Saves (documentPath markdownPath title : String) (report : Document) (post : FileTree → Prop)
    (files : FileTree) : Prop :=
  ∃ between files', FileTree.save documentPath report.pretty files = (.ok (), between) ∧
    FileTree.save markdownPath (Markdown.render report title) between = (.ok (), files') ∧
    post files'

theorem succeeds_save {documentPath markdownPath title : String} {report : Document} {c : Console σ}
    {post : Unit → Console σ → Prop} :
    Succeeds (Job.ofFiles (Report.save documentPath markdownPath report title)) c post ↔
      Saves documentPath markdownPath title report (fun files => post () { c with files := files })
        c.files := by
  rw [Job.succeeds_ofFiles, Saves]
  constructor
  · rintro ⟨_, files', hsave, hpost⟩
    obtain ⟨_, between, hdocument, hmarkdown⟩ := Audit.bind_eq_ok_iff.mp hsave
    exact ⟨between, files', hdocument, hmarkdown, hpost⟩
  · rintro ⟨between, files', hdocument, hmarkdown, hpost⟩
    exact ⟨(), files', Audit.bind_eq_ok_iff.mpr ⟨(), between, hdocument, hmarkdown⟩, hpost⟩

/-- Hunks are shown if they can be rendered, and no file changes. -/
theorem succeeds_sayHunks (post : FileTree → Prop) {s : Setting σ} {subject : Subject σ}
    (findings : List ConfigFinding) (store : Store) (c : Console σ) :
    Succeeds (sayHunks s subject findings store) c (fun _ c' => post c'.files) ↔
      Renders s subject findings c.engine store ∧ post c.files := by
  induction findings generalizing store c with
  | nil => simp [sayHunks, Renders]
  | cons f rest ih =>
      cases f with
      | missing m => exact ih store c
      | changed f =>
          simp only [sayHunks, Renders, Job.succeeds_bind, Job.succeeds_say, Job.succeeds_ofAudit,
            ih]
          constructor
          · rintro ⟨text, st, hrender, hrest, hpost⟩
            exact ⟨⟨text, st, hrender, hrest⟩, hpost⟩
          · rintro ⟨⟨text, st, hrender, hrest⟩, hpost⟩
            exact ⟨text, st, hrender, hrest, hpost⟩

/-- What a run of checks needs in order to end with an exit code of its own. -/
theorem succeeds_validate {s : Setting σ} {i : Invocation} {c : Console σ}
    {modeName documentPath markdownPath : String} {format : OutputFormat}
    {post : Nat → FileTree → Prop} :
    Succeeds (validate s i modeName documentPath markdownPath format) c
      (fun code c' => post code c'.files) ↔
    ∃ mode subject summary, RunMode.ofName? modeName = some mode ∧ Audits s i c.files subject ∧
      (Verdict.run subject mode (Audit.fresh ⟨c.engine, []⟩)).1 = summary ∧
      Saves documentPath markdownPath (i.lab ++ " validation") summary.toReport
        (post summary.exitCode) c.files := by
  rw [validate]
  cases hmode : RunMode.ofName? modeName with
  | none => simp
  | some mode =>
      simp only [Job.succeeds_bind, Job.succeeds_ofAudit, Job.succeeds_sayAll, Job.succeeds_report,
        Job.succeeds_pure, succeeds_load, succeeds_save]
      constructor
      · rintro ⟨x, hx, summary, st, hrun, hsave⟩
        cases hrun
        exact ⟨mode, x, _, rfl, hx, rfl, hsave⟩
      · rintro ⟨_, x, summary, ⟨⟩, hx, rfl, hsave⟩
        exact ⟨x, hx, _, _, rfl, hsave⟩

/-- What the detection of drift needs in order to end with an exit code of its own. -/
theorem succeeds_detectDrift {s : Setting σ} {i : Invocation} {c : Console σ}
    {path documentPath markdownPath : String} {showsHunks : Bool}
    {post : Nat → FileTree → Prop} :
    Succeeds (detectDrift s i path documentPath markdownPath showsHunks) c
      (fun code c' => post code c'.files) ↔
    ∃ baseline subject outcome st, Baseline.load c.files path = .ok baseline ∧
      Audits s i c.files subject ∧
      Drift.detect subject baseline s.now (Audit.fresh ⟨c.engine, []⟩) = (.ok outcome, st) ∧
      (showsHunks = true → Renders s subject outcome.config st.world.state st.store) ∧
      Saves documentPath markdownPath (i.lab ++ " drift") outcome.toReport
        (post outcome.summary.exitCode) c.files := by
  -- showing hunks leaves the files alone, so the report is saved among the same files
  have hhunks : ∀ (x : Subject σ) (outcome : DriftOutcome) (store : Store) (c : Console σ),
      Succeeds (sayHunks s x outcome.config store) c (fun _ c' => Saves documentPath markdownPath
          (i.lab ++ " drift") outcome.toReport (post outcome.summary.exitCode) c'.files) ↔
        Renders s x outcome.config c.engine store ∧ Saves documentPath markdownPath
          (i.lab ++ " drift") outcome.toReport (post outcome.summary.exitCode) c.files :=
    fun _ _ _ _ => succeeds_sayHunks _ _ _ _
  rw [detectDrift]
  simp only [Job.succeeds_bind, Job.succeeds_fromFiles, Job.succeeds_ofAudit, Job.succeeds_sayAll,
    Job.succeeds_say, Job.succeeds_report, Job.succeeds_pure, Job.succeeds_ite, succeeds_load,
    succeeds_save, hhunks, ite_self]
  constructor
  · rintro ⟨baseline, hbaseline, x, hx, outcome, st, hdetect, hrest⟩
    refine ⟨baseline, x, outcome, st, hbaseline, hx, hdetect, ?_⟩
    cases showsHunks with
    | false => exact ⟨fun h => absurd h Bool.false_ne_true, hrest⟩
    | true => exact ⟨fun _ => hrest.1, hrest.2⟩
  · rintro ⟨baseline, x, outcome, st, hbaseline, hx, hdetect, hrenders, hsave⟩
    refine ⟨baseline, hbaseline, x, hx, outcome, st, hdetect, ?_⟩
    cases showsHunks with
    | false => exact hsave
    | true => exact ⟨hrenders rfl, hsave⟩

/-! ## Both commands -/

/-- What a command has found by the time it writes its report: a summary, the report and its
title. -/
inductive Finds (s : Setting σ) (i : Invocation) (c : Console σ) :
    Summary → Document → String → Prop where
  /-- The mode is known, intent and topology load, and the checks have been run. -/
  | checks {modeName documentPath markdownPath : String} {format : OutputFormat} {mode : RunMode}
      {subject : Subject σ} {summary : Summary}
      (hcommand : i.command = .validate modeName documentPath markdownPath format)
      (hmode : RunMode.ofName? modeName = some mode) (hsubject : Audits s i c.files subject)
      (hrun : (Verdict.run subject mode (Audit.fresh ⟨c.engine, []⟩)).1 = summary) :
      Finds s i c summary summary.toReport (i.lab ++ " validation")
  /-- The baseline, intent and topology load, drift could be detected, and hunks could be rendered
  if they are to be shown. -/
  | drift {path documentPath markdownPath : String} {showsHunks : Bool} {baseline : Snapshot}
      {subject : Subject σ} {outcome : DriftOutcome} {st : Audit.State σ}
      (hcommand : i.command = .drift path documentPath markdownPath showsHunks)
      (hbaseline : Baseline.load c.files path = .ok baseline)
      (hsubject : Audits s i c.files subject)
      (hdetect : Drift.detect subject baseline s.now (Audit.fresh ⟨c.engine, []⟩)
        = (.ok outcome, st))
      (hhunks : showsHunks = true → Renders s subject outcome.config st.world.state st.store) :
      Finds s i c outcome.summary outcome.toReport (i.lab ++ " drift")

end FabricAudit.CommandLine

namespace FabricAudit

/-- The paths of the reports of a command, if it writes any. -/
def Command.reports? : Command → Option (String × String)
  | .validate _ documentPath markdownPath _ => some (documentPath, markdownPath)
  | .drift _ documentPath markdownPath _ => some (documentPath, markdownPath)
  | .baseline _ | .list => none

end FabricAudit

namespace FabricAudit.CommandLine

open Job (Succeeds)

variable {σ : Type} {s : Setting σ} {i : Invocation} {c : Console σ}

/-- The report of a command has the members of its summary. -/
theorem Finds.get?_summary {summary : Summary} {report : Document} {title : String}
    (h : Finds s i c summary report title) :
    report.get? "summary" = some (.ofPairs summary.summaryMembers) := by
  cases h with
  | checks => exact summary.get?_summary
  | drift =>
      simp [DriftOutcome.toReport, Summary.reportMembers, Summary.summaryMembers, Document.ofPairs,
        Document.get?, Keyed.ofList, Keyed.get?_insert]

/-- **The report of a command tells the exit code** of its summary. -/
theorem Finds.resolve_exitCode {summary : Summary} {report : Document} {title : String}
    (h : Finds s i c summary report title) :
    report.resolve "summary.exit_code" = some (.nat summary.exitCode) := by
  have hsplit : Text.splitAt '.' "summary.exit_code" = ["summary", "exit_code"] := by decide
  rw [Document.resolve, hsplit, Document.walk, h.get?_summary, Option.bind_some, Document.walk,
    summary.get?_exitCode]
  rfl

/-- **So does its text**, when it is read again. -/
theorem Finds.ofText_pretty {summary : Summary} {report : Document} {title : String}
    (h : Finds s i c summary report title) :
    ∃ members parts, Draft.ofText report.pretty = (.object members none, none) ∧
      members.lookup "summary" = some (.object parts none) ∧
      parts.lookup "exit_code" = some (.int summary.exitCode) := by
  obtain ⟨members, hmembers, hsummary⟩ := Document.reread_of_get? h.get?_summary
  obtain ⟨parts, hparts, hcode⟩ := Document.reread_of_get? summary.get?_exitCode
  have hle : summary.exitCode ≤ 1 := by
    by_cases hzero : summary.exitCode = 0
    · omega
    · exact (summary.exitCode_eq_one_of_ne_zero hzero).le
  refine ⟨members, parts, ?_, ?_, ?_⟩
  · rw [Document.ofText_pretty, hmembers]
  · rw [hsummary, hparts]
  · rw [hcode, Document.nat, Document.reread_int (by omega) (by omega)]

/-- **What both commands need** in order to end with an exit code of their own. -/
theorem succeeds_perform {documentPath markdownPath : String}
    (hreports : i.command.reports? = some (documentPath, markdownPath))
    (post : Nat → FileTree → Prop) :
    Succeeds (perform s i) c (fun code c' => post code c'.files) ↔
      ∃ summary report title, Finds s i c summary report title ∧
        Saves documentPath markdownPath title report (post summary.exitCode) c.files := by
  cases hcommand : i.command with
  | validate modeName documentPath' markdownPath' format =>
      rw [hcommand] at hreports
      cases hreports
      simp only [perform, hcommand]
      refine succeeds_validate.trans ⟨?_, ?_⟩
      · rintro ⟨mode, subject, summary, hmode, hsubject, hrun, hsave⟩
        exact ⟨_, _, _, .checks hcommand hmode hsubject hrun, hsave⟩
      · rintro ⟨summary, report, title, hfinds, hsave⟩
        -- what is found belongs to the command, which leaves one case
        cases hfinds with
        | checks hcommand' hmode hsubject hrun =>
            cases hcommand.symm.trans hcommand'
            exact ⟨_, _, _, hmode, hsubject, hrun, hsave⟩
        | drift hcommand' => cases hcommand.symm.trans hcommand'
  | drift path documentPath' markdownPath' showsHunks =>
      rw [hcommand] at hreports
      cases hreports
      simp only [perform, hcommand]
      refine succeeds_detectDrift.trans ⟨?_, ?_⟩
      · rintro ⟨baseline, subject, outcome, st, hbaseline, hsubject, hdetect, hhunks, hsave⟩
        exact ⟨_, _, _, .drift hcommand hbaseline hsubject hdetect hhunks, hsave⟩
      · rintro ⟨summary, report, title, hfinds, hsave⟩
        cases hfinds with
        | checks hcommand' => cases hcommand.symm.trans hcommand'
        | drift hcommand' hbaseline hsubject hdetect hhunks =>
            cases hcommand.symm.trans hcommand'
            exact ⟨_, _, _, _, hbaseline, hsubject, hdetect, hhunks, hsave⟩
  | baseline path => rw [hcommand] at hreports; cases hreports
  | list => rw [hcommand] at hreports; cases hreports

/-- The program ends as the job of its command does, and a fault is an exit code of one. -/
theorem run_eq {args : List String} {env : GivenOptions}
    (hread : Invocation.read args env = .ok i) :
    (∃ code c', perform s i c = (.ok code, c') ∧ run s args env c = (.done code, c')) ∨
      (∀ post, ¬ Succeeds (perform s i) c post) ∧ (run s args env c).1.code = 1 := by
  rcases hjob : perform s i c with ⟨f | code, c'⟩
  · refine .inr ⟨fun post => Job.not_succeeds_of_eq_error hjob, ?_⟩
    simp only [run, hread, hjob]
    rfl
  · exact .inl ⟨code, c', rfl, by simp only [run, hread, hjob]⟩

/-- The exit code is zero exactly if the job of the command succeeds with it. -/
theorem code_eq_zero_iff {args : List String} {env : GivenOptions}
    (hread : Invocation.read args env = .ok i) :
    (run s args env c).1.code = 0 ↔ Succeeds (perform s i) c fun code _ => code = 0 := by
  rcases run_eq (s := s) (c := c) hread with ⟨code, c', hjob, hrun⟩ | ⟨hfails, hcode⟩
  · rw [Job.succeeds_of_eq_ok hjob, hrun]
    rfl
  · rw [hcode]
    exact iff_of_false one_ne_zero (hfails _)

/-- **The exit code is sound.** Take any files, any container engine, and any arguments that ask for
a run of checks or for the detection of drift. The exit code is zero exactly if the mode of the run
is known or the baseline loads, intent and topology load, drift can be detected and hunks can be
rendered if they are to be shown, the text of the document of the report and its Markdown text are
written one after the other, and no result fails as an error. In all other cases it is one.

When it is zero, the second path leads to a file with the Markdown text of the report. If the two
paths lead to different files, the first one has the text of the document of the report, which tells
the exit code; and it is an object that tells it when this text is read again, with nothing behind
it. -/
theorem run_exit_sound (s : Setting σ) {args : List String} {env : GivenOptions} {i : Invocation}
    {documentPath markdownPath : String} (hread : Invocation.read args env = .ok i)
    (hreports : i.command.reports? = some (documentPath, markdownPath)) (c : Console σ) :
    ((run s args env c).1.code = 0 ↔
      ∃ summary report title between files, Finds s i c summary report title ∧
        FileTree.save documentPath report.pretty c.files = (.ok (), between) ∧
        FileTree.save markdownPath (Markdown.render report title) between = (.ok (), files) ∧
        ∀ r ∈ summary.results, ¬ (r.status = .fail ∧ r.severity = .error)) ∧
    ((run s args env c).1.code ≠ 0 → (run s args env c).1.code = 1) ∧
    ((run s args env c).1.code = 0 →
      ∃ summary report title between, Finds s i c summary report title ∧
        FileTree.save documentPath report.pretty c.files = (.ok (), between) ∧
        FileTree.save markdownPath (Markdown.render report title) between
          = (.ok (), (run s args env c).2.files) ∧
        (run s args env c).2.files.read markdownPath = .ok (Markdown.render report title) ∧
        ((run s args env c).2.files.locate documentPath
            ≠ (run s args env c).2.files.locate markdownPath →
          (run s args env c).2.files.read documentPath = .ok report.pretty ∧
            report.resolve "summary.exit_code" = some (.nat 0) ∧
            ∃ members parts, Draft.ofText report.pretty = (.object members none, none) ∧
              members.lookup "summary" = some (.object parts none) ∧
              parts.lookup "exit_code" = some (.int 0))) := by
  refine ⟨?_, ?_⟩
  · rw [code_eq_zero_iff hread, succeeds_perform hreports fun code _ => code = 0]
    constructor
    · rintro ⟨summary, report, title, hfinds, between, files, hdocument, hmarkdown, hcode⟩
      exact ⟨summary, report, title, between, files, hfinds, hdocument, hmarkdown,
        summary.exitCode_eq_zero_iff.mp hcode⟩
    · rintro ⟨summary, report, title, between, files, hfinds, hdocument, hmarkdown, hresults⟩
      exact ⟨summary, report, title, hfinds, between, files, hdocument, hmarkdown,
        summary.exitCode_eq_zero_iff.mpr hresults⟩
  · rcases run_eq (s := s) (c := c) hread with ⟨code, c', hjob, hrun⟩ | ⟨-, hcode⟩
    -- the job has ended with a code, and so its report was saved on the way
    · rw [hrun]
      have hdone : Succeeds (perform s i) c
          fun code' c'' => code' = code ∧ c''.files = c'.files := ⟨code, c', hjob, rfl, rfl⟩
      obtain ⟨summary, report, title, hfinds, between, files, hdocument, hmarkdown, rfl, rfl⟩ :=
        (succeeds_perform hreports fun code' files => code' = code ∧ files = c'.files).mp hdone
      refine ⟨fun hne => summary.exitCode_eq_one_of_ne_zero hne, fun hzero => ?_⟩
      have hzero : summary.exitCode = 0 := hzero
      have hresolve := hfinds.resolve_exitCode
      have htext := hfinds.ofText_pretty
      rw [hzero] at hresolve htext
      refine ⟨summary, report, title, between, hfinds, hdocument, hmarkdown,
        FileTree.read_of_save hmarkdown, fun hne => ⟨?_, hresolve, htext⟩⟩
      -- the Markdown text was written last, and to another place
      exact FileTree.read_of_save_ne hmarkdown hne (FileTree.read_of_save hdocument)
    · rw [hcode]
      exact ⟨fun _ => rfl, fun h => absurd h one_ne_zero⟩

/-- A lab without nodes, and with one check of an unknown kind that only warns when it fails. -/
def smallLab : Console Unit where
  files.entries := [(["lab"], .directory), (["lab", "intent"], .directory),
    (["lab", "intent", "intent.yml"], .file (some ("\x7binventory: \x7b\x7d, " ++
      "checks: [\x7bname: a, phase: intent, kind: x, severity: warn\x7d]\x7d"))),
    (["lab", "lab.clab.yml"], .file (some "name: lab\n"))]
  files.here := []
  engine := ()
  output := []
  errors := []

/-- Arguments that ask for a run of the checks of that lab. -/
def smallArgs : List String :=
  ["validate", "--lab", "lab", "--json-out", "out/run.json", "--md-out", "out/run.md"]

/-- The checks of that lab are run without a failure that counts as an error, and both files are
there afterwards. -/
theorem run_exit_sound_smallLab :
    Invocation.read smallArgs [] =
      .ok ⟨".", "lab", .validate "all" "out/run.json" "out/run.md" .lines⟩ ∧
    (run ⟨false, .absent, .epoch⟩ smallArgs [] smallLab).1.code = 0 ∧
    ∃ (report : Document) (title : String) (members parts : List (String × Draft)),
      (run ⟨false, .absent, .epoch⟩ smallArgs [] smallLab).2.files.read "out/run.md"
        = .ok (Markdown.render report title) ∧
      (run ⟨false, .absent, .epoch⟩ smallArgs [] smallLab).2.files.read "out/run.json"
        = .ok report.pretty ∧
      report.resolve "summary.exit_code" = some (.nat 0) ∧
      Draft.ofText report.pretty = (.object members none, none) ∧
      members.lookup "summary" = some (.object parts none) ∧
      parts.lookup "exit_code" = some (.int 0) := by
  have hread : Invocation.read smallArgs [] =
      .ok ⟨".", "lab", .validate "all" "out/run.json" "out/run.md" .lines⟩ := by decide +kernel
  have hrun : (run ⟨false, .absent, .epoch⟩ smallArgs [] smallLab).1.code = 0 ∧
      (run ⟨false, .absent, .epoch⟩ smallArgs [] smallLab).2.files.locate "out/run.json"
        ≠ (run ⟨false, .absent, .epoch⟩ smallArgs [] smallLab).2.files.locate "out/run.md" := by
    decide +kernel
  obtain ⟨-, -, hdone⟩ := run_exit_sound ⟨false, .absent, .epoch⟩ hread rfl smallLab
  obtain ⟨summary, report, title, between, -, -, -, hmarkdown, hdocument⟩ := hdone hrun.1
  obtain ⟨hfile, hcode, members, parts, htext⟩ := hdocument hrun.2
  exact ⟨hread, hrun.1, report, title, members, parts, hmarkdown, hfile, hcode, htext⟩

end FabricAudit.CommandLine
