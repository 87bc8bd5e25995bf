import FabricAudit.Lab.Container
import FabricAudit.Proofs.Drift.Evidence
import FabricAudit.Proofs.Text.Output

set_option autoImplicit false

/-! # Devices that run their desired configurations

What a device prints is trimmed on its way to the record, and the file of its desired configuration
is not. So even if the two are the same to the octet, the device is found to have drifted exactly if
the text has another digest without the blanks at its ends (`Container.RunsFile.drifted_iff`). It is
enough that the file ends with a newline (`Container.drifted_of_newline`).

What carries the proof through the nodes of the fabric is that the store tells nothing else of the
device than its trimmed text (`Store.TellsConfig`).
-/

namespace FabricAudit

/-- Trimming changes nothing about whether a text can be a configuration. -/
@[simp] theorem isConfig_trim (text : String) : isConfig (Text.trim text) = isConfig text := by
  simp only [isConfig, Text.trim_trim]

/-! ## What the store tells -/

/-- The record of an output tells its text. -/
theorem Record.textAt_rawData (source : Source) (r : Reply) :
    (Record.mk source (Evidence.rawData r)).textAt "raw" = r.stdout := by
  have hget : (Evidence.rawData r).get? "raw" = some (.text r.stdout) :=
    Keyed.get?_ofList_of_mem (by simp) (by simp)
  simp only [textAt, hget]
  rfl

/-- The record of an output tells that its command succeeded. -/
theorem Record.rc?_rawData (source : Source) {r : Reply} (h : r.rc = 0) :
    (Record.mk source (Evidence.rawData r)).rc? = some 0 := by
  have hget : (Evidence.rawData r).get? "rc" = some (.int r.rc) :=
    Keyed.get?_ofList_of_mem (by simp) (by simp)
  simp only [rc?, hget, h]
  rfl

/-- All that a store tells of the running configuration of a node, if it tells of it at all, is that
the command succeeded and gave the text. -/
def Store.TellsConfig (store : Store) (node text : String) : Prop :=
  ∀ record, Keyed.get? store.records (EvidenceKind.runningConfig.key node) = some record →
    record.rc? = some 0 ∧ record.textAt "raw" = text

theorem Store.tellsConfig_empty (node text : String) : Store.empty.TellsConfig node text := nofun

/-- A later state tells nothing else of the running configuration of a node than an earlier one. -/
def Audit.State.StillTells {σ : Type} (node text : String) (st st' : Audit.State σ) : Prop :=
  st.store.TellsConfig node text → st'.store.TellsConfig node text

namespace Audit.State.StillTells

variable {σ : Type} {node text : String}

theorem refl (st : Audit.State σ) : st.StillTells node text st := id

theorem trans {st₁ st₂ st₃ : Audit.State σ} (h : st₁.StillTells node text st₂)
    (h' : st₂.StillTells node text st₃) : st₁.StillTells node text st₃ := h' ∘ h

end Audit.State.StillTells

namespace Container

variable {σ : Type}

/-- **A device runs the text of its desired configuration**: when it is asked for its running
configuration it succeeds and prints the octets of the file, and the command is not refused. -/
structure RunsFile (e : Engine σ) (t : Topology) (files : FileTree)
    (directory node text : String) : Prop where
  desired : desired files directory node = .ok (some text)
  /-- The text can be a configuration. -/
  config : isConfig text = true
  /-- The name of the container can be given to a program. -/
  named : '\x00' ∉ (name t node).toList
  printed : ∀ s, ∃ (o : ProgramOutput) (s' : σ),
    e.run (switchArgs (name t node) "show running-config") s = (some o, s') ∧
      o.status = some 0 ∧ Text.decode? o.stdout = some text ∧ needsEnable (replyOf o) = false

namespace RunsFile

variable {e : Engine σ} {t : Topology} {files : FileTree} {directory node text : String}

/-! ## One collection -/

/-- The device replies with its text, trimmed. -/
theorem answer_eq (h : RunsFile e t files directory node text) (s : σ) :
    ∃ (r : Reply) (s' : σ), answer e t ⟨.switch, node, "show running-config"⟩ s = (.ok r, s') ∧
      r.rc = 0 ∧ r.stdout = Text.trim text := by
  obtain ⟨o, s', hrun, hstatus, hprinted, henable⟩ := h.printed s
  have hengine : runEngine e node (switchArgs (name t node) "show running-config") s
      = (.ok (replyOf o), s') := by
    rw [runEngine, if_neg (by simp [switchArgs, h.named]), hrun]
  refine ⟨replyOf o, s', ?_, ?_, ?_⟩
  · simp only [answer, hengine, henable]
    rfl
  · rw [replyOf, hstatus]
    rfl
  · rw [replyOf, Text.decodeLossy_of_decode? hprinted]

/-- What the collector of running configurations finds of the device. -/
theorem fallback_eq (h : RunsFile e t files directory node text) (w : World σ) :
    ∃ (r : Reply) (w' : World σ),
      EvidenceKind.runningConfig.fallback (lab e t files directory) node w
        = (.ok (Evidence.rawData r), w') ∧
      r.rc = 0 ∧ r.stdout = Text.trim text := by
  obtain ⟨r, s', hanswer, hrc, hout⟩ := h.answer_eq w.state
  have hswitch : (lab e t files directory).switch node "show running-config" w
      = (.ok r, ⟨s', w.calls ++ [⟨.switch, node, "show running-config"⟩]⟩) := by
    simp only [Lab.switch, Lab.perform, lab, hanswer]
  exact ⟨r, _, Audit.bind_ok hswitch _, hrc, hout⟩

/-- **Whatever is collected**, of whichever node, the store tells nothing else of the device. -/
theorem collect_stillTells (h : RunsFile e t files directory node text) (transport : Transport)
    (kind : EvidenceKind) (node' : String) :
    Audit.Keeps (Audit.State.StillTells node (Text.trim text))
      (kind.collect (lab e t files directory) transport node') := by
  intro st hst
  rw [kind.collect_eq_run]
  have hy := (kind.collection (lab e t files directory) node').run_yields transport st
  generalize ((kind.collection (lab e t files directory) node').run transport st).1 = answer,
    ((kind.collection (lab e t files directory) node').run transport st).2 = st' at hy ⊢
  cases hy with
  | kept => exact hst
  | telemetry _ hr _ _ =>
      intro record hget
      rw [Store.keep_records, Store.request_records, Keyed.get?_insert] at hget
      split_ifs at hget with hkey
      · -- a running configuration is not asked for by telemetry
        obtain ⟨rfl, rfl⟩ := EvidenceKind.key_inj hkey
        cases hr
      · exact hst record hget
  | found _ hs hf =>
      intro record hget
      rw [Store.keep_records, Keyed.get?_insert] at hget
      split_ifs at hget with hkey
      · -- a new record under this key is what the device has just replied
        obtain ⟨rfl, rfl⟩ := EvidenceKind.key_inj hkey
        obtain ⟨r, w', hfound, hrc, hout⟩ := h.fallback_eq st.world
        cases congrArg Prod.fst (hfound.symm.trans hf)
        cases hget
        exact ⟨Record.rc?_rawData _ hrc, (Record.textAt_rawData _ r).trans hout⟩
      · exact hst record (hs.records_eq ▸ hget)
  | failed _ hs _ => exact fun record hget => hst record (hs.records_eq ▸ hget)

/-- The running configuration of the device can be collected. -/
theorem collect_ok (h : RunsFile e t files directory node text) (transport : Transport)
    (st : Audit.State σ) :
    ∃ record st', EvidenceKind.runningConfig.collect (lab e t files directory) transport node st
      = (.ok record, st') := by
  rw [EvidenceKind.collect_eq_run]
  have hy := (EvidenceKind.runningConfig.collection (lab e t files directory) node).run_yields
    transport st
  rcases hrun : (EvidenceKind.runningConfig.collection (lab e t files directory) node).run
    transport st with ⟨answer, st'⟩
  rw [hrun] at hy
  cases hy with
  | kept => exact ⟨_, _, rfl⟩
  | telemetry => exact ⟨_, _, rfl⟩
  | found => exact ⟨_, _, rfl⟩
  | failed _ _ hf =>
      obtain ⟨r, w', hfound, -⟩ := h.fallback_eq st.world
      cases congrArg Prod.fst (hfound.symm.trans hf)

/-! ## All nodes of the fabric -/

variable {s : Subject σ} {st st' : Audit.State σ} {findings : List ConfigFinding}

theorem configFinding?_stillTells (h : RunsFile e t files directory node text)
    (hlab : s.lab = lab e t files directory) (node' : String) :
    Audit.Keeps (Audit.State.StillTells node (Text.trim text)) (Drift.configFinding? s node') := by
  refine .bind .trans (fun st => .refl st) fun desired => ?_
  refine .bind .trans ?_ fun running => Audit.keeps_pure .refl _
  rw [hlab]
  exact h.collect_stillTells s.transport .runningConfig node'

theorem configFindings_stillTells (h : RunsFile e t files directory node text)
    (hlab : s.lab = lab e t files directory)
    (hrun : Drift.configFindings s st = (.ok findings, st')) :
    st.StillTells node (Text.trim text) st' := by
  obtain ⟨found, st₁, hfound, hrun⟩ := Audit.bind_eq_ok_iff.mp hrun
  rw [Audit.pure_apply] at hrun
  cases hrun
  exact (Audit.forall₂_of_mapM .refl .trans (h.configFinding?_stillTells hlab) _ hfound).1

/-- By what the store tells of it, the device runs its desired configuration exactly if trimming the
text leaves the digest what it is. -/
theorem runsDesired_iff (h : RunsFile e t files directory node text) {store : Store}
    (htells : store.TellsConfig node (Text.trim text)) {record : Record}
    (hrecord : Keyed.get? store.records (EvidenceKind.runningConfig.key node) = some record) :
    (lab e t files directory).RunsDesired store node ↔
      Sha256.digest (Text.trim text) = Sha256.digest text := by
  have hdesired : (lab e t files directory).desired node = .ok (some text) := h.desired
  obtain ⟨hrc, htext⟩ := htells record hrecord
  constructor
  · rintro ⟨record', desired', hrecord', hdesired', -, -, hhash⟩
    rw [hrecord] at hrecord'
    rw [hdesired] at hdesired'
    cases hrecord'
    cases hdesired'
    rwa [htext] at hhash
  · intro hhash
    refine ⟨record, some text, hrecord, hdesired, hrc, ?_, ?_⟩
    · rw [htext, isConfig_trim, h.config]
    · rw [htext, hhash, Option.getD_some]

/-- **A device that runs its desired configuration**, to the octet, is found to have drifted exactly
if the text has another digest without the blanks at its ends. -/
theorem drifted_iff (h : RunsFile e t files directory node text)
    (hlab : s.lab = lab e t files directory) (hnode : node ∈ s.lab.fabricNodes)
    (hst : st.store.TellsConfig node (Text.trim text))
    (hrun : Drift.configFindings s st = (.ok findings, st')) :
    (∃ f ∈ findings, f.node = node) ↔ Sha256.digest (Text.trim text) ≠ Sha256.digest text := by
  have htells := h.configFindings_stillTells hlab hrun hst
  obtain ⟨-, found, rfl, hall⟩ := Drift.configFindings_of_ok hrun
  obtain ⟨record, hrecord⟩ : ∃ record, Keyed.get? st'.store.records
      (EvidenceKind.runningConfig.key node) = some record := by
    have hkept := hall.imp fun n f hf => And.intro hf.exists_record hf
    exact ((List.forall₂_and_left _ _).mp hkept).1 node hnode
  rw [Drift.exists_finding_iff hall, and_iff_right hnode, hlab, h.runsDesired_iff htells hrecord]

end RunsFile

/-- The configurations of a fabric of such devices can all be compared. -/
theorem configFindings_ok {e : Engine σ} {t : Topology} {files : FileTree} {directory : String}
    {s : Subject σ} (hlab : s.lab = lab e t files directory)
    (h : ∀ node ∈ s.lab.fabricNodes, ∃ text, RunsFile e t files directory node text)
    (st : Audit.State σ) : ∃ findings st', Drift.configFindings s st = (.ok findings, st') := by
  have hnode : ∀ node ∈ s.lab.fabricNodes, ∀ st, ∃ found st',
      Drift.configFinding? s node st = (.ok found, st') := by
    intro node hmem st
    obtain ⟨text, hruns⟩ := h node hmem
    obtain ⟨record, st', hrecord⟩ := hruns.collect_ok s.transport st
    rw [← hlab] at hrecord
    have hdesired : Audit.ofExcept (s.lab.desiredText node) st = (.ok text, st) := by
      have hfile : s.lab.desired node = .ok (some text) := by rw [hlab]; exact hruns.desired
      rw [Lab.desiredText, hfile]
      rfl
    exact ⟨_, st', (Audit.bind_ok hdesired _).trans (Audit.bind_ok hrecord _)⟩
  obtain ⟨found, st', hfound⟩ := Audit.mapM_ok_of_forall hnode st
  exact ⟨_, st', Audit.bind_ok hfound _⟩

end Container

/-! ## A newline at the end -/

/-- An engine that runs everything by printing one text. -/
def Engine.printing (text : String) : Engine Unit :=
  ⟨fun _ s => (some ⟨some 0, text.toList.map Char.toNat, []⟩, s)⟩

namespace Container

def oneSwitch : Topology := ⟨"lab", ["leaf1"], [("leaf1", "ceos")]⟩

def oneSwitchFiles (text : String) : FileTree :=
  ⟨[(["lab"], .directory), (["lab", "configs"], .directory),
    (["lab", "configs", "leaf1.cfg"], .file (some text))], []⟩

/-- A switch that runs its desired configuration. -/
def unchanged (text : String) : Subject Unit :=
  ⟨⟨"lab", .standard, .empty, [], [], .object []⟩,
    lab (.printing text) oneSwitch (oneSwitchFiles text) "/lab", .static []⟩

theorem runsFile_unchanged {text : String} (hascii : text.toList.all (·.toNat < 0x80) = true)
    (hconfig : isConfig text = true) (henable : needsEnable ⟨0, Text.trim text, ""⟩ = false) :
    RunsFile (.printing text) oneSwitch (oneSwitchFiles text) "/lab" "leaf1" text := by
  have hprinted : Text.decode? (text.toList.map Char.toNat) = some text := by
    rw [Text.decode?_ascii (by simpa using hascii), String.ofList_toList]
  have hsilent : Text.trim (Text.decodeLossy []) = "" := by decide +kernel
  have hreply : replyOf ⟨some 0, text.toList.map Char.toNat, []⟩ = ⟨0, Text.trim text, ""⟩ := by
    rw [replyOf, Text.decodeLossy_of_decode? hprinted, hsilent, Option.getD_some]
  exact
    { desired := rfl
      config := hconfig
      named := by decide
      printed := fun s => ⟨_, s, rfl, rfl, hprinted, by rw [hreply, henable]⟩ }

def plainConfig : String := "vlan 2\nvlan 3\nvlan 4\nvlan 5\nend"

/-- Nothing is found about a switch that runs it. -/
theorem drifted_iff_plainConfig :
    RunsFile (.printing plainConfig) oneSwitch (oneSwitchFiles plainConfig) "/lab" "leaf1"
        plainConfig ∧
      "leaf1" ∈ (unchanged plainConfig).lab.fabricNodes ∧
      ∃ findings st', Drift.configFindings (unchanged plainConfig) (Audit.fresh ⟨(), []⟩)
          = (.ok findings, st') ∧
        ¬ ∃ f ∈ findings, f.node = "leaf1" := by
  have h : RunsFile (.printing plainConfig) oneSwitch (oneSwitchFiles plainConfig) "/lab" "leaf1"
      plainConfig :=
    runsFile_unchanged (by decide +kernel) (by decide +kernel) (by decide +kernel)
  have hnode : "leaf1" ∈ (unchanged plainConfig).lab.fabricNodes := by decide
  have hnodes : ∀ node ∈ (unchanged plainConfig).lab.fabricNodes, ∃ text,
      RunsFile (.printing plainConfig) oneSwitch (oneSwitchFiles plainConfig) "/lab" node text := by
    intro node hmem
    obtain rfl := List.mem_singleton.mp hmem
    exact ⟨_, h⟩
  obtain ⟨findings, st', hrun⟩ := configFindings_ok rfl hnodes (Audit.fresh ⟨(), []⟩)
  have hdrifted := h.drifted_iff rfl hnode (Store.tellsConfig_empty _ _) hrun
  exact ⟨h, hnode, findings, st', hrun, fun hf => hdrifted.mp hf (by decide +kernel)⟩

/-- **A switch that runs its desired configuration has drifted** if that ends with a newline. -/
theorem drifted_of_newline :
    RunsFile (.printing (plainConfig ++ "\n")) oneSwitch (oneSwitchFiles (plainConfig ++ "\n"))
        "/lab" "leaf1" (plainConfig ++ "\n") ∧
      "leaf1" ∈ (unchanged (plainConfig ++ "\n")).lab.fabricNodes ∧
      ∃ findings,
        (Drift.configFindings (unchanged (plainConfig ++ "\n")) (Audit.fresh ⟨(), []⟩)).1
          = .ok findings ∧
        ∃ f ∈ findings, f.node = "leaf1" := by
  have hfound : (match (Drift.configFindings (unchanged (plainConfig ++ "\n"))
        (Audit.fresh ⟨(), []⟩)).1 with
      | .ok findings => findings.any (·.node = "leaf1")
      | .error _ => false) = true := by
    decide +kernel
  refine ⟨runsFile_unchanged (by decide +kernel) (by decide +kernel) (by decide +kernel),
    by decide, ?_⟩
  split at hfound
  · next findings hrun => exact ⟨findings, hrun, by simpa using hfound⟩
  · cases hfound

end Container

end FabricAudit
