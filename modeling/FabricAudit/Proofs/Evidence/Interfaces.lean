import FabricAudit.Lab.Scripted
import FabricAudit.Proofs.Evidence.Kind
import FabricAudit.Proofs.Text.Words

set_option autoImplicit false

/-! # Tables of interfaces, line by line

A line shows an interface by its words, whatever blanks stand between and around them, and whatever
ending it has. `InterfaceTable` is a table as it may be printed: rows with any padding, headings,
and blank lines. The interfaces read from it are those of its rows, in order
(`InterfaceTable.ofTable_text`).

The record of a table has the interfaces that were read, with the number of those that are up and of
those that are not (`Evidence.counts_interfacesData`).
-/

namespace FabricAudit

/-! ## What a line shows -/

namespace Interface

/-- **The words of a line** tell the interface, unless the first one begins like a heading. -/
theorem ofLine?_of_wordsChars {line name status protocol : List Char}
    {description : List (List Char)}
    (hwords : Text.wordsChars line = name :: status :: protocol :: description)
    (hname : ¬ heading <+: name) :
    ofLine? line = some ⟨.ofList name, Text.lower (.ofList status), Text.lower (.ofList protocol),
      Text.join " " (description.map String.ofList)⟩ := by
  have hheading : ¬ heading.isPrefixOf (Text.trimChars line) = true := by
    rw [List.isPrefixOf_iff_prefix]
    intro hprefix
    obtain ⟨first, rest, hfirst, hbegins⟩ :=
      Text.IsWord.exists_wordsChars (by decide : Text.IsWord heading) hprefix
    rw [hwords] at hfirst
    exact hname ((List.cons.inj hfirst).1 ▸ hbegins)
  rw [ofLine?, if_neg hheading, Text.wordsChars_trimChars, hwords]
  rfl

/-- A line without words shows nothing. -/
theorem ofLine?_of_wordsChars_eq_nil {line : List Char} (h : Text.wordsChars line = []) :
    ofLine? line = none := by
  rw [ofLine?, Text.wordsChars_trimChars, h]
  exact ite_self none

/-- Neither does a heading. -/
theorem ofLine?_heading_append (rest : List Char) : ofLine? (heading ++ rest) = none := by
  have hheading := Text.IsWord.prefix_trimChars (by decide : Text.IsWord heading) rest
  rw [ofLine?, if_pos (List.isPrefixOf_iff_prefix.mpr hheading)]

theorem ofLine?_blanks_append {front : List Char} (h : ∀ c ∈ front, Text.isBlank c = true)
    (line : List Char) : ofLine? (front ++ line) = ofLine? line := by
  rw [ofLine?, ofLine?, Text.trimChars_blanks_append h]

theorem ofLine?_append_blanks {back : List Char} (h : ∀ c ∈ back, Text.isBlank c = true)
    (line : List Char) : ofLine? (line ++ back) = ofLine? line := by
  rw [ofLine?, ofLine?, Text.trimChars_append_blanks h]

/-- **The endings of the lines do not matter.** -/
theorem ofTable_eq (text : String) :
    ofTable text = (Text.cutLines text.toList).filterMap ofLine? := by
  rw [ofTable, Text.linesChars, List.filterMap_map]
  refine List.filterMap_congr fun piece _ => ?_
  rw [Function.comp_apply, ofLine?, ofLine?, Text.trimChars_dropEnding]

end Interface

/-! ## Printed tables -/

/-- **An interface that a table can show**: its name, its status and that of its protocol are words,
the name does not begin like a heading, the rest of them is in lower case, and its description is
made of words with single spaces between them. -/
structure Interface.Printable (i : Interface) : Prop where
  name : Text.IsWord i.name.toList
  not_heading : ¬ Interface.heading <+: i.name.toList
  status : Text.IsWord i.status.toList
  lower_status : Text.lower i.status = i.status
  protocol : Text.IsWord i.protocol.toList
  lower_protocol : Text.lower i.protocol = i.protocol
  description : ∃ words, (∀ word ∈ words, Text.IsWord word.toList) ∧
    i.description = Text.join " " words

namespace InterfaceTable

/-- Blanks within a line, such as spaces and tabs. -/
structure Padding where
  chars : List Char
  within : chars.all (fun c => Text.isBlank c && c != '\n') = true

/-- Blanks that separate two columns: there is at least one. -/
structure Gap extends Padding where
  nonempty : chars ≠ []

theorem Padding.isBlank (p : Padding) : ∀ c ∈ p.chars, Text.isBlank c = true :=
  fun c hc => (Bool.and_eq_true_iff.mp (List.all_eq_true.mp p.within c hc)).1

theorem Padding.newline_not_mem (p : Padding) : '\n' ∉ p.chars :=
  fun hmem => bne_iff_ne.mp (Bool.and_eq_true_iff.mp (List.all_eq_true.mp p.within _ hmem)).2 rfl

/-- The blanks of a row. -/
structure Layout where
  before : Padding
  afterName : Gap
  afterStatus : Gap
  afterProtocol : Gap
  after : Padding

/-- The last columns of a row. A description that is empty has no column. -/
def Layout.protocolOn (l : Layout) (i : Interface) : List Char :=
  if i.description = "" then i.protocol.toList
  else i.protocol.toList ++ l.afterProtocol.chars ++ i.description.toList

def Layout.row (l : Layout) (i : Interface) : List Char :=
  l.before.chars ++ (i.name.toList ++ l.afterName.chars ++
    (i.status.toList ++ l.afterStatus.chars ++ l.protocolOn i)) ++ l.after.chars

inductive Line where
  | row (i : Interface) (layout : Layout)
  /-- A heading: apart from blanks in front, it begins with the word for it. -/
  | heading (before : Padding) (rest : List Char) (h : '\n' ∉ rest)
  | blank (p : Padding)

namespace Line

def chars : Line → List Char
  | .row i layout => layout.row i
  | .heading before rest _ => before.chars ++ (Interface.heading ++ rest)
  | .blank p => p.chars

/-- The interface that a line is printed for. -/
def shown? : Line → Option Interface
  | .row i _ => some i
  | .heading .. | .blank _ => none

end Line

inductive Ending where
  | newline
  | returnNewline

def Ending.beforeNewline : Ending → List Char
  | .newline => []
  | .returnNewline => ['\r']

end InterfaceTable

/-- **A table of interfaces as it may be printed**: lines of any kinds in any order, each with its
ending, and possibly one more without. -/
structure InterfaceTable where
  lines : List (InterfaceTable.Line × InterfaceTable.Ending)
  last : Option InterfaceTable.Line

namespace InterfaceTable

/-- The characters of lines with their endings, and of what follows them. -/
def charsOf (lines : List (Line × Ending)) (rest : List Char) : List Char :=
  lines.foldr (fun l rest => l.1.chars ++ l.2.beforeNewline ++ '\n' :: rest) rest

def text (table : InterfaceTable) : String :=
  .ofList (charsOf table.lines ((table.last.map Line.chars).getD []))

def entries (table : InterfaceTable) : List Interface :=
  table.lines.filterMap (·.1.shown?) ++ (table.last.bind Line.shown?).toList

/-! ## Reading a printed table -/

/-- The words of a description. -/
theorem exists_wordsChars_protocolOn {i : Interface} (h : i.Printable) (l : Layout) :
    ∃ words, Text.wordsChars (l.protocolOn i) = i.protocol.toList :: words.map String.toList ∧
      i.description = Text.join " " words := by
  obtain ⟨words, hwords, hdescription⟩ := h.description
  refine ⟨words, ?_, hdescription⟩
  rw [Layout.protocolOn]
  split
  · next hempty =>
      -- joined words are empty only if there are none
      have hnone : words.map String.toList = [] := by
        rw [← Text.wordsChars_join hwords, ← hdescription, hempty]
        rfl
      rw [h.protocol.wordsChars_eq, hnone]
  · rw [Text.wordsChars_append_blanks_append l.afterProtocol.isBlank l.afterProtocol.nonempty,
      h.protocol.wordsChars_eq, hdescription, Text.wordsChars_join hwords]
    rfl

/-- **The row of an interface shows it**, whatever its blanks. -/
theorem ofLine?_row {i : Interface} (h : i.Printable) (l : Layout) :
    Interface.ofLine? (l.row i) = some i := by
  obtain ⟨words, hlast, hdescription⟩ := exists_wordsChars_protocolOn h l
  have hwords : Text.wordsChars (l.row i)
      = i.name.toList :: i.status.toList :: i.protocol.toList :: words.map String.toList := by
    rw [Layout.row, Text.wordsChars_append_blanks l.after.isBlank,
      Text.wordsChars_blanks_append l.before.isBlank,
      Text.wordsChars_append_blanks_append l.afterName.isBlank l.afterName.nonempty,
      Text.wordsChars_append_blanks_append l.afterStatus.isBlank l.afterStatus.nonempty,
      h.name.wordsChars_eq, h.status.wordsChars_eq, hlast]
    rfl
  rw [Interface.ofLine?_of_wordsChars hwords h.not_heading, List.map_map]
  simp only [String.ofList_toList, h.lower_status, h.lower_protocol, Function.comp_def,
    List.map_id', ← hdescription]

theorem newline_not_mem_row {i : Interface} (h : i.Printable) (l : Layout) : '\n' ∉ l.row i := by
  obtain ⟨words, hwords, hdescription⟩ := h.description
  have hlast : '\n' ∉ l.protocolOn i := by
    rw [Layout.protocolOn]
    split
    · exact h.protocol.newline_not_mem
    · simp only [List.mem_append, not_or]
      refine ⟨⟨h.protocol.newline_not_mem, l.afterProtocol.newline_not_mem⟩, ?_⟩
      rw [hdescription]
      exact Text.newline_not_mem_join hwords
  simp only [Layout.row, List.mem_append, not_or]
  exact ⟨⟨l.before.newline_not_mem, ⟨h.name.newline_not_mem, l.afterName.newline_not_mem⟩,
    ⟨h.status.newline_not_mem, l.afterStatus.newline_not_mem⟩, hlast⟩, l.after.newline_not_mem⟩

theorem Line.newline_not_mem {line : Line} (h : ∀ i ∈ line.shown?, i.Printable) :
    '\n' ∉ line.chars := by
  cases line with
  | row i layout => exact newline_not_mem_row (h i rfl) layout
  | heading before rest hrest =>
      rw [Line.chars, List.mem_append, List.mem_append, not_or, not_or]
      exact ⟨before.newline_not_mem, by decide, hrest⟩
  | blank p => exact p.newline_not_mem

/-- **A line shows the interface that it is printed for**, if it is printed for one. -/
theorem Line.ofLine?_chars {line : Line} (h : ∀ i ∈ line.shown?, i.Printable) :
    Interface.ofLine? line.chars = line.shown? := by
  cases line with
  | row i layout => exact ofLine?_row (h i rfl) layout
  | heading before rest hrest =>
      rw [Line.chars, Interface.ofLine?_blanks_append before.isBlank,
        Interface.ofLine?_heading_append]
      rfl
  | blank p => exact Interface.ofLine?_of_wordsChars_eq_nil (Text.wordsChars_eq_nil p.isBlank)

theorem Ending.newline_not_mem (ending : Ending) : '\n' ∉ ending.beforeNewline := by
  cases ending <;> decide

theorem Ending.isBlank (ending : Ending) : ∀ c ∈ ending.beforeNewline, Text.isBlank c = true := by
  rw [← List.all_eq_true]
  cases ending <;> rfl

/-- A line with its ending is read first, then what follows it. -/
theorem filterMap_cutLines_charsOf {lines : List (Line × Ending)}
    (h : ∀ l ∈ lines, ∀ i ∈ l.1.shown?, i.Printable) (rest : List Char) :
    (Text.cutLines (charsOf lines rest)).filterMap Interface.ofLine?
      = lines.filterMap (·.1.shown?) ++ (Text.cutLines rest).filterMap Interface.ofLine? := by
  induction lines with
  | nil => rfl
  | cons l lines ih =>
      obtain ⟨line, ending⟩ := l
      rw [List.forall_mem_cons] at h
      have hnewline : '\n' ∉ line.chars ++ ending.beforeNewline := by
        rw [List.mem_append, not_or]
        exact ⟨Line.newline_not_mem h.1, ending.newline_not_mem⟩
      have hcut : Text.cutLines (charsOf ((line, ending) :: lines) rest)
          = (line.chars ++ ending.beforeNewline ++ ['\n'])
            :: Text.cutLines (charsOf lines rest) := Text.cutLines_append_newline hnewline _
      have hshown : Interface.ofLine? (line.chars ++ ending.beforeNewline ++ ['\n'])
          = line.shown? := by
        rw [Interface.ofLine?_append_blanks (List.all_eq_true.mp rfl),
          Interface.ofLine?_append_blanks ending.isBlank, Line.ofLine?_chars h.1]
      rw [hcut, List.filterMap_cons, List.filterMap_cons, hshown, ih h.2]
      cases line.shown? <;> rfl

/-- What follows the last ending is one line, or nothing. -/
theorem filterMap_cutLines_last {last : Option Line}
    (h : ∀ i ∈ last.bind Line.shown?, i.Printable) :
    (Text.cutLines ((last.map Line.chars).getD [])).filterMap Interface.ofLine?
      = (last.bind Line.shown?).toList := by
  cases last with
  | none => rfl
  | some line =>
      have hshown := Line.ofLine?_chars h
      rw [Option.map_some, Option.getD_some, Option.bind_some,
        Text.cutLines_of_notMem (Line.newline_not_mem h), ← hshown]
      split
      · next hempty => rw [hempty]; rfl
      · rw [List.filterMap_cons, List.filterMap_nil]
        cases Interface.ofLine? line.chars <;> rfl

/-- **The interfaces read from a table are those that it was printed for.** -/
theorem ofTable_text {table : InterfaceTable} (h : ∀ i ∈ table.entries, i.Printable) :
    Interface.ofTable table.text = table.entries := by
  rw [Interface.ofTable_eq, text, String.toList_ofList, entries, filterMap_cutLines_charsOf,
    filterMap_cutLines_last]
  · intro i hi
    exact h i (List.mem_append_right _ (Option.mem_toList.mpr hi))
  · intro l hl i hi
    exact h i (List.mem_append_left _ (List.mem_filterMap.mpr ⟨l, hl, hi⟩))

end InterfaceTable

/-! ## Records -/

/-- An interface is up, and so is its protocol. -/
def Interface.Up (i : Interface) : Prop := i.status = "up" ∧ i.protocol = "up"

instance : DecidablePred Interface.Up := fun _ => inferInstanceAs (Decidable (_ ∧ _))

theorem Interface.isUp_iff {i : Interface} : i.isUp = true ↔ i.Up := by
  rw [isUp, Bool.and_eq_true, beq_iff_eq, beq_iff_eq]
  rfl

namespace Evidence

/-- **What the record of a table says** of its interfaces: which there are, how many of them are up
and how many are not. -/
structure Counts (data : Document) (text : String) : Prop where
  raw : data.get? "raw" = some (.text text)
  parsed : data.get? "parsed" = some (.list ((Interface.ofTable text).map Interface.toDocument))
  counted : ∃ up down, data.get? "up" = some (.nat up) ∧ data.get? "down" = some (.nat down) ∧
    up = ((Interface.ofTable text).filter Interface.Up).length ∧
    up + down = (Interface.ofTable text).length

/-- The record of any output counts its interfaces. -/
theorem counts_interfacesData (reply : Reply) : Counts (interfacesData reply) reply.stdout := by
  have hup : (Interface.ofTable reply.stdout).countP Interface.isUp
      = ((Interface.ofTable reply.stdout).filter Interface.Up).length := by
    rw [← List.countP_eq_length_filter]
    exact List.countP_congr fun i _ => by rw [Interface.isUp_iff, decide_eq_true_iff]
  have hall := Nat.add_sub_cancel'
    (List.countP_le_length (p := Interface.isUp) (l := Interface.ofTable reply.stdout))
  refine ⟨?_, ?_, _, _, ?_, ?_, hup, hall⟩
  all_goals exact Keyed.get?_ofList_of_mem (by simp) (by simp)

variable {σ : Type} {lab : Lab σ} {t : Transport} {node : String} {st : Audit.State σ}
  {reply : Reply} {w : World σ}

/-- **Where there is no record and no telemetry, the output of the command becomes the record.** -/
theorem interfaces_eq_of_switch
    (hnew : Keyed.get? st.store.records (EvidenceKind.interfaces.key node) = none)
    (htelemetry : interfacesPath ∈ st.store.unsupported ∨
      ∃ reason, t st.store.requests ⟨node, interfacesPath⟩ = .declined reason)
    (hreply : lab.switch node "show interfaces description" st.world = (.ok reply, w)) :
    ∃ store, interfaces lab t node st
      = (.ok ⟨.cli, interfacesData reply⟩, ⟨w, store⟩) := by
  have hfallback : EvidenceKind.interfaces.fallback lab node st.world
      = (.ok (interfacesData reply), w) := Audit.bind_ok hreply _
  have hrun : interfaces lab t node = (EvidenceKind.interfaces.collection lab node).run t :=
    EvidenceKind.collect_eq_run lab t .interfaces node
  have hyields := Collection.run_yields t (EvidenceKind.interfaces.collection lab node) st
  rw [← hrun] at hyields
  generalize interfaces lab t node st = result at hyields ⊢
  obtain ⟨answer, st'⟩ := result
  -- of the ways in which a collection ends only that by commands is left
  cases hyields with
  | kept hkept => exact absurd (hnew.symm.trans hkept) (Option.some_ne_none _).symm
  | telemetry h hr hp ht =>
      cases hr
      rcases htelemetry with hdeclined | ⟨reason, hdeclined⟩
      · exact absurd hdeclined hp
      · rw [hdeclined] at ht
        cases ht
  | found h hs hf =>
      cases hfallback.symm.trans hf
      exact ⟨_, rfl⟩
  | failed h hs hf => cases hfallback.symm.trans hf

end Evidence

namespace InterfaceTable

/-- **Tables of interfaces are read back, and counted.**

Print any interfaces that a table can show, with any blanks between and around the columns, any
headings and blank lines among the rows, and either ending on each line: what is read from the text
are these interfaces, in order. And whatever a switch answers, with no record of its interfaces and
no telemetry of them, its output becomes the record: it has the interfaces that are read from the
output, with the number of those that are up together with their protocol, and that number and the
number of the others make up all of them. -/
theorem ofTable_text_and_counts :
    (∀ table : InterfaceTable, (∀ i ∈ table.entries, i.Printable) →
      Interface.ofTable table.text = table.entries) ∧
    ∀ {σ : Type} (lab : Lab σ) (t : Transport) (node : String) (st : Audit.State σ)
      (reply : Reply) (w : World σ),
      Keyed.get? st.store.records ("interfaces:" ++ node) = none →
      (interfacesPath ∈ st.store.unsupported ∨
        ∃ reason, t st.store.requests ⟨node, interfacesPath⟩ = .declined reason) →
      lab.switch node "show interfaces description" st.world = (.ok reply, w) →
      ∃ data store, Evidence.interfaces lab t node st = (.ok ⟨.cli, data⟩, ⟨w, store⟩) ∧
        Evidence.Counts data reply.stdout := by
  refine ⟨fun table => ofTable_text, fun lab t node st reply w hnew htelemetry hreply => ?_⟩
  obtain ⟨store, hrecord⟩ := Evidence.interfaces_eq_of_switch hnew htelemetry hreply
  exact ⟨_, store, hrecord, Evidence.counts_interfacesData reply⟩

def uplink : Interface := ⟨"Et1", "up", "up", "to spine1 Et3"⟩

def shutDown : Interface := ⟨"Et2", "admin", "down", ""⟩

def Gap.space : Gap := ⟨⟨[' '], rfl⟩, List.cons_ne_nil _ _⟩

/-- A tab and spaces between columns. -/
def Gap.wide : Gap := ⟨⟨['\t', ' ', ' '], rfl⟩, List.cons_ne_nil _ _⟩

/-- The two of them under a heading, with a blank line between them, each spaced in its own way. -/
def twoRows : InterfaceTable where
  lines :=
    [(.heading ⟨[], rfl⟩ " Status Protocol Description".toList (by decide), .returnNewline),
      (.row uplink ⟨⟨[], rfl⟩, .wide, .space, .wide, Gap.space.toPadding⟩, .returnNewline),
      (.blank Gap.wide.toPadding, .newline)]
  last := some (.row shutDown ⟨Gap.space.toPadding, .space, .wide, .space, ⟨[], rfl⟩⟩)

def twoRowsLab : Lab Unit :=
  (Script.empty.addReply ⟨.switch, "leaf1", "show interfaces description"⟩
    ⟨0, twoRows.text, ""⟩).lab (FileTree.empty []) "/lab"

theorem ofTable_text_and_counts_twoRows :
    Interface.ofTable twoRows.text = [uplink, shutDown] ∧
      ∃ data store, Evidence.interfaces twoRowsLab (.static []) "leaf1" (Audit.fresh ⟨(), []⟩)
          = (.ok ⟨.cli, data⟩, store) ∧
        Evidence.Counts data twoRows.text := by
  have hwords : ∀ word ∈ ["to", "spine1", "Et3"], Text.IsWord word.toList := by decide
  have huplink : uplink.Printable :=
    ⟨by decide, by decide, by decide, by decide +kernel, by decide, by decide +kernel,
      ["to", "spine1", "Et3"], hwords, rfl⟩
  have hshutDown : shutDown.Printable :=
    ⟨by decide, by decide, by decide, by decide +kernel, by decide, by decide +kernel,
      [], List.forall_mem_nil _, rfl⟩
  have hentries : twoRows.entries = [uplink, shutDown] := rfl
  obtain ⟨hread, hrecord⟩ := ofTable_text_and_counts
  refine ⟨(hread twoRows ?_).trans hentries, ?_⟩
  · rw [hentries]
    exact List.forall_mem_cons.mpr ⟨huplink, List.forall_mem_singleton.mpr hshutDown⟩
  · obtain ⟨data, store, hinterfaces, hcounts⟩ := hrecord twoRowsLab (.static []) "leaf1"
      (Audit.fresh ⟨(), []⟩) ⟨0, twoRows.text, ""⟩ _ rfl (.inr ⟨_, rfl⟩) rfl
    exact ⟨data, _, hinterfaces, hcounts⟩

end InterfaceTable

end FabricAudit
