import FabricAudit.Document.Written
import FabricAudit.Text.Search

set_option autoImplicit false

/-! # Markdown reports

A report document as a Markdown text: its exit code and counts, then one section per phase, in the
order in which the phases first occur, with one bullet per result. The document may be anything;
what it lacks is left empty, and a result without phase goes to the section `other`.
-/

namespace FabricAudit.Markdown

/-- A text member of a result; empty if there is none. -/
def field (item : Document) (key : String) : String := ((item.get? key).bind Document.text?).getD ""

def phaseOf (item : Document) : String := ((item.get? "phase").bind Document.text?).getD "other"

/-- Adds a result to the section of its phase, which is made at the end if there is none. -/
def addTo (phase : String) (item : Document) :
    List (String × List Document) → List (String × List Document)
  | [] => [(phase, [item])]
  | (p, items) :: rest =>
    if p = phase then (p, items ++ [item]) :: rest else (p, items) :: addTo phase item rest

def sections (items : List Document) : List (String × List Document) :=
  items.foldl (fun groups item => addTo (phaseOf item) item groups) []

def bullet (item : Document) : String :=
  "- **" ++ field item "status" ++ "** \x60" ++ field item "name" ++ "\x60: "
    ++ field item "message"

/-- The lines of a section, with an empty one at the end. -/
def sectionLines (group : String × List Document) : List String :=
  ("### " ++ group.1) :: (group.2.map bullet ++ [""])

/-- The line with the counts of results by status, if the report has them. -/
def countsLine (summary : Document) : List String :=
  match (summary.get? "counts_by_status").bind Document.members? with
  | some counts =>
    ["- Status counts: " ++ Text.join ", " (counts.map fun (status, n) => status ++ "=" ++ n.plain)]
  | none => []

def results (report : Document) : List Document :=
  match report.get? "results" with
  | some (.list items) => items
  | _ => []

/-- The report as a text. A report without an exit code counts as failed. -/
def render (report : Document) (title : String) : String :=
  let summary := (report.get? "summary").getD .null
  let code := ((summary.get? "exit_code").bind Document.word?).getD 1
  Text.join "\n" (["# " ++ title, "", "## Summary", "- Exit code: " ++ Decimal.ofInt code]
    ++ countsLine summary ++ ["", "## Results"]
    ++ (sections (results report)).flatMap sectionLines)

end FabricAudit.Markdown
