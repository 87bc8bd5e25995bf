import FabricAudit.Files.Tree
import FabricAudit.Report.Markdown

set_option autoImplicit false

/-! # Report files

A report is kept in two forms, as a document and as a Markdown text. Directories are made as needed.
-/

namespace FabricAudit.Report

def saveDocument (path : String) (report : Document) : FileTree.Work Unit :=
  FileTree.save path report.pretty

def saveMarkdown (path : String) (report : Document) (title : String) : FileTree.Work Unit :=
  FileTree.save path (Markdown.render report title)

/-- Keeps the report in both forms. -/
def save (documentPath markdownPath : String) (report : Document) (title : String) :
    FileTree.Work Unit := do
  saveDocument documentPath report
  saveMarkdown markdownPath report title

end FabricAudit.Report
