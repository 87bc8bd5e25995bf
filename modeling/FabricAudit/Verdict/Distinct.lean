import FabricAudit.Check.Params
import FabricAudit.Verdict.Subject

set_option autoImplicit false

/-! # Values that must differ

Whether the values at certain paths of the intent are there and pairwise different. Values are
compared in their plain form, so a number and a text with the same characters are the same, and a
path that is named twice is the same as itself.
-/

namespace FabricAudit.Verdict

def distinctTexts (ss : List String) : List String := Text.sortedSet ss

def unresolved (raw : Document) (paths : List String) : List String :=
  paths.filter fun path => (raw.resolve path).isNone

def resolvedTexts (raw : Document) (paths : List String) : List String :=
  (paths.filterMap raw.resolve).map Document.plain

/-- The value at every path, or null. -/
def valuesAt (raw : Document) (paths : List String) : Document :=
  .ofPairs (paths.map fun path => (path, (raw.resolve path).getD .null))

def distinctResult (c : Check) (raw : Document) (paths : List String) : Result :=
  let missing := unresolved raw paths
  let distinct := distinctTexts (resolvedTexts raw paths)
  let ok := missing.isEmpty && distinct.length == paths.length
  let message :=
    if !missing.isEmpty then "unresolved paths: " ++ Text.join ", " missing
    else if ok then Decimal.ofNat paths.length ++ " values distinct"
    else Decimal.ofNat paths.length ++ " paths share " ++ Decimal.ofNat distinct.length
      ++ " distinct values"
  c.outcome c.name ok message
    (.ofPairs [("paths", .texts paths), ("values", valuesAt raw paths)])

def intentDistinct {σ : Type} (s : Subject σ) (c : Check) : Audit σ (List Result) := do
  let p ← Audit.params c IntentDistinct.reader
  pure [distinctResult c s.intent.raw p.paths]

end FabricAudit.Verdict
