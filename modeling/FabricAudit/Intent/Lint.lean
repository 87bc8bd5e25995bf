import FabricAudit.Intent.Basic

set_option autoImplicit false

/-! # Lint

Findings on an intent that loads but is likely not what its author meant: checks of unknown kinds,
repeated check names, selected nodes that are not in the inventory, and checks without any node. No
finding stops a run.
-/

namespace FabricAudit

inductive LintWarning where
  | unsupportedKind (check kind : String)
  /-- A check with the name of an earlier one. -/
  | repeatedName (check : String)
  | unknownNode (check node : String)
  /-- There are checks, and no nodes. -/
  | emptyInventory
  deriving DecidableEq, Repr

namespace LintWarning

def code : LintWarning → String
  | .unsupportedKind _ _ => "W001"
  | .repeatedName _ => "W002"
  | .unknownNode _ _ => "W003"
  | .emptyInventory => "W004"

def message : LintWarning → String
  | .unsupportedKind check kind =>
    "check '" ++ check ++ "': unsupported kind '" ++ kind ++ "' will always fail"
  | .repeatedName check => "duplicate check name: " ++ check
  | .unknownNode check node =>
    "check '" ++ check ++ "': node '" ++ node ++ "' is not in the inventory"
  | .emptyInventory => "inventory has no nodes; role/group selectors will match nothing"

end LintWarning

namespace Intent

def kindWarning (c : Check) : List LintWarning :=
  match c.kind with
  | .unsupported kind => [.unsupportedKind c.name kind]
  | _ => []

/-- The findings on names, when `seen` have come before. -/
def nameWarnings (seen : List String) : List Check → List LintWarning
  | [] => []
  | c :: rest =>
    if seen.contains c.name then .repeatedName c.name :: nameWarnings seen rest
    else nameWarnings (c.name :: seen) rest

/-- The nodes that a check names, if its selector reads. -/
def namedNodes (c : Check) : List String :=
  match (Keyed.get? c.params "selector").map Selector.reader.document with
  | some (.ok s) => s.node.toList ++ s.nodes.getD []
  | _ => []

def nodeWarnings (i : Inventory) (c : Check) : List LintWarning :=
  ((namedNodes c).filter fun node => !i.contains node).map (.unknownNode c.name)

def lint (i : Intent) : List LintWarning :=
  i.checks.flatMap kindWarning ++ nameWarnings [] i.checks
    ++ i.checks.flatMap (nodeWarnings i.inventory)
    ++ (if i.inventory.nodes.isEmpty && !i.checks.isEmpty then [.emptyInventory] else [])

end Intent

end FabricAudit
