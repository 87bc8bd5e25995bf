import FabricAudit.Check.Params
import FabricAudit.Pattern.Basic
import FabricAudit.Verdict.Subject

set_option autoImplicit false

/-! # Interfaces that must be up

Of the interfaces of a node some are selected, and every selected one must be up; there must be at
least one. An interface that is ignored is never selected. If any rule says which interfaces count,
those that match one are selected, else all of them.
-/

namespace FabricAudit.Verdict

/-- Rules that select interfaces, with their patterns read. -/
structure InterfaceRules where
  requiredNames : List String
  namePatterns : List Pattern
  descriptionPatterns : List Pattern
  ignoredNames : List String
  ignoredPatterns : List Pattern
  /-- Whether only interfaces that a rule names count. -/
  isScoped : Bool

def InterfaceRules.ofParams (p : InterfacesUp) : Except Fault InterfaceRules := do
  let read (patterns : List String) : Except Fault (List Pattern) :=
    patterns.mapM fun s => (Pattern.ofText s).mapError .pattern
  let namePatterns ← read p.namePatterns
  let descriptionPatterns ← read p.descriptionPatterns
  let ignoredPatterns ← read p.ignoredPatterns
  .ok ⟨p.requiredNames, namePatterns, descriptionPatterns, p.ignoredNames, ignoredPatterns,
    p.isScoped⟩

def InterfaceRules.ignores (r : InterfaceRules) (i : Interface) : Bool :=
  r.ignoredNames.contains i.name || r.ignoredPatterns.any fun p => p.occursIn i.name

def InterfaceRules.requires (r : InterfaceRules) (i : Interface) : Bool :=
  r.requiredNames.contains i.name || r.namePatterns.any (fun p => p.occursIn i.name)
    || r.descriptionPatterns.any fun p => p.occursIn i.description

def InterfaceRules.selects (r : InterfaceRules) (i : Interface) : Bool :=
  !r.ignores i && (!r.isScoped || r.requires i)

def interfacesResult (c : Check) (r : InterfaceRules) (node : String) (record : Record)
    (entries : List Interface) : Result :=
  let rc := record.rc
  let selected := entries.filter r.selects
  let bad := (selected.filter fun i => !i.isUp).map Interface.label
  let message :=
    if rc ≠ 0 then "interface collection failed (rc=" ++ Decimal.ofInt rc ++ ")"
    else if selected.isEmpty then "no interfaces selected"
    else Decimal.ofNat (selected.length - bad.length) ++ "/" ++ Decimal.ofNat selected.length
      ++ " selected interfaces up"
  c.outcome (c.nodeName node) (rc == 0 && !selected.isEmpty && bad.isEmpty) message
    (.ofPairs [("source", .text record.source.name), ("selected_count", .nat selected.length),
      ("bad_count", .nat bad.length), ("bad_interfaces", .texts bad)])

def interfacesUp {σ : Type} (s : Subject σ) (c : Check) : Audit σ (List Result) := do
  let p ← Audit.params c InterfacesUp.reader
  let rules ← Audit.ofExcept (InterfaceRules.ofParams p)
  (p.selector.resolve s.intent.inventory).mapM fun node => do
    let record ← Evidence.interfaces s.lab s.transport node
    let entries ← Audit.ofReading (record.readAt "parsed" [] (Reader.list Interface.reader))
    pure (interfacesResult c rules node record entries)

end FabricAudit.Verdict
