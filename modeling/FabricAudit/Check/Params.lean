import FabricAudit.Inventory.Selector
import FabricAudit.Text.Blank
import FabricAudit.Text.Search

set_option autoImplicit false

/-! # Parameters of checks

Each kind of check has parameters of its own, with defaults for most of them. Where a text is wanted
any value will do, in its plain form; where a number of sessions is wanted, a text with a number.
-/

namespace FabricAudit

/-- The signed 64-bit word that a text without blanks denotes. -/
def wordOfText? (s : String) : Option Int :=
  let n? : Option Int := match s.toList with
    | '+' :: ds => (Decimal.toNat? ds).map fun n => (n : Int)
    | '-' :: ds => (Decimal.toNat? ds).map fun n => -(n : Int)
    | ds => (Decimal.toNat? ds).map fun n => (n : Int)
  n?.filter (Word.signed 64).holds

/-- A signed 64-bit word, written as a number or as a text with one. Fractions are cut off, and what
is too large becomes the nearest word. -/
def Reader.lenientWord : Reader Int := fun d => do
  let value ← Reader.any d
  let found : Option Int := match value with
    | .int n => some ((Word.signed 64).nearest n)
    | .float x => some ((Word.signed 64).nearest x.truncated)
    | .text s => wordOfText? (Text.trim s)
    | _ => none
  match found with
  | some n => .ok n
  | none => .error (.notInteger value)

def Selector.field : Field Selector := .withDefault "selector" Selector.all Selector.reader

/-- Which lines a configuration must contain. -/
structure ConfigContains where
  selector : Selector
  required : List String

namespace ConfigContains

def requiredField : Field (List String) := .withDefault "required" [] Reader.plainList

def reader : Reader ConfigContains :=
  Reader.record "struct ConfigContainsParams" [Selector.field.erase, requiredField.erase]
    fun g => do .ok ⟨← g.take Selector.field, ← g.take requiredField⟩

end ConfigContains

/-- Which interfaces must be up. -/
structure InterfacesUp where
  selector : Selector
  /-- Names of interfaces that count. -/
  requiredNames : List String
  /-- Patterns for names of interfaces that count. -/
  namePatterns : List String
  /-- Patterns for descriptions of interfaces that count. -/
  descriptionPatterns : List String
  /-- Names of interfaces that never count. -/
  ignoredNames : List String
  /-- Patterns for names of interfaces that never count. -/
  ignoredPatterns : List String

namespace InterfacesUp

def requiredNamesField : Field (List String) :=
  .withDefault "required_interfaces" [] Reader.plainList
def namePatternsField : Field (List String) :=
  .withDefault "required_interface_regex" [] Reader.plainList
def descriptionPatternsField : Field (List String) :=
  .withDefault "required_description_regex" [] Reader.plainList
def ignoredNamesField : Field (List String) :=
  .withDefault "ignore_interfaces" [] Reader.plainList
def ignoredPatternsField : Field (List String) :=
  .withDefault "ignore_interface_regex" [] Reader.plainList

def reader : Reader InterfacesUp :=
  Reader.record "struct InterfacesUpParams"
    [Selector.field.erase, requiredNamesField.erase, namePatternsField.erase,
      descriptionPatternsField.erase, ignoredNamesField.erase, ignoredPatternsField.erase]
    fun g => do
      .ok ⟨← g.take Selector.field, ← g.take requiredNamesField, ← g.take namePatternsField,
        ← g.take descriptionPatternsField, ← g.take ignoredNamesField,
        ← g.take ignoredPatternsField⟩

/-- Whether anything says which interfaces count; if nothing does, all of them do. -/
def isScoped (p : InterfacesUp) : Bool :=
  !p.requiredNames.isEmpty || !p.namePatterns.isEmpty || !p.descriptionPatterns.isEmpty

end InterfacesUp

/-- How many BGP sessions must be established. -/
structure BgpEstablished where
  selector : Selector
  minTotal : Int
  /-- Whether every session must be established, and not only that many. -/
  requireAll : Bool

namespace BgpEstablished

def minTotalField : Field Int := .withDefault "min_total" 1 Reader.lenientWord
def requireAllField : Field Bool := .withDefault "require_all" true Reader.bool

def reader : Reader BgpEstablished :=
  Reader.record "struct BgpEstablishedParams"
    [Selector.field.erase, minTotalField.erase, requireAllField.erase]
    fun g => do .ok ⟨← g.take Selector.field, ← g.take minTotalField, ← g.take requireAllField⟩

/-- Whether these numbers of sessions are enough. -/
def isSatisfied (p : BgpEstablished) (total established : Int) : Bool :=
  p.minTotal ≤ total && (if p.requireAll then established == total else p.minTotal ≤ established)

end BgpEstablished

/-- Which EVPN routes a node must have. -/
structure EvpnRoutes where
  selector : Selector
  patterns : List String
  /-- How many of the texts must occur: `all`, or anything else for one. -/
  demand : String

namespace EvpnRoutes

def patternsField : Field (List String) :=
  .withDefault "patterns" ["mac-ip", "ip-prefix"] Reader.plainList
def demandField : Field String := .withDefault "require" "any" Reader.plain

def reader : Reader EvpnRoutes :=
  Reader.record "struct EvpnRoutesParams"
    [Selector.field.erase, patternsField.erase, demandField.erase]
    fun g => do .ok ⟨← g.take Selector.field, ← g.take patternsField, ← g.take demandField⟩

def isSatisfied (p : EvpnRoutes) (output : String) : Bool :=
  if p.demand = "all" then p.patterns.all (Text.contains output)
  else p.patterns.any (Text.contains output)

end EvpnRoutes

/-- Which nodes must have an EVPN session. -/
structure EvpnSessions where
  selector : Selector

namespace EvpnSessions

def reader : Reader EvpnSessions :=
  Reader.record "struct EvpnSessionsParams" [Selector.field.erase]
    fun g => do .ok ⟨← g.take Selector.field⟩

end EvpnSessions

/-- A host and the addresses it must reach. -/
structure PingProbe where
  source : String
  targets : List String

namespace PingProbe

def sourceField : Field String := .required "source" Reader.plain
def targetsField : Field (List String) := .withDefault "targets" [] Reader.plainList

def reader : Reader PingProbe :=
  Reader.record "struct PingProbe" [sourceField.erase, targetsField.erase]
    fun g => do .ok ⟨← g.take sourceField, ← g.take targetsField⟩

end PingProbe

/-- Which addresses hosts must reach. -/
structure PingTargets where
  /-- The interface to use, if a certain one; an empty name is none. -/
  interface : Option String
  probes : List PingProbe

namespace PingTargets

def interfaceField : Field (Option String) :=
  .withDefault "interface" none (Reader.optional Reader.plain)
def probesField : Field (List PingProbe) :=
  .withDefault "probes" [] (Reader.list PingProbe.reader)

def reader : Reader PingTargets :=
  Reader.record "struct PingTargetsParams" [interfaceField.erase, probesField.erase]
    fun g => do .ok ⟨← g.take interfaceField, ← g.take probesField⟩

end PingTargets

/-- A host that must not have learned an address on an interface. -/
structure NeighborProbe where
  source : String
  target : String
  interface : String

namespace NeighborProbe

def sourceField : Field String := .required "source" Reader.plain
def targetField : Field String := .required "target_ip" Reader.plain
def interfaceField : Field String := .required "interface" Reader.plain

def reader : Reader NeighborProbe :=
  Reader.record "struct NeighborProbe"
    [sourceField.erase, targetField.erase, interfaceField.erase]
    fun g => do .ok ⟨← g.take sourceField, ← g.take targetField, ← g.take interfaceField⟩

end NeighborProbe

/-- Which neighbours hosts must not have learned. -/
structure NeighborAbsent where
  probes : List NeighborProbe

namespace NeighborAbsent

def probesField : Field (List NeighborProbe) :=
  .withDefault "probes" [] (Reader.list NeighborProbe.reader)

def reader : Reader NeighborAbsent :=
  Reader.record "struct NeighborAbsentParams" [probesField.erase]
    fun g => do .ok ⟨← g.take probesField⟩

end NeighborAbsent

/-- Which values of the intent must differ. -/
structure IntentDistinct where
  /-- The dotted paths of the values. -/
  paths : List String

namespace IntentDistinct

def pathsField : Field (List String) := .withDefault "paths" [] Reader.plainList

def reader : Reader IntentDistinct :=
  Reader.record "struct IntentDistinctParams" [pathsField.erase]
    fun g => do .ok ⟨← g.take pathsField⟩

end IntentDistinct

end FabricAudit
