import FabricAudit.Proofs.Intent.Accepted
import FabricAudit.Proofs.Inventory.Written
import FabricAudit.Proofs.Yaml.Reordered

set_option autoImplicit false

/-! # What the fingerprint of an intent sees

The fingerprint of an intent is taken of its inventory and its services. Two intents that load have
the same payload for it exactly if their inventories agree and their services are the same
(`Intent.essence_exact`). Where a text lists roles and groups in another order or more than once,
moves pairs of mappings about, or says something else about checks, telemetry or anything else, the
fingerprint does not change.

Moving pairs about is harmless only as long as their keys have different texts, and only outside of
keys. Of two keys with the same text the later one counts, and a key that is or holds a mapping is
told by its written form (`Intent.fingerprint_of_movedKeys`).
-/

namespace FabricAudit

open Document

/-! ## Payloads -/

theorem Inventory.toDocument_integral (i : Inventory) : i.toDocument.Integral := by
  have htexts : ∀ ss : List String, (Document.texts ss).Integral := by
    intro ss
    show IntegralItems (ss.map .text)
    induction ss with
    | nil => trivial
    | cons s ss ih => exact ⟨trivial, ih⟩
  have hnode : ∀ n : InventoryNode, n.toDocument.Integral := fun n =>
    integral_ofPairs (by simp [htexts])
  refine integral_ofPairs fun p hp => ?_
  rw [List.mem_singleton.mp hp]
  refine integral_ofPairs fun q hq => ?_
  obtain ⟨m, -, rfl⟩ := List.mem_map.mp hq
  exact hnode m.2

namespace Intent

theorem essence_eq (i : Intent) : i.essence
    = .object [("inventory", i.inventory.toDocument), ("services", .object i.services)] := by
  simp only [essence, Document.ofPairs, Keyed.ofList, List.foldl_cons, List.foldl_nil,
    Keyed.insert, String.reduceEq, String.reduceLT, if_false]

variable {i j : Intent}

/-- **Two payloads are the same** exactly if the inventories agree and the services are the same. -/
theorem essence_same_iff (hi : i.inventory.Ordered) (hj : j.inventory.Ordered) :
    i.essence.same j.essence = true ↔ i.inventory.Agrees j.inventory ∧
      (Document.object i.services).same (.object j.services) = true := by
  rw [hi.agrees_iff hj, ← hi.toDocument_inj hj,
    ← same_iff_eq i.inventory.toDocument_integral j.inventory.toDocument_integral, essence_eq,
    essence_eq]
  simp [same, sameMembers]

/-- **The texts of two payloads are equal** exactly if the inventories agree and the services are
equal. -/
theorem essence_compact_iff (hi : i.inventory.Ordered) (hj : j.inventory.Ordered) :
    i.essence.compact = j.essence.compact ↔
      i.inventory.Agrees j.inventory ∧ i.services = j.services := by
  rw [compact_inj, hi.agrees_iff hj, ← hi.toDocument_inj hj, essence_eq, essence_eq]
  simp

/-! ## What is written -/

end Intent

/-- The same roles and the same groups are written for two nodes, in any order and any number of
times. -/
structure InventoryNode.ListSame (x y : Document) : Prop where
  roles : ∀ role, role ∈ rolesOf x ↔ role ∈ rolesOf y
  groups : ∀ group, group ∈ groupsOf x ↔ group ∈ groupsOf y

theorem InventoryNode.agrees_ofWritten_iff {x y : Document} :
    (ofWritten x).Agrees (ofWritten y) ↔ ListSame x y := by
  have hroles : ∀ d role, role ∈ (ofWritten d).roles ↔ role ∈ rolesOf d :=
    fun _ _ => Text.mem_sortedSet
  have hgroups : ∀ d group, group ∈ (ofWritten d).groups ↔ group ∈ groupsOf d :=
    fun _ _ => Text.mem_sortedSet
  constructor
  · intro h
    exact ⟨fun role => by rw [← hroles, h.roles, hroles],
      fun group => by rw [← hgroups, h.groups, hgroups]⟩
  · intro h
    exact ⟨fun role => by rw [hroles, h.roles, hroles],
      fun group => by rw [hgroups, h.groups, hgroups]⟩

namespace Intent

/-- The inventory and the services that two documents state are the same: they name the same nodes,
list the same roles and the same groups for each of them, in any order and any number of times, and
have equal services, if they have any. -/
structure StateSame (d e : Document) : Prop where
  nodes : ∀ name, Option.Rel InventoryNode.ListSame
    (d.walk ["inventory", "nodes", name]) (e.walk ["inventory", "nodes", name])
  services : membersOf (d.get? "services") = membersOf (e.get? "services")

end Intent

/-- Inventories agree node by node. -/
theorem Inventory.agrees_iff_rel {i j : Inventory} : i.Agrees j ↔
    ∀ name, Option.Rel InventoryNode.Agrees
      (Keyed.get? i.nodes name) (Keyed.get? j.nodes name) := by
  constructor
  · intro h name
    have hname := h.names name
    rw [contains, contains] at hname
    have hsets := h.sets name
    cases hm : Keyed.get? i.nodes name <;> cases hn : Keyed.get? j.nodes name <;>
      rw [hm, hn] at hname hsets
    · exact .none
    · cases hname
    · cases hname
    · exact .some (hsets _ _ rfl rfl)
  · intro h
    refine ⟨fun name => ?_, fun name m n hm hn => ?_⟩
    · have hrel := h name
      rw [contains, contains]
      generalize Keyed.get? i.nodes name = x, Keyed.get? j.nodes name = y at hrel
      cases hrel <;> rfl
    · have hrel := h name
      rw [hm, hn] at hrel
      cases hrel
      assumption

namespace Intent

variable {i j : Intent}

/-- A text loads as the document of its value does. -/
theorem ofYaml_eq_ok_iff {lab text : String} {n : Yaml.Node}
    (hn : Yaml.Node.ofText text = .ok n) :
    ofYaml lab text = .ok i ↔ ofDocument lab n.toDocument = .ok i := by
  have hd : Document.ofYaml text = .ok n.toDocument := by
    rw [Document.ofYaml, hn]
    rfl
  rw [ofYaml_eq lab hd, Except.mapError_eq_ok_iff]

theorem exists_ofYaml (lab : String) {text : String} {n : Yaml.Node}
    (hn : Yaml.Node.ofText text = .ok n) (h : (ofDocument lab n.toDocument).isOk = true) :
    ∃ i, ofYaml lab text = .ok i := by
  obtain ⟨i, hi⟩ := Except.exists_of_isOk h
  exact ⟨i, (ofYaml_eq_ok_iff hn).mpr hi⟩

/-- An intent that loads holds what the document of its text states. -/
theorem exists_holds_of_ofYaml {lab text : String} {n : Yaml.Node}
    (hn : Yaml.Node.ofText text = .ok n) (hi : ofYaml lab text = .ok i) :
    ∃ ms, n.toDocument = .object ms ∧ Holds lab ms i := by
  obtain ⟨ms, hms, hi⟩ := ofDocument_eq_ok_iff.mp ((ofYaml_eq_ok_iff hn).mp hi)
  refine ⟨ms, ?_, hi⟩
  cases hnull : n.toDocument with
  | null =>
      -- the empty object has no inventory
      rw [hnull] at hms
      cases hms
      obtain ⟨nodes, hnodes, -⟩ := hi.inventory
      cases hnodes
  | _ => rw [← hms, hnull]; rfl

/-- What an intent that loads has is what is written. -/
structure Loads (n : Yaml.Node) (i : Intent) : Prop where
  ordered : i.inventory.Ordered
  nodes : ∀ name, Keyed.get? i.inventory.nodes name
    = (n.toDocument.walk ["inventory", "nodes", name]).map InventoryNode.ofWritten
  services : i.services = membersOf (n.toDocument.get? "services")

theorem loads_of_ofYaml {lab text : String} {n : Yaml.Node}
    (hn : Yaml.Node.ofText text = .ok n) (hi : ofYaml lab text = .ok i) : Loads n i := by
  obtain ⟨ms, hms, hholds⟩ := exists_holds_of_ofYaml hn hi
  obtain ⟨nodes, hnodes, hreads⟩ := hholds.inventory
  have hsorted := n.toDocument_sorted
  rw [hms] at hsorted
  refine ⟨Inventory.ordered_of_reads hreads, fun name => ?_, ?_⟩
  · have hwalk : (Document.object ms).walk ["inventory", "nodes", name]
        = (Document.object nodes).walk ["nodes", name] := by
      show (Keyed.get? ms "inventory").bind (walk · ["nodes", name]) = _
      rw [hnodes, Option.bind_some]
    rw [Inventory.get?_of_reads (hsorted.of_get? hnodes) hreads name, hms, hwalk]
  · rw [hms]
    exact hholds.services.2

theorem Loads.stateSame_iff {n n' : Yaml.Node} (hi : Loads n i) (hj : Loads n' j) :
    StateSame n.toDocument n'.toDocument ↔
      i.inventory.Agrees j.inventory ∧ i.services = j.services := by
  have hnode : ∀ x y : Option Document, Option.Rel InventoryNode.Agrees
      (x.map InventoryNode.ofWritten) (y.map InventoryNode.ofWritten) ↔
      Option.Rel InventoryNode.ListSame x y := by
    intro x y
    cases x <;> cases y <;> simp [InventoryNode.agrees_ofWritten_iff]
  have hnodes : i.inventory.Agrees j.inventory ↔ ∀ name, Option.Rel InventoryNode.ListSame
      (n.toDocument.walk ["inventory", "nodes", name])
      (n'.toDocument.walk ["inventory", "nodes", name]) := by
    simp only [Inventory.agrees_iff_rel, hi.nodes, hj.nodes, hnode]
  rw [hnodes, hi.services, hj.services]
  exact ⟨fun h => ⟨h.nodes, h.services⟩, fun h => ⟨h.1, h.2⟩⟩

theorem StateSame.of_get? {d e : Document}
    (h : ∀ key, key = "inventory" ∨ key = "services" → d.get? key = e.get? key) :
    StateSame d e := by
  refine ⟨fun name => ?_, congrArg membersOf (h _ (.inr rfl))⟩
  rw [walk, walk, h _ (.inl rfl)]
  cases (e.get? "inventory").bind (walk · ["nodes", name]) with
  | none => exact .none
  | some d => exact .some ⟨fun _ => Iff.rfl, fun _ => Iff.rfl⟩

/-- **The fingerprint of an intent sees exactly inventory and services.** Two texts that load have
the same payload exactly if the loaded inventories agree, that is, have the same nodes, each with
the same roles and the same groups, and the services are the same; and the text that is hashed is
equal exactly if the inventories agree and the services are equal. That is to say that both texts
state the same inventory and services, whatever the order of their roles and groups, and however
often these are repeated. So the fingerprint stays the same when pairs change places whose keys have
different texts, in mappings that are neither keys nor stand inside of one, and when everything but
inventory and services changes, the lab included. -/
theorem essence_exact {lab lab' text text' : String} {n n' : Yaml.Node} {i j : Intent}
    (hn : Yaml.Node.ofText text = .ok n) (hn' : Yaml.Node.ofText text' = .ok n')
    (hi : ofYaml lab text = .ok i) (hj : ofYaml lab' text' = .ok j) :
    (i.essence.same j.essence = true ↔ i.inventory.Agrees j.inventory ∧
      (Document.object i.services).same (.object j.services) = true) ∧
    (i.essence.compact = j.essence.compact ↔
      i.inventory.Agrees j.inventory ∧ i.services = j.services) ∧
    (i.essence.compact = j.essence.compact ↔ StateSame n.toDocument n'.toDocument) ∧
    (StateSame n.toDocument n'.toDocument → i.fingerprint = j.fingerprint) ∧
    (Relation.ReflTransGen Yaml.Node.Reordered n n' → i.fingerprint = j.fingerprint) ∧
    ((∀ key, key = "inventory" ∨ key = "services" →
      n.toDocument.get? key = n'.toDocument.get? key) → i.fingerprint = j.fingerprint) := by
  have hloads := loads_of_ofYaml hn hi
  have hloads' := loads_of_ofYaml hn' hj
  have hcompact := essence_compact_iff hloads.ordered hloads'.ordered
  -- what remains is about texts that state the same
  have hstate : StateSame n.toDocument n'.toDocument → i.fingerprint = j.fingerprint := by
    intro h
    rw [hloads.stateSame_iff hloads', ← hcompact] at h
    exact congrArg Sha256.digest h
  refine ⟨essence_same_iff hloads.ordered hloads'.ordered, hcompact,
    by rw [hcompact, hloads.stateSame_iff hloads'], hstate, fun h => hstate ?_,
    fun h => hstate (.of_get? h)⟩
  rw [Yaml.Node.toDocument_reordered h]
  exact .of_get? fun _ _ => rfl

/-! ## Texts that say the same -/

def nodeValue (node : Yaml.Node) (checks : List Yaml.Node) : Yaml.Node :=
  .mapping [(.text "inventory", .mapping [(.text "nodes", .mapping [(.text "n", node)])]),
    (.text "services", .mapping [(.text "x", .int 1), (.text "y", .int 2)]),
    (.text "checks", .sequence checks)]

/-- The same value with its pairs, and those of its services, in another order. -/
def movedValue (node : Yaml.Node) (checks : List Yaml.Node) : Yaml.Node :=
  .mapping [(.text "services", .mapping [(.text "y", .int 2), (.text "x", .int 1)]),
    (.text "checks", .sequence checks),
    (.text "inventory", .mapping [(.text "nodes", .mapping [(.text "n", node)])])]

theorem nodeValue_reordered (node : Yaml.Node) (checks : List Yaml.Node) :
    Relation.ReflTransGen Yaml.Node.Reordered (nodeValue node checks) (movedValue node checks) := by
  refine .tail (.single (.value _ [_] _ (.here (.swap _ _ _) ?_))) (.here ?_ ?_)
  · decide
  · exact .trans (.swap _ _ _) (.cons _ (.swap _ _ _))
  · simp [Yaml.Node.keyText, Yaml.Node.word]

theorem nodeValue_toDocument (node : Yaml.Node) (checks : List Yaml.Node) :
    (nodeValue node checks).toDocument
      = .object [("checks", .list (Yaml.Node.itemsToDocument checks)),
        ("inventory", .object [("nodes", .object [("n", node.toDocument)])]),
        ("services", .object [("x", .int 1), ("y", .int 2)])] := by
  simp only [nodeValue, Yaml.Node.toDocument, Yaml.Node.pairsToDocument, Yaml.Node.keyText,
    Yaml.Node.word, Document.ofPairs, Keyed.ofList, List.foldl_cons, List.foldl_nil, Keyed.insert,
    String.reduceEq, String.reduceLT, if_true, if_false]

def someRecord : Yaml.Node :=
  .mapping [(.text "roles", .sequence [.text "a", .text "b"]),
    (.text "groups", .sequence [.text "c"])]

/-- The same node written as a list, with its roles in another order and repeats. -/
def sameRecord : Yaml.Node :=
  .sequence [.sequence [.text "b", .text "a", .text "a"], .sequence [.text "c", .text "c"]]

def someCheck : Yaml.Node :=
  .mapping [(.text "name", .text "k"), (.text "phase", .text "intent"), (.text "kind", .text "k")]

theorem someRecord_toDocument : someRecord.toDocument
    = .object [("groups", .list [.text "c"]), ("roles", .list [.text "a", .text "b"])] := by
  simp only [someRecord, Yaml.Node.toDocument, Yaml.Node.pairsToDocument,
    Yaml.Node.itemsToDocument, Yaml.Node.keyText, Yaml.Node.word, Document.ofPairs, Keyed.ofList,
    List.foldl_cons, List.foldl_nil, Keyed.insert, String.reduceEq, String.reduceLT, if_true,
    if_false]

theorem someRecord_stateSame (checks checks' : List Yaml.Node) :
    StateSame (nodeValue someRecord checks).toDocument
      (movedValue sameRecord checks').toDocument := by
  rw [← Yaml.Node.toDocument_reordered (nodeValue_reordered sameRecord checks'),
    nodeValue_toDocument, nodeValue_toDocument, someRecord_toDocument]
  refine ⟨fun name => ?_, rfl⟩
  have hwalk : ∀ (node : Document) (checks : List Document),
      (Document.object [("checks", .list checks),
        ("inventory", .object [("nodes", .object [("n", node)])]),
        ("services", .object [("x", .int 1), ("y", .int 2)])]).walk
          ["inventory", "nodes", name] = if "n" = name then some node else none := by
    intro node checks
    simp [walk, Document.get?, Keyed.get?]
  rw [hwalk, hwalk]
  split
  · refine .some ⟨fun role => ?_, fun group => ?_⟩
    · show role ∈ ["a", "b"] ↔ role ∈ ["b", "a", "a"]
      simp [or_comm]
    · show group ∈ ["c"] ↔ group ∈ ["c", "c"]
      simp
  · exact .none

def nodeText : String :=
  "inventory:\n nodes:\n  n:\n   roles: [a, b]\n   groups: [c]\n"
    ++ "services:\n x: 1\n y: 2\nchecks: []\n"

/-- A text with the same value, but for the order of pairs. -/
def movedText : String :=
  "services:\n y: 2\n x: 1\nchecks: []\n"
    ++ "inventory:\n nodes:\n  n:\n   roles: [a, b]\n   groups: [c]\n"

/-- A text that lists roles and groups in another way, and has a check. -/
def relistedText : String :=
  "services:\n y: 2\n x: 1\nchecks:\n- name: k\n  phase: intent\n  kind: k\n"
    ++ "inventory:\n nodes:\n  n: [[b, a, a], [c, c]]\n"

/-- The three texts load, for one lab or another, with one fingerprint. -/
theorem essence_exact_threeTexts :
    ∃ i j k, ofYaml "lab" nodeText = .ok i ∧ ofYaml "lab" movedText = .ok j ∧
      ofYaml "other" relistedText = .ok k ∧ i.fingerprint = j.fingerprint ∧
      i.fingerprint = k.fingerprint ∧ i.inventory.Agrees k.inventory := by
  have hn : Yaml.Node.ofText nodeText = .ok (nodeValue someRecord []) :=
    Yaml.Node.ofText_eq_of_identical (by decide +kernel)
  have hn' : Yaml.Node.ofText movedText = .ok (movedValue someRecord []) :=
    Yaml.Node.ofText_eq_of_identical (by decide +kernel)
  have hn'' : Yaml.Node.ofText relistedText = .ok (movedValue sameRecord [someCheck]) :=
    Yaml.Node.ofText_eq_of_identical (by decide +kernel)
  obtain ⟨i, hi⟩ := exists_ofYaml "lab" hn (by decide +kernel)
  obtain ⟨j, hj⟩ := exists_ofYaml "lab" hn' (by decide +kernel)
  obtain ⟨k, hk⟩ := exists_ofYaml "other" hn'' (by decide +kernel)
  obtain ⟨-, -, -, -, hmoved, -⟩ := essence_exact hn hn' hi hj
  obtain ⟨-, hcompact, hstate, hrelisted, -, -⟩ := essence_exact hn hn'' hi hk
  have hsame := someRecord_stateSame [] [someCheck]
  exact ⟨i, j, k, hi, hj, hk, hmoved (nodeValue_reordered _ _), hrelisted hsame,
    (hcompact.mp (hstate.mpr hsame)).1⟩

/-! ## Keys that do not stay apart -/

/-- Two texts have these values, and load with different fingerprints. -/
def ToldApart (text text' : String) (n n' : Yaml.Node) : Prop :=
  Yaml.Node.ofText text = .ok n ∧ Yaml.Node.ofText text' = .ok n' ∧
    ∃ i j, ofYaml "lab" text = .ok i ∧ ofYaml "lab" text' = .ok j ∧ i.fingerprint ≠ j.fingerprint

theorem toldApart_of_ne {text text' : String} {n n' : Yaml.Node}
    (hn : Yaml.Node.ofText text = .ok n) (hn' : Yaml.Node.ofText text' = .ok n')
    (hi : (ofDocument "lab" n.toDocument).isOk = true)
    (hj : (ofDocument "lab" n'.toDocument).isOk = true)
    (hne : (ofDocument "lab" n.toDocument).toOption.map fingerprint
      ≠ (ofDocument "lab" n'.toDocument).toOption.map fingerprint) : ToldApart text text' n n' := by
  obtain ⟨i, hi⟩ := exists_ofYaml "lab" hn hi
  obtain ⟨j, hj⟩ := exists_ofYaml "lab" hn' hj
  rw [(ofYaml_eq_ok_iff hn).mp hi, (ofYaml_eq_ok_iff hn').mp hj] at hne
  exact ⟨hn, hn', i, j, hi, hj, fun h => hne (congrArg some h)⟩

def servicesValue (pairs : List (Yaml.Node × Yaml.Node)) : Yaml.Node :=
  .mapping [(.text "inventory", .mapping []), (.text "services", .mapping pairs),
    (.text "checks", .sequence [])]

/-- **Moving pairs about may change the fingerprint**: where two keys have the same text, because
the later one counts, in a mapping that is itself a key, and in one that stands inside of a key,
because the written form of the key is its text. -/
theorem fingerprint_of_movedKeys :
    ToldApart "inventory: {}\nservices:\n 1: a\n '1': b\nchecks: []\n"
      "inventory: {}\nservices:\n '1': b\n 1: a\nchecks: []\n"
      (servicesValue [(.int 1, .text "a"), (.text "1", .text "b")])
      (servicesValue [(.text "1", .text "b"), (.int 1, .text "a")]) ∧
    ToldApart "inventory: {}\nservices:\n ? \x7ba: 1, b: 2\x7d\n : v\nchecks: []\n"
      "inventory: {}\nservices:\n ? \x7bb: 2, a: 1\x7d\n : v\nchecks: []\n"
      (servicesValue [(.mapping [(.text "a", .int 1), (.text "b", .int 2)], .text "v")])
      (servicesValue [(.mapping [(.text "b", .int 2), (.text "a", .int 1)], .text "v")]) ∧
    ToldApart "inventory: {}\nservices:\n ? [\x7ba: 1, b: 2\x7d]\n : v\nchecks: []\n"
      "inventory: {}\nservices:\n ? [\x7bb: 2, a: 1\x7d]\n : v\nchecks: []\n"
      (servicesValue [(.sequence [.mapping [(.text "a", .int 1), (.text "b", .int 2)]], .text "v")])
      (servicesValue
        [(.sequence [.mapping [(.text "b", .int 2), (.text "a", .int 1)]], .text "v")]) := by
  refine ⟨?_, ?_, ?_⟩
  · refine toldApart_of_ne (Yaml.Node.ofText_eq_of_identical ?_)
      (Yaml.Node.ofText_eq_of_identical ?_) ?_ ?_ ?_ <;> decide +kernel
  · refine toldApart_of_ne (Yaml.Node.ofText_eq_of_identical ?_)
      (Yaml.Node.ofText_eq_of_identical ?_) ?_ ?_ ?_ <;> decide +kernel
  · refine toldApart_of_ne (Yaml.Node.ofText_eq_of_identical ?_)
      (Yaml.Node.ofText_eq_of_identical ?_) ?_ ?_ ?_ <;> decide +kernel

end Intent

end FabricAudit
