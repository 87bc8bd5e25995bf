import FabricAudit.Inventory.Selector
import FabricAudit.Proofs.Inventory.Written

set_option autoImplicit false

/-! # Which nodes are selected

An inventory is what rows make that are inserted one after the other, a later row in place of an
earlier one of that name; an inventory that is read is made of rows as well
(`Inventory.exists_rows_of_reads`). So what is selected from it can be told from the rows: the last
one of each name counts, and their order does not (`Selector.resolve_exact`).
-/

namespace FabricAudit

/-! ## Rows -/

namespace Inventory

/-- The inventory of rows that are inserted one after the other. -/
def ofRows (rows : List (String × InventoryNode)) : Inventory :=
  rows.foldl (fun i row => i.insert row.1 row.2) empty

theorem nodes_ofRows (rows : List (String × InventoryNode)) :
    (ofRows rows).nodes = Keyed.ofList rows :=
  (List.foldl_hom Inventory.nodes fun _ _ => rfl).symm

/-- The nodes of an inventory are its rows. -/
theorem ofRows_eq_iff {rows : List (String × InventoryNode)} {i : Inventory} :
    ofRows rows = i ↔ i.nodes = Keyed.ofList rows := by
  rw [← nodes_ofRows]
  cases i
  exact ⟨fun h => h ▸ rfl, fun h => congrArg Inventory.mk h.symm⟩

/-- **An inventory that is read** is that of some rows. -/
theorem exists_rows_of_reads {ms : Members} {i : Inventory}
    (h : reader.document (.object ms) = .ok i) : ∃ rows, ofRows rows = i := by
  simp only [ofRows_eq_iff]
  rcases exists_nodes h with ⟨-, hi⟩ | ⟨ns, -, hi⟩
  · exact ⟨[], hi⟩
  · exact ⟨_, hi⟩

/-- A row counts exactly if it is the last one of its name. -/
theorem mem_nodes_ofRows {rows : List (String × InventoryNode)} {name : String}
    {node : InventoryNode} :
    (name, node) ∈ (ofRows rows).nodes ↔ Keyed.last? rows name = some node := by
  rw [nodes_ofRows, ← Keyed.get?_eq_some_iff (Keyed.pairwise_ofList rows), Keyed.get?_ofList]

/-- **The order of rows does not matter**, as long as the last one of each name stays the same. -/
theorem ofRows_congr {rows rows' : List (String × InventoryNode)}
    (h : ∀ name, Keyed.last? rows name = Keyed.last? rows' name) : ofRows rows = ofRows rows' := by
  rw [ofRows_eq_iff, nodes_ofRows]
  refine Keyed.eq_of_get?_eq (Keyed.pairwise_ofList _) (Keyed.pairwise_ofList _) fun name => ?_
  rw [Keyed.get?_ofList, Keyed.get?_ofList, h]

end Inventory

/-! ## Selectors -/

namespace Selector

/-- The name that is asked for is among the names. Nothing and the empty name ask for none. -/
def Grants (names : List String) (wanted : Option String) : Prop :=
  ∀ name, wanted = some name → name ≠ "" → name ∈ names

/-- No name is asked for. -/
def AsksNothing (wanted : Option String) : Prop := ∀ name, wanted = some name → name = ""

theorem admits_iff {wanted : Option String} {names : List String} :
    admits wanted names = true ↔ Grants names wanted := by
  cases wanted with
  | none => exact ⟨fun _ => nofun, fun _ => rfl⟩
  | some w =>
      rw [admits, Bool.or_eq_true, beq_iff_eq, List.contains_iff_mem, or_iff_not_imp_left]
      exact ⟨fun h name hname => Option.some.inj hname ▸ h, fun h => h w rfl⟩

theorem AsksNothing.grants {wanted : Option String} (h : AsksNothing wanted)
    (names : List String) : Grants names wanted :=
  fun name hname hne => absurd (h name hname) hne

theorem matchesNode_iff {s : Selector} {n : InventoryNode} :
    s.matchesNode n = true ↔ Grants n.roles s.role ∧ Grants n.groups s.group := by
  rw [matchesNode, Bool.and_eq_true, admits_iff, admits_iff]

/-- Without names of nodes, the selected nodes are those that match. -/
theorem mem_resolve_iff {s : Selector} (hnode : s.node = none) (hnodes : s.nodes = none)
    {i : Inventory} {name : String} :
    name ∈ s.resolve i ↔ ∃ n, (name, n) ∈ i.nodes ∧ s.matchesNode n = true := by
  rw [resolve, hnode, hnodes]
  simp

/-- Without names of nodes, the selected nodes come in the order of the inventory. -/
theorem pairwise_resolve {s : Selector} (hnode : s.node = none) (hnodes : s.nodes = none)
    {i : Inventory} (hi : i.nodes.Pairwise fun m n => m.1 < n.1) :
    (s.resolve i).Pairwise (· < ·) := by
  rw [resolve, hnode, hnodes]
  exact List.pairwise_map.mpr (hi.filter _)

/-- **Whoever asks for more** selects no other nodes, and in the same order. -/
theorem resolve_sublist {s s' : Selector} (hnode : s'.node = s.node) (hnodes : s'.nodes = s.nodes)
    (h : ∀ n, s'.matchesNode n = true → s.matchesNode n = true) (i : Inventory) :
    (s'.resolve i).Sublist (s.resolve i) := by
  rw [resolve, resolve, hnode, hnodes]
  split
  · exact List.Sublist.refl _
  · exact List.Sublist.refl _
  · exact (List.monotone_filter_right i.nodes fun entry => h entry.2).map _

/-- **What a selector selects.**

Take any selector and the inventory of any rows. A node that is named is all that is selected; else
named nodes are selected as they stand, in their order and with repeats. Otherwise the selected
names ascend strictly, and they are the names whose last row has the role and is in the group that
are asked for. Rows in another order, with the same last row under each name, select the same. Who
asks for a role or a group where none was asked for selects no other names, and in the same
order. Every inventory that is read is that of some rows. -/
theorem resolve_exact (s : Selector) (rows : List (String × InventoryNode)) :
    (∀ name, s.node = some name → s.resolve (.ofRows rows) = [name]) ∧
    (∀ names, s.node = none → s.nodes = some names → s.resolve (.ofRows rows) = names) ∧
    (s.node = none → s.nodes = none →
      (s.resolve (.ofRows rows)).Pairwise (· < ·) ∧
      ∀ name, name ∈ s.resolve (.ofRows rows) ↔
        ∃ n, Keyed.last? rows name = some n ∧ Grants n.roles s.role ∧ Grants n.groups s.group) ∧
    (∀ rows', (∀ name, Keyed.last? rows' name = Keyed.last? rows name) →
      s.resolve (.ofRows rows') = s.resolve (.ofRows rows)) ∧
    (AsksNothing s.role → ∀ role,
      ({ s with role := some role }.resolve (.ofRows rows)).Sublist (s.resolve (.ofRows rows))) ∧
    (AsksNothing s.group → ∀ group,
      ({ s with group := some group }.resolve (.ofRows rows)).Sublist
        (s.resolve (.ofRows rows))) ∧
    ∀ ms i, Inventory.reader.document (.object ms) = .ok i → ∃ read, Inventory.ofRows read = i := by
  refine ⟨fun name hnode => ?_, fun names hnode hnodes => ?_,
    fun hnode hnodes => ⟨?_, fun name => ?_⟩, fun rows' h => ?_, fun hnothing role => ?_,
    fun hnothing group => ?_, fun ms i => Inventory.exists_rows_of_reads⟩
  · rw [resolve, hnode]
  · rw [resolve, hnode, hnodes]
  · apply pairwise_resolve hnode hnodes
    rw [Inventory.nodes_ofRows]
    exact Keyed.pairwise_ofList rows
  · rw [mem_resolve_iff hnode hnodes]
    simp only [Inventory.mem_nodes_ofRows, matchesNode_iff]
  · rw [Inventory.ofRows_congr h]
  · refine resolve_sublist (by rfl) (by rfl) (fun n hn => ?_) _
    rw [matchesNode_iff] at hn ⊢
    exact ⟨hnothing.grants n.roles, hn.2⟩
  · refine resolve_sublist (by rfl) (by rfl) (fun n hn => ?_) _
    rw [matchesNode_iff] at hn ⊢
    exact ⟨hn.1, hnothing.grants n.groups⟩

/-- Rows of two racks, in which the second row of `leaf1` replaces the first. -/
def rackRows : List (String × InventoryNode) :=
  [("leaf2", .ofLists ["leaf"] ["rackB"]), ("leaf1", .ofLists ["spine"] ["rackB"]),
    ("spine1", .ofLists ["spine"] ["dc1"]), ("leaf1", .ofLists ["leaf", "border"] ["rackA"])]

/-- The same rows in another order, with the last row of `leaf1` still behind the first. -/
def shuffledRackRows : List (String × InventoryNode) :=
  [("spine1", .ofLists ["spine"] ["dc1"]), ("leaf1", .ofLists ["spine"] ["rackB"]),
    ("leaf1", .ofLists ["leaf", "border"] ["rackA"]), ("leaf2", .ofLists ["leaf"] ["rackB"])]

def ofRole (role : String) : Selector := { all with role := some role }

/-- The leaves are `leaf1` and `leaf2` in either order, and only `leaf1` is a border as well. An
empty group asks for nothing, so that asking for a rack in its place takes the other leaf away. -/
theorem resolve_exact_rackRows :
    { ofRole "leaf" with node := some "leaf9" }.resolve (.ofRows rackRows) = ["leaf9"] ∧
    { ofRole "leaf" with nodes := some ["x", "leaf1", "x"] }.resolve (.ofRows rackRows)
      = ["x", "leaf1", "x"] ∧
    "leaf1" ∈ (ofRole "leaf").resolve (.ofRows rackRows) ∧
    "leaf1" ∉ (ofRole "spine").resolve (.ofRows rackRows) ∧
    (ofRole "leaf").resolve (.ofRows shuffledRackRows)
      = (ofRole "leaf").resolve (.ofRows rackRows) ∧
    ((ofRole "border").resolve (.ofRows rackRows)).Sublist (all.resolve (.ofRows rackRows)) ∧
    ({ ofRole "leaf" with group := some "rackA" }.resolve (.ofRows rackRows)).Sublist
      ({ ofRole "leaf" with group := some "" }.resolve (.ofRows rackRows)) := by
  have hleaf1 : Keyed.last? rackRows "leaf1" = some (.ofLists ["leaf", "border"] ["rackA"]) := by
    decide
  have hsame : ∀ name, Keyed.last? shuffledRackRows name = Keyed.last? rackRows name := by
    intro name
    simp only [shuffledRackRows, rackRows, Keyed.last?, List.reverse_cons, List.reverse_nil,
      List.nil_append, List.cons_append, Keyed.get?_cons]
    grind
  have hanyGroup : Grants ["rackA"] none := by
    intro asked hasked
    cases hasked
  have hanyRole : AsksNothing none := by
    intro asked hasked
    cases hasked
  obtain ⟨-, -, hfilter, horder, -⟩ := resolve_exact (ofRole "leaf") rackRows
  obtain ⟨-, -, hspines, -⟩ := resolve_exact (ofRole "spine") rackRows
  refine ⟨(resolve_exact _ rackRows).1 "leaf9" rfl, (resolve_exact _ rackRows).2.1 _ rfl rfl,
    ((hfilter rfl rfl).2 "leaf1").mpr ⟨_, hleaf1, ?_, hanyGroup⟩, fun hmem => ?_,
    horder shuffledRackRows hsame, (resolve_exact all rackRows).2.2.2.2.1 hanyRole "border",
    (resolve_exact { ofRole "leaf" with group := some "" } rackRows).2.2.2.2.2.1 ?_ "rackA"⟩
  · rintro name hname -
    obtain rfl : "leaf" = name := Option.some.inj hname
    decide
  · obtain ⟨n, hn, hrole, -⟩ := ((hspines rfl rfl).2 "leaf1").mp hmem
    obtain rfl := Option.some.inj (hleaf1.symm.trans hn)
    exact absurd (hrole "spine" rfl (by decide)) (by decide)
  · rintro name hname
    exact (Option.some.inj hname).symm

end Selector

end FabricAudit
