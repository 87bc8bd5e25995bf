import FabricAudit.Proofs.Document.Sorted
import FabricAudit.Yaml.Reading

set_option autoImplicit false

/-! # The order of pairs

The pairs of a mapping may stand in any order, at any depth, without a trace in the document that
the value has, as long as no two keys of the mapping have the same text
(`Yaml.Node.toDocument_reordered`). A mapping that is itself a key, or stands inside of one, is an
exception: the text of this key is its written form, in which the pairs stand in their order.

Which value a text has can be tested by evaluation with `Yaml.Node.identical`.
-/

namespace FabricAudit.Yaml.Node

/-- In one mapping, anywhere in a value but not in a key, pairs change places whose keys have
different texts. -/
inductive Reordered : Node → Node → Prop where
  | here {ps qs : List (Node × Node)} (hperm : ps.Perm qs)
      (hkeys : (ps.map fun p => p.1.keyText).Nodup) : Reordered (.mapping ps) (.mapping qs)
  | item {x y : Node} (before after : List Node) (h : Reordered x y) :
      Reordered (.sequence (before ++ x :: after)) (.sequence (before ++ y :: after))
  | value {x y : Node} (key : Node) (before after : List (Node × Node)) (h : Reordered x y) :
      Reordered (.mapping (before ++ (key, x) :: after)) (.mapping (before ++ (key, y) :: after))
  | tagged {x y : Node} (tag : String) (h : Reordered x y) :
      Reordered (.tagged tag x) (.tagged tag y)

theorem itemsToDocument_eq_map (xs : List Node) : itemsToDocument xs = xs.map toDocument := by
  induction xs with
  | nil => rfl
  | cons x xs ih => rw [itemsToDocument, ih, List.map_cons]

theorem pairsToDocument_eq_map (ps : List (Node × Node)) :
    pairsToDocument ps = ps.map fun p => (p.1.keyText, p.2.toDocument) := by
  induction ps with
  | nil => rfl
  | cons p ps ih =>
      obtain ⟨k, v⟩ := p
      rw [pairsToDocument, ih, List.map_cons]

/-- **Pairs may change places.** -/
theorem Reordered.toDocument {x y : Node} (h : Reordered x y) : x.toDocument = y.toDocument := by
  induction h with
  | @here ps qs hperm hkeys =>
      rw [Node.toDocument, Node.toDocument, pairsToDocument_eq_map, pairsToDocument_eq_map]
      refine congrArg Document.object (Keyed.ofList_perm (hperm.map _) ?_)
      rwa [List.map_map]
  | item before after _ ih =>
      simp only [Node.toDocument, itemsToDocument_eq_map, List.map_append, List.map_cons, ih]
  | value key before after _ ih =>
      simp only [Node.toDocument, pairsToDocument_eq_map, List.map_append, List.map_cons, ih]
  | tagged tag _ ih => rw [Node.toDocument, Node.toDocument, ih]

/-- **The document of a value** does not depend on the order of pairs in it. -/
theorem toDocument_reordered {x y : Node} (h : Relation.ReflTransGen Reordered x y) :
    x.toDocument = y.toDocument := by
  induction h with
  | refl => rfl
  | tail _ hstep ih => rw [ih, hstep.toDocument]

mutual

/-- The document of a value is sorted. -/
theorem toDocument_sorted : ∀ n : Node, n.toDocument.Sorted
  | .null => trivial
  | .bool _ => trivial
  | .int _ => trivial
  | .float (.finite _) => trivial
  | .float (.infinite _) => trivial
  | .float .notANumber => trivial
  | .text _ => trivial
  | .sequence items => Document.sortedItems_iff.mpr (itemsToDocument_sorted items)
  | .mapping pairs => Document.ofPairs_sorted (pairsToDocument_sorted pairs)
  | .tagged _ n => toDocument_sorted n

theorem itemsToDocument_sorted : ∀ xs : List Node, ∀ d ∈ itemsToDocument xs, d.Sorted
  | [] => nofun
  | x :: xs => List.forall_mem_cons.mpr ⟨toDocument_sorted x, itemsToDocument_sorted xs⟩

theorem pairsToDocument_sorted : ∀ ps : List (Node × Node), ∀ m ∈ pairsToDocument ps, m.2.Sorted
  | [] => nofun
  | (_, v) :: ps => List.forall_mem_cons.mpr ⟨toDocument_sorted v, pairsToDocument_sorted ps⟩

end

/-! ## Equal values -/

mutual

/-- Whether two values are equal part by part, with the pairs of mappings in the same order. -/
def identical : Node → Node → Bool
  | .null, .null => true
  | .bool a, .bool b => a == b
  | .int a, .int b => a == b
  | .float x, .float y => x == y
  | .text s, .text t => s == t
  | .sequence xs, .sequence ys => identicalItems xs ys
  | .mapping ps, .mapping qs => identicalPairs ps qs
  | .tagged t x, .tagged u y => t == u && identical x y
  | _, _ => false

def identicalItems : List Node → List Node → Bool
  | [], [] => true
  | x :: xs, y :: ys => identical x y && identicalItems xs ys
  | _, _ => false

def identicalPairs : List (Node × Node) → List (Node × Node) → Bool
  | [], [] => true
  | (k, x) :: ps, (l, y) :: qs => identical k l && identical x y && identicalPairs ps qs
  | _, _ => false

end

mutual

theorem eq_of_identical : ∀ {x y : Node}, identical x y = true → x = y
  | .null, y, h => by cases y <;> simp_all [identical]
  | .bool _, y, h => by cases y <;> simp_all [identical]
  | .int _, y, h => by cases y <;> simp_all [identical]
  | .float _, y, h => by cases y <;> simp_all [identical]
  | .text _, y, h => by cases y <;> simp_all [identical]
  | .sequence xs, y, h => by
      cases y with
      | sequence ys => rw [eq_of_identicalItems (show identicalItems xs ys = true from h)]
      | _ => cases h
  | .mapping ps, y, h => by
      cases y with
      | mapping qs => rw [eq_of_identicalPairs (show identicalPairs ps qs = true from h)]
      | _ => cases h
  | .tagged t x, y, h => by
      cases y with
      | tagged u y =>
          rw [identical, Bool.and_eq_true, beq_iff_eq] at h
          rw [h.1, eq_of_identical h.2]
      | _ => cases h

theorem eq_of_identicalItems : ∀ {xs ys : List Node}, identicalItems xs ys = true → xs = ys
  | [], ys, h => by cases ys <;> simp_all [identicalItems]
  | x :: xs, ys, h => by
      cases ys with
      | nil => cases h
      | cons y ys =>
          rw [identicalItems, Bool.and_eq_true] at h
          rw [eq_of_identical h.1, eq_of_identicalItems h.2]

theorem eq_of_identicalPairs : ∀ {ps qs : List (Node × Node)},
    identicalPairs ps qs = true → ps = qs
  | [], qs, h => by cases qs <;> simp_all [identicalPairs]
  | (k, x) :: ps, qs, h => by
      cases qs with
      | nil => cases h
      | cons q qs =>
          obtain ⟨l, y⟩ := q
          rw [identicalPairs, Bool.and_eq_true, Bool.and_eq_true] at h
          rw [eq_of_identical h.1.1, eq_of_identical h.1.2, eq_of_identicalPairs h.2]

end

/-- A text has a value if its evaluation gives this value. -/
theorem ofText_eq_of_identical {text : String} {n : Node}
    (h : (ofText text).toOption.any (identical · n) = true) : ofText text = .ok n := by
  cases hread : ofText text with
  | error e => rw [hread] at h; cases h
  | ok m =>
      rw [hread] at h
      exact congrArg Except.ok (eq_of_identical h)

end FabricAudit.Yaml.Node
