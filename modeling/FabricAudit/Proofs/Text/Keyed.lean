import Mathlib.Data.List.Dedup
import Mathlib.Data.List.Induction
import Mathlib.Data.List.Sort
import Mathlib.Data.String.Basic
import FabricAudit.Text.Keyed

set_option autoImplicit false

/-! # Laws of keyed collections

What setting a key does to look-ups and to the pairs. None of these laws asks for the pairs to be
sorted: `Keyed.insert` replaces a pair that has the key or puts one before a greater key, and
`Keyed.get?` takes the first pair with the key, so the two agree on any list.
-/

namespace FabricAudit.Keyed

variable {α : Type}

/-! ## Look-ups -/

theorem get?_cons (k : String) (v : α) (rest : Keyed α) (key : String) :
    get? ((k, v) :: rest) key = if k = key then some v else get? rest key := rfl

/-- **Looking up after setting a key**: the key has the new value, every other key what it had. -/
theorem get?_insert (key : String) (value : α) (ms : Keyed α) (k : String) :
    get? (insert key value ms) k = if key = k then some value else get? ms k := by
  induction ms with
  | nil => rfl
  | cons m rest ih =>
      obtain ⟨l, v⟩ := m
      rw [insert]
      by_cases hkl : key = l
      · subst hkl
        by_cases hk : key = k <;> simp [get?_cons, hk]
      · rw [if_neg hkl]
        -- the new pair stands before this one, or somewhere behind it
        by_cases hlt : key < l
        · rw [if_pos hlt, get?_cons]
        · rw [if_neg hlt, get?_cons, get?_cons, ih]
          by_cases hlk : l = k
          · have hk : key ≠ k := fun h => hkl (h.trans hlk.symm)
            rw [if_pos hlk, if_neg hk, if_pos hlk]
          · rw [if_neg hlk, if_neg hlk]

@[simp] theorem get?_insert_self (key : String) (value : α) (ms : Keyed α) :
    get? (insert key value ms) key = some value := by
  rw [get?_insert, if_pos rfl]

theorem get?_insert_of_ne {key k : String} (h : key ≠ k) (value : α) (ms : Keyed α) :
    get? (insert key value ms) k = get? ms k := by
  rw [get?_insert, if_neg h]

/-- What is looked up is there. -/
theorem mem_of_get? {ms : Keyed α} {key : String} {v : α} (h : get? ms key = some v) :
    (key, v) ∈ ms := by
  induction ms with
  | nil => cases h
  | cons m rest ih =>
      obtain ⟨k, w⟩ := m
      rw [get?_cons] at h
      by_cases hk : k = key
      · rw [if_pos hk] at h
        cases h
        rw [hk]
        exact List.mem_cons_self
      · rw [if_neg hk] at h
        exact List.mem_cons_of_mem _ (ih h)

/-- A key without a value is none of the keys. -/
theorem get?_eq_none_iff (ms : Keyed α) (key : String) : get? ms key = none ↔ key ∉ keys ms := by
  induction ms with
  | nil => simp [get?, keys]
  | cons m rest ih =>
      obtain ⟨k, v⟩ := m
      rw [get?_cons]
      by_cases hk : k = key
      · simp [keys, hk]
      · rw [if_neg hk, ih]
        simp [keys, Ne.symm hk]

/-- Setting a key adds at most this key. -/
theorem mem_keys_insert {key k : String} {value : α} {ms : Keyed α} :
    k ∈ keys (insert key value ms) ↔ k = key ∨ k ∈ keys ms := by
  rw [← not_iff_not, ← get?_eq_none_iff, get?_insert, not_or, ← get?_eq_none_iff]
  by_cases hk : key = k
  · simp [hk]
  · simp [hk, Ne.symm hk]

/-- Changing the values changes what is looked up. -/
theorem get?_map {β : Type} (g : α → β) (ms : Keyed α) (key : String) :
    get? (ms.map fun m => (m.1, g m.2)) key = (get? ms key).map g := by
  induction ms with
  | nil => rfl
  | cons m rest ih =>
      obtain ⟨k, v⟩ := m
      rw [List.map_cons, get?_cons, get?_cons, ih]
      by_cases hk : k = key
      · rw [if_pos hk, if_pos hk, Option.map_some]
      · rw [if_neg hk, if_neg hk]

/-! ## Lists of pairs in any order -/

theorem ofList_concat (ps : List (String × α)) (p : String × α) :
    ofList (ps ++ [p]) = insert p.1 p.2 (ofList ps) := by
  rw [ofList, List.foldl_append]
  rfl

def last? (ps : List (String × α)) (key : String) : Option α := get? ps.reverse key

theorem last?_concat (ps : List (String × α)) (p : String × α) (key : String) :
    last? (ps ++ [p]) key = if p.1 = key then some p.2 else last? ps key := by
  rw [last?, List.reverse_append]
  rfl

/-- Changing the values changes what the last pair has. -/
theorem last?_map {β : Type} (g : α → β) (ps : List (String × α)) (key : String) :
    last? (ps.map fun p => (p.1, g p.2)) key = (last? ps key).map g := by
  rw [last?, ← List.map_reverse]
  exact get?_map g ps.reverse key

/-- The last pair with a key counts, whatever stands before it. -/
theorem last?_append_cons {front back : List (String × α)} {key : String} (value : α)
    (h : ∀ p ∈ back, p.1 ≠ key) : last? (front ++ (key, value) :: back) key = some value := by
  induction back using List.reverseRecOn with
  | nil => rw [last?_concat, if_pos rfl]
  | append_singleton back p ih =>
      have hp : p.1 ≠ key := h p (by simp)
      rw [← List.cons_append, ← List.append_assoc, last?_concat, if_neg hp]
      exact ih fun q hq => h q (List.mem_append_left _ hq)

/-- A key is nowhere in a list exactly if it has no last pair. -/
theorem last?_eq_none_iff {ps : List (String × α)} {key : String} :
    last? ps key = none ↔ ∀ p ∈ ps, p.1 ≠ key := by
  rw [last?, get?_eq_none_iff, keys, List.map_reverse, List.mem_reverse, List.mem_map]
  push Not
  rfl

/-- **Of the pairs with one key the last one is looked up.** -/
theorem get?_ofList (ps : List (String × α)) (key : String) :
    get? (ofList ps) key = last? ps key := by
  induction ps using List.reverseRecOn with
  | nil => rfl
  | append_singleton ps p ih => rw [ofList_concat, get?_insert, last?_concat, ih]

/-- A pair is looked up, if no other pair of the list has its key. -/
theorem get?_ofList_of_mem {ps : List (String × α)} {k : String} {v : α} (h : (k, v) ∈ ps)
    (huniq : ∀ v', (k, v') ∈ ps → v' = v) : get? (ofList ps) k = some v := by
  rw [get?_ofList]
  cases hlast : last? ps k with
  | none => exact absurd rfl (last?_eq_none_iff.mp hlast (k, v) h)
  | some w => rw [huniq w (List.mem_reverse.mp (mem_of_get? hlast))]

/-- A key that no pair of the list has is not found. -/
theorem get?_ofList_of_notMem {ps : List (String × α)} {k : String} (h : ∀ v, (k, v) ∉ ps) :
    get? (ofList ps) k = none := by
  rw [get?_ofList, last?_eq_none_iff]
  rintro p hp rfl
  exact h p.2 hp

/-! ## Pairs -/

/-- Setting a key that has no value adds one pair and changes no other. -/
theorem insert_perm {key : String} {ms : Keyed α} (value : α) (h : get? ms key = none) :
    (insert key value ms).Perm ((key, value) :: ms) := by
  induction ms with
  | nil => exact List.Perm.refl _
  | cons m rest ih =>
      obtain ⟨k, v⟩ := m
      rw [get?_cons] at h
      have hne : k ≠ key := by
        intro hk
        rw [if_pos hk] at h
        cases h
      rw [if_neg hne] at h
      rw [insert, if_neg (Ne.symm hne)]
      by_cases hlt : key < k
      · rw [if_pos hlt]
      · rw [if_neg hlt]
        exact ((ih h).cons (k, v)).trans (List.Perm.swap _ _ _)

end FabricAudit.Keyed

namespace FabricAudit.Text

/-! ## Sorted sets -/

theorem mem_insertOnce {a s : String} {ts : List String} :
    a ∈ insertOnce s ts ↔ a = s ∨ a ∈ ts := by
  induction ts with
  | nil => simp [insertOnce]
  | cons t rest ih =>
      rw [insertOnce]
      by_cases hst : s = t
      · rw [if_pos hst, List.mem_cons, hst]
        exact ⟨Or.inr, fun h => h.elim Or.inl id⟩
      · rw [if_neg hst]
        by_cases hlt : s < t
        · rw [if_pos hlt, List.mem_cons]
        · rw [if_neg hlt, List.mem_cons, ih, List.mem_cons, or_left_comm]

/-- The sorted set of a list has its texts, and no other. -/
theorem mem_sortedSet {a : String} {ss : List String} : a ∈ sortedSet ss ↔ a ∈ ss := by
  induction ss with
  | nil => rfl
  | cons s rest ih =>
      have hcons : sortedSet (s :: rest) = insertOnce s (sortedSet rest) := rfl
      rw [hcons, mem_insertOnce, ih, List.mem_cons]

theorem pairwise_insertOnce {s : String} {ts : List String} (h : ts.Pairwise (· < ·)) :
    (insertOnce s ts).Pairwise (· < ·) := by
  induction ts with
  | nil => exact List.pairwise_singleton _ _
  | cons t rest ih =>
      obtain ⟨ht, hrest⟩ := List.pairwise_cons.mp h
      rw [insertOnce]
      split_ifs with heq hlt
      · exact h
      · refine List.pairwise_cons.mpr ⟨fun u hu => ?_, h⟩
        rcases List.mem_cons.mp hu with rfl | hu
        · exact hlt
        · exact hlt.trans (ht u hu)
      · have hgt : t < s := lt_of_le_of_ne (not_lt.mp hlt) (Ne.symm heq)
        refine List.pairwise_cons.mpr ⟨fun u hu => ?_, ih hrest⟩
        rcases mem_insertOnce.mp hu with rfl | hu
        · exact hgt
        · exact ht u hu

/-- A sorted set ascends, so it has no text twice. -/
theorem pairwise_sortedSet (ss : List String) : (sortedSet ss).Pairwise (· < ·) := by
  induction ss with
  | nil => exact List.Pairwise.nil
  | cons s rest ih => exact pairwise_insertOnce ih

/-- **A sorted set is shorter than its list, unless no text is repeated.** -/
theorem length_sortedSet_eq_iff {ss : List String} :
    (sortedSet ss).length = ss.length ↔ ss.Nodup := by
  have hnodup : (sortedSet ss).Nodup := (pairwise_sortedSet ss).imp ne_of_lt
  have hperm : (sortedSet ss).Perm ss.dedup :=
    (List.perm_ext_iff_of_nodup hnodup ss.nodup_dedup).mpr fun a => by
      rw [mem_sortedSet, List.mem_dedup]
  rw [hperm.length_eq, ← List.dedup_eq_self]
  exact ⟨(List.dedup_sublist ss).eq_of_length, congrArg List.length⟩

/-- **Sorted sets are told by their texts.** -/
theorem sortedSet_congr {ss ts : List String} (h : ∀ a, a ∈ ss ↔ a ∈ ts) :
    sortedSet ss = sortedSet ts :=
  (pairwise_sortedSet ss).eq_of_mem_iff (pairwise_sortedSet ts) fun a => by
    rw [mem_sortedSet, mem_sortedSet, h]

end FabricAudit.Text
