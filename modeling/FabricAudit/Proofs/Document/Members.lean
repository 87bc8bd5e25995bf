import FabricAudit.Proofs.Document.Same
import FabricAudit.Proofs.Text.Keyed

set_option autoImplicit false

/-! # Members in order

The members of an object stand in the order of their keys, so they are told by what is looked up in
them: two lists of members are the same exactly if every key has the same value in both
(`Document.sameMembers_iff_get?`). Setting and removing a key keep the order, and pairs with
different keys make the same members in whatever order they come (`Keyed.ofList_perm`).
-/

namespace FabricAudit

namespace Keyed

variable {α : Type}

def erase (key : String) (ms : Keyed α) : Keyed α := ms.filter fun m => m.1 ≠ key

/-- **Looking up after dropping a key**: the key has no value, every other key what it had. -/
theorem get?_erase (key : String) (ms : Keyed α) (k : String) :
    get? (erase key ms) k = if key = k then none else get? ms k := by
  induction ms with
  | nil => simp [erase, get?]
  | cons m rest ih =>
      obtain ⟨l, v⟩ := m
      rw [erase] at ih ⊢
      by_cases hl : l = key
      · -- the first pair goes, and `k` is found behind it unless it is the key itself
        rw [List.filter_cons_of_neg (by simpa using hl), ih, get?_cons]
        by_cases hk : key = k
        · rw [if_pos hk, if_pos hk]
        · rw [if_neg hk, if_neg hk, if_neg (fun h => hk (hl.symm.trans h))]
      · rw [List.filter_cons_of_pos (by simpa using hl), get?_cons, get?_cons, ih]
        by_cases hlk : l = k
        · rw [if_pos hlk, if_pos hlk, if_neg (fun h => hl (hlk.trans h.symm))]
        · rw [if_neg hlk, if_neg hlk]

/-- Sets the value of a key, or drops the key if there is no value. -/
def put (key : String) : Option α → Keyed α → Keyed α
  | some value => insert key value
  | none => erase key

/-- **Looking up after putting**: the key has what was put, every other key what it had. -/
theorem get?_put (key : String) (value : Option α) (ms : Keyed α) (k : String) :
    get? (put key value ms) k = if key = k then value else get? ms k := by
  cases value with
  | none => exact get?_erase key ms k
  | some v => exact get?_insert key v ms k

/-- In ascending order no key has two pairs, so every pair is the one that is looked up. -/
theorem get?_eq_some_iff {ms : Keyed α} (h : ms.Pairwise fun m n => m.1 < n.1) {key : String}
    {v : α} : get? ms key = some v ↔ (key, v) ∈ ms := by
  refine ⟨mem_of_get?, fun hmem => ?_⟩
  induction ms with
  | nil => cases hmem
  | cons m rest ih =>
      obtain ⟨k, w⟩ := m
      obtain ⟨hk, hrest⟩ := List.pairwise_cons.mp h
      rw [get?_cons]
      rcases List.mem_cons.mp hmem with hhere | hmem
      · cases hhere
        rw [if_pos rfl]
      · rw [if_neg (ne_of_lt (hk _ hmem)), ih hrest hmem]

/-- **Pairs in ascending order are told by what is looked up in them.** -/
theorem eq_of_get?_eq {ms ns : Keyed α} (hms : ms.Pairwise fun m n => m.1 < n.1)
    (hns : ns.Pairwise fun m n => m.1 < n.1) (h : ∀ key, get? ms key = get? ns key) : ms = ns := by
  have : Std.Asymm fun m n : String × α => m.1 < n.1 := ⟨fun _ _ hlt => not_lt_of_gt hlt⟩
  refine hms.eq_of_mem_iff hns fun m => ?_
  rw [← get?_eq_some_iff hms, ← get?_eq_some_iff hns, h]

theorem mem_insert {key : String} {value : α} {ms : Keyed α} {m : String × α}
    (h : m ∈ insert key value ms) : m = (key, value) ∨ m ∈ ms := by
  induction ms with
  | nil => exact Or.inl (List.mem_singleton.mp h)
  | cons n rest ih =>
      obtain ⟨k, v⟩ := n
      rw [insert] at h
      split_ifs at h with hk hlt
      · exact (List.mem_cons.mp h).imp_right (List.mem_cons_of_mem _)
      · exact List.mem_cons.mp h
      · rcases List.mem_cons.mp h with rfl | h
        · exact Or.inr List.mem_cons_self
        · exact (ih h).imp_right (List.mem_cons_of_mem _)

/-- **Setting a key keeps the keys in ascending order.** -/
theorem pairwise_insert {ms : Keyed α} (key : String) (value : α)
    (h : ms.Pairwise fun m n => m.1 < n.1) :
    (insert key value ms).Pairwise fun m n => m.1 < n.1 := by
  induction ms with
  | nil => exact List.pairwise_singleton _ _
  | cons m rest ih =>
      obtain ⟨k, v⟩ := m
      obtain ⟨hk, hrest⟩ := List.pairwise_cons.mp h
      rw [insert]
      split_ifs with heq hlt
      · subst heq
        exact List.pairwise_cons.mpr ⟨hk, hrest⟩
      · refine List.pairwise_cons.mpr ⟨fun m hm => ?_, h⟩
        rcases List.mem_cons.mp hm with rfl | hm
        · exact hlt
        · exact hlt.trans (hk m hm)
      · -- the new pair goes behind this one, so its key is the greater one
        have hgt : k < key := lt_of_le_of_ne (not_lt.mp hlt) (Ne.symm heq)
        refine List.pairwise_cons.mpr ⟨fun m hm => ?_, ih hrest⟩
        rcases mem_insert hm with rfl | hm
        · exact hgt
        · exact hk m hm

/-- A key after all others is put at the end. -/
theorem insert_of_forall_lt {ms : Keyed α} {key : String} (value : α) (h : ∀ m ∈ ms, m.1 < key) :
    insert key value ms = ms ++ [(key, value)] := by
  induction ms with
  | nil => rfl
  | cons m rest ih =>
      obtain ⟨k, v⟩ := m
      obtain ⟨hk, hrest⟩ := List.forall_mem_cons.mp h
      rw [insert, if_neg (ne_of_gt hk), if_neg (not_lt.mpr (le_of_lt hk)), ih hrest]
      rfl

theorem pairwise_ofList (ps : List (String × α)) :
    (ofList ps).Pairwise fun m n => m.1 < n.1 := by
  induction ps using List.reverseRecOn with
  | nil => exact List.Pairwise.nil
  | append_singleton ps p ih =>
      rw [ofList_concat]
      exact pairwise_insert p.1 p.2 ih

theorem mem_of_mem_ofList {ps : List (String × α)} {m : String × α} (h : m ∈ ofList ps) :
    m ∈ ps := by
  induction ps using List.reverseRecOn with
  | nil => cases h
  | append_singleton ps p ih =>
      rw [ofList_concat] at h
      rcases mem_insert h with rfl | h
      · exact List.mem_append_right _ List.mem_cons_self
      · exact List.mem_append_left _ (ih h)

/-- Pairs that stand in the order of their keys are not moved. -/
theorem ofList_of_pairwise {ms : Keyed α} (h : ms.Pairwise fun m n => m.1 < n.1) :
    ofList ms = ms := by
  induction ms using List.reverseRecOn with
  | nil => rfl
  | append_singleton ms m ih =>
      obtain ⟨hms, -, hlt⟩ := List.pairwise_append.mp h
      rw [ofList_concat, ih hms, insert_of_forall_lt m.2 fun n hn => hlt n hn m List.mem_cons_self]

/-- Nor are those that only get other values. -/
theorem ofList_map_of_pairwise {β : Type} (g : α → β) {ms : Keyed α}
    (h : ms.Pairwise fun m n => m.1 < n.1) :
    ofList (ms.map fun m => (m.1, g m.2)) = ms.map fun m => (m.1, g m.2) :=
  ofList_of_pairwise (List.pairwise_map.mpr h)

/-- **The order of pairs does not count** as long as no key is there twice. -/
theorem ofList_perm {ps qs : List (String × α)} (h : ps.Perm qs) (hnodup : (ps.map (·.1)).Nodup) :
    ofList ps = ofList qs := by
  have hfind : ∀ {rs : List (String × α)}, ps.Perm rs → ∀ key,
      get? (ofList rs) key = get? (ofList ps) key := by
    intro rs hrs key
    by_cases hkey : ∃ v, (key, v) ∈ ps
    · obtain ⟨v, hv⟩ := hkey
      have huniq : ∀ v', (key, v') ∈ ps → v' = v := fun v' hv' =>
        congrArg Prod.snd (List.inj_on_of_nodup_map hnodup hv' hv rfl)
      rw [get?_ofList_of_mem hv huniq,
        get?_ofList_of_mem (hrs.mem_iff.mp hv) fun v' hv' => huniq v' (hrs.mem_iff.mpr hv')]
    · rw [not_exists] at hkey
      rw [get?_ofList_of_notMem hkey, get?_ofList_of_notMem fun v hv => hkey v (hrs.mem_iff.mpr hv)]
  refine eq_of_get?_eq (pairwise_ofList ps) (pairwise_ofList qs) fun key => ?_
  rw [hfind h key]

end Keyed

namespace Document

/-! ## Keys in ascending order -/

theorem keysAscend_iff {ms : List (String × Document)} :
    KeysAscend ms ↔ ms.Pairwise fun m n => m.1 < n.1 := by
  induction ms with
  | nil => simp [KeysAscend]
  | cons m rest ih =>
      obtain ⟨k, v⟩ := m
      rw [KeysAscend, List.pairwise_cons, ih]

theorem KeysAscend.insert {ms : Members} (key : String) (value : Document) (h : KeysAscend ms) :
    KeysAscend (Keyed.insert key value ms) :=
  keysAscend_iff.mpr (Keyed.pairwise_insert key value (keysAscend_iff.mp h))

theorem KeysAscend.erase {ms : Members} (key : String) (h : KeysAscend ms) :
    KeysAscend (Keyed.erase key ms) :=
  keysAscend_iff.mpr ((keysAscend_iff.mp h).filter _)

theorem KeysAscend.put {ms : Members} (key : String) (value : Option Document)
    (h : KeysAscend ms) : KeysAscend (Keyed.put key value ms) := by
  cases value with
  | none => exact h.erase key
  | some d => exact h.insert key d

theorem keysAscend_ofList (pairs : List (String × Document)) :
    KeysAscend (Keyed.ofList pairs) :=
  keysAscend_iff.mpr (Keyed.pairwise_ofList pairs)

/-- A key that all keys of a list are greater than has no value there. -/
theorem get?_eq_none_of_lt {ms : Members} {key : String} (h : ∀ m ∈ ms, key < m.1) :
    Keyed.get? ms key = none := by
  rw [Keyed.get?_eq_none_iff]
  intro hkey
  obtain ⟨m, hm, rfl⟩ := List.mem_map.mp hkey
  exact lt_irrefl _ (h m hm)

/-- A key before the first one has no value. -/
theorem KeysAscend.get?_eq_none {ms : Members} {k key : String} {x : Document}
    (h : KeysAscend ((k, x) :: ms)) (hlt : key < k) : Keyed.get? ((k, x) :: ms) key = none := by
  refine get?_eq_none_of_lt fun m hm => ?_
  rcases List.mem_cons.mp hm with rfl | hm
  · exact hlt
  · exact hlt.trans (h.1 m hm)

/-! ## Sameness, key by key -/

/-- There is no value on either side, or the same one on both. -/
abbrev SameValue : Option Document → Option Document → Prop :=
  Option.Rel fun x y => x.same y = true

theorem SameValue.refl : ∀ v : Option Document, SameValue v v
  | none => .none
  | some d => .some (same_refl d)

/-- **Members are the same** exactly if every key has the same value on both sides. -/
theorem sameMembers_iff_get? {ms ns : Members} (hms : KeysAscend ms) (hns : KeysAscend ns) :
    sameMembers ms ns = true ↔ ∀ key, SameValue (Keyed.get? ms key) (Keyed.get? ns key) := by
  induction ms generalizing ns with
  | nil =>
      cases ns with
      | nil => exact ⟨fun _ _ => .none, fun _ => rfl⟩
      | cons n ns =>
          obtain ⟨l, y⟩ := n
          refine ⟨nofun, fun h => ?_⟩
          have hl := h l
          rw [Keyed.get?_cons, if_pos rfl] at hl
          cases hl
  | cons m ms ih =>
      obtain ⟨k, x⟩ := m
      cases ns with
      | nil =>
          refine ⟨nofun, fun h => ?_⟩
          have hk := h k
          rw [Keyed.get?_cons, if_pos rfl] at hk
          cases hk
      | cons n ns =>
          obtain ⟨l, y⟩ := n
          have hstep : sameMembers ((k, x) :: ms) ((l, y) :: ns) = true ↔
              k = l ∧ x.same y = true ∧ sameMembers ms ns = true := by
            simp [sameMembers, and_assoc]
          rw [hstep, ih hms.2 hns.2]
          constructor
          · rintro ⟨rfl, hxy, hrest⟩ key
            rw [Keyed.get?_cons, Keyed.get?_cons]
            by_cases hkey : k = key
            · rw [if_pos hkey, if_pos hkey]
              exact .some hxy
            · rw [if_neg hkey, if_neg hkey]
              exact hrest key
          · intro h
            have hk := h k
            have hl := h l
            rw [Keyed.get?_cons, if_pos rfl] at hk
            rw [Keyed.get?_cons l y, if_pos rfl] at hl
            -- the lesser of two first keys would be missing on the other side
            rcases lt_trichotomy k l with hlt | rfl | hgt
            · rw [hns.get?_eq_none hlt] at hk
              cases hk
            · rw [Keyed.get?_cons, if_pos rfl] at hk
              cases hk with
              | some hxy =>
                  refine ⟨rfl, hxy, fun key => ?_⟩
                  by_cases hkey : k = key
                  · subst hkey
                    rw [get?_eq_none_of_lt hms.1, get?_eq_none_of_lt hns.1]
                    exact .none
                  · have hrest := h key
                    rwa [Keyed.get?_cons, if_neg hkey, Keyed.get?_cons, if_neg hkey] at hrest
            · rw [hms.get?_eq_none hgt] at hl
              cases hl

end Document

end FabricAudit
