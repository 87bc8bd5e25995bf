import FabricAudit.Proofs.Document.Path
import FabricAudit.Proofs.Drift.Comparison

set_option autoImplicit false

/-! # The difference as a patch

As long as no key holds a dot and no outermost key is empty, the entries of a difference can be
carried out one after the other (`Difference.apply`), and what they make of the old object is the
new one. Each entry tells what stands at its path on either side, and no path comes twice
(`between_isPatch`).

The induction goes along the objects of the old side. What it carries is said of one key of an
object: the entries under the key turn its value to the new one and leave the other keys alone
(`TurnsKey`). The step from the keys of an object to the object itself is `isPatchAt_ofMembers`, the
step from an object to its key in the object around it is `IsPatchAt.turnsKey`.
-/

namespace FabricAudit.Difference

open Document (KeysAscend SameValue)

/-! ## Carrying out a difference -/

/-- The keys that lead to the value that a difference is about. -/
def steps (d : Difference) : List String := Text.splitAt '.' d.path

/-- What a difference leaves at its path: the new value, or nothing if the value was removed. -/
def left (d : Difference) : Option Document :=
  match d.kind with
  | .removed => none
  | .added | .changed => d.new

/-- Carries out a difference: sets the value at its path, or drops the key there. -/
def apply (doc : Document) (d : Difference) : Document := doc.edit d.left d.steps

/-- Carries out a difference on the object that its first `depth` steps lead to. -/
def applyBelow (depth : Nat) (doc : Document) (d : Difference) : Document :=
  doc.edit d.left (d.steps.drop depth)

/-- There is an object on both sides. -/
def BetweenObjects (d : Difference) : Prop :=
  ∃ ms ns, d.old = some (.object ms) ∧ d.new = some (.object ns)

/-- **The differences are a patch** from an old document to a new one. -/
structure IsPatch (ds : List Difference) (old new : Document) : Prop where
  /-- No path comes twice. -/
  distinct : (ds.map path).Nodup
  /-- What stands at the path of an entry on the old side is its old value, where null is none. -/
  old_eq : ∀ d ∈ ds, old.resolve d.path = d.old.filter fun v => !v.isNull
  /-- What stands at the path of an entry on the new side is its new value, where null is none. -/
  new_eq : ∀ d ∈ ds, new.resolve d.path = d.new.filter fun v => !v.isNull
  /-- Two objects are never a change: they are walked. -/
  walked : ∀ d ∈ ds, d.kind = .changed → ¬ d.BetweenObjects
  /-- Carried out one after the other, they make the new document out of the old one. -/
  patched : (ds.foldl apply old).same new = true

/-! ## One key of an object -/

/-- The steps of a difference lead through the object at the end of `ks` to one of its keys, and
`rest` leads on from the values of the key before and after to those of the difference. -/
structure Tells (d : Difference) (ks : List String) (key : String) (rest : List String)
    (old new : Option Document) : Prop where
  steps_eq : d.steps = ks ++ key :: rest
  old_eq : old.bind (·.walk rest) = d.old
  new_eq : new.bind (·.walk rest) = d.new
  walked : d.kind = .changed → ¬ d.BetweenObjects

/-- The members `cur'` have the value `new` of a key, and of every other key the value that it has
in `cur`. -/
structure Turned (key : String) (new : Option Document) (cur cur' : Members) : Prop where
  ascend : KeysAscend cur'
  value : SameValue (Keyed.get? cur' key) new
  others : ∀ k, k ≠ key → Keyed.get? cur' k = Keyed.get? cur k

/-- **The differences are about one key** of the object at the end of the steps `ks`, and turn its
value from `old` to `new`. -/
structure TurnsKey (ds : List Difference) (ks : List String) (key : String)
    (old new : Option Document) : Prop where
  tells : ∀ d ∈ ds, ∃ rest, d.Tells ks key rest old new
  distinct : (ds.map path).Nodup
  turned : ∀ cur : Members, KeysAscend cur → Keyed.get? cur key = old →
    ∃ cur', ds.foldl (applyBelow ks.length) (.object cur) = .object cur' ∧
      Turned key new cur cur'

/-- The differences are a patch from one object to another, which stand at the end of the steps
`ks`. -/
structure IsPatchAt (ds : List Difference) (ks : List String) (ms ns : Members) : Prop where
  tells : ∀ d ∈ ds, ∃ key rest, d.Tells ks key rest (Keyed.get? ms key) (Keyed.get? ns key)
  distinct : (ds.map path).Nodup
  patched : (ds.foldl (applyBelow ks.length) (.object ms)).same (.object ns) = true

variable {ds : List Difference} {d : Difference} {ks : List String} {key : String}

/-- What steps lead to can be written below any part of them. -/
theorem applyBelow_of_steps {depth : Nat} {rest : List String} (h : d.steps = ks ++ rest)
    (hdepth : ks.length = depth) (doc : Document) :
    applyBelow depth doc d = doc.edit d.left rest := by
  rw [applyBelow, h, ← hdepth, List.drop_left]

/-- A key whose value is the same before and after needs no entry. -/
theorem turnsKey_nil {old new : Option Document} (h : SameValue old new) :
    TurnsKey [] ks key old new := by
  refine ⟨nofun, List.nodup_nil, fun cur hcur hold => ⟨cur, rfl, hcur, ?_, fun _ _ => rfl⟩⟩
  rw [hold]
  exact h

/-- One entry for the key itself turns its value. -/
theorem turnsKey_singleton (hsteps : d.steps = ks ++ [key]) (hleft : d.left = d.new)
    (hwalked : d.kind = .changed → ¬ d.BetweenObjects) :
    TurnsKey [d] ks key d.old d.new := by
  refine ⟨fun e he => ?_, List.nodup_singleton _, fun cur hcur _ => ?_⟩
  · obtain rfl := List.mem_singleton.mp he
    have hwalk : ∀ v : Option Document, v.bind (·.walk []) = v := fun v => by cases v <;> rfl
    exact ⟨[], hsteps, hwalk _, hwalk _, hwalked⟩
  · refine ⟨Keyed.put key d.new cur, ?_, hcur.put key d.new, ?_, fun k hk => ?_⟩
    · rw [List.foldl_cons, List.foldl_nil, applyBelow_of_steps hsteps rfl, hleft,
        Document.edit_singleton]
    · rw [Keyed.get?_put, if_pos rfl]
      exact .refl _
    · rw [Keyed.get?_put, if_neg (Ne.symm hk)]

/-- Entries that lead on from the value of a key change that value, and nothing else. -/
theorem foldl_applyBelow_of_steps
    (hsteps : ∀ d ∈ ds, ∃ k rest, d.steps = (ks ++ [key]) ++ k :: rest) :
    ∀ {cur : Members} {x : Document}, KeysAscend cur → Keyed.get? cur key = some x →
      ∃ cur', ds.foldl (applyBelow ks.length) (.object cur) = .object cur' ∧ KeysAscend cur' ∧
        Keyed.get? cur' key = some (ds.foldl (applyBelow (ks ++ [key]).length) x) ∧
        ∀ k, k ≠ key → Keyed.get? cur' k = Keyed.get? cur k := by
  induction ds with
  | nil => exact fun {cur x} hcur hx => ⟨cur, rfl, hcur, hx, fun _ _ => rfl⟩
  | cons d ds ih =>
      intro cur x hcur hx
      obtain ⟨k, rest, hd⟩ := hsteps d List.mem_cons_self
      have hd' : d.steps = ks ++ key :: k :: rest := by
        rw [hd, List.append_assoc, List.singleton_append]
      -- the entry writes into the value of the key, from where the other entries go on
      have hstep : applyBelow ks.length (.object cur) d
          = .object (Keyed.insert key (applyBelow (ks ++ [key]).length x d) cur) := by
        rw [applyBelow_of_steps hd' rfl, Document.edit_cons (List.cons_ne_nil _ _) hx,
          applyBelow_of_steps hd rfl]
      obtain ⟨cur', hfold, hcur', hvalue, hothers⟩ :=
        ih (fun e he => hsteps e (List.mem_cons_of_mem _ he))
          (hcur.insert key (applyBelow (ks ++ [key]).length x d)) (Keyed.get?_insert_self _ _ _)
      refine ⟨cur', ?_, hcur', hvalue, fun l hl => ?_⟩
      · rw [List.foldl_cons, hstep, hfold]
      · rw [hothers l hl, Keyed.get?_insert_of_ne (Ne.symm hl)]

/-- **A patch of an object, seen from the object around it**: the key of the object turns. -/
theorem IsPatchAt.turnsKey {ms ns : Members} (h : IsPatchAt ds (ks ++ [key]) ms ns) :
    TurnsKey ds ks key (some (.object ms)) (some (.object ns)) := by
  refine ⟨fun d hd => ?_, h.distinct, fun cur hcur hx => ?_⟩
  · obtain ⟨k, rest, hk⟩ := h.tells d hd
    refine ⟨k :: rest, ?_, hk.old_eq, hk.new_eq, hk.walked⟩
    rw [hk.steps_eq, List.append_assoc, List.singleton_append]
  · have hsteps : ∀ d ∈ ds, ∃ k rest, d.steps = (ks ++ [key]) ++ k :: rest := fun d hd => by
      obtain ⟨k, rest, hk⟩ := h.tells d hd
      exact ⟨k, rest, hk.steps_eq⟩
    obtain ⟨cur', hfold, hcur', hvalue, hothers⟩ := foldl_applyBelow_of_steps hsteps hcur hx
    refine ⟨cur', hfold, hcur', ?_, hothers⟩
    rw [hvalue]
    exact .some h.patched

/-! ## All keys of an object -/

section Keys

variable {ms ns : Members} {entries : String → List Difference}

/-- What the entries of some keys make of members that have the old values of these keys. -/
theorem foldl_flatMap_turned {keys : List String} (hnodup : keys.Nodup)
    (h : ∀ key ∈ keys, TurnsKey (entries key) ks key (Keyed.get? ms key) (Keyed.get? ns key)) :
    ∀ {cur : Members}, KeysAscend cur →
      (∀ key ∈ keys, Keyed.get? cur key = Keyed.get? ms key) →
      ∃ cur', (keys.flatMap entries).foldl (applyBelow ks.length) (.object cur) = .object cur' ∧
        KeysAscend cur' ∧
        (∀ key ∈ keys, SameValue (Keyed.get? cur' key) (Keyed.get? ns key)) ∧
        ∀ k, k ∉ keys → Keyed.get? cur' k = Keyed.get? cur k := by
  induction keys with
  | nil => exact fun {cur} hcur _ => ⟨cur, rfl, hcur, nofun, fun _ _ => rfl⟩
  | cons key keys ih =>
      intro cur hcur hold
      obtain ⟨hkey, hnodup⟩ := List.nodup_cons.mp hnodup
      obtain ⟨cur₁, hfold₁, hturned⟩ := (h key List.mem_cons_self).turned cur hcur
        (hold key List.mem_cons_self)
      -- the other keys still have their old values
      have hold₁ : ∀ k ∈ keys, Keyed.get? cur₁ k = Keyed.get? ms k := fun k hk => by
        rw [hturned.others k (fun he => hkey (he ▸ hk)), hold k (List.mem_cons_of_mem _ hk)]
      obtain ⟨cur₂, hfold₂, hcur₂, hvalues, hothers⟩ :=
        ih hnodup (fun k hk => h k (List.mem_cons_of_mem _ hk)) hturned.ascend hold₁
      refine ⟨cur₂, ?_, hcur₂, fun k hk => ?_, fun k hk => ?_⟩
      · rw [List.flatMap_cons, List.foldl_append, hfold₁, hfold₂]
      · rcases List.mem_cons.mp hk with rfl | hk
        · rw [hothers k hkey]
          exact hturned.value
        · exact hvalues k hk
      · rw [List.mem_cons, not_or] at hk
        rw [hothers k hk.2, hturned.others k hk.1]

/-- Entries about different keys have different paths. -/
theorem nodup_flatMap_paths {keys : List String} (hnodup : keys.Nodup)
    (h : ∀ key ∈ keys, TurnsKey (entries key) ks key (Keyed.get? ms key) (Keyed.get? ns key)) :
    ((keys.flatMap entries).map path).Nodup := by
  rw [List.map_flatMap, List.nodup_flatMap]
  refine ⟨fun key hkey => (h key hkey).distinct, hnodup.imp_of_mem fun {k l} hk hl hne => ?_⟩
  intro p hp hp'
  obtain ⟨d, hd, rfl⟩ := List.mem_map.mp hp
  obtain ⟨e, he, hpath⟩ := List.mem_map.mp hp'
  obtain ⟨rest, hd⟩ := (h k hk).tells d hd
  obtain ⟨rest', he⟩ := (h l hl).tells e he
  -- one path, so the same steps, of which the one after `ks` is the key
  have hsteps : ks ++ k :: rest = ks ++ l :: rest' := by
    rw [← hd.steps_eq, ← he.steps_eq, steps, steps, hpath]
  exact hne (List.cons.inj (List.append_cancel_left hsteps)).1

/-- **A patch of an object is made of patches of its keys.** -/
theorem isPatchAt_ofMembers {path : String} (hms : KeysAscend ms) (hns : KeysAscend ns)
    (h : ∀ key ∈ unionKeys ms ns, TurnsKey
      (entriesFor (under path key) (Keyed.get? ms key) (Keyed.get? ns key)) ks key
      (Keyed.get? ms key) (Keyed.get? ns key)) :
    IsPatchAt (ofMembers path ms ns) ks ms ns := by
  have hnodup : (unionKeys ms ns).Nodup :=
    (Text.pairwise_sortedSet _).imp fun hlt => ne_of_lt hlt
  rw [ofMembers_eq_flatMap]
  refine ⟨fun d hd => ?_, nodup_flatMap_paths hnodup h, ?_⟩
  · obtain ⟨key, hkey, hd⟩ := List.mem_flatMap.mp hd
    exact ⟨key, (h key hkey).tells d hd⟩
  · obtain ⟨cur, hfold, hcur, hvalues, hothers⟩ := foldl_flatMap_turned hnodup h hms fun _ _ => rfl
    rw [hfold]
    refine (Document.sameMembers_iff_get? hcur hns).mpr fun key => ?_
    by_cases hkey : key ∈ unionKeys ms ns
    · exact hvalues key hkey
    · -- a key that is on neither side
      rw [hothers key hkey]
      rw [mem_unionKeys, not_or, Ne, Ne, Classical.not_not, Classical.not_not] at hkey
      rw [hkey.1, hkey.2]
      exact .none

end Keys

/-! ## Whole objects -/

/-- Values that are not both objects turn by one entry, unless they are the same. -/
theorem turnsKey_ofValues_of_members?_eq_none {path : String} {x y : Document}
    (h : x.members? = none ∨ y.members? = none) (hsteps : Text.splitAt '.' path = ks ++ [key]) :
    TurnsKey (ofValues path x y) ks key (some x) (some y) := by
  rw [ofValues_of_members?_eq_none h]
  split_ifs with hsame
  · exact turnsKey_nil (.some hsame)
  · refine turnsKey_singleton (d := ⟨path, .changed, some x, some y⟩) hsteps rfl ?_
    rintro - ⟨ms, ns, hx, hy⟩
    cases hx
    cases hy
    rcases h with h | h <;> cases h

/-- The entries under a key turn it, if those between two values of it do. -/
theorem turnsKey_entriesFor {path : String} {old new : Option Document}
    (hsteps : Text.splitAt '.' path = ks ++ [key])
    (h : ∀ x y, old = some x → new = some y →
      TurnsKey (ofValues path x y) ks key (some x) (some y)) :
    TurnsKey (entriesFor path old new) ks key old new := by
  cases old with
  | none =>
      cases new with
      | none => exact turnsKey_nil .none
      | some y => exact turnsKey_singleton (d := ⟨path, .added, none, some y⟩) hsteps rfl nofun
  | some x =>
      cases new with
      | none => exact turnsKey_singleton (d := ⟨path, .removed, some x, none⟩) hsteps rfl nofun
      | some y => exact h x y rfl rfl

/-- The keys of a sorted object without dots, on either side of a difference. -/
theorem not_dot_mem_of_mem_unionKeys {ms ns : Members} (hms : (Document.object ms).DotFree)
    (hns : (Document.object ns).DotFree) (hkey : key ∈ unionKeys ms ns) : '.' ∉ key.toList := by
  rcases mem_unionKeys.mp hkey with h | h
  · obtain ⟨d, hd⟩ := Option.ne_none_iff_exists'.mp h
    exact (hms.of_get? hd).1
  · obtain ⟨d, hd⟩ := Option.ne_none_iff_exists'.mp h
    exact (hns.of_get? hd).1

/-- **The entries between two values turn the key that has them.** -/
theorem turnsKey_ofValues {x y : Document} (hx : x.Sorted) (hy : y.Sorted) (hdx : x.DotFree)
    (hdy : y.DotFree) {path : String} (hpath : path ≠ "")
    (hsteps : Text.splitAt '.' path = ks ++ [key]) :
    TurnsKey (ofValues path x y) ks key (some x) (some y) := by
  induction x using Document.objectInduction generalizing path ks key y with
  | leaf x h => exact turnsKey_ofValues_of_members?_eq_none (.inl h) hsteps
  | object ms ih =>
      rcases h : y.members? with _ | ns
      · exact turnsKey_ofValues_of_members?_eq_none (.inr h) hsteps
      · obtain rfl := Document.members?_eq_some_iff.mp h
        -- two objects: their keys stand one step further down
        refine IsPatchAt.turnsKey (isPatchAt_ofMembers hx.keysAscend hy.keysAscend ?_)
        intro k hk
        have hunder : under path k = path ++ "." ++ k := if_neg hpath
        have hsplit : Text.splitAt '.' (under path k) = (ks ++ [key]) ++ [k] := by
          rw [hunder, Text.splitAt_append_dot path (not_dot_mem_of_mem_unionKeys hdx hdy hk),
            hsteps]
        have hne : under path k ≠ "" := by
          rw [hunder]
          simp
        refine turnsKey_entriesFor hsplit fun x y hget hget' => ?_
        exact ih k x hget (hx.of_get? hget) (hy.of_get? hget') (hdx.of_get? hget).2
          (hdy.of_get? hget').2 hne hsplit

/-- **The difference of two objects is a patch**, if no key holds a dot and no outermost key is
empty: its entries have different paths, tell what stands there on either side, and make the new
object out of the old one. -/
theorem between_isPatch (old new : Members) (hold : (Document.object old).Sorted)
    (hnew : (Document.object new).Sorted) (hdold : (Document.object old).DotFree)
    (hdnew : (Document.object new).DotFree) (heold : "" ∉ Keyed.keys old)
    (henew : "" ∉ Keyed.keys new) :
    IsPatch (between (.object old) (.object new)) (.object old) (.object new) := by
  have hpatch : IsPatchAt (ofMembers "" old new) [] old new := by
    refine isPatchAt_ofMembers hold.keysAscend hnew.keysAscend fun key hkey => ?_
    -- an outermost key is a path as it stands, so it must not be empty
    have hunder : under "" key = key := if_pos rfl
    have hsplit : Text.splitAt '.' key = [] ++ [key] :=
      Text.splitAt_eq_singleton (not_dot_mem_of_mem_unionKeys hdold hdnew hkey)
    have hne : key ≠ "" := by
      rintro rfl
      rw [mem_unionKeys, Ne, Ne, Keyed.get?_eq_none_iff, Keyed.get?_eq_none_iff] at hkey
      exact hkey.elim (· heold) (· henew)
    rw [hunder]
    refine turnsKey_entriesFor hsplit fun x y hx hy => ?_
    exact turnsKey_ofValues (hold.of_get? hx) (hnew.of_get? hy) (hdold.of_get? hx).2
      (hdnew.of_get? hy).2 hne hsplit
  refine ⟨hpatch.distinct, fun d hd => ?_, fun d hd => ?_, fun d hd => ?_, hpatch.patched⟩
  · obtain ⟨key, rest, h⟩ := hpatch.tells d hd
    rw [Document.resolve_eq, ← h.old_eq]
    exact congrArg (fun p => ((Document.object old).walk p).filter _) h.steps_eq
  · obtain ⟨key, rest, h⟩ := hpatch.tells d hd
    rw [Document.resolve_eq, ← h.new_eq]
    exact congrArg (fun p => ((Document.object new).walk p).filter _) h.steps_eq
  · obtain ⟨key, rest, h⟩ := hpatch.tells d hd
    exact h.walked

/-- A key inside an object goes, an object comes, and another one gives way to a number. -/
theorem between_isPatch_nested :
    let old : Members := [("bgp", .object [("asn", .int 1), ("peer", .null)]), ("mtu", .object [])]
    let new : Members := [("bgp", .object [("asn", .int 1)]), ("lag", .object []), ("mtu", .int 9)]
    (Document.object old).Sorted ∧ (Document.object new).Sorted ∧ (Document.object old).DotFree ∧
      (Document.object new).DotFree ∧ "" ∉ Keyed.keys old ∧ "" ∉ Keyed.keys new ∧
      IsPatch (between (.object old) (.object new)) (.object old) (.object new) ∧
      (between (.object old) (.object new)).map path = ["bgp.peer", "lag", "mtu"] := by
  intro old new
  have hold : (Document.object old).Sorted := by
    simp [old, Document.Sorted, Document.SortedMembers, KeysAscend, -String.lt_iff_ltb]
  have hnew : (Document.object new).Sorted := by
    simp [new, Document.Sorted, Document.SortedMembers, KeysAscend, -String.lt_iff_ltb]
  have hdold : (Document.object old).DotFree := by
    simp [old, Document.DotFree, Document.DotFreeMembers]
  have hdnew : (Document.object new).DotFree := by
    simp [new, Document.DotFree, Document.DotFreeMembers]
  have heold : "" ∉ Keyed.keys old := by decide
  have henew : "" ∉ Keyed.keys new := by decide
  exact ⟨hold, hnew, hdold, hdnew, heold, henew,
    between_isPatch old new hold hnew hdold hdnew heold henew, by decide⟩

end FabricAudit.Difference
