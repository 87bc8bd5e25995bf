import FabricAudit.Proofs.Document.Redraft
import FabricAudit.Proofs.Drift.Comparison

set_option autoImplicit false

/-! # Differences in their document form

The document of a difference has a member for every side that there is, null or not, so nothing is
lost in writing (`get?_toDocument`). Reading takes a null for no value: a difference is read back
with its path, its kind and every side that is not null (`reader_toDocument`). So what is found
between two documents is read back unless one of its sides is null (`reader_of_mem_between`).
-/

namespace FabricAudit.Difference

/-! ## What is found -/

/-- The difference has the sides that its kind says it has, and they are sorted documents. -/
structure IsRegular (d : Difference) : Prop where
  old_isSome_iff : d.old.isSome = true ↔ d.kind ≠ .added
  new_isSome_iff : d.new.isSome = true ↔ d.kind ≠ .removed
  old_sorted : ∀ x, d.old = some x → x.Sorted
  new_sorted : ∀ x, d.new = some x → x.Sorted

theorem isRegular_changed {path : String} {x y : Document} (hx : x.Sorted) (hy : y.Sorted) :
    IsRegular ⟨path, .changed, some x, some y⟩ := by
  refine ⟨by simp, by simp, ?_, ?_⟩
  · intro z hz
    exact Option.some.inj hz ▸ hx
  · intro z hz
    exact Option.some.inj hz ▸ hy

/-- What is found under one key, if what is found between two values is regular. -/
theorem isRegular_of_mem_entriesFor {path : String} {old new : Option Document}
    (hold : ∀ x, old = some x → x.Sorted) (hnew : ∀ y, new = some y → y.Sorted)
    (hboth : ∀ x y, old = some x → new = some y → ∀ d ∈ ofValues path x y, d.IsRegular) :
    ∀ d ∈ entriesFor path old new, d.IsRegular := by
  intro d hd
  cases old with
  | none =>
      cases new with
      | none => cases hd
      | some y =>
          rw [List.mem_singleton.mp hd]
          exact ⟨by simp, by simp, nofun, hnew⟩
  | some x =>
      cases new with
      | none =>
          rw [List.mem_singleton.mp hd]
          exact ⟨by simp, by simp, hold, nofun⟩
      | some y => exact hboth x y rfl rfl d hd

/-- Values that are not both objects are compared as a whole. -/
theorem isRegular_of_members?_eq_none {path : String} {old new : Document} (hold : old.Sorted)
    (hnew : new.Sorted) (h : old.members? = none ∨ new.members? = none) :
    ∀ d ∈ ofValues path old new, d.IsRegular := by
  intro d hd
  rw [ofValues_of_members?_eq_none h] at hd
  split at hd
  · cases hd
  · rw [List.mem_singleton.mp hd]
    exact isRegular_changed hold hnew

/-- **Whatever is found between two sorted values is regular**, by induction along the objects of
the first one. -/
theorem isRegular_of_mem_ofValues {path : String} {old new : Document} (hold : old.Sorted)
    (hnew : new.Sorted) : ∀ d ∈ ofValues path old new, d.IsRegular := by
  induction old using Document.objectInduction generalizing path new with
  | leaf old h => exact isRegular_of_members?_eq_none hold hnew (.inl h)
  | object ms ih =>
      rcases h : new.members? with _ | ns
      · exact isRegular_of_members?_eq_none hold hnew (.inr h)
      · obtain rfl := Document.members?_eq_some_iff.mp h
        intro d hd
        change d ∈ ofMembers path ms ns at hd
        rw [ofMembers_eq_flatMap] at hd
        obtain ⟨key, -, hd⟩ := List.mem_flatMap.mp hd
        refine isRegular_of_mem_entriesFor (fun x hx => hold.of_get? hx)
          (fun y hy => hnew.of_get? hy) ?_ d hd
        intro x y hx hy
        exact ih key x hx (hold.of_get? hx) (hnew.of_get? hy)

/-! ## Writing -/

def members (d : Difference) : List (String × Document) :=
  [("path", .text d.path), ("type", .text d.kind.name)]
    ++ (d.old.map (("old", ·))).toList ++ (d.new.map (("new", ·))).toList

theorem nodup_members (d : Difference) : (d.members.map (·.1)).Nodup := by
  obtain ⟨path, kind, old, new⟩ := d
  cases old <;> cases new <;> simp [members]

/-- **The document of a difference** says what its path, its kind and its sides are, and a side that
there is not has no member. -/
theorem get?_toDocument (d : Difference) :
    d.toDocument.get? "path" = some (.text d.path) ∧
      d.toDocument.get? "type" = some (.text d.kind.name) ∧
      d.toDocument.get? "old" = d.old ∧ d.toDocument.get? "new" = d.new := by
  have hget : ∀ p ∈ d.members, Keyed.get? (Keyed.ofList d.members) p.1 = some p.2 :=
    fun _ => Keyed.get?_ofList_of_nodup d.nodup_members
  refine ⟨?_, ?_, ?_, ?_⟩
  · exact hget ("path", .text d.path) (by simp [members])
  · exact hget ("type", .text d.kind.name) (by simp [members])
  · cases hold : d.old with
    | none => exact Keyed.get?_ofList_of_notMem (by simp [hold])
    | some x => exact hget ("old", x) (by simp [members, hold])
  · cases hnew : d.new with
    | none => exact Keyed.get?_ofList_of_notMem (by simp [hnew])
    | some x => exact hget ("new", x) (by simp [members, hnew])

/-! ## Reading -/

theorem DifferenceKind.lookup_name (kind : DifferenceKind) :
    DifferenceKind.words.lookup kind.name = some kind := by
  cases kind <;> rfl

/-- A value, if it is there and not null. -/
def filled (side : Option Document) : Option Document := side.filter fun x => !x.isNull

theorem filled_eq_self_iff {side : Option Document} : filled side = side ↔ side ≠ some .null := by
  cases side with
  | none => simp [filled]
  | some x => cases x <;> simp [filled, Document.isNull]

/-- A side is taken as it is, unless it is null. -/
theorem take_side {ms : Members} {name : String} {side : Option Document}
    (hget : Keyed.get? ms name = side) (hside : ∀ x, side = some x → x.Sorted) :
    (Given.ofMembers ms).take (.withDefault name none (Reader.optional Reader.any))
      = .ok (filled side) := by
  cases side with
  | none => exact Given.take_ofMembers_of_none hget rfl
  | some x =>
      rw [Given.take_ofMembers hget]
      show (Reader.optional Reader.any).document x = _
      rw [Reader.document_optional_any (hside x rfl)]
      cases x <;> rfl

/-- **A difference is read back without the sides that are null.** -/
theorem reader_toDocument {d : Difference} (hold : ∀ x, d.old = some x → x.Sorted)
    (hnew : ∀ x, d.new = some x → x.Sorted) :
    reader.document d.toDocument = .ok ⟨d.path, d.kind, filled d.old, filled d.new⟩ := by
  have hkindread : kindField.read.document (.text d.kind.name) = .ok d.kind :=
    Reader.document_oneOfWords (DifferenceKind.lookup_name d.kind)
  have hside : ∀ {x : Document}, x.Sorted →
      ∃ a, (Reader.optional Reader.any) x.toDraft = .ok a :=
    fun h => ⟨_, Reader.document_optional_any h⟩
  have hread : ∀ p ∈ d.members, ∃ f, Reader.fieldNamed [pathField.erase, kindField.erase,
      oldField.erase, newField.erase] p.1 = some f ∧ f.name = p.1 ∧
        f.check p.2.toDraft = .ok () := by
    intro p hp
    simp only [members, List.mem_append, List.mem_cons, List.not_mem_nil, or_false,
      Option.mem_toList, Option.map_eq_some_iff] at hp
    -- the sides are members only where there is a value
    rcases hp with ((rfl | rfl) | ⟨x, hx, rfl⟩) | ⟨x, hx, rfl⟩
    · exact ⟨pathField.erase, rfl, rfl, rfl⟩
    · exact ⟨kindField.erase, rfl, rfl, Reader.check_erase hkindread⟩
    · obtain ⟨a, ha⟩ := hside (hold x hx)
      exact ⟨oldField.erase, rfl, rfl, Reader.check_erase ha⟩
    · obtain ⟨a, ha⟩ := hside (hnew x hx)
      exact ⟨newField.erase, rfl, rfl, Reader.check_erase ha⟩
  have hget := d.get?_toDocument
  have hobject : d.toDocument = .object (Keyed.ofList d.members) := rfl
  refine (Reader.document_record hread).trans ?_
  rw [hobject] at hget
  generalize Keyed.ofList d.members = ms at hget
  obtain ⟨hpath, hkind, hgetold, hgetnew⟩ := hget
  have tpath : (Given.ofMembers ms).take pathField = .ok d.path :=
    Given.take_ofMembers (f := pathField) hpath
  have tkind : (Given.ofMembers ms).take kindField = .ok d.kind :=
    (Given.take_ofMembers (f := kindField) hkind).trans hkindread
  have told : (Given.ofMembers ms).take oldField = .ok (filled d.old) := take_side hgetold hold
  have tnew : (Given.ofMembers ms).take newField = .ok (filled d.new) := take_side hgetnew hnew
  rw [tpath, Except.ok_bind, tkind, Except.ok_bind, told, Except.ok_bind, tnew, Except.ok_bind]

/-! ## Between two documents -/

/-- **What is found between two documents, written and read back.**

Every difference that is found has the sides that its kind says it has: none before if a value was
added, none after if it was removed, and both if it was changed. Its document has these sides, null
or not, and none else. It is always read back as a difference of the same path and kind, with the
sides that are not null; so it is read back as it was exactly if neither of its sides is null. -/
theorem reader_of_mem_between {old new : Document} (hold : old.Sorted) (hnew : new.Sorted)
    {d : Difference} (hd : d ∈ between old new) :
    (d.old.isSome = true ↔ d.kind ≠ .added) ∧ (d.new.isSome = true ↔ d.kind ≠ .removed) ∧
      d.toDocument.get? "old" = d.old ∧ d.toDocument.get? "new" = d.new ∧
      ∃ read, reader.document d.toDocument = .ok read ∧
        read.path = d.path ∧ read.kind = d.kind ∧
        read.old = d.old.filter (fun x => !x.isNull) ∧
        read.new = d.new.filter (fun x => !x.isNull) ∧
        (read = d ↔ d.old ≠ some .null ∧ d.new ≠ some .null) := by
  have hregular := isRegular_of_mem_ofValues hold hnew d hd
  obtain ⟨-, -, hgetold, hgetnew⟩ := d.get?_toDocument
  refine ⟨hregular.old_isSome_iff, hregular.new_isSome_iff, hgetold, hgetnew, _,
    reader_toDocument hregular.old_sorted hregular.new_sorted, rfl, rfl, rfl, rfl, ?_⟩
  rw [← filled_eq_self_iff, ← filled_eq_self_iff]
  constructor
  · intro h
    exact ⟨congrArg Difference.old h, congrArg Difference.new h⟩
  · rintro ⟨h, h'⟩
    rw [h, h']

/-- A value deep in a document that was changed, not to or from null. -/
theorem reader_of_mem_between_nested :
    let old : Document := .object [("a", .object [("b", .list [.null])])]
    let new : Document := .object [("a", .object [("b", .bool true)])]
    old.Sorted ∧ new.Sorted ∧
      (⟨"a.b", .changed, some (.list [.null]), some (.bool true)⟩ : Difference)
        ∈ between old new ∧
      reader.document
          (⟨"a.b", .changed, some (.list [.null]), some (.bool true)⟩ : Difference).toDocument
        = .ok ⟨"a.b", .changed, some (.list [.null]), some (.bool true)⟩ := by
  intro old new
  have hold : old.Sorted := by
    simp [old, Document.Sorted, Document.SortedItems, Document.SortedMembers, Document.KeysAscend]
  have hnew : new.Sorted := by
    simp [new, Document.Sorted, Document.SortedMembers, Document.KeysAscend]
  have hd : (⟨"a.b", .changed, some (.list [.null]), some (.bool true)⟩ : Difference)
      ∈ between old new := by
    have hbetween : between old new
        = [⟨"a.b", .changed, some (.list [.null]), some (.bool true)⟩] := rfl
    rw [hbetween]
    exact List.mem_singleton_self _
  obtain ⟨-, -, -, -, read, hread, -, -, -, -, hsame⟩ := reader_of_mem_between hold hnew hd
  have heq := hsame.mpr ⟨by simp, by simp⟩
  exact ⟨hold, hnew, hd, by rw [hread, heq]⟩

/-- **A value that was null is lost**: what is found is read back as a change from nothing. -/
theorem not_read_back_null :
    ∃ d ∈ between (.object [("a", .null)]) (.object [("a", .int 1)]),
      d.old = some .null ∧
      reader.document d.toDocument = .ok ⟨d.path, d.kind, none, d.new⟩ ∧
      reader.document d.toDocument ≠ .ok d := by
  have hbetween : between (.object [("a", .null)]) (.object [("a", .int 1)])
      = [⟨"a", .changed, some .null, some (.int 1)⟩] := rfl
  have hread := reader_toDocument (d := ⟨"a", .changed, some .null, some (.int 1)⟩)
    (fun x hx => Option.some.inj hx ▸ trivial) (fun x hx => Option.some.inj hx ▸ trivial)
  refine ⟨_, hbetween ▸ List.mem_singleton_self _, rfl, hread, ?_⟩
  rw [hread]
  intro h
  cases congrArg Difference.old (Except.ok.inj h)

end FabricAudit.Difference
