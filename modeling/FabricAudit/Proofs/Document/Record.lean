import FabricAudit.Document.Reading
import FabricAudit.Proofs.Decimal.Digits
import FabricAudit.Proofs.Document.Refusal

set_option autoImplicit false

/-! # Records and members read

Two directions. What was read of a record was built from given fields, each of which was read or had
its default (`Reader.record_eq_ok`, `Given.take_eq_ok`), so that a bound on every field that is read
bounds every record. And an object that has each field at most once, with a value that reads, is
gathered as it stands (`Reader.gatherFields_of_fields`).
-/

namespace FabricAudit

/-! ## What was read -/

/-- A field that was taken was read, or it has its default. -/
theorem Given.take_eq_ok {α : Type} {g : Given} {f : Field α} {a : α} (h : g.take f = .ok a) :
    (∃ x, f.read x = .ok a) ∨ f.absent = some a := by
  unfold take at h
  split at h
  · exact .inl ⟨_, h⟩
  · split at h
    · rename_i heq
      cases h
      exact .inr heq
    · cases h

/-- A required field that was taken was read. -/
theorem Given.take_required {α : Type} {g : Given} {name : String} {read : Reader α} {a : α}
    (h : g.take (.required name read) = .ok a) : ∃ x, read x = .ok a := by
  rcases take_eq_ok h with h | h
  · exact h
  · cases h

/-- A given field is taken as its value reads. -/
theorem Given.take_of_lookup {α : Type} {g : Given} {f : Field α} {x : Draft}
    (h : g.fields.lookup f.name = some x) : g.take f = f.read x := by
  rw [take, h]

/-- A field that is not given is taken as its default. -/
theorem Given.take_of_absent {α : Type} {g : Given} {f : Field α} {a : α}
    (h : g.fields.lookup f.name = none) (ha : f.absent = some a) : g.take f = .ok a := by
  rw [take, h, ha]

namespace Reader

/-- A value that is read passes the check of its field. -/
theorem check_erase {α : Type} {f : Field α} {x : Draft} {a : α} (h : f.read x = .ok a) :
    f.erase.check x = .ok () :=
  Except.map_eq_ok_iff.mpr ⟨a, h, rfl⟩

theorem finish_eq_ok {α : Type} {fault : Option DraftFault} {a b : α}
    (h : finish fault a = .ok b) : a = b := by
  cases fault with
  | none => exact Except.ok.inj h
  | some f => cases h

/-- What is built of a list is the record, if nothing is wrong with the rest of the list. -/
theorem build_eq_ok {α : Type} {x : Except ReadFault α} {long : Prop} [Decidable long]
    {f : ReadFault} {fault : Option DraftFault} {a : α}
    (h : (do
      let a ← x
      if long then .error f
      finish fault a) = .ok a) : x = .ok a := by
  obtain ⟨b, hb, h⟩ := Except.bind_eq_ok_iff.mp h
  simp only [] at h
  split at h
  · cases h
  · rw [hb, finish_eq_ok h]

/-- A record that was read was built from fields that were given. -/
theorem record_eq_ok {α : Type} {title : String} {fields : List FieldCheck}
    {build : Given → Except ReadFault α} {x : Draft} {a : α}
    (h : record title fields build x = .ok a) : ∃ g, build g = .ok a := by
  cases x with
  | object ms fault =>
      obtain ⟨given, -, h⟩ := Except.bind_eq_ok_iff.mp h
      obtain ⟨-, -, h⟩ := Except.bind_eq_ok_iff.mp h
      exact ⟨_, h⟩
  | list items fault =>
      obtain ⟨_, -, h⟩ := Except.bind_eq_ok_iff.mp h
      simp only [] at h
      split at h
      · obtain ⟨_, -, h⟩ := Except.bind_eq_ok_iff.mp h
        exact ⟨_, build_eq_ok h⟩
      · exact ⟨_, build_eq_ok h⟩
  | _ => cases h

/-- A member that names a field, under the name of the field. -/
def underField (fields : List FieldCheck) (m : String × Draft) : Option (String × Draft) :=
  (fieldNamed fields m.1).map fun f => (f.name, m.2)

/-- **What is gathered of an object** are the members that name a field, in their order. -/
theorem gatherFields_eq_ok {fields : List FieldCheck} {ms given : List (String × Draft)} :
    ∀ {seen : List (String × Draft)}, gatherFields fields seen ms = .ok given →
      given = seen.reverse ++ ms.filterMap (underField fields) := by
  -- `seen` grows along the members, the last one first
  induction ms with
  | nil =>
      intro seen h
      cases h
      rw [List.filterMap_nil, List.append_nil]
  | cons m ms ih =>
      intro seen h
      obtain ⟨key, value⟩ := m
      rw [gatherFields] at h
      cases hf : fieldNamed fields key with
      | none =>
          rw [hf] at h
          rw [List.filterMap_cons_none (by rw [underField, hf]; rfl), ih h]
      | some f =>
          have hmember : underField fields (key, value) = some (f.name, value) := by
            rw [underField, hf]
            rfl
          simp only [hf] at h
          split at h
          · cases h
          · obtain ⟨-, -, h⟩ := Except.bind_eq_ok_iff.mp h
            rw [ih h, List.filterMap_cons_some hmember, List.reverse_cons, List.append_assoc]
            rfl

/-- A field without other names is named by its own name only. -/
theorem name_of_fieldNamed {fields : List FieldCheck} (halone : ∀ f ∈ fields, f.aliases = [])
    {key : String} {f : FieldCheck} (h : fieldNamed fields key = some f) : f.name = key := by
  have hnames := List.find?_some h
  rw [halone f (List.mem_of_find?_eq_some h)] at hnames
  simpa using hnames

/-- **Fields without other names are gathered as they are looked up.** -/
theorem lookup_gatherFields {fields : List FieldCheck} (halone : ∀ f ∈ fields, f.aliases = [])
    {ms given : List (String × Draft)} (h : gatherFields fields [] ms = .ok given) {name : String}
    (hname : (fieldNamed fields name).isSome) : given.lookup name = ms.lookup name := by
  rw [gatherFields_eq_ok h, List.reverse_nil, List.nil_append]
  clear h
  induction ms with
  | nil => rfl
  | cons m ms ih =>
      obtain ⟨key, value⟩ := m
      cases hf : fieldNamed fields key with
      | none =>
          -- a member that is no field is not the one that is looked up
          have hne : name ≠ key := by
            rintro rfl
            rw [hf] at hname
            cases hname
          rw [List.filterMap_cons_none (by rw [underField, hf]; rfl), ih, List.lookup_cons,
            beq_false_of_ne hne]
      | some f =>
          have hmember : underField fields (key, value) = some (key, value) := by
            rw [underField, hf, Option.map_some, name_of_fieldNamed halone hf]
          rw [List.filterMap_cons_some hmember, List.lookup_cons, List.lookup_cons, ih]

/-- The members that were read were each read from a member. -/
theorem members_eq_ok {α : Type} {r : Reader α} {x : Draft} {ms : List (String × α)}
    (h : members r x = .ok ms) : ∀ m ∈ ms, ∃ y, r y = .ok m.2 := by
  cases x with
  | object pairs fault =>
      obtain ⟨read, hread, h⟩ := Except.bind_eq_ok_iff.mp h
      obtain rfl := finish_eq_ok h
      intro m hm
      obtain ⟨p, -, hp⟩ := (Except.mapM_eq_ok_iff.mp hread).exists_of_mem_right hm
      obtain ⟨a, ha, hp⟩ := Except.bind_eq_ok_iff.mp hp
      cases hp
      exact ⟨p.2, ha⟩
  | _ => cases h

/-- A count that was read fits 64 bits. -/
theorem count_lt {x : Draft} {n : Nat} (h : count x = .ok n) : n < 2 ^ 64 := by
  obtain ⟨m, hm, rfl⟩ := Except.map_eq_ok_iff.mp h
  cases x with
  | int k =>
      rw [integer] at hm
      split at hm
      · rename_i hholds
        cases hm
        rw [Word.holds_unsigned_iff] at hholds
        omega
      · cases hm
  | _ => cases hm

/-! ## What reads -/

/-- A count that fits is read. -/
theorem count_of_lt {n : Nat} (h : n < 2 ^ 64) : count (.int n) = .ok n := by
  have hholds : (Word.unsigned 64).holds (n : Int) = true := by
    rw [Word.holds_unsigned_iff]
    omega
  rw [count, integer, if_pos hholds]
  rfl

/-- Members that read, read as members. -/
theorem members_of_forall₂ {α : Type} {r : Reader α} {pairs : List (String × Draft)}
    {ms : List (String × α)}
    (h : List.Forall₂ (fun p m => p.1 = m.1 ∧ r p.2 = .ok m.2) pairs ms) :
    members r (.object pairs none) = .ok ms := by
  have hread : pairs.mapM (fun p => do .ok (p.1, ← r p.2)) = .ok ms := by
    rw [Except.mapM_eq_ok_iff]
    refine h.imp fun p m hpm => ?_
    rw [hpm.2, hpm.1]
    rfl
  rw [members, hread]
  rfl

/-- **Fields that stand in an object once each, with values that read, are gathered as they
stand.** -/
theorem gatherFields_of_fields {fields : List FieldCheck} {ms : List (String × Draft)}
    (hread : ∀ m ∈ ms, ∃ f, fieldNamed fields m.1 = some f ∧ f.name = m.1 ∧ f.check m.2 = .ok ()) :
    ∀ seen : List (String × Draft), ((seen.reverse ++ ms).map (·.1)).Nodup →
      gatherFields fields seen ms = .ok (seen.reverse ++ ms) := by
  induction ms with
  | nil =>
      intro seen _
      rw [gatherFields, List.append_nil]
  | cons m ms ih =>
      intro seen hnodup
      obtain ⟨key, value⟩ := m
      obtain ⟨⟨f, hf, hname, hcheck⟩, hrest⟩ := List.forall_mem_cons.mp hread
      -- the member at hand goes over to those that were seen, and its name was not among them
      have hshift : seen.reverse ++ (key, value) :: ms = ((key, value) :: seen).reverse ++ ms := by
        simp
      have hnew : seen.lookup key = none := by
        rw [List.lookup_eq_none_iff]
        intro p hp
        rw [List.map_append] at hnodup
        have hne : p.1 ≠ key := by
          refine (List.nodup_append.mp hnodup).2.2 p.1 ?_ key (by simp)
          exact List.mem_map_of_mem (List.mem_reverse.mpr hp)
        simpa using hne.symm
      rw [gatherFields, hf]
      simp only [hname, hnew, hcheck]
      rw [hshift] at hnodup ⊢
      exact ih hrest _ hnodup

/-- **An object of fields is read as the record that is built from them.** -/
theorem record_object {α : Type} {title : String} {fields : List FieldCheck}
    {build : Given → Except ReadFault α} {ms : List (String × Draft)}
    (hread : ∀ m ∈ ms, ∃ f, fieldNamed fields m.1 = some f ∧ f.name = m.1 ∧ f.check m.2 = .ok ())
    (hnodup : (ms.map (·.1)).Nodup) :
    record title fields build (.object ms none) = build ⟨ms, .missing⟩ := by
  rw [record, gatherFields_of_fields hread [] hnodup]
  rfl

end Reader

end FabricAudit
