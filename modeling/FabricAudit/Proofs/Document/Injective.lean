import FabricAudit.Proofs.Decimal.Layout
import FabricAudit.Proofs.Document.Members
import FabricAudit.Proofs.Document.Reread

set_option autoImplicit false

/-! # The compact form is read in one way only

What a document is written as in the compact form says where it ends, as long as something stands
behind it that may stand behind a value. So of two texts that begin with written documents and are
equal, the documents are equal as well (`Document.compactChars_unambiguous`), and no two documents
have the same compact form (`Document.compact_inj`). No number needs to be small for that, and
floats may be among them. Where there are none, documents are equal if they are the same
(`Document.same_iff_eq`).
-/

namespace FabricAudit

open Draft Decimal

/-! ## Numbers and texts -/

/-- No number goes on where a value ends. -/
theorem Draft.Delimited.isNumeric {c : Char} {rest : List Char} (h : Delimited (c :: rest)) :
    isNumeric c = false := by
  have hc := h c rfl
  simp only [isSpace, Bool.or_eq_true, beq_iff_eq] at hc
  rcases hc with ((((rfl | rfl) | rfl) | rfl) | rfl | rfl | rfl) <;> rfl

/-- A number is all that can be read as a number. -/
theorem Decimal.IsWritten.takeWhile_append {cs rest : List Char} (h : IsWritten cs)
    (hrest : Delimited rest) : (cs ++ rest).takeWhile isNumeric = cs := by
  rw [List.takeWhile_append_of_pos h.numeric]
  cases rest with
  | nil => simp
  | cons c rest => simp [hrest.isNumeric]

/-- Numbers that begin equal texts are equal. -/
theorem Decimal.IsWritten.unambiguous {cs ds rest rest' : List Char} (hcs : IsWritten cs)
    (hds : IsWritten ds) (hrest : Delimited rest) (hrest' : Delimited rest')
    (h : cs ++ rest = ds ++ rest') : cs = ds ∧ rest = rest' := by
  have hsame : cs = ds := by
    rw [← hcs.takeWhile_append hrest, h, hds.takeWhile_append hrest']
  rw [hsame] at h
  exact ⟨hsame, List.append_cancel_left h⟩

namespace Document

/-- Texts in quotation marks that begin equal texts are equal. -/
theorem quoted_unambiguous {s t : String} {rest rest' : List Char}
    (h : quoted s ++ rest = quoted t ++ rest') : s = t ∧ rest = rest' := by
  obtain ⟨cs, hcs, hs⟩ := readText_quoted s rest
  obtain ⟨ds, hds, ht⟩ := readText_quoted t rest'
  rw [hcs, hds] at h
  rw [(List.cons.inj h).2, ht] at hs
  have hboth := Except.ok.inj hs
  rw [Prod.mk.injEq, String.toList_inj] at hboth
  exact ⟨hboth.1.symm, hboth.2.symm⟩

/-! ## How values begin -/

/-- What the first character of a value says about it. -/
inductive Opening where
  | null
  | bool (b : Bool)
  | number
  | text
  | list
  | object

def opening : Document → Opening
  | .null => .null
  | .bool b => .bool b
  | .int _ | .float _ => .number
  | .text _ => .text
  | .list _ => .list
  | .object _ => .object

/-- What a character says about the value that it begins. -/
def Opening.ofChar? : Char → Option Opening
  | 'n' => some .null
  | 't' => some (.bool true)
  | 'f' => some (.bool false)
  | '"' => some .text
  | '[' => some .list
  | '\x7b' => some .object
  | c => if c = '-' ∨ isDigit c then some .number else none

theorem Opening.ofChar?_of_number {c : Char} (h : c = '-' ∨ isDigit c = true) :
    ofChar? c = some .number := by
  unfold ofChar?
  split
  iterate 6 exact absurd h (by decide)
  rw [if_pos h]

/-- **The first character of a document** says how it begins. -/
theorem ofChar?_head (d : Document) :
    ∃ c cs, compactChars d = c :: cs ∧ Opening.ofChar? c = some d.opening := by
  have hnumber : ∀ {cs : List Char}, IsWritten cs →
      ∃ c rest, cs = c :: rest ∧ Opening.ofChar? c = some .number := by
    intro cs h
    obtain ⟨c, rest, hcons, hc⟩ := h.begins
    exact ⟨c, rest, hcons, Opening.ofChar?_of_number hc⟩
  cases d with
  | null => exact ⟨'n', _, rfl, rfl⟩
  | bool b => cases b <;> exact ⟨_, _, rfl, rfl⟩
  | int n => exact hnumber (isWritten_ofInt n)
  | float x => exact hnumber (Layout.isWritten_text (.inr rfl) x)
  | text s => exact ⟨'"', _, rfl, rfl⟩
  | list xs => exact ⟨'[', _, compactChars.eq_1 xs, rfl⟩
  | object ms => exact ⟨'\x7b', _, compactChars.eq_2 ms, rfl⟩

/-- Documents that begin equal texts begin in the same way. -/
theorem opening_eq {d e : Document} {rest rest' : List Char}
    (h : compactChars d ++ rest = compactChars e ++ rest') : d.opening = e.opening := by
  obtain ⟨c, cs, hd, hc⟩ := ofChar?_head d
  obtain ⟨c', cs', he, hc'⟩ := ofChar?_head e
  rw [hd, he] at h
  rw [(List.cons.inj h).1, hc'] at hc
  exact (Option.some.inj hc).symm

/-! ## Lists of values -/

/-- The characters that something is written with say what it is and where it ends. -/
def Unambiguous {α : Type} (write : α → List Char) (x : α) : Prop :=
  ∀ {y : α} {rest rest' : List Char}, Delimited rest → Delimited rest' →
    write x ++ rest = write y ++ rest' → x = y ∧ rest = rest'

/-- If every part is unambiguous, so is a list of parts, up to the character that closes it. -/
theorem listed_unambiguous {α : Type} {write : α → List Char} {close : Char}
    (hclose : close = ']' ∨ close = '\x7d')
    (hwrite : ∀ x, ∃ c cs, write x = c :: cs ∧ c ≠ close) {xs : List α} :
    (∀ x ∈ xs, Unambiguous write x) → ∀ {first : Bool} {ys : List α} {rest rest' : List Char},
      listed first (xs.map write) ++ close :: rest = listed first (ys.map write) ++ close :: rest' →
        xs = ys ∧ rest = rest' := by
  -- a part begins with a comma, or with something that closes no list
  have hbegin : ∀ (first : Bool) (x : α) (xs : List α) (rest rest' : List Char),
      listed first ((x :: xs).map write) ++ rest ≠ close :: rest' := by
    intro first x xs rest rest' h
    obtain ⟨c, cs, hx, hc⟩ := hwrite x
    rw [List.map_cons, listed, hx] at h
    cases first with
    | true => exact hc (List.cons.inj h).1
    | false =>
        have hcomma : ',' = close := (List.cons.inj h).1
        rcases hclose with rfl | rfl <;> revert hcomma <;> decide
  induction xs with
  | nil =>
      intro _ first ys rest rest' h
      cases ys with
      | nil => exact ⟨rfl, (List.cons.inj h).2⟩
      | cons y ys => exact absurd h.symm (hbegin first y ys _ _)
  | cons x xs ih =>
      intro hxs first ys rest rest' h
      obtain ⟨hx, hxs⟩ := List.forall_mem_cons.mp hxs
      cases ys with
      | nil => exact absurd h (hbegin first x xs _ _)
      | cons y ys =>
          simp only [List.map_cons, listed, List.append_assoc] at h
          have htail := delimited_listed blank_nil hclose
          obtain ⟨rfl, hlater⟩ := hx (htail (xs.map write) rest) (htail (ys.map write) rest')
            (List.append_cancel_left h)
          obtain ⟨rfl, hrest⟩ := ih hxs hlater
          exact ⟨rfl, hrest⟩

def memberChars (m : String × Document) : List Char := quoted m.1 ++ ':' :: compactChars m.2

theorem compactItems_eq (xs : List Document) :
    compactItems xs = listed true (xs.map compactChars) := by
  induction xs with
  | nil => simp [compactItems, listed]
  | cons x xs ih =>
      cases xs with
      | nil => simp [compactItems, listed]
      | cons y xs =>
          rw [compactItems, ih]
          simp [listed]

theorem compactMembers_eq (ms : List (String × Document)) :
    compactMembers ms = listed true (ms.map memberChars) := by
  induction ms with
  | nil => simp [compactMembers, listed]
  | cons m ms ih =>
      cases ms with
      | nil => simp [compactMembers, listed, memberChars]
      | cons n ms =>
          rw [compactMembers, ih]
          simp [listed, memberChars]

theorem compactChars_begins (d : Document) : ∃ c cs, compactChars d = c :: cs ∧ c ≠ ']' := by
  obtain ⟨c, cs, hd, hc⟩ := ofChar?_head d
  refine ⟨c, cs, hd, ?_⟩
  rintro rfl
  cases hc

/-! ## Documents -/

mutual

/-- **The compact form of a document** says which document it is and where it ends. -/
theorem compactChars_unambiguous : ∀ d : Document, Unambiguous compactChars d
  | .null, e, rest, rest', _, _, h => by
      have hopening := opening_eq h
      -- the first character tells all kinds apart but the two of numbers
      cases e with
      | null => exact ⟨rfl, List.append_cancel_left h⟩
      | _ => cases hopening
  | .bool b, e, rest, rest', _, _, h => by
      have hopening := opening_eq h
      cases e with
      | bool b' =>
          cases hopening
          exact ⟨rfl, List.append_cancel_left h⟩
      | _ => cases hopening
  | .int n, e, rest, rest', hrest, hrest', h => by
      have hopening := opening_eq h
      cases e with
      | int m =>
          obtain ⟨hsame, hrest⟩ :=
            (isWritten_ofInt n).unambiguous (isWritten_ofInt m) hrest hrest' h
          rw [String.toList_inj, ofInt_inj] at hsame
          exact ⟨congrArg Document.int hsame, hrest⟩
      -- a float is never written like an integer
      | float y =>
          obtain ⟨hsame, -⟩ := (isWritten_ofInt n).unambiguous
            (Layout.isWritten_text (.inr rfl) y) hrest hrest' h
          exact absurd (String.toList_inj.mp hsame).symm (Layout.text_ne_ofInt (.inr rfl) y n)
      | _ => cases hopening
  | .float x, e, rest, rest', hrest, hrest', h => by
      have hopening := opening_eq h
      have hx : IsWritten (jsonLayout.text x).toList := Layout.isWritten_text (.inr rfl) x
      cases e with
      | int m =>
          obtain ⟨hsame, -⟩ := hx.unambiguous (isWritten_ofInt m) hrest hrest' h
          exact absurd (String.toList_inj.mp hsame) (Layout.text_ne_ofInt (.inr rfl) x m)
      | float y =>
          obtain ⟨hsame, hrest⟩ :=
            hx.unambiguous (Layout.isWritten_text (.inr rfl) y) hrest hrest' h
          rw [String.toList_inj, Layout.text_inj (.inr rfl)] at hsame
          exact ⟨congrArg Document.float hsame, hrest⟩
      | _ => cases hopening
  | .text s, e, rest, rest', _, _, h => by
      have hopening := opening_eq h
      cases e with
      | text t =>
          obtain ⟨rfl, hrest⟩ := quoted_unambiguous h
          exact ⟨rfl, hrest⟩
      | _ => cases hopening
  | .list xs, e, rest, rest', _, _, h => by
      have hopening := opening_eq h
      cases e with
      | list ys =>
          simp only [compactChars, compactItems_eq, List.cons_append, List.append_assoc] at h
          obtain ⟨rfl, hrest⟩ := listed_unambiguous (.inl rfl) compactChars_begins
            (items_unambiguous xs) (List.cons.inj h).2
          exact ⟨rfl, hrest⟩
      | _ => cases hopening
  | .object ms, e, rest, rest', _, _, h => by
      have hopening := opening_eq h
      cases e with
      | object ns =>
          simp only [compactChars, compactMembers_eq, List.cons_append, List.append_assoc] at h
          obtain ⟨rfl, hrest⟩ := listed_unambiguous (.inr rfl) (fun _ => ⟨'"', _, rfl, by decide⟩)
            (members_unambiguous ms) (List.cons.inj h).2
          exact ⟨rfl, hrest⟩
      | _ => cases hopening

/-- So does that of every item of a list. -/
theorem items_unambiguous : ∀ xs : List Document, ∀ x ∈ xs, Unambiguous compactChars x
  | [] => nofun
  | x :: xs => List.forall_mem_cons.mpr ⟨compactChars_unambiguous x, items_unambiguous xs⟩

/-- So does that of every member of an object, with its key. -/
theorem members_unambiguous : ∀ ms : List (String × Document), ∀ m ∈ ms, Unambiguous memberChars m
  | [] => nofun
  | (k, x) :: ms => by
      refine List.forall_mem_cons.mpr ⟨?_, members_unambiguous ms⟩
      rintro ⟨l, y⟩ rest rest' hrest hrest' h
      simp only [memberChars, List.append_assoc] at h
      obtain ⟨rfl, hvalue⟩ := quoted_unambiguous h
      obtain ⟨rfl, hrest⟩ := compactChars_unambiguous x hrest hrest' (List.cons.inj hvalue).2
      exact ⟨rfl, hrest⟩

end

/-- **Two documents never have the same compact form.** -/
theorem compact_inj {d e : Document} : d.compact = e.compact ↔ d = e := by
  constructor
  · intro h
    have hend : Delimited [] := nofun
    have hchars : compactChars d ++ [] = compactChars e ++ [] := by
      rw [List.append_nil, List.append_nil]
      exact String.ofList_injective h
    exact (compactChars_unambiguous d hend hend hchars).1
  · rintro rfl
    rfl

/-! ## Documents without floats -/

mutual

theorem withoutZeroSigns_of_integral : ∀ {d : Document}, d.Integral → d.withoutZeroSigns = d
  | .null, _ => rfl
  | .bool _, _ => rfl
  | .int _, _ => rfl
  | .float _, h => h.elim
  | .text _, _ => rfl
  | .list _, h => congrArg Document.list (itemsWithoutZeroSigns_of_integral h)
  | .object _, h => congrArg Document.object (membersWithoutZeroSigns_of_integral h)

theorem itemsWithoutZeroSigns_of_integral : ∀ {xs : List Document}, IntegralItems xs →
    itemsWithoutZeroSigns xs = xs
  | [], _ => rfl
  | _ :: _, h =>
      congrArg₂ List.cons (withoutZeroSigns_of_integral h.1) (itemsWithoutZeroSigns_of_integral h.2)

theorem membersWithoutZeroSigns_of_integral : ∀ {ms : List (String × Document)},
    IntegralMembers ms → membersWithoutZeroSigns ms = ms
  | [], _ => rfl
  | (k, _) :: _, h =>
      congrArg₂ List.cons (congrArg (Prod.mk k) (withoutZeroSigns_of_integral h.1))
        (membersWithoutZeroSigns_of_integral h.2)

end

theorem integral_ofPairs {pairs : List (String × Document)} (h : ∀ p ∈ pairs, p.2.Integral) :
    (ofPairs pairs).Integral :=
  integralMembers_iff.mpr fun p hp => h p (Keyed.mem_of_mem_ofList hp)

/-- Where all numbers are integers, only equal documents are the same. -/
theorem same_iff_eq {d e : Document} (hd : d.Integral) (he : e.Integral) :
    d.same e = true ↔ d = e := by
  rw [same_iff, withoutZeroSigns_of_integral hd, withoutZeroSigns_of_integral he]

end Document

end FabricAudit
