import FabricAudit.Proofs.Document.Numbers
import Mathlib.Data.List.DropRight
import Mathlib.Data.List.Forall2

set_option autoImplicit false

/-! # Written documents read back

A run of characters reads as a value if, with blanks, a comma or a closing bracket after it, the
reader takes just these characters and gives the value. Written scalars do, and runs that do can be
put together: with blanks in front, in a list, and with keys in an object. A written document is put
together in this way, so it reads as the draft of the document in which every number is what its
text reads as (`ofText_pretty`). Integers of at most 64 bits are what they were, so a document with
no other numbers reads as its own draft (`ofText_pretty_of_integral`).
-/

namespace FabricAudit

namespace Draft

open Decimal

/-! ## Blanks -/

def Blank (bs : List Char) : Prop := ∀ c ∈ bs, isSpace c = true

theorem blank_nil : Blank [] := nofun

theorem skipSpace_append {bs : List Char} (h : Blank bs) (cs : List Char) :
    skipSpace (bs ++ cs) = skipSpace cs :=
  List.dropWhile_append_of_pos h

theorem skipSpace_cons {c : Char} (h : isSpace c = false) (cs : List Char) :
    skipSpace (c :: cs) = c :: cs := by
  rw [skipSpace, List.dropWhile_cons, if_neg (by simp [h])]

theorem skipSpace_skipSpace (cs : List Char) : skipSpace (skipSpace cs) = skipSpace cs :=
  List.dropWhile_idempotent isSpace cs

/-- Blanks in front of a value are of no account. -/
theorem readValue_skipSpace (fuel : Nat) (cs : List Char) :
    readValue fuel (skipSpace cs) = readValue fuel cs := by
  cases fuel with
  | zero => rfl
  | succ fuel => rw [readValue, readValue, skipSpace_skipSpace]

/-- Blanks and a closing bracket may stand after a value. -/
theorem delimited_close {bs : List Char} (h : Blank bs) {c : Char} (hc : c = ']' ∨ c = '\x7d')
    (rest : List Char) : Delimited (bs ++ c :: rest) := by
  intro d hd
  cases bs with
  | nil =>
      obtain rfl : c = d := by simpa using hd
      exact .inr (.inr hc)
  | cons b bs =>
      obtain rfl : b = d := by simpa using hd
      exact .inl (h b List.mem_cons_self)

/-! ## Runs of characters that read as a value -/

/-- The characters read as the value, wherever it may end after them. -/
def Reads (cs : List Char) (x : Draft) : Prop :=
  ∀ (fuel : Nat) (rest : List Char), 2 * cs.length ≤ fuel → Delimited rest →
    readValue fuel (cs ++ rest) = (x, .ok rest)

namespace Reads

variable {cs : List Char} {x : Draft}

theorem ne_nil (h : Reads cs x) : cs ≠ [] := by
  rintro rfl
  have hnone := h 0 [] (Nat.le_refl 0) (by simp [Delimited])
  cases hnone

/-- What reads as a value begins, after its blanks, with something other than a closing bracket. -/
theorem begins (h : Reads cs x) {rest : List Char} (hrest : Delimited rest) :
    ∃ c tail, skipSpace (cs ++ rest) = c :: tail ∧ c ≠ ']' := by
  have hread := h (2 * cs.length + 1) rest (by omega) hrest
  rw [readValue] at hread
  cases hspace : skipSpace (cs ++ rest) with
  | nil =>
      rw [hspace] at hread
      cases hread
  | cons c tail =>
      refine ⟨c, tail, rfl, ?_⟩
      rintro rfl
      rw [hspace] at hread
      cases hread

theorem blanks {bs : List Char} (hbs : Blank bs) (h : Reads cs x) : Reads (bs ++ cs) x := by
  intro fuel rest hfuel hrest
  have hless : 2 * cs.length ≤ fuel := by
    rw [List.length_append] at hfuel
    omega
  rw [← readValue_skipSpace, List.append_assoc, skipSpace_append hbs, readValue_skipSpace]
  exact h fuel rest hless hrest

/-- The reader spends fuel on every value, of which there is enough. -/
theorem of_succ (hcs : cs ≠ []) (h : ∀ (fuel : Nat) (rest : List Char),
    2 * cs.length ≤ fuel + 1 → Delimited rest →
      readValue (fuel + 1) (cs ++ rest) = (x, .ok rest)) : Reads cs x := by
  intro fuel rest hfuel hrest
  have hpos : 0 < cs.length := List.length_pos_of_ne_nil hcs
  obtain ⟨fuel, rfl⟩ := Nat.exists_eq_add_one.mpr (show 0 < fuel by omega)
  exact h fuel rest hfuel hrest

/-! ## Scalars -/

protected theorem null : Reads (Document.scalar .null) .null :=
  of_succ (by simp [Document.scalar]) fun _ _ _ _ => rfl

protected theorem bool (b : Bool) : Reads (Document.scalar (.bool b)) (.bool b) := by
  cases b with
  | false => exact of_succ (by simp [Document.scalar]) fun _ _ _ _ => rfl
  | true => exact of_succ (by simp [Document.scalar]) fun _ _ _ _ => rfl

protected theorem text (s : String) : Reads (Document.quoted s) (.text s) := by
  refine of_succ (by simp [Document.quoted]) fun fuel rest _ _ => ?_
  obtain ⟨cs, hcs, hread⟩ := readText_quoted s rest
  rw [hcs]
  show readTextValue cs = _
  rw [readTextValue, hread]
  simp only [String.ofList_toList]

/-- A value that begins with a digit or a minus sign is a number. -/
theorem readValue_number {c : Char} (hc : c = '-' ∨ isDigit c = true) {rest after : List Char}
    (h : (if c = '-' then readNumber true rest else readNumber false (c :: rest))
      = .ok (x, after)) (fuel : Nat) : readValue (fuel + 1) (c :: rest) = (x, .ok after) := by
  have hspace : isSpace c = false := by
    rcases hc with rfl | hc
    · decide
    · obtain ⟨hlow, hhigh⟩ := isDigit_iff.mp hc
      by_contra hspace
      simp only [isSpace, Bool.not_eq_false, Bool.or_eq_true, beq_iff_eq] at hspace
      rcases hspace with ((rfl | rfl) | rfl) | rfl <;> cases hc
  rw [readValue, skipSpace_cons hspace]
  -- the character is none of those that other values begin with
  simp only []
  split
  iterate 6 exact absurd hc (by decide)
  rw [if_pos hc, h]

/-- A digit and what follows it, with a minus sign before them or not, are a value if they are taken
as a number. -/
protected theorem number {negative : Bool} {c : Char} (hc : isDigit c = true)
    (h : ∀ rest, Delimited rest → readNumber negative (c :: (cs ++ rest)) = .ok (x, rest)) :
    Reads ((if negative then ['-'] else []) ++ c :: cs) x := by
  cases negative with
  | true =>
      exact of_succ (by simp) fun fuel rest _ hrest =>
        readValue_number (.inl rfl) (by rw [if_pos rfl]; exact h rest hrest) fuel
  | false =>
      have hsign : c ≠ '-' := by
        rintro rfl
        cases hc
      exact of_succ (by simp) fun fuel rest _ hrest =>
        readValue_number (.inr hc) (by rw [if_neg hsign]; exact h rest hrest) fuel

/-- An integer reads as a number, and as itself if it has at most 64 bits. -/
protected theorem int (n : Int) :
    ∃ x, Reads (ofInt n).toList x ∧ (-2 ^ 63 ≤ n → n < 2 ^ 64 → x = .int n) := by
  -- the digits read as some number, however many there are
  have hdigits : ∀ (negative : Bool) (m : Nat),
      Reads ((if negative then ['-'] else []) ++ digits m) (integerOf negative (digits m)) := by
    intro negative m
    have hwhole := isWhole_digits m
    obtain ⟨c, cs, hcons⟩ := List.exists_cons_of_ne_nil hwhole.nonempty
    have hc : isDigit c = true := hwhole.digits c (by simp [hcons])
    have hread : ∀ rest, Delimited rest →
        readNumber negative (digits m ++ rest) = .ok (integerOf negative (digits m), rest) :=
      fun _ hrest => readNumber_integer hwhole hrest negative
    rw [hcons] at hread ⊢
    exact .number hc hread
  cases n with
  | ofNat n =>
      refine ⟨integerOf false (digits n), ?_, fun _ hhigh => ?_⟩
      · rw [ofInt, toList_ofNat]
        exact hdigits false n
      · have hn : (n : Int) < 2 ^ 64 := hhigh
        have hfits : n < 2 ^ 64 := by omega
        exact integerOf_numeral (isNumeral_digits n) hfits
  | negSucc n =>
      refine ⟨integerOf true (digits (n + 1)), ?_, fun hlow _ => ?_⟩
      · have hchars : (ofInt (.negSucc n)).toList = '-' :: digits (n + 1) := by
          rw [← toList_ofNat]
          exact String.toList_append
        rw [hchars]
        exact hdigits true (n + 1)
      · have hfits : 0 < n + 1 ∧ n + 1 ≤ 2 ^ 63 := by omega
        exact integerOf_numeral (isNumeral_digits (n + 1)) hfits

protected theorem float (x : Binary64) : ∃ y, Reads (Document.jsonLayout.text x).toList y := by
  obtain ⟨c, cs, y, hc, htext, hread⟩ :=
    exists_readNumber_text (l := Document.jsonLayout) (.inr rfl) x
  rw [htext]
  exact ⟨y, .number hc hread⟩

/-- What reads as a value is a text of this value. -/
theorem ofText {s : String} (h : Reads s.toList x) : Draft.ofText s = (x, none) := by
  have hread := h (2 * s.toList.length + 2) [] (by omega) (by simp [Delimited])
  rw [List.append_nil] at hread
  simp only [Draft.ofText, hread]
  rfl

end Reads

/-! ## Lists and objects -/

/-- Parts with commas between them; a comma also stands before the first part, unless it is the very
first. -/
def listed : Bool → List (List Char) → List Char
  | _, [] => []
  | first, part :: parts => (if first then [] else [',']) ++ part ++ listed false parts

/-- After a part there is a comma, or what closes the list. -/
theorem delimited_listed {bs : List Char} (hbs : Blank bs) {c : Char} (hc : c = ']' ∨ c = '\x7d')
    (parts : List (List Char)) (rest : List Char) :
    Delimited (listed false parts ++ (bs ++ c :: rest)) := by
  cases parts with
  | nil => exact delimited_close hbs hc rest
  | cons part parts =>
      intro d hd
      obtain rfl : ',' = d := by simpa [listed] using hd
      exact .inr (.inl rfl)

/-- One item is read, and then the others. -/
theorem readItems_cons {part tail : List Char} {x : Draft} (h : Reads part x) {fuel : Nat}
    (hfuel : 2 * part.length ≤ fuel) (htail : Delimited tail) (first : Bool) :
    readItems (fuel + 1) first ((if first then [] else [',']) ++ part ++ tail)
      = (x :: (readItems fuel false tail).1, (readItems fuel false tail).2) := by
  have hread := h fuel tail hfuel htail
  obtain ⟨c, cs, hspace, hc⟩ := h.begins htail
  have hread' : readValue fuel (c :: cs) = (x, .ok tail) := by
    rw [← hspace, readValue_skipSpace, hread]
  cases first with
  | true =>
      rw [if_pos rfl, List.nil_append, readItems]
      simp only [hspace, if_true, hread']
  | false =>
      rw [if_neg (by decide), List.append_assoc, List.singleton_append, readItems,
        skipSpace_cons (by decide)]
      simp [hspace, hc, hread']

/-- **A list of values is read item by item.** -/
theorem readItems_listed {bs : List Char} (hbs : Blank bs) (rest : List Char)
    {parts : List (List Char)} {xs : List Draft} (h : List.Forall₂ Reads parts xs) :
    ∀ (first : Bool) (fuel : Nat), 2 * (listed first parts ++ bs ++ [']']).length ≤ fuel →
      readItems fuel first (listed first parts ++ (bs ++ ']' :: rest)) = (xs, .ok rest) := by
  induction h with
  | nil =>
      intro first fuel hfuel
      obtain ⟨fuel, rfl⟩ := Nat.exists_eq_add_one.mpr (show 0 < fuel by simp at hfuel; omega)
      rw [listed, List.nil_append, readItems, skipSpace_append hbs, skipSpace_cons (by decide)]
      rfl
  | @cons part x parts xs hpart _ ih =>
      intro first fuel hfuel
      have hpos : 0 < part.length := List.length_pos_of_ne_nil hpart.ne_nil
      simp only [listed, List.length_append, List.length_singleton] at hfuel
      obtain ⟨fuel, rfl⟩ := Nat.exists_eq_add_one.mpr (show 0 < fuel by omega)
      have htail := delimited_listed hbs (.inl rfl) parts rest
      rw [listed, List.append_assoc, readItems_cons hpart (by omega) htail,
        ih false fuel (by simp only [List.length_append, List.length_singleton]; omega)]

/-- The characters of a member: its key, a colon and a value. -/
def ReadsMember (cs : List Char) (m : String × Draft) : Prop :=
  ∃ bs vs, Blank bs ∧ cs = bs ++ (Document.quoted m.1 ++ ':' :: vs) ∧ Reads vs m.2

theorem ReadsMember.length_pos {cs : List Char} {m : String × Draft} (h : ReadsMember cs m) :
    0 < cs.length := by
  obtain ⟨bs, vs, -, rfl, -⟩ := h
  simp

/-- One member is read, and then the others. -/
theorem readMembers_cons {part tail : List Char} {m : String × Draft} (h : ReadsMember part m)
    {fuel : Nat} (hfuel : 2 * part.length ≤ fuel) (htail : Delimited tail) (first : Bool) :
    readMembers (fuel + 1) first ((if first then [] else [',']) ++ part ++ tail)
      = (m :: (readMembers fuel false tail).1, (readMembers fuel false tail).2) := by
  obtain ⟨bs, vs, hbs, rfl, hvs⟩ := h
  obtain ⟨cs, hcs, hkey⟩ := readText_quoted m.1 (':' :: (vs ++ tail))
  have hvalue : readValue fuel (vs ++ tail) = (m.2, .ok tail) := by
    simp only [List.length_append, List.length_cons] at hfuel
    exact hvs fuel tail (by omega) htail
  have hchars : bs ++ (Document.quoted m.1 ++ ':' :: vs) ++ tail
      = bs ++ (Document.quoted m.1 ++ ':' :: (vs ++ tail)) := by simp
  have hquote : skipSpace ('"' :: cs) = '"' :: cs := skipSpace_cons (by decide) cs
  have hspace : skipSpace (bs ++ (Document.quoted m.1 ++ ':' :: (vs ++ tail))) = '"' :: cs := by
    rw [skipSpace_append hbs, hcs, hquote]
  have hcolon : skipSpace (':' :: (vs ++ tail)) = ':' :: (vs ++ tail) :=
    skipSpace_cons (by decide) _
  -- the two cases differ in the comma only
  cases first with
  | true =>
      rw [if_pos rfl, List.nil_append, hchars, readMembers]
      simp [hspace, hquote, hkey, hcolon, hvalue]
  | false =>
      rw [if_neg (by decide), List.append_assoc, List.singleton_append, hchars, readMembers,
        skipSpace_cons (by decide)]
      simp [hspace, hkey, hcolon, hvalue]

/-- **The members of an object are read one by one.** -/
theorem readMembers_listed {bs : List Char} (hbs : Blank bs) (rest : List Char)
    {parts : List (List Char)} {ms : List (String × Draft)}
    (h : List.Forall₂ ReadsMember parts ms) :
    ∀ (first : Bool) (fuel : Nat), 2 * (listed first parts ++ bs ++ ['\x7d']).length ≤ fuel →
      readMembers fuel first (listed first parts ++ (bs ++ '\x7d' :: rest)) = (ms, .ok rest) := by
  induction h with
  | nil =>
      intro first fuel hfuel
      obtain ⟨fuel, rfl⟩ := Nat.exists_eq_add_one.mpr (show 0 < fuel by simp at hfuel; omega)
      rw [listed, List.nil_append, readMembers, skipSpace_append hbs, skipSpace_cons (by decide)]
      rfl
  | @cons part m parts ms hpart _ ih =>
      intro first fuel hfuel
      have hpos := hpart.length_pos
      simp only [listed, List.length_append, List.length_singleton] at hfuel
      obtain ⟨fuel, rfl⟩ := Nat.exists_eq_add_one.mpr (show 0 < fuel by omega)
      have htail := delimited_listed hbs (.inr rfl) parts rest
      rw [listed, List.append_assoc, readMembers_cons hpart (by omega) htail,
        ih false fuel (by simp only [List.length_append, List.length_singleton]; omega)]

namespace Reads

protected theorem list {bs : List Char} (hbs : Blank bs) {parts : List (List Char)}
    {xs : List Draft} (h : List.Forall₂ Reads parts xs) :
    Reads ('[' :: (listed true parts ++ bs ++ [']'])) (.list xs none) := by
  refine of_succ (by simp) fun fuel rest hfuel _ => ?_
  have hitems := readItems_listed hbs rest h true fuel (by
    rw [List.length_cons] at hfuel
    omega)
  have hchars : '[' :: (listed true parts ++ bs ++ [']']) ++ rest
      = '[' :: (listed true parts ++ (bs ++ ']' :: rest)) := by simp
  rw [hchars]
  show (Draft.list (readItems fuel true _).1 (faultOf (readItems fuel true _).2),
    (readItems fuel true _).2) = _
  rw [hitems]
  rfl

protected theorem object {bs : List Char} (hbs : Blank bs) {parts : List (List Char)}
    {ms : List (String × Draft)} (h : List.Forall₂ ReadsMember parts ms) :
    Reads ('\x7b' :: (listed true parts ++ bs ++ ['\x7d'])) (.object ms none) := by
  refine of_succ (by simp) fun fuel rest hfuel _ => ?_
  have hmembers := readMembers_listed hbs rest h true fuel (by
    rw [List.length_cons] at hfuel
    omega)
  have hchars : '\x7b' :: (listed true parts ++ bs ++ ['\x7d']) ++ rest
      = '\x7b' :: (listed true parts ++ (bs ++ '\x7d' :: rest)) := by simp
  rw [hchars]
  show (Draft.object (readMembers fuel true _).1 (faultOf (readMembers fuel true _).2),
    (readMembers fuel true _).2) = _
  rw [hmembers]
  rfl

end Reads

end Draft

/-! ## Documents -/

namespace Document

open Draft

mutual

/-- Every number in the document is an integer of at most 64 bits. -/
def Integral : Document → Prop
  | .int n => -2 ^ 63 ≤ n ∧ n < 2 ^ 64
  | .float _ => False
  | .list xs => IntegralItems xs
  | .object ms => IntegralMembers ms
  | _ => True

def IntegralItems : List Document → Prop
  | [] => True
  | x :: xs => Integral x ∧ IntegralItems xs

def IntegralMembers : List (String × Document) → Prop
  | [] => True
  | (_, x) :: ms => Integral x ∧ IntegralMembers ms

end

theorem integralMembers_iff {ms : List (String × Document)} :
    IntegralMembers ms ↔ ∀ m ∈ ms, m.2.Integral := by
  induction ms with
  | nil => simp [IntegralMembers]
  | cons m rest ih =>
      obtain ⟨k, v⟩ := m
      rw [IntegralMembers, ih, List.forall_mem_cons]

theorem membersToDraft_eq_map (ms : List (String × Document)) :
    membersToDraft ms = ms.map fun m => (m.1, m.2.toDraft) := by
  induction ms with
  | nil => rfl
  | cons m rest ih =>
      obtain ⟨k, v⟩ := m
      rw [membersToDraft, ih, List.map_cons]

theorem blank_breakTo (depth : Nat) : Blank (breakTo depth) := by
  intro c hc
  rcases List.mem_cons.mp hc with rfl | hc
  · rfl
  · rw [List.eq_of_mem_replicate hc]
    rfl

/-- Items in their pretty form, part by part. -/
theorem prettyItems_eq (depth : Nat) (xs : List Document) :
    prettyItems depth xs = listed true (xs.map fun x => breakTo depth ++ prettyChars depth x) := by
  induction xs with
  | nil => simp [prettyItems, listed]
  | cons x xs ih =>
      cases xs with
      | nil => simp [prettyItems, listed]
      | cons y xs =>
          rw [prettyItems, ih]
          simp [listed]

/-- Members in their pretty form, part by part. -/
theorem prettyMembers_eq (depth : Nat) (ms : List (String × Document)) :
    prettyMembers depth ms = listed true (ms.map fun m =>
      breakTo depth ++ (quoted m.1 ++ ':' :: ([' '] ++ prettyChars depth m.2))) := by
  induction ms with
  | nil => simp [prettyMembers, listed]
  | cons m ms ih =>
      cases ms with
      | nil => simp [prettyMembers, listed]
      | cons n ms =>
          rw [prettyMembers, ih]
          simp [listed]

mutual

/-- The draft that the text of a document reads as: every number is what its own text reads as. -/
def reread : Document → Draft
  | .null => .null
  | .bool b => .bool b
  | .int n => (Draft.ofText (Decimal.ofInt n)).1
  | .float x => (Draft.ofText (jsonLayout.text x)).1
  | .text s => .text s
  | .list xs => .list (rereadItems xs) none
  | .object ms => .object (rereadMembers ms) none

def rereadItems : List Document → List Draft
  | [] => []
  | x :: xs => reread x :: rereadItems xs

def rereadMembers : List (String × Document) → List (String × Draft)
  | [] => []
  | (k, x) :: ms => (k, reread x) :: rereadMembers ms

end

theorem reread_int {n : Int} (hlow : -2 ^ 63 ≤ n) (hhigh : n < 2 ^ 64) :
    reread (.int n) = .int n := by
  obtain ⟨x, hread, hint⟩ := Reads.int n
  rw [reread, hread.ofText, hint hlow hhigh]

mutual

/-- Integers of at most 64 bits read as themselves. -/
theorem reread_of_integral : ∀ d : Document, d.Integral → d.reread = d.toDraft
  | .null, _ | .bool _, _ | .text _, _ => rfl
  | .int _, h => reread_int h.1 h.2
  | .float _, h => h.elim
  | .list xs, h => congrArg (Draft.list · none) (rereadItems_of_integral xs h)
  | .object ms, h => congrArg (Draft.object · none) (rereadMembers_of_integral ms h)

theorem rereadItems_of_integral :
    ∀ xs : List Document, IntegralItems xs → rereadItems xs = itemsToDraft xs
  | [], _ => rfl
  | x :: xs, h => by
      rw [rereadItems, itemsToDraft, reread_of_integral x h.1, rereadItems_of_integral xs h.2]

theorem rereadMembers_of_integral :
    ∀ ms : List (String × Document), IntegralMembers ms → rereadMembers ms = membersToDraft ms
  | [], _ => rfl
  | (_, x) :: ms, h => by
      rw [rereadMembers, membersToDraft, reread_of_integral x h.1,
        rereadMembers_of_integral ms h.2]

end

/-- What is looked up in the members of an object is read, too. -/
theorem lookup_rereadMembers {ms : List (String × Document)} {key : String} {d : Document}
    (h : Keyed.get? ms key = some d) : (rereadMembers ms).lookup key = some d.reread := by
  induction ms with
  | nil => cases h
  | cons m ms ih =>
      obtain ⟨k, x⟩ := m
      rw [Keyed.get?] at h
      rw [rereadMembers, List.lookup_cons]
      split_ifs at h with hk
      · cases h
        rw [hk, beq_self_eq_true]
      · rw [beq_false_of_ne (Ne.symm hk)]
        exact ih h

mutual

/-- **The pretty form of a document reads as a draft of it**, whatever its numbers are. -/
theorem reads_prettyChars :
    ∀ (d : Document) (depth : Nat), Reads (prettyChars depth d) d.reread
  | .null, _ => .null
  | .bool b, _ => .bool b
  | .int n, _ => by
      obtain ⟨x, hread, -⟩ := Reads.int n
      rw [reread, hread.ofText]
      exact hread
  | .float x, _ => by
      obtain ⟨y, hread⟩ := Reads.float x
      rw [reread, hread.ofText]
      exact hread
  | .text s, _ => .text s
  | .list [], _ =>
      show Reads ('[' :: (listed true [] ++ [] ++ [']'])) (.list [] none) from
        .list blank_nil .nil
  | .list (x :: xs), depth => by
      have hitems := reads_prettyItems (x :: xs) (depth + 1)
      rw [prettyChars, prettyItems_eq]
      exact .list (blank_breakTo depth) hitems
  | .object [], _ =>
      show Reads ('\x7b' :: (listed true [] ++ [] ++ ['\x7d'])) (.object [] none) from
        .object blank_nil .nil
  | .object (m :: ms), depth => by
      have hmembers := reads_prettyMembers (m :: ms) (depth + 1)
      rw [prettyChars, prettyMembers_eq]
      exact .object (blank_breakTo depth) hmembers

/-- So do items, each on its line. -/
theorem reads_prettyItems : ∀ (xs : List Document) (depth : Nat),
    List.Forall₂ Reads (xs.map fun x => breakTo depth ++ prettyChars depth x) (rereadItems xs)
  | [], _ => .nil
  | x :: xs, depth =>
      .cons ((reads_prettyChars x depth).blanks (blank_breakTo depth)) (reads_prettyItems xs depth)

/-- So do members, each on its line. -/
theorem reads_prettyMembers : ∀ (ms : List (String × Document)) (depth : Nat),
    List.Forall₂ ReadsMember (ms.map fun m =>
      breakTo depth ++ (quoted m.1 ++ ':' :: ([' '] ++ prettyChars depth m.2))) (rereadMembers ms)
  | [], _ => .nil
  | (k, x) :: ms, depth =>
      .cons ⟨breakTo depth, [' '] ++ prettyChars depth x, blank_breakTo depth, rfl,
          (reads_prettyChars x depth).blanks (by simp [Blank, isSpace])⟩
        (reads_prettyMembers ms depth)

end

/-- **The text of a document reads back**, with nothing after it. -/
theorem ofText_pretty (d : Document) : Draft.ofText d.pretty = (d.reread, none) := by
  have hchars : d.pretty.toList = prettyChars 0 d := String.toList_ofList
  exact Reads.ofText (by rw [hchars]; exact reads_prettyChars d 0)

/-- What stands under a key of a document stands under it in what is read. -/
theorem reread_of_get? {d x : Document} {key : String} (h : d.get? key = some x) :
    ∃ ms, d.reread = .object ms none ∧ ms.lookup key = some x.reread := by
  cases d with
  | object ms => exact ⟨_, rfl, lookup_rereadMembers h⟩
  | _ => cases h

/-- It reads back as the document if this has no numbers but integers of at most 64 bits. -/
theorem ofText_pretty_of_integral {d : Document} (h : d.Integral) :
    Draft.ofText d.pretty = (d.toDraft, none) := by
  rw [ofText_pretty, reread_of_integral d h]

end Document

end FabricAudit
