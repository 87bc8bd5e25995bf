import FabricAudit.Document.Path
import FabricAudit.Proofs.Document.Members

set_option autoImplicit false

/-! # Dotted paths

A dotted path is split at every dot. As long as no key holds a dot, the path of a key below another
path splits into the steps to its object and the key itself (`splitAt_append_dot`), so the keys on a
walk can be read off its path. `Document.edit` writes at the end of a walk where `Document.walk`
reads there.
-/

namespace FabricAudit

/-! ## Splitting -/

namespace Text

theorem splitChars_eq_splitOn (sep : Char) (cs : List Char) :
    splitChars sep cs = cs.splitOn sep := by
  induction cs with
  | nil => rfl
  | cons c cs ih =>
      rw [splitChars, ih, List.splitOn_cons_eq_if_modifyHead]
      by_cases hc : c = sep
      · simp [hc]
      · -- a list of pieces is never empty, so the second branch of the match is the one taken
        rcases hs : cs.splitOn sep with _ | ⟨piece, rest⟩
        · exact absurd hs (List.splitOn_ne_nil _ _)
        · simp [hc]

/-- A text without separators is its own only piece. -/
theorem splitAt_eq_singleton {sep : Char} {s : String} (h : sep ∉ s.toList) :
    splitAt sep s = [s] := by
  rw [splitAt, splitChars_eq_splitOn, List.splitOn_eq_singleton h]
  simp

/-- A separator parts the pieces before it from those behind it. -/
theorem splitAt_append {sep : Char} {mark : String} (hmark : mark.toList = [sep])
    (front back : String) :
    splitAt sep (front ++ mark ++ back) = splitAt sep front ++ splitAt sep back := by
  have hchars : (front ++ mark ++ back).toList = front.toList ++ sep :: back.toList := by
    simp [hmark]
  rw [splitAt, splitAt, splitAt, hchars, splitChars_eq_splitOn, splitChars_eq_splitOn,
    splitChars_eq_splitOn, List.splitOn_append_cons_self, List.map_append]

/-- The last piece of a text is what follows its last dot. -/
theorem splitAt_append_dot (path : String) {key : String} (h : '.' ∉ key.toList) :
    splitAt '.' (path ++ "." ++ key) = splitAt '.' path ++ [key] := by
  rw [splitAt_append rfl, splitAt_eq_singleton h]

/-- The first piece of a text is what precedes its first dot. -/
theorem splitAt_dot_append {key : String} (h : '.' ∉ key.toList) (path : String) :
    splitAt '.' (key ++ "." ++ path) = key :: splitAt '.' path := by
  rw [splitAt_append rfl, splitAt_eq_singleton h]
  rfl

end Text

namespace Document

/-! ## Keys without dots -/

mutual

/-- No key on the way to any part of the document holds a dot. No path leads into a list. -/
def DotFree : Document → Prop
  | .object ms => DotFreeMembers ms
  | _ => True

/-- No key holds a dot, and none in the values does. -/
def DotFreeMembers : List (String × Document) → Prop
  | [] => True
  | (k, d) :: ms => '.' ∉ k.toList ∧ DotFree d ∧ DotFreeMembers ms

end

theorem dotFreeMembers_iff {ms : List (String × Document)} :
    DotFreeMembers ms ↔ ∀ m ∈ ms, '.' ∉ m.1.toList ∧ m.2.DotFree := by
  induction ms with
  | nil => simp [DotFreeMembers]
  | cons m rest ih =>
      obtain ⟨k, d⟩ := m
      rw [DotFreeMembers, ih, List.forall_mem_cons, and_assoc]

theorem DotFree.of_get? {ms : Members} {key : String} {d : Document}
    (h : (Document.object ms).DotFree) (hd : Keyed.get? ms key = some d) :
    '.' ∉ key.toList ∧ d.DotFree := by
  rw [DotFree, dotFreeMembers_iff] at h
  exact h _ (Keyed.mem_of_get? hd)

/-! ## Reading at a path -/

/-- What is at a dotted path is what the walk along its steps leads to, unless that is null. -/
theorem resolve_eq (d : Document) (path : String) :
    d.resolve path = (d.walk (Text.splitAt '.' path)).filter fun v => !v.isNull := by
  rw [resolve]
  rcases d.walk (Text.splitAt '.' path) with _ | v
  · rfl
  · cases v <;> rfl

/-! ## Writing at a path -/

/-- The document with a value set at the end of a walk, or, if no value is given, without the key
there. Nothing happens if the walk does not lead through objects. -/
def edit (value : Option Document) : List String → Document → Document
  | [key], .object ms => .object (Keyed.put key value ms)
  | key :: rest, .object ms =>
    match Keyed.get? ms key with
    | some d => .object (Keyed.insert key (edit value rest d) ms)
    | none => .object ms
  | _, d => d

theorem edit_singleton (value : Option Document) (key : String) (ms : Members) :
    edit value [key] (.object ms) = .object (Keyed.put key value ms) := by
  rw [edit]

/-- Writing further down changes the value of the first key. -/
theorem edit_cons {value : Option Document} {key : String} {rest : List String} {ms : Members}
    {d : Document} (hrest : rest ≠ []) (hd : Keyed.get? ms key = some d) :
    edit value (key :: rest) (.object ms) = .object (Keyed.insert key (edit value rest d) ms) := by
  rw [edit, hd]
  rintro rfl
  exact hrest rfl

end Document

end FabricAudit
