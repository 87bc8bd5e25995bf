import Mathlib.Data.List.DropRight
import FabricAudit.Text.Blank
import FabricAudit.Text.Utf8

set_option autoImplicit false

/-! # From octets to trimmed texts

Octets that are a text are the same text to both decoders (`decodeLossy_of_decode?`). Trimming takes
all that it can take at once (`trim_trim`), so what looks at the trimmed text only does not see
whether it was trimmed before.
-/

namespace FabricAudit.Text

/-! ## Decoding -/

/-- Answers that are all there are put together, and only they are. -/
theorem mapM_id_eq_some_iff {α : Type} {xs : List (Option α)} {ys : List α} :
    xs.mapM id = some ys ↔ xs = ys.map some := by
  induction xs generalizing ys with
  | nil => cases ys <;> simp
  | cons x xs ih =>
      rw [List.mapM_cons]
      cases x with
      | none => cases ys <;> simp
      | some x => cases ys <;> simp [Option.bind_eq_some_iff, ih, and_comm]

/-- **Octets that are a text** need no replacements. -/
theorem decodeLossy_of_decode? {bytes : List Nat} {s : String} (h : decode? bytes = some s) :
    decodeLossy bytes = s := by
  obtain ⟨cs, hcs, rfl⟩ := Option.map_eq_some_iff.mp h
  rw [decodeLossy, mapM_id_eq_some_iff.mp hcs, List.map_map]
  exact congrArg String.ofList (List.map_id cs)

/-- Characters below 128 are octets of their own. -/
theorem decode?_ascii {cs : List Char} (h : ∀ c ∈ cs, c.toNat < 0x80) :
    decode? (cs.map Char.toNat) = some (String.ofList cs) := by
  refine Option.map_eq_some_iff.mpr ⟨cs, mapM_id_eq_some_iff.mpr ?_, rfl⟩
  induction cs with
  | nil => rw [List.map_nil, decodeOctets, List.map_nil]
  | cons c cs ih =>
      rw [List.forall_mem_cons] at h
      rw [List.map_cons, decodeOctets, nextChar, if_pos h.1, Char.ofNat_toNat, ih h.2,
        List.map_cons]

/-! ## Trimming -/

section

variable (p : Char → Bool) (cs : List Char)

theorem stripBy_eq : stripBy p cs = (cs.dropWhile p).rdropWhile p := rfl

/-- What was stripped has nothing left to strip in front. -/
theorem dropWhile_stripBy : (stripBy p cs).dropWhile p = stripBy p cs := by
  rw [List.dropWhile_eq_self_iff]
  intro hpos
  -- its first character is the one that was met first
  have hfirst : stripBy p cs <+: cs.dropWhile p := List.rdropWhile_prefix _ _
  rw [hfirst.getElem hpos]
  exact List.dropWhile_get_zero_not p cs (hpos.trans_le hfirst.length_le)

/-- Stripping once is enough. -/
theorem stripBy_stripBy : stripBy p (stripBy p cs) = stripBy p cs := by
  rw [stripBy_eq, dropWhile_stripBy, stripBy_eq, List.rdropWhile_idempotent]

end

@[simp] theorem trimChars_trimChars (cs : List Char) : trimChars (trimChars cs) = trimChars cs :=
  stripBy_stripBy isBlank cs

/-- **Trimming once is enough.** -/
@[simp] theorem trim_trim (s : String) : trim (trim s) = trim s := by
  simp only [trim, String.toList_ofList, trimChars_trimChars]

end FabricAudit.Text
