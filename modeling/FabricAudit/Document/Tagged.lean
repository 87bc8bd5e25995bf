import FabricAudit.Document.Reading

set_option autoImplicit false

/-! # Tagged records

A value that is one of several records names its record itself: by a member of the object with the
name of the tag, or by the first item of the list. The tag counts before everything else, wherever
it stands.
-/

namespace FabricAudit

/-- A record that a tag may name. -/
structure Variant (α : Type) where
  tag : String
  size : Nat
  read : Reader α

namespace Reader

def variantNamed {α : Type} (variants : List (Variant α)) : Draft → Except ReadFault (Variant α)
  | .text s =>
    match variants.find? fun v => v.tag == s with
    | some v => .ok v
    | none => .error (.unknownWord s (variants.map Variant.tag))
  | d => .error (mismatch "variant identifier" d)

def tooLongFor {α : Type} (v : Variant α) : ReadFault → ReadFault
  | .tooLong n _ => .tooLong n (Decimal.ofNat v.size ++ " elements in sequence")
  | f => f

/-- A tagged record. `title` names the type in messages. -/
def tagged {α : Type} (title tag : String) (variants : List (Variant α)) : Reader α
  | .object ms fault => do
    finish fault ()
    match ms.filter fun m => m.1 == tag with
    | [] => .error (.missing tag)
    | [(_, value)] =>
      let v ← variantNamed variants value
      v.read (.object (ms.filter fun m => m.1 != tag) none)
    | _ => .error (.repeated tag)
  | .list [] fault => do
    finish fault ()
    .error (.missing tag)
  | .list (value :: rest) fault => do
    let v ← variantNamed variants value
    (v.read (.list rest fault)).mapError (tooLongFor v)
  | d => .error (mismatch title d)

end Reader

end FabricAudit
