import FabricAudit.LineDiff.Edit
import FabricAudit.LineDiff.Meeting

set_option autoImplicit false

/-! # Shortest edit scripts

A shortest script for two lists: what they have in common at either end is kept, and what remains is
cut at a meeting point and done in halves. Whatever the meeting point is, the script is one for the
two lists; only how short it is depends on it.
-/

namespace FabricAudit.Edit

variable {α : Type} [DecidableEq α]

/-- A script for two lists that stand at the given places. `depth` bounds how often the lists are
cut; every cut leaves shorter lists, so their joint length is enough. -/
def scriptAt : Nat → Nat → Nat → List α → List α → List (Edit α)
  | 0, old, new, xs, ys => ofLines .delete old new xs ++ ofLines .insert old new ys
  | depth + 1, old, new, xs, ys =>
    -- what is common at either end is kept, and only the middle is cut
    let start := Meeting.commonLength xs ys
    let xs' := xs.drop start
    let ys' := ys.drop start
    let ending := Meeting.commonLength xs'.reverse ys'.reverse
    let left := xs'.take (xs'.length - ending)
    let right := ys'.take (ys'.length - ending)
    let middle :=
      if left.isEmpty || right.isEmpty then
        ofLines .delete (old + start) (new + start) left
          ++ ofLines .insert (old + start) (new + start) right
      else
        match Meeting.point left right with
        | some (x, y) =>
          scriptAt depth (old + start) (new + start) (left.take x) (right.take y)
            ++ scriptAt depth (old + start + x) (new + start + y) (left.drop x) (right.drop y)
        -- where the two searches do not meet, everything is replaced
        | none =>
          ofLines .delete (old + start) (new + start) left
            ++ ofLines .insert (old + start) (new + start) right
    ofLines .keep old new (xs.take start) ++ middle
      ++ ofLines .keep (old + start + left.length) (new + start + right.length)
        (xs'.drop left.length)

/-- A shortest script for two lists. -/
def script (xs ys : List α) : List (Edit α) := scriptAt (xs.length + ys.length + 1) 0 0 xs ys

end FabricAudit.Edit
