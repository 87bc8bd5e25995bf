import FabricAudit.LineDiff.Edit

set_option autoImplicit false

/-! # Moving edits together

A script may insert a line before or after an equal one, which makes no difference to what it does
but a large one to how it reads. Every insertion is moved up and then down as far as it goes:
along kept lines when the line it leaves on one side equals the one it gains on the other, past
deletions freely, and into other insertions, with which it joins. Deletions are moved past
insertions and joined, but not along kept lines. No move changes the lists before and after.
-/

namespace FabricAudit.Edit

variable {α : Type} [DecidableEq α]

/-- An edit with what stands before it, nearest first, and after it. -/
structure Focus (α : Type) where
  /-- The edits before, nearest first. -/
  above : List (Edit α)
  this : Edit α
  below : List (Edit α)

/-- How far inserted lines can be slid up along kept ones: the kept lines that are left, the
inserted lines as they are then, and the kept lines that are now below. The first two lists are
taken from their last item on. -/
def slide (kept inserted passed : List α) : List α × List α × List α :=
  match kept with
  | [] => ([], inserted, passed)
  | k :: ks =>
    match inserted with
    | [] => (k :: ks, [], passed)
    | i :: is => if k = i then slide ks (is ++ [k]) (k :: passed) else (k :: ks, i :: is, passed)

/-- Puts kept lines in front of the edits that follow; they join with kept lines there. -/
def keepBelow (old new : Nat) (passed : List α) : List (Edit α) → List (Edit α)
  | ⟨.keep, o, n, lines⟩ :: rest =>
    ⟨.keep, o - passed.length, n - passed.length, passed ++ lines⟩ :: rest
  | rest => ofLines .keep old new passed ++ rest

/-- Puts kept lines behind the edits that precede, nearest first; they join with kept lines
there. -/
def keepAbove (old new : Nat) (passed : List α) : List (Edit α) → List (Edit α)
  | ⟨.keep, o, n, lines⟩ :: rest => ⟨.keep, o, n, lines ++ passed⟩ :: rest
  | rest => ofLines .keep old new passed ++ rest

/-- Moves an edit up as far as it goes. -/
def moveUp (this : Edit α) : List (Edit α) → List (Edit α) → Focus α
  | [], below => ⟨[], this, below⟩
  | e :: above, below =>
    match this.kind, e.kind with
    | .insert, .keep =>
      let (kept, inserted, passed) := slide e.lines.reverse this.lines.reverse []
      let n := passed.length
      let below := keepBelow (e.old + kept.length) (this.new + this.lines.length - n) passed below
      let this := ⟨.insert, this.old - n, this.new - n, inserted.reverse⟩
      if kept.isEmpty then moveUp this above below
      else ⟨{ e with lines := kept.reverse } :: above, this, below⟩
    | .insert, .delete | .delete, .insert => moveUp this above (e :: below)
    | .insert, .insert | .delete, .delete => moveUp (e.append this) above below
    | .delete, .keep | .keep, _ => ⟨e :: above, this, below⟩

/-- Moves an edit down as far as it goes. -/
def moveDown (this : Edit α) (above : List (Edit α)) : List (Edit α) → Focus α
  | [] => ⟨above, this, []⟩
  | e :: below =>
    match this.kind, e.kind with
    | .insert, .keep =>
      let (kept, inserted, passed) := slide e.lines this.lines []
      let n := passed.length
      let above := keepAbove e.old this.new passed.reverse above
      let this := ⟨.insert, this.old + n, this.new + n, inserted⟩
      if kept.isEmpty then moveDown this above below
      else ⟨above, this, ⟨.keep, e.old + n, e.new + n, kept⟩ :: below⟩
    | .insert, .delete | .delete, .insert => moveDown this (e :: above) below
    | .insert, .insert | .delete, .delete => moveDown (this.append e) above below
    | .delete, .keep | .keep, _ => ⟨above, this, e :: below⟩

/-- Moves up to `count` edits of a kind, one after the other, as far up and then as far down as they
go. -/
def settle (kind : EditKind) : Nat → List (Edit α) → List (Edit α) → List (Edit α)
  | 0, above, below => above.reverse ++ below
  | count + 1, above, below =>
    let above := (below.takeWhile fun e => e.kind != kind).reverse ++ above
    match below.dropWhile fun e => e.kind != kind with
    | [] => above.reverse
    | e :: rest =>
      let up := moveUp e above rest
      let down := moveDown up.this up.above up.below
      settle kind count (down.this :: down.above) down.below

/-- The edits of a script, moved together. No move makes an edit of the kind that is moved, so as
many moves as there are edits of the kind are enough. -/
def compact (es : List (Edit α)) : List (Edit α) :=
  let settleAll (kind : EditKind) (es : List (Edit α)) : List (Edit α) :=
    settle kind (es.countP fun e => e.kind == kind) [] es
  settleAll .insert (settleAll .delete es)

end FabricAudit.Edit
