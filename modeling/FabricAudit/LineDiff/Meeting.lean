set_option autoImplicit false

/-! # Meeting points

Where to cut two lists so that a shortest edit script can be found for both halves on their own. A
path from the corner of two empty lists to that of two whole lists takes one item of either list a
step at a cost, or one item of both for free if they are equal. Two searches with growing cost, one
from either corner, meet in the middle of a cheapest path.

A point is given by the number `x` of items taken from the first list and by its diagonal, the
number by which `x` exceeds the items taken from the second. A front holds how far a search gets on
every other diagonal with a certain cost, from the highest diagonal down.
-/

namespace FabricAudit.Meeting

/-- How far a search gets, by diagonal from the highest down. -/
abbrev Front := List Nat

/-- How many items two lists have in common at their beginning. -/
def commonLength {α : Type} [DecidableEq α] : List α → List α → Nat
  | x :: xs, y :: ys => if x = y then commonLength xs ys + 1 else 0
  | _, _ => 0

/-- The points a step of cost leads to from a front, given the one above: from the diagonal below by
taking from the first list, or from the one above by taking from the second, whichever gets
further. -/
def stepBelow (above : Nat) : Front → List Nat
  | [] => [above]
  | below :: rest => (if below < above then above else below + 1) :: stepBelow below rest

/-- The points a step of cost leads to from a front; a search begins at its corner. -/
def step : Front → List Nat
  | [] => [0]
  | x :: rest => (x + 1) :: stepBelow x rest

structure Arrival where
  diagonal : Int
  /-- How far it gets at a cost. -/
  start : Nat
  /-- How far it gets after that for free. -/
  stop : Nat

/-- The items taken from the second list at a point. -/
def second (x : Nat) (diagonal : Int) : Nat := (x - diagonal).toNat

/-- Where a search on two lists arrives with the next cost. -/
def arrivals {α : Type} [DecidableEq α] (xs ys : List α) (front : Front) : List Arrival :=
  (step front).mapIdx fun i x =>
    let diagonal : Int := front.length - 2 * i
    ⟨diagonal, x, x + commonLength (xs.drop x) (ys.drop (second x diagonal))⟩

/-- How far a front gets on a diagonal, if it is on that diagonal. -/
def reach? (front : Front) (diagonal : Int) : Option Nat :=
  let fromTop : Int := front.length - 1 - diagonal
  if 0 ≤ fromTop ∧ fromTop % 2 = 0 then front[(fromTop / 2).toNat]? else none

/-- Whether an arrival has met the other search, which counts diagonals and items from the other
corner. `lead` is the diagonal of that corner, and `length` the number of items of the first
list. -/
def meets (other : Front) (lead : Int) (length : Nat) (a : Arrival) : Bool :=
  (reach? other (lead - a.diagonal)).any fun x => length ≤ a.stop + x

/-- The meeting point of two searches, as numbers of items of either list. Each round lets both
searches spend one more; the backward search is a forward search on the reversed lists. -/
def search {α : Type} [DecidableEq α] (xs ys : List α) (rounds : Nat) (forward backward : Front) :
    Option (Nat × Nat) :=
  let lead : Int := (xs.length : Int) - ys.length
  match rounds with
  | 0 => none
  | rounds + 1 =>
    let ahead := arrivals xs ys forward
    match ahead.find? (fun a => lead % 2 = 1 && meets backward lead xs.length a) with
    | some a => some (a.start, second a.start a.diagonal)
    | none =>
      let forward := ahead.map Arrival.stop
      let back := arrivals xs.reverse ys.reverse backward
      match back.find? (fun a => lead % 2 = 0 && meets forward lead xs.length a) with
      | some a => some (xs.length - a.stop, ys.length - second a.stop a.diagonal)
      | none => search xs ys rounds forward (back.map Arrival.stop)

/-- The meeting point of the searches on two lists. No path costs more than both lists are long, so
half of that, rounded up, is enough for either search. -/
def point {α : Type} [DecidableEq α] (xs ys : List α) : Option (Nat × Nat) :=
  search xs ys ((xs.length + ys.length + 1) / 2 + 1) [] []

end FabricAudit.Meeting
