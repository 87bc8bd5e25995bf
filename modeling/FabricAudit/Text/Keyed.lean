set_option autoImplicit false

/-! # Sorted keys

Values under text keys, as a list of pairs sorted by key in the order of code points, with no key
twice; and sets of texts as sorted lists. `Keyed.insert` and `insertOnce` keep the order, so two
collections with the same content are equal lists, whatever the order in which it came in.
-/

namespace FabricAudit

/-- Values under text keys, sorted by key. -/
abbrev Keyed (α : Type) := List (String × α)

namespace Keyed

variable {α : Type}

/-- The value of the first pair with this key. -/
def get? : Keyed α → String → Option α
  | [], _ => none
  | (k, v) :: rest, key => if k = key then some v else get? rest key

/-- Sets the value of a key, at its place in the order. -/
def insert (key : String) (value : α) : Keyed α → Keyed α
  | [] => [(key, value)]
  | (k, v) :: rest =>
    if key = k then (key, value) :: rest
    else if key < k then (key, value) :: (k, v) :: rest
    else (k, v) :: insert key value rest

/-- The pairs of a list in any order; of two with one key the later one counts. -/
def ofList (pairs : List (String × α)) : Keyed α :=
  pairs.foldl (fun ms kv => insert kv.1 kv.2 ms) []

def keys (ms : Keyed α) : List String := ms.map (·.1)

end Keyed

namespace Text

/-- Puts a text into a sorted set, unless it is there. -/
def insertOnce (s : String) : List String → List String
  | [] => [s]
  | t :: rest =>
    if s = t then t :: rest
    else if s < t then s :: t :: rest
    else t :: insertOnce s rest

def sortedSet (ss : List String) : List String := ss.foldr insertOnce []

end Text

end FabricAudit
