import FabricAudit.Yaml.Node
import FabricAudit.Yaml.Tree

set_option autoImplicit false

/-! # Anchors and aliases

A node with an anchor is numbered, in the order of the text, by how many anchor names are known
before it, and an alias means the number of its name at that place. So a name that is used for a
second anchor takes the next number, which the next new name may take over; the last node with a
number is the one that counts.

Aliases may not multiply without bound: at most a hundred are followed per part of the text, and
collections are nested at most 128 deep, aliases included.
-/

namespace FabricAudit.Yaml

/-- The number that each anchor name stands for. -/
abbrev Names := List (String × Nat)

/-- The numbers of a node with the given anchor. -/
def Names.add (names : Names) : Option String → Names
  | none => names
  | some anchor => (anchor, names.length) :: names.filter (·.1 != anchor)

/-- The nodes that have numbers; of several with one number the last counts. -/
abbrev Numbered := List (Nat × Tree Nat)

/-- The entry of a node with an anchor, when `names` are known before it. -/
def numbered (names : Names) (anchor : Option String) (t : Tree Nat) : Numbered :=
  match anchor with
  | none => []
  | some _ => [(names.length, t)]

namespace Tree

mutual

/-- Puts numbers for the names of aliases, and lists the numbered nodes. -/
def number : Tree String → Names → Scan (Tree Nat × Numbered × Names)
  | .alias name, names =>
    match names.lookup name with
    | some n => .ok (.alias n, [], names)
    | none => .error .unknownAlias
  | .scalar anchor tag text style, names =>
    let t := .scalar anchor tag text style
    .ok (t, numbered names anchor t, names.add anchor)
  | .sequence anchor tag items, names => do
    let (items, inner, after) ← numberItems items (names.add anchor)
    let t := .sequence anchor tag items
    .ok (t, numbered names anchor t ++ inner, after)
  | .mapping anchor tag pairs, names => do
    let (pairs, inner, after) ← numberPairs pairs (names.add anchor)
    let t := .mapping anchor tag pairs
    .ok (t, numbered names anchor t ++ inner, after)

def numberItems : List (Tree String) → Names → Scan (List (Tree Nat) × Numbered × Names)
  | [], names => .ok ([], [], names)
  | t :: ts, names => do
    let (t, first, names) ← number t names
    let (ts, second, names) ← numberItems ts names
    .ok (t :: ts, first ++ second, names)

def numberPairs : List (Tree String × Tree String) → Names →
    Scan (List (Tree Nat × Tree Nat) × Numbered × Names)
  | [], names => .ok ([], [], names)
  | (k, v) :: ps, names => do
    let (k, first, names) ← number k names
    let (v, second, names) ← number v names
    let (ps, third, names) ← numberPairs ps names
    .ok ((k, v) :: ps, first ++ second ++ third, names)

end

mutual

/-- How many parts a text has: scalars, aliases, and beginnings and ends of collections. -/
def parts : Tree Nat → Nat
  | .alias _ | .scalar _ _ _ _ => 1
  | .sequence _ _ items => 2 + partsOfItems items
  | .mapping _ _ pairs => 2 + partsOfPairs pairs

def partsOfItems : List (Tree Nat) → Nat
  | [] => 0
  | t :: ts => parts t + partsOfItems ts

def partsOfPairs : List (Tree Nat × Tree Nat) → Nat
  | [] => 0
  | (k, v) :: ps => parts k + parts v + partsOfPairs ps

end

end Tree

namespace Node

/-- The name of a local tag, which begins with an exclamation mark; an empty name is a fault. Of a
second mark nothing is kept either. -/
def localTag? (tag : Option String) : Scan (Option String) :=
  match tag.map String.toList with
  | some ['!'] => .error .badTag
  | some ('!' :: '!' :: name) | some ('!' :: name) => .ok (some (String.ofList name))
  | _ => .ok none

/-- Puts a local tag onto a node. -/
def withTag (tag : Option String) (n : Node) : Node :=
  match tag with
  | none => n
  | some t => .tagged t n

/-- Adds a pair to a mapping, which must not have its key. -/
def addPair (pairs : List (Node × Node)) (key value : Node) : Scan (List (Node × Node)) :=
  if pairs.any fun p => p.1.same key then .error .repeatedKey else .ok (pairs ++ [(key, value)])

/-- The value of a tree whose aliases are numbers. `depth` bounds the nesting of collections, and
the state counts the aliases that may still be followed. -/
def ofTree (nodes : Numbered) (depth : Nat) (t : Tree Nat) : StateT Nat Scan Node := do
  let t ←
    match t with
    | .alias n => do
      -- aliases may stand for collections of aliases, so that the value would grow without a bound
      let left ← get
      if left = 0 then throw .tooManyAliases
      set (left - 1)
      match nodes.lookup n with
      | some t => pure t
      | none => throw .unknownAlias
    | t => pure t
  match depth, t with
  | _, .alias _ => throw .unknownAlias
  -- a local tag stays with the value, and any other one decides what the scalar is
  | _, .scalar _ tag s style => do
    let name ← localTag? tag
    withTag name <$> ofScalar (if name.isSome then none else tag) s style
  | 0, _ => throw .tooDeep
  | depth + 1, .sequence _ tag items => do
    let name ← localTag? tag
    withTag name <$> .sequence <$> items.mapM (ofTree nodes depth)
  | depth + 1, .mapping _ tag pairs => do
    let name ← localTag? tag
    let pairs ← pairs.foldlM (fun done (k, v) => do
      let key ← ofTree nodes depth k
      let value ← ofTree nodes depth v
      addPair done key value) []
    pure (withTag name (.mapping pairs))

def ofText (s : String) : Scan Node := do
  let tree ← Tree.ofTokens (← Token.ofText s)
  let (tree, nodes, _) ← tree.number []
  let (n, _) ← (ofTree nodes.reverse 128 tree).run (100 * tree.parts)
  .ok n

end Node

end FabricAudit.Yaml
