import FabricAudit.Yaml.Token

set_option autoImplicit false

/-! # Trees of a YAML text

The tokens of a text form a tree of scalars, sequences, mappings and aliases. Reading it is a
recursive descent over the list of tokens. A node may carry an anchor and a tag, whose handle is
replaced as the directives of the document say. An absent node is an empty plain scalar.

A text holds at most one document; a text without any is an absent node.
-/

namespace FabricAudit.Yaml

/-- A node of a YAML text, before aliases are followed and scalars are given a type. An alias is an
`α`: the name in the text, or what has been put in its place. -/
inductive Tree (α : Type) where
  | alias (target : α)
  | scalar (anchor tag : Option String) (text : String) (style : Style)
  | sequence (anchor tag : Option String) (items : List (Tree α))
  | mapping (anchor tag : Option String) (pairs : List (Tree α × Tree α))

namespace Tree

def absent {α : Type} : Tree α := .scalar none none "" .plain

/-- The handles of a document and what they stand for. -/
abbrev Handles := List (String × String)

/-- The handles that need no directive. -/
def defaultHandles : Handles := [("!", "!"), ("!!", "tag:yaml.org,2002:")]

def fullTag (handles : Handles) (handle suffix : String) : Scan String :=
  if handle = "" then .ok suffix
  else
    match handles.lookup handle with
    | some start => .ok (start ++ suffix)
    | none => .error .badTag

/-- The anchor and tag before a node, each at most once and in either order. -/
def properties (handles : Handles) (ts : List Token) :
    Scan (Option String × Option String × List Token) :=
  match ts with
  | .anchor a :: .tag h s :: rest => do .ok (some a, some (← fullTag handles h s), rest)
  | .anchor a :: rest => .ok (some a, none, rest)
  | .tag h s :: .anchor a :: rest => do .ok (some a, some (← fullTag handles h s), rest)
  | .tag h s :: rest => do .ok (none, some (← fullTag handles h s), rest)
  | rest => .ok (none, none, rest)

/-- Whether the next token is one of those that `p` accepts; the end of the tokens is one as
well. -/
def stopsAt (p : Token → Bool) : List Token → Bool
  | [] => true
  | t :: _ => p t

/-- A token that a missing item of a block sequence is followed by. -/
def endsItem (t : Token) : Bool := t == .entry || t == .blockEnd

/-- A token that a missing key or value of a block mapping is followed by. -/
def endsPart (t : Token) : Bool := t == .key || t == .value || t == .blockEnd

/-- A token that a missing item is followed by, when its sequence has no indentation of its own. -/
def endsLooseItem (t : Token) : Bool := t == .entry || endsPart t

mutual

/-- A node. Block collections can begin only where `block` holds; a sequence that is not indented
deeper than the key before it only where `loose` does. -/
def readNode (handles : Handles) : Nat → Bool → Bool → List Token → Scan (Tree String × List Token)
  | 0, _, _, _ => .error .badStructure
  | fuel + 1, block, loose, ts =>
    match ts with
    | .alias name :: rest => .ok (.alias name, rest)
    | _ => do
      let (anchor, tag, rest) ← properties handles ts
      match rest with
      -- a sequence may stand at the column of the key that it belongs to
      | .entry :: _ =>
        if loose then
          let (items, rest) ← readLoose handles fuel rest
          .ok (.sequence anchor tag items, rest)
        else missing anchor tag rest
      | .scalar text style :: rest =>
        .ok (.scalar anchor (if tag = some "!" then none else tag) text style, rest)
      | .flowSequenceStart :: rest =>
        let (items, rest) ← readFlowItems handles fuel true rest
        .ok (.sequence anchor tag items, rest)
      | .flowMappingStart :: rest =>
        let (pairs, rest) ← readFlowPairs handles fuel true rest
        .ok (.mapping anchor tag pairs, rest)
      | .sequenceStart :: inner =>
        if block then
          let (items, rest) ← readItems handles fuel inner
          .ok (.sequence anchor tag items, rest)
        else missing anchor tag rest
      | .mappingStart :: inner =>
        if block then
          let (pairs, rest) ← readPairs handles fuel inner
          .ok (.mapping anchor tag pairs, rest)
        else missing anchor tag rest
      | rest => missing anchor tag rest

/-- A node without content, which must have an anchor or a tag. -/
def missing (anchor tag : Option String) (rest : List Token) : Scan (Tree String × List Token) :=
  if anchor.isSome || tag.isSome then .ok (.scalar anchor tag "" .plain, rest)
  else .error .badStructure

def readItems (handles : Handles) : Nat → List Token → Scan (List (Tree String) × List Token)
  | 0, _ => .error .badStructure
  | fuel + 1, ts =>
    match ts with
    | .entry :: rest => do
      let (item, rest) ←
        if stopsAt endsItem rest then .ok (absent, rest)
        else readNode handles fuel true false rest
      let (items, rest) ← readItems handles fuel rest
      .ok (item :: items, rest)
    | .blockEnd :: rest => .ok ([], rest)
    | _ => .error .badStructure

/-- The items of a sequence without indentation of its own. -/
def readLoose (handles : Handles) : Nat → List Token → Scan (List (Tree String) × List Token)
  | 0, _ => .error .badStructure
  | fuel + 1, ts =>
    match ts with
    | .entry :: rest => do
      let (item, rest) ←
        if stopsAt endsLooseItem rest then .ok (absent, rest)
        else readNode handles fuel true false rest
      let (items, rest) ← readLoose handles fuel rest
      .ok (item :: items, rest)
    | rest => .ok ([], rest)

def readBlockValue (handles : Handles) : Nat → List Token → Scan (Tree String × List Token)
  | 0, _ => .error .badStructure
  | fuel + 1, ts =>
    match ts with
    | .value :: rest =>
      if stopsAt endsPart rest then .ok (absent, rest)
      else readNode handles fuel true true rest
    | rest => .ok (absent, rest)

def readPairs (handles : Handles) :
    Nat → List Token → Scan (List (Tree String × Tree String) × List Token)
  | 0, _ => .error .badStructure
  | fuel + 1, ts =>
    match ts with
    | .key :: rest => do
      let (key, rest) ←
        if stopsAt endsPart rest then .ok (absent, rest)
        else readNode handles fuel true true rest
      let (value, rest) ← readBlockValue handles fuel rest
      let (pairs, rest) ← readPairs handles fuel rest
      .ok ((key, value) :: pairs, rest)
    | .blockEnd :: rest => .ok ([], rest)
    | _ => .error .badStructure

/-- The value of a pair inside a flow collection that ends with `close`. -/
def readFlowValue (handles : Handles) (close : Token) :
    Nat → List Token → Scan (Tree String × List Token)
  | 0, _ => .error .badStructure
  | fuel + 1, ts =>
    match ts with
    | .value :: rest =>
      if stopsAt (fun t => t == .flowEntry || t == close) rest then .ok (absent, rest)
      else readNode handles fuel false false rest
    | rest => .ok (absent, rest)

/-- The items of a flow sequence. An item that is announced as a key is a mapping of one pair. -/
def readFlowItems (handles : Handles) :
    Nat → Bool → List Token → Scan (List (Tree String) × List Token)
  | 0, _, _ => .error .badStructure
  | fuel + 1, first, ts => do
    let ts ←
      match first, ts with
      | _, .flowSequenceEnd :: _ => .ok ts
      | true, _ => .ok ts
      | false, .flowEntry :: rest => .ok rest
      | false, _ => .error .badStructure
    match ts with
    | .flowSequenceEnd :: rest => .ok ([], rest)
    -- an announced key makes a mapping of one pair
    | .key :: rest =>
      let (key, rest) ←
        if stopsAt (fun t => t == .value || t == .flowEntry || t == .flowSequenceEnd) rest then
          .ok (absent, rest.drop 1)
        else readNode handles fuel false false rest
      let (value, rest) ← readFlowValue handles .flowSequenceEnd fuel rest
      let (items, rest) ← readFlowItems handles fuel false rest
      .ok (.mapping none none [(key, value)] :: items, rest)
    | _ =>
      let (item, rest) ← readNode handles fuel false false ts
      let (items, rest) ← readFlowItems handles fuel false rest
      .ok (item :: items, rest)

/-- The pairs of a flow mapping. A key that is not announced has no value. -/
def readFlowPairs (handles : Handles) :
    Nat → Bool → List Token → Scan (List (Tree String × Tree String) × List Token)
  | 0, _, _ => .error .badStructure
  | fuel + 1, first, ts => do
    let ts ←
      match first, ts with
      | _, .flowMappingEnd :: _ => .ok ts
      | true, _ => .ok ts
      | false, .flowEntry :: rest => .ok rest
      | false, _ => .error .badStructure
    match ts with
    | .flowMappingEnd :: rest => .ok ([], rest)
    | .key :: rest =>
      let (key, rest) ←
        if stopsAt (fun t => t == .value || t == .flowEntry || t == .flowMappingEnd) rest then
          .ok (absent, rest)
        else readNode handles fuel false false rest
      let (value, rest) ← readFlowValue handles .flowMappingEnd fuel rest
      let (pairs, rest) ← readFlowPairs handles fuel false rest
      .ok ((key, value) :: pairs, rest)
    | _ =>
      let (key, rest) ← readNode handles fuel false false ts
      let (pairs, rest) ← readFlowPairs handles fuel false rest
      .ok ((key, absent) :: pairs, rest)

end

/-- The directives before a document: at most one version, which must be 1.1 or 1.2, and handles for
tags, no handle twice. -/
def readDirectives (version : Bool) (handles : Handles) : List Token → Scan (Handles × List Token)
  | .version major minor :: rest =>
    if version ∨ major ≠ 1 ∨ (minor ≠ 1 ∧ minor ≠ 2) then .error .badDirective
    else readDirectives true handles rest
  | .tagDirective handle start :: rest =>
    if (handles.lookup handle).isSome then .error .badDirective
    else readDirectives version (handles ++ [(handle, start)]) rest
  | rest => .ok (handles, rest)

/-- Whether a token cannot begin the content of a document. -/
def endsDocument : Token → Bool
  | .version _ _ | .tagDirective _ _ | .documentStart | .documentEnd => true
  | _ => false

def ofTokens (ts : List Token) : Scan (Tree String) := do
  let fuel := 4 * ts.length + 4
  let (tree, rest) ←
    match ts with
    | [] => .ok (absent, [])
    | .version _ _ :: _ | .tagDirective _ _ :: _ | .documentStart :: _ => do
      let (handles, rest) ← readDirectives false [] ts
      match rest with
      | .documentStart :: rest =>
        if stopsAt endsDocument rest then .ok (absent, rest)
        else readNode (handles ++ defaultHandles) fuel true false rest
      | _ => .error .badStructure
    | ts => readNode defaultHandles fuel true false ts
  if (rest.dropWhile (· == .documentEnd)).isEmpty then .ok tree else .error .secondDocument

end Tree

end FabricAudit.Yaml
