import FabricAudit.Proofs.Decimal.Digits
import FabricAudit.Proofs.Document.Path
import FabricAudit.Proofs.Yaml.Reordered

set_option autoImplicit false

/-! # Looking up in a YAML value

A dotted path can be followed in a YAML value itself: at each level tags are taken off, and of the
pairs whose keys have the text that is looked for the last one counts (`Yaml.Node.descend?`). That
leads to the value whose document is found in the document of the whole
(`walk_toDocument`), and where nothing is found, `Yaml.Node.Blocked` says what was in the way.
-/

namespace FabricAudit.Yaml.Node

/-- The value of the last pair whose key has the text, if this is a mapping that has one. -/
def child? (n : Node) (key : String) : Option Node :=
  n.pairs?.bind fun pairs => Keyed.last? (pairs.map fun p => (p.1.keyText, p.2)) key

/-- The value that a walk along keys leads to. -/
def descend? : Node → List String → Option Node
  | n, [] => some n
  | n, key :: rest => (n.child? key).bind (descend? · rest)

/-- What keeps a walk along keys from leading to anything but null. -/
inductive Blocked : Node → List String → Prop where
  /-- There is a key to look for, and no mapping. -/
  | notMapping {n : Node} {key : String} {rest : List String} (h : n.pairs? = none) :
      Blocked n (key :: rest)
  /-- There is a mapping, and none of its keys has the text that is looked for. -/
  | noKey {n : Node} {pairs : List (Node × Node)} {key : String} {rest : List String}
      (h : n.pairs? = some pairs) (hkey : ∀ p ∈ pairs, p.1.keyText ≠ key) :
      Blocked n (key :: rest)
  /-- The walk ends at a value whose document is null. -/
  | null {n : Node} (h : n.toDocument = .null) : Blocked n []
  /-- The rest of the walk is blocked. -/
  | deeper {n m : Node} {key : String} {rest : List String} (h : n.child? key = some m)
      (hm : Blocked m rest) : Blocked n (key :: rest)

/-! ## One level -/

/-- Tags are dropped from values. -/
theorem toDocument_untag : ∀ n : Node, n.untag.toDocument = n.toDocument
  | .tagged _ n => by rw [untag, toDocument, toDocument_untag n]
  | .null | .bool _ | .int _ | .float _ | .text _ | .sequence _ | .mapping _ => rfl

theorem untag_ne_tagged {tag : String} {m : Node} : ∀ n : Node, n.untag ≠ .tagged tag m
  | .tagged _ n => by rw [untag]; exact untag_ne_tagged n
  | .null | .bool _ | .int _ | .float _ | .text _ | .sequence _ | .mapping _ => nofun

theorem pairs?_eq_some_iff {n : Node} {pairs : List (Node × Node)} :
    n.pairs? = some pairs ↔ n.untag = .mapping pairs := by
  rw [pairs?]
  cases n.untag <;> simp

/-- **One level down** the document has what the value has. -/
theorem get?_toDocument (n : Node) (key : String) :
    n.toDocument.get? key = (n.child? key).map toDocument := by
  rw [← toDocument_untag, child?, pairs?]
  cases hn : n.untag with
  | mapping pairs =>
      rw [toDocument, pairsToDocument_eq_map, Option.bind_some, ← Keyed.last?_map, List.map_map]
      exact Keyed.get?_ofList _ _
  | tagged tag m => exact absurd hn (untag_ne_tagged n)
  | float x => cases x <;> rfl
  | null => rfl
  | bool b => rfl
  | int i => rfl
  | text s => rfl
  | sequence items => rfl

/-- Nothing is one level down exactly if this is no mapping or has no such key. -/
theorem child?_eq_none_iff {n : Node} {key : String} :
    n.child? key = none ↔ n.pairs? = none ∨
      ∃ pairs, n.pairs? = some pairs ∧ ∀ p ∈ pairs, p.1.keyText ≠ key := by
  rw [child?]
  rcases n.pairs? with _ | pairs
  · simp
  · simp only [Option.bind_some, Keyed.last?_eq_none_iff, List.forall_mem_map, reduceCtorEq,
      Option.some.injEq, exists_eq_left', false_or]

/-- **The last pair with a text counts as a whole**, whatever the pairs before it hold. -/
theorem child?_of_last {n k v : Node} {front back : List (Node × Node)}
    (hn : n.untag = .mapping (front ++ (k, v) :: back))
    (hback : ∀ p ∈ back, p.1.keyText ≠ k.keyText) : n.child? k.keyText = some v := by
  rw [child?, pairs?_eq_some_iff.mpr hn, Option.bind_some, List.map_append, List.map_cons]
  exact Keyed.last?_append_cons v (List.forall_mem_map.mpr hback)

/-! ## Walks -/

/-- **Following a walk in the value and in its document** leads to the same. -/
theorem walk_toDocument (n : Node) (keys : List String) :
    n.toDocument.walk keys = (n.descend? keys).map toDocument := by
  induction keys generalizing n with
  | nil => rfl
  | cons key rest ih =>
      rw [Document.walk, descend?, get?_toDocument, Option.map_bind, Option.bind_map]
      exact Option.bind_congr fun m _ => ih m

/-- A walk is blocked exactly if it leads nowhere or to null. -/
theorem blocked_iff {n : Node} {keys : List String} :
    Blocked n keys ↔ ∀ m, n.descend? keys = some m → m.toDocument = .null := by
  constructor
  · intro h
    induction h with
    | notMapping h =>
        intro m hm
        rw [descend?, child?_eq_none_iff.mpr (.inl h)] at hm
        cases hm
    | noKey h hkey =>
        intro m hm
        rw [descend?, child?_eq_none_iff.mpr (.inr ⟨_, h, hkey⟩)] at hm
        cases hm
    | null h =>
        intro m hm
        rwa [← Option.some.inj hm]
    | deeper h _ ih =>
        intro m hm
        rw [descend?, h] at hm
        exact ih m hm
  · intro h
    -- the walk is followed key by key, up to where it is blocked
    induction keys generalizing n with
    | nil => exact .null (h n rfl)
    | cons key rest ih =>
        rcases hchild : n.child? key with _ | m
        · rcases child?_eq_none_iff.mp hchild with hnone | ⟨pairs, hpairs, hkey⟩
          · exact .notMapping hnone
          · exact .noKey hpairs hkey
        · refine .deeper hchild (ih fun m' hm' => h m' ?_)
          rw [descend?, hchild]
          exact hm'

/-! ## Paths -/

/-- What a path finds in the document is the document of what it leads to, unless that is null. -/
theorem resolve_toDocument (n : Node) (path : String) :
    n.toDocument.resolve path
      = ((n.descend? (Text.splitAt '.' path)).map toDocument).filter fun d => !d.isNull := by
  rw [Document.resolve_eq, walk_toDocument]

theorem isNull_iff {d : Document} : d.isNull = true ↔ d = .null := by
  cases d <;> simp [Document.isNull]

/-- Nothing is found exactly if the walk is blocked. -/
theorem resolve_toDocument_eq_none_iff (n : Node) (path : String) :
    n.toDocument.resolve path = none ↔ Blocked n (Text.splitAt '.' path) := by
  rw [resolve_toDocument, blocked_iff, Option.filter_eq_none_iff]
  simp [isNull_iff]

/-- **Below a key** whose text holds no dot, a path goes on from the last value of this text. -/
theorem resolve_below {n k v : Node} {front back : List (Node × Node)}
    (hn : n.untag = .mapping (front ++ (k, v) :: back))
    (hback : ∀ p ∈ back, p.1.keyText ≠ k.keyText) (hdot : '.' ∉ k.keyText.toList)
    (path : String) :
    n.toDocument.resolve (k.keyText ++ "." ++ path) = v.toDocument.resolve path := by
  rw [resolve_toDocument, resolve_toDocument, Text.splitAt_dot_append hdot, descend?,
    child?_of_last hn hback, Option.bind_some]

/-- At such a key the last value of this text is found. -/
theorem resolve_at {n k v : Node} {front back : List (Node × Node)}
    (hn : n.untag = .mapping (front ++ (k, v) :: back))
    (hback : ∀ p ∈ back, p.1.keyText ≠ k.keyText) (hdot : '.' ∉ k.keyText.toList) :
    n.toDocument.resolve k.keyText = (some v.toDocument).filter fun d => !d.isNull := by
  rw [resolve_toDocument, Text.splitAt_eq_singleton hdot, descend?, child?_of_last hn hback]
  rfl

/-- The numeral of an integer holds no dot. -/
theorem dot_not_mem_ofInt (i : Int) : '.' ∉ (Decimal.ofInt i).toList := by
  have hdigits : ∀ m : Nat, '.' ∉ (Decimal.ofNat m).toList := by
    intro m hmem
    rw [Decimal.toList_ofNat] at hmem
    exact absurd ((Decimal.isNumeral_digits m).digits '.' hmem) (by decide)
  cases i with
  | ofNat m => exact hdigits m
  | negSucc m => simp [Decimal.ofInt, hdigits]

/-- The keys that are no texts and still are found under one: integers, truth values and null. -/
inductive IsWordKey : Node → String → Prop where
  | int (i : Int) : IsWordKey (.int i) (Decimal.ofInt i)
  | bool (b : Bool) : IsWordKey (.bool b) (if b then "true" else "false")
  | null : IsWordKey .null "null"

theorem IsWordKey.keyText_eq {k : Node} {text : String} (h : IsWordKey k text) :
    k.keyText = text := by
  cases h with
  | int i => rfl
  | bool b => cases b <;> rfl
  | null => rfl

theorem IsWordKey.dot_not_mem {k : Node} {text : String} (h : IsWordKey k text) :
    '.' ∉ text.toList := by
  cases h with
  | int i => exact dot_not_mem_ofInt i
  | bool b => cases b <;> decide
  | null => decide

/-- **A path finds in the document what it leads to in the value.**

Take any YAML value and any dotted path. What the path finds in the document of the value is the
document of what its walk leads to in the value itself, tags taken off at each level and of the
pairs whose keys have one text the last one taken; nothing is found exactly if the walk is blocked:
some level is no mapping or has no key of that text, or the value at the end has null for its
document. Integers, truth values and null have a text without a dot as keys. Under such a text, of
whatever key, the last value that has it is found as a whole: at the text itself unless its document
is null, and below it all that its own document has and nothing of the pairs before it. -/
theorem resolve_toDocument_walks (n : Node) (path : String) :
    n.toDocument.resolve path
      = ((n.descend? (Text.splitAt '.' path)).map toDocument).filter (fun d => !d.isNull) ∧
    (n.toDocument.resolve path = none ↔ Blocked n (Text.splitAt '.' path)) ∧
    (∀ k text, IsWordKey k text → k.keyText = text ∧ '.' ∉ text.toList) ∧
    ∀ front k v back, n.untag = .mapping (front ++ (k, v) :: back) →
      (∀ p ∈ back, p.1.keyText ≠ k.keyText) → '.' ∉ k.keyText.toList →
      n.toDocument.resolve k.keyText = (some v.toDocument).filter (fun d => !d.isNull) ∧
      n.toDocument.resolve (k.keyText ++ "." ++ path) = v.toDocument.resolve path :=
  ⟨resolve_toDocument n path, resolve_toDocument_eq_none_iff n path,
    fun _ _ hkey => ⟨hkey.keyText_eq, hkey.dot_not_mem⟩,
    fun _ _ _ _ hn hback hdot => ⟨resolve_at hn hback hdot, resolve_below hn hback hdot path⟩⟩

/-- A mapping behind a tag whose first and last keys have the text `10`. -/
def twoTens : Node :=
  .tagged "vlans" (.mapping
    [(.text "10", .mapping [(.text "vni", .int 1), (.text "name", .text "old")]),
      (.bool true, .float .notANumber),
      (.int 10, .tagged "vlan" (.mapping [(.text "vni", .int 10010)]))])

/-- The number is the later one, so the name under the text is gone; what is not a number is found
nowhere. -/
theorem resolve_toDocument_walks_twoTens :
    twoTens.toDocument.resolve "10.vni" = some (.int 10010) ∧
    twoTens.toDocument.resolve "10.name" = none ∧
    twoTens.toDocument.resolve "true" = none := by
  obtain ⟨hten, hdot⟩ := (resolve_toDocument_walks twoTens "").2.2.1 _ _ (.int 10)
  have hnumeral : Decimal.ofInt 10 = "10" := by decide +kernel
  have hbelow : ∀ path, twoTens.toDocument.resolve ("10" ++ "." ++ path)
      = (toDocument (.mapping [(.text "vni", .int 10010)])).resolve path := by
    intro path
    have h := (resolve_toDocument_walks twoTens path).2.2.2 [_, _] (.int 10) _ [] rfl nofun
      (hten ▸ hdot)
    rw [hten, hnumeral] at h
    exact h.2
  have htrue := (resolve_toDocument_walks twoTens "").2.2.2 [_] (.bool true) _ [_] rfl
    (List.forall_mem_singleton.mpr (by rw [hten, hnumeral]; decide)) (by decide)
  exact ⟨(hbelow "vni").trans rfl, (hbelow "name").trans rfl, htrue.1.trans rfl⟩

end FabricAudit.Yaml.Node
