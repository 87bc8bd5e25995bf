import FabricAudit.Decimal.Binary64
import FabricAudit.Text.Search
import FabricAudit.Word
import FabricAudit.Yaml.Token

set_option autoImplicit false

/-! # Nodes of a YAML document

The values that a YAML text denotes. Aliases have been followed, and plain scalars have the type
that their form says: null, a truth value, an integer, a float, or else a text. A tag of the
language forces the type of a scalar; a local tag stays with its node.

Aliases are numbered: the nodes with an anchor get the number of anchor names known before them, and
an alias means the number of its name at that place, whichever node has that number in the end.
-/

namespace FabricAudit.Yaml

inductive Real where
  | finite (x : Binary64)
  | infinite (negative : Bool)
  | notANumber
  deriving DecidableEq

/-- Equality of numbers as keys: the zeros are equal, and so is what is not a number. -/
def Real.same : Real → Real → Bool
  | .finite x, .finite y => x.same y
  | .infinite a, .infinite b => a == b
  | .notANumber, .notANumber => true
  | _, _ => false

inductive Node where
  | null
  | bool (b : Bool)
  | int (n : Int)
  | float (x : Real)
  | text (s : String)
  | sequence (items : List Node)
  | mapping (pairs : List (Node × Node))
  | tagged (tag : String) (node : Node)
  deriving Inhabited

namespace Node

mutual

/-- Equality of values; the order of the pairs of a mapping does not count. -/
def same : Node → Node → Bool
  | .null, .null => true
  | .bool a, .bool b => a == b
  | .int a, .int b => a == b
  | .float x, .float y => x.same y
  | .text s, .text t => s == t
  | .sequence xs, .sequence ys => sameItems xs ys
  | .mapping ps, .mapping qs => ps.length == qs.length && within qs ps
  | .tagged t x, .tagged u y => t == u && same x y
  | _, _ => false

def sameItems : List Node → List Node → Bool
  | [], [] => true
  | x :: xs, y :: ys => same x y && sameItems xs ys
  | _, _ => false

/-- Whether each pair of a mapping is among the pairs `qs`. -/
def within (qs : List (Node × Node)) : List (Node × Node) → Bool
  | [] => true
  | (k, v) :: rest => qs.any (fun q => same k q.1 && same v q.2) && within qs rest

end

/-! ## The type of a scalar -/

/-- Digits after a zero: such a text is no number. -/
def hasLeadingZero (cs : List Char) : Bool :=
  let body := match cs with
    | '-' :: rest | '+' :: rest => rest
    | rest => rest
  match body with
  | '0' :: d :: rest => (d :: rest).all Decimal.isDigit
  | _ => false

/-- The number that digits in a base denote, after its mark if it has one. -/
def magnitude? : List Char → Option Nat
  | '0' :: 'x' :: rest => Decimal.inBase? 16 rest
  | '0' :: 'o' :: rest => Decimal.inBase? 8 rest
  | '0' :: 'b' :: rest => Decimal.inBase? 2 rest
  | ds => Decimal.toNat? ds

def integer? (cs : List Char) : Option Int :=
  if hasLeadingZero cs then none
  else
    match cs with
    | '+' :: rest => (magnitude? rest).map fun n => (n : Int)
    | '-' :: rest => (magnitude? rest).map fun n => -(n : Int)
    | rest => (magnitude? rest).map fun n => (n : Int)

/-- The number of a decimal text without a sign: digits with at most one point among or around them,
and perhaps an exponent. -/
def decimal? (negative : Bool) (cs : List Char) : Option Real :=
  let whole := cs.takeWhile Decimal.isDigit
  let rest := cs.drop whole.length
  let (fraction, rest) := match rest with
    | '.' :: rest => (rest.takeWhile Decimal.isDigit, rest.dropWhile Decimal.isDigit)
    | rest => ([], rest)
  let power : Option Int := match rest with
    | [] => some 0
    | e :: rest =>
      if e = 'e' ∨ e = 'E' then
        match rest with
        | '-' :: ds => (Decimal.toNat? ds).map fun n => -(n : Int)
        | '+' :: ds => (Decimal.toNat? ds).map fun n => (n : Int)
        | ds => (Decimal.toNat? ds).map fun n => (n : Int)
      else none
  if whole.isEmpty && fraction.isEmpty then none
  else power.bind fun p =>
    (Binary64.ofDecimal negative (Decimal.value (whole ++ fraction)) (p - fraction.length)).map
      .finite

/-- The float that a text denotes; one that is too large to be finite denotes none. -/
def float? (s : String) : Option Real :=
  match s with
  | ".inf" | ".Inf" | ".INF" | "+.inf" | "+.Inf" | "+.INF" => some (.infinite false)
  | "-.inf" | "-.Inf" | "-.INF" => some (.infinite true)
  | ".nan" | ".NaN" | ".NAN" => some .notANumber
  | s =>
    match s.toList with
    | '+' :: rest => decimal? false rest
    | '-' :: rest => decimal? true rest
    | rest => decimal? false rest

/-- The truth value that a text denotes. -/
def bool? : String → Option Bool
  | "true" | "True" | "TRUE" => some true
  | "false" | "False" | "FALSE" => some false
  | _ => none

def isNull : String → Bool
  | "null" | "Null" | "NULL" | "~" => true
  | _ => false

/-- What is wrong or right with an integer: those of 64 bits are values, and wider ones up to 128
bits are refused; beyond that a text is no integer. -/
inductive Width where
  | value (n : Int)
  | refused
  | none

/-- The width of the integer that a text denotes. -/
def width (s : String) : Width :=
  match integer? s.toList with
  | .none => .none
  | .some n =>
    if (Word.signed 64).holds n || (Word.unsigned 64).holds n then .value n
    else if (Word.signed 128).holds n || (Word.unsigned 128).holds n then .refused
    else .none

def ofPlain (s : String) : Scan Node :=
  if s = "" ∨ isNull s then .ok .null
  else
    match bool? s with
    | some b => .ok (.bool b)
    | none =>
      match width s with
      | .value n => .ok (.int n)
      | .refused => .error .badValue
      | .none =>
        if hasLeadingZero s.toList then .ok (.text s)
        else
          match float? s with
          | some x => .ok (.float x)
          | none => .ok (.text s)

/-- The value of a scalar with a tag of the language. -/
def ofTagged (tag s : String) : Scan Node :=
  let need (found : Option Node) : Scan Node :=
    match found with
    | some n => .ok n
    | none => .error .badValue
  match tag with
  | "tag:yaml.org,2002:bool" => need ((bool? s).map .bool)
  | "tag:yaml.org,2002:int" =>
    match width s with
    | .value n => .ok (.int n)
    | _ => .error .badValue
  | "tag:yaml.org,2002:float" => need ((float? s).map .float)
  | "tag:yaml.org,2002:null" => need (if isNull s then some .null else none)
  | _ => .ok (.text s)

def ofScalar (tag : Option String) (s : String) (style : Style) : Scan Node :=
  match tag, style with
  | some tag, _ => ofTagged tag s
  | none, .plain => ofPlain s
  | none, _ => .ok (.text s)

end Node

end FabricAudit.Yaml
