import TaskGraph.Decimal.Numeral
import TaskGraph.Json.Basic
import TaskGraph.Yaml.Node

/-!
# Values of YAML nodes

A plain scalar is null, a truth value, an integer in base two, eight, ten or sixteen, a number, or else
a text. Digits with a zero in front are a text. A quoted scalar is a text. The keys of a mapping are
texts, whatever they look like; of equal keys the last one stays.
-/

set_option autoImplicit false

namespace TaskGraph.Yaml

/-- Whether a plain scalar is null. -/
def isNull (s : String) : Bool := ["", "~", "null", "Null", "NULL"].contains s

/-- The truth value of a plain scalar. -/
def bool? (s : String) : Option Bool :=
  if ["true", "True", "TRUE"].contains s then some true
  else if ["false", "False", "FALSE"].contains s then some false
  else none

/-- A text without a sign in front. -/
def unsigned : List Char → List Char
  | '+' :: cs => cs
  | '-' :: cs => cs
  | cs => cs

/-- Several digits the first of which is zero. -/
def isPaddedDigits (cs : List Char) : Bool :=
  match unsigned cs with
  | '0' :: d :: ds => (d :: ds).all Decimal.isDigit
  | _ => false

/-- The magnitude of an integer in any of the four bases. -/
def magnitude? : List Char → Option Nat
  | '0' :: 'x' :: cs => Decimal.natIn? 16 cs
  | '0' :: 'o' :: cs => Decimal.natIn? 8 cs
  | '0' :: 'b' :: cs => Decimal.natIn? 2 cs
  | cs => if isPaddedDigits cs then none else Decimal.natIn? 10 cs

/-- The integer that a plain scalar stands for. -/
def int? : List Char → Option Int
  | '-' :: cs => (magnitude? cs).map fun n => -(n : Int)
  | '+' :: cs => (magnitude? cs).map Int.ofNat
  | cs => (magnitude? cs).map Int.ofNat

/-- The number that a plain scalar stands for; one that is not finite is null. -/
def number? (s : String) : Option Json :=
  if [".inf", ".Inf", ".INF", "+.inf", "+.Inf", "+.INF", "-.inf", "-.Inf", "-.INF", ".nan", ".NaN",
      ".NAN"].contains s then some .null
  else if isPaddedDigits s.toList then none
  else match Decimal.float? s.toList with
    | some x => if x.isFinite then some (.float x) else none
    | none => none

/-- Whether an integer fits 64 bits, with or without a sign. -/
def fits (n : Int) : Bool := -9223372036854775808 ≤ n && n ≤ 18446744073709551615

/-- The value of a plain scalar. -/
def plainValue (s : String) : Except String Json :=
  if isNull s then .ok .null
  else match bool? s with
    | some b => .ok (.bool b)
    | none => match int? s.toList with
      | some n =>
        if fits n then .ok (.int n)
        else if n.natAbs < Nat.pow 2 128 then .error "integer out of range"
        else .ok ((number? s).getD (.str s))
      | none => .ok ((number? s).getD (.str s))

/-- The value of a scalar with a tag. -/
def taggedValue (tag s : String) : Except String Json :=
  let orElse (what : String) (v : Option Json) : Except String Json :=
    match v with
    | some v => .ok v
    | none => .error ("invalid value: string, expected " ++ what)
  match tag with
  | "!!bool" | "tag:yaml.org,2002:bool" => orElse "a boolean" ((bool? s).map .bool)
  | "!!int" | "tag:yaml.org,2002:int" =>
    orElse "an integer" ((int? s.toList).bind fun n => if fits n then some (.int n) else none)
  | "!!float" | "tag:yaml.org,2002:float" => match Decimal.float? s.toList with
    | some x => .ok (Json.ofFloat x)
    | none => orElse "a float" (number? s)
  | "!!null" | "tag:yaml.org,2002:null" => orElse "null" (if isNull s then some .null else none)
  | tag =>
    if tag = "!" || tag.startsWith "!!" || tag.startsWith "tag:" then .ok (.str s)
    else .error "tagged values are not supported"

/-- Whether a collection may have a tag. -/
def collectionTag : Option String → Except String Unit
  | none => .ok ()
  | some tag =>
    if tag = "!" || tag.startsWith "!!" || tag.startsWith "tag:" then .ok ()
    else .error "tagged values are not supported"

namespace Node

/-- The text of a scalar. -/
def text? : Node → Except String String
  | scalar s _ _ => .ok s
  | _ => .error "invalid type, expected a string"

mutual

/-- The value of a node. -/
def toJson : Node → Except String Json
  | scalar s plain tag => match tag with
    | some tag => taggedValue tag s
    | none => if plain then plainValue s else .ok (.str s)
  | sequence xs tag => do
    collectionTag tag
    let vs ← toJsonItems xs
    pure (.arr vs)
  | mapping es tag => do
    collectionTag tag
    let m ← toJsonEntries [] es
    pure (.obj m)

/-- The values of a list of nodes. -/
def toJsonItems : List Node → Except String (List Json)
  | [] => .ok []
  | x :: xs => do
    let v ← toJson x
    let vs ← toJsonItems xs
    pure (v :: vs)

/-- Adds the entries of a mapping to members. -/
def toJsonEntries (done : Members) : List (Node × Node) → Except String Members
  | [] => .ok done
  | (k, v) :: es => do
    let k ← text? k
    let v ← toJson v
    toJsonEntries (done.insert k v) es

end

/-- Whether a node is a plain null. -/
def isNull : Node → Bool
  | scalar s true none => Yaml.isNull s
  | _ => false

end Node

end TaskGraph.Yaml
