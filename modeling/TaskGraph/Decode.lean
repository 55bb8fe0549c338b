import TaskGraph.Text.Shown

/-!
# Typed values from JSON

A decoder reads a value of a type out of a JSON value or says what it found and what it expected. The
fields of a record are described once, by `Fields`, and read from an object by name or from an array by
position. In an object the faults of the fields present come first, in key order, then the fields that
are missing, in the order of declaration; fields that are not described are ignored.
-/

set_option autoImplicit false

namespace TaskGraph

/-- Reads a value of a type out of a JSON value. -/
abbrev Decoder (α : Type) := Json → Except String α

namespace Decode

/-- What a message calls a value. -/
def found : Json → String
  | .null => "null"
  | .bool b => "boolean `" ++ (if b then "true" else "false") ++ "`"
  | .num (.int n) => "integer `" ++ Decimal.intText n ++ "`"
  | .num (.float x) => "floating point `" ++ Decimal.dataLayout.write x ++ "`"
  | .str s => "string " ++ Text.shown s
  | .arr _ => "sequence"
  | .obj _ => "map"

/-- The message about a value of the wrong kind. -/
def wrongType (v : Json) (expected : String) : String :=
  "invalid type: " ++ found v ++ ", expected " ++ expected

/-- The message about a value of the right kind that is out of range. -/
def wrongValue (v : Json) (expected : String) : String :=
  "invalid value: " ++ found v ++ ", expected " ++ expected

/-! ## Single values -/

/-- Any value. -/
def value : Decoder Json := .ok

/-- A text. -/
def string : Decoder String
  | .str s => .ok s
  | v => .error (wrongType v "a string")

/-- A truth value. -/
def boolean : Decoder Bool
  | .bool b => .ok b
  | v => .error (wrongType v "a boolean")

/-- A natural number of a given width. -/
def natural (bits : Nat) : Decoder Nat
  | .num (.int (.ofNat n)) =>
    if n < Nat.pow 2 bits then .ok n
    else .error (wrongValue (.nat n) ("u" ++ Decimal.natText bits))
  | .num (.int n) => .error (wrongValue (.int n) ("u" ++ Decimal.natText bits))
  | v => .error (wrongType v ("u" ++ Decimal.natText bits))

/-- A natural number that counts something: one of 64 bits, under another name. -/
def size : Decoder Nat
  | .num (.int (.ofNat n)) => if n < Nat.pow 2 64 then .ok n else .error (wrongValue (.nat n) "usize")
  | .num (.int n) => .error (wrongValue (.int n) "usize")
  | v => .error (wrongType v "usize")

/-- A signed integer of a given width. -/
def integer (bits : Nat) : Decoder Int
  | .num (.int n) =>
    if -(Nat.pow 2 (bits - 1) : Int) ≤ n ∧ n < Nat.pow 2 (bits - 1) then .ok n
    else .error (wrongValue (.int n) ("i" ++ Decimal.natText bits))
  | v => .error (wrongType v ("i" ++ Decimal.natText bits))

/-- A binary64 number, an integer being converted. -/
def number : Decoder Float
  | .num n => .ok n.toFloat
  | v => .error (wrongType v "f64")

/-- The members of an object. -/
def members : Decoder Members
  | .obj m => .ok m
  | v => .error (wrongType v "a map")

/-- Null as nothing, any other value as something. -/
def optional {α : Type} (d : Decoder α) : Decoder (Option α)
  | .null => .ok none
  | v => (d v).map some

/-- Every item of a list, up to the first fault. -/
def items {α : Type} (d : Decoder α) : List Json → Except String (List α)
  | [] => .ok []
  | x :: xs => do
    let y ← d x
    let ys ← items d xs
    pure (y :: ys)

/-- The items of an array. -/
def sequence {α : Type} (d : Decoder α) : Decoder (List α)
  | .arr xs => items d xs
  | v => .error (wrongType v "a sequence")

/-! ## Words of a fixed set -/

/-- A list of words for a message: one of two, or one of several. -/
def expectedWords : List String → String
  | [] => "there are no variants"
  | [a] => "expected `" ++ a ++ "`"
  | [a, b] => "expected `" ++ a ++ "` or `" ++ b ++ "`"
  | ws => "expected one of " ++ ", ".intercalate (ws.map fun w => "`" ++ w ++ "`")

/-- The message about a word that is not one of a set. -/
def unknownWord (word : String) (words : List String) : String :=
  "unknown variant `" ++ word ++ "`, " ++ expectedWords words

/-- A word of a table, written as a text or as the only key of an object that holds nothing, which is
one of the given values. -/
def wordHolding {α : Type} (nothing : List Json) (table : List (String × α)) (words : List String) :
    Decoder α
  | .str s => match table.lookup s with
    | some a => .ok a
    | none => .error (unknownWord s words)
  | .obj [(s, v)] => match table.lookup s with
    | some a => if nothing.contains v then .ok a else .error (wrongType v "unit")
    | none => .error (unknownWord s words)
  | .obj _ => .error "invalid value: map, expected map with a single key"
  | v => .error (wrongType v "string or map")

/-- A word of a table, written as a text or as the only key of an object that holds null. -/
def word {α : Type} (table : List (String × α)) (words : List String) : Decoder α :=
  wordHolding [.null] table words

/-! ## Records -/

/-- What is wrong with the fields of an object. -/
inductive FieldFault where
  /-- A field that is present holds a bad value. -/
  | bad (key message : String)
  /-- A field that is needed is missing. -/
  | missing (key : String)
  deriving Repr, DecidableEq

/-- The text of a fault. -/
def FieldFault.message : FieldFault → String
  | .bad _ m => m
  | .missing key => "missing field `" ++ key ++ "`"

/-- Of two faults, in the order of declaration, the one that is reported. -/
def FieldFault.first (a b : FieldFault) : FieldFault :=
  match a, b with
  | .bad k _, .bad l _ => if l < k then b else a
  | .missing _, .bad _ _ => b
  | _, _ => a

/-- A description of the fields of a record: how to read them by name and how by position. -/
structure Fields (α : Type) where
  named : Members → Except FieldFault α
  /-- Reads from a list of values; `expected` completes the message about a list that ends too
  early, `index` counts the fields before. -/
  positional : (expected : String) → (index : Nat) → List Json → Except String (α × Nat × List Json)
  count : Nat

namespace Fields

/-- No field. -/
def none {α : Type} (a : α) : Fields α where
  named _ := .ok a
  positional _ i xs := .ok (a, i, xs)
  count := 0

/-- The fields of two descriptions, in order. -/
def both {α β γ : Type} (f : α → β → γ) (a : Fields α) (b : Fields β) : Fields γ where
  named m := match a.named m, b.named m with
    | .ok x, .ok y => .ok (f x y)
    | .error e, .ok _ => .error e
    | .ok _, .error e => .error e
    | .error e, .error e' => .error (e.first e')
  positional expected i xs := do
    let (x, i, xs) ← a.positional expected i xs
    let (y, i, xs) ← b.positional expected i xs
    pure (f x y, i, xs)
  count := a.count + b.count

/-- Appends the argument of a constructor. -/
def and {α β : Type} (f : Fields (α → β)) (a : Fields α) : Fields β := both (fun g x => g x) f a

/-- A field, and what its absence means in an object and in an array. -/
def field {α : Type} (key : String) (d : Decoder α) (absent absentItem : Option α) : Fields α where
  named m := match m.get? key with
    | some v => match d v with
      | .ok a => .ok a
      | .error e => .error (.bad key e)
    | Option.none => match absent with
      | some a => .ok a
      | Option.none => .error (.missing key)
  positional expected i xs := match xs with
    | x :: xs => (d x).map fun a => (a, i + 1, xs)
    | [] => match absentItem with
      | some a => .ok (a, i + 1, [])
      | Option.none =>
        .error ("invalid length " ++ Decimal.natText i ++ ", expected " ++ expected)
  count := 1

/-- A field that is needed. -/
def needed {α : Type} (key : String) (d : Decoder α) : Fields α := field key d Option.none Option.none

/-- A field with a value for its absence. -/
def withDefault {α : Type} (key : String) (d : Decoder α) (default : α) : Fields α :=
  field key d (some default) (some default)

/-- A field that may be absent or null. -/
def maybe {α : Type} (key : String) (d : Decoder α) : Fields (Option α) :=
  withDefault key (optional d) Option.none

end Fields

/-- The message about an array with more items than a record has fields. -/
def tooLong (length : Nat) : String :=
  "invalid length " ++ Decimal.natText length ++ ", expected fewer elements in array"

/-- The message about an array with more items than the fields that were read from it, where their
number is told. -/
def tooMany (length used : Nat) : String :=
  "invalid length " ++ Decimal.natText length ++ ", expected " ++ Decimal.natText used ++
    (if used = 1 then " element" else " elements") ++ " in sequence"

/-- Reads a record by name. -/
def namedRecord {α : Type} (fields : Fields α) (m : Members) : Except String α :=
  match fields.named m with
  | .ok a => .ok a
  | .error e => .error e.message

/-- A record, from an object or from an array; `surplus` is the message about an array that is too long,
from its length and the number of fields read. -/
def recordWith {α : Type} (surplus : Nat → Nat → String) (name : String) (fields : Fields α) : Decoder α
  | .obj m => namedRecord fields m
  | .arr xs => do
    let expected :=
      "struct " ++ name ++ " with " ++ Decimal.natText fields.count ++
        (if fields.count = 1 then " element" else " elements")
    let (a, used, rest) ← fields.positional expected 0 xs
    if rest.isEmpty then pure a else throw (surplus xs.length used)
  | v => .error (wrongType v ("struct " ++ name))

/-- A record, from an object or from an array. -/
def record {α : Type} (name : String) (fields : Fields α) : Decoder α :=
  recordWith (fun length _ => tooLong length) name fields

/-- A record that is chosen by a key among the members of an object. -/
def chosenRecord {α : Type} (name : String) (fields : Fields α) : Decoder α :=
  recordWith tooMany name fields

/-- A record that has no array form. -/
def openRecord {α : Type} (name : String) (fields : Fields α) : Decoder α
  | .obj m => namedRecord fields m
  | v => .error (wrongType v ("struct " ++ name))

end Decode

end TaskGraph
