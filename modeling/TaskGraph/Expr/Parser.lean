import TaskGraph.Expr.Syntax
import TaskGraph.Expr.Token

/-!
# Reading expressions

One level per precedence, the loosest first: logic, comparison, sums, products, remainder and power,
choice, transforms, indexing. Every level is left associative. A level is built from the next tighter
one; the innermost level reads brackets with the whole grammar at one nesting less, so the depth of
nesting is the measure of the recursion.
-/

set_option autoImplicit false

namespace TaskGraph.Expr

/-- A reader of one phrase from the front of a list of tokens. -/
abbrev Phrase (α : Type) := List Token → Option (α × List Token)

/-- The operators of logic. -/
def logicOp : Token → Option Op
  | .mark "&&" => some .and
  | .mark "||" => some .or
  | _ => none

/-- The operators of comparison. -/
def comparisonOp : Token → Option Op
  | .mark "==" => some .equal
  | .mark "!=" => some .notEqual
  | .mark ">=" => some .greaterEqual
  | .mark "<=" => some .lessEqual
  | .mark ">" => some .greater
  | .mark "<" => some .less
  | .mark "in" => some .within
  | _ => none

/-- The operators of sums. -/
def sumOp : Token → Option Op
  | .mark "+" => some .add
  | .mark "-" => some .subtract
  | _ => none

/-- The operators of products. -/
def productOp : Token → Option Op
  | .mark "*" => some .multiply
  | .mark "//" => some .floorDivide
  | .mark "/" => some .divide
  | _ => none

/-- The operators that bind tighter than products. -/
def powerOp : Token → Option Op
  | .mark "%" => some .modulus
  | .mark "^" => some .power
  | _ => none

/-! ## Chains of operators -/

/-- Extends a left operand by operators of one level. -/
def chainFrom (ops : Token → Option Op) (operand : Phrase Expr) : Nat → Expr → Phrase Expr
  | 0, left, ts => some (left, ts)
  | _, left, [] => some (left, [])
  | fuel + 1, left, t :: ts =>
    match ops t with
    | none => some (left, t :: ts)
    | some op => do
      let (right, ts) ← operand ts
      chainFrom ops operand fuel (.binary op left right) ts

/-- A chain of operands of one level. -/
def chain (ops : Token → Option Op) (operand : Phrase Expr) : Phrase Expr := fun ts => do
  let (left, ts) ← operand ts
  chainFrom ops operand ts.length left ts

/-- Extends a condition by choices. -/
def choicesFrom (operand : Phrase Expr) : Nat → Expr → Phrase Expr
  | fuel + 1, condition, .mark "?" :: ts => do
    let (yes, ts) ← operand ts
    match ts with
    | .mark ":" :: ts => do
      let (no, ts) ← operand ts
      choicesFrom operand fuel (.choice condition yes no) ts
    | _ => none
  | _, condition, ts => some (condition, ts)

/-- Choices between transformed operands. -/
def choices (operand : Phrase Expr) : Phrase Expr := fun ts => do
  let (condition, ts) ← operand ts
  choicesFrom operand ts.length condition ts

/-! ## Brackets -/

/-- Items up to a closing mark; a comma may stand after the last one. -/
def listUntil {α : Type} (close : String) (item : Phrase α) : Nat → Phrase (List α)
  | 0, _ => none
  | fuel + 1, ts =>
    if ts.head? = some (.mark close) then some ([], ts.tail)
    else do
      let (x, ts) ← item ts
      match ts with
      | .mark "," :: ts => do
        let (xs, ts) ← listUntil close item fuel ts
        pure (x :: xs, ts)
      | t :: ts => if t = .mark close then some ([x], ts) else none
      | [] => none

/-- A key and a value of an object. -/
def entry (inner : Phrase Expr) : Phrase (String × Expr)
  | .name k :: .mark ":" :: ts => (inner ts).map fun (v, ts) => ((k, v), ts)
  | .text k :: .mark ":" :: ts => (inner ts).map fun (v, ts) => ((k, v), ts)
  | _ => none

/-- A literal, a name or a phrase in brackets. -/
def primary (inner : Phrase Expr) : Phrase Expr
  | .number x :: ts => some (.number x, ts)
  | .text s :: ts => some (.text s, ts)
  | .name s :: ts => some (.ident s, ts)
  | .mark "true" :: ts => some (.bool true, ts)
  | .mark "false" :: ts => some (.bool false, ts)
  | .mark "null" :: ts => some (.null, ts)
  | .mark "(" :: ts => do
    let (e, ts) ← inner ts
    match ts with
    | .mark ")" :: ts => some (e, ts)
    | _ => none
  | .mark "[" :: ts => (listUntil "]" inner (ts.length + 1) ts).map fun (xs, ts) => (.array xs, ts)
  | .mark "\x7b" :: ts =>
    (listUntil "\x7d" (entry inner) (ts.length + 1) ts).map fun (m, ts) => (.object m, ts)
  | _ => none

/-- Extends a subject by members, indices and filters. -/
def indexedFrom (inner : Phrase Expr) : Nat → Expr → Phrase Expr
  | fuel + 1, subject, .mark "." :: .name field :: ts =>
    indexedFrom inner fuel (.member subject field) ts
  | fuel + 1, subject, .mark "[" :: .mark "." :: .name field :: op :: ts => do
    let op ← comparisonOp op
    let (right, ts) ← primary inner ts
    match ts with
    | .mark "]" :: ts => indexedFrom inner fuel (.filter subject field op right) ts
    | _ => none
  | fuel + 1, subject, .mark "[" :: ts => do
    let (key, ts) ← inner ts
    match ts with
    | .mark "]" :: ts => indexedFrom inner fuel (.index subject key) ts
    | _ => none
  | _, subject, ts => some (subject, ts)

/-- A primary phrase with its members, indices and filters. -/
def indexed (inner : Phrase Expr) : Phrase Expr := fun ts => do
  let (subject, ts) ← primary inner ts
  indexedFrom inner ts.length subject ts

/-- Extends a subject by transforms. -/
def transformedFrom (inner : Phrase Expr) : Nat → Expr → Phrase Expr
  | fuel + 1, subject, .mark "|" :: .name f :: .mark "(" :: ts => do
    let (args, ts) ← listUntil ")" inner (ts.length + 1) ts
    transformedFrom inner fuel (.transform subject f args) ts
  | fuel + 1, subject, .mark "|" :: .name f :: ts =>
    transformedFrom inner fuel (.transform subject f []) ts
  | _, subject, ts => some (subject, ts)

/-- An indexed phrase with its transforms. -/
def transformed (inner : Phrase Expr) : Phrase Expr := fun ts => do
  let (subject, ts) ← indexed inner ts
  transformedFrom inner ts.length subject ts

/-! ## The whole grammar -/

/-- An expression whose brackets are nested less deep than the bound. -/
def phrase : Nat → Phrase Expr
  | 0 => fun _ => none
  | depth + 1 =>
    chain logicOp <| chain comparisonOp <| chain sumOp <| chain productOp <| chain powerOp <|
      choices <| transformed (phrase depth)

/-- The expression that a text holds. -/
def parse? (text : String) : Option Expr := do
  let ts ← scan text
  let (e, rest) ← phrase (ts.length + 1) ts
  if rest.isEmpty then some e else none

end TaskGraph.Expr
