import TaskGraph.Decimal.Numeral

/-!
# Arithmetic in scripts

Integer arithmetic on 64 bits, with variables by name. A variable that holds no number counts as zero.
-/

set_option autoImplicit false

namespace TaskGraph.Shell.Arithmetic

/-- A number on 64 bits with a sign. -/
def wrap (n : Int) : Int := Int.bmod n (Nat.pow 2 64)

/-- One as a truth value, or zero. -/
def truth (b : Bool) : Int := if b then 1 else 0

/-- The operators between two operands by how tightly they bind, loosest first. -/
def levels : List (List String) :=
  [["||"], ["&&"], ["|"], ["^"], ["&"], ["==", "!="], ["<=", ">=", "<", ">"], ["<<", ">>"], ["+", "-"],
    ["*", "/", "%"]]

/-- The operators that begin with a shorter one. -/
def longer : List (String × List String) :=
  [("|", ["||"]), ("&", ["&&"]), ("<", ["<<", "<="]), (">", [">>", ">="])]

/-- The characters behind blanks. -/
def skip (cs : List Char) : List Char := cs.dropWhile fun c => c = ' ' || c = '\t' || c = '\n'

/-- An operator of a level at the front. -/
def operator? (ops : List String) (cs : List Char) : Option (String × List Char) :=
  ops.findSome? fun op =>
    if op.toList.isPrefixOf cs && !((longer.lookup op).getD []).any fun o => o.toList.isPrefixOf cs then
      some (op, cs.drop op.length)
    else none

/-- The result of an operator; dividing by zero has none. -/
def apply (op : String) (a b : Int) : Except String Int :=
  match op with
  | "||" => .ok (truth (a != 0 || b != 0))
  | "&&" => .ok (truth (a != 0 && b != 0))
  | "|" => .ok (wrap (BitVec.ofInt 64 a ||| BitVec.ofInt 64 b).toInt)
  | "^" => .ok (wrap (BitVec.ofInt 64 a ^^^ BitVec.ofInt 64 b).toInt)
  | "&" => .ok (wrap (BitVec.ofInt 64 a &&& BitVec.ofInt 64 b).toInt)
  | "==" => .ok (truth (a == b))
  | "!=" => .ok (truth (a != b))
  | "<=" => .ok (truth (a ≤ b))
  | ">=" => .ok (truth (a ≥ b))
  | "<" => .ok (truth (a < b))
  | ">" => .ok (truth (a > b))
  | "<<" => .ok (wrap (a * Nat.pow 2 (b % 64).toNat))
  | ">>" => .ok (a >>> (b % 64).toNat)
  | "+" => .ok (wrap (a + b))
  | "-" => .ok (wrap (a - b))
  | "*" => .ok (wrap (a * b))
  | "/" => if b = 0 then .error "division by zero" else .ok (wrap (a.tdiv b))
  | _ => if b = 0 then .error "division by zero" else .ok (a.tmod b)

/-- A number: decimal, octal behind a zero, or hexadecimal behind its mark. -/
def number? (s : String) : Option Int :=
  match s.toList with
  | '0' :: 'x' :: cs => (Decimal.natIn? 16 cs).map fun n => wrap n
  | '0' :: c :: cs => (Decimal.natIn? 8 (c :: cs)).map fun n => wrap n
  | cs => (Decimal.natIn? 10 cs).map fun n => wrap n

/-- The value of a variable. -/
def valueOf (lookup : String → String) (name : String) : Int :=
  match (lookup name).toList with
  | '-' :: cs => -((number? (String.ofList cs)).getD 0)
  | cs => (number? (String.ofList cs)).getD 0

/-- A character of a name or of a number. -/
def isNameChar (c : Char) : Bool := c.isAlphanum || c = '_'

/-- What cannot be read. -/
def malformed (cs : List Char) : String :=
  if (skip cs).isEmpty then "arithmetic expression: expecting primary"
  else "arithmetic expression: expecting EOF"

mutual

/-- An expression with a condition. -/
def conditional (lookup : String → String) : Nat → List Char → Except String (Int × List Char)
  | 0, cs => .error (malformed cs)
  | fuel + 1, cs => do
    let (c, rest) ← level lookup fuel levels cs
    match skip rest with
    | '?' :: rest => do
      let (a, rest) ← conditional lookup fuel rest
      match skip rest with
      | ':' :: rest => do
        let (b, rest) ← conditional lookup fuel rest
        pure (if c != 0 then a else b, rest)
      | rest => throw (malformed rest)
    | rest => pure (c, rest)

/-- An expression of operators that bind at least as tightly as the first level. -/
def level (lookup : String → String) :
    Nat → List (List String) → List Char → Except String (Int × List Char)
  | 0, _, cs => .error (malformed cs)
  | fuel + 1, [], cs => operand lookup fuel cs
  | fuel + 1, ops :: tighter, cs => do
    let (a, rest) ← level lookup fuel tighter cs
    chain lookup fuel ops tighter a rest

/-- The operators of a level behind its first operand. -/
def chain (lookup : String → String) :
    Nat → List String → List (List String) → Int → List Char → Except String (Int × List Char)
  | 0, _, _, _, cs => .error (malformed cs)
  | fuel + 1, ops, tighter, a, cs => match operator? ops (skip cs) with
    | none => .ok (a, cs)
    | some (op, rest) => do
      let (b, rest) ← level lookup fuel tighter rest
      let v ← apply op a b
      chain lookup fuel ops tighter v rest

/-- A number, a variable, or an operator in front of an operand. -/
def operand (lookup : String → String) : Nat → List Char → Except String (Int × List Char)
  | 0, cs => .error (malformed cs)
  | fuel + 1, cs => match skip cs with
    | '(' :: rest => do
      let (v, rest) ← conditional lookup fuel rest
      match skip rest with
      | ')' :: rest => pure (v, rest)
      | rest => throw (malformed rest)
    | '-' :: rest => do
      let (v, rest) ← operand lookup fuel rest
      pure (wrap (-v), rest)
    | '+' :: rest => operand lookup fuel rest
    | '!' :: rest => do
      let (v, rest) ← operand lookup fuel rest
      pure (truth (v == 0), rest)
    | '~' :: rest => do
      let (v, rest) ← operand lookup fuel rest
      pure (-v - 1, rest)
    | rest =>
      let word := String.ofList (rest.takeWhile isNameChar)
      let after := rest.dropWhile isNameChar
      match word.toList with
      | [] => .error (malformed rest)
      | c :: _ =>
        if c.isDigit then match number? word with
          | some n => .ok (n, after)
          | none => .error (malformed rest)
        else .ok (valueOf lookup word, after)

end

/-- The value of an expression; a blank one is zero. -/
def evaluate (lookup : String → String) (text : String) : Except String Int := do
  if (skip text.toList).isEmpty then pure 0
  else do
    let (v, rest) ← conditional lookup (20 * text.length + 40) text.toList
    if (skip rest).isEmpty then pure v else throw (malformed rest)

end TaskGraph.Shell.Arithmetic
