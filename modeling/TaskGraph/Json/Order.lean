import TaskGraph.Expr.Arithmetic
import TaskGraph.Json.Basic

/-!
# Numbers by value

The order of numbers is that of what they stand for, integers with fractions, and without rounding. Two
values are equal if they are built alike and their numbers are the same in binary64.
-/

set_option autoImplicit false

namespace TaskGraph

namespace Number

/-- A number as a whole number times a power of two. -/
def scaled : Number → Int × Int
  | .int n => (n, 0)
  | .float x =>
    let (m, q) := Expr.magnitude x
    (if x < 0.0 then -(m : Int) else m, q)

/-- The order of two numbers. -/
def compare (a b : Number) : Ordering :=
  let (m, p) := a.scaled
  let (n, q) := b.scaled
  let low := min p q
  Ord.compare (m * Nat.pow 2 (p - low).toNat) (n * Nat.pow 2 (q - low).toNat)

/-- Whether a number is whole. -/
def isWhole : Number → Bool
  | .int _ => true
  | .float x => x.floor == x

/-- The natural number that a number is, if it is one. -/
def toNat? : Number → Option Nat
  | .int (.ofNat n) => some n
  | .int _ => none
  | .float x => if x ≥ 0.0 && x.floor == x then some x.toUInt64.toNat else none

end Number

namespace Json

mutual

/-- Equality of values in which numbers are compared as binary64. -/
def equal : Json → Json → Bool
  | .null, .null => true
  | .bool a, .bool b => a == b
  | .num a, .num b => a.toFloat == b.toFloat
  | .str a, .str b => a == b
  | .arr a, .arr b => equalItems a b
  | .obj a, .obj b => equalMembers a b
  | _, _ => false

/-- Equality of lists of values, item by item. -/
def equalItems : List Json → List Json → Bool
  | [], [] => true
  | a :: as, b :: bs => equal a b && equalItems as bs
  | _, _ => false

/-- Equality of lists of members, in order. -/
def equalMembers : List (String × Json) → List (String × Json) → Bool
  | [], [] => true
  | (k, a) :: as, (l, b) :: bs => k == l && equal a b && equalMembers as bs
  | _, _ => false

end

/-- Whether no two items of a list are equal. -/
def allDistinct : List Json → Bool
  | [] => true
  | x :: xs => !xs.any (equal x) && allDistinct xs

end Json

end TaskGraph
