import TaskGraph.Expr.Arithmetic
import TaskGraph.Expr.Parser
import TaskGraph.Json.Printer
import TaskGraph.Text.Blank
import TaskGraph.Text.Casing

/-!
# Values of expressions

An expression is evaluated against a document, whose members are the names it may use. All
arithmetic is binary64; two numbers are equal when they differ by less than a millionth. The two
logical operators return an operand. An error on the left of a disjunction or in the condition of a
choice counts as false.
-/

set_option autoImplicit false

namespace TaskGraph.Expr

/-- Why an expression has no value. -/
inductive EvalError where
  | unreadable
  | invalidOperands (left right : Json) (op : Op)
  | unknownTransform (name : String)
  | duplicateKey (key : String)
  | undefinedName (name : String)
  | invalidIndex
  | invalidFilter
  deriving DecidableEq

/-- The text of an error. -/
def EvalError.message : EvalError → String
  | .unreadable => "Parsing error: unexpected input"
  | .invalidOperands l r op =>
    "Invalid binary operation, left: " ++ l.render ++ ", right: " ++ r.render ++ ", operation: " ++
      op.name
  | .unknownTransform name => "Unknown transform: " ++ name
  | .duplicateKey key => "Duplicate object key: " ++ key
  | .undefinedName name => "Identifier '" ++ name ++ "' is undefined"
  | .invalidIndex => "Invalid index type"
  | .invalidFilter => "Invalid filter"

/-- Whether a value counts as true. -/
def truthy : Json → Bool
  | .null => false
  | .bool b => b
  | .num n => n.toFloat != 0.0
  | .str s => s != ""
  | .arr _ => true
  | .obj _ => true

/-- Whether a list occurs in another one without gaps. -/
def occursIn (part : List Char) : List Char → Bool
  | [] => part.isEmpty
  | c :: cs => part.isPrefixOf (c :: cs) || occursIn part cs

/-- The operators on two numbers. -/
def applyNumbers (op : Op) (a b : Float) : Json :=
  match op with
  | .add => Json.ofFloat (a + b)
  | .subtract => Json.ofFloat (a - b)
  | .multiply => Json.ofFloat (a * b)
  | .divide => Json.ofFloat (a / b)
  | .floorDivide => Json.ofFloat (a / b).floor
  | .modulus => Json.ofFloat (remainder a b)
  | .power => Json.ofFloat (Float.pow a b)
  | .less => .bool (a < b)
  | .greater => .bool (a > b)
  | .lessEqual => .bool (a ≤ b)
  | .greaterEqual => .bool (a ≥ b)
  | .equal => .bool ((a - b).abs < 0.000001)
  | .notEqual => .bool (!((a - b).abs < 0.000001))
  | .within | .and | .or => .bool false

/-- The operators on two texts, where there is one. -/
def applyTexts (op : Op) (a b : String) : Option Json :=
  match op with
  | .add => some (.str (a ++ b))
  | .equal => some (.bool (a == b))
  | .notEqual => some (.bool (a != b))
  | .less => some (.bool (a < b))
  | .greater => some (.bool (b < a))
  | .lessEqual => some (.bool (!decide (b < a)))
  | .greaterEqual => some (.bool (!decide (a < b)))
  | .within => some (.bool (occursIn a.toList b.toList))
  | _ => none

/-- Equality of two values that are not both numbers nor both texts. -/
def looksEqual : Json → Json → Bool
  | .num _, _ => false
  | .str _, _ => false
  | a, b => a.same b

/-- The value of an operator on two values. -/
def apply (op : Op) (left right : Json) : Except EvalError Json :=
  match op, left, right with
  | .and, a, b => .ok (if truthy a then b else a)
  | .or, a, b => .ok (if truthy a then a else b)
  | op, .num a, .num b => .ok (applyNumbers op a.toFloat b.toFloat)
  | op, .str a, .str b => match applyTexts op a b with
    | some v => .ok v
    | none => .error (.invalidOperands (.str a) (.str b) op)
  | .within, a, .arr xs => .ok (.bool (xs.any (a.same ·)))
  | .within, .str k, .obj m => .ok (.bool (Members.contains m k))
  | .equal, a, b => .ok (.bool (looksEqual a b))
  | .notEqual, a, b => .ok (.bool (!looksEqual a b))
  | op, a, b => .error (.invalidOperands a b op)

/-- The first argument as a text, empty when it is none. -/
def textArgument : Json → String
  | .str s => s
  | _ => ""

/-- The transforms; `fresh` is a new identifier. -/
def transformed? (fresh : String) (name : String) (subject : Json) : Option Json :=
  match name with
  | "uuid" => some (.str fresh)
  | "lower" => some (.str (Text.lower (textArgument subject)))
  | "upper" => some (.str (Text.upper (textArgument subject)))
  | "trim" => some (.str (Text.trim (textArgument subject)))
  | "length" =>
    let n := match subject with
      | .str s => s.length
      | .arr xs => xs.length
      | .obj m => m.length
      | _ => 0
    some (.float (Float.ofNat n))
  | "keys" => some (Json.strings (match subject with
      | .obj m => Members.keys m
      | _ => []))
  | _ => none

/-- The items of a list whose field stands in a relation to a value. -/
def filterItems (field : String) (op : Op) (right : Json) (items : List Json) : List Json :=
  items.filter fun item =>
    match apply op ((item.get? field).getD .null) right with
    | .ok v => truthy v
    | .error _ => false

/-- The part of a value that an index names. -/
def indexInto (subject key : Json) : Except EvalError Json :=
  match key with
  | .str k => .ok ((subject.get? k).getD .null)
  | .num n => .ok ((subject.item? (toIndex n.toFloat)).getD .null)
  | _ => .error .invalidIndex

mutual

/-- The value of an expression. `fresh` supplies new identifiers by position, and `at_` is the
position of the expression, innermost step first. -/
def eval (fresh : List Nat → String) (document : Members) (at_ : List Nat) :
    Expr → Except EvalError Json
  | .null => .ok .null
  | .bool b => .ok (.bool b)
  | .number x => .ok (Json.ofFloat x)
  | .text s => .ok (.str s)
  | .array xs => do
    let vs ← evalItems fresh document at_ 0 xs
    pure (.arr vs)
  | .object m => do
    let vs ← evalMembers fresh document at_ 0 [] m
    pure (.obj vs)
  | .ident s => match document.get? s with
    | some v => .ok v
    | none => .error (.undefinedName s)
  | .member subject field => do
    let s ← eval fresh document (0 :: at_) subject
    pure ((s.get? field).getD .null)
  | .index subject key => do
    let s ← eval fresh document (0 :: at_) subject
    let k ← eval fresh document (1 :: at_) key
    indexInto s k
  | .filter subject field op right => do
    let s ← eval fresh document (0 :: at_) subject
    match s with
    | .arr items => do
      let r ← eval fresh document (1 :: at_) right
      pure (.arr (filterItems field op r items))
    | _ => .error .invalidFilter
  | .binary .or left right =>
    match eval fresh document (0 :: at_) left with
    | .ok v => if truthy v then .ok v else eval fresh document (1 :: at_) right
    | .error _ => eval fresh document (1 :: at_) right
  | .binary .and left right => do
    let l ← eval fresh document (0 :: at_) left
    if truthy l then eval fresh document (1 :: at_) right else pure l
  | .binary op left right => do
    let l ← eval fresh document (0 :: at_) left
    let r ← eval fresh document (1 :: at_) right
    apply op l r
  | .transform subject name args => do
    let s ← eval fresh document (0 :: at_) subject
    let _ ← evalItems fresh document at_ 1 args
    match transformed? (fresh at_) name s with
    | some v => pure v
    | none => .error (.unknownTransform name)
  | .choice condition yes no =>
    let c := match eval fresh document (0 :: at_) condition with
      | .ok v => truthy v
      | .error _ => false
    if c then eval fresh document (1 :: at_) yes else eval fresh document (2 :: at_) no

/-- The values of a list of expressions, up to the first error. -/
def evalItems (fresh : List Nat → String) (document : Members) (at_ : List Nat) (i : Nat) :
    List Expr → Except EvalError (List Json)
  | [] => .ok []
  | e :: es => do
    let v ← eval fresh document (i :: at_) e
    let vs ← evalItems fresh document at_ (i + 1) es
    pure (v :: vs)

/-- The members of an object expression, up to the first error. -/
def evalMembers (fresh : List Nat → String) (document : Members) (at_ : List Nat) (i : Nat)
    (done : Members) : List (String × Expr) → Except EvalError Members
  | [] => .ok done
  | (k, e) :: es =>
    if done.contains k then .error (.duplicateKey k)
    else do
      let v ← eval fresh document (i :: at_) e
      evalMembers fresh document at_ (i + 1) (done.insert k v) es

end

end TaskGraph.Expr
