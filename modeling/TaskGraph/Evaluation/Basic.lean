import TaskGraph.Evaluation.Recording
import TaskGraph.Expr.Eval
import TaskGraph.Fault

/-!
# Evaluating what a document contains

A text of the form `${ … }` is an expression; any other text stands for itself. `traverse` evaluates
every text inside a value against one document built from the scope. A guard is true when it is absent,
evaluates to true, or evaluates to a text that says so.

The engine that gives an expression its value is a parameter: a function of a number that seeds fresh
identifiers, of the expression and of the document.
-/

set_option autoImplicit false

namespace TaskGraph

/-- Gives expressions their values. -/
abbrev Engine := Nat → String → Members → Except String Json

/-- Named values laid over a scope for one evaluation. -/
abbrev Locals := List (String × Json)

/-- An engine, what stands in front of it, and the number of evaluations it was asked for. -/
structure Evaluator where
  engine : Engine
  wrapper : Wrapper
  count : Nat

/-- A computation that may evaluate expressions and may fail. -/
abbrev Evaluating (α : Type) := ExceptT Fault (StateM Evaluator) α

namespace Evaluation

/-! ## Fresh identifiers

An identifier of 36 characters in the form of a random one: the version digit is 4 and the variant
digit is 8. Its other digits are a function of a seed and a position, so that the same evaluation
always gives the same identifier.
-/

/-- One step of a multiplicative hash of 64 bits. -/
def mix (h n : Nat) : Nat := ((h ^^^ (n + 0x9E3779B9)) * 0x100000001B3) % Nat.pow 2 64

/-- A hash of a seed and a position. -/
def hash (start seed : Nat) (position : List Nat) : Nat :=
  let h := position.foldl mix (mix (mix start seed) 0x51)
  mix (mix h (h / Nat.pow 2 29)) (h / Nat.pow 2 41)

/-- The lowest hexadecimal digits of a number, lowest first. -/
def hexDigits : Nat → Nat → List Char
  | 0, _ => []
  | k + 1, n => Json.hexDigit (n % 16) :: hexDigits k (n / 16)

/-- The identifier of a seed and a position. -/
def identifier (seed : Nat) (position : List Nat) : String :=
  let a := hexDigits 16 (hash 0xCBF29CE484222325 seed position)
  let b := hexDigits 14 (hash 0x84222325CBF29CE4 seed position)
  let digits := a ++ b
  let part (i k : Nat) : String := String.ofList ((digits.drop i).take k)
  part 0 8 ++ "-" ++ part 8 4 ++ "-4" ++ part 12 3 ++ "-8" ++ part 15 3 ++ "-" ++ part 18 12

/-! ## Expressions -/

/-- The text between the delimiters of an expression, if a text is one. -/
def body? (raw : String) : Option String :=
  match Text.trimEnd (Text.trimStart raw.toList) with
  | '$' :: '\x7b' :: cs =>
    if cs.getLast? = some '\x7d' then
      some (String.ofList (Text.trimEnd (Text.trimStart cs.dropLast)))
    else none
  | _ => none

/-- Whether a text is an expression. -/
def isExpression (raw : String) : Bool := (body? raw).isSome

mutual

/-- Whole numbers below nine quadrillion become integers, also inside arrays and objects. -/
def integral : Json → Json
  | .num (.float x) => match Expr.whole? x with
    | some n => .num (.int n)
    | none => .num (.float x)
  | .arr xs => .arr (integralItems xs)
  | .obj m => .obj (integralMembers m)
  | v => v

/-- `integral` on every item. -/
def integralItems : List Json → List Json
  | [] => []
  | x :: xs => integral x :: integralItems xs

/-- `integral` on every member. -/
def integralMembers : List (String × Json) → List (String × Json)
  | [] => []
  | (k, v) :: m => (k, integral v) :: integralMembers m

end

mutual

/-- Whether some text inside a value is an expression. -/
def containsExpression : Json → Bool
  | .str s => isExpression s
  | .arr xs => containsExpressionItems xs
  | .obj m => containsExpressionMembers m
  | _ => false

/-- Whether some item contains an expression. -/
def containsExpressionItems : List Json → Bool
  | [] => false
  | x :: xs => containsExpression x || containsExpressionItems xs

/-- Whether some member contains an expression. -/
def containsExpressionMembers : List (String × Json) → Bool
  | [] => false
  | (_, v) :: m => containsExpression v || containsExpressionMembers m

end

/-- The engine of the expression language. -/
def engine : Engine := fun seed text document =>
  match Expr.parse? text with
  | none => .error Expr.EvalError.unreadable.message
  | some e => match Expr.eval (identifier seed) document [] e with
    | .ok v => .ok v
    | .error e => .error e.message

/-- Runs an engine on an expression. -/
def runEngine (engine : Engine) (seed : Nat) (raw text : String) (document : Members) :
    Except Fault Json :=
  match engine seed text document with
  | .ok v => .ok (integral v)
  | .error reason => .error (.expressionFailed raw reason)

/-- Evaluates the expression inside a text. -/
def evaluateBody (raw text : String) (document : Members) : Evaluating Json := fun e =>
  if text = "" then
    (.error (.expressionFailed raw "expression produced no result"), e)
  else
    let (answer, wrapper) := e.wrapper.wrap fun _ => runEngine e.engine e.count raw text document
    (answer, { e with wrapper := wrapper, count := e.count + 1 })

/-- Evaluates a text against a document. -/
def evaluateIn (document : Members) (raw : String) : Evaluating Json :=
  match body? raw with
  | none => pure (.str raw)
  | some text => evaluateBody raw text document

/-- Evaluates a text in a scope. -/
def evaluate (raw : String) (scope : Scope) (locals : Locals) : Evaluating Json :=
  evaluateIn (scope.document locals) raw

mutual

/-- Evaluates every text inside a value, depth first and in key order. -/
def traverseIn (document : Members) : Json → Evaluating Json
  | .str s => evaluateIn document s
  | .arr xs => do
    let vs ← traverseItems document xs
    pure (.arr vs)
  | .obj m => do
    let vs ← traverseMembers document m
    pure (.obj vs)
  | v => pure v

/-- `traverseIn` on every item. -/
def traverseItems (document : Members) : List Json → Evaluating (List Json)
  | [] => pure []
  | x :: xs => do
    let v ← traverseIn document x
    let vs ← traverseItems document xs
    pure (v :: vs)

/-- `traverseIn` on every member. -/
def traverseMembers (document : Members) :
    List (String × Json) → Evaluating (List (String × Json))
  | [] => pure []
  | (k, x) :: m => do
    let v ← traverseIn document x
    let vs ← traverseMembers document m
    pure ((k, v) :: vs)

end

/-- Evaluates every text inside a value in a scope. A value without expressions is returned as it is,
and no document is built for it. -/
def traverse (value : Json) (scope : Scope) (locals : Locals) : Evaluating Json :=
  if containsExpression value then traverseIn (scope.document locals) value else pure value

/-- Whether a text says yes. -/
def saysYes (s : String) : Bool := s.map Char.toLower == "true" || s == "1"

/-- The truth of a guard's value. -/
def guardValue (guard : String) : Json → Except Fault Bool
  | .bool b => .ok b
  | .str s => .ok (saysYes s)
  | v => .error (.guardNotBoolean guard v.kind)

/-- Evaluates a guard in a scope; an absent one is true. -/
def check (guard : Option String) (scope : Scope) (locals : Locals) : Evaluating Bool :=
  match guard with
  | none => pure true
  | some guard => do
    let v ← evaluate guard scope locals
    liftM (guardValue guard v)

end Evaluation

namespace Evaluator

/-- The engine of the expression language behind a wrapper. -/
def standard (wrapper : Wrapper) : Evaluator := ⟨Evaluation.engine, wrapper, 0⟩

/-- Runs a computation. -/
def run {α : Type} (e : Evaluator) (c : Evaluating α) : Except Fault α × Evaluator := c e

end Evaluator

end TaskGraph
