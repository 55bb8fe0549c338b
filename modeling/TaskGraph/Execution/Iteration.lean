import TaskGraph.Execution.Restart
import TaskGraph.Expr.Arithmetic

/-!
# Loops

A loop goes over the members of an object in key order, over the items of an array, or over the numbers
below a natural number. Each element has a scope of its own, entered from the scope of the loop, so no
element sees what another one wrote. The loop ends before the first element whose condition is not true.
-/

set_option autoImplicit false

namespace TaskGraph

/-- What a loop goes over. -/
inductive Elements where
  | members (m : Members)
  | items (xs : List Json)
  deriving Repr, DecidableEq

/-- What a loop binds its names to and runs for every element. -/
structure LoopBody where
  task : String
  indexName : String
  itemName : String
  condition : Option String
  graph : String
  deriving Repr, DecidableEq

namespace Iteration

/-- The natural number that a binary64 number is, if it is one. -/
def whole? (x : Float) : Option Nat :=
  let (m, q) := Expr.magnitude x
  if x.isFinite ∧ (m = 0 ∨ x.toBits.toNat / Nat.pow 2 63 = 0) then
    if 0 ≤ q then some (m * Nat.pow 2 q.toNat)
    else if m % Nat.pow 2 (-q).toNat = 0 then some (m / Nat.pow 2 (-q).toNat)
    else none
  else none

/-- The largest number of elements that a number stands for. -/
def most : Nat := Nat.pow 2 64 - 1

/-- The natural number that a number is, if it is one; a number beyond 64 bits counts as the largest. -/
def count? : Number → Option Nat
  | .int (.ofNat n) => some (min n most)
  | .int (.negSucc _) => none
  | .float x => (whole? x).map (min · most)

/-- What a value is gone over as. -/
def elements (task : String) : Json → Except Fault Elements
  | .obj m => .ok (.members m)
  | .arr xs => .ok (.items xs)
  | .num n => match count? n with
    | some k => .ok (.items ((List.range k).map Json.nat))
    | none => .error (.notIterable task ("number " ++ n.render))
  | v => .error (.notIterable task v.kind)

/-- The scope of an element. -/
def elementScope (b : LoopBody) (s : Scope) (key item : Json) : Scope :=
  (s.child.setData b.indexName key).setData b.itemName item

/-- Whether an element is gone on to. -/
def goesOn (b : LoopBody) (s : Scope) : Running Bool :=
  match b.condition with
  | none => pure true
  | some text => do
    let v ← Running.evaluate text s []
    pure (v == .bool true)

/-- Runs the body for an element, unless the loop ends before it. -/
def element (p : Program) (c : Context) (b : LoopBody) (s : Scope) (key item : Json) :
    Running (Option Json) := do
  let scope := elementScope b s key item
  if ← goesOn b scope then
    let v ← Restart.runGraph p c b.graph scope.input scope
    pure (some v)
  else pure none

/-- Runs the body for items, the first of which has the given index. -/
def items (p : Program) (c : Context) (b : LoopBody) (s : Scope) : Nat → List Json →
    Running (List Json)
  | _, [] => pure []
  | index, x :: xs => do
    match ← element p c b s (.nat index) x with
    | none => pure []
    | some v => do
      let vs ← items p c b s (index + 1) xs
      pure (v :: vs)

/-- Runs the body for members. -/
def entries (p : Program) (c : Context) (b : LoopBody) (s : Scope) : List (String × Json) →
    Running (List (String × Json))
  | [] => pure []
  | (k, x) :: m => do
    match ← element p c b s (.str k) x with
    | none => pure []
    | some v => do
      let vs ← entries p c b s m
      pure ((k, v) :: vs)

/-- Runs the body for elements and collects the outputs under their keys or indices. -/
def overElements (p : Program) (c : Context) (b : LoopBody) (s : Scope) : Elements → Running Json
  | .members m => do
    let vs ← entries p c b s m
    pure (.obj vs)
  | .items xs => do
    let vs ← items p c b s 0 xs
    pure (.arr vs)

/-- Runs a loop. -/
def run (p : Program) (c : Context) (b : LoopBody) (source : Json) (s : Scope) : Running Json := do
  let v ← Running.traverse source s []
  let es ← Running.ofExcept (elements b.task v)
  overElements p c b s es

end Iteration

end TaskGraph
