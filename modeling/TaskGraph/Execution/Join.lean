import TaskGraph.Fault

/-!
# Joining the branches of a fork

A join takes the replies of branches in the order in which they come. It settles when it has failed,
when a competition has a winner, or when every branch has replied; the branches that have not replied
by then are stopped, and what they still reply changes nothing but that they have replied. Its verdict
is what a fork makes of the replies once all are in.
-/

set_option autoImplicit false

namespace TaskGraph

/-- The replies of branches so far. -/
structure Join where
  compete : Bool
  replied : List Bool
  /-- The values of branches that replied before the join settled. -/
  values : List (Option Json)
  winner : Option Nat
  /-- The first failure that is no cancellation. -/
  failure : Option Fault
  settled : Bool
  deriving Repr, DecidableEq

namespace Join

/-- Whether a join is finished: when it has failed, when it competes and has a winner, or when every
branch has replied. -/
def complete (replied : List Bool) (hasWinner failed competing : Bool) : Bool :=
  failed || (competing && hasWinner) || replied.all id

/-- A join of a number of branches, none of which has replied. -/
def start (compete : Bool) (branches : Nat) : Join :=
  ⟨compete, List.replicate branches false, List.replicate branches none, none, none, false⟩

/-- Notes the value of a branch, unless the join has settled. -/
def value (j : Join) (branch : Nat) (v : Json) : Join :=
  if j.settled then j
  else { j with
    winner := if j.compete then some branch else j.winner
    values := j.values.set branch (some v) }

/-- Notes a fault of a branch; a cancellation is none. -/
def fault (j : Join) (f : Fault) : Join :=
  if f.isCancelled || j.failure.isSome then j else { j with failure := some f }

/-- Notes the outcome of a branch. -/
def outcome (j : Join) (branch : Nat) : Except Fault Json → Join
  | .ok v => j.value branch v
  | .error f => j.fault f

/-- Whether the join is finished. -/
def isComplete (j : Join) : Bool :=
  complete j.replied j.winner.isSome (!j.compete && j.failure.isSome) j.compete

/-- The branches that have not replied. -/
def waiting (j : Join) : List Nat :=
  (List.range j.replied.length).filter fun i => j.replied[i]? == some false

/-- Takes a reply; the branches to be stopped come with the join if it settles now. -/
def reply (j : Join) (branch : Nat) (outcome : Except Fault Json) : Join × List Nat :=
  let j := { j with replied := j.replied.set branch true }.outcome branch outcome
  if !j.settled && j.isComplete then ({ j with settled := true }, j.waiting) else (j, [])

/-- What a fork makes of the replies. -/
inductive Verdict where
  /-- A competition was won with a value. -/
  | won (value : Json)
  /-- Every branch counts, in the order of declaration. -/
  | joined (values : List (Option Json))
  | failed (fault : Fault)
  /-- A competition in which every branch was cancelled. -/
  | stopped
  deriving Repr, DecidableEq

/-- The verdict once every branch has replied. -/
def verdict (j : Join) : Verdict :=
  match j.compete, j.winner, j.failure with
  | true, some branch, _ => .won ((j.values[branch]?.join).getD .null)
  | _, _, some f => .failed f
  | true, none, none => .stopped
  | false, _, none => .joined j.values

end Join

end TaskGraph
