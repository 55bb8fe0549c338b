import TaskGraph.Json.Basic

/-!
# Recorded evaluations

A recording is a log of values and a cursor into it. While the cursor points into the log, an
evaluation is answered from the log and is not run. Beyond it an evaluation runs, and its value is
appended; a failed evaluation changes neither log nor cursor, so a later replay runs it again at the
same position.
-/

set_option autoImplicit false

namespace TaskGraph

/-- A log of values and the number of evaluations answered so far. -/
structure Recording where
  log : List Json
  cursor : Nat
  deriving Repr, DecidableEq

namespace Recording

/-- A recording that answers from a log before it runs anything. -/
def replaying (log : List Json) : Recording := ⟨log, 0⟩

/-- An empty recording. -/
def fresh : Recording := replaying []

/-- Answers an evaluation from the log or by running it. -/
def wrap {ε : Type} (r : Recording) (run : Unit → Except ε Json) : Except ε Json × Recording :=
  match r.log[r.cursor]? with
  | some v => (.ok v, { r with cursor := r.cursor + 1 })
  | none =>
    match run () with
    | .ok v => (.ok v, ⟨r.log ++ [v], r.cursor + 1⟩)
    | .error e => (.error e, r)

end Recording

/-- What stands between a task and the evaluation of its expressions. -/
inductive Wrapper where
  /-- Every evaluation runs. -/
  | passThrough
  /-- Evaluations are recorded and replayed. -/
  | recording (r : Recording)
  deriving Repr, DecidableEq

/-- Answers an evaluation. -/
def Wrapper.wrap {ε : Type} (w : Wrapper) (run : Unit → Except ε Json) :
    Except ε Json × Wrapper :=
  match w with
  | .passThrough => (run (), .passThrough)
  | .recording r => match r.wrap run with
    | (answer, r) => (answer, .recording r)

end TaskGraph
