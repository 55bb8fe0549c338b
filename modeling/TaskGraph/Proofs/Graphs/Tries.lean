import TaskGraph.Proofs.Graphs.Execution
import TaskGraph.Proofs.Program.Compiled

/-!
# What a task that tries a list does

A task that tries a list makes of the outcome of that list what `Sequence.Handles` says: a value is a value,
a cancellation is no value, a restart and the fault that one was given up with are passed on, and any other
fault is handled by one run of the catch list, in the scope of the task with the fault among its data. The
compiler makes a graph of each of the two lists unless that is empty.
-/

set_option autoImplicit false

namespace TaskGraph

namespace Compiling

end Compiling

namespace Sequence

variable {e : Setting} {c : Context} {input : Json} {s : Scope} {handler : Option String}
  {binding : String}

/-- How a task goes on from the outcome of the list that it tries. -/
def handle (e : Setting) (c : Context) (input : Json) (s : Scope) (handler : Option String)
    (binding : String) : Except Fault Json → Running (Option Json)
  | .ok v => pure (Forking.unlessNull v)
  | .error f =>
    if f.isCancelled then pure none
    else if f.isContinuation then throw f
    else match handler with
      | none => pure none
      | some handler => do
        let v ← Restart.runGraph e.program c handler input (handlerScope s binding f)
        pure (Forking.unlessNull v)

theorem attempt_eq (body : String) :
    attempt e c input s (some body) handler binding =
      (Restart.runGraph e.program c body input s.child).outcome >>=
        handle e c input s handler binding := by
  refine bind_congr fun x => ?_
  cases x <;> rfl

end Sequence

end TaskGraph
