import TaskGraph.Host.Process
import TaskGraph.Http.Calling

/-!
# A machine

On a machine, processes are programs that are started in the working directory, and HTTP calls go to one
server. Nothing answers activities and remote procedures.
-/

set_option autoImplicit false

namespace TaskGraph

namespace Surroundings

/-- The answer of a machine to a call, given the calls before it. A server that leaves a request without
an answer is waited for until the time of the call is up. -/
def machineHandler (files : Files) (vars : Variables) (server : Http.Server)
    (past : List Invocation) (i : Invocation) : Option Reply :=
  match i with
  | .http c =>
    let earlier := (HttpCall.sentBy server (past.filterMap Invocation.http?)).length
    some (match c.result? (c.exchange server earlier) with
      | some result => ⟨some 0, result⟩
      | none => ⟨none, .ok .null⟩)
  | i => (Command.ofInvocation? i).map (Command.start files "." vars)

/-- A machine with files, variables and a server. -/
def machine (files : Files) (vars : Variables) (server : Http.Server) (suggestAfter : Nat) :
    Surroundings :=
  { bare suggestAfter with handler := machineHandler files vars server }

end Surroundings

end TaskGraph
