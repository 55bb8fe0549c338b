import TaskGraph.Execution.Dialogue

/-!
# Listeners

A listener sets the responses to its queries and then waits for its signals: for the first one, for any
one, or for one of each. A listener to queries alone does not wait.
-/

set_option autoImplicit false

namespace TaskGraph.Listening

/-- Sets the response to a query: the structure it declares, evaluated, or the data of the scope. -/
def register (c : Context) (s : Scope) (q : Query) : Running Unit := do
  let response ← match q.response with
    | some v => Running.traverse v s []
    | none => pure (.obj s.data)
  Running.tell (.query q.id response)
  Running.ask (.respond q.id response)
  Running.record c (.queryRegistered q.id)

/-- Sets the responses to queries. -/
def registerAll (c : Context) (s : Scope) : List Query → Running Unit
  | [] => pure ()
  | q :: qs => do
    register c s q
    registerAll c s qs

/-- What a listener makes of the payloads it received. -/
def result (mode : ListenMode) (received : List (String × Json)) : Json :=
  match mode with
  | .one => ((received.head?).map Prod.snd).getD .null
  | .any | .all => .obj (Members.ofList received)

/-- Runs a listener. -/
def run (c : Context) (mode : ListenMode) (waits : List String) (queries : List Query) (s : Scope) :
    Running (Option Json) := do
  registerAll c s queries
  if waits.isEmpty then pure none
  else do
    let received ← Running.listen c mode waits
    pure (some (result mode received))

end TaskGraph.Listening
