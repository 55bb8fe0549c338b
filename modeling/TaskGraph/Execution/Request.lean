import TaskGraph.Evaluation.Basic
import TaskGraph.Execution.History
import TaskGraph.Program.Basic

/-!
# What a run asks of its host

Tasks do nothing by themselves. Whatever reaches outside the scope of a task, or depends on more than
the scope, is a request to the host that the run lives on: evaluating an expression, calling, waiting,
running another graph, writing a history. `Request.Answer` says what each request is answered with.
-/

set_option autoImplicit false

namespace TaskGraph

/-- Where a request is made: the run whose history it is written to, and the cancellation scopes around
it, innermost first. -/
structure Context where
  run : Nat
  scopes : List Nat
  deriving Repr, DecidableEq, Inhabited

/-- A call with its arguments in place. -/
inductive Invocation where
  | activity (call : ActivityCall)
  | http (call : HttpCall)
  | grpc (call : GrpcCall)
  | shell (process : ShellProcess)
  | script (process : ScriptProcess)
  | container (process : ContainerProcess)
  deriving Repr, DecidableEq

namespace Invocation

/-- The HTTP call that is made, if it is one. -/
def http? : Invocation → Option HttpCall
  | http c => some c
  | _ => none

/-- The name of a remote procedure. -/
def procedure (c : GrpcCall) : String := c.service.name ++ "/" ++ c.method

/-- What histories call an invocation. -/
def identifier : Invocation → String
  | activity c => c.name
  | http c => c.identifier
  | grpc c => procedure c
  | shell p => p.command
  | script p => "script:" ++ p.language.interpreter
  | container p => "container:" ++ p.image

/-- The arguments of an invocation as a value. -/
def payload : Invocation → Json
  | activity c => c.toJson
  | http c => c.toJson
  | grpc c => c.toJson
  | shell p => p.toJson
  | script p => p.toJson
  | container p => p.toJson

end Invocation

/-- A call of a task, and the time that each attempt has. -/
structure CallRequest where
  task : String
  invocation : Invocation
  timeout : Option Duration
  deriving Repr, DecidableEq

/-- What an observer of a run is told. -/
inductive Notice where
  | call (request : CallRequest)
  | enter (graph : String) (input : Json) (scope : Scope)
  | leave (graph : String) (result : Except Fault Json)
  | detach (graph : String) (input : Json) (scope : Scope)
  | sleep (duration : Duration)
  | await (signal : String)
  | query (id : String) (response : Json)
  | heartbeat (interval : Duration)
  /-- A task of a custom kind and the structure that it evaluated to. -/
  | custom (task : String) (input body : Json)
  /-- A handler was asked. -/
  | handle (invocation : Invocation)
  /-- An attempt of an operation began. -/
  | attempt (number : Nat)

/-- A request to the host. -/
inductive Request where
  /-- The value of a text in a scope. -/
  | evaluate (text : String) (scope : Scope) (locals : Locals)
  /-- A value with every text inside it evaluated. -/
  | traverse (value : Json) (scope : Scope) (locals : Locals)
  /-- Whether a guard holds. -/
  | check (guard : Option String) (scope : Scope) (locals : Locals)
  /-- Whether a scope around the context is cancelled. -/
  | cancelled (context : Context)
  /-- Whether the run is to be restarted, given the limit on its history. -/
  | due (context : Context) (limit : Nat)
  /-- Waits until the graphs that the run has detached are finished. -/
  | settle (context : Context)
  /-- Writes to the history of the run. -/
  | record (context : Context) (event : HistoryEvent)
  /-- Tells observers. -/
  | tell (notice : Notice)
  /-- Sets search attributes. -/
  | publish (attributes : Members)
  /-- Sets the response to a query. -/
  | respond (id : String) (response : Json)
  /-- A fresh run with a history of its own, cancelled with the context. -/
  | fresh (context : Context)
  /-- Runs a graph once and returns its final scope. -/
  | enter (context : Context) (graph : Graph) (input : Json) (scope : Scope)
  /-- Runs a graph to its output, restarts included, without waiting for it. -/
  | detach (context : Context) (graph : String) (input : Json) (scope : Scope)
  /-- Runs graphs to their outputs side by side, each in a cancellation scope of its own. -/
  | fork (context : Context) (graphs : List String) (input : Json) (scope : Scope)
  /-- Waits for the next of the forked graphs to finish. -/
  | reply
  /-- Cancels some of the forked graphs. -/
  | stop (branches : List Nat)
  /-- Offers a call to a host that may answer it without attempts and without a history. -/
  | offer (request : CallRequest)
  /-- Makes one attempt at a call. -/
  | dispatch (context : Context) (request : CallRequest) (timeout : Duration)
  /-- Writes a heartbeat at every interval from now on. -/
  | beat (context : Context) (interval : Duration)
  /-- Ends a heartbeat. -/
  | still (heartbeat : Nat)
  /-- Waits; the answer is whether the time was up, and not the scope cancelled. -/
  | pause (context : Context) (duration : Duration)
  /-- Waits for one or for all of some signals. -/
  | listen (context : Context) (mode : ListenMode) (signals : List String)

/-- What a request is answered with. -/
abbrev Request.Answer : Request → Type
  | .evaluate .. | .traverse .. | .dispatch .. => Except Fault Json
  | .check .. => Except Fault Bool
  | .cancelled _ | .due .. | .pause .. => Bool
  | .settle _ => Except Fault Unit
  | .record .. | .tell _ | .publish _ | .respond .. | .detach .. | .fork .. | .stop _ | .still _ => Unit
  | .fresh _ => Context
  | .enter .. => Except Fault Scope
  | .reply => Nat × Except Fault Json
  | .offer _ => Option (Except Fault Json)
  | .beat .. => Nat
  | .listen .. => Except Fault (List (String × Json))

end TaskGraph
