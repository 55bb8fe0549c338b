import TaskGraph.Execution.Dialogue

/-!
# Restarting

A run whose history has grown too long is left for a new one. It waits for what it has detached and
then ends in a fault that carries its scope, with the marker of the child to go on at. The new run
passes over every child before the marker; only the list that the run started from takes the marker
away, at the child it names. A graph is restarted a bounded number of times.
-/

set_option autoImplicit false

namespace TaskGraph

/-- What a resumed run does with a child. -/
inductive Resumption where
  /-- Runs it: nothing is resumed, or this is the child to resume at. -/
  | run
  /-- Passes over it. -/
  | skip
  /-- Runs it for its effects on the host alone. -/
  | replay
  deriving Repr, DecidableEq

namespace Restart

/-- What is done with a child, and the scope in which it is done. -/
def resumption (id : String) (replayed ownsMarker : Bool) (s : Scope) : Resumption × Scope :=
  match s.marker with
  | none => (.run, s)
  | some m =>
    if ownsMarker && m == id then (.run, { s with marker := none })
    else (if replayed then .replay else .skip, s)

/-- Ends a run at a child: with the request for a new run, or, if what was detached cannot be waited
for, with the fault that says so. -/
def suspend {α : Type} (c : Context) (entry id : String) (input : Json) (s : Scope) : Running α := do
  match ← (Running.settle c).outcome with
  | .error f => throw (.handlersNotFinished entry id f.message)
  | .ok () => throw (.continueAsNew entry input { s with marker := some id })

/-- The number of times that a run may be restarted. -/
def limit : Nat := 1000

/-- Runs a graph in fresh runs until one ends without asking for another, or the restarts are used up. -/
def loop (p : Program) (c : Context) (name : String) : Nat → Graph → Json → Scope → Running Json
  | left, g, input, s => do
    let inner ← Running.ask (.fresh c)
    match ← (Running.enter inner g input s).outcome with
    | .ok s => pure (s.output.getD .null)
    | .error (.continueAsNew entry input s) => match left with
      | 0 => throw (.continuationFailed
          ("sub-graph '" ++ name ++ "' restarted " ++ Decimal.natText limit ++ " times"))
      | left + 1 => do
        let g ← Running.ofExcept (p.graph entry)
        loop p c name left g input s
    | .error f => throw f

/-- Runs the graph of a name to its output, on the history of the context. -/
def graphOutput (p : Program) (c : Context) (name : String) (input : Json) (s : Scope) :
    Running Json := do
  let g ← Running.ofExcept (p.graph name)
  Running.record c (.graphStarted name false)
  let output ← loop p c name limit g input s
  Running.record c (.graphCompleted name 0)
  pure output

/-- Runs the graph of a name to its output, before the eyes of observers. -/
def runGraph (p : Program) (c : Context) (name : String) (input : Json) (s : Scope) :
    Running Json := do
  Running.tell (.enter name input s)
  let result ← (graphOutput p c name input s).outcome
  Running.tell (.leave name result)
  Running.ofExcept result

/-- Starts the graph of a name and does not wait for it. -/
def startGraph (p : Program) (c : Context) (name : String) (input : Json) (s : Scope) :
    Running Unit := do
  Running.tell (.detach name input s)
  let _ ← Running.ofExcept (p.graph name)
  Running.record c (.graphStarted name true)
  Running.ask (.detach c name input s)

/-- What a finished run leaves behind: its output, its scope, the number of restarts, and the run with
the last history. -/
structure Outcome where
  output : Json
  scope : Scope
  restarts : Nat
  run : Nat

/-- Runs a graph as the entry point of a program, restarting it as often as it asks within the bound. -/
def rootLoop (p : Program) (c : Context) : Nat → Graph → Json → Scope → Running Outcome
  | left, g, input, s => do
    let inner ← Running.ask (.fresh c)
    Running.record inner (.runStarted g.name (Decimal.natText inner.run) s.marker)
    match ← (Running.enter inner g input s).outcome with
    | .ok s => do
      let output := s.output.getD .null
      Running.record inner (.runCompleted output 0)
      pure ⟨output, s, limit - left, inner.run⟩
    | .error (.continueAsNew entry input s) => match left with
      | 0 => do
        let f : Fault := .continuationFailed ("gave up after " ++ Decimal.natText limit ++ " restarts")
        Running.record inner (.runFailed f.message)
        throw f
      | left + 1 => do
        Running.record inner (.continuedAsNew entry s.marker)
        let g ← Running.ofExcept (p.graph entry)
        rootLoop p c left g input s
    | .error f => do
      Running.record inner (.runFailed f.message)
      throw f

end Restart

end TaskGraph
