import TaskGraph.Document.Workflow
import TaskGraph.Naming

/-!
# Programs

A program is what a document is compiled to: named graphs, one of them the root. A graph is a list of
children; the bodies of loops, forks and error boundaries and the targets of switches are graphs of
their own, referred to by name, while a nested list stands inside its parent.
-/

set_option autoImplicit false

namespace TaskGraph

/-- A child of a list: what it is called, the fields every task has, and what it does. A replayed child
runs again while a restarted run is on its way to the child it resumes at. -/
structure Child (α : Type) where
  id : String
  name : String
  base : TaskBase
  replayed : Bool
  action : α

/-- A branch of a fork and the graph that is its body. -/
structure Branch where
  key : String
  graph : String
  deriving Repr, DecidableEq

/-- A query and the response to it; without one the data of the scope are the response. -/
structure Query where
  id : String
  response : Option Json
  deriving Repr, DecidableEq

/-- What a child does. -/
inductive Step where
  /-- Runs a list in the scope of its parent. -/
  | block (children : List (Child Step))
  /-- Runs a graph for every element of a value. -/
  | loop (spec : LoopSpec) (condition : Option String) (body : String)
  /-- Runs graphs side by side. -/
  | fork (compete : Bool) (branches : List Branch)
  /-- Runs the graph of the first case that holds. -/
  | switch (cases : List SwitchCase)
  /-- Runs a graph and, if it fails, another one. -/
  | attempt (body handler : Option String) (binding : String)
  | call (call : Call) (timeout : Option Duration)
  | run (run : ProcessRun) (timeout : Option Duration)
  | wait (duration : Duration)
  | raise (error : RaiseError)
  | listen (mode : ListenMode) (waits : List String) (queries : List Query)
  | assign (value : Json)
  /-- Evaluates a structure. -/
  | custom (body : Json)

/-- A compiled list. -/
abbrev Children := List (Child Step)

/-- A list that can be run on its own. -/
structure Graph where
  name : String
  children : Children
  schema : Option Json

/-- Settings that a program is compiled with. -/
structure ProgramOptions where
  /-- A run whose history is longer restarts; zero sets no limit. -/
  maxHistory : Nat
  validateInput : Bool
  deriving Repr, DecidableEq, Inhabited

namespace ProgramOptions

/-- Without a limit on histories, and with inputs validated. -/
def standard : ProgramOptions := ⟨0, true⟩

/-- The settings in words. -/
def describe (o : ProgramOptions) : String :=
  "CompileOptions \x7b max_history_length: " ++ Decimal.natText o.maxHistory ++ ", validate_input: " ++
    (if o.validateInput then "true" else "false") ++ ", .. \x7d"

end ProgramOptions

/-- Named graphs, one of them the root. -/
structure Program where
  root : String
  graphs : List Graph
  options : ProgramOptions

namespace Graph

/-- The graph of a name. -/
def find? (graphs : List Graph) (name : String) : Option Graph := graphs.find? (·.name == name)

/-- The names of graphs, sorted. -/
def sortedNames (graphs : List Graph) : List String :=
  (graphs.map Graph.name).mergeSort (fun a b => decide (a ≤ b))

end Graph

namespace Program

/-- The graph of a name, or the fault that there is none. -/
def graph (p : Program) (name : String) : Except Fault Graph :=
  match Graph.find? p.graphs name with
  | some g => .ok g
  | none => .error (.graphNotFound name)

end Program

end TaskGraph
