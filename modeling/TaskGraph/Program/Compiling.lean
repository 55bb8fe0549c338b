import TaskGraph.Evaluation.Basic
import TaskGraph.Program.Kinds
import TaskGraph.Text.Casing

/-!
# Compiling documents

Compiling is eager and ends at the first fault. Every list has distinct names, and every flow target is
a name of the same list. The graphs that a list refers to are registered on the way; that every graph
which a switch or a run names is registered is checked at the end, since a name may be used before the
graph of that name has been met.
-/

set_option autoImplicit false

namespace TaskGraph

/-- What compiling has registered: graphs, and the names that have to be among them with the tasks that
use them. -/
structure Registration where
  graphs : List Graph
  references : List (String × String)

/-- A step of compiling. What a failed step has registered stays registered. -/
abbrev Compiling (α : Type) := ExceptT Fault (StateM Registration) α

namespace Registration

/-- Nothing registered. -/
def empty : Registration := ⟨[], []⟩

end Registration

namespace Compiling

/-- Runs a step. -/
def run {α : Type} (c : Compiling α) (r : Registration) : Except Fault α × Registration := c r

/-! ## Registering -/

/-- Registers a graph under a name that has none yet. -/
def register (g : Graph) : Compiling Unit := fun r =>
  match Graph.find? r.graphs g.name with
  | some _ => (.error (.duplicateGraph g.name), r)
  | none => (.ok (), { r with graphs := r.graphs ++ [g] })

/-- Notes that a task uses a graph. -/
def require (task graph : String) : Compiling Unit := fun r =>
  (.ok (), { r with references := r.references ++ [(task, graph)] })

/-! ## Checks on tasks -/

/-- The methods that a call may use. -/
def methods : List String := ["GET", "POST", "PUT", "PATCH", "DELETE", "HEAD", "OPTIONS"]

/-- A method is an expression or one of the methods in some case. -/
def methodAllowed (method : String) : Bool :=
  Evaluation.isExpression method || methods.contains (Text.upper method)

/-- Checks what a call calls. -/
def checkCall (task : String) : Call → Except Fault Unit
  | .activity c =>
    if Text.allBlank c.name then .error (.invalidTask task "activity name is empty") else .ok ()
  | .http c =>
    if Text.allBlank c.endpoint.address then .error (.invalidTask task "http endpoint is empty")
    else if methodAllowed c.method then .ok ()
    else .error (.invalidTask task ("unsupported http method '" ++ c.method ++ "'"))
  | .grpc c =>
    if c.service.name = "" ∨ c.method = "" then
      .error (.invalidTask task "grpc service name and method are required")
    else .ok ()

/-- Checks a process that is no graph: its end is waited for, and there is something to run. -/
def checkProcess (task : String) (r : ProcessRun) : Except Fault Unit :=
  if !r.awaits then .error (.invalidTask task ("run." ++ r.process.kind ++ " must be awaited"))
  else match r.process with
    | .shell p =>
      if Text.allBlank p.command then .error (.invalidTask task "run.shell needs a command") else .ok ()
    | .script p =>
      if Text.allBlank p.code then .error (.invalidTask task "run.script needs code") else .ok ()
    | .container p =>
      if Text.allBlank p.image then .error (.invalidTask task "run.container needs an image") else .ok ()
    | .workflow _ => .ok ()

/-- Checks a run; a graph with a literal name is noted as used. -/
def checkRun (task : String) (r : ProcessRun) : Compiling Unit :=
  match r.process with
  | .workflow p =>
    if p.name = "" then throw (.invalidTask task "run.workflow needs a name")
    else if Evaluation.isExpression p.name then pure ()
    else require task p.name
  | _ => liftM (checkProcess task r)

/-- A duration, or the fault of the task that declares it. -/
def taskDuration (task : String) (d : DurationSpec) : Except Fault Duration :=
  d.toDuration.mapError fun f => .invalidTask task f.message

/-- The timeout of a task. -/
def timeout (task : String) (base : TaskBase) : Except Fault (Option Duration) :=
  match base.timeout with
  | some d => (taskDuration task d).map some
  | none => .ok none

/-- Compiles a listener. -/
def listener (task : String) (l : Listener) : Except Fault Step :=
  match l.mode? with
  | none => .error (.invalidTask task "listen.to needs exactly one of one, any or all")
  | some mode =>
    if l.events.any (·.id == "") then .error (.invalidTask task "listen event id is empty")
    else
      let (queries, waits) := l.events.partition fun e => e.type == .query
      .ok (.listen mode (waits.map (·.id)) (queries.map fun e => ⟨e.id, e.data⟩))

/-- Compiles a switch: at most one case holds always, and the targets are noted as used. -/
def switch (task : String) (cases : List SwitchCase) : Compiling Step :=
  if (cases.filter (·.condition.isNone)).length > 1 then throw (.duplicateDefault task)
  else do
    cases.forM fun c => match c.next with
      | some (.target graph) => require task graph
      | _ => pure ()
    pure (.switch cases)

/-! ## Lists -/

/-- The first name that a list of names holds twice, where it comes up again. -/
def repeated? (seen : List String) : List String → Option String
  | [] => none
  | n :: ns => if seen.contains n then some n else repeated? (n :: seen) ns

/-- Refuses a list of tasks in which a name comes up again. -/
def distinct (graph : String) (names : List String) : Except Fault Unit :=
  match repeated? [] names with
  | some name => .error (.duplicateTask name graph)
  | none => .ok ()

/-- Refuses a flow target that is no name of the list. -/
def targetKnown (names : List String) (task : Task) : Except Fault Unit :=
  match task.base.next with
  | some (.target target) =>
    if names.contains target then .ok () else .error (.missingFlowTarget task.name target)
  | _ => .ok ()

/-- Compiles a list with distinct names, given how its children are compiled. -/
def listed (graph : String) (names : List String) (children : Compiling Children) :
    Compiling Children := do
  liftM (distinct graph names)
  children

/-- Compiles a list and registers it as a graph, given how its children are compiled. -/
def registered (graph : String) (names : List String) (children : Compiling Children) :
    Compiling Children := do
  let cs ← listed graph names children
  register ⟨graph, cs, none⟩
  pure cs

/-- The names of a list of tasks. -/
def names (tasks : TaskList) : List String := tasks.map Item.name

/-- Registers a list unless it is empty, and returns the name of its graph. -/
def unlessEmpty (graph : String) (tasks : TaskList) (compiled : Compiling Children) :
    Compiling (Option String) :=
  if tasks.isEmpty then pure none
  else do
    let _ ← compiled
    pure (some graph)

mutual

/-- Compiles a task of a list. -/
def child (kinds : Kinds) (graph : String) (siblings : List String) (ordinal : Nat) :
    Task → Compiling (Child Step)
  | ⟨name, base, action⟩ => do
    liftM (targetKnown siblings ⟨name, base, action⟩)
    let (kind, replayed) ← liftM (kinds.builder name action)
    let step ← match kind with
      | .builtIn => step kinds graph name base action
      | .custom _ => pure (.custom action.structureBody)
    pure ⟨Naming.childId name ordinal, name, base, replayed, step⟩

/-- Compiles what a task does. -/
def step (kinds : Kinds) (graph name : String) (base : TaskBase) : Action → Compiling Step
  | .block tasks => do
    let cs ← registered name (names tasks) (children kinds name (names tasks) 0 tasks)
    pure (.block cs)
  | .loop spec condition body => do
    let inner := Naming.graphName "for" graph name none
    let _ ← registered inner (names body) (children kinds inner (names body) 0 body)
    pure (.loop spec condition inner)
  | .fork compete tasks => do
    let bs ← branches kinds graph name tasks
    pure (.fork compete bs)
  | .switch cases => switch name cases
  | .attempt body binding handler => do
    let inner := Naming.graphName "try" graph name none
    let bodyGraph ← unlessEmpty inner body
      (registered inner (names body) (children kinds inner (names body) 0 body))
    let outer := Naming.graphName "catch" graph name none
    let handlerGraph ← unlessEmpty outer handler
      (registered outer (names handler) (children kinds outer (names handler) 0 handler))
    pure (.attempt bodyGraph handlerGraph (binding.getD "error"))
  | .call call => do
    liftM (checkCall name call)
    let limit ← liftM (timeout name base)
    pure (.call call limit)
  | .run run => do
    checkRun name run
    let limit ← liftM (timeout name base)
    pure (.run run limit)
  | .wait d => do
    let d ← liftM (taskDuration name d)
    pure (.wait d)
  | .raise error => pure (.raise error)
  | .listen l => liftM (listener name l)
  | .assign value => pure (.assign value)
  | .custom _ body => pure (.custom body)

/-- Compiles the tasks of a list, the first of which has the given ordinal. -/
def children (kinds : Kinds) (graph : String) (siblings : List String) (ordinal : Nat) :
    List Task → Compiling Children
  | [] => pure []
  | task :: tasks => do
    let c ← child kinds graph siblings ordinal task
    let cs ← children kinds graph siblings (ordinal + 1) tasks
    pure (c :: cs)

/-- Compiles the branches of a fork. A branch that is a nested list has that list as its graph, any
other one a list of itself alone. -/
def branches (kinds : Kinds) (graph fork : String) : List Task → Compiling (List Branch)
  | [] => pure []
  | ⟨name, base, action⟩ :: tasks => do
    let inner := Naming.graphName "fork" graph fork (some name)
    let _ ← match action with
      | .block list => registered inner (names list) (children kinds inner (names list) 0 list)
      | action => registered inner [name] do
          let c ← child kinds inner [name] 0 ⟨name, base, action⟩
          pure [c]
    let bs ← branches kinds graph fork tasks
    pure (⟨name, inner⟩ :: bs)

end

/-- Compiles a list for a graph of that name, which is not registered. -/
def list (kinds : Kinds) (graph : String) (tasks : TaskList) : Compiling Children :=
  listed graph (names tasks) (children kinds graph (names tasks) 0 tasks)

/-- Compiles a list and registers it. -/
def subgraph (kinds : Kinds) (graph : String) (tasks : TaskList) : Compiling Children :=
  registered graph (names tasks) (children kinds graph (names tasks) 0 tasks)

/-- The first use of a graph that is not registered. -/
def unknown? (r : Registration) : Option (String × String) :=
  r.references.find? fun e => (Graph.find? r.graphs e.2).isNone

/-- Refuses uses of graphs that are not registered. -/
def closed : Compiling Unit := fun r =>
  match unknown? r with
  | some (task, graph) => (.error (.unknownGraph task graph), r)
  | none => (.ok (), r)

/-- Compiles a document, whose name is the name of the root. -/
def workflow (kinds : Kinds) (options : ProgramOptions) (w : Workflow) : Compiling Program := do
  liftM w.validate
  let cs ← list kinds w.name w.tasks
  register ⟨w.name, cs, w.schema?⟩
  closed
  let r ← get
  pure ⟨w.name, r.graphs, options⟩

end Compiling

namespace Program

/-- Compiles a document. -/
def compile (kinds : Kinds) (options : ProgramOptions) (w : Workflow) : Except Fault Program :=
  (Compiling.run (Compiling.workflow kinds options w) .empty).1

end Program

end TaskGraph
