import TaskGraph.Execution.Calling
import TaskGraph.Execution.Forking
import TaskGraph.Execution.Iteration
import TaskGraph.Execution.Listening
import TaskGraph.Schema.Validation

/-!
# Sequences

The children of a list run in order, in one scope. For each child: the run may be left for a new one,
unless it is the first child or the run is still on its way to a marker; a resumed run passes over the
children before its marker; a flow directive passes over the children before its target; the guard is
checked, then the input and the search attributes; the child runs, its value is recorded under its
name, its export becomes the output; and its own flow directive is followed.

A list that is nested in another one runs in the scope of its parent and is never left for a new run.
-/

set_option autoImplicit false

namespace TaskGraph

namespace Sequence

/-! ## Tasks without lists -/

/-- Runs the graph of the first case that holds. -/
def switch (e : Setting) (c : Context) (input : Json) (s : Scope) : List SwitchCase →
    Running (Option Json)
  | [] => pure none
  | case :: cases => do
    if ← Running.check case.condition s [] then
      match case.next with
      | some (.target graph) => do
        let v ← Restart.runGraph e.program c graph input s.child
        pure (Forking.unlessNull v)
      | _ => pure none
    else switch e c input s cases

/-- The scope of a catch list: the scope of the task with the fault among its data. -/
def handlerScope (s : Scope) (binding : String) (f : Fault) : Scope := s.child.setData binding f.toJson

/-- Runs a graph and, if it fails, the graph of its catch list. Cancellations and restarts are not
caught. -/
def attempt (e : Setting) (c : Context) (input : Json) (s : Scope) (body handler : Option String)
    (binding : String) : Running (Option Json) :=
  match body with
  | none => pure none
  | some body => do
    match ← (Restart.runGraph e.program c body input s.child).outcome with
    | .ok v => pure (Forking.unlessNull v)
    | .error f =>
      if f.isCancelled then pure none
      else if f.isContinuation then throw f
      else match handler with
        | none => pure none
        | some handler => do
          let v ← Restart.runGraph e.program c handler input (handlerScope s binding f)
          pure (Forking.unlessNull v)

/-- Runs another graph of the program, with the input it is given or with that of the task. -/
def graphProcess (e : Setting) (c : Context) (task : String) (input : Json) (s : Scope)
    (process : WorkflowProcess) (awaits : Bool) : Running (Option Json) := do
  let p ← Calling.interpolate task WorkflowProcess.decode process.toJson s
  let childInput := p.input.getD input
  let scope := s.childWithInput childInput
  if awaits then
    let v ← Restart.runGraph e.program c p.name childInput scope
    pure (some v)
  else
    Restart.startGraph e.program c p.name childInput scope
    pure none

/-- Runs a process. -/
def process (e : Setting) (c : Context) (task : String) (base : TaskBase) (input : Json) (s : Scope)
    (run : ProcessRun) (timeout : Option Duration) : Running (Option Json) :=
  match run.process with
  | .workflow p => graphProcess e c task input s p run.awaits
  | .shell p => do
    let v ← Calling.invoke e c task base timeout do
      return .shell (← Calling.interpolate task ShellProcess.decode p.toJson s)
    pure (some v)
  | .script p => do
    let v ← Calling.invoke e c task base timeout do
      return .script (← Calling.interpolate task ScriptProcess.decode p.toJson s)
    pure (some v)
  | .container p => do
    let v ← Calling.invoke e c task base timeout do
      return .container (← Calling.interpolate task ContainerProcess.decode p.toJson s)
    pure (some v)

/-- Waits. -/
def sleep (c : Context) (d : Duration) : Running Unit := do
  let ms := d.toMillis % Nat.pow 2 64
  Running.tell (.sleep d)
  Running.record c (.timerStarted ms)
  if ← Running.pause c d then Running.record c (.timerFired ms)
  else throw (.cancelled "timer")

/-- Raises an error. -/
def raise (task : String) (s : Scope) (error : RaiseError) : Running (Option Json × Scope) := do
  let e ← Calling.interpolate task RaiseError.decode error.toJson s
  throw (.raised e.errorType e.status e.title e.detail)

/-- Evaluates a structure, records it as the data of the scope, and returns it. -/
def assign (s : Scope) (value : Json) : Running (Option Json × Scope) := do
  let v ← Running.traverse value s []
  pure (some v, s.mergeData v)

/-- Evaluates the structure of a task of a custom kind. -/
def custom (task : String) (input : Json) (s : Scope) (body : Json) : Running (Option Json) := do
  let v ← Running.traverse body s []
  Running.tell (.custom task input v)
  pure (Forking.unlessNull v)

/-! ## Around a task -/

/-- What the expressions of a child see of it. -/
def taskBinding (name : String) : String × Json := ("task", .obj [("name", .str name)])

/-- Checks the input of the scope against the schema of a child. -/
def checkInput (options : ProgramOptions) (name : String) (base : TaskBase) (s : Scope) :
    Except Fault Unit :=
  match base.schema? with
  | some schema => if options.validateInput then Schema.validate name schema s.input else .ok ()
  | none => .ok ()

/-- Sets the search attributes that a child declares. -/
def publish (c : Context) (name : String) (base : TaskBase) (s : Scope) : Running Unit :=
  match base.metadata.get? "searchAttributes" with
  | none => pure ()
  | some v => do
    match ← Running.traverse v s [] with
    | .obj m => do
      Running.ask (.publish m)
      Running.record c (.attributesUpserted (.obj m))
    | v => throw (.invalidTask name ("metadata.searchAttributes must be a map, got " ++ v.kind))

/-- Records the value of a child under its name. -/
def recorded (name : String) (value : Option Json) (s : Scope) : Scope :=
  match value with
  | some v => s.setData name v
  | none => s

/-- Makes the export of a child the output of the scope. -/
def export_ (name : String) (base : TaskBase) (value : Option Json) (s : Scope) : Running Scope :=
  match base.exported with
  | none => pure s
  | some v => do
    let output ← Running.traverse v s [taskBinding name, ("result", value.getD .null)]
    pure { s with output := some output }

/-- Whether a run is to be left before a child. -/
def leaves (e : Setting) (c : Context) (entry : Option String) (first : Bool) (s : Scope) :
    Running Bool :=
  if entry.isSome && !first && !s.isResuming then
    Running.ask (.due c e.program.options.maxHistory)
  else pure false

/-- What a list makes of the outcome of a child: its value and the scope after it, or nothing if the list
is to stop. A child that was cancelled has no value; it stops the list if the scope around it is
cancelled as well. -/
def absorb (c : Context) (s : Scope) :
    Except Fault (Option Json × Scope) → Running (Option (Option Json × Scope))
  | .ok r => pure (some r)
  | .error f =>
    if f.isCancelled then do
      if ← Running.cancelled c then pure none else pure (some (none, s))
    else throw f

/-- The name that a flow directive is on its way to. -/
def pendingTarget : Option Flow → Option String
  | some (.target target) => some target
  | _ => none

mutual

/-- Runs the children of a list. `entry` is the graph that the list is the whole of, if it may be left
for a new run; `pending` is the name that a flow directive is on its way to. -/
def run (e : Setting) (c : Context) (entry : Option String) (input : Json) (first : Bool)
    (pending : Option String) : List (Child Step) → Scope → Running Scope
  | [], s => match pending with
    | some target => throw (.flowTargetNotFound target)
    | none => pure s
  | ⟨id, name, base, replayed, action⟩ :: rest, s => do
    if ← leaves e c entry first s then Restart.suspend c (entry.getD "") id input s
    else
      let (resumption, s) := Restart.resumption id replayed entry.isSome s
      if resumption = .skip ∨ pending.any (· ≠ name) then
        run e c entry input false pending rest s
      else if ← Running.check base.guard s [taskBinding name] then
        if resumption = .replay then
          match ← absorb c s (← (step e c name base input action s).outcome) with
          | none => pure s
          | some (_, s) => run e c entry input false none rest s
        else do
          Running.ofExcept (checkInput e.program.options name base s)
          publish c name base s
          match ← absorb c s (← (step e c name base input action s).outcome) with
          | none => pure s
          | some (value, s) => do
            let s ← export_ name base value (recorded name value s)
            if base.next = some .stop then pure s
            else run e c entry input false (pendingTarget base.next) rest s
      else run e c entry input false none rest s

/-- Runs what a child does. The answer is its value, if it has one, and the scope after it. -/
def step (e : Setting) (c : Context) (name : String) (base : TaskBase) (input : Json) :
    Step → Scope → Running (Option Json × Scope)
  | .block children, s => do
    let s ← run e c none input true none children s
    pure (s.output, s)
  | .loop spec condition body, s => do
    let loop : LoopBody := ⟨name, spec.indexName, spec.itemName, condition, body⟩
    let v ← Iteration.run e.program c loop spec.source s
    pure (some v, s)
  | .fork compete branches, s => Forking.run c name compete branches input s
  | .switch cases, s => do
    let v ← switch e c input s cases
    pure (v, s)
  | .attempt body handler binding, s => do
    let v ← attempt e c input s body handler binding
    pure (v, s)
  | .call call timeout, s => do
    let v ← Calling.invoke e c name base timeout (Calling.callInvocation name s call)
    pure (some v, s)
  | .run r timeout, s => do
    let v ← process e c name base input s r timeout
    pure (v, s)
  | .wait d, s => do
    sleep c d
    pure (none, s)
  | .raise error, s => raise name s error
  | .listen mode waits queries, s => do
    let v ← Listening.run c mode waits queries s
    pure (v, s)
  | .assign value, s => assign s value
  | .custom body, s => do
    let v ← custom name input s body
    pure (v, s)

end

/-- Runs a graph from its first child. -/
def runGraph (e : Setting) (c : Context) (g : Graph) (input : Json) (s : Scope) : Running Scope :=
  run e c (some g.name) input true none g.children s

end Sequence

/-- The scope in which a run of a graph starts; the input is checked against the schema. -/
def Graph.initialScope (options : ProgramOptions) (g : Graph) (input : Json) (env : Members) :
    Except Fault Scope :=
  match g.schema with
  | some schema =>
    if options.validateInput then (Schema.validate g.name schema input).map fun _ => .start input env
    else .ok (.start input env)
  | none => .ok (.start input env)

end TaskGraph
