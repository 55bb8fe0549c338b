import TaskGraph.Evaluation.Basic
import TaskGraph.Program.Basic

/-!
# What stands inside a step

Only a nested list has steps inside it; whatever else a step runs is a graph, which it refers to by
name. `Step.Inside` is the nesting, `Step.Calls`, `Step.Names` and `Step.Spawns` say what graphs a
step runs or refers to by itself, and `Step.Quiet` describes the steps that may run again while a
restarted run is on its way to its marker.
-/

set_option autoImplicit false

namespace TaskGraph

/-- A name that a process may run: its own, or any if its own is an expression. -/
def WorkflowProcess.MayRun (p : WorkflowProcess) (name : String) : Prop :=
  p.name = name ∨ Evaluation.isExpression p.name = true

namespace Step

/-- Whether a step is another one or stands in a nested list inside it. -/
inductive Inside : Step → Step → Prop where
  | self (step : Step) : Inside step step
  | block {inner : Step} {child : Child Step} {children : Children} (mem : child ∈ children)
      (inside : Inside inner child.action) : Inside inner (.block children)

theorem Inside.trans {inner step outer : Step} (h : Inside inner step) (h' : Inside step outer) :
    Inside inner outer := by
  induction h' with
  | self => exact h
  | block mem _ ih => exact .block mem ih

/-- A step inside another one is that one itself, or the action of a child of a list inside it. -/
theorem Inside.cases {inner step : Step} (h : inner.Inside step) :
    inner = step ∨ ∃ list : Children, (Step.block list).Inside step ∧
      ∃ child ∈ list, inner = child.action := by
  induction h with
  | self => exact .inl rfl
  | @block child children mem _ ih =>
    right
    rcases ih with rfl | ⟨list, hlist, child', hchild', heq⟩
    · exact ⟨children, .self _, child, mem, rfl⟩
    · exact ⟨list, .block mem hlist, child', hchild', heq⟩

/-- Whether a step by itself may run the graph of a name and wait for its end. -/
def Calls : Step → String → Prop
  | loop _ _ body, name => body = name
  | switch cases, name => ∃ case ∈ cases, case.next = some (.target name)
  | attempt body handler _, name => body = some name ∨ handler = some name
  | run r _, name =>
    r.awaits = true ∧ ∃ process, r.process = .workflow process ∧ process.MayRun name
  | _, _ => False

/-- Whether a step by itself refers to a graph by a name that is no expression. -/
def Names : Step → String → Prop
  | loop _ _ body, name => body = name
  | fork _ branches, name => ∃ branch ∈ branches, branch.graph = name
  | switch cases, name => ∃ case ∈ cases, case.next = some (.target name)
  | attempt body handler _, name => body = some name ∨ handler = some name
  | run r _, name =>
    ∃ process, r.process = .workflow process ∧ Evaluation.isExpression process.name = false ∧
      process.name = name
  | _, _ => False

/-- Whether a step by itself refers to a graph that is compiled along with it. -/
def Builds : Step → String → Prop
  | loop _ _ body, name => body = name
  | fork _ branches, name => ∃ branch ∈ branches, branch.graph = name
  | attempt body handler _, name => body = some name ∨ handler = some name
  | _, _ => False

/-- Whether a step is a switch with a graph for a target. -/
def Targets : Step → Prop
  | switch cases => ∃ case ∈ cases, ∃ name, case.next = some (.target name)
  | _ => False

/-- Whether a step by itself runs the graph of a process. -/
def Runs : Step → WorkflowProcess → Prop
  | run r _, process => r.process = .workflow process
  | _, _ => False

/-- Whether a step by itself runs graphs side by side or one that it does not wait for. -/
def Spawns : Step → Prop
  | fork .. => True
  | run r _ => r.awaits = false ∧ ∃ process, r.process = .workflow process
  | _ => False

theorem names_of_builds {step : Step} {name : String} (h : step.Builds name) : step.Names name := by
  cases step with
  | loop | fork | attempt => exact h
  | _ => exact h.elim

/-- A graph that a step refers to is compiled along with it, or the target of a switch, or run as that of
a process. -/
theorem builds_of_names {step : Step} {name : String} (hname : step.Names name)
    (htargets : ¬ step.Targets) (hruns : ∀ process, ¬ step.Runs process) : step.Builds name := by
  cases step with
  | loop | fork | attempt => exact hname
  | switch cases =>
    obtain ⟨case, hcase, hnext⟩ := hname
    exact absurd ⟨case, hcase, name, hnext⟩ htargets
  | run r timeout =>
    obtain ⟨process, hprocess, -⟩ := hname
    exact absurd hprocess (hruns process)
  | _ => exact hname.elim

/-- A step refers to the graph of a process by its name, if that is no expression. -/
theorem names_of_runs {step : Step} {process : WorkflowProcess} (hprocess : step.Runs process)
    (hname : Evaluation.isExpression process.name = false) : step.Names process.name := by
  cases step with
  | run r timeout => exact ⟨process, hprocess, hname, rfl⟩
  | _ => exact hprocess.elim

/-- A step that starts nothing beside itself calls the graphs that it refers to. -/
theorem calls_of_names {step : Step} {name : String} (halone : ¬ step.Spawns)
    (hname : step.Names name) : step.Calls name := by
  cases step with
  | loop | switch | attempt => exact hname
  | fork => exact absurd trivial halone
  | run r timeout =>
    obtain ⟨process, hprocess, -, hname⟩ := hname
    cases hawaits : r.awaits with
    | false => exact absurd ⟨hawaits, process, hprocess⟩ halone
    | true => exact ⟨hawaits, process, hprocess, .inl hname⟩
  | _ => exact hname.elim

/-- A step that starts nothing beside itself calls what its process may run. -/
theorem calls_of_runs {step : Step} {process : WorkflowProcess} {name : String}
    (halone : ¬ step.Spawns) (hprocess : step.Runs process) (hname : process.MayRun name) :
    step.Calls name := by
  cases step with
  | run r timeout =>
    cases hawaits : r.awaits with
    | false => exact absurd ⟨hawaits, process, hprocess⟩ halone
    | true => exact ⟨hawaits, process, hprocess, hname⟩
  | _ => exact hprocess.elim

/-- Whether a step waits for nothing by itself and calls nothing: a nested list, or a listener to
queries alone. -/
def Quiet : Step → Prop
  | block _ => True
  | listen _ waits _ => waits = []
  | _ => False

/-- Whether a property holds of every list that stands inside a step. -/
def Lists (P : Children → Prop) (step : Step) : Prop :=
  ∀ children, Inside (.block children) step → P children

theorem Lists.child {P : Children → Prop} {children : Children} (h : (block children).Lists P)
    {child : Child Step} (hchild : child ∈ children) : child.action.Lists P :=
  fun inner hinner => h inner (.block hchild hinner)

/-- Whether a query stands in a listener inside a step that listens to queries alone. -/
def Queries (step : Step) (q : Query) : Prop :=
  ∃ mode queries, Inside (.listen mode [] queries) step ∧ q ∈ queries

theorem Queries.block {q : Query} {child : Child Step} {children : Children}
    (h : child.action.Queries q) (hchild : child ∈ children) : (block children).Queries q := by
  obtain ⟨mode, queries, hinside, hq⟩ := h
  exact ⟨mode, queries, .block hchild hinside, hq⟩

end Step

end TaskGraph
