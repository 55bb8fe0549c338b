import TaskGraph.Proofs.Program.Compiled

/-!
# Which documents compile

A document of assignments, nested lists, loops, forks, switches, attempts and runs of graphs that are
named literally compiles exactly if it is well formed (`Workflow.compiles_iff_wellFormed`). Being well
formed is a condition on `Workflow.lists`, the lists of the document that become graphs, with the names of
these graphs; compiling is not mentioned in it.

The compiler goes through the document once, and what it has registered and noted decides what fails
later on. So a step of compiling is given a `Demand`: the names that it registers, the names that it
notes, and a condition on the document. `Compiling.Demands` says that the step succeeds exactly if the
condition holds and the names are new, and what it then leaves behind. Demands are put together as steps
are, by `Demand.and`, and what the compiler demands of a document is what its lists demand.
-/

set_option autoImplicit false

namespace TaskGraph

open Compiling (names)

/-! ## The lists of a document -/

namespace Task

mutual

/-- The lists inside a task that become graphs, each with the name of its graph; `graph` is the graph
that the task is in. -/
def lists (graph name : String) : Action → List (String × TaskList)
  | .block tasks => inner name tasks ++ [(name, tasks)]
  | .loop _ _ body =>
    let loop := Naming.graphName "for" graph name none
    inner loop body ++ [(loop, body)]
  | .fork _ tasks => branches graph name tasks
  | .attempt body _ handler =>
    let attempted := Naming.graphName "try" graph name none
    let handling := Naming.graphName "catch" graph name none
    (if body.isEmpty then [] else inner attempted body ++ [(attempted, body)]) ++
      if handler.isEmpty then [] else inner handling handler ++ [(handling, handler)]
  | _ => []

/-- The lists inside the tasks of a list. -/
def inner (graph : String) : List Task → List (String × TaskList)
  | [] => []
  | ⟨name, _, action⟩ :: tasks => lists graph name action ++ inner graph tasks

/-- The lists that the branches of a fork are: that of a branch which is a nested list is this list, that
of any other one is the branch alone. -/
def branches (graph fork : String) : List Task → List (String × TaskList)
  | [] => []
  | ⟨name, base, action⟩ :: tasks =>
    let branch := Naming.graphName "fork" graph fork (some name)
    (match action with
      | .block list => inner branch list ++ [(branch, list)]
      | action => lists branch name action ++ [(branch, [⟨name, base, action⟩])]) ++
      branches graph fork tasks

end

/-- Whether a task is one of the fragment: an assignment, a nested list, a loop, a fork, a switch, an
attempt or the run of a graph that is named literally; and whether it has no timeout. -/
def plain (task : Task) : Bool :=
  task.base.timeout.isNone && match task.action with
    | .assign _ | .block _ | .loop .. | .fork .. | .switch _ | .attempt .. => true
    | .run r => match r.process with
      | .workflow process => !Evaluation.isExpression process.name
      | _ => false
    | _ => false

end Task

/-- Whether a task starts the graph of a name. -/
def Action.Uses (graph : String) : Action → Prop
  | .switch cases => ∃ case ∈ cases, case.next = some (.target graph)
  | .run r => ∃ process, r.process = .workflow process ∧ process.name = graph
  | _ => False

/-- Whether a task is well formed by itself: a fork has a branch, a switch has at most one case without a
condition, and the graph that a task runs is named. -/
def Action.WellFormed : Action → Prop
  | .fork _ branches => branches ≠ []
  | .switch cases => (cases.filter (·.condition.isNone)).length ≤ 1
  | .run r => ∀ process, r.process = .workflow process → process.name ≠ ""
  | _ => True

/-- Whether a task is well formed among the tasks of its list, which have these names: its flow target
is one of them. -/
structure Task.WellFormed (siblings : List String) (task : Task) : Prop where
  target : ∀ name, task.base.next = some (.target name) → name ∈ siblings
  action : task.action.WellFormed

/-- Whether a list of tasks is well formed: its names are distinct, and so are its tasks among them. -/
structure TaskList.WellFormed (tasks : TaskList) : Prop where
  distinct : (names tasks).Nodup
  tasks : ∀ task ∈ tasks, Task.WellFormed (names tasks) task

namespace Workflow

/-- The lists of a document that become graphs, each with the name of its graph; the root is the last
one. -/
def lists (w : Workflow) : List (String × TaskList) := Task.inner w.name w.tasks ++ [(w.name, w.tasks)]

/-- The names under which graphs are registered. -/
def graphNames (w : Workflow) : List String := w.lists.map Prod.fst

/-- Whether all tasks of a document are of the fragment. -/
def Plain (w : Workflow) : Prop := ∀ e ∈ w.lists, ∀ task ∈ e.2, task.plain = true

/-- Whether a document can be compiled. -/
structure WellFormed (w : Workflow) : Prop where
  named : Text.allBlank w.name = false
  filled : w.tasks ≠ []
  lists : ∀ e ∈ w.lists, TaskList.WellFormed e.2
  /-- No two graphs have the same name. -/
  distinct : w.graphNames.Nodup
  /-- Every graph that a task starts is there. -/
  known : ∀ e ∈ w.lists, ∀ task ∈ e.2, ∀ graph, task.action.Uses graph → graph ∈ w.graphNames

end Workflow

/-! ## What a step of compiling demands -/

/-- The names of the graphs that are registered. -/
def Registration.names (r : Registration) : List String := r.graphs.map Graph.name

/-- Whether some task is noted to start the graph of a name. -/
def Registration.Notes (r : Registration) (graph : String) : Prop := ∃ task, (task, graph) ∈ r.references

/-- What a step of compiling adds to a registration and what it demands: the names that it registers, in
order, the names that it notes, and a condition on the document. -/
@[ext] structure Demand where
  graphs : List String
  notes : String → Prop
  right : Prop

namespace Demand

/-- No demand. -/
def nothing : Demand := ⟨[], fun _ => False, True⟩

/-- A condition. -/
def check (right : Prop) : Demand := ⟨[], fun _ => False, right⟩

/-- One demand after the other. -/
def and (d d' : Demand) : Demand :=
  ⟨d.graphs ++ d'.graphs, fun graph => d.notes graph ∨ d'.notes graph, d.right ∧ d'.right⟩

/-- What a task demands by itself. -/
def ofAction (action : Action) : Demand := ⟨[], fun graph => action.Uses graph, action.WellFormed⟩

/-- What a task demands by itself, and what its flow directive demands of its list. -/
def ofTask (siblings : List String) (task : Task) : Demand :=
  ⟨[], fun graph => task.action.Uses graph, Task.WellFormed siblings task⟩

/-- What the tasks of a list demand by themselves. -/
def ofTasks (siblings : List String) (tasks : List Task) : Demand :=
  ⟨[], fun graph => ∃ task ∈ tasks, task.action.Uses graph,
    ∀ task ∈ tasks, Task.WellFormed siblings task⟩

/-- What lists demand that become graphs. -/
def ofLists (lists : List (String × TaskList)) : Demand :=
  ⟨lists.map Prod.fst, fun graph => ∃ e ∈ lists, ∃ task ∈ e.2, task.action.Uses graph,
    ∀ e ∈ lists, TaskList.WellFormed e.2⟩

variable (d d' : Demand)

@[simp] theorem and_nothing : d.and nothing = d := by
  ext <;> simp [and, nothing]

@[simp] theorem nothing_and : nothing.and d = d := by
  ext <;> simp [and, nothing]

theorem assoc (d'' : Demand) : (d.and d').and d'' = d.and (d'.and d'') := by
  ext <;> simp [and, or_assoc, and_assoc]

@[simp] theorem ofLists_nil : ofLists [] = nothing := by
  ext <;> simp [ofLists, nothing]

theorem ofLists_append (lists lists' : List (String × TaskList)) :
    ofLists (lists ++ lists') = (ofLists lists).and (ofLists lists') := by
  ext <;> simp [ofLists, and, or_and_right, exists_or, or_imp, forall_and]

/-- A task that is well formed and starts no graph demands nothing by itself. -/
theorem ofAction_eq_nothing {action : Action} (hright : action.WellFormed)
    (huses : ∀ graph, ¬action.Uses graph) :
    ofAction action = nothing := by
  ext <;> simp [ofAction, nothing, hright, huses]

theorem ofTask_eq (siblings : List String) (task : Task) :
    ofTask siblings task =
      (check (∀ name, task.base.next = some (.target name) → name ∈ siblings)).and
        (ofAction task.action) := by
  ext
  · rfl
  · simp [ofTask, check, and, ofAction]
  · exact ⟨fun h => ⟨h.target, h.action⟩, fun h => ⟨h.1, h.2⟩⟩

@[simp] theorem ofTasks_nil (siblings : List String) : ofTasks siblings [] = nothing := by
  ext <;> simp [ofTasks, nothing]

theorem ofTasks_singleton (siblings : List String) (task : Task) :
    ofTasks siblings [task] = ofTask siblings task := by
  ext <;> simp [ofTasks, ofTask]

/-- What a list demands that becomes a graph: distinct names, what its tasks and the lists inside them
demand, and then its own name. -/
theorem ofLists_concat (graph : String) (tasks : TaskList) (lists : List (String × TaskList)) :
    ((check (names tasks).Nodup).and ((ofTasks (names tasks) tasks).and (ofLists lists))).and
      ⟨[graph], fun _ => False, True⟩ = ofLists (lists ++ [(graph, tasks)]) := by
  ext
  · simp [and, check, ofTasks, ofLists]
  · simp [and, check, ofTasks, ofLists, or_and_right, exists_or, or_comm]
  · have hlist : TaskList.WellFormed tasks ↔
        (names tasks).Nodup ∧ ∀ task ∈ tasks, Task.WellFormed (names tasks) task :=
      ⟨fun h => ⟨h.distinct, h.tasks⟩, fun h => ⟨h.1, h.2⟩⟩
    simp [and, check, ofTasks, ofLists, or_imp, forall_and, hlist, and_comm]
    rw [and_assoc]

/-- The tasks of a list are compiled one after the other, and with each the lists inside it. -/
theorem ofTasks_cons (siblings : List String) (task : Task) (tasks : List Task)
    (lists lists' : List (String × TaskList)) :
    ((ofTask siblings task).and (ofLists lists)).and ((ofTasks siblings tasks).and (ofLists lists')) =
      (ofTasks siblings (task :: tasks)).and (ofLists (lists ++ lists')) := by
  rw [ofLists_append]
  ext
  · simp [and, ofTask, ofTasks]
  · simp [and, ofTask, ofTasks, or_or_or_comm]
  · simp [and, ofTask, ofTasks, and_and_and_comm]

end Demand

namespace Compiling

variable {α β : Type} {d d' : Demand}

/-- Whether a step of compiling makes a demand: from any registration on, either the demand is met and
the names are new, and the step succeeds and adds what it demands, or this is not so, and the step ends
in a fault of a document that cannot be compiled. -/
def Demands (d : Demand) (c : Compiling α) : Prop :=
  ∀ r : Registration, r.names.Nodup →
    (d.right ∧ (r.names ++ d.graphs).Nodup ∧ ∃ a r', Compiling.run c r = (.ok a, r') ∧
      r'.names = r.names ++ d.graphs ∧ ∀ graph, r'.Notes graph ↔ r.Notes graph ∨ d.notes graph) ∨
    ¬(d.right ∧ (r.names ++ d.graphs).Nodup) ∧
      ∃ f r', Compiling.run c r = (.error f, r') ∧ f.isBuildFault = true

theorem Demands.of_eq {c : Compiling α} (h : Demands d c) (heq : d = d') : Demands d' c := heq ▸ h

theorem demands_pure (a : α) : Demands .nothing (pure a) := fun r hr =>
  .inl ⟨trivial, by simpa [Demand.nothing] using hr, a, r, rfl, by simp [Demand.nothing],
    fun _ => by simp [Demand.nothing]⟩

/-- A check that ends in a fault of a document that cannot be compiled. -/
theorem demands_lift {x : Except Fault α} (hx : ∀ f, x = .error f → f.isBuildFault = true) :
    Demands (.check (∃ a, x = .ok a)) (liftM x : Compiling α) := by
  intro r hr
  cases x with
  | ok a =>
    exact .inl ⟨⟨a, rfl⟩, by simpa [Demand.check] using hr, a, r, rfl, by simp [Demand.check],
      fun _ => by simp [Demand.check]⟩
  | error f => exact .inr ⟨fun ⟨⟨a, ha⟩, _⟩ => (nomatch ha), f, r, rfl, hx f rfl⟩

/-- A step fails where its demand cannot be met. -/
theorem demands_throw {f : Fault} (hf : f.isBuildFault = true) (hwrong : ¬d.right) :
    Demands d (throw f : Compiling α) :=
  fun r _ => .inr ⟨fun h => hwrong h.1, f, r, rfl, hf⟩

theorem demands_bind {c : Compiling α} {k : α → Compiling β} (h : Demands d c)
    (hk : ∀ a, Demands d' (k a)) : Demands (d.and d') (c >>= k) := by
  intro r hr
  rw [run_bind]
  rcases h r hr with ⟨hright, hnew, a, r', heq, hnames, hnotes⟩ | ⟨hwrong, f, r', heq, hf⟩
  · rw [heq]
    rw [← hnames] at hnew
    rcases hk a r' hnew with ⟨hright', hnew', b, r'', heq', hnames', hnotes'⟩ | ⟨hwrong, f, r'', heq', hf⟩
    · rw [hnames, List.append_assoc] at hnew' hnames'
      refine .inl ⟨⟨hright, hright'⟩, hnew', b, r'', heq', hnames', fun graph => ?_⟩
      rw [hnotes', hnotes, or_assoc]
      rfl
    · refine .inr ⟨fun ⟨hright', hnew'⟩ => hwrong ⟨hright'.2, ?_⟩, f, r'', heq', hf⟩
      rw [hnames, List.append_assoc]
      exact hnew'
  · rw [heq]
    refine .inr ⟨fun ⟨hright, hnew⟩ => hwrong ⟨hright.1, ?_⟩, f, r', rfl, hf⟩
    refine hnew.sublist ?_
    rw [show (d.and d').graphs = d.graphs ++ d'.graphs from rfl, ← List.append_assoc]
    exact List.sublist_append_left ..

/-- What a step returns is no matter for what it demands. -/
theorem Demands.map {c : Compiling α} (h : Demands d c) (k : α → β) :
    Demands d (do let a ← c; pure (k a)) :=
  (demands_bind h fun _ => demands_pure _).of_eq (Demand.and_nothing d)

/-- A task that is well formed by itself and starts no graph demands what the lists in it demand. -/
theorem Demands.ofLists {action : Action} {lists : List (String × TaskList)} {c : Compiling α}
    (h : Demands (.ofLists lists) c) (hright : action.WellFormed)
    (huses : ∀ graph, ¬action.Uses graph) :
    Demands ((Demand.ofAction action).and (.ofLists lists)) c := by
  rw [Demand.ofAction_eq_nothing hright huses, Demand.nothing_and]
  exact h

theorem demands_register (g : Graph) : Demands ⟨[g.name], fun _ => False, True⟩ (register g) := by
  intro r hr
  unfold register Compiling.run
  dsimp only
  split
  · next found hfound =>
    refine .inr ⟨fun ⟨_, hnew⟩ => ?_, _, r, rfl, rfl⟩
    have hmem : g.name ∈ r.names := by
      rw [← show found.name = g.name by simpa using List.find?_some hfound]
      exact List.mem_map_of_mem (List.mem_of_find?_eq_some hfound)
    exact (List.nodup_append.1 hnew).2.2 _ hmem _ (List.mem_singleton.2 rfl) rfl
  · next hfind =>
    refine .inl ⟨trivial, ?_, (), _, rfl, by simp [Registration.names], fun _ => by
      simp [Registration.Notes]⟩
    refine List.nodup_append.2 ⟨hr, by simp, fun name hname name' hname' => ?_⟩
    obtain ⟨g', hg', rfl⟩ := List.mem_map.1 hname
    rw [List.mem_singleton.1 hname']
    simpa using List.find?_eq_none.1 hfind g' hg'

theorem demands_require (task graph : String) :
    Demands ⟨[], fun name => name = graph, True⟩ (require task graph) := by
  intro r hr
  refine .inl ⟨trivial, by simpa using hr, (), _, rfl, by simp [Registration.names], fun name => ?_⟩
  simp only [Registration.Notes, List.mem_append, List.mem_singleton, Prod.mk.injEq, exists_or]
  simp

/-! ### Checks -/

theorem demands_distinct (graph : String) (names : List String) :
    Demands (.check names.Nodup) (liftM (distinct graph names) : Compiling Unit) := by
  have hok : (∃ a, distinct graph names = .ok a) ↔ names.Nodup := by
    unfold distinct
    cases hrepeated : repeated? [] names with
    | none => simpa using (repeated?_eq_none.1 hrepeated).1
    | some name =>
      have hnot : ¬names.Nodup := fun hnodup => by
        rw [repeated?_eq_none.2 ⟨hnodup, fun _ _ => List.not_mem_nil⟩] at hrepeated
        cases hrepeated
      simpa using hnot
  refine (demands_lift fun f hf => ?_).of_eq (by rw [hok])
  unfold distinct at hf
  split at hf <;> cases hf
  rfl

theorem demands_target (siblings : List String) (task : Task) :
    Demands (.check (∀ name, task.base.next = some (.target name) → name ∈ siblings))
      (liftM (targetKnown siblings task) : Compiling Unit) := by
  have hok : (∃ a, targetKnown siblings task = .ok a) ↔
      ∀ name, task.base.next = some (.target name) → name ∈ siblings := by
    unfold targetKnown
    split
    · next target hnext =>
      rw [hnext]
      split
      · next hknown => simpa using hknown
      · next hknown => simpa using hknown
    · next hother => exact ⟨fun _ name hnext => absurd hnext (hother name), fun _ => ⟨(), rfl⟩⟩
  refine (demands_lift fun f hf => ?_).of_eq (by rw [hok])
  unfold targetKnown at hf
  split at hf
  · split at hf <;> cases hf
    rfl
  · cases hf

theorem demands_references {γ : Type} (xs : List γ) {f : γ → Compiling Unit}
    {uses : γ → String → Prop} (h : ∀ x, Demands ⟨[], uses x, True⟩ (f x)) :
    Demands ⟨[], fun graph => ∃ x ∈ xs, uses x graph, True⟩ (xs.forM f) := by
  induction xs with
  | nil => exact (demands_pure ()).of_eq (by ext <;> simp [Demand.nothing])
  | cons x xs ih =>
    exact (demands_bind (h x) fun _ => ih).of_eq (by ext <;> simp [Demand.and])

theorem demands_switch (task : String) (cases : List SwitchCase) :
    Demands (.ofAction (.switch cases)) (switch task cases) := by
  unfold switch
  split
  · next hmany => exact demands_throw rfl (Nat.not_le.2 hmany)
  · next hfew =>
    refine Demands.of_eq (d := ⟨[], fun graph => ∃ case ∈ cases, case.next = some (.target graph), True⟩)
      (.map (demands_references cases fun case => ?_) fun _ => Step.switch cases) ?_
    · split
      · next graph hnext =>
        exact (demands_require task graph).of_eq (by ext <;> simp [hnext, eq_comm])
      · next hother =>
        refine (demands_pure ()).of_eq ?_
        ext
        · rfl
        · exact iff_of_false id (hother _)
        · rfl
    · ext
      · rfl
      · simp [Demand.ofAction, Action.Uses]
      · simpa [Demand.ofAction, Action.WellFormed] using hfew

theorem demands_checkRun (task : String) {r : ProcessRun} {process : WorkflowProcess}
    (hprocess : r.process = .workflow process)
    (hliteral : Evaluation.isExpression process.name = false) :
    Demands (.ofAction (.run r)) (checkRun task r) := by
  unfold checkRun
  rw [hprocess]
  dsimp only
  split
  · next hempty => exact demands_throw rfl fun h => h process hprocess hempty
  · next hname =>
    simp only [hliteral, Bool.false_eq_true, if_false]
    refine (demands_require task process.name).of_eq ?_
    ext
    · rfl
    · simp [Demand.ofAction, Action.Uses, hprocess, eq_comm]
    · simpa [Demand.ofAction, Action.WellFormed, hprocess] using hname

/-! ### Lists -/

/-- A list that becomes a graph, given what its tasks and the lists inside them demand. -/
theorem demands_registered {graph : String} {tasks : TaskList} {lists : List (String × TaskList)}
    {c : Compiling Children}
    (h : Demands ((Demand.ofTasks (names tasks) tasks).and (.ofLists lists)) c) :
    Demands (.ofLists (lists ++ [(graph, tasks)])) (registered graph (names tasks) c) := by
  have hregister (cs : Children) :
      Demands ⟨[graph], fun _ => False, True⟩ (register ⟨graph, cs, none⟩) :=
    demands_register ⟨graph, cs, none⟩
  rw [← Demand.ofLists_concat]
  refine (demands_bind (demands_bind (demands_distinct graph _) fun _ => h) fun cs =>
    demands_bind (hregister cs) fun _ => demands_pure cs).of_eq ?_
  rw [Demand.and_nothing]

theorem demands_unlessEmpty {graph : String} {tasks : TaskList} {lists : List (String × TaskList)}
    {c : Compiling Children} (h : tasks.isEmpty = false → Demands (.ofLists lists) c) :
    Demands (.ofLists (if tasks.isEmpty then [] else lists)) (unlessEmpty graph tasks c) := by
  unfold unlessEmpty
  split
  · exact (demands_pure _).of_eq Demand.ofLists_nil.symm
  · next hfilled =>
    exact (h (by simpa using hfilled)).map _

/-! ### Tasks -/

/-- Whether all tasks of some lists are of the fragment. -/
def Plain (lists : List (String × TaskList)) : Prop := ∀ e ∈ lists, ∀ task ∈ e.2, Task.plain task = true

theorem plain_append {lists lists' : List (String × TaskList)} :
    Plain (lists ++ lists') ↔ Plain lists ∧ Plain lists' :=
  List.forall_mem_append

theorem plain_concat {lists : List (String × TaskList)} {graph : String} {tasks : TaskList} :
    Plain (lists ++ [(graph, tasks)]) ↔ Plain lists ∧ ∀ task ∈ tasks, Task.plain task = true := by
  rw [plain_append]
  simp [Plain]

/-- A task of the fragment is of a built-in kind. -/
theorem builder_of_plain {task : Task} (hplain : Task.plain task = true)
    (hfork : ∀ compete, task.action ≠ .fork compete []) :
    Kinds.standard.builder task.name task.action = .ok (.builtIn, task.action.replayed) := by
  obtain ⟨name, base, action⟩ := task
  cases action with
  | fork compete branches =>
    cases branches with
    | nil => exact absurd rfl (hfork compete)
    | cons => rfl
  | block | loop | switch | attempt | run | assign => rfl
  | call | wait | raise | listen | custom => simp [Task.plain] at hplain

theorem timeout_of_plain {task : Task} (hplain : Task.plain task = true) :
    timeout task.name task.base = .ok none := by
  unfold timeout
  rw [Option.isNone_iff_eq_none.1 ((Bool.and_eq_true ..).mp hplain).1]

/-- The graph that a task of the fragment runs is named literally. -/
theorem process_of_plain {name : String} {base : TaskBase} {r : ProcessRun}
    (hplain : Task.plain ⟨name, base, .run r⟩ = true) :
    ∃ process, r.process = .workflow process ∧ Evaluation.isExpression process.name = false := by
  have hliteral := ((Bool.and_eq_true ..).mp hplain).2
  dsimp only at hliteral
  split at hliteral
  · next process hprocess => exact ⟨process, hprocess, by simpa using hliteral⟩
  · cases hliteral

mutual

theorem demands_child (graph : String) (siblings : List String) (ordinal : Nat) :
    (task : Task) → Task.plain task = true → Plain (Task.lists graph task.name task.action) →
      Demands ((Demand.ofTask siblings task).and (.ofLists (Task.lists graph task.name task.action)))
        (child Kinds.standard graph siblings ordinal task)
  | ⟨name, base, action⟩, hplain, hlists => by
    rw [child.eq_def, Demand.ofTask_eq, Demand.assoc]
    refine demands_bind (demands_target siblings ⟨name, base, action⟩) fun _ => ?_
    by_cases hfork : ∃ compete, action = .fork compete []
    · obtain ⟨compete, rfl⟩ := hfork
      exact demands_throw rfl fun h => h.1 rfl
    · have hfork (compete : Bool) : action ≠ .fork compete [] := fun heq => hfork ⟨compete, heq⟩
      rw [builder_of_plain hplain hfork]
      exact (demands_step graph name base action hplain hfork hlists).map _

theorem demands_step (graph name : String) (base : TaskBase) :
    (action : Action) → Task.plain ⟨name, base, action⟩ = true →
      (∀ compete, action ≠ .fork compete []) → Plain (Task.lists graph name action) →
      Demands ((Demand.ofAction action).and (.ofLists (Task.lists graph name action)))
        (step Kinds.standard graph name base action)
  | .block tasks, _, _, hlists => by
    rw [step.eq_def]
    rw [Task.lists.eq_def] at hlists ⊢
    obtain ⟨hinner, htasks⟩ := plain_concat.1 hlists
    exact ((demands_registered (demands_children name (names tasks) 0 tasks htasks hinner)).map
      _).ofLists trivial fun _ => id
  | .loop spec condition body, _, _, hlists => by
    rw [step.eq_def]
    rw [Task.lists.eq_def] at hlists ⊢
    obtain ⟨hinner, htasks⟩ := plain_concat.1 hlists
    exact ((demands_registered (demands_children _ (names body) 0 body htasks hinner)).map
      _).ofLists trivial fun _ => id
  | .fork compete tasks, _, hfork, hlists => by
    -- a fork without branches is not built at all
    have hfilled : tasks ≠ [] := fun heq => hfork compete (by rw [heq])
    rw [step.eq_def]
    rw [Task.lists.eq_def] at hlists ⊢
    exact ((demands_branches graph name tasks hlists).map _).ofLists hfilled fun _ => id
  | .switch cases, _, _, _ => by
    rw [step.eq_def, Task.lists.eq_def, Demand.ofLists_nil, Demand.and_nothing]
    exact demands_switch name cases
  | .attempt body binding handler, _, _, hlists => by
    rw [step.eq_def]
    rw [Task.lists.eq_def] at hlists ⊢
    obtain ⟨hbody, hhandler⟩ := plain_append.1 hlists
    refine Demands.ofLists ?_ trivial fun _ => id
    rw [Demand.ofLists_append]
    -- an empty body or handler is no list, and demands nothing
    refine demands_bind (demands_unlessEmpty fun hfilled => ?_) fun _ =>
      (demands_unlessEmpty fun hfilled => ?_).map _
    · rw [hfilled] at hbody
      obtain ⟨hinner, htasks⟩ := plain_concat.1 hbody
      exact demands_registered (demands_children _ (names body) 0 body htasks hinner)
    · rw [hfilled] at hhandler
      obtain ⟨hinner, htasks⟩ := plain_concat.1 hhandler
      exact demands_registered (demands_children _ (names handler) 0 handler htasks hinner)
  | .run r, hplain, _, _ => by
    obtain ⟨process, hprocess, hliteral⟩ := process_of_plain hplain
    rw [step.eq_def, Task.lists.eq_def, Demand.ofLists_nil, Demand.and_nothing, timeout_of_plain hplain]
    exact (demands_checkRun name hprocess hliteral).map fun _ => Step.run r none
  | .assign value, _, _, _ => by
    rw [step.eq_def, Task.lists.eq_def]
    exact ((demands_pure _).of_eq Demand.ofLists_nil.symm).ofLists trivial fun _ => id
  | .call _, hplain, _, _ | .wait _, hplain, _, _ | .raise _, hplain, _, _
  | .listen _, hplain, _, _ | .custom .., hplain, _, _ => by simp [Task.plain] at hplain

theorem demands_children (graph : String) (siblings : List String) (ordinal : Nat) :
    (tasks : List Task) → (∀ task ∈ tasks, Task.plain task = true) → Plain (Task.inner graph tasks) →
      Demands ((Demand.ofTasks siblings tasks).and (.ofLists (Task.inner graph tasks)))
        (children Kinds.standard graph siblings ordinal tasks)
  | [], _, _ => by
    rw [children.eq_def, Task.inner.eq_def]
    exact (demands_pure _).of_eq (by simp)
  | ⟨name, base, action⟩ :: tasks, hplain, hlists => by
    obtain ⟨htask, htasks⟩ := List.forall_mem_cons.1 hplain
    rw [children.eq_def, Task.inner.eq_def, ← Demand.ofTasks_cons]
    rw [Task.inner.eq_def, plain_append] at hlists
    exact demands_bind (demands_child graph siblings ordinal ⟨name, base, action⟩ htask hlists.1)
      fun _ => (demands_children graph siblings (ordinal + 1) tasks htasks hlists.2).map _

theorem demands_branches (graph fork : String) :
    (tasks : List Task) → Plain (Task.branches graph fork tasks) →
      Demands (.ofLists (Task.branches graph fork tasks)) (branches Kinds.standard graph fork tasks)
  | [], _ => by
    rw [branches.eq_def, Task.branches.eq_def]
    exact (demands_pure _).of_eq (by simp)
  | ⟨name, base, action⟩ :: tasks, hlists => by
    rw [branches.eq_def, Task.branches.eq_def, Demand.ofLists_append]
    rw [Task.branches.eq_def, plain_append] at hlists
    obtain ⟨hbranch, hrest⟩ := hlists
    have hothers : Demands (.ofLists (Task.branches graph fork tasks)) (do
        let bs ← branches Kinds.standard graph fork tasks
        pure (⟨name, Naming.graphName "fork" graph fork (some name)⟩ :: bs)) :=
      (demands_branches graph fork tasks hrest).map _
    -- a branch that is a nested list is that list, any other one is a list of one task
    cases action with
    | block list =>
      obtain ⟨hinner, htasks⟩ := plain_concat.1 hbranch
      exact demands_bind (demands_registered (demands_children _ (names list) 0 list htasks hinner))
        fun _ => hothers
    | _ =>
      obtain ⟨hinner, htasks⟩ := plain_concat.1 hbranch
      have halone := (demands_child (Naming.graphName "fork" graph fork (some name)) [name] 0
        ⟨name, base, _⟩ (htasks _ (List.mem_singleton.2 rfl)) hinner).map fun c => [c]
      rw [← Demand.ofTasks_singleton] at halone
      exact demands_bind (demands_registered halone) fun _ => hothers

end

/-! ### Documents -/

theorem mem_names {r : Registration} {graph : String} :
    graph ∈ r.names ↔ Graph.find? r.graphs graph ≠ none := by
  unfold Registration.names Graph.find?
  rw [← Option.isSome_iff_ne_none, List.find?_isSome, List.mem_map]
  simp

/-- Every graph that is noted is registered exactly if no use of an unknown one is found. -/
theorem unknown?_eq_none {r : Registration} :
    unknown? r = none ↔ ∀ graph, r.Notes graph → graph ∈ r.names := by
  unfold unknown? Registration.Notes
  rw [List.find?_eq_none]
  constructor
  · rintro h graph ⟨task, hnoted⟩
    simpa [mem_names] using h (task, graph) hnoted
  · rintro h ⟨task, graph⟩ hnoted
    simpa [mem_names] using h graph ⟨task, hnoted⟩

/-- Compiles the root and registers it. -/
def root (kinds : Kinds) (w : Workflow) : Compiling Unit := do
  let cs ← list kinds w.name w.tasks
  register ⟨w.name, cs, w.schema?⟩

/-- The lists of a document are compiled, the root last. -/
theorem demands_root {w : Workflow} (hplain : Plain w.lists) :
    Demands (.ofLists w.lists) (root Kinds.standard w) := by
  obtain ⟨hinner, htasks⟩ := plain_concat.1 hplain
  have hregister (cs : Children) :
      Demands ⟨[w.name], fun _ => False, True⟩ (register ⟨w.name, cs, w.schema?⟩) :=
    demands_register ⟨w.name, cs, w.schema?⟩
  refine (demands_bind (demands_bind (demands_distinct w.name _) fun _ =>
    demands_children w.name (names w.tasks) 0 w.tasks htasks hinner) hregister).of_eq ?_
  exact Demand.ofLists_concat w.name w.tasks _

/-- A valid document compiles if its root does and no use of an unknown graph is left. -/
theorem run_workflow (kinds : Kinds) (options : ProgramOptions) {w : Workflow}
    (hvalid : w.validate = .ok ()) (r : Registration) :
    (Compiling.run (workflow kinds options w) r).1 = match Compiling.run (root kinds w) r with
      | (.error f, _) => .error f
      | (.ok _, r) => match unknown? r with
        | some (task, graph) => .error (.unknownGraph task graph)
        | none => .ok ⟨w.name, r.graphs, options⟩ := by
  -- the document is valid, so what is left is the list, its registration, and the look for unknown
  -- graphs
  have hlift : Compiling.run (liftM w.validate : Compiling Unit) r = (.ok (), r) := by
    rw [hvalid]
    rfl
  unfold workflow root
  rw [run_bind, hlift, run_bind]
  dsimp only
  rw [run_bind]
  rcases Compiling.run (list kinds w.name w.tasks) r with ⟨_ | cs, r⟩
  · rfl
  dsimp only
  rw [run_bind]
  rcases Compiling.run (register ⟨w.name, cs, w.schema?⟩) r with ⟨_ | _, r⟩
  · rfl
  dsimp only
  rw [run_bind]
  unfold closed
  unfold Compiling.run
  dsimp only
  cases unknown? r <;> rfl

end Compiling

namespace Workflow

/-- A document is valid if it has a name and a task. -/
theorem validate_eq_ok {w : Workflow} :
    w.validate = .ok () ↔ Text.allBlank w.name = false ∧ w.tasks ≠ [] := by
  unfold validate
  split
  · next hblank => simp [hblank]
  · next hnamed =>
    split
    · next hempty => simp [List.isEmpty_iff.1 hempty]
    · next hfilled => simpa [hnamed] using hfilled

/-- A document is refused before anything is compiled as an invalid one. -/
theorem invalid_of_validate {w : Workflow} {f : Fault} (h : w.validate = .error f) :
    ∃ reason, f = .invalidDocument reason := by
  unfold validate at h
  split at h
  · cases h
    exact ⟨_, rfl⟩
  · split at h
    · cases h
      exact ⟨_, rfl⟩
    · cases h

open Compiling in
theorem compile_of_invalid {kinds : Kinds} {options : ProgramOptions} {w : Workflow} {f : Fault}
    (h : w.validate = .error f) : Program.compile kinds options w = .error f := by
  unfold Program.compile workflow
  rw [run_bind, h]
  rfl

open Compiling in
/-- The graphs of a program are those that are registered when the root of its document is. -/
theorem root_of_compile {kinds : Kinds} {options : ProgramOptions} {w : Workflow} {p : Program}
    (h : Program.compile kinds options w = .ok p) :
    ∃ r, Compiling.run (root kinds w) .empty = (.ok (), r) ∧ p.graphs = r.graphs := by
  cases hvalid : w.validate with
  | error f => cases (compile_of_invalid hvalid).symm.trans h
  | ok =>
    unfold Program.compile at h
    rw [run_workflow kinds options hvalid] at h
    rcases hroot : Compiling.run (root kinds w) .empty with ⟨f | _, r⟩
    · rw [hroot] at h
      cases h
    · rw [hroot] at h
      dsimp only at h
      split at h <;> cases h
      exact ⟨r, rfl, rfl⟩

/-- What the lists of a valid document demand is that it is well formed, but for the graphs that its
tasks start. -/
theorem wellFormed_iff {w : Workflow} (hvalid : w.validate = .ok ()) :
    w.WellFormed ↔ (Demand.ofLists w.lists).right ∧ w.graphNames.Nodup ∧
      ∀ graph, (Demand.ofLists w.lists).notes graph → graph ∈ w.graphNames := by
  obtain ⟨hnamed, hfilled⟩ := validate_eq_ok.1 hvalid
  constructor
  · intro h
    refine ⟨h.lists, h.distinct, ?_⟩
    rintro graph ⟨e, he, task, htask, huses⟩
    exact h.known e he task htask graph huses
  · rintro ⟨hlists, hdistinct, hknown⟩
    exact ⟨hnamed, hfilled, hlists, hdistinct, fun e he task htask graph huses =>
      hknown graph ⟨e, he, task, htask, huses⟩⟩

open Compiling in
/-- A valid document of the fragment compiles if it is well formed, and otherwise compiling ends in a
fault of a document that cannot be compiled. -/
theorem compile_cases (options : ProgramOptions) {w : Workflow} (hplain : w.Plain)
    (hvalid : w.validate = .ok ()) :
    (w.WellFormed ∧ ∃ p, Program.compile Kinds.standard options w = .ok p) ∨
      ¬w.WellFormed ∧
        ∃ f, Program.compile Kinds.standard options w = .error f ∧ f.isBuildFault = true := by
  unfold Program.compile
  rw [run_workflow _ options hvalid, wellFormed_iff hvalid]
  rcases demands_root hplain .empty List.nodup_nil with
    ⟨hright, hnew, _, r, heq, hnames, hnotes⟩ | ⟨hwrong, f, r, heq, hf⟩
  · rw [heq]
    -- nothing is registered or noted before the root is compiled
    replace hnames : r.names = w.graphNames := hnames
    replace hnotes (graph : String) : r.Notes graph ↔ (Demand.ofLists w.lists).notes graph := by
      rw [hnotes]
      simp [Registration.Notes, Registration.empty]
    simp only [← hnotes, ← hnames, ← unknown?_eq_none]
    cases hunknown : unknown? r with
    | none => exact .inl ⟨⟨hright, hnames ▸ hnew, rfl⟩, _, rfl⟩
    | some e => exact .inr ⟨fun h => (nomatch h.2.2), _, rfl, rfl⟩
  · rw [heq]
    exact .inr ⟨fun h => hwrong ⟨h.1, h.2.1⟩, f, rfl, hf⟩

/-- A document of the fragment compiles exactly if it is well formed. If it does not, the fault is that
the document is invalid, or one of a document that cannot be compiled. -/
theorem compiles_iff_wellFormed (options : ProgramOptions) (w : Workflow) (hplain : w.Plain) :
    ((∃ p, Program.compile Kinds.standard options w = .ok p) ↔ w.WellFormed) ∧
      ∀ f, Program.compile Kinds.standard options w = .error f →
        (∃ reason, f = .invalidDocument reason) ∨ f.isBuildFault = true := by
  cases hvalid : w.validate with
  | ok =>
    rcases compile_cases options hplain hvalid with ⟨hright, p, hp⟩ | ⟨hwrong, f, hf, hbuild⟩
    · exact ⟨iff_of_true ⟨p, hp⟩ hright, fun f hf => nomatch hp.symm.trans hf⟩
    · refine ⟨iff_of_false ?_ hwrong, fun f' hf' => ?_⟩
      · rintro ⟨p, hp⟩
        cases hp.symm.trans hf
      · cases hf.symm.trans hf'
        exact .inr hbuild
  | error f =>
    obtain ⟨reason, rfl⟩ := invalid_of_validate hvalid
    have hcompile : Program.compile Kinds.standard options w = .error (.invalidDocument reason) := by
      unfold Program.compile Compiling.workflow
      rw [Compiling.run_bind, hvalid]
      rfl
    refine ⟨iff_of_false ?_ fun h => ?_, fun f hf => ?_⟩
    · rintro ⟨p, hp⟩
      cases hp.symm.trans hcompile
    · cases hvalid.symm.trans (validate_eq_ok.2 ⟨h.named, h.filled⟩)
    · cases hcompile.symm.trans hf
      exact .inl ⟨reason, rfl⟩

end Workflow

/-! ## Two documents -/

namespace Dispatch

/-- A task with a flow directive. -/
def task (name : String) (next : Option Flow) (action : Action) : Task :=
  ⟨name, ⟨none, next, none, none, none, []⟩, action⟩

/-- Starts a graph. -/
def start (graph : String) : Action := .run ⟨.workflow ⟨graph, none⟩, true⟩

/-- A document in which a graph is started before it is met, and a loop, a fork and an attempt each hold
a list with the same name of a task. -/
def document (graph : String) : Workflow :=
  ⟨⟨"order", none, none, none⟩, none, none,
    [task "check" none (.switch
        [⟨"known", some "${ data.known }", some (.target "ship")⟩, ⟨"other", none, some .stop⟩]),
      task "items" (some (.target "pack")) (.loop ⟨none, .null, none⟩ none
        [task "each" none (.assign .null)]),
      task "late" none (start graph),
      task "pack" none (.fork false
        [task "wrap" none (.block [task "each" none (.assign .null)]), task "note" none (start "order")]),
      task "ship" none (.block
        [task "send" none (.attempt [task "each" none (.assign .null)] none [])])]⟩

theorem plain_ship : (document "ship").Plain := by
  unfold Workflow.Plain
  decide +kernel

theorem plain_wrap : (document "wrap").Plain := by
  unfold Workflow.Plain
  decide +kernel

end Dispatch

/-- Of two documents that differ in the graph that one task starts, one compiles and is well formed, and
the other one is not, since a branch of a fork is no graph of its own name. -/
theorem Workflow.compiles_iff_wellFormed_of_dispatch :
    (Dispatch.document "ship").Plain ∧ (Dispatch.document "ship").WellFormed ∧
      (Dispatch.document "wrap").Plain ∧ ¬(Dispatch.document "wrap").WellFormed := by
  refine ⟨Dispatch.plain_ship, ?_, Dispatch.plain_wrap, fun hright => ?_⟩
  · exact (compiles_iff_wellFormed .standard _ Dispatch.plain_ship).1.1 ⟨_, rfl⟩
  · obtain ⟨p, hp⟩ := (compiles_iff_wellFormed .standard _ Dispatch.plain_wrap).1.2 hright
    cases hp

end TaskGraph
