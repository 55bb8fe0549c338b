import Mathlib.Data.List.Forall2
import TaskGraph.Proofs.Program.WellFormed

/-!
# Programs mirror their documents

A list of a document becomes a graph of the compiled program if it is the root or a part of a task of
such a list, where the task is of a kind that is built in (`Workflow.Holds`). The graph of a list has one
child for each task, in order, with the name and the fields of the task, and the child of a fork runs
the graphs of its branches (`Workflow.Holds.mirrored`). The list of a branch is `Task.alone`: the tasks of
a branch that is a nested list, and the branch alone otherwise.

What compiling registers on the way is there in the end. So a step of compiling is traced to the
registration that it leads to (`Compiling.Taken`), and taken apart there into the steps that it is made of.

The fields of a branch that is a nested list have no place in its graph. `Workflow.bare` is a document
without the fields of such branches, those of forks inside other tasks included, and it is compiled to the
same program (`Program.compile_bare`).
-/

set_option autoImplicit false

namespace TaskGraph

open Compiling (names)

/-! ## The lists of a document -/

namespace Task

/-- The list that a branch of a fork is. -/
def alone : Task → TaskList
  | ⟨_, _, .block tasks⟩ => tasks
  | task => [task]

/-- A branch of a fork that stands in a graph. -/
def branch (graph fork : String) (item : Task) : Branch :=
  ⟨item.name, Naming.graphName "fork" graph fork (some item.name)⟩

/-- The parts of a task that become graphs, each with the name of its graph; `graph` is the graph that the
task is in. -/
def parts (graph : String) (task : Task) : List (String × TaskList) :=
  match task.action with
  | .block tasks => [(task.name, tasks)]
  | .loop _ _ body => [(Naming.graphName "for" graph task.name none, body)]
  | .fork _ items => items.map fun item => ((Task.branch graph task.name item).graph, Task.alone item)
  | .attempt body _ handler =>
    [(Naming.graphName "try" graph task.name none, body),
      (Naming.graphName "catch" graph task.name none, handler)].filter fun part => !part.2.isEmpty
  | _ => []

/-- Whether a task is of a kind that is built in. -/
def BuiltIn (kinds : Kinds) (task : Task) : Prop :=
  ∃ replayed, kinds.builder task.name task.action = .ok (.builtIn, replayed)

end Task

/-- Whether a list of a document becomes the graph of a name. -/
inductive Workflow.Holds (kinds : Kinds) (w : Workflow) : String → TaskList → Prop where
  | root : Holds kinds w w.name w.tasks
  | part {graph : String} {tasks : TaskList} {task : Task} {part : String × TaskList}
      (outer : Holds kinds w graph tasks) (mem : task ∈ tasks) (builtIn : task.BuiltIn kinds)
      (inner : part ∈ task.parts graph) : Holds kinds w part.1 part.2

/-- Whether a child of a graph is what a task of the list of that graph is compiled to, as far as its name,
its fields and the branches of a fork go. -/
structure Task.Mirrored (kinds : Kinds) (graph : String) (task : Task) (child : Child Step) : Prop where
  name : child.name = task.name
  base : child.base = task.base
  fork : task.BuiltIn kinds → ∀ compete items, task.action = .fork compete items →
    child.action = .fork compete (items.map (Task.branch graph task.name))

/-! ## Steps on the way to a registration -/

namespace Compiling

variable {α β : Type} {kinds : Kinds} {r : Registration}

/-- A branch of a fork is compiled like the list that it is. -/
theorem branches_cons (kinds : Kinds) (graph fork : String) (item : Task) (items : List Task) :
    branches kinds graph fork (item :: items) = (do
      let _ ← subgraph kinds (item.branch graph fork).graph item.alone
      let bs ← branches kinds graph fork items
      pure (item.branch graph fork :: bs)) := by
  obtain ⟨name, base, action⟩ := item
  have halone (graph : String) (task : Task) :
      children kinds graph [task.name] 0 [task] = (do
        let c ← child kinds graph [task.name] 0 task
        pure [c]) := by
    simp only [children, pure_bind]
  rw [branches.eq_def]
  cases action with
  | block list => rfl
  | _ =>
    rw [subgraph]
    exact congrArg (registered _ [name] · >>= _) (halone _ ⟨name, base, _⟩).symm

/-- Whether a step was taken on the way to a registration and came to a value. -/
def Taken (kinds : Kinds) (r : Registration) (c : Compiling α) (a : α) : Prop :=
  ∃ before after, before.Sound kinds ∧ run c before = (.ok a, after) ∧ after.Grows r

/-- What a step that was taken yields is there. -/
theorem Taken.yields {c : Compiling α} {a : α} {Q : Registration → α → Prop} (h : Taken kinds r c a)
    (hc : ∀ r, Yields kinds r Q c) : ∃ r', r'.Grows r ∧ Q r' a := by
  obtain ⟨before, after, hsound, hrun, hgrows⟩ := h
  obtain ⟨-, -, hvalue⟩ := hc before hsound
  rw [hrun] at hvalue
  exact ⟨after, hgrows, hvalue a rfl⟩

/-- What a step adds is sound, whatever it yields. -/
theorem Yields.kept {c : Compiling α} {Q : Registration → α → Prop} (h : Yields kinds r Q c) :
    Yields kinds r (fun _ _ => True) c :=
  h.mono fun _ _ _ _ => trivial

/-- A step that goes on as another one is taken by taking both. -/
theorem Taken.bind {c : Compiling α} {k : α → Compiling β} {b : β} {Q : Registration → α → Prop}
    (h : Taken kinds r (c >>= k) b) (hc : ∀ r, Yields kinds r Q c)
    (hk : ∀ r a, Q r a → Yields kinds r (fun _ _ => True) (k a)) :
    ∃ a, Taken kinds r c a ∧ Taken kinds r (k a) b := by
  obtain ⟨before, after, hsound, hrun, hgrows⟩ := h
  obtain ⟨a, mid, hfirst, hrest⟩ := ok_of_bind hrun
  obtain ⟨-, hmid, hvalue⟩ := hc before hsound
  rw [hfirst] at hmid hvalue
  -- the second step only adds, so what the first one left leads to the registration as well
  obtain ⟨hgoes, -, -⟩ := hk mid a (hvalue a rfl) hmid
  rw [hrest] at hgoes
  exact ⟨a, ⟨before, mid, hsound, hfirst, hgoes.trans hgrows⟩, mid, after, hmid, hrest, hgrows⟩

theorem Taken.eq_of_pure {a b : α} (h : Taken kinds r (pure a) b) : b = a := by
  obtain ⟨_, _, -, hrun, -⟩ := h
  cases hrun
  rfl

theorem yields_map {c : Compiling α} {Q : Registration → α → Prop} (f : α → β)
    (h : Yields kinds r Q c) : Yields kinds r (fun _ _ => True) (do let a ← c; pure (f a)) :=
  yields_bind h fun _ _ _ _ => yields_pure trivial

theorem Taken.map {c : Compiling α} {f : α → β} {b : β} {Q : Registration → α → Prop}
    (h : Taken kinds r (do let a ← c; pure (f a)) b) (hc : ∀ r, Yields kinds r Q c) :
    ∃ a, Taken kinds r c a ∧ b = f a := by
  obtain ⟨a, ha, hb⟩ := h.bind hc fun _ _ _ => yields_pure trivial
  exact ⟨a, ha, hb.eq_of_pure⟩

/-- A check that a step goes on from was passed; it adds nothing. -/
theorem Taken.check {x : Except Fault α} {k : α → Compiling β} {b : β}
    (h : Taken kinds r (liftM x >>= k) b) : ∃ a, x = .ok a ∧ Taken kinds r (k a) b := by
  obtain ⟨before, after, hsound, hrun, hgrows⟩ := h
  obtain ⟨a, mid, hcheck, hrest⟩ := ok_of_bind hrun
  cases x with
  | ok a' =>
    cases hcheck
    exact ⟨a, rfl, before, after, hsound, hrest, hgrows⟩
  | error f => cases hcheck

variable (kinds)

theorem yields_subgraph (graph : String) (tasks : TaskList) (r : Registration) :
    Yields kinds r (fun r' cs => (⟨graph, cs, none⟩ : Graph) ∈ r'.graphs) (subgraph kinds graph tasks) :=
  (yields_registered kinds (yields_children kinds graph (names tasks) 0 tasks) r).mono
    fun _ _ _ h => h.2

theorem yields_attempted (graph : String) (tasks : TaskList) (r : Registration) :
    Yields kinds r (fun _ _ => True) (unlessEmpty graph tasks (subgraph kinds graph tasks)) :=
  (yields_unlessEmpty kinds
    (yields_named kinds (yields_children kinds graph (names tasks) 0 tasks)) r).kept

variable {kinds}

/-! ## Lists on the way to a registration -/

/-- Whether the tasks of a list were compiled as the graph of a name on the way to a registration, and to
what. -/
def Makes (kinds : Kinds) (r : Registration) (graph : String) (tasks : TaskList) (cs : Children) : Prop :=
  Taken kinds r (children kinds graph (names tasks) 0 tasks) cs

theorem Taken.makes {graph : String} {tasks : TaskList} {cs : Children}
    (h : Taken kinds r (list kinds graph tasks) cs) : Makes kinds r graph tasks cs := by
  obtain ⟨_, -, hcs⟩ := h.check
  exact hcs

/-- Whether a list was compiled and registered as the graph of a name. -/
def Registered (kinds : Kinds) (r : Registration) (graph : String) (tasks : TaskList) : Prop :=
  ∃ cs, Makes kinds r graph tasks cs ∧ ∃ g ∈ r.graphs, g.name = graph ∧ g.children = cs

theorem Taken.registered {graph : String} {tasks : TaskList} {cs : Children}
    (h : Taken kinds r (subgraph kinds graph tasks) cs) : Registered kinds r graph tasks := by
  obtain ⟨r', hgrows, hmem⟩ := h.yields (yields_subgraph kinds graph tasks)
  have hregister (r : Registration) (cs : Children) (hcs : cs.Everywhere (Children.Sound kinds r)) :
      Yields kinds r (fun _ _ => True) (do register ⟨graph, cs, none⟩; pure cs) :=
    yields_map (fun _ => cs) (yields_register (g := ⟨graph, cs, none⟩) hcs)
  obtain ⟨cs', hlist, _, _, -, hrun, -⟩ := h.bind
    (yields_listed kinds (yields_children kinds graph (names tasks) 0 tasks)) hregister
  obtain ⟨_, _, -, hcs⟩ := ok_of_bind hrun
  cases hcs
  exact ⟨cs, hlist.makes, _, hgrows.graphs hmem, rfl, rfl⟩

/-- A list that is compiled unless it is empty. -/
theorem Taken.registered_of_filled {graph : String} {tasks : TaskList} {name : Option String}
    (h : Taken kinds r (unlessEmpty graph tasks (subgraph kinds graph tasks)) name)
    (hfilled : tasks.isEmpty = false) : Registered kinds r graph tasks := by
  unfold unlessEmpty at h
  rw [hfilled] at h
  obtain ⟨cs, hcs, -⟩ := h.map (yields_subgraph kinds graph tasks)
  exact hcs.registered

/-- The branches of a fork are compiled to graphs, each of its list. -/
theorem Taken.registered_branches {graph fork : String} {items : List Task} {bs : List Branch}
    (h : Taken kinds r (branches kinds graph fork items) bs) :
    bs = items.map (Task.branch graph fork) ∧ ∀ item ∈ items,
      Registered kinds r (Task.branch graph fork item).graph (Task.alone item) := by
  induction items generalizing bs with
  | nil =>
    rw [branches.eq_def] at h
    exact ⟨h.eq_of_pure, nofun⟩
  | cons item items ih =>
    rw [branches_cons] at h
    obtain ⟨cs, hcs, hrest⟩ := h.bind (yields_subgraph kinds _ _) fun r _ _ =>
      yields_map _ (yields_branches kinds graph fork items r)
    obtain ⟨bs', hbs, rfl⟩ := hrest.map (yields_branches kinds graph fork items)
    obtain ⟨rfl, hitems⟩ := ih hbs
    exact ⟨rfl, List.forall_mem_cons.2 ⟨hcs.registered, hitems⟩⟩

/-- The parts of a task are compiled along with it. -/
theorem Taken.registered_parts {graph name : String} {base : TaskBase} {action : Action} {step : Step}
    (h : Taken kinds r (Compiling.step kinds graph name base action) step) :
    ∀ part ∈ Task.parts graph ⟨name, base, action⟩, Registered kinds r part.1 part.2 := by
  intro part hpart
  rw [Compiling.step.eq_def] at h
  cases action with
  | block tasks =>
    obtain rfl := List.mem_singleton.1 hpart
    obtain ⟨cs, hcs, -⟩ := h.map (yields_subgraph kinds name tasks)
    exact hcs.registered
  | loop spec condition body =>
    obtain rfl := List.mem_singleton.1 hpart
    obtain ⟨cs, hcs, -⟩ := h.map (yields_subgraph kinds _ body)
    exact hcs.registered
  | fork compete items =>
    obtain ⟨item, hitem, rfl⟩ := List.mem_map.1 hpart
    obtain ⟨bs, hbs, -⟩ := h.map (yields_branches kinds graph name items)
    exact hbs.registered_branches.2 item hitem
  | attempt body binding handler =>
    -- an empty list is neither a part nor compiled
    obtain ⟨hlists, hfilled⟩ := List.mem_filter.1 hpart
    obtain ⟨bodyGraph, hbody, hrest⟩ := h.bind (yields_attempted kinds _ body) fun r _ _ =>
      yields_map _ (yields_attempted kinds _ handler r)
    obtain ⟨handlerGraph, hhandler, -⟩ := hrest.map (yields_attempted kinds _ handler)
    simp only [List.mem_cons, List.not_mem_nil, or_false] at hlists
    rcases hlists with rfl | rfl
    · exact hbody.registered_of_filled (by simpa using hfilled)
    · exact hhandler.registered_of_filled (by simpa using hfilled)
  | _ => cases hpart

/-- A task is compiled to a child with its name and its fields, and, if it is of a built-in kind, with
the step that it is compiled to. -/
theorem Taken.of_child {graph : String} {siblings : List String} {ordinal : Nat} {task : Task}
    {c : Child Step} (h : Taken kinds r (child kinds graph siblings ordinal task) c) :
    c.name = task.name ∧ c.base = task.base ∧ (task.BuiltIn kinds →
      Taken kinds r (step kinds graph task.name task.base task.action) c.action) := by
  obtain ⟨name, base, action⟩ := task
  rw [child.eq_def] at h
  obtain ⟨_, -, h⟩ := h.check
  obtain ⟨⟨kind, replayed⟩, hkind, h⟩ := h.check
  cases kind with
  | builtIn =>
    obtain ⟨action', haction, rfl⟩ := h.map (yields_step kinds graph name base action)
    exact ⟨rfl, rfl, fun _ => haction⟩
  | custom replayedKind =>
    obtain rfl := h.eq_of_pure
    exact ⟨rfl, rfl, fun ⟨_, hbuiltIn⟩ => nomatch hkind.symm.trans hbuiltIn⟩

/-- The tasks of a list are compiled one after the other. -/
theorem Taken.of_children {graph : String} {siblings : List String} {ordinal : Nat} {tasks : List Task}
    {cs : Children} (h : Taken kinds r (children kinds graph siblings ordinal tasks) cs) :
    List.Forall₂ (fun task c => ∃ ordinal,
      Taken kinds r (child kinds graph siblings ordinal task) c) tasks cs := by
  induction tasks generalizing ordinal cs with
  | nil =>
    rw [children.eq_def] at h
    exact h.eq_of_pure ▸ .nil
  | cons task tasks ih =>
    rw [children.eq_def] at h
    obtain ⟨c, hc, hrest⟩ := h.bind (yields_child kinds graph siblings ordinal task) fun r _ _ =>
      yields_map _ (yields_children kinds graph siblings (ordinal + 1) tasks r)
    obtain ⟨cs', hcs, rfl⟩ := hrest.map (yields_children kinds graph siblings (ordinal + 1) tasks)
    exact .cons ⟨ordinal, hc⟩ (ih hcs)

/-- An element of a list is related to some element of a list that is related to it. -/
theorem exists_of_forall₂ {R : α → β → Prop} {as : List α} {bs : List β} (h : List.Forall₂ R as bs)
    {a : α} (ha : a ∈ as) : ∃ b ∈ bs, R a b := by
  induction h with
  | nil => exact (List.not_mem_nil ha).elim
  | cons hab _ ih =>
    rcases List.mem_cons.1 ha with rfl | ha
    · exact ⟨_, List.mem_cons_self .., hab⟩
    · obtain ⟨b, hb, hR⟩ := ih ha
      exact ⟨b, List.mem_cons_of_mem _ hb, hR⟩

/-- What a list is compiled to mirrors the list. -/
theorem Makes.mirrored {graph : String} {tasks : TaskList} {cs : Children}
    (h : Makes kinds r graph tasks cs) : List.Forall₂ (Task.Mirrored kinds graph) tasks cs := by
  refine (Taken.of_children h).imp fun task c ⟨_, hc⟩ => ?_
  obtain ⟨hname, hbase, haction⟩ := hc.of_child
  refine ⟨hname, hbase, fun hbuiltIn compete items hfork => ?_⟩
  have hstep := haction hbuiltIn
  rw [hfork, step.eq_def] at hstep
  obtain ⟨bs, hbs, hstep⟩ := hstep.map (yields_branches kinds graph task.name items)
  rw [hstep, hbs.registered_branches.1]

/-- The parts of the tasks of a list are compiled along with the list. -/
theorem Makes.registered_part {graph : String} {tasks : TaskList} {cs : Children} {task : Task}
    {part : String × TaskList} (h : Makes kinds r graph tasks cs) (htask : task ∈ tasks)
    (hbuiltIn : task.BuiltIn kinds) (hpart : part ∈ task.parts graph) :
    Registered kinds r part.1 part.2 := by
  obtain ⟨c, -, ordinal, hc⟩ := exists_of_forall₂ (Taken.of_children h) htask
  exact (hc.of_child.2.2 hbuiltIn).registered_parts part hpart

theorem mem_of_register {g : Graph} {r r' : Registration} (h : run (register g) r = (.ok (), r')) :
    g ∈ r'.graphs := by
  unfold register run at h
  dsimp only at h
  split at h <;> cases h
  exact List.mem_append_right _ (List.mem_singleton.2 rfl)

/-- The root of a document is registered last. -/
theorem registered_root {w : Workflow} (h : run (root kinds w) .empty = (.ok (), r)) :
    r.Sound kinds ∧ Registered kinds r w.name w.tasks := by
  have hregister (r : Registration) (cs : Children) (hcs : cs.Everywhere (Children.Sound kinds r)) :
      Yields kinds r (fun _ _ => True) (register ⟨w.name, cs, w.schema?⟩) :=
    (yields_register (g := ⟨w.name, cs, w.schema?⟩) hcs).kept
  have hlist (r : Registration) : Yields kinds r
      (fun r' => Children.Everywhere (Children.Sound kinds r')) (list kinds w.name w.tasks) :=
    yields_listed kinds (yields_children kinds w.name (names w.tasks) 0 w.tasks) r
  obtain ⟨-, hsound, -⟩ : _ ∧ (run (root kinds w) .empty).2.Sound kinds ∧ _ :=
    yields_bind (hlist .empty) (fun r cs _ hcs => hregister r cs hcs) (.empty kinds)
  rw [h] at hsound
  have htaken : Taken kinds r (root kinds w) () := ⟨.empty, r, .empty kinds, h, .refl r⟩
  obtain ⟨cs, hcs, before, after, -, hrun, hgrows⟩ := htaken.bind hlist hregister
  exact ⟨hsound, cs, hcs.makes, _, hgrows.graphs (mem_of_register hrun), rfl, rfl⟩

end Compiling

/-! ## The graph of a list -/

namespace Workflow

open Compiling (Registered)

variable {kinds : Kinds} {options : ProgramOptions} {w : Workflow} {p : Program}

/-- Every list of a document that becomes a graph is registered along with the root. -/
theorem Holds.registered {r : Registration} {graph : String} {tasks : TaskList}
    (h : w.Holds kinds graph tasks) (hroot : Registered kinds r w.name w.tasks) :
    Registered kinds r graph tasks := by
  induction h with
  | root => exact hroot
  | part _ mem builtIn inner ih =>
    obtain ⟨cs, hcs, -⟩ := ih
    exact hcs.registered_part mem builtIn inner

/-- The graph of a list of a document mirrors the list. -/
theorem Holds.mirrored {graph : String} {tasks : TaskList} (h : w.Holds kinds graph tasks)
    (hcompile : Program.compile kinds options w = .ok p) :
    ∃ g, p.graph graph = .ok g ∧ List.Forall₂ (Task.Mirrored kinds graph) tasks g.children := by
  obtain ⟨r, hrun, hgraphs⟩ := root_of_compile hcompile
  obtain ⟨hsound, hroot⟩ := Compiling.registered_root hrun
  obtain ⟨cs, hcs, g, hg, rfl, rfl⟩ := h.registered hroot
  refine ⟨g, ?_, hcs.mirrored⟩
  unfold Program.graph
  rw [hgraphs, Program.find?_of_mem hsound.nodup hg]

end Workflow

/-! ## Documents without the fields of such branches -/

/-- A task without any field. -/
def TaskBase.bare : TaskBase := ⟨none, none, none, none, none, []⟩

namespace Task

mutual

/-- What a task does, without the fields of branches that are nested lists. -/
def bareAction : Action → Action
  | .block tasks => .block (bareTasks tasks)
  | .loop spec condition body => .loop spec condition (bareTasks body)
  | .fork compete items => .fork compete (bareBranches items)
  | .attempt body binding handler => .attempt (bareTasks body) binding (bareTasks handler)
  | action => action

/-- The tasks of a list. -/
def bareTasks : List Task → List Task
  | [] => []
  | ⟨name, base, action⟩ :: tasks => ⟨name, base, bareAction action⟩ :: bareTasks tasks

/-- The branches of a fork. -/
def bareBranches : List Task → List Task
  | [] => []
  | ⟨name, base, action⟩ :: items =>
    (match action with
      | .block tasks => ⟨name, .bare, .block (bareTasks tasks)⟩
      | action => ⟨name, base, bareAction action⟩) :: bareBranches items

end

/-- A list without the fields keeps its names. -/
theorem names_bareTasks (tasks : List Task) : names (bareTasks tasks) = names tasks := by
  induction tasks with
  | nil => simp only [bareTasks]
  | cons task tasks ih =>
    simp only [bareTasks]
    exact congrArg (task.name :: ·) ih

theorem isEmpty_bareTasks (tasks : List Task) : (bareTasks tasks).isEmpty = tasks.isEmpty := by
  cases tasks <;> simp [bareTasks]

end Task

/-- A document without the fields of branches that are nested lists. -/
def Workflow.bare (w : Workflow) : Workflow := { w with tasks := Task.bareTasks w.tasks }

/-! ## Compiling them -/

namespace Compiling

variable (kinds : Kinds)

/-- The kind of a task does not depend on what is inside of it. -/
theorem builder_bareAction (name : String) (action : Action) :
    kinds.builder name (Task.bareAction action) = kinds.builder name action := by
  cases action with
  | fork compete items =>
    simp only [Task.bareAction, Kinds.builder, Action.tag]
    generalize kinds.find? "fork" = kind
    -- that a fork has branches stays as it is
    cases items <;> simp only [Task.bareBranches]
    rcases kind with _ | _ | _ <;> rfl
  | block | loop | attempt =>
    simp only [Task.bareAction, Kinds.builder, Action.tag]
    generalize kinds.find? _ = kind
    rcases kind with _ | _ | _ <;> rfl
  | _ => simp only [Task.bareAction]

theorem structureBody_bareAction (action : Action) :
    (Task.bareAction action).structureBody = action.structureBody := by
  cases action <;> simp only [Task.bareAction, Action.structureBody]

mutual

theorem child_bare (graph : String) (siblings : List String) (ordinal : Nat) :
    (task : Task) →
      child kinds graph siblings ordinal ⟨task.name, task.base, Task.bareAction task.action⟩ =
        child kinds graph siblings ordinal task
  | ⟨name, base, action⟩ => by
    simp only [child]
    rw [builder_bareAction, structureBody_bareAction, step_bare graph name base action]
    rfl

theorem step_bare (graph name : String) (base : TaskBase) :
    (action : Action) →
      step kinds graph name base (Task.bareAction action) = step kinds graph name base action
  | .block tasks => by
    simp only [Task.bareAction, step, Task.names_bareTasks]
    rw [children_bare name (names tasks) 0 tasks]
  | .loop spec condition body => by
    simp only [Task.bareAction, step, Task.names_bareTasks]
    rw [children_bare _ (names body) 0 body]
  | .fork compete items => by
    simp only [Task.bareAction, step]
    rw [branches_bare graph name items]
  | .attempt body binding handler => by
    simp only [Task.bareAction, step, unlessEmpty, Task.names_bareTasks, Task.isEmpty_bareTasks]
    rw [children_bare _ (names body) 0 body, children_bare _ (names handler) 0 handler]
  | .switch _ | .call _ | .run _ | .wait _ | .raise _ | .listen _ | .assign _ | .custom .. => by
    simp only [Task.bareAction]

theorem children_bare (graph : String) (siblings : List String) (ordinal : Nat) :
    (tasks : List Task) →
      children kinds graph siblings ordinal (Task.bareTasks tasks) =
        children kinds graph siblings ordinal tasks
  | [] => by simp only [Task.bareTasks]
  | ⟨name, base, action⟩ :: tasks => by
    simp only [Task.bareTasks, children]
    rw [child_bare graph siblings ordinal ⟨name, base, action⟩,
      children_bare graph siblings (ordinal + 1) tasks]

theorem branches_bare (graph fork : String) :
    (items : List Task) →
      branches kinds graph fork (Task.bareBranches items) = branches kinds graph fork items
  | [] => by simp only [Task.bareBranches]
  | ⟨name, base, action⟩ :: items => by
    have hchild := child_bare (Naming.graphName "fork" graph fork (some name)) [name] 0
      ⟨name, base, action⟩
    -- a branch that is a block is compiled without its fields, any other one as the task that it is
    cases action with
    | block tasks =>
      simp only [Task.bareBranches, branches, Task.names_bareTasks]
      rw [children_bare _ (names tasks) 0 tasks, branches_bare graph fork items]
    | loop | fork | attempt =>
      simp only [Task.bareAction] at hchild
      simp only [Task.bareBranches, Task.bareAction, branches]
      rw [hchild, branches_bare graph fork items]
    | _ =>
      simp only [Task.bareBranches, Task.bareAction, branches]
      rw [branches_bare graph fork items]

end

end Compiling

/-- The fields of branches that are nested lists are left out of the program. -/
theorem Program.compile_bare (kinds : Kinds) (options : ProgramOptions) (w : Workflow) :
    Program.compile kinds options w.bare = Program.compile kinds options w := by
  have hvalid : w.bare.validate = w.validate := by
    unfold Workflow.validate Workflow.bare
    rw [Task.isEmpty_bareTasks]
    rfl
  unfold Program.compile Compiling.workflow
  rw [hvalid]
  unfold Compiling.list Workflow.bare
  rw [Task.names_bareTasks, Compiling.children_bare]
  rfl

end TaskGraph
