import TaskGraph.Proofs.Program.WellFormed

/-!
# What compiling registers

The compiler registers the graphs of the lists inside a document under their names, in the order of
`Workflow.lists`; of a task whose kind is not built in it registers none. A name that is registered already is
found only if the names of the lists hold it twice (`Compiling.Registers`). There is one lemma for each check,
which says that its fault is another one, and one for each way in which steps of compiling are put together.
-/

set_option autoImplicit false

namespace TaskGraph

namespace Compiling

variable {α β : Type} {kinds : Kinds} {graphs graphs' : List String}

/-- Whether a step of compiling registers graphs of these names, in order, or, if kinds are not built in,
some of them, and finds no name registered already unless one comes up twice. -/
structure Registers (kinds : Kinds) (graphs : List String) (c : Compiling α) : Prop where
  names : ∀ r a r', run c r = (.ok a, r') → ∃ added : List String, added.Sublist graphs ∧
    (kinds.BuiltIn → added = graphs) ∧ r'.names = r.names ++ added
  fault : ∀ r f r', run c r = (.error f, r') → (r.names ++ graphs).Nodup →
    ∀ graph, f ≠ .duplicateGraph graph

theorem Registers.of_eq {c : Compiling α} (h : Registers kinds graphs c) (heq : graphs = graphs') :
    Registers kinds graphs' c := heq ▸ h

theorem registers_pure (a : α) : Registers kinds [] (pure a) := by
  refine ⟨fun r b r' h => ⟨[], List.Sublist.refl _, fun _ => rfl, ?_⟩, fun r f r' h => ?_⟩
  · cases h
    exact (List.append_nil _).symm
  · cases h

/-- A step that fails registers nothing, or that nothing is to be registered by. -/
theorem registers_lift {x : Except Fault α} (hx : ∀ f, x = .error f → ∀ graph, f ≠ .duplicateGraph graph) :
    Registers kinds [] (liftM x : Compiling α) := by
  cases x with
  | ok a => exact registers_pure a
  | error f =>
    refine ⟨fun r b r' h => ?_, fun r f' r' h => ?_⟩
    · cases h
    · cases h
      exact fun _ => hx f rfl

theorem registers_throw {f : Fault} (hf : ∀ graph, f ≠ .duplicateGraph graph) :
    Registers kinds graphs (throw f : Compiling α) := by
  refine ⟨fun r b r' h => ?_, fun r f' r' h => ?_⟩
  · cases h
  · cases h
    exact fun _ => hf

theorem registers_bind {c : Compiling α} {k : α → Compiling β} (h : Registers kinds graphs c)
    (hk : ∀ a, Registers kinds graphs' (k a)) : Registers kinds (graphs ++ graphs') (c >>= k) := by
  constructor
  · intro r b r' hrun
    rw [run_bind] at hrun
    rcases hc : run c r with ⟨f | a, mid⟩
    · rw [hc] at hrun
      cases hrun
    · rw [hc] at hrun
      obtain ⟨added, hsub, hall, hnames⟩ := h.names r a mid hc
      obtain ⟨added', hsub', hall', hnames'⟩ := (hk a).names mid b r' hrun
      refine ⟨added ++ added', hsub.append hsub', fun hkinds => ?_, ?_⟩
      · rw [hall hkinds, hall' hkinds]
      · rw [hnames', hnames, List.append_assoc]
  -- a fault of the first is a fault of the whole; one of the second comes after what the first has
  -- added
  · intro r f r' hrun hnodup
    rw [← List.append_assoc] at hnodup
    rw [run_bind] at hrun
    rcases hc : run c r with ⟨f' | a, mid⟩
    · rw [hc] at hrun
      cases hrun
      exact h.fault r f r' hc (hnodup.sublist (List.sublist_append_left ..))
    · rw [hc] at hrun
      obtain ⟨added, hsub, -, hnames⟩ := h.names r a mid hc
      refine (hk a).fault mid f r' hrun (hnodup.sublist ?_)
      rw [hnames]
      exact ((List.Sublist.refl _).append hsub).append (List.Sublist.refl _)

theorem Registers.map {c : Compiling α} (h : Registers kinds graphs c) (k : α → β) :
    Registers kinds graphs (do let a ← c; pure (k a)) :=
  (registers_bind h fun a => registers_pure (k a)).of_eq (List.append_nil _)

theorem registers_register (g : Graph) : Registers kinds [g.name] (register g) := by
  refine ⟨fun r a r' h => ⟨[g.name], List.Sublist.refl _, fun _ => rfl, ?_⟩, fun r f r' h hnodup => ?_⟩
  · unfold register run at h
    dsimp only at h
    split at h
    · cases h
    · cases h
      exact List.map_append
  · unfold register run at h
    dsimp only at h
    split at h
    · next found hfound =>
      have hmem : g.name ∈ r.names := mem_names.2 (hfound ▸ nofun)
      exact absurd rfl ((List.nodup_append.1 hnodup).2.2 _ hmem _ (List.mem_singleton.2 rfl))
    · cases h

theorem registers_require (task graph : String) : Registers kinds [] (require task graph) := by
  refine ⟨fun r a r' h => ⟨[], List.Sublist.refl _, fun _ => rfl, ?_⟩, fun r f r' h => ?_⟩
  · cases h
    exact (List.append_nil _).symm
  · cases h

theorem not_builtIn_of_builder {name : String} {action : Action} {replayed replayed' : Bool}
    (h : kinds.builder name action = .ok (.custom replayed, replayed')) : ¬ kinds.BuiltIn := by
  intro hkinds
  unfold Kinds.builder at h
  split at h <;> cases h
  next hfind => cases hkinds _ _ hfind

/-- A task of a kind that is not built in has nothing compiled in it. -/
theorem registers_custom (hkinds : ¬ kinds.BuiltIn) (a : α) : Registers kinds graphs (pure a) := by
  refine ⟨fun r b r' h => ⟨[], List.nil_sublist _, fun hall => absurd hall hkinds, ?_⟩,
    fun r f r' h => ?_⟩
  · cases h
    exact (List.append_nil _).symm
  · cases h

/-! ### Checks -/

/-- Whether the fault of a check, if it has one, is not that a name is registered already. -/
def Unrelated (x : Except Fault α) : Prop := ∀ f, x = .error f → ∀ graph, f ≠ .duplicateGraph graph

theorem unrelated_distinct (graph : String) (names : List String) : Unrelated (distinct graph names) := by
  intro f hf
  unfold distinct at hf
  split at hf <;> cases hf
  exact nofun

theorem unrelated_target (siblings : List String) (task : Task) : Unrelated (targetKnown siblings task) := by
  intro f hf
  unfold targetKnown at hf
  split at hf
  · split at hf <;> cases hf
    exact nofun
  · cases hf

theorem unrelated_builder (name : String) (action : Action) : Unrelated (kinds.builder name action) := by
  intro f hf
  unfold Kinds.builder at hf
  split at hf <;> cases hf <;> exact nofun

theorem unrelated_checkCall (task : String) (call : Call) : Unrelated (checkCall task call) := by
  intro f hf
  unfold checkCall at hf
  repeat' split at hf
  all_goals
    cases hf
    try exact nofun

theorem unrelated_checkProcess (task : String) (r : ProcessRun) : Unrelated (checkProcess task r) := by
  intro f hf
  unfold checkProcess at hf
  repeat' split at hf
  all_goals
    cases hf
    try exact nofun

theorem unrelated_taskDuration (task : String) (d : DurationSpec) : Unrelated (taskDuration task d) := by
  intro f hf
  unfold taskDuration at hf
  cases hd : d.toDuration with
  | ok v =>
    rw [hd] at hf
    cases hf
  | error f' =>
    rw [hd] at hf
    cases hf
    exact nofun

theorem unrelated_timeout (task : String) (base : TaskBase) : Unrelated (timeout task base) := by
  intro f hf
  unfold timeout at hf
  split at hf
  · next d hd =>
    refine unrelated_taskDuration task d f ?_
    cases hduration : taskDuration task d with
    | ok v =>
      rw [hduration] at hf
      cases hf
    | error f' =>
      rw [hduration] at hf
      cases hf
      rfl
  · cases hf

theorem unrelated_listener (task : String) (l : Listener) : Unrelated (listener task l) := by
  intro f hf
  unfold listener at hf
  repeat' split at hf
  all_goals
    cases hf
    try exact nofun

theorem unrelated_validate (w : Workflow) : Unrelated w.validate := by
  intro f hf
  obtain ⟨reason, rfl⟩ := Workflow.invalid_of_validate hf
  exact nofun

theorem registers_references {γ : Type} (xs : List γ) {f : γ → Compiling Unit}
    (h : ∀ x, Registers kinds [] (f x)) : Registers kinds [] (xs.forM f) := by
  induction xs with
  | nil => exact registers_pure ()
  | cons x xs ih => exact registers_bind (h x) fun _ => ih

theorem registers_switch (task : String) (cases : List SwitchCase) :
    Registers kinds [] (switch task cases) := by
  unfold switch
  split
  · exact registers_throw nofun
  · refine (registers_references cases fun case => ?_).map fun _ => Step.switch cases
    split
    · exact registers_require ..
    · exact registers_pure ()

theorem registers_checkRun (task : String) (r : ProcessRun) : Registers kinds [] (checkRun task r) := by
  unfold checkRun
  split
  · split
    · exact registers_throw nofun
    · split
      · exact registers_pure ()
      · exact registers_require ..
  · exact registers_lift (unrelated_checkProcess task r)

/-! ### Lists and tasks -/

theorem registers_registered {graph : String} {tasks : TaskList} {lists : List (String × TaskList)}
    {c : Compiling Children} (h : Registers kinds (lists.map Prod.fst) c) :
    Registers kinds ((lists ++ [(graph, tasks)]).map Prod.fst) (registered graph (names tasks) c) := by
  have hlisted : Registers kinds (lists.map Prod.fst) (listed graph (names tasks) c) :=
    registers_bind (registers_lift (unrelated_distinct graph _)) fun _ => h
  rw [List.map_append]
  exact registers_bind hlisted fun cs => (registers_register ⟨graph, cs, none⟩).map fun _ => cs

theorem registers_unlessEmpty {graph : String} {tasks : TaskList} {lists : List (String × TaskList)}
    {c : Compiling Children} (h : Registers kinds (lists.map Prod.fst) c) :
    Registers kinds ((if tasks.isEmpty then [] else lists).map Prod.fst) (unlessEmpty graph tasks c) := by
  unfold unlessEmpty
  split
  · exact registers_pure _
  · exact h.map _

mutual

theorem registers_child (graph : String) (siblings : List String) (ordinal : Nat) :
    (task : Task) → Registers kinds ((Task.lists graph task.name task.action).map Prod.fst)
      (child kinds graph siblings ordinal task)
  | ⟨name, base, action⟩ => by
    rw [child.eq_def]
    refine registers_bind (registers_lift (unrelated_target siblings ⟨name, base, action⟩)) fun _ => ?_
    cases hbuilder : kinds.builder name action with
    | error f => exact registers_throw (unrelated_builder name action f hbuilder)
    | ok built =>
      obtain ⟨kind, replayed⟩ := built
      cases kind with
      | builtIn => exact (registers_step graph name base action).map _
      | custom => exact registers_custom (not_builtIn_of_builder hbuilder) _

theorem registers_step (graph name : String) (base : TaskBase) :
    (action : Action) → Registers kinds ((Task.lists graph name action).map Prod.fst)
      (step kinds graph name base action)
  | .block tasks => by
    rw [step.eq_def, Task.lists.eq_def]
    exact (registers_registered (registers_children name (names tasks) 0 tasks)).map _
  | .loop spec condition body => by
    rw [step.eq_def, Task.lists.eq_def]
    exact (registers_registered (registers_children _ (names body) 0 body)).map _
  | .fork compete tasks => by
    rw [step.eq_def, Task.lists.eq_def]
    exact (registers_branches graph name tasks).map _
  | .switch cases => by
    rw [step.eq_def, Task.lists.eq_def]
    exact registers_switch name cases
  | .attempt body binding handler => by
    rw [step.eq_def, Task.lists.eq_def]
    dsimp only
    rw [List.map_append]
    refine registers_bind
      (registers_unlessEmpty (registers_registered (registers_children _ (names body) 0 body)))
      fun _ => (registers_unlessEmpty
        (registers_registered (registers_children _ (names handler) 0 handler))).map _
  | .call call => by
    rw [step.eq_def, Task.lists.eq_def]
    exact registers_bind (registers_lift (unrelated_checkCall name call)) fun _ =>
      (registers_lift (unrelated_timeout name base)).map _
  | .run r => by
    rw [step.eq_def, Task.lists.eq_def]
    exact registers_bind (registers_checkRun name r) fun _ =>
      (registers_lift (unrelated_timeout name base)).map _
  | .wait d => by
    rw [step.eq_def, Task.lists.eq_def]
    exact (registers_lift (unrelated_taskDuration name d)).map _
  | .listen l => by
    rw [step.eq_def, Task.lists.eq_def]
    exact registers_lift (unrelated_listener name l)
  | .raise _ | .assign _ | .custom .. => by
    rw [step.eq_def, Task.lists.eq_def]
    exact registers_pure _

theorem registers_children (graph : String) (siblings : List String) (ordinal : Nat) :
    (tasks : List Task) → Registers kinds ((Task.inner graph tasks).map Prod.fst)
      (children kinds graph siblings ordinal tasks)
  | [] => by
    rw [children.eq_def, Task.inner.eq_def]
    exact registers_pure _
  | ⟨name, base, action⟩ :: tasks => by
    rw [children.eq_def, Task.inner.eq_def, List.map_append]
    exact registers_bind (registers_child graph siblings ordinal ⟨name, base, action⟩) fun _ =>
      (registers_children graph siblings (ordinal + 1) tasks).map _

theorem registers_branches (graph fork : String) :
    (tasks : List Task) → Registers kinds ((Task.branches graph fork tasks).map Prod.fst)
      (branches kinds graph fork tasks)
  | [] => by
    rw [branches.eq_def, Task.branches.eq_def]
    exact registers_pure _
  | ⟨name, base, action⟩ :: tasks => by
    rw [branches.eq_def, Task.branches.eq_def, List.map_append]
    have hothers : Registers kinds ((Task.branches graph fork tasks).map Prod.fst) (do
        let bs ← branches kinds graph fork tasks
        pure (⟨name, Naming.graphName "fork" graph fork (some name)⟩ :: bs)) :=
      (registers_branches graph fork tasks).map _
    cases action with
    | block list =>
      exact registers_bind (registers_registered (registers_children _ (names list) 0 list)) fun _ => hothers
    | _ =>
      exact registers_bind (registers_registered
        ((registers_child _ [name] 0 ⟨name, base, _⟩).map fun c => [c])) fun _ => hothers

end

/-- The graphs of a document are registered under their names, the root last. -/
theorem registers_root (w : Workflow) : Registers kinds w.graphNames (root kinds w) := by
  unfold Workflow.graphNames Workflow.lists root
  rw [List.map_append]
  refine registers_bind ?_ fun cs => registers_register ⟨w.name, cs, w.schema?⟩
  exact registers_bind (registers_lift (unrelated_distinct w.name (names w.tasks))) fun _ =>
    registers_children w.name (names w.tasks) 0 w.tasks

end Compiling

end TaskGraph
