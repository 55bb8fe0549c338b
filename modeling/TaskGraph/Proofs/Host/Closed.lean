import TaskGraph.Proofs.Restart.Lifecycle

/-!
# Compiled programs are closed

Every name that a step of a compiled program refers to is that of a graph of the program
(`Program.Closed`), and restarts are of graphs that are running. So on every host that a run of the
program comes to, all graphs that are started are found (`Host.Finds`), but for those whose name is
computed by the expression of a task that runs a workflow (`Program.Computes`).

`Program.graphs_are_found` says so, as long as no handler answers with a request for a restart, or with
the lack of a graph, by itself; if one does, a program without such tasks may end in the lack of a graph
(`Program.forged_entry_is_missing`).
-/

set_option autoImplicit false

namespace TaskGraph

open Running (Any Result)

/-! ## Names that are computed -/

namespace Program

/-- Whether a process is that of a step of a program. -/
def Runs (p : Program) (process : WorkflowProcess) : Prop :=
  ∃ g ∈ p.graphs, ∃ child ∈ g.children, ∃ inner : Step, inner.Inside child.action ∧
    inner.Runs process

/-- Whether a name may be computed by an expression that a step of a program has for the name of a
workflow. -/
def Computes (p : Program) (name : String) : Prop :=
  ∃ process, p.Runs process ∧ Evaluation.isExpression process.name = true ∧
    ∃ v q, Evaluation.Reads process.toJson v ∧ WorkflowProcess.decode v = .ok q ∧ q.name = name

/-- Whether a name is that of a graph of a program, which bears it as well. -/
def Has (p : Program) (name : String) : Prop := ∃ g, p.graph name = .ok g ∧ g.name = name

theorem has_of_graph {p : Program} {name : String} {g : Graph} (h : p.graph name = .ok g) :
    p.Has name :=
  ⟨g, h, (mem_of_graph h).2⟩

end Program

/-- Whatever a step of a closed program refers to by name is there, at any depth. -/
theorem Program.Closed.has {p : Program} (hp : p.Closed) {g : Graph} (hg : g ∈ p.graphs)
    {child : Child Step} (hchild : child ∈ g.children) {inner : Step}
    (hinner : inner.Inside child.action) {name : String} (hname : inner.Names name) :
    p.Has name := by
  obtain ⟨hlist, hnested⟩ := hp.lists g hg
  rcases hinner.cases with rfl | ⟨list, hinside, child', hchild', rfl⟩
  · exact hlist.named child hchild name hname
  · exact (hnested child hchild list hinside).named child' hchild' name hname

/-- A compiled program on which nothing but its own runs asks for a restart, and no graph is missing
but one whose name is computed. -/
def Terms.closed {kinds : Kinds} (hkinds : kinds.BuiltIn) {options : ProgramOptions} {w : Workflow}
    {p : Program} (h : Program.compile kinds options w = .ok p) : Terms p where
  faults f := f.asksRestart = false ∧ ∀ name, f = .graphNotFound name → p.Computes name
  starts name := p.Has name ∨ p.Computes name
  runs := p.Runs
  ordinary f hf := ⟨Fault.asksRestart_of_ordinary hf, fun name heq => by
    subst heq
    cases hf⟩
  leaves _ := And.left
  found name hname := by
    refine hname.imp (fun ⟨g, hg, _⟩ => ⟨g, hg⟩) fun hcomputes => ⟨rfl, fun name' heq => ?_⟩
    cases heq
    exact hcomputes
  named process q v hruns hreads hq := by
    cases hname : Evaluation.isExpression process.name with
    | true => exact .inr ⟨process, hruns, hname, v, q, hreads, hq, rfl⟩
    | false =>
      -- a literal name is one that the step refers to
      obtain ⟨g, hg, child, hchild, inner, hinner, hruns⟩ := hruns
      refine .inl ((Program.closed_of_compile h).has hg hchild hinner ?_)
      rcases Evaluation.mayRun_of_reads hreads hq with hliteral | hexpression
      · exact hliteral ▸ Step.names_of_runs hruns hname
      · rw [hname] at hexpression
        cases hexpression
  graphs g hg := by
    have hmem := (Program.mem_of_graph hg).1
    exact (Program.compiled_of_compile h g hmem).orderly hkinds
      (fun child hchild inner hinner name hname =>
        .inl ((Program.closed_of_compile h).has hmem hchild hinner hname))
      fun child hchild inner hinner _ hprocess =>
        ⟨g, hmem, child, hchild, inner, hinner, hprocess⟩

/-! ## Hosts -/

/-- Whether observers are told of the start of graphs that may be started alone, and of the lack of no
other graph. -/
def Notice.Found (p : Program) : Notice → Prop
  | .enter name _ _ | .detach name _ _ => p.Has name ∨ p.Computes name
  | .leave _ x => ∀ name, x = .error (.graphNotFound name) → p.Computes name
  | _ => True

/-- The names of the graphs that a request starts. -/
def Request.graphs : Request → List String
  | .enter _ g _ _ => [g.name]
  | .detach _ name _ _ => [name]
  | .fork _ names _ _ => names
  | _ => []

/-- Whether a host finds all graphs that are started, but for those whose names are computed. -/
structure Host.Finds (p : Program) (h : Host Host.RunResult) : Prop where
  asked : ∀ q, h.Asks q → ∀ name ∈ q.graphs, p.Has name ∨ p.Computes name
  told : ∀ n ∈ h.journal, n.2.Found p
  /-- The graph of every restart of the program. -/
  restarted : ∀ run entry marker, .continuedAsNew entry marker ∈ (h.history run).events.toList →
    p.Has entry
  result : ∀ name, h.result = some (.error (.graphNotFound name)) → p.Computes name

namespace Program

variable {kinds : Kinds} (hkinds : kinds.BuiltIn) {options : ProgramOptions} {w : Workflow}
  {e : Setting}
include hkinds

theorem finds_of_reaches (h : Program.compile kinds options w = .ok e.program)
    {around : Surroundings} (hwithin : around.Within fun f => f.ordinary = true) {input : Json}
    {env : Members} {host : Host Host.RunResult} (hhost : Host.Reaches e around input env host) :
    host.Finds e.program := by
  obtain ⟨g, hroot, -⟩ := (closed_of_compile h).root
  -- on these terms a request is fair only if all graphs that it names are there
  let T := Terms.closed hkinds h
  obtain ⟨l, hc⟩ := Host.course_of_reaches T ⟨g, hroot⟩ (hwithin.mono T.ordinary) hhost
  refine ⟨fun q hasks name hname => ?_, fun n hn => ?_, fun run entry marker hmem => ?_,
    fun name hresult => (hc.result _ hresult).2 name rfl⟩
  · have hfair (hne : ∀ c ev, q ≠ .record c ev) := hc.fair_of_asks hne hasks
    cases q with
    | enter c g input s =>
      rw [List.mem_singleton.1 hname]
      exact .inl (has_of_graph (hfair nofun).1)
    | detach c graph input s =>
      rw [List.mem_singleton.1 hname]
      exact (hfair nofun).1
    | fork c graphs input s => exact (hfair nofun).1 name hname
    | _ => exact (List.not_mem_nil hname).elim
  · have hfair := hc.journal n hn
    obtain ⟨t, n⟩ := n
    cases n with
    | enter | detach => exact hfair.1
    | leave graph x =>
      rintro name rfl
      exact hfair.2 name rfl
    | _ => trivial
  · obtain ⟨ch, hch, -, hopening | hclose⟩ := hc.accounts.of_mem hmem rfl
    · cases hopening
    · obtain ⟨-, g, hg, -⟩ := hc.chronicle.closes hch hclose
      exact has_of_graph hg

/-- Compiled programs are closed: whatever a step of a graph refers to by name is a graph of the
program, which bears that name, and so are the root and every list nested in a graph. On every host
that a run of the program comes to, all graphs that are started, awaited, forked, detached or
restarted, are found, and neither the program nor a graph ends in the lack of one, but for names that
the expression of a task that runs a workflow computes. The program is of built-in kinds, and no handler
answers with a request for a restart or with the lack of a graph by itself; whether a restart is due is
decided anew at each moment. -/
theorem graphs_are_found (h : Program.compile kinds options w = .ok e.program) :
    e.program.Closed ∧
      (∀ g ∈ e.program.graphs, ∀ child ∈ g.children, ∀ inner : Step, inner.Inside child.action →
        ∀ name, inner.Names name → e.program.Has name) ∧
      ∀ around : Surroundings, around.Within (fun f => f.ordinary = true) →
        ∀ (input : Json) (env : Members) (host : Host Host.RunResult),
          Host.Reaches e around input env host → host.Finds e.program :=
  ⟨closed_of_compile h, fun _ hg _ hchild _ hinner _ => (closed_of_compile h).has hg hchild hinner,
    fun _ hwithin _ _ _ hhost => finds_of_reaches hkinds h hwithin hhost⟩

omit hkinds

/-- Two calls with a restart in between. -/
theorem graphs_are_found_of_pair :
    Kinds.standard.BuiltIn ∧
      Program.compile Kinds.standard .standard Pair.workflow = .ok Pair.setting.program ∧
      Surroundings.ready.Within (fun f => f.ordinary = true) ∧
      Host.Reaches Pair.setting .ready .null [] Pair.restarted ∧
      Pair.restarted.Finds Pair.setting.program :=
  ⟨Kinds.builtIn_standard, Pair.compiled, Surroundings.within_ready _, Pair.reaches_restarted,
    (graphs_are_found Kinds.builtIn_standard Pair.compiled).2.2 .ready (Surroundings.within_ready _)
      .null [] _ Pair.reaches_restarted⟩

/-- If a handler answers with a request for a restart of a graph that there is not, a program ends in
the lack of it, though no name is computed in the program. -/
theorem forged_entry_is_missing :
    Program.compile Kinds.standard .standard Pair.workflow = .ok Pair.setting.program ∧
      (∀ name, ¬ Pair.setting.program.Computes name) ∧
      Host.Reaches Pair.setting (.forging "nowhere" (.start .null [])) .null []
        (Pair.forged "nowhere" (.start .null [])) ∧
      (Pair.forged "nowhere" (.start .null [])).result.map (fun
        | .ok _ => none
        | .error f => some f) = some (some (.graphNotFound "nowhere")) := by
  refine ⟨Pair.compiled, ?_, Pair.reaches_forged .., by decide +kernel⟩
  rintro name ⟨process, ⟨g, hg, child, hchild, inner, hinner, hruns⟩, -⟩
  obtain rfl := List.mem_singleton.1 hg
  -- both children are calls, which have nothing inside
  have hcall : ∃ call timeout, child.action = .call call timeout := by
    simp only [Pair.graph, List.mem_cons, List.not_mem_nil, or_false] at hchild
    rcases hchild with rfl | rfl <;> exact ⟨_, _, rfl⟩
  obtain ⟨call, timeout, hcall⟩ := hcall
  rw [hcall] at hinner
  cases hinner
  exact hruns

end Program

end TaskGraph
