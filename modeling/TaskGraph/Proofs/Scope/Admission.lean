import TaskGraph.Proofs.Restart.Lifecycle
import TaskGraph.Proofs.Scope.Entry
import TaskGraph.Proofs.Sequence.Isolation

/-!
# Inputs are checked

Tasks and documents declare schemas for their inputs. `Admission` says where a program checks them:
before the body of a task, unless it is replayed, and before the run of the entry point. On a host
(`Host.Admitted`), every graph that a run begins afresh is entered with an input that satisfies its
schema, or it was started by its name.

A graph that is started by its name is entered with whatever input it is given. So
`Scope.inputs_are_checked` says no more than this of it, and `Scope.named_graph_is_not_checked` is a
document that starts itself with an input that its own schema refuses.
-/

set_option autoImplicit false

namespace TaskGraph

open Running (Any)

namespace Sequence

variable {e : Setting} {c : Context}

/-- Behind its guard, a child whose input is refused ends its list. -/
theorem visit_of_refused {r : Resumption} (hr : r ≠ .replay) {child : Child Doing} {s : Scope}
    {f : Fault} (hf : checkInput e.program.options child.name child.base s = .error f)
    (go : Option String → Scope → Running Scope) :
    visit e c r child s go = (do
      if ← Running.check child.base.guard s [taskBinding child.name] then throw f else go none s) := by
  unfold visit
  refine bind_congr fun holds => ?_
  cases holds with
  | false => rfl
  | true =>
    have henact : enact e c child.name child.base child.action s = throw f := by
      unfold enact
      rw [hf]
      rfl
    simp only [if_true, if_neg hr, henact]
    rfl

end Sequence

/-- The first thing that is done with a graph is to enter it. -/
theorem Restart.enters_loop (p : Program) (c : Context) (name : String) (left : Nat) (g : Graph)
    (input : Json) (s : Scope) :
    ∃ next : (inner : Context) → Except Fault Scope → Dialogue (Except Fault Json),
      (Restart.loop p c name left g input s).run =
        .ask (.fresh c) fun inner => .ask (.enter inner g input s) (next inner) := by
  rw [Restart.loop.eq_def]
  exact ⟨_, rfl⟩

/-- Where inputs are checked in a program. -/
structure Admission (e : Setting) : Prop where
  /-- A run of a list, without the notes of what it does. -/
  traced : ∀ (c : Context) (entry : Option String) (input : Json) (first : Bool)
    (pending : Option String) (children : Children) (s : Scope),
    (Sequence.trace e c entry input first pending children s).forget =
      Sequence.run e c entry input first pending children s
  /-- The body of a child, in a list or in one nested in it, is only replayed, or the input of the scope
  that it starts in satisfies the schema of the child. -/
  executed : ∀ (c : Context) (entry : Option String) (input : Json) (first : Bool)
    (pending : Option String) (children : Children) (s : Scope),
    (Sequence.trace e c entry input first pending children s).Ensures (fun _ _ => True) fun x =>
      ∀ r child input' s', .starts r child input' s' ∈ x.1 → r ≠ .replay →
        e.program.options.Admits child.base.schema? s'.input
  /-- If it does not, then the list ends in the fault that says so, once the guard is found to hold. -/
  refused : ∀ (c : Context) (entry : Option String) (input : Json) (first : Bool)
    (pending : Option String) (child : Child Step) (rest : Children) (s : Scope) (r : Resumption)
    (s' : Scope), Restart.resumption child.id child.replayed entry.isSome s = (r, s') →
    ¬ Sequence.Passes r pending child.name → r ≠ .replay →
    ¬ e.program.options.Admits child.base.schema? s'.input →
    ∃ f : Fault, f.Refuses child.name ∧
      Sequence.run e c entry input first pending (child :: rest) s = (do
        if ← Sequence.leaves e c entry first s then
          Restart.suspend c (entry.getD "") child.id input s
        else if ← Running.check child.base.guard s' [Sequence.taskBinding child.name] then throw f
        else Sequence.run e c entry input false none rest s')
  /-- A program whose entry point does not take the input ends at once in the fault that says so. -/
  root : ∀ (g : Graph) (input : Json) (env : Members), e.program.graph e.program.root = .ok g →
    ¬ e.program.options.Admits g.schema input →
    ∃ f : Fault, f.Refuses g.name ∧ Host.programRun e.program input env = throw f
  /-- A graph that is started by its name is entered with the input that it is given. -/
  named : ∀ (c : Context) (name : String) (g : Graph) (input : Json) (s : Scope),
    e.program.graph name = .ok g →
    ∃ next : (inner : Context) → Except Fault Scope → Dialogue (Except Fault Json),
      (Restart.graphOutput e.program c name input s).run =
        .ask (.record c (.graphStarted name false)) fun _ =>
          .ask (.fresh c) fun inner => .ask (.enter inner g input s) (next inner)

theorem admission (e : Setting) : Admission e where
  traced := Sequence.forget_trace e
  executed c entry input first pending children s := by
    have htrace := Sequence.ensures_trace_any e c entry input first pending children s
    refine htrace.mono fun x hx r child input' s' hmem hr => ?_
    obtain ⟨-, -, -, hcheck⟩ := hx.proper _ hmem
    exact ProgramOptions.admits_of_check (hcheck hr)
  refused c entry input first pending child rest s r s' hresumption hpasses hr hadmits := by
    obtain ⟨f, hf, hrefused⟩ := ProgramOptions.refuses_of_not_admits hadmits child.name
    refine ⟨f, hf, ?_⟩
    rw [Sequence.run_cons]
    refine bind_congr fun leaves => ?_
    cases leaves with
    | true => rfl
    | false =>
      have hchild : Sequence.checkInput e.program.options (Sequence.embody e c input child).name
          (Sequence.embody e c input child).base s' = .error f := hrefused
      simp only [hresumption, if_neg hpasses, Bool.false_eq_true, if_false]
      exact Sequence.visit_of_refused hr hchild _
  root g input env hg hadmits := by
    obtain ⟨f, hf, hrefused⟩ := ProgramOptions.refuses_of_not_admits hadmits g.name
    refine ⟨f, hf, ?_⟩
    -- the initial scope is where the input of a program is checked
    have hscope : g.initialScope e.program.options input env = .error f := by
      rw [Graph.initialScope_eq_check, hrefused]
      rfl
    unfold Host.programRun
    rw [hg]
    show (Running.ofExcept (g.initialScope e.program.options input env) >>= fun s =>
      Restart.rootLoop e.program Host.rootContext Restart.limit g input s) = throw f
    rw [hscope]
    rfl
  named c name g input s hg := by
    obtain ⟨next, hloop⟩ := Restart.enters_loop e.program c name Restart.limit g input s
    have hrun : ∃ k : Except Fault Json → Dialogue (Except Fault Json),
        (Restart.graphOutput e.program c name input s).run =
          .ask (.record c (.graphStarted name false)) fun _ =>
            (Restart.loop e.program c name Restart.limit g input s).run.bind k := by
      unfold Restart.graphOutput
      rw [hg]
      exact ⟨_, rfl⟩
    obtain ⟨k, hrun⟩ := hrun
    rw [hrun, hloop]
    exact ⟨_, rfl⟩

/-! ## Hosts -/

/-- Whether a graph that a run begins afresh, on a host, has an input that satisfies its schema, or was
started by its name with this input. -/
def Host.Admitted (p : Program) (h : Host Host.RunResult) : Prop :=
  ∀ c g input s, h.Asks (.enter c g input s) → s.input = input ∧ (s.marker = none →
    p.options.Admits g.schema input ∨ ∃ t s₀, s₀.input = input ∧
      ((t, .enter g.name input s₀) ∈ h.journal ∨ (t, .detach g.name input s₀) ∈ h.journal))

theorem Host.admitted_of_reaches {e : Setting} {around : Surroundings}
    (hwithin : around.Within fun f => f.asksRestart = false) {input : Json} {env : Members}
    {h : Host Host.RunResult} (hh : Host.Reaches e around input env h) : h.Admitted e.program := by
  intro c g input' s hq
  obtain ⟨k, hb⟩ := Host.bound_entry hwithin hh
  obtain ⟨hheld, horigin⟩ := hb.origin hq
  exact ⟨hheld, fun hfresh => horigin.imp_left fun ⟨_, _, hadmits⟩ => hadmits hfresh⟩

/-- The schemas, the inputs and the markers that graphs are entered with. -/
def Host.entries (h : Host Host.RunResult) : List (Option Json × Json × Option String) :=
  h.strands.filterMap fun s => match s.phase with
    | .ready (.ask (.enter _ g input scope) _) => some (g.schema, input, scope.marker)
    | _ => none

theorem Host.asks_of_mem_entries {h : Host Host.RunResult} {schema? : Option Json} {input : Json}
    {marker : Option String} (hmem : (schema?, input, marker) ∈ h.entries) :
    ∃ c g s, h.Asks (.enter c g input s) ∧ g.schema = schema? ∧ s.marker = marker := by
  obtain ⟨s, hs, hentry⟩ := List.mem_filterMap.1 hmem
  split at hentry
  next c g input' scope next hphase =>
    cases hentry
    exact ⟨c, g, scope, ⟨s, hs, next, hphase⟩, rfl, rfl⟩
  next => cases hentry

/-! ## A document that starts itself -/

namespace Recall

/-- A schema that wants a member to be true. -/
def schema : Json := .obj [("properties", .obj [("go", .obj [("const", .bool true)])])]

/-- What the schema takes, or not. -/
def input (go : Bool) : Json := .obj [("go", .bool go)]

/-- Starts the root, with an input that is refused. -/
def process : ProcessRun := ⟨.workflow ⟨"root", some (input false)⟩, true⟩

/-- The process runs only where the input has the member. -/
def base : TaskBase := ⟨some "${ input.go }", none, none, none, none, []⟩

/-- A document that starts itself once. -/
def workflow : Workflow :=
  ⟨⟨"root", none, none, none⟩, some (some schema), none, [⟨"again", base, .run process⟩]⟩

/-- What it is compiled to. -/
def graph : Graph where
  name := "root"
  children := [⟨"again-0", "again", base, false, .run process none⟩]
  schema := some schema

def setting : Setting :=
  ⟨⟨"root", [graph], .standard⟩, .ofSettings .standard, CallSettings.standard.timeout⟩

set_option maxRecDepth 8000 in
theorem compiled : Program.compile Kinds.standard .standard workflow = .ok setting.program := rfl

/-- The host of a run with an input that is taken, after some steps. -/
def host (steps : Nat) : Host Host.RunResult :=
  (Host.start setting (.bare 0) .passThrough
    (Host.programRun setting.program (input true) []).run).run steps

theorem reaches_host (steps : Nat) :
    Host.Reaches setting (.bare 0) (input true) [] (host steps) :=
  (Host.Reaches.start .passThrough [] none "root" none).run steps

/-- It runs to its end, although the schema refuses what it starts itself with. -/
theorem unchecked :
    (host 8).entries = [(some schema, input false, none)] ∧
      ¬ Schema.Satisfies schema (input false) ∧
      (host 30).result.map (·.toOption.map fun o => (o.output, o.scope.data)) =
        some (some (.null, [("again", .null)])) := by
  decide +kernel

end Recall

namespace Scope

/-- Inputs are checked. In every program, a task whose input does not satisfy the schema that it
declares is refused and its body does not start, unless it is only replayed; the entry point is
refused in the same way before anything else is done. On every host that a run of the program comes
to, a graph that is entered afresh has an input that satisfies the schema that it declares, or it was
started by its name with this input. No handler asks for a restart by itself. -/
theorem inputs_are_checked (e : Setting) :
    Admission e ∧
      ∀ around : Surroundings, around.Within (fun f => f.asksRestart = false) →
        ∀ (input : Json) (env : Members) (host : Host Host.RunResult),
          Host.Reaches e around input env host → host.Admitted e.program :=
  ⟨admission e, fun _ hwithin _ _ _ hhost => Host.admitted_of_reaches hwithin hhost⟩

/-- A document that starts itself. -/
theorem inputs_are_checked_of_recall :
    (Surroundings.bare 0).Within (fun f => f.asksRestart = false) ∧
      Host.Reaches Recall.setting (.bare 0) (Recall.input true) [] (Recall.host 8) ∧
      (Recall.host 8).Admitted Recall.setting.program :=
  ⟨Surroundings.within_bare .., Recall.reaches_host 8,
    (inputs_are_checked Recall.setting).2 (.bare 0) (Surroundings.within_bare ..) _ [] _
      (Recall.reaches_host 8)⟩

/-- A document that starts itself by its name is entered afresh with an input that its schema refuses,
and ends as if it were a right one. -/
theorem named_graph_is_not_checked :
    Program.compile Kinds.standard .standard Recall.workflow = .ok Recall.setting.program ∧
      Host.Reaches Recall.setting (.bare 0) (Recall.input true) [] (Recall.host 8) ∧
      (∃ c g s, (Recall.host 8).Asks (.enter c g (Recall.input false) s) ∧ s.marker = none ∧
        ¬ Recall.setting.program.options.Admits g.schema (Recall.input false)) ∧
      (Recall.host 30).result.map (·.toOption.map fun o => (o.output, o.scope.data)) =
        some (some (.null, [("again", .null)])) := by
  obtain ⟨hentries, hviolates, hresult⟩ := Recall.unchecked
  obtain ⟨c, g, s, hasks, hschema, hmarker⟩ :=
    Host.asks_of_mem_entries (hentries ▸ List.mem_singleton_self _)
  exact ⟨Recall.compiled, Recall.reaches_host 8,
    ⟨c, g, s, hasks, hmarker, fun h => hviolates (h _ hschema rfl)⟩, hresult⟩

end Scope

end TaskGraph
