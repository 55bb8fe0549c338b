import TaskGraph.Proofs.Restart.Lifecycle
import TaskGraph.Proofs.Scope.Entry
import TaskGraph.Proofs.Sequence.Isolation

/-!
# Inputs and environments are constant

The input of a run is there twice, as an argument and in its scope. `Sequence.Constant` says of the runs
of a graph that the two are the same in whatever task of the graph is executed, nested lists included,
that neither they nor the environment change until the run ends, and that a restart takes them over.
`Host.Constant` says of a host that every graph is entered with one input and the environment of the
program, and, restarted or not, with the input that it was started with.

`Scope.input_and_env_are_constant` is that both hold of every program, as long as no handler asks for a
restart by itself; if one does, the last run may have an input and an environment of its own
(`Scope.forged_scope_is_returned`).
-/

set_option autoImplicit false

namespace TaskGraph

open Running (Any Result)

/-! ## Graphs -/

namespace Sequence

/-- A run of a graph, however the graphs that it runs by name end, comes to a scope with the input and
the environment of its own, or asks for a restart of itself in one. -/
theorem upholds_runGraph (e : Setting) (c : Context) (g : Graph) (input : Json) (s : Scope) :
    (runGraph e c g input s).Upholds Request.Honest
      (fun f => f.asksRestart = false ∨ f.Resumes g.name input s) s.Remains := by
  let E : Fault → Prop := fun f => f.asksRestart = false ∨ f.Resumes g.name input s
  -- the accord that holds steps to faults of the host, with input and environment added to what
  -- they keep
  let R : Accord e :=
    { (Congruence.upholding (E := E) fun _ => .inl).accord with
      Like := Scope.Remains
      like := fun h => ⟨h.input, h.env⟩
      like_trans := .trans
      keeps := fun _ _ => trivial }
  -- the list itself may ask for a restart, and then does so in a scope with the same input
  have hleaves : R.Leaves s.Remains c c g.name input := by
    refine ⟨fun _ => .ask fun _ _ => trivial, fun id s' hs x _ => ?_, fun s' hs => ⟨hs.input, hs.env⟩⟩
    cases x with
    | ok _ => exact .inr ⟨rfl, rfl, ⟨hs.input, hs.env⟩, rfl⟩
    | error f => exact .inl rfl
  have hcontexts : R.Contexts c c := trivial
  have hrun : (runGraph e c g input s).Upholds (Request.Within E) E s.Remains := by
    refine R.related_list hcontexts trivial (fun _ _ => trivial)
      (fun _ _ => .trans) (some g.name) ?_ true none g.children
      (fun _ _ => ⟨fun _ _ _ _ => trivial, fun _ _ _ _ => trivial, fun _ _ _ => trivial⟩) s (.refl s)
    rintro name ⟨rfl⟩
    exact hleaves
  exact Dialogue.Ensures.weaken hrun fun _ _ => Request.Within.mono fun _ => .inl

/-- What becomes of inputs and environments in the graphs of a program. -/
structure Constant (e : Setting) : Prop where
  /-- A run of a graph, without the notes of what it does. -/
  traced : ∀ (c : Context) (g : Graph) (s : Scope),
    (trace e c (some g.name) s.input true none g.children s).forget = runGraph e c g s.input s
  /-- Every body of the graph, those of nested lists included, is given the input of the scope that it
  is executed in, which is that of the scope that the run began in, as is the environment; and so is
  the scope that the run ends in. -/
  executed : ∀ (c : Context) (g : Graph) (s : Scope),
    (trace e c (some g.name) s.input true none g.children s).Ensures (fun _ _ => True) fun x =>
      (∀ r child input s', .starts r child input s' ∈ x.1 → input = s'.input ∧ s.Remains s') ∧
      ∀ s', x.2 = .ok s' → s.Remains s'
  /-- A run that is left asks for a restart of its graph with the same input, in a scope with the same
  input and environment. -/
  restarted : ∀ (c : Context) (g : Graph) (s : Scope), (runGraph e c g s.input s).Upholds
    Request.Honest (fun f => f.asksRestart = false ∨ f.Resumes g.name s.input s) s.Remains

theorem constant (e : Setting) : Constant e where
  traced c g s := forget_trace e c (some g.name) s.input true none g.children s
  executed c g s := by
    have htrace := ensures_trace_any e c (some g.name) s.input true none g.children s
    refine htrace.mono fun x hx => ⟨?_, fun s' hs' => ?_⟩
    · intro r child input s' hmem
      obtain ⟨rfl, hinput, henv, -⟩ := hx.proper _ hmem
      exact ⟨hinput.symm, hinput, henv⟩
    · have hexplains := hx.explains s' hs'
      exact ⟨hexplains.input, hexplains.env⟩
  restarted c g s := upholds_runGraph e c g s.input s

end Sequence

/-! ## Hosts -/

/-- Whether graphs are started with the input of their scope, and all is evaluated in an environment. -/
def Request.Constant (env : Members) : Request → Prop
  | .evaluate _ s _ | .traverse _ s _ | .check _ s _ => s.env = env
  | .enter _ _ input s | .detach _ _ input s | .fork _ _ input s => s.input = input ∧ s.env = env
  | _ => True

/-- Whether observers are told of the start of graphs with the input of their scope and an
environment. -/
def Notice.Constant (env : Members) : Notice → Prop
  | .enter _ input s | .detach _ input s => s.input = input ∧ s.env = env
  | _ => True

/-- What a host shows of inputs and environments in a run of a program. -/
structure Host.Constant (p : Program) (input : Json) (env : Members) (h : Host Host.RunResult) :
    Prop where
  asked : ∀ q, h.Asks q → q.Constant env
  /-- However often it is restarted, the entry point is entered with the input of the program, and any
  other graph with an input that observers were told it was started with. -/
  entered : ∀ c g input' s, h.Asks (.enter c g input' s) → (g.name = p.root ∧ input' = input) ∨
    ∃ t s₀, s₀.input = input' ∧
      ((t, .enter g.name input' s₀) ∈ h.journal ∨ (t, .detach g.name input' s₀) ∈ h.journal)
  told : ∀ n ∈ h.journal, n.2.Constant env
  /-- The scope that the program comes to. -/
  result : ∀ o, h.result = some (.ok o) → o.scope.input = input ∧ o.scope.env = env

theorem Host.constant_of_reaches {e : Setting} {around : Surroundings}
    (hwithin : around.Within fun f => f.asksRestart = false) {input : Json} {env : Members}
    {h : Host Host.RunResult} (hh : Host.Reaches e around input env h) :
    h.Constant e.program input env := by
  obtain ⟨k, hb⟩ := Host.bound_entry hwithin hh
  refine ⟨fun q hq => ?_, fun c g input' s hq => ?_, fun n hn => ?_, fun o ho => hb.result _ ho⟩
  · obtain ⟨l, _, -, hallows⟩ := hb.allows hq
    cases q with
    | evaluate | traverse | check | fork => exact hallows
    | enter => exact ⟨hallows.2.held, hallows.2.env⟩
    | detach => exact hallows.2.1
    | _ => trivial
  · exact (hb.origin hq).2.imp_left fun ⟨hroot, hinput, _⟩ => ⟨hroot, hinput⟩
  · have htells := hb.journal n hn
    obtain ⟨t, n⟩ := n
    cases n with
    | enter | detach => exact htells
    | _ => trivial

namespace Scope

/-- Inputs and environments are constant. In every program, each task that is executed in a run of a
graph is given the input that its scope holds, and this is the input that the graph was entered with,
until the run ends and beyond, if it asks for a restart; the environment is the same throughout. On
every host that a run of the program comes to, each graph is entered with an input that its scope holds
and with the environment of the program: run, forked, detached, or restarted, as often as it may be, it
is entered with what it was started with. No handler answers with a request for a restart by itself;
whether a restart is due is decided anew at each moment. -/
theorem input_and_env_are_constant (e : Setting) :
    Sequence.Constant e ∧
      ∀ around : Surroundings, around.Within (fun f => f.asksRestart = false) →
        ∀ (input : Json) (env : Members) (host : Host Host.RunResult),
          Host.Reaches e around input env host → host.Constant e.program input env :=
  ⟨Sequence.constant e, fun _ hwithin _ _ _ hhost => Host.constant_of_reaches hwithin hhost⟩

/-- Two calls with a restart in between. -/
theorem input_and_env_are_constant_of_pair :
    Surroundings.ready.Within (fun f => f.asksRestart = false) ∧
      Host.Reaches Pair.setting .ready .null [] Pair.restarted ∧
      Pair.restarted.Constant Pair.setting.program .null [] ∧
      Pair.restarted.result.map (·.toOption.map Restart.Outcome.restarts) = some (some 1) :=
  ⟨Surroundings.within_ready _, Pair.reaches_restarted,
    (input_and_env_are_constant Pair.setting).2 .ready (Surroundings.within_ready _) .null [] _
      Pair.reaches_restarted, by decide +kernel⟩

/-- If a handler answers with a request for a restart in a scope of its own, the program comes to a
scope with this input and this environment. -/
theorem forged_scope_is_returned :
    Program.compile Kinds.standard .standard Pair.workflow = .ok Pair.setting.program ∧
      Host.Reaches Pair.setting (.forging "root" (.start (.int 1) [("A", .null)])) .null []
        (Pair.forged "root" (.start (.int 1) [("A", .null)])) ∧
      (Pair.forged "root" (.start (.int 1) [("A", .null)])).result.map
        (·.toOption.map fun o => (o.scope.input, o.scope.env)) =
          some (some (.int 1, [("A", .null)])) :=
  ⟨Pair.compiled, Pair.reaches_forged .., by decide +kernel⟩

end Scope

end TaskGraph
