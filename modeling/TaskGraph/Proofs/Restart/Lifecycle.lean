import TaskGraph.Proofs.Host.Reachable

/-!
# The life cycle of markers

A marker is set when a run is left, at the one child of the run's own graph that it names; it stands in
the close of the run's history and at the start of the next one; and it is cleared at that child, before
the next run can end in a value. No request for a restart gets past the runs of the graph that it is
for: neither to the outcome of a program, nor to a task that runs a graph, nor to a catch list.

`Restart.Marking` says so of the graphs of a program, whatever they are answered, and `Host.Lifecycle`
of the hosts that a run of the program comes to. `Restart.marker_life_cycle` is that both hold of
compiled programs, as long as no handler asks for a restart by itself; if one does, a marker may be left
over (`Restart.forged_marker_is_returned`).
-/

set_option autoImplicit false

namespace TaskGraph

open Running (Any Result)

/-! ## Compiled programs -/

theorem Graph.Compiled.orderly {kinds : Kinds} (hkinds : kinds.BuiltIn) {starts : String → Prop}
    {runs : WorkflowProcess → Prop} {g : Graph} (hg : g.Compiled kinds)
    (hnames : ∀ child ∈ g.children, ∀ inner : Step, inner.Inside child.action →
      ∀ name, inner.Names name → starts name)
    (hprocesses : ∀ child ∈ g.children, ∀ inner : Step, inner.Inside child.action →
      ∀ process, inner.Runs process → runs process) : g.Orderly starts runs where
  nodup := hg.1.nodup_ids
  replayable := hg.1.quiet hkinds
  lists child hchild inner hinner := (hg.2 child hchild inner hinner).quiet hkinds
  names := hnames
  processes := hprocesses

/-- A compiled program on which nothing but its own runs asks for a restart. -/
def Terms.leaving {kinds : Kinds} (hkinds : kinds.BuiltIn) {options : ProgramOptions} {w : Workflow}
    {p : Program} (h : Program.compile kinds options w = .ok p) : Terms p where
  faults f := f.asksRestart = false
  starts _ := True
  runs _ := True
  ordinary _ := Fault.asksRestart_of_ordinary
  leaves _ := id
  found _ _ := .inr rfl
  named _ _ _ _ _ _ := trivial
  graphs g hg := (Program.compiled_of_compile h g (Program.mem_of_graph hg).1).orderly hkinds
    (fun _ _ _ _ _ _ => trivial) fun _ _ _ _ _ _ => trivial

/-! ## Graphs -/

/-- Whether observers are told of the start of a graph in a scope, or in that of a fault that asks for
no restart. -/
def Request.Catches (s : Scope) (binding : String) : Request → Prop
  | .tell (.enter _ _ s') => s' = s.child ∨
    ∃ f : Fault, f.asksRestart = false ∧ s' = Sequence.handlerScope s binding f
  | _ => True

/-- A catch list is run only on a fault that asks for no restart, and passes none on. -/
theorem Sequence.heeds_attempt (e : Setting) (c : Context) (input : Json) (s : Scope)
    (body handler : Option String) (binding : String) (promise : Dialogue.Promise) :
    (attempt e c input s body handler binding).Heeds (Request.Catches s binding) promise
      (fun f => f.asksRestart = false) Any := by
  have hallowed (q : Request) (hq : ∀ n, q ≠ .tell n) : q.Catches s binding := by
    cases q with
    | tell n => exact absurd rfl (hq n)
    | _ => trivial
  -- a graph that is run by its name passes on no request for a restart
  have hrun (name : String) {s' : Scope}
      (hs' : Request.Catches s binding (.tell (.enter name input s'))) :
      (Restart.runGraph e.program c name input s').Heeds (Request.Catches s binding) promise
        (fun f => f.asksRestart = false) Any :=
    Congruence.heeds_runGraph (fun _ => id) hallowed hs' fun _ => trivial
  unfold attempt
  cases body with
  | none => exact .pure trivial
  | some body =>
    refine .bind (.outcome (hrun body (.inl rfl))) fun x hx => ?_
    cases x with
    | ok v => exact .pure trivial
    | error f =>
      dsimp only
      split
      · exact .pure trivial
      · split
        · exact .throw hx
        · cases handler with
          | none => exact .pure trivial
          | some handler =>
            exact .bind (hrun handler (.inr ⟨f, hx, rfl⟩)) fun v _ => .pure trivial

namespace Restart

/-- What becomes of markers in the graphs of a program, on some terms. -/
structure Marking (e : Setting) (T : Terms e.program) : Prop where
  /-- The children of a graph are told apart by their identifiers, whatever their names are. -/
  identified : ∀ g ∈ e.program.graphs,
    g.children.map Child.id = ((g.children.map Child.name).mapIdx fun ordinal name =>
      Naming.childId name ordinal) ∧ (g.children.map Child.id).Nodup
  /-- A graph that is on its course ends without a marker, or asks for a restart of itself at one of its
  children behind the first one. -/
  ends : ∀ g ∈ e.program.graphs, ∀ (c : Context) (input : Json) (s : Scope), s.OnCourse g →
    (Sequence.runGraph e c g input s).Fair T (fun f => T.faults f ∨ f.LeavesAt g)
      fun s' => s'.marker = none
  /-- Unless an evaluation fails before that, a graph goes on at the child of its marker, and without
  the marker. -/
  resumes : ∀ g ∈ e.program.graphs, ∀ (c : Context) (input : Json) (s : Scope)
    (before : Children) (child : Child Step) (rest : Children),
    g.children = before ++ child :: rest → s.marker = some child.id →
    (Sequence.runGraph e c g input s).run.Until (Request.Traceless (Step.block before).Queries c s)
      (Request.Within fun f => f.isCancelled = false) (fun x => ∃ f, x = .error f)
      (Sequence.run e c (some g.name) input true none (child :: rest)
        { s with marker := none }).run
  /-- A graph that is run by name ends in no request for a restart, however its runs end. -/
  returns : ∀ (c : Context) (name : String) (input : Json) (s : Scope) (promise : Dialogue.Promise),
    (runGraph e.program c name input s).Upholds promise (fun f => f.asksRestart = false) Any
  /-- No catch list is run on a request for a restart. -/
  catches : ∀ (c : Context) (input : Json) (s : Scope) (body handler : Option String)
    (binding : String) (promise : Dialogue.Promise),
    (Sequence.attempt e c input s body handler binding).Heeds (Request.Catches s binding) promise
      (fun f => f.asksRestart = false) Any

end Restart

/-! ## Hosts -/

/-- Whether observers are told of no marker and of no request for a restart. -/
def Notice.Settled : Notice → Prop
  | .enter _ _ s | .detach _ _ s => s.marker = none
  | .leave _ x => Fault.Leaves x
  | _ => True

namespace Host

/-- A request on a host that is on its course, apart from what is written to histories. -/
theorem Course.fair_of_asks {e : Setting} {T : Terms e.program} {l : Ledger} {h : Host RunResult}
    (hc : Course T l h) {q : Request} (hne : ∀ c ev, q ≠ .record c ev) (hq : h.Asks q) :
    q.Fair T := by
  obtain ⟨s, hs, next, hphase⟩ := hq
  have hduty := hc.strands s hs
  rw [hphase] at hduty
  by_cases hid : s.id = mainStrand
  · exact Ledger.fair_of_allows hne ((duty_main hid).1 hduty).2.2.1
  · exact ((duty_other hid).1 hduty).1

/-- What a host shows of markers. -/
structure Lifecycle (p : Program) (h : Host RunResult) : Prop where
  /-- Every graph is entered on its course. -/
  entered : ∀ c g input s, h.Asks (.enter c g input s) → p.graph g.name = .ok g ∧ s.OnCourse g
  told : ∀ n ∈ h.journal, n.2.Settled
  failed : ∀ f, h.result = some (.error f) → f.asksRestart = false
  /-- The histories tell a chronicle; at its end, if there is a value, the last run has completed with it
  and without a marker. -/
  chronicle : ∃ chapters, Chronicle p chapters ∧ h.Accounts chapters ∧
    ∀ o, h.result = some (.ok o) → o.scope.marker = none ∧ chapters.length = o.restarts + 1 ∧
      ∃ ch earlier, chapters = ch :: earlier ∧ ch.run = o.run ∧
        ch.close = some (.runCompleted o.output 0)

end Host

namespace Restart

variable {kinds : Kinds} (hkinds : kinds.BuiltIn) {options : ProgramOptions} {w : Workflow}
  {e : Setting}
include hkinds

theorem marking_of_compile (h : Program.compile kinds options w = .ok e.program) :
    Marking e (Terms.leaving hkinds h) where
  identified g hg := by
    have hcompiled := (Program.compiled_of_compile h g hg).1
    exact ⟨hcompiled.ids, hcompiled.nodup_ids⟩
  ends g hg c input s hs :=
    (Terms.leaving hkinds h).fair_graph ((Program.closed_of_compile h).unique g hg) input hs
  resumes g hg c input s before child rest hsplit hmarker := by
    obtain ⟨hlist, hnested⟩ := Program.compiled_of_compile h g hg
    have hmem : ∀ k ∈ before, k ∈ g.children := fun k hk => by simp [hsplit, hk]
    have hids : ∀ k ∈ before, k.id ≠ child.id := fun k hk =>
      Children.apart_of_split hlist.nodup_ids hsplit k (List.mem_append_left _ hk)
    -- up to the child of the marker the run replays; if it ends before, an evaluation was answered
    -- with a cancellation, which is ruled out here
    have huntil := Sequence.until_rest e c (fun f => f.isCancelled = false) hmarker g.name input true
      before (child :: rest) hids (fun k hk => hlist.quiet hkinds k (hmem k hk))
      (fun k hk inner hinner => (hnested k (hmem k hk) inner hinner).quiet hkinds)
      fun _ hk _ hq => hq.block hk
    rw [Sequence.run_at_marker g.name input true child rest hmarker] at huntil
    unfold Sequence.runGraph
    rw [hsplit]
    refine huntil.mono fun x hx => ?_
    cases x with
    | error f => exact ⟨f, rfl⟩
    | ok s' =>
      obtain ⟨-, f, hf, hcancelled⟩ := hx
      rw [hf] at hcancelled
      cases hcancelled
  returns c name input s promise := Congruence.upholds_runGraph (fun _ => id) name input s
  catches := Sequence.heeds_attempt e

theorem lifecycle_of_reaches (h : Program.compile kinds options w = .ok e.program)
    {around : Surroundings} (hwithin : around.Within fun f => f.asksRestart = false) {input : Json}
    {env : Members} {host : Host Host.RunResult} (hhost : Host.Reaches e around input env host) :
    host.Lifecycle e.program := by
  obtain ⟨g, hroot, -⟩ := (Program.closed_of_compile h).root
  obtain ⟨l, hc⟩ := Host.course_of_reaches (Terms.leaving hkinds h) ⟨g, hroot⟩ hwithin hhost
  refine ⟨fun c g input s hasks => hc.fair_of_asks (q := .enter c g input s) nofun hasks,
    fun n hn => ?_, fun f hf => hc.result _ hf, l.chapters, hc.chronicle, hc.accounts,
    fun o ho => hc.result _ ho⟩
  have hfair := hc.journal n hn
  obtain ⟨t, n⟩ := n
  cases n with
  | enter | detach => exact hfair.2
  | leave graph x =>
    cases x with
    | ok v => exact Fault.leaves_ok v
    | error f => exact Fault.leaves_error hfair
  | _ => trivial

/-- The life cycle of markers: a run of a graph of a compiled program that is left asks for a restart
of this graph, with a marker that names exactly one of its children, behind the first one. The history
of a program's run that is followed by a restart has this as its only close, and the next history starts
with the same graph and marker. A restarted run goes on at the child of its marker, without it, so that
no run ends in a value with a marker. And no request for a restart comes out of the runs of a graph, nor
to a catch list. The program is of built-in kinds, and no handler answers with a request for a restart
by itself; whether a restart is due is decided anew at each moment. -/
theorem marker_life_cycle (h : Program.compile kinds options w = .ok e.program) :
    Marking e (Terms.leaving hkinds h) ∧
      ∀ around : Surroundings, around.Within (fun f => f.asksRestart = false) →
        ∀ (input : Json) (env : Members) (host : Host Host.RunResult),
          Host.Reaches e around input env host → host.Lifecycle e.program :=
  ⟨marking_of_compile hkinds h, fun _ hwithin _ _ _ hhost =>
    lifecycle_of_reaches hkinds h hwithin hhost⟩

omit hkinds

/-- Two calls with a restart in between. -/
theorem marker_life_cycle_of_pair :
    Kinds.standard.BuiltIn ∧
      Program.compile Kinds.standard .standard Pair.workflow = .ok Pair.setting.program ∧
      Surroundings.ready.Within (fun f => f.asksRestart = false) ∧
      Host.Reaches Pair.setting .ready .null [] Pair.restarted ∧
      Pair.restarted.Lifecycle Pair.setting.program ∧
      Pair.restarted.result.map (·.toOption.map Outcome.restarts) = some (some 1) :=
  ⟨Kinds.builtIn_standard, Pair.compiled, Surroundings.within_ready _, Pair.reaches_restarted,
    (marker_life_cycle Kinds.builtIn_standard Pair.compiled).2 .ready
      (Surroundings.within_ready _) .null [] _ Pair.reaches_restarted, by decide +kernel⟩

/-- If a handler answers with a request for a restart at a child that there is not, the last run passes
over every child, and the marker is there at the end. -/
theorem forged_marker_is_returned :
    Program.compile Kinds.standard .standard Pair.workflow = .ok Pair.setting.program ∧
      Host.Reaches Pair.setting (.forging "root" { Scope.start .null [] with marker := some "gone" })
        .null [] (Pair.forged "root" { Scope.start .null [] with marker := some "gone" }) ∧
      (Pair.forged "root" { Scope.start .null [] with marker := some "gone" }).result.map
        (·.toOption.map (·.scope.marker)) = some (some (some "gone")) :=
  ⟨Pair.compiled, Pair.reaches_forged .., by decide +kernel⟩

end Restart

end TaskGraph
