import TaskGraph.Proofs.Accord

/-!
# Relations that hold wherever a task is

A `Congruence` is a relation between computations that looks neither at contexts nor at scopes, but for
the marker, which a step keeps. It is an accord (`Congruence.accord`), so it respects every task, in any
two contexts and in any scope: `Congruence.related_step`, `Congruence.related_turn`.

With it a task is shown to end in no other faults than those that requests are answered with
(`Congruence.upholds_step`), and a graph that is run by name to ask for no restart
(`Congruence.heeds_runGraph`).
-/

set_option autoImplicit false

namespace TaskGraph

open Running (Result Any)

/-- A relation between computations of a program that respects what tasks are made of. -/
structure Congruence (p : Program) where
  /-- Relates two computations that end alike, in a value with a property or in a fault. -/
  Related : {α : Type} → (α → Prop) → Running α → Running α → Prop
  /-- The faults that computations may end in. -/
  Faults : Fault → Prop
  /-- The values that a structure may evaluate to. -/
  Reads : Json → Json → Prop
  /-- The names of the graphs whose runs are related. -/
  Starts : String → Prop
  /-- The processes that run such graphs. -/
  Runs : WorkflowProcess → Prop
  /-- Whether graphs may be run side by side or without being waited for. -/
  Forks : Prop
  fault : ∀ f, f.ordinary = true → f.abandons = false → Faults f
  ofValue : ∀ {α : Type} {P : α → Prop} {a : α}, P a → Related P (pure a) (pure a)
  ofFault : ∀ {α : Type} {P : α → Prop} {f : Fault}, Faults f →
    Related P (throw f) (throw f)
  bind : ∀ {α β : Type} {P : α → Prop} {Q : β → Prop} {r r' : Running α} {k k' : α → Running β},
    Related P r r' → (∀ a, P a → Related Q (k a) (k' a)) → Related Q (r >>= k) (r' >>= k')
  mono : ∀ {α : Type} {P P' : α → Prop} {r r' : Running α},
    Related P r r' → (∀ a, P a → P' a) → Related P' r r'
  outcome : ∀ {α : Type} {P : α → Prop} {r r' : Running α},
    Related P r r' → Related (Result Faults P) r.outcome r'.outcome
  evaluate : ∀ text s locals,
    Related Any (Running.evaluate text s locals) (Running.evaluate text s locals)
  traverse : ∀ v s locals,
    Related (Reads v) (Running.traverse v s locals) (Running.traverse v s locals)
  check : ∀ guard s locals,
    Related Any (Running.check guard s locals) (Running.check guard s locals)
  cancelled : ∀ c c', Related Any (Running.cancelled c) (Running.cancelled c')
  record : ∀ c c' event, event.isRunEvent = false →
    Related Any (Running.record c event) (Running.record c' event)
  tell : ∀ notice, notice.ofGraph = false → Related Any (Running.tell notice) (Running.tell notice)
  publish : ∀ m, Related Any (Running.ask (.publish m)) (Running.ask (.publish m))
  respond : ∀ id v,
    Related Any (Running.ask (.respond id v)) (Running.ask (.respond id v))
  offer : ∀ r, Related (fun x => ∀ v, x = some v → Result Faults Any v)
    (Running.ask (.offer r)) (Running.ask (.offer r))
  dispatch : ∀ c c' r timeout,
    Related Any (Running.dispatch c r timeout) (Running.dispatch c' r timeout)
  beat : ∀ c c' interval,
    Related Any (Running.ask (.beat c interval)) (Running.ask (.beat c' interval))
  still : ∀ n, Related Any (Running.ask (.still n)) (Running.ask (.still n))
  pause : ∀ c c' d, Related Any (Running.pause c d) (Running.pause c' d)
  listen : ∀ c c' mode signals,
    Related Any (Running.listen c mode signals) (Running.listen c' mode signals)
  /-- The graph that a process runs once its name is read. -/
  named : ∀ (process q : WorkflowProcess) v, Runs process → Reads process.toJson v →
    WorkflowProcess.decode v = .ok q → Starts q.name
  graph : ∀ c c' name input (s : Scope), Starts name → s.marker = none →
    Related Any (Restart.runGraph p c name input s) (Restart.runGraph p c' name input s)
  detach : Forks → ∀ c c' name input (s : Scope), Starts name → s.marker = none → Related Any
    (Restart.startGraph p c name input s) (Restart.startGraph p c' name input s)
  fork : Forks → ∀ c c' graphs input (s : Scope), (∀ name ∈ graphs, Starts name) →
    s.marker = none → Related Any
    (Running.ask (.fork c graphs input s)) (Running.ask (.fork c' graphs input s))
  reply : Forks → Related (fun x => Result Faults Any x.2)
    (Running.ask .reply) (Running.ask .reply)
  stop : Forks → ∀ branches,
    Related Any (Running.ask (.stop branches)) (Running.ask (.stop branches))

/-- The scope in which a graph starts has no marker, and an input is refused in an ordinary way. -/
theorem Graph.result_initialScope {E : Fault → Prop} (hE : ∀ f : Fault, f.ordinary = true → E f)
    (options : ProgramOptions) (g : Graph) (input : Json) (env : Members) :
    Result E (fun s : Scope => s.marker = none) (g.initialScope options input env) := by
  unfold Graph.initialScope
  split
  · split
    · next schema _ _ =>
      cases hvalid : Schema.validate g.name schema input with
      | ok _ => rfl
      | error f => exact hE f (Schema.own_validate g.name schema input f hvalid).1
    · rfl
  · rfl

namespace Congruence

variable {p : Program} {α β : Type}

/-- What a congruence is put together with, in any two contexts. -/
def rules (R : Congruence p) : Accord.Rules where
  Related := R.Related
  Faults := R.Faults
  Contexts _ _ := True
  fault := R.fault
  ofValue := R.ofValue
  ofFault := R.ofFault
  bind := R.bind
  mono := R.mono
  outcome := R.outcome

/-- A congruence does not look at contexts, and of scopes at the marker alone. -/
def accord {e : Setting} (R : Congruence e.program) : Accord e :=
  { R.rules with
    Reads := R.Reads
    Starts := R.Starts
    Runs := R.Runs
    Forks := R.Forks
    Inputs := fun _ => True
    Scopes := fun _ => True
    Like := fun s s' => s'.marker = s.marker
    Enters := fun _ _ => True
    evaluate := fun text s locals _ => R.evaluate text s locals
    traverse := fun v s locals _ => R.traverse v s locals
    check := fun guard s locals _ => R.check guard s locals
    cancelled := fun c c' _ => R.cancelled c c'
    record := fun c c' event _ hevent _ => R.record c c' event hevent
    tell := fun notice h _ => R.tell notice h
    publish := R.publish
    respond := R.respond
    request := fun c c' r _ => R.rules.related_request (R.pause c c') (R.record c c') (R.dispatch c c')
      (fun _ => R.tell _ rfl) R.offer r
    beat := fun c c' interval _ => R.beat c c' interval
    still := R.still
    pause := fun c c' d _ => R.pause c c' d
    listen := fun c c' mode signals _ => R.listen c c' mode signals
    named := R.named
    like := fun h => h.marker
    like_trans := fun h h' => h'.trans h
    keeps := fun _ _ => trivial
    told := fun _ _ _ => trivial
    enters := fun _ _ _ => trivial
    graph := fun c c' name input s _ h _ => R.graph c c' name input s h
    detach := fun hforks c c' name input s _ h _ => R.detach hforks c c' name input s h
    fork := fun hforks c c' task compete _ input _ _ h _ _ =>
      R.rules.related_fork (R.reply hforks) (R.stop hforks) (R.cancelled c c') task compete
        (R.fork hforks c c' _ input _ (List.forall_mem_map.2 h) rfl) }

/-! ## Tasks -/

/-- Whether the value of a task leaves the marker of a scope as it was. -/
def Keeps (s : Scope) (r : Option Json × Scope) : Prop := r.2.marker = s.marker

/-- Whether a turn leaves the marker of a scope as it was and goes on to a target, if it goes on. -/
def KeepsTurn (s : Scope) (target : Option String) : Sequence.Turn → Prop
  | .stop s' => s'.marker = s.marker
  | .next pending s' => pending = target ∧ s'.marker = s.marker

/-- Whether a turn leaves the marker of a scope as it was and goes on to no other target than that
of a flow directive. -/
def Turns (s : Scope) (next : Option Flow) : Sequence.Turn → Prop
  | .stop s' => s'.marker = s.marker
  | .next pending s' =>
    (pending = none ∨ pending = Sequence.pendingTarget next) ∧ s'.marker = s.marker

variable {e : Setting} (R : Congruence e.program) {c c' : Context}

/-- Whether all that a step may start, by itself or in its nested lists, is under the relation. -/
structure Permits (step : Step) : Prop where
  names : ∀ inner : Step, inner.Inside step → ∀ name, inner.Names name → R.Starts name
  runs : ∀ inner : Step, inner.Inside step → ∀ process, inner.Runs process → R.Runs process
  forks : ∀ inner : Step, inner.Inside step → inner.Spawns → R.Forks

theorem related_rerun {s : Scope} {body body' : Sequence.Doing}
    (h : R.Related (Keeps s) (body s) (body' s)) :
    R.Related (KeepsTurn s none) (Sequence.rerun c body s) (Sequence.rerun c' body' s) := by
  refine R.mono (R.accord.related_rerun trivial h) fun t ht => ?_
  cases t <;> exact ht

theorem related_enact (name : String) (base : TaskBase) {s : Scope} {body body' : Sequence.Doing}
    (h : R.Related (Keeps s) (body s) (body' s)) :
    R.Related (KeepsTurn s (Sequence.pendingTarget base.next))
      (Sequence.enact e c name base body s) (Sequence.enact e c' name base body' s) := by
  refine R.mono (R.accord.related_enact trivial name base trivial h)
    fun t ht => ?_
  cases t <;> exact ht

theorem related_turn (r : Resumption) (id name : String) (base : TaskBase) (replayed : Bool)
    {s : Scope} {body body' : Sequence.Doing} (hbody : R.Related (Keeps s) (body s) (body' s)) :
    R.Related (Turns s base.next) (Sequence.turn e c r ⟨id, name, base, replayed, body⟩ s)
      (Sequence.turn e c' r ⟨id, name, base, replayed, body'⟩ s) := by
  refine R.mono (R.accord.related_turn trivial r id name base replayed trivial
    hbody) fun t ht => ?_
  cases t <;> exact ht

/-- A step runs alike in two contexts and keeps the marker of its scope. -/
theorem related_step (name : String) (base : TaskBase) (input : Json) (step : Step)
    (h : R.Permits step) (s : Scope) :
    R.Related (Keeps s) (Sequence.step e c name base input step s)
      (Sequence.step e c' name base input step s) :=
  R.accord.related_step trivial name base trivial step ⟨h.names, h.runs, h.forks⟩ s trivial

/-! ## Graphs that are run by name -/

theorem plain_graph (p : Program) (name : String) : Fault.Plain (p.graph name) := by
  unfold Program.graph
  split
  · exact Fault.plain_ok _
  · exact Fault.plain_error ⟨rfl, rfl⟩

theorem abandons_graph {p : Program} {name : String} {f : Fault} (h : p.graph name = .error f) :
    f.abandons = false := by
  unfold Program.graph at h
  split at h
  · cases h
  · cases h
    rfl

section

variable {E F : Fault → Prop} (hown : ∀ f, f.asksRestart = false → f.abandons = false → E f)
include hown

theorem result_graph (name : String) : Result E Any (p.graph name) := by
  cases hg : p.graph name with
  | ok g => trivial
  | error f => exact hown f (plain_graph p name f hg).1 (abandons_graph hg)

variable {allowed : Request → Prop} {promise : Dialogue.Promise}
  (hpasses : ∀ f, F f → f.asksRestart = false → E f)
  (henters : ∀ inner g input s x, promise (.enter inner g input s) x → Result F Any x)
  (hallowed : ∀ q, (∀ n, q ≠ .tell n) → allowed q)
include hpasses henters hallowed

/-- The runs of a graph, one after the other: however they end, every request for a restart is taken
up. -/
theorem heeds_loop (name : String) (left : Nat) (g : Graph) (input : Json) (s : Scope) :
    Running.Heeds allowed promise E Any (Restart.loop p c name left g input s) := by
  have henter (inner : Context) (g : Graph) (input : Json) (s : Scope) :
      Running.Heeds allowed promise F Any (Running.enter inner g input s) :=
    ⟨hallowed _ nofun, fun x hx => henters inner g input s x hx⟩
  induction left using Nat.strongRecOn generalizing g input s with | ind left ih =>
  rw [Restart.loop.eq_def]
  refine .bind (.ask (R := Any) (hallowed _ nofun) fun _ _ => trivial) fun inner _ => ?_
  refine .bind (.outcome (henter inner g input s)) fun x hx => ?_
  split
  · exact .pure trivial
  · cases left with
    | zero => exact .throw (hown _ rfl rfl)
    | succ left =>
      exact .bind (.ofExcept (result_graph hown _)) fun g _ => ih left left.lt_succ_self g _ _
  · next hf =>
    exact .throw (hpasses _ hx (Fault.asksRestart_eq_false fun _ _ _ h => hf _ _ _ (by rw [h])))

/-- A graph that is run by name tells of its beginning and its end, and ends in no request for a
restart, nor in another fault than its runs end in. -/
theorem heeds_graph {name : String} {input : Json} {s : Scope}
    (henter : allowed (.tell (.enter name input s)))
    (hleave : ∀ x, allowed (.tell (.leave name x))) :
    Running.Heeds allowed promise E Any (Restart.runGraph p c name input s) := by
  have houtput : Running.Heeds allowed promise E Any (Restart.graphOutput p c name input s) :=
    .bind (.ofExcept (result_graph hown name)) fun g _ =>
      .bind (.ask (R := Any) (hallowed _ nofun) fun _ _ => trivial) fun _ _ =>
        .bind (heeds_loop hown hpasses henters hallowed name _ g input s) fun _ _ =>
          .bind (.ask (R := Any) (hallowed _ nofun) fun _ _ => trivial) fun _ _ => .pure trivial
  exact .bind (.ask (R := Any) henter fun _ _ => trivial) fun _ _ =>
    .bind (.outcome houtput) fun x hx =>
      .bind (.ask (R := Any) (hleave x) fun _ _ => trivial) fun _ _ => .ofExcept hx

end

/-- A graph that is not waited for is looked for, and then started. -/
theorem upholds_startGraph {E : Fault → Prop}
    (hown : ∀ f, f.asksRestart = false → f.abandons = false → E f) {promise : Dialogue.Promise}
    (name : String) (input : Json) (s : Scope) :
    Running.Upholds promise E Any (Restart.startGraph p c name input s) :=
  .bind (.ask (R := Any) fun _ _ => trivial) fun _ _ =>
    .bind (.ofExcept (result_graph hown name)) fun _ _ =>
      .bind (.ask (R := Any) fun _ _ => trivial) fun _ _ => .ask fun _ _ => trivial

/-! ## Computations that ask for no restart -/

section Upholding

variable {E : Fault → Prop} (hE : ∀ f, f.asksRestart = false → E f)
include hE

variable {allowed : Request → Prop} {promise : Dialogue.Promise}

/-- Whatever its runs are answered, a graph that is run by name ends in no request for a restart. -/
theorem heeds_runGraph (hallowed : ∀ q, (∀ n, q ≠ .tell n) → allowed q) {name : String}
    {input : Json} {s : Scope} (henter : allowed (.tell (.enter name input s)))
    (hleave : ∀ x, allowed (.tell (.leave name x))) :
    Running.Heeds allowed promise E Any (Restart.runGraph p c name input s) :=
  heeds_graph (F := Any) (fun f hf _ => hE f hf) (fun f _ hf => hE f hf)
    (fun _ _ _ _ x _ => Running.result_any x) hallowed henter hleave

theorem upholds_runGraph (name : String) (input : Json) (s : Scope) :
    Running.Upholds promise E Any (Restart.runGraph p c name input s) :=
  Dialogue.Heeds.ensures
    (heeds_runGraph hE (fun _ _ => trivial) trivial fun _ => trivial)

/-- What holds of a computation by itself, if requests are answered with faults of a kind: it ends
in a value with a property or in a fault of that kind. -/
def upholding : Congruence p where
  Related P r _ := Running.Upholds (Request.Within E) E P r
  Faults := E
  Reads _ _ := True
  Starts _ := True
  Runs _ := True
  Forks := True
  fault f hf _ := hE f (Fault.asksRestart_of_ordinary hf)
  ofValue h := .pure h
  ofFault h := .throw h
  bind h hk := .bind h hk
  mono h imp := .mono h imp
  outcome h := .outcome h
  evaluate _ _ _ := fun _ hx => hx
  traverse _ _ _ := fun _ hx => hx
  check _ _ _ := fun _ hx => hx
  cancelled _ _ := .ask fun _ _ => trivial
  record _ _ _ _ := .ask fun _ _ => trivial
  tell _ _ := .ask fun _ _ => trivial
  publish _ := .ask fun _ _ => trivial
  respond _ _ := .ask fun _ _ => trivial
  offer _ := .ask fun _ hx => hx
  dispatch _ _ _ _ := fun _ hx => hx
  beat _ _ _ := .ask fun _ _ => trivial
  still _ := .ask fun _ _ => trivial
  pause _ _ _ := .ask fun _ _ => trivial
  listen _ _ _ _ := fun _ hx => hx
  named _ _ _ _ _ _ := trivial
  graph _ _ name input s _ _ := upholds_runGraph hE name input s
  detach _ _ _ name input s _ _ := upholds_startGraph (fun f hf _ => hE f hf) name input s
  fork _ _ _ _ _ _ _ _ := .ask fun _ _ => trivial
  reply _ := .ask fun _ hx => hx
  stop _ _ := .ask fun _ _ => trivial

/-- A step keeps the marker of its scope and ends in no other faults than those of the host and
those that ask for no restart. -/
theorem upholds_step (e : Setting) (c : Context) (name : String) (base : TaskBase) (input : Json)
    (step : Step) (s : Scope) :
    Running.Upholds (Request.Within E) E (Keeps s) (Sequence.step e c name base input step s) :=
  have h : (upholding hE).Related (Keeps s) (Sequence.step e c name base input step s)
      (Sequence.step e c name base input step s) :=
    related_step _ name base input step ⟨fun _ _ _ _ => trivial, fun _ _ _ _ => trivial,
      fun _ _ _ => trivial⟩ s
  h

theorem upholds_enact (e : Setting) (c : Context) (name : String) (base : TaskBase) {s : Scope}
    {body : Sequence.Doing} (h : Running.Upholds (Request.Within E) E (Keeps s) (body s)) :
    Running.Upholds (Request.Within E) E (KeepsTurn s (Sequence.pendingTarget base.next))
      (Sequence.enact e c name base body s) :=
  have h : (upholding hE).Related (KeepsTurn s (Sequence.pendingTarget base.next))
      (Sequence.enact e c name base body s) (Sequence.enact e c name base body s) :=
    related_enact _ name base h
  h

theorem upholds_rerun (e : Setting) (c : Context) {s : Scope} {body : Sequence.Doing}
    (h : Running.Upholds (Request.Within E) E (Keeps s) (body s)) :
    Running.Upholds (Request.Within E) E (KeepsTurn s none) (Sequence.rerun c body s) :=
  have h : (upholding (p := e.program) hE).Related (KeepsTurn s none) (Sequence.rerun c body s)
      (Sequence.rerun c body s) :=
    related_rerun _ h
  h

end Upholding

end Congruence

end TaskGraph
