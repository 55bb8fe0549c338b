import TaskGraph.Host.Run
import TaskGraph.Proofs.Host.Closed
import TaskGraph.Proofs.Program.Acyclic

/-!
# Code that ceases

What comes next of the code of a strand is what the strand goes on with once a request is answered, and
what the strands run that the request adds (`Dialogue.Onward`). Code ceases if no infinite sequence of
such steps starts from it (`Dialogue.Ceases`).

In an acyclic program whose processes run graphs by literal names only, all that is run ceases, as long as
answers ask for no restart (`Program.Acyclic.ceases_programRun`). The induction is on the graphs, along
`Program.Leads`: a graph starts those alone that it leads to, and its own restarts are bounded. The rest
follows the structure of the tasks (`Accord`): what ceases behind the end of a computation ceases with the
computation in front of it (`Running.Ceases`).
-/

set_option autoImplicit false

namespace TaskGraph

open Running (Any Result)

/-- The promise that an answer of a host asks for no restart. -/
abbrev Request.Fulfilled : Dialogue.Promise := Request.Served fun f => f.asksRestart = false

namespace Dialogue

/-- What comes next of code: how it goes on from an answer, with a graph that it enters in front, and what
is run for the graphs that it forks or detaches. -/
inductive Onward (e : Setting) : Code → Code → Prop where
  | answer {q : Request} {next : q.Answer → Code} {x : q.Answer}
      (other : ∀ c g input s, q ≠ .enter c g input s) (fulfilled : q.Fulfilled x) :
      Onward e (next x) (.ask q next)
  | enter (c : Context) (g : Graph) (input : Json) (s : Scope) (next : Except Fault Scope → Code) :
      Onward e ((Sequence.runGraph e c g input s).run.bind next) (.ask (.enter c g input s) next)
  | fork (c inner : Context) {graphs : List String} (input : Json) (s : Scope) (next : Unit → Code)
      {name : String} (mem : name ∈ graphs) :
      Onward e ((Restart.runGraph e.program inner name input s).run.map .branch)
        (.ask (.fork c graphs input s) next)
  | detach (c : Context) (name : String) (input : Json) (s : Scope) (next : Unit → Code) :
      Onward e ((Restart.graphOutput e.program c name input s).run.map fun _ => .detached c.run)
        (.ask (.detach c name input s) next)

/-- Whether no infinite sequence of steps starts from code. -/
abbrev Ceases (e : Setting) (code : Code) : Prop := Acc (Onward e) code

variable {e : Setting}

theorem ceases_done (ending : Ending Host.RunResult) : Ceases e (.done ending) :=
  Acc.intro _ fun _ h => nomatch h

/-- A request that starts no graph is followed by how the code goes on. -/
theorem ceases_ask {q : Request} (hq : q.graphs = []) {next : q.Answer → Code}
    (h : ∀ x, q.Fulfilled x → Ceases e (next x)) : Ceases e (.ask q next) := by
  refine Acc.intro _ fun code honward => ?_
  cases honward with
  | answer _ hx => exact h _ hx
  | enter | detach => cases hq
  | fork _ _ _ _ _ hname =>
    obtain rfl := hq
    exact (List.not_mem_nil hname).elim

end Dialogue

/-! ## Computations -/

namespace Running

variable {e : Setting} {α β : Type} {E E' : Fault → Prop} {P P' : α → Prop} {Q : β → Prop}

/-- Whether what ceases behind the end of a computation, in a value with a property or in a fault as
described, ceases with the computation in front of it. -/
def Ceases (e : Setting) (E : Fault → Prop) (P : α → Prop) (r : Running α) : Prop :=
  ∀ f : Except Fault α → Code, (∀ x, Result E P x → (f x).Ceases e) → (r.run.bind f).Ceases e

theorem Ceases.pure {a : α} (h : P a) : Ceases e E P (pure a) := fun _ hf => hf (.ok a) h

theorem Ceases.throw {g : Fault} (h : E g) : Ceases e E P (throw g) := fun _ hf => hf (.error g) h

theorem Ceases.ofExcept {x : Except Fault α} (h : Result E P x) : Ceases e E P (ofExcept x) :=
  fun _ hf => hf x h

theorem Ceases.bind {r : Running α} {k : α → Running β} (h : Ceases e E P r)
    (hk : ∀ a, P a → Ceases e E Q (k a)) : Ceases e E Q (r >>= k) := by
  intro f hf
  rw [run_bind, Dialogue.bind_assoc]
  refine h _ fun x hx => ?_
  cases x with
  | ok a => exact hk a hx f hf
  | error g => exact hf (.error g) hx

theorem Ceases.mono {r : Running α} (h : Ceases e E P r) (hE : ∀ g, E g → E' g)
    (hP : ∀ a, P a → P' a) : Ceases e E' P' r := by
  refine fun f hf => h f fun x hx => hf x ?_
  cases x with
  | ok a => exact hP a hx
  | error g => exact hE g hx

theorem Ceases.outcome {r : Running α} (h : Ceases e E P r) : Ceases e E' (Result E P) r.outcome := by
  intro f hf
  rw [run_outcome, Dialogue.bind_map]
  exact h _ fun x hx => hf (.ok x) hx

/-- A request that starts no graph. -/
theorem Ceases.request {q : Request} (hq : q.graphs = []) {r : Running α}
    {k : q.Answer → Except Fault α} (hr : r.run = .ask q fun x => .done (k x))
    (h : ∀ x, q.Fulfilled x → Result E P (k x)) : Ceases e E P r := by
  intro f hf
  rw [hr]
  exact Dialogue.ceases_ask hq fun x hx => hf _ (h x hx)

theorem Ceases.ask {q : Request} (hq : q.graphs = []) {R : q.Answer → Prop}
    (h : ∀ x, q.Fulfilled x → R x) : Ceases e E R (Running.ask q) :=
  .request hq (k := .ok) rfl h

/-- What a computation comes to is the end of a strand. -/
theorem Ceases.map {r : Running α} (h : Ceases e E P r) (f : Except Fault α → Ending Host.RunResult) :
    (r.run.map f).Ceases e :=
  h _ fun _ _ => Dialogue.ceases_done _

end Running

/-- Whether a fault asks for no restart but that of one graph. -/
def Fault.Restarts (name : String) (f : Fault) : Prop :=
  ∀ entry input s, f = .continueAsNew entry input s → entry = name

theorem Fault.restarts_of_leaves (name : String) {f : Fault} (h : f.asksRestart = false) :
    f.Restarts name := by
  rintro entry input s rfl
  cases h

/-! ## Graphs by name -/

namespace Graph

/-- Whether every run of a graph ceases, and asks for no restart but its own. -/
def Ceases (e : Setting) (g : Graph) : Prop :=
  ∀ c input s, (Sequence.runGraph e c g input s).Ceases e (Fault.Restarts g.name) Any

end Graph

namespace Restart

variable {e : Setting} {c : Context}

/-- A graph that is entered runs before the strand goes on. -/
theorem ceases_enter {g : Graph} (hg : g.Ceases e) (c : Context) (input : Json) (s : Scope) :
    (Running.enter c g input s).Ceases e (Fault.Restarts g.name) Any := by
  intro f hf
  refine Acc.intro _ fun code honward => ?_
  cases honward with
  | answer hother => exact absurd rfl (hother _ _ _ _)
  | enter => exact hg _ _ _ _ hf

theorem ceases_record (c : Context) (event : HistoryEvent) {E : Fault → Prop} :
    (Running.record c event).Ceases e E Any :=
  .ask (q := .record c event) rfl fun _ _ => trivial

theorem ceases_tell (n : Notice) {E : Fault → Prop} : (Running.tell n).Ceases e E Any :=
  .ask (q := .tell n) rfl fun _ _ => trivial

theorem ceases_graph (p : Program) (name : String) : (Running.ofExcept (p.graph name)).Ceases e
    (fun f => f.asksRestart = false) (fun g => p.graph name = .ok g) := by
  refine .ofExcept ?_
  cases hg : p.graph name with
  | ok g => rfl
  | error f => exact (Congruence.plain_graph p name f hg).1

/-- The runs of a graph, one after the other, are bounded in number. -/
theorem ceases_loop (name : String) {g : Graph} (hfound : e.program.graph g.name = .ok g)
    (hg : g.Ceases e) (left : Nat) (input : Json) (s : Scope) :
    (loop e.program c name left g input s).Ceases e (fun f => f.asksRestart = false) Any := by
  induction left using Nat.strongRecOn generalizing input s with | ind left ih =>
  rw [loop.eq_def]
  refine .bind (P := Any) (.ask rfl fun _ _ => trivial) fun inner _ =>
    .bind (.outcome (ceases_enter hg inner input s)) fun x hx => ?_
  split
  · exact .pure trivial
  · next entry input' s' =>
    cases left with
    | zero => exact .throw rfl
    | succ left =>
      obtain rfl := hx entry input' s' rfl
      refine .bind (ceases_graph e.program g.name) fun g' hg' => ?_
      obtain rfl : g = g' := Except.ok.inj (hfound.symm.trans hg')
      exact ih left left.lt_succ_self input' s'
  · next f hf => exact .throw (Fault.asksRestart_eq_false fun _ _ _ heq => hf _ _ _ (by rw [heq]))

variable {name : String} (hname : ∀ g, e.program.graph name = .ok g → g.Ceases e)
include hname

theorem ceases_graphOutput (c : Context) (input : Json) (s : Scope) :
    (graphOutput e.program c name input s).Ceases e (fun f => f.asksRestart = false) Any :=
  .bind (ceases_graph e.program name) fun g hg =>
    .bind (ceases_record c _) fun _ _ =>
      .bind (ceases_loop name (Program.graph_of_graph hg) (hname g hg) _ _ _) fun _ _ =>
        .bind (ceases_record c _) fun _ _ => .pure trivial

theorem ceases_runGraph (c : Context) (input : Json) (s : Scope) :
    (runGraph e.program c name input s).Ceases e (fun f => f.asksRestart = false) Any :=
  .bind (ceases_tell _) fun _ _ =>
    .bind (.outcome (ceases_graphOutput hname c input s)) fun _ hx =>
      .bind (ceases_tell _) fun _ _ => .ofExcept hx

theorem ceases_startGraph (c : Context) (input : Json) (s : Scope) :
    (startGraph e.program c name input s).Ceases e (fun f => f.asksRestart = false) Any := by
  refine .bind (ceases_tell _) fun _ _ => .bind (ceases_graph e.program name) fun _ _ => ?_
  refine .bind (ceases_record c _) fun _ _ => ?_
  intro f hf
  refine Acc.intro _ fun code honward => ?_
  cases honward with
  | answer => exact hf _ trivial
  | detach => exact (ceases_graphOutput hname c input s).map _

end Restart

/-! ## Tasks -/

namespace Program

variable {e : Setting}

/-- What ceases in a run of a graph. -/
def ceasing (e : Setting) (name : String) : Accord.Rules where
  Related P r _ := r.Ceases e (Fault.Restarts name) P
  Faults := Fault.Restarts name
  Contexts c c' := c' = c
  fault _ hf _ := Fault.restarts_of_leaves name (Fault.asksRestart_of_ordinary hf)
  ofValue := .pure
  ofFault := .throw
  bind := .bind
  mono h imp := h.mono (fun _ => id) imp
  outcome := .outcome

/-- Whether the processes of the tasks of a program name the graphs that they run. -/
def Literal (p : Program) : Prop := ∀ process, p.Runs process → Evaluation.isExpression process.name = false

theorem Untargeted.literal {p : Program} (hp : p.Untargeted) : p.Literal := by
  rintro process ⟨g, hg, child, hchild, inner, hinner, hprocess⟩
  exact absurd hprocess ((hp g hg child hchild inner hinner).2 process)

theorem restarts_of_ordinary {α : Type} (name : String) {x : Except Fault α} (h : Fault.Ordinary x) :
    Result (Fault.Restarts name) Any x := by
  cases x with
  | ok a => trivial
  | error f => exact Fault.restarts_of_leaves name (Fault.asksRestart_of_ordinary (h f rfl).1)

theorem restarts_of_leaves {α : Type} (name : String) {x : Except Fault α}
    (h : Result (fun f => f.asksRestart = false) Any x) : Result (Fault.Restarts name) Any x :=
  h.mono_fault fun _ => Fault.restarts_of_leaves name

theorem reads_of_fulfilled (name : String) {v : Json} {s : Scope} {locals : Locals} {x : Except Fault Json}
    (hx : (Request.traverse v s locals).Fulfilled x) :
    Result (Fault.Restarts name) (Evaluation.Reads v) x := by
  obtain ⟨ev, rfl⟩ := hx
  have hordinary := restarts_of_ordinary name (Evaluation.ordinary_traverse v s locals ev)
  cases hread : (ev.run (Evaluation.traverse v s locals)).1 with
  | ok w => exact ⟨ev, s, locals, hread⟩
  | error f => exact (hread ▸ hordinary : Result (Fault.Restarts name) Any (.error f))

section

variable {g : Graph} (hlower : ∀ target, e.program.Leads g.name target → ∀ g',
  e.program.graph target = .ok g' → g'.Ceases e)

/-- A run of a graph ceases if those of all graphs that it leads to do. -/
def accord : Accord e where
  toRules := ceasing e g.name
  Reads := Evaluation.Reads
  Starts := e.program.Leads g.name
  Runs process := Evaluation.isExpression process.name = false ∧ e.program.Leads g.name process.name
  Forks := True
  Inputs _ := True
  Scopes _ := True
  Like _ _ := True
  Enters _ _ := True
  evaluate text s locals _ := .request (q := .evaluate text s locals) rfl (k := id) rfl
    fun _ hx => restarts_of_ordinary g.name hx
  traverse v s locals _ := .request (q := .traverse v s locals) rfl (k := id) rfl
    fun _ hx => reads_of_fulfilled g.name hx
  check guard s locals _ := .request (q := .check guard s locals) rfl (k := id) rfl
    fun _ hx => restarts_of_ordinary g.name hx
  cancelled c _ _ := .ask (q := .cancelled c) rfl fun _ _ => trivial
  record c _ event _ _ _ := Restart.ceases_record c event
  tell n _ _ := Restart.ceases_tell n
  publish _ := .ask rfl fun _ _ => trivial
  respond _ _ := .ask rfl fun _ _ => trivial
  request c _ r _ := (ceasing e g.name).related_request
    (fun d => .ask (q := .pause c d) rfl fun _ _ => trivial)
    (fun event _ => Restart.ceases_record c event)
    (fun r timeout => .request (q := .dispatch c r timeout) rfl (k := id) rfl
      fun _ hx => restarts_of_leaves g.name hx)
    (fun _ => Restart.ceases_tell _)
    (fun r => .ask (q := .offer r) rfl fun _ hx v hv => restarts_of_leaves g.name (hx v hv)) r
  beat _ _ _ _ := .ask rfl fun _ _ => trivial
  still _ := .ask rfl fun _ _ => trivial
  pause c _ d _ := .ask (q := .pause c d) rfl fun _ _ => trivial
  listen c _ mode signals _ := .request (q := .listen c mode signals) rfl (k := id) rfl
    fun _ hx => restarts_of_leaves g.name hx
  named process q v hruns hv hq := by
    rcases Evaluation.mayRun_of_reads hv hq with hname | hexpression
    · exact hname ▸ hruns.2
    · exact absurd hexpression (by simp [hruns.1])
  like _ := trivial
  like_trans _ _ := trivial
  keeps _ _ := trivial
  told _ _ _ := trivial
  enters _ _ _ := trivial
  graph c _ name input s _ hname _ _ := (Restart.ceases_runGraph (hlower name hname) c input s).mono
    (fun _ => Fault.restarts_of_leaves g.name) fun _ => id
  detach _ c _ name input s _ hname _ _ :=
    (Restart.ceases_startGraph (hlower name hname) c input s).mono
      (fun _ => Fault.restarts_of_leaves g.name) fun _ => id
  fork _ c _ task compete branches input s _ hbranches _ _ := (ceasing e g.name).related_fork
    (.ask rfl fun _ hx => restarts_of_leaves g.name hx) (fun _ => .ask rfl fun _ _ => trivial)
    (.ask (q := .cancelled c) rfl fun _ _ => trivial) task compete (by
      intro f hf
      refine Acc.intro _ fun code honward => ?_
      cases honward with
      | answer => exact hf _ trivial
      | fork _ inner _ _ _ hmem =>
        obtain ⟨branch, hbranch, rfl⟩ := List.mem_map.1 hmem
        exact (Restart.ceases_runGraph (hlower _ (hbranches branch hbranch)) inner _ _).map _)

/-- A run that is left asks for a restart of its own graph. -/
theorem leaves_accord (c : Context) (input : Json) :
    (accord hlower).Leaves (fun _ => True) c c g.name input where
  due limit := .ask (q := .due c limit) rfl fun _ _ => trivial
  suspend id s _ := by
    have hsettle : (Running.settle c).Ceases e (fun _ => True) Any :=
      .request (q := .settle c) rfl (k := fun x => x) rfl fun x _ => Running.result_any x
    refine .bind (.outcome hsettle) fun x _ => ?_
    cases x with
    | ok _ =>
      refine .throw ?_
      rintro entry input' s' ⟨⟩
      rfl
    | error f => exact .throw (Fault.restarts_of_leaves g.name rfl)
  resumed _ _ := trivial

include hlower in
/-- A graph whose tasks start only graphs that cease. -/
theorem ceases_of_lower (hliteral : e.program.Literal) (hfound : e.program.graph g.name = .ok g) :
    g.Ceases e := by
  intro c input s
  refine (accord hlower).related_list rfl trivial (fun _ _ => trivial) (fun _ _ _ _ => trivial)
    (some g.name) ?_ true none g.children (fun child hchild => ⟨?_, ?_, fun _ _ _ => trivial⟩) s trivial
  · rintro name ⟨⟩
    exact leaves_accord hlower c input
  · exact fun inner hinner name hname => ⟨g, hfound, child, hchild, inner, hinner, hname⟩
  · intro inner hinner process hruns
    have hname := hliteral process ⟨g, (mem_of_graph hfound).1, child, hchild, inner, hinner, hruns⟩
    exact ⟨hname, g, hfound, child, hchild, inner, hinner, Step.names_of_runs hruns hname⟩

end

section

variable (hp : e.program.Acyclic) (hliteral : e.program.Literal)
include hp hliteral

/-- In an acyclic program, every graph ceases. -/
theorem Acyclic.ceases (name : String) {g : Graph} (hg : e.program.graph name = .ok g) :
    g.Ceases e := by
  induction hp.wellFounded.apply name generalizing g with
  | intro name _ ih =>
    obtain ⟨-, rfl⟩ := mem_of_graph hg
    exact ceases_of_lower (fun target hleads _ hg' => ih target hleads hg') hliteral hg

theorem Acyclic.ceases_rootLoop (c : Context) (left : Nat) {g : Graph}
    (hfound : e.program.graph g.name = .ok g) (input : Json) (s : Scope) :
    (Restart.rootLoop e.program c left g input s).Ceases e (fun f => f.asksRestart = false) Any := by
  have hg := hp.ceases hliteral g.name hfound
  induction left using Nat.strongRecOn generalizing input s with | ind left ih =>
  rw [Restart.rootLoop.eq_def]
  refine .bind (P := Any) (.ask rfl fun _ _ => trivial) fun inner _ =>
    .bind (Restart.ceases_record inner _) fun _ _ =>
    .bind (.outcome (Restart.ceases_enter hg inner input s)) fun x hx => ?_
  split
  · exact .bind (Restart.ceases_record inner _) fun _ _ => .pure trivial
  · next entry input' s' =>
    cases left with
    | zero => exact .bind (Restart.ceases_record inner _) fun _ _ => .throw rfl
    | succ left =>
      obtain rfl := hx entry input' s' rfl
      refine .bind (Restart.ceases_record inner _) fun _ _ =>
        .bind (Restart.ceases_graph e.program g.name) fun g' hg' => ?_
      obtain rfl : g = g' := Except.ok.inj (hfound.symm.trans hg')
      exact ih left left.lt_succ_self input' s'
  · next f hf =>
    exact .bind (Restart.ceases_record inner _) fun _ _ =>
      .throw (Fault.asksRestart_eq_false fun _ _ _ heq => hf _ _ _ (by rw [heq]))

/-- All that an acyclic program runs ceases. -/
theorem Acyclic.ceases_programRun (input : Json) (env : Members) :
    ((Host.programRun e.program input env).run.map .result).Ceases e := by
  have hrun : (Host.programRun e.program input env).Ceases e (fun f => f.asksRestart = false) Any := by
    refine .bind (Restart.ceases_graph e.program _) fun g hg =>
      .bind (P := fun s => s.marker = none) (.ofExcept ?_) fun s _ =>
        hp.ceases_rootLoop hliteral _ _ (graph_of_graph hg) input s
    exact Graph.result_initialScope (fun _ => Fault.asksRestart_of_ordinary) e.program.options g input env
  exact hrun.map _

end

end Program

end TaskGraph
