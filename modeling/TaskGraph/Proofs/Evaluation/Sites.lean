import TaskGraph.Host.Run
import TaskGraph.Proofs.Accord
import TaskGraph.Proofs.Calls.Blocks
import TaskGraph.Proofs.Evaluation.Names

/-!
# Where expressions are evaluated, and what they see of their task

Whatever a list evaluates stands at a site of one of its tasks, nested ones included: in the guard, the
search attributes or the export, or in what the task does (`Sequence.sited_list`). Over the scope of
the task its name is laid at two of these sites, the guard and the export, and there alone
(`Site.get?_task`). An expression that does not name the task has one value at all sites all the same;
one that does has its value at the two and is undefined at the others
(`Sequence.task_seen_at_guards_and_exports`).
-/

set_option autoImplicit false

namespace TaskGraph

open Running (Any)

/-! ## Sites -/

/-- A place in a task at which expressions stand. -/
inductive Site where
  /-- The condition under which the task is executed. -/
  | guard
  /-- The search attributes that it declares. -/
  | attributes
  /-- What it makes the output. -/
  | exported
  /-- What a loop goes over. -/
  | source
  /-- The condition under which a loop goes on to an element. -/
  | condition
  /-- The condition of a case of a switch. -/
  | case
  /-- The arguments of a call. -/
  | arguments
  /-- The process that is run. -/
  | process
  /-- The error that is raised. -/
  | error
  /-- The response to a query. -/
  | response
  /-- What is assigned. -/
  | value
  /-- The structure of a task of a custom kind. -/
  | body
  deriving Repr, DecidableEq

namespace Site

/-- What is laid over the scope for the expressions at a site of a task with a result. -/
def locals (task : String) (result : Json) : Site → Locals
  | guard => [Sequence.taskBinding task]
  | exported => [Sequence.taskBinding task, ("result", result)]
  | _ => []

/-- Whether the expressions at a site see their task. -/
def seesTask : Site → Bool
  | guard | exported => true
  | _ => false

end Site

/-- Whether a value, be it a text or a structure, stands at a site of a task. -/
inductive Child.Declares (child : Child Step) : Site → Json → Prop where
  | guard {text : String} (h : child.base.guard = some text) : Declares child .guard (.str text)
  | attributes {v : Json} (h : child.base.metadata.get? "searchAttributes" = some v) :
      Declares child .attributes v
  | exported {v : Json} (h : child.base.exported = some v) : Declares child .exported v
  | source {spec : LoopSpec} {condition : Option String} {body : String}
      (h : child.action = .loop spec condition body) : Declares child .source spec.source
  | condition {spec : LoopSpec} {text : String} {body : String}
      (h : child.action = .loop spec (some text) body) : Declares child .condition (.str text)
  | case {cases : List SwitchCase} {case : SwitchCase} {text : String}
      (h : child.action = .switch cases) (mem : case ∈ cases) (htext : case.condition = some text) :
      Declares child .case (.str text)
  | arguments {call : Call} {timeout : Option Duration} (h : child.action = .call call timeout) :
      Declares child .arguments call.toJson
  | process {run : ProcessRun} {timeout : Option Duration} (h : child.action = .run run timeout) :
      Declares child .process run.process.payload
  | error {error : RaiseError} (h : child.action = .raise error) : Declares child .error error.toJson
  | response {mode : ListenMode} {waits : List String} {queries : List Query} {q : Query} {v : Json}
      (h : child.action = .listen mode waits queries) (mem : q ∈ queries) (hv : q.response = some v) :
      Declares child .response v
  | value {v : Json} (h : child.action = .assign v) : Declares child .value v
  | body {v : Json} (h : child.action = .custom v) : Declares child .body v

/-- What a request evaluates, in which scope, and what is laid over it; nothing if it is no
evaluation, or that of an absent guard. -/
def Request.evaluates? : Request → Option (Json × Scope × Locals)
  | .evaluate text s locals => some (.str text, s, locals)
  | .traverse v s locals => some (v, s, locals)
  | .check (some text) s locals => some (.str text, s, locals)
  | _ => none

/-- Whether a request evaluates nothing but what stands at a site of one of some tasks, under what is
laid over the scope there. -/
def Request.Sited (tasks : Child Step → Prop) (q : Request) : Prop :=
  ∀ v s locals, q.evaluates? = some (v, s, locals) →
    ∃ child site result, tasks child ∧ child.Declares site v ∧ locals = site.locals child.name result

variable {tasks : Child Step → Prop}

theorem Request.sited_of_none {q : Request} (h : q.evaluates? = none) : q.Sited tasks := by
  intro v s locals hq
  rw [h] at hq
  cases hq

theorem Request.sited_of_declares {q : Request} {child : Child Step} {site : Site} {v : Json}
    (hchild : tasks child) (h : child.Declares site v) (s : Scope) (result : Json)
    (hq : q.evaluates? = some (v, s, site.locals child.name result)) : q.Sited tasks := by
  intro v' s' locals' hq'
  rw [hq] at hq'
  cases hq'
  exact ⟨child, site, result, hchild, h, rfl⟩

/-! ## Computations -/

namespace Running

variable {α β : Type} {P P' : α → Prop} {Q : β → Prop}

/-- Whether a computation evaluates nothing but what stands at sites of some tasks, and ends in a value
with a property, if it does not fail. -/
def Sited (tasks : Child Step → Prop) (P : α → Prop) (r : Running α) : Prop :=
  r.Heeds (Request.Sited tasks) (fun _ _ => True) Any P

theorem Sited.pure {a : α} (h : P a) : (pure a : Running α).Sited tasks P := Heeds.pure h

theorem Sited.throw (f : Fault) : (throw f : Running α).Sited tasks P := Heeds.throw trivial

theorem Sited.ofExcept (x : Except Fault α) : (ofExcept x).Sited tasks Any :=
  Heeds.ofExcept (result_any x)

theorem Sited.bind {r : Running α} {k : α → Running β} (h : r.Sited tasks P)
    (hk : ∀ a, P a → (k a).Sited tasks Q) : (r >>= k).Sited tasks Q :=
  Heeds.bind h hk

theorem Sited.mono {r : Running α} (h : r.Sited tasks P) (imp : ∀ a, P a → P' a) :
    r.Sited tasks P' :=
  Heeds.mono h imp

theorem Sited.outcome {r : Running α} (h : r.Sited tasks P) :
    r.outcome.Sited tasks (Result Any P) :=
  Heeds.outcome h

/-- A request that is no evaluation. -/
theorem Sited.ask {q : Request} (hq : q.evaluates? = none) {R : q.Answer → Prop} (h : ∀ x, R x) :
    (Running.ask q).Sited tasks R :=
  Heeds.ask (Request.sited_of_none hq) fun x _ => h x

/-- A request that is no evaluation, and what goes on from its answer. -/
theorem Sited.bind_ask {q : Request} (hq : q.evaluates? = none) {k : q.Answer → Running β}
    (hk : ∀ x, (k x).Sited tasks Q) : (Running.ask q >>= k).Sited tasks Q :=
  .bind (P := Any) (.ask hq fun _ => trivial) fun x _ => hk x

/-- A request that is answered with a value or with a fault. -/
theorem Sited.answered {q : Request} (hq : q.Sited tasks) {r : Running α}
    (k : q.Answer → Except Fault α) (hr : r.run = .ask q fun x => .done (k x)) :
    r.Sited tasks Any := by
  unfold Sited Heeds
  rw [hr]
  exact ⟨hq, fun x _ => result_any (k x)⟩

variable {child : Child Step} (hchild : tasks child)
include hchild

theorem Sited.traverse {site : Site} {v : Json} (h : child.Declares site v) (s : Scope)
    (result : Json) : (traverse v s (site.locals child.name result)).Sited tasks Any :=
  .answered (q := .traverse v s _) (Request.sited_of_declares hchild h s result rfl) id rfl

theorem Sited.evaluate {site : Site} {text : String} (h : child.Declares site (.str text))
    (s : Scope) (result : Json) :
    (evaluate text s (site.locals child.name result)).Sited tasks Any :=
  .answered (q := .evaluate text s _) (Request.sited_of_declares hchild h s result rfl) id rfl

theorem Sited.check {site : Site} {guard : Option String}
    (h : ∀ text, guard = some text → child.Declares site (.str text)) (s : Scope) (result : Json) :
    (check guard s (site.locals child.name result)).Sited tasks Any := by
  cases guard with
  | none => exact .answered (q := .check none s _) (Request.sited_of_none rfl) id rfl
  | some text =>
    exact .answered (q := .check (some text) s _)
      (Request.sited_of_declares hchild (h text rfl) s result rfl) id rfl

end Running

/-- What is put together from requests at sites is at sites. -/
def siteRules (tasks : Child Step → Prop) : Accord.Rules where
  Related P r _ := r.Sited tasks P
  Faults := Any
  Contexts _ _ := True
  fault _ _ _ := trivial
  ofValue := .pure
  ofFault _ := .throw _
  bind := .bind
  mono := .mono
  outcome := .outcome

/-! ### Graphs and calls evaluate nothing by themselves -/

namespace Restart

variable (p : Program) (c : Context)

theorem sited_loop (name : String) (left : Nat) (g : Graph) (input : Json) (s : Scope) :
    (loop p c name left g input s).Sited tasks Any := by
  have henter (inner : Context) (g : Graph) (input : Json) (s : Scope) :
      (Running.enter inner g input s).Sited tasks Any :=
    .answered (q := .enter inner g input s) (Request.sited_of_none rfl) id rfl
  induction left using Nat.strongRecOn generalizing g input s with | ind left ih =>
  rw [loop.eq_def]
  refine .bind_ask rfl fun inner =>
    .bind (.outcome (henter inner g input s)) fun x _ => ?_
  split
  · exact .pure trivial
  · cases left with
    | zero => exact .throw _
    | succ left =>
      exact .bind (Running.Sited.ofExcept _) fun g _ => ih left left.lt_succ_self g _ _
  · exact .throw _

theorem sited_runGraph (name : String) (input : Json) (s : Scope) :
    (runGraph p c name input s).Sited tasks Any := by
  have houtput : (graphOutput p c name input s).Sited tasks Any :=
    .bind (Running.Sited.ofExcept _) fun g _ =>
      .bind_ask rfl fun _ =>
        .bind (sited_loop p c name _ g input s) fun _ _ =>
          .bind_ask rfl fun _ => .pure trivial
  exact .bind_ask rfl fun _ => .bind (.outcome houtput) fun x _ =>
    .bind_ask rfl fun _ => Running.Sited.ofExcept x

theorem sited_startGraph (name : String) (input : Json) (s : Scope) :
    (startGraph p c name input s).Sited tasks Any :=
  .bind_ask rfl fun _ => .bind (Running.Sited.ofExcept _) fun _ _ =>
    .bind_ask rfl fun _ => .ask rfl fun _ => trivial

theorem sited_suspend {α : Type} (entry id : String) (input : Json) (s : Scope) :
    (suspend c entry id input s : Running α).Sited tasks Any := by
  have hsettle : (Running.settle c).Sited tasks Any :=
    .answered (q := .settle c) (Request.sited_of_none rfl) (fun x => x) rfl
  refine .bind (.outcome hsettle) fun x _ => ?_
  cases x with
  | ok _ => exact .throw _
  | error f => exact .throw _

end Restart

namespace Calling

variable (e : Setting) (c : Context)

theorem sited_request (r : CallRequest) : (request e c r).Sited tasks Any :=
  show (siteRules tasks).Related Any (request e c r) (request e c r) from
    (siteRules tasks).related_request
      (fun d => .ask (q := .pause c d) rfl fun _ => trivial)
      (fun ev _ => .ask (q := .record c ev) rfl fun _ => trivial)
      (fun r timeout => .answered (q := .dispatch c r timeout) (Request.sited_of_none rfl) id rfl)
      (fun r => .ask (q := .tell (.call r)) rfl fun _ => trivial)
      (fun r => .ask (q := .offer r) rfl fun _ v _ => Running.result_any v) r

theorem sited_withHeartbeat (metadata : Members) {call : Running Json} (h : call.Sited tasks Any) :
    (withHeartbeat c metadata call).Sited tasks Any := by
  unfold withHeartbeat
  split
  · exact h
  · exact .bind_ask rfl fun _ =>
      .bind_ask rfl fun _ => .bind (.outcome h) fun x _ =>
        .bind_ask rfl fun _ => Running.Sited.ofExcept x

/-- A call evaluates what its invocation is made of. -/
theorem sited_invoke (task : String) (base : TaskBase) (timeout : Option Duration)
    {invocation : Running Invocation} (h : invocation.Sited tasks Any) :
    (invoke e c task base timeout invocation).Sited tasks Any :=
  .bind h fun _ _ => sited_withHeartbeat c base.metadata (sited_request e c _)

end Calling

theorem Forking.sited_run (c : Context) (task : String) (compete : Bool) (branches : List Branch)
    (input : Json) (s : Scope) : (Forking.run c task compete branches input s).Sited tasks Any :=
  have hfork : (siteRules tasks).Related (fun r => s.Alike r.2) (run c task compete branches input s)
      (run c task compete branches input s) :=
    (siteRules tasks).related_fork
      (.ask (q := .reply) rfl fun x => Running.result_any x.2)
      (fun stopped => .ask (q := .stop stopped) rfl fun _ => trivial)
      (.ask (q := .cancelled c) rfl fun _ => trivial) task compete
      (.ask (q := .fork c _ input s.child) rfl fun _ => trivial)
  Running.Sited.mono hfork fun _ _ => trivial

/-! ## Tasks -/

section

variable (e : Setting) (c : Context) {child : Child Step} (hchild : tasks child)
include hchild

theorem Calling.sited_interpolate {α : Type} {site : Site} (hsite : site.seesTask = false)
    {payload : Json} (h : child.Declares site payload) (task : String) (decode : Decoder α)
    (s : Scope) : (Calling.interpolate task decode payload s).Sited tasks Any := by
  -- arguments are evaluated with nothing laid over the scope, as the site has it
  have hlocals : site.locals child.name .null = [] := by
    cases site <;> first | rfl | cases hsite
  have htraverse := Running.Sited.traverse hchild h s .null
  rw [hlocals] at htraverse
  refine .bind htraverse fun v _ => ?_
  cases decode v with
  | ok a => exact .pure trivial
  | error e => exact .throw _

/-- An invocation is made of what its arguments evaluate to. -/
theorem Calling.sited_arguments {α : Type} {site : Site} (hsite : site.seesTask = false)
    {payload : Json} (h : child.Declares site payload) (task : String) (decode : Decoder α)
    (f : α → Invocation) (s : Scope) :
    Running.Sited tasks Any (do return f (← Calling.interpolate task decode payload s)) :=
  .bind (sited_interpolate hchild hsite h task decode s) fun _ _ => .pure trivial

theorem Calling.sited_callInvocation {call : Call} {timeout : Option Duration}
    (h : child.action = .call call timeout) (s : Scope) :
    (Calling.callInvocation child.name s call).Sited tasks Any := by
  have hdeclares := Child.Declares.arguments h
  cases call <;> exact sited_arguments hchild rfl hdeclares ..

theorem Iteration.sited_run {spec : LoopSpec} {condition : Option String} {body : String}
    (h : child.action = .loop spec condition body) {b : LoopBody} (hb : b.condition = condition)
    (s : Scope) : (Iteration.run e.program c b spec.source s).Sited tasks Any := by
  -- what is evaluated for an element is the condition of the loop, and its body is a graph of its
  -- own
  have helement (key item : Json) : (element e.program c b s key item).Sited tasks Any := by
    have hgoesOn (scope : Scope) : (goesOn b scope).Sited tasks Any := by
      unfold goesOn
      rw [hb]
      cases condition with
      | none => exact .pure trivial
      | some text =>
        exact .bind (Running.Sited.evaluate hchild (.condition h) scope .null) fun _ _ => .pure trivial
    refine .bind (hgoesOn _) fun goesOn _ => ?_
    cases goesOn with
    | true => exact .bind (Restart.sited_runGraph _ c _ _ _) fun _ _ => .pure trivial
    | false => exact .pure trivial
  have hitems (index : Nat) (xs : List Json) : (items e.program c b s index xs).Sited tasks Any := by
    induction xs generalizing index with
    | nil => exact .pure trivial
    | cons x xs ih =>
      refine .bind (helement _ x) fun v _ => ?_
      cases v with
      | none => exact .pure trivial
      | some v => exact .bind (ih (index + 1)) fun _ _ => .pure trivial
  have hentries (m : List (String × Json)) : (entries e.program c b s m).Sited tasks Any := by
    induction m with
    | nil => exact .pure trivial
    | cons entry m ih =>
      refine .bind (helement _ entry.2) fun v _ => ?_
      cases v with
      | none => exact .pure trivial
      | some v => exact .bind ih fun _ _ => .pure trivial
  refine .bind (Running.Sited.traverse hchild (.source h) s .null) fun v _ =>
    .bind (Running.Sited.ofExcept _) fun es _ => ?_
  cases es with
  | members m => exact .bind (hentries m) fun _ _ => .pure trivial
  | items xs => exact .bind (hitems 0 xs) fun _ _ => .pure trivial

theorem Listening.sited_run {mode : ListenMode} {waits : List String} {queries : List Query}
    (h : child.action = .listen mode waits queries) (s : Scope) :
    (Listening.run c mode waits queries s).Sited tasks Any := by
  have hregister (q : Query) (hq : q ∈ queries) : (register c s q).Sited tasks Any := by
    have hanswered (v : Json) : Running.Sited tasks Any (do
        Running.tell (.query q.id v)
        Running.ask (.respond q.id v)
        Running.record c (.queryRegistered q.id)) :=
      .bind_ask rfl fun _ =>
        .bind_ask rfl fun _ => .ask rfl fun _ => trivial
    unfold register
    cases hresponse : q.response with
    | none => exact hanswered _
    | some v =>
      exact .bind (Running.Sited.traverse hchild (.response h hq hresponse) s .null)
        fun v _ => hanswered v
  have hregisterAll (qs : List Query) (hqs : ∀ q ∈ qs, q ∈ queries) :
      (registerAll c s qs).Sited tasks Any := by
    induction qs with
    | nil => exact .pure trivial
    | cons q qs ih =>
      exact .bind (hregister q (hqs q (List.mem_cons_self ..))) fun _ _ =>
        ih fun q' hq' => hqs q' (List.mem_cons_of_mem _ hq')
  refine .bind (hregisterAll queries fun _ => id) fun _ _ => ?_
  cases waits with
  | nil => exact .pure trivial
  | cons name waits =>
    have hlisten : (Running.listen c mode (name :: waits)).Sited tasks Any :=
      .answered (q := .listen c mode (name :: waits)) (Request.sited_of_none rfl) id rfl
    exact .bind hlisten fun _ _ => .pure trivial

namespace Sequence

theorem sited_switch (input : Json) (s : Scope) {cases : List SwitchCase}
    (h : child.action = .switch cases) : (switch e c input s cases).Sited tasks Any := by
  -- along the cases that are left, each of which stands in the switch
  have hrest (rest : List SwitchCase) (hrest : ∀ case ∈ rest, case ∈ cases) :
      (switch e c input s rest).Sited tasks Any := by
    induction rest with
    | nil => exact .pure trivial
    | cons case rest ih =>
      have hcase := hrest case (List.mem_cons_self ..)
      have hsite (text : String) (htext : case.condition = some text) :
          child.Declares .case (.str text) := .case h hcase htext
      refine .bind (Running.Sited.check hchild hsite s .null) fun holds _ => ?_
      cases holds with
      | false => exact ih fun case' hcase' => hrest case' (List.mem_cons_of_mem _ hcase')
      | true =>
        cases case.next with
        | none => exact .pure trivial
        | some flow =>
          cases flow with
          | target graph =>
            exact .bind (Restart.sited_runGraph _ c graph input _) fun _ _ => .pure trivial
          | stop => exact .pure trivial
          | next => exact .pure trivial
  exact hrest cases fun _ => id

omit hchild in
theorem sited_attempt (input : Json) (s : Scope) (body handler : Option String) (binding : String) :
    (attempt e c input s body handler binding).Sited tasks Any := by
  cases body with
  | none => exact .pure trivial
  | some body =>
    refine .bind (.outcome (Restart.sited_runGraph _ c body input s.child)) fun x _ => ?_
    cases x with
    | ok v => exact .pure trivial
    | error f =>
      -- the handler is run for failures only: not where the body was cancelled, and not for a
      -- request for a restart
      cases hcancelled : f.isCancelled with
      | true =>
        simp only [hcancelled]
        exact .pure trivial
      | false =>
        cases hcontinuation : f.isContinuation with
        | true =>
          simp only [hcancelled, hcontinuation]
          exact .throw f
        | false =>
          simp only [hcancelled, hcontinuation]
          cases handler with
          | none => exact (.throw f : (throw f : Running (Option Json)).Sited tasks Any)
          | some handler =>
            exact .bind (Restart.sited_runGraph _ c handler input _) fun _ _ => .pure trivial

theorem sited_process (input : Json) (s : Scope) {run : ProcessRun} {timeout : Option Duration}
    (h : child.action = .run run timeout) (base : TaskBase) :
    (process e c child.name base input s run timeout).Sited tasks Any := by
  have hdeclares := Child.Declares.process h
  unfold process
  cases hprocess : run.process with
  | workflow p =>
    rw [hprocess] at hdeclares
    refine .bind (Calling.sited_interpolate hchild rfl hdeclares _ _ s) fun q _ => ?_
    split
    · exact .bind (Restart.sited_runGraph _ c _ _ _) fun _ _ => .pure trivial
    · exact .bind (Restart.sited_startGraph _ c _ _ _) fun _ _ => .pure trivial
  | _ =>
    rw [hprocess] at hdeclares
    exact .bind (Calling.sited_invoke e c _ base timeout
      (Calling.sited_arguments hchild rfl hdeclares ..)) fun _ _ => .pure trivial

omit hchild in
theorem sited_sleep (d : Duration) : (sleep c d).Sited tasks Any := by
  refine .bind_ask rfl fun _ =>
    .bind_ask rfl fun _ =>
      .bind_ask rfl fun up => ?_
  cases up with
  | true => exact .ask rfl fun _ => trivial
  | false => exact .throw _

/-! ## Around a task -/

theorem sited_publish (s : Scope) : (publish c child.name child.base s).Sited tasks Any := by
  unfold publish
  cases hattributes : child.base.metadata.get? "searchAttributes" with
  | none => exact .pure trivial
  | some v =>
    refine .bind (Running.Sited.traverse hchild (.attributes hattributes) s .null) fun v _ => ?_
    cases v with
    | obj m =>
      exact .bind_ask rfl fun _ => .ask rfl fun _ => trivial
    | _ => exact .throw _

theorem sited_export (value : Option Json) (s : Scope) :
    (export_ child.name child.base value s).Sited tasks Any := by
  unfold export_
  cases hexported : child.base.exported with
  | none => exact .pure trivial
  | some v =>
    exact .bind (Running.Sited.traverse hchild (.exported hexported) s (value.getD .null))
      fun _ _ => .pure trivial

omit hchild in
theorem sited_absorb (s : Scope) (x : Except Fault (Option Json × Scope)) :
    (absorb c s x).Sited tasks Any := by
  cases x with
  | ok r => exact .pure trivial
  | error f =>
    show Running.Sited tasks Any (if f.isCancelled then _ else _)
    split
    · refine .bind_ask rfl fun cancelled => ?_
      cases cancelled <;> exact .pure trivial
    · exact .throw _

/-- A task whose guard is to be evaluated, given that what it does is at sites. -/
theorem sited_turn (r : Resumption) {body : Doing} (hbody : ∀ s, (body s).Sited tasks Any) (s : Scope) :
    (turn e c r ⟨child.id, child.name, child.base, child.replayed, body⟩ s).Sited tasks Any := by
  have hsite (text : String) (htext : child.base.guard = some text) :
      child.Declares .guard (.str text) := .guard htext
  refine .bind (Running.Sited.check hchild hsite s .null) fun holds _ => ?_
  cases holds with
  | false => exact .pure trivial
  | true =>
    show Running.Sited tasks Any (if r = .replay then rerun c body s
      else enact e c child.name child.base body s)
    split
    · refine .bind (.outcome (hbody s)) fun x _ => .bind (sited_absorb c s x) fun y _ => ?_
      cases y <;> exact .pure trivial
    · refine .bind (Running.Sited.ofExcept _) fun _ _ => .bind (sited_publish c hchild s) fun _ _ =>
        .bind (.outcome (hbody s)) fun x _ => .bind (sited_absorb c s x) fun y _ => ?_
      cases y with
      | none => exact .pure trivial
      | some y => exact .bind (sited_export hchild y.1 _) fun _ _ => .pure trivial

end Sequence

end

/-! ## Lists -/

namespace Sequence

variable (e : Setting) (c : Context)

mutual

/-- Whatever a list evaluates stands at a site of one of its tasks, or of the tasks nested in it. -/
theorem sited_list (entry : Option String) (input : Json) (first : Bool) (pending : Option String) :
    (children : Children) → (∀ child ∈ children, tasks child) →
      (∀ child ∈ children, child.action.Lists fun list => ∀ inner ∈ list, tasks inner) →
      (s : Scope) → (run e c entry input first pending children s).Sited tasks Any
  | [], _, _, s => by
    rw [run_nil]
    cases pending with
    | none => exact .pure trivial
    | some target => exact .throw _
  -- a restart before the task evaluates nothing, and a task that is passed over is not evaluated at all
  | ⟨id, name, base, replayed, action⟩ :: rest, htasks, hnested, s => by
    have hchild := htasks _ (List.mem_cons_self ..)
    have hrest (pending : Option String) (s : Scope) :=
      sited_list entry input false pending rest
        (fun child hchild => htasks child (List.mem_cons_of_mem _ hchild))
        (fun child hchild => hnested child (List.mem_cons_of_mem _ hchild)) s
    have hleaves : (leaves e c entry first s).Sited tasks Any := by
      unfold leaves
      split
      · exact .ask rfl fun _ => trivial
      · exact .pure trivial
    rw [run_cons]
    refine .bind hleaves fun leaves _ => ?_
    cases leaves with
    | true => exact Restart.sited_suspend c _ _ input s
    | false =>
      simp only [Bool.false_eq_true, if_false]
      rcases Restart.resumption id replayed entry.isSome s with ⟨r, s'⟩
      dsimp only
      split
      · exact hrest pending s'
      · rw [visit_eq_turn]
        refine .bind (sited_turn e c hchild r (fun s =>
          sited_step id name base replayed input action hchild
            (hnested _ (List.mem_cons_self ..)) s) s') fun t _ => ?_
        cases t with
        | stop s'' => exact .pure trivial
        | next pending s'' => exact hrest pending s''

/-- Whatever a task evaluates while it is executed stands at one of its sites, or of the tasks nested in
it. -/
theorem sited_step (id name : String) (base : TaskBase) (replayed : Bool) (input : Json) :
    (action : Step) → tasks ⟨id, name, base, replayed, action⟩ →
      (action.Lists fun list => ∀ inner ∈ list, tasks inner) →
      (s : Scope) → (step e c name base input action s).Sited tasks Any
  | .block children, _, hnested, s => by
    rw [step.eq_def]
    exact .bind (sited_list none input true none children (hnested children (.self _))
      (fun _ hinner => hnested.child hinner) s) fun _ _ => .pure trivial
  | .loop spec condition body, hchild, _, s => by
    rw [step.eq_def]
    exact .bind (Iteration.sited_run e c hchild rfl rfl s) fun _ _ => .pure trivial
  | .fork compete branches, _, _, s => by
    rw [step.eq_def]
    exact Forking.sited_run c name compete branches input s
  | .switch cases, hchild, _, s => by
    rw [step.eq_def]
    exact .bind (sited_switch e c hchild input s rfl) fun _ _ => .pure trivial
  | .attempt body handler binding, _, _, s => by
    rw [step.eq_def]
    exact .bind (sited_attempt e c input s body handler binding) fun _ _ => .pure trivial
  | .call call timeout, hchild, _, s => by
    rw [step.eq_def]
    exact .bind (Calling.sited_invoke e c name base timeout
      (Calling.sited_callInvocation hchild rfl s)) fun _ _ => .pure trivial
  | .run run timeout, hchild, _, s => by
    rw [step.eq_def]
    exact .bind (sited_process e c hchild input s rfl base) fun _ _ => .pure trivial
  | .wait d, _, _, s => by
    rw [step.eq_def]
    exact .bind (sited_sleep c d) fun _ _ => .pure trivial
  | .raise error, hchild, _, s => by
    rw [step.eq_def]
    exact .bind (Calling.sited_interpolate hchild rfl (.error rfl) _ _ s) fun _ _ => .throw _
  | .listen mode waits queries, hchild, _, s => by
    rw [step.eq_def]
    exact .bind (Listening.sited_run c hchild rfl s) fun _ _ => .pure trivial
  | .assign value, hchild, _, s => by
    rw [step.eq_def]
    exact .bind (Running.Sited.traverse hchild (.value rfl) s .null) fun _ _ => .pure trivial
  | .custom body, hchild, _, s => by
    rw [step.eq_def]
    refine .bind (P := Any) ?_ fun _ _ => .pure trivial
    exact .bind (Running.Sited.traverse hchild (.body rfl) s .null) fun _ _ =>
      .bind_ask rfl fun _ => .pure trivial

end

end Sequence

/-! ## What is seen of the task -/

/-- The document of a site has a member for the task exactly at guards and exports. -/
theorem Site.get?_task (site : Site) (task : String) (result : Json) (s : Scope) :
    (s.document (site.locals task result)).get? "task" =
      if site.seesTask then some (.obj [("name", .str task)]) else none := by
  have hnone : (s.document []).get? "task" = none := by
    rw [Scope.document, Members.ofList]
    exact Members.get?_insertAll_of_not_mem _ (by decide)
  cases site with
  | guard => exact Members.get?_insert_self ..
  | exported =>
    -- the result is laid over the scope after the task, under another name
    show Members.get? (Members.insert (Members.insert _ _ _) _ _) _ = _
    rw [Members.get?_insert_of_ne _ (by decide)]
    exact Members.get?_insert_self ..
  | _ => exact hnone

namespace Evaluation

/-- The names that are laid over a scope at a site are that of the task and that of its result. -/
theorem same_of_sites {v : Json} (htask : "task" ∉ names v) (hresult : "result" ∉ names v)
    (site site' : Site) (task : String) (result : Json) (s : Scope) :
    Same (traverse v s (site.locals task result)) (traverse v s (site'.locals task result)) := by
  have hlocals (site : Site) (n : String) (hn : n ∈ names v) :
      n ∉ Members.keys (site.locals task result) := by
    have hne : n ≠ "task" ∧ n ≠ "result" :=
      ⟨fun h => htask (h ▸ hn), fun h => hresult (h ▸ hn)⟩
    cases site <;> simp [Site.locals, Members.keys, Sequence.taskBinding, hne]
  exact same_traverse s fun n hn => ⟨hlocals site n hn, hlocals site' n hn⟩

/-- A text is evaluated like a structure that is nothing but this text. -/
theorem evaluate_eq_traverse (raw : String) (s : Scope) (locals : Locals) :
    evaluate raw s locals = traverse (.str raw) s locals :=
  (traverse_eq_traverseIn (.str raw) s locals).symm

/-- The name of the task, as an expression. -/
def taskName : String := "$\x7b task.name \x7d"

theorem body?_taskName : body? taskName = some "task.name" := by decide +kernel

/-- Whether an expression is a field of a name. -/
def isFieldOf (name field : String) : Expr → Bool
  | .member (.ident s) f => s == name && f == field
  | _ => false

theorem eq_of_isFieldOf {name field : String} {x : Expr} (h : isFieldOf name field x = true) :
    x = .member (.ident name) field := by
  unfold isFieldOf at h
  split at h
  · rw [Bool.and_eq_true, beq_iff_eq, beq_iff_eq] at h
    rw [h.1, h.2]
  · cases h

theorem parse?_taskName : Expr.parse? "task.name" = some (.member (.ident "task") "name") := by
  -- expressions hold floats and cannot be compared, so the shape of the result is tested instead
  have h : (Expr.parse? "task.name").any (isFieldOf "task" "name") = true := by decide +kernel
  obtain ⟨x, hx, hfield⟩ := (Option.any_eq_true _ _).1 h
  rw [hx, eq_of_isFieldOf hfield]

/-- The name of the task has a value exactly where the task is seen, and then the right one. -/
theorem run_taskName (site : Site) (task : String) (result : Json) (s : Scope) (n : Nat) :
    ((⟨engine, .passThrough, n⟩ : Evaluator).run
        (traverse (.str taskName) s (site.locals task result))).1 =
      if site.seesTask then .ok (.str task)
      else .error (.expressionFailed taskName "Identifier 'task' is undefined") := by
  have hseen := Site.get?_task site task result s
  have hengine : engine n "task.name" (s.document (site.locals task result)) =
      if site.seesTask then .ok (.str task) else .error "Identifier 'task' is undefined" := by
    unfold engine
    rw [parse?_taskName]
    simp only [Expr.eval, hseen]
    cases site.seesTask <;> rfl
  rw [← evaluate_eq_traverse]
  unfold evaluate evaluateIn
  rw [body?_taskName]
  show (evaluateBody taskName "task.name" _ ⟨engine, .passThrough, n⟩).1 = _
  simp only [evaluateBody, Wrapper.wrap, runEngine, hengine]
  cases site.seesTask <;> rfl

end Evaluation

/-! ## A document whose task looks at itself -/

namespace Introspection

/-- A task with a guard that sees it. -/
def guarded : TaskBase := ⟨some "$\x7b task.name == 'a' \x7d", none, none, none, none, []⟩

/-- What the task assigns. -/
def value : Json := .obj [("x", .str Evaluation.taskName)]

def workflow : Workflow :=
  ⟨⟨"root", none, none, none⟩, none, none, [⟨"a", guarded, .assign value⟩]⟩

def root : Graph := ⟨"root", [⟨"a-0", "a", guarded, false, .assign value⟩], none⟩

def setting : Setting :=
  ⟨⟨"root", [root], .standard⟩, .ofSettings .standard, CallSettings.standard.timeout⟩

theorem compiled : Program.compile Kinds.standard .standard workflow = .ok setting.program := rfl

/-- How a run of the document fails, on a host without handlers. -/
def failure : Option String :=
  let code := (Host.programRun setting.program .null []).run
  (Host.run 60 (Host.start setting (.bare 0) .passThrough code)).result.bind fun
    | .error f => some f.message
    | .ok _ => none

end Introspection

namespace Sequence

/-- Whatever a list evaluates stands at a site of one of its tasks or of the tasks nested in it, and is
evaluated under what is laid over the scope there. The document has the name of the task exactly at
guards and exports. So an expression that names neither its task nor its result comes to the same at all
sites, and the name of the task has its value at guards and exports alone. -/
theorem task_seen_at_guards_and_exports (e : Setting) (c : Context) (entry : Option String)
    (input : Json) (first : Bool) (pending : Option String) (children : Children) (s : Scope) :
    (∀ log q k v s' locals,
      (run e c entry input first pending children s).run.Plays log (.ask q k) →
      q.evaluates? = some (v, s', locals) →
      ∃ list child site result, (Step.block list).Inside (.block children) ∧ child ∈ list ∧
        child.Declares site v ∧ locals = site.locals child.name result ∧
        (s'.document locals).get? "task" =
          if site.seesTask then some (.obj [("name", .str child.name)]) else none) ∧
    (∀ (site site' : Site) (task : String) (result : Json) (s' : Scope) (v : Json),
      "task" ∉ Evaluation.names v → "result" ∉ Evaluation.names v →
      Evaluation.Same (Evaluation.traverse v s' (site.locals task result))
        (Evaluation.traverse v s' (site'.locals task result))) ∧
    ∀ (site : Site) (task : String) (result : Json) (s' : Scope) (n : Nat),
      ((⟨Evaluation.engine, .passThrough, n⟩ : Evaluator).run
          (Evaluation.traverse (.str Evaluation.taskName) s' (site.locals task result))).1 =
        if site.seesTask then .ok (.str task)
        else .error (.expressionFailed Evaluation.taskName "Identifier 'task' is undefined") := by
  refine ⟨fun log q k v s' locals hplays hq => ?_, fun site site' task result s' v htask hresult =>
    Evaluation.same_of_sites htask hresult site site' task result s', Evaluation.run_taskName⟩
  -- the tasks of the list and those of the lists inside it
  have hsited : (run e c entry input first pending children s).Sited
      (fun child => ∃ list, (Step.block list).Inside (.block children) ∧ child ∈ list) Any :=
    sited_list e c entry input first pending children
      (fun child hchild => ⟨children, .self _, hchild⟩)
      (fun child hchild list hlist inner hinner => ⟨list, .block hchild hlist, hinner⟩) s
  obtain ⟨child, site, result, ⟨list, hlist, hchild⟩, hdeclares, rfl⟩ :=
    Dialogue.Heeds.allows hsited hplays v s' locals hq
  exact ⟨list, child, site, result, hlist, hchild, hdeclares, rfl, site.get?_task ..⟩

/-- What a task assigns is evaluated without its task, though its guard is evaluated with it. -/
theorem assigned_without_task :
    Program.compile Kinds.standard .standard Introspection.workflow =
        .ok Introspection.setting.program ∧
      Introspection.failure = some (Fault.expressionFailed Evaluation.taskName
        "Identifier 'task' is undefined").message ∧
      ¬ ∀ log q k v s locals,
        (runGraph Introspection.setting ⟨0, []⟩ Introspection.root .null (.start .null [])).run.Plays
          log (.ask q k) →
        q.evaluates? = some (v, s, locals) →
        ∃ child ∈ Introspection.root.children, ∃ site, child.Declares site v ∧
          (s.document locals).get? "task" = some (.obj [("name", .str child.name)]) := by
  refine ⟨Introspection.compiled, by decide +kernel, fun h => ?_⟩
  have hplays : ∃ k, (runGraph Introspection.setting ⟨0, []⟩ Introspection.root .null
      (.start .null [])).run.Plays
        [⟨.check Introspection.guarded.guard (.start .null []) [taskBinding "a"], .ok true⟩]
        (.ask (.traverse Introspection.value (.start .null []) []) k) :=
    ⟨_, .ask (.refl _)⟩
  obtain ⟨k, hplays⟩ := hplays
  obtain ⟨child, -, site, -, htask⟩ := h _ _ k _ _ _ hplays rfl
  have hunseen := Site.get?_task .value "a" .null (.start .null [])
  rw [show Site.locals "a" .null .value = [] from rfl, htask] at hunseen
  cases hunseen

end Sequence

end TaskGraph
