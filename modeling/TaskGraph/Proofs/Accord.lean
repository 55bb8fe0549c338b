import TaskGraph.Proofs.Program.Steps
import TaskGraph.Proofs.Sequence.Walk

/-!
# Relations that every task respects

A task is put together from requests, and each of its computations goes on from the answers alone.
So a relation between computations that respects the requests, `pure`, `throw`, `bind` and `outcome`
respects every task: `Accord` collects these conditions, and `Accord.related_step` is what follows for
the steps of a program, in two contexts that may differ.

Where requests are made is under control of the relation: `Contexts` are the contexts and `Scopes` the
scopes that computations are related in. A step works in one scope, of which it changes the data and
the output alone (`Scope.Alike`), and enters other ones from it (`Enters`). `Like` is what is seen of
that: the scopes that a step may make of one. What starts graphs and what runs them side by side is
under control of the relation as well: `Starts` are the names of the graphs whose runs are related,
`Runs` the processes that run them, and `Forks` says whether forks and detached graphs are.
-/

set_option autoImplicit false

namespace TaskGraph

open Running (Result Any)

/-- Whether two scopes differ in their data and outputs alone. -/
structure Scope.Alike (s s' : Scope) : Prop where
  input : s'.input = s.input
  env : s'.env = s.env
  marker : s'.marker = s.marker

namespace Scope.Alike

variable {s s' s'' : Scope}

theorem refl (s : Scope) : s.Alike s := ⟨rfl, rfl, rfl⟩

theorem trans (h : s.Alike s') (h' : s'.Alike s'') : s.Alike s'' :=
  ⟨h'.input.trans h.input, h'.env.trans h.env, h'.marker.trans h.marker⟩

theorem mergeData (s : Scope) (v : Json) : s.Alike (s.mergeData v) := by
  cases v <;> exact ⟨rfl, rfl, rfl⟩

theorem mergeValues (s : Scope) (values : List (Option Json)) :
    s.Alike (Forking.mergeValues s values) := by
  unfold Forking.mergeValues
  induction values generalizing s with
  | nil => exact .refl s
  | cons v values ih => exact (mergeData s _).trans (ih _)

theorem recorded (name : String) (value : Option Json) (s : Scope) :
    s.Alike (Sequence.recorded name value s) := by
  cases value <;> exact ⟨rfl, rfl, rfl⟩

end Scope.Alike

/-- A relation between computations that respects what they are put together with. -/
structure Accord.Rules where
  /-- Relates two computations that end alike, in a value with a property or in a fault. -/
  Related : {α : Type} → (α → Prop) → Running α → Running α → Prop
  /-- The faults that computations may end in. -/
  Faults : Fault → Prop
  /-- The contexts that requests are made in. -/
  Contexts : Context → Context → Prop
  fault : ∀ f, f.ordinary = true → f.abandons = false → Faults f
  ofValue : ∀ {α : Type} {P : α → Prop} {a : α}, P a → Related P (pure a) (pure a)
  ofFault : ∀ {α : Type} {P : α → Prop} {f : Fault}, Faults f →
    Related P (throw f) (throw f)
  bind : ∀ {α β : Type} {P : α → Prop} {Q : β → Prop} {r r' : Running α} {k k' : α → Running β},
    Related P r r' → (∀ a, P a → Related Q (k a) (k' a)) → Related Q (r >>= k) (r' >>= k')
  mono : ∀ {α : Type} {P P' : α → Prop} {r r' : Running α},
    Related P r r' → (∀ a, P a → P' a) → Related P' r r'
  outcome : ∀ {α : Type} {P : α → Prop} {r r' : Running α},
    Related P r r' → Related (Result Faults P) r.outcome r'.outcome

/-- A relation between computations of a program that respects what tasks are made of. A call and a fork
are each one of these things, for what they ask for is in an order of its own. -/
structure Accord (e : Setting) extends Accord.Rules where
  /-- The values that a structure may evaluate to. -/
  Reads : Json → Json → Prop
  /-- The names of the graphs whose runs are related. -/
  Starts : String → Prop
  /-- The processes that run such graphs. -/
  Runs : WorkflowProcess → Prop
  /-- Whether graphs may be run side by side or without being waited for. -/
  Forks : Prop
  /-- The inputs that steps are given. -/
  Inputs : Json → Prop
  /-- The scopes that steps work in. -/
  Scopes : Scope → Prop
  /-- What a step may make of a scope. -/
  Like : Scope → Scope → Prop
  /-- The inputs and scopes that graphs are started with. -/
  Enters : Json → Scope → Prop
  evaluate : ∀ text s locals, Scopes s →
    Related Any (Running.evaluate text s locals) (Running.evaluate text s locals)
  traverse : ∀ v s locals, Scopes s →
    Related (Reads v) (Running.traverse v s locals) (Running.traverse v s locals)
  check : ∀ guard s locals, Scopes s →
    Related Any (Running.check guard s locals) (Running.check guard s locals)
  cancelled : ∀ c c', Contexts c c' → Related Any (Running.cancelled c) (Running.cancelled c')
  record : ∀ c c' event, Contexts c c' → event.isRunEvent = false → event.call? = none →
    Related Any (Running.record c event) (Running.record c' event)
  tell : ∀ notice, notice.ofGraph = false →
    (∀ task input body, notice = .custom task input body → Inputs input) →
    Related Any (Running.tell notice) (Running.tell notice)
  publish : ∀ m, Related Any (Running.ask (.publish m)) (Running.ask (.publish m))
  respond : ∀ id v,
    Related Any (Running.ask (.respond id v)) (Running.ask (.respond id v))
  request : ∀ c c' r, Contexts c c' →
    Related Any (Calling.request e c r) (Calling.request e c' r)
  beat : ∀ c c' interval, Contexts c c' →
    Related Any (Running.ask (.beat c interval)) (Running.ask (.beat c' interval))
  still : ∀ n, Related Any (Running.ask (.still n)) (Running.ask (.still n))
  pause : ∀ c c' d, Contexts c c' → Related Any (Running.pause c d) (Running.pause c' d)
  listen : ∀ c c' mode signals, Contexts c c' →
    Related Any (Running.listen c mode signals) (Running.listen c' mode signals)
  /-- The graph that a process runs once its name is read. -/
  named : ∀ (process q : WorkflowProcess) v, Runs process → Reads process.toJson v →
    WorkflowProcess.decode v = .ok q → Starts q.name
  like : ∀ {s s' : Scope}, s.Alike s' → Like s s'
  like_trans : ∀ {s s' s'' : Scope}, Like s s' → Like s' s'' → Like s s''
  keeps : ∀ {s s' : Scope}, Scopes s → Like s s' → Scopes s'
  /-- Scopes are told by their inputs and environments. -/
  told : ∀ {s s' : Scope}, Scopes s → s'.input = s.input → s'.env = s.env → Scopes s'
  /-- A graph is started with the input of the scope that it is started in, or with that of the step,
  in a scope entered from that of the step. -/
  enters : ∀ {input : Json} {s s' : Scope}, Scopes s → s'.env = s.env →
    s'.input = input ∨ Inputs input ∧ s'.input = s.input → Enters input s'
  graph : ∀ c c' name input (s : Scope), Contexts c c' → Starts name → Enters input s →
    s.marker = none →
    Related Any (Restart.runGraph e.program c name input s)
      (Restart.runGraph e.program c' name input s)
  detach : Forks → ∀ c c' name input (s : Scope), Contexts c c' → Starts name → Enters input s →
    s.marker = none → Related Any (Restart.startGraph e.program c name input s)
      (Restart.startGraph e.program c' name input s)
  fork : Forks → ∀ c c' task compete branches input (s : Scope), Contexts c c' →
    (∀ branch ∈ branches, Starts branch.graph) → Inputs input → Scopes s →
    Related (fun r => s.Alike r.2) (Forking.run c task compete branches input s)
      (Forking.run c' task compete branches input s)

/-- A check against a schema ends in an ordinary outcome. -/
theorem Schema.own_violations (schema v : Json) : Fault.Own (Schema.violations schema v) := by
  unfold violations
  split
  · exact Fault.own_ok _
  · exact Fault.own_error ⟨rfl, rfl, rfl⟩

theorem Schema.own_validate (subject : String) (schema v : Json) :
    Fault.Own (Schema.validate subject schema v) := by
  unfold validate
  cases hv : violations schema v with
  | error g => exact Fault.own_error (own_violations schema v g hv)
  | ok vs =>
    cases vs with
    | nil => exact Fault.own_ok _
    | cons v vs => exact Fault.own_error ⟨rfl, rfl, rfl⟩

namespace Accord.Rules

variable (R : Accord.Rules) {e : Setting} {c c' : Context} {α : Type} {P : α → Prop}

theorem related_ofExcept {x : Except Fault α} (h : Result R.Faults P x) :
    R.Related P (Running.ofExcept x) (Running.ofExcept x) := by
  cases x with
  | ok a => exact R.ofValue h
  | error f => exact R.ofFault h

/-! ## Calls -/

section

variable (hpause : ∀ d, R.Related Any (Running.pause c d) (Running.pause c' d))
include hpause

theorem related_retrying (policy : RetryPolicy) {operation operation' : Nat → Running α}
    (h : ∀ n, R.Related P (operation n) (operation' n)) (left attempt : Nat) :
    R.Related P (Calling.retrying policy c operation attempt left)
      (Calling.retrying policy c' operation' attempt left) := by
  induction left using Nat.strongRecOn generalizing attempt with | ind left ih =>
  rw [Calling.retrying.eq_def, Calling.retrying.eq_def policy c']
  refine R.bind (R.outcome (h attempt)) fun x hx => ?_
  cases x with
  | ok a => exact R.ofValue hx
  | error f =>
    cases left with
    -- no attempt is left, so even a fault that could be retried is the outcome
    | zero => cases hf : f.retryable <;> (simp only [hf]; exact R.ofFault hx)
    | succ left =>
      cases hf : f.retryable with
      | false =>
        simp only [hf]
        exact R.ofFault hx
      | true =>
        simp only [hf]
        refine R.bind (hpause _) fun waited _ => ?_
        cases waited with
        | true => exact ih left left.lt_succ_self (attempt + 1)
        | false => exact R.ofFault (R.fault _ rfl rfl)

section

variable (hrecord : ∀ event, event.isRunEvent = false →
    R.Related Any (Running.record c event) (Running.record c' event))
  (hdispatch : ∀ r timeout,
    R.Related Any (Running.dispatch c r timeout) (Running.dispatch c' r timeout))
include hrecord hdispatch

omit hpause in
theorem related_attempt (r : CallRequest) (timeout : Duration) (number : Nat) :
    R.Related Any (Calling.attempt c r timeout number) (Calling.attempt c' r timeout number) := by
  refine R.bind (hrecord _ rfl) fun _ _ => ?_
  refine R.bind (R.outcome (hdispatch r timeout)) fun x hx => ?_
  cases x with
  | ok v => exact R.ofValue trivial
  | error f => exact R.bind (hrecord _ rfl) fun _ _ => R.ofFault hx

theorem related_perform (r : CallRequest) :
    R.Related Any (Calling.perform e c r) (Calling.perform e c' r) :=
  R.bind (R.related_retrying hpause _ (fun n => R.related_attempt hrecord hdispatch r _ n) _ _) fun _ _ =>
    R.bind (hrecord _ rfl) fun _ _ => R.ofValue trivial

/-- A call is put together from requests. -/
theorem related_request (htell : ∀ r, R.Related Any (Running.tell (.call r)) (Running.tell (.call r)))
    (hoffer : ∀ r, R.Related (fun x => ∀ v, x = some v → Result R.Faults Any v)
      (Running.ask (.offer r)) (Running.ask (.offer r))) (r : CallRequest) :
    R.Related Any (Calling.request e c r) (Calling.request e c' r) := by
  refine R.bind (htell r) fun _ _ => R.bind (hoffer r) fun x hx => ?_
  cases x with
  | none => exact R.related_perform hpause hrecord hdispatch r
  | some x => exact R.related_ofExcept (hx x rfl)

end

end

/-! ## Forks -/

section

/-- Whether the failure that a join has noted, if any, is one that computations may end in. -/
def Admits (j : Join) : Prop := ∀ f, j.failure = some f → R.Faults f

theorem admits_start (compete : Bool) (branches : Nat) :
    R.Admits (Join.start compete branches) := by
  intro f hf
  cases hf

theorem admits_reply {j : Join} (h : R.Admits j) (branch : Nat) {x : Except Fault Json}
    (hx : Result R.Faults Any x) : R.Admits (j.reply branch x).1 := by
  -- only a fault can become the fault of the join, and only if there is none yet
  have houtcome : ∀ j : Join, R.Admits j → R.Admits (j.outcome branch x) := by
    intro j hj
    cases x with
    | ok v =>
      show R.Admits (j.value branch v)
      unfold Join.value
      split
      · exact hj
      · exact hj
    | error f =>
      show R.Admits (j.fault f)
      unfold Join.fault
      split
      · exact hj
      · intro g hg
        cases hg
        exact hx
  have hj := houtcome { j with replied := j.replied.set branch true } h
  unfold Join.reply
  dsimp only
  split <;> exact hj

theorem failure_of_verdict {j : Join} {f : Fault} (h : j.verdict = .failed f) :
    j.failure = some f := by
  unfold Join.verdict at h
  split at h
  · cases h
  · cases h
    assumption
  · cases h
  · cases h

theorem related_conclude (hcancelled : R.Related Any (Running.cancelled c) (Running.cancelled c'))
    (task : String) (branches : List Branch) (s : Scope) {verdict : Join.Verdict}
    (h : ∀ f, verdict = .failed f → R.Faults f) :
    R.Related (fun r => s.Alike r.2) (Forking.conclude c task branches s verdict)
      (Forking.conclude c' task branches s verdict) := by
  cases verdict with
  | won v => exact R.ofValue (.mergeData s v)
  | joined values => exact R.ofValue (.mergeValues s values)
  | failed f => exact R.ofFault (h f rfl)
  | stopped =>
    refine R.bind hcancelled fun cancelled _ => ?_
    cases cancelled with
    | true => exact R.ofFault (R.fault _ rfl rfl)
    | false => exact R.ofValue (.refl s)

variable
  (hreply : R.Related (fun x => Result R.Faults Any x.2) (Running.ask .reply) (Running.ask .reply))
  (hstop : ∀ branches,
    R.Related Any (Running.ask (.stop branches)) (Running.ask (.stop branches)))
include hreply hstop

theorem related_collect (left : Nat) {j : Join} (hj : R.Admits j) :
    R.Related R.Admits (Forking.collect left j) (Forking.collect left j) := by
  induction left generalizing j with
  | zero => exact R.ofValue hj
  | succ left ih =>
    refine R.bind hreply fun ⟨branch, outcome⟩ houtcome => ?_
    have hreplied := R.admits_reply hj branch houtcome
    show R.Related _ (if (j.reply branch outcome).2.isEmpty then _ else _)
      (if (j.reply branch outcome).2.isEmpty then _ else _)
    split
    · exact ih hreplied
    · exact R.bind (hstop _) fun _ _ => ih hreplied

/-- A fork is put together from requests. -/
theorem related_fork (hcancelled : R.Related Any (Running.cancelled c) (Running.cancelled c'))
    (task : String) (compete : Bool) {branches : List Branch} {input : Json} {s : Scope}
    (hfork : R.Related Any (Running.ask (.fork c (branches.map Branch.graph) input s.child))
      (Running.ask (.fork c' (branches.map Branch.graph) input s.child))) :
    R.Related (fun r => s.Alike r.2) (Forking.run c task compete branches input s)
      (Forking.run c' task compete branches input s) :=
  R.bind hfork fun _ _ =>
    R.bind (R.related_collect hreply hstop _ (R.admits_start compete _)) fun _ hj =>
      R.related_conclude hcancelled task branches s fun f hf => hj f (failure_of_verdict hf)

end

end Accord.Rules

namespace Accord

variable {e : Setting} (R : Accord e) {c c' : Context} {α β : Type} {P P' : α → Prop}

theorem related_own {x : Except Fault α} (h : Fault.Own x) :
    R.Related Any (Running.ofExcept x) (Running.ofExcept x) := by
  cases x with
  | ok a => exact R.ofValue trivial
  | error f => exact R.ofFault (R.fault f (h f rfl).1 (h f rfl).2.2)

/-! ## Calls -/

section

variable {s : Scope} (hs : R.Scopes s)
include hs

theorem related_interpolate (task : String) (decode : Decoder α) (payload : Json) :
    R.Related (fun a => ∃ v, R.Reads payload v ∧ decode v = .ok a)
      (Calling.interpolate task decode payload s) (Calling.interpolate task decode payload s) := by
  refine R.bind (R.traverse payload s [] hs) fun v hv => ?_
  cases h : decode v with
  | ok a => exact R.ofValue ⟨v, hv, h⟩
  | error e => exact R.ofFault (R.fault _ rfl rfl)

/-- The arguments of a call, read from what they evaluate to. -/
theorem related_arguments (task : String) (decode : Decoder α) (payload : Json)
    (f : α → Invocation) :
    R.Related Any (do return f (← Calling.interpolate task decode payload s))
      (do return f (← Calling.interpolate task decode payload s)) :=
  R.bind (R.related_interpolate hs task decode payload) fun _ _ => R.ofValue trivial

theorem related_callInvocation (task : String) (call : Call) :
    R.Related Any (Calling.callInvocation task s call) (Calling.callInvocation task s call) := by
  cases call <;> exact R.related_arguments hs ..

end

section

variable (hc : R.Contexts c c')
include hc

theorem related_withHeartbeat (metadata : Members) {call call' : Running Json}
    (h : R.Related Any call call') :
    R.Related Any (Calling.withHeartbeat c metadata call)
      (Calling.withHeartbeat c' metadata call') := by
  unfold Calling.withHeartbeat
  split
  · exact h
  · exact R.bind (R.tell _ rfl nofun) fun _ _ => R.bind (R.beat c c' _ hc) fun beat _ =>
      R.bind (R.outcome h) fun x hx => R.bind (R.still beat) fun _ _ => R.related_ofExcept hx

theorem related_invoke (task : String) (base : TaskBase) (timeout : Option Duration)
    {invocation : Running Invocation} (h : R.Related Any invocation invocation) :
    R.Related Any (Calling.invoke e c task base timeout invocation)
      (Calling.invoke e c' task base timeout invocation) :=
  R.bind h fun _ _ => R.related_withHeartbeat hc base.metadata (R.request c c' _ hc)

end

/-! ## Tasks that run graphs -/

section

variable (hc : R.Contexts c c') {s : Scope} (hs : R.Scopes s)
include hc hs

/-- A graph that is run in a scope entered from that of a step. -/
theorem related_runGraph {name : String} (h : R.Starts name) {input : Json} {s' : Scope}
    (henv : s'.env = s.env) (hinput : s'.input = input ∨ R.Inputs input ∧ s'.input = s.input)
    (hmarker : s'.marker = none) :
    R.Related Any (Restart.runGraph e.program c name input s')
      (Restart.runGraph e.program c' name input s') :=
  R.graph c c' name input s' hc h (R.enters hs henv hinput) hmarker

theorem related_switch {input : Json} (hinput : R.Inputs input) (cases : List SwitchCase)
    (h : ∀ case ∈ cases, ∀ graph, case.next = some (.target graph) → R.Starts graph) :
    R.Related Any (Sequence.switch e c input s cases) (Sequence.switch e c' input s cases) := by
  induction cases with
  | nil => exact R.ofValue trivial
  | cons case cases ih =>
    refine R.bind (R.check _ _ _ hs) fun holds _ => ?_
    cases holds with
    | false => exact ih fun case' hcase => h case' (List.mem_cons_of_mem _ hcase)
    | true =>
      cases hnext : case.next with
      | none => exact R.ofValue trivial
      | some flow =>
        cases flow with
        | target graph =>
          exact R.bind (R.related_runGraph hc hs (h case (List.mem_cons_self ..) graph hnext) rfl
            (.inr ⟨hinput, rfl⟩) rfl) fun _ _ => R.ofValue trivial
        | stop => exact R.ofValue trivial
        | next => exact R.ofValue trivial

theorem related_attemptTask {input : Json} (hinput : R.Inputs input) (body handler : Option String)
    (binding : String) (hbody : ∀ graph, body = some graph → R.Starts graph)
    (hhandler : ∀ graph, handler = some graph → R.Starts graph) :
    R.Related Any (Sequence.attempt e c input s body handler binding)
      (Sequence.attempt e c' input s body handler binding) := by
  cases body with
  | none => exact R.ofValue trivial
  | some body =>
    refine R.bind (R.outcome (R.related_runGraph hc hs (hbody body rfl) rfl (.inr ⟨hinput, rfl⟩) rfl))
      fun x hx => ?_
    cases x with
    | ok v => exact R.ofValue trivial
    | error f =>
      -- a body that was cancelled has no value, and a request for a restart is never handled
      cases hcancelled : f.isCancelled with
      | true =>
        simp only [hcancelled]
        exact R.ofValue trivial
      | false =>
        cases hcontinuation : f.isContinuation with
        | true =>
          simp only [hcancelled, hcontinuation]
          exact R.ofFault hx
        | false =>
          simp only [hcancelled, hcontinuation]
          cases handler with
          | none => exact R.ofValue trivial
          | some handler =>
            exact R.bind (R.related_runGraph hc hs (hhandler handler rfl) rfl (.inr ⟨hinput, rfl⟩)
              rfl) fun _ _ => R.ofValue trivial

theorem related_graphProcess (task : String) (input : Json) (process : WorkflowProcess)
    (awaits : Bool) (hruns : R.Runs process) (hforks : awaits = false → R.Forks) :
    R.Related Any (Sequence.graphProcess e c task input s process awaits)
      (Sequence.graphProcess e c' task input s process awaits) := by
  refine R.bind (R.related_interpolate hs ..) fun q ⟨v, hv, hq⟩ => ?_
  have hname : R.Starts q.name := R.named process q v hruns hv hq
  cases awaits with
  | true =>
    exact R.bind (R.related_runGraph hc hs hname rfl (.inl rfl) rfl) fun _ _ => R.ofValue trivial
  | false =>
    exact R.bind (R.detach (hforks rfl) c c' _ _ _ hc hname (R.enters hs rfl (.inl rfl)) rfl)
      fun _ _ => R.ofValue trivial

/-! ## Loops -/

theorem related_element (b : LoopBody) (key item : Json) (h : R.Starts b.graph) :
    R.Related Any (Iteration.element e.program c b s key item)
      (Iteration.element e.program c' b s key item) := by
  have hgoesOn : R.Related Any (Iteration.goesOn b (Iteration.elementScope b s key item))
      (Iteration.goesOn b (Iteration.elementScope b s key item)) := by
    unfold Iteration.goesOn
    split
    · exact R.ofValue trivial
    · exact R.bind (R.evaluate _ _ _ (R.told hs rfl rfl)) fun _ _ => R.ofValue trivial
  refine R.bind hgoesOn fun goesOn _ => ?_
  cases goesOn with
  | true => exact R.bind (R.related_runGraph hc hs h rfl (.inl rfl) rfl) fun _ _ => R.ofValue trivial
  | false => exact R.ofValue trivial

theorem related_items (b : LoopBody) (h : R.Starts b.graph) (index : Nat) (xs : List Json) :
    R.Related Any (Iteration.items e.program c b s index xs)
      (Iteration.items e.program c' b s index xs) := by
  induction xs generalizing index with
  | nil => exact R.ofValue trivial
  | cons x xs ih =>
    refine R.bind (R.related_element hc hs b _ x h) fun v _ => ?_
    cases v with
    | none => exact R.ofValue trivial
    | some v => exact R.bind (ih (index + 1)) fun _ _ => R.ofValue trivial

theorem related_entries (b : LoopBody) (h : R.Starts b.graph) (m : List (String × Json)) :
    R.Related Any (Iteration.entries e.program c b s m) (Iteration.entries e.program c' b s m) := by
  induction m with
  | nil => exact R.ofValue trivial
  | cons entry m ih =>
    refine R.bind (R.related_element hc hs b _ entry.2 h) fun v _ => ?_
    cases v with
    | none => exact R.ofValue trivial
    | some v => exact R.bind ih fun _ _ => R.ofValue trivial

omit hc hs in
theorem own_elements (task : String) (v : Json) : Fault.Own (Iteration.elements task v) := by
  unfold Iteration.elements
  split
  · exact Fault.own_ok _
  · exact Fault.own_ok _
  · split
    · exact Fault.own_ok _
    · exact Fault.own_error ⟨rfl, rfl, rfl⟩
  · exact Fault.own_error ⟨rfl, rfl, rfl⟩

theorem related_loop (b : LoopBody) (source : Json) (h : R.Starts b.graph) :
    R.Related Any (Iteration.run e.program c b source s)
      (Iteration.run e.program c' b source s) := by
  refine R.bind (R.traverse _ _ _ hs) fun v _ =>
    R.bind (R.related_own (own_elements b.task v)) fun es _ => ?_
  cases es with
  | members m => exact R.bind (R.related_entries hc hs b h m) fun _ _ => R.ofValue trivial
  | items xs => exact R.bind (R.related_items hc hs b h 0 xs) fun _ _ => R.ofValue trivial

end

/-- Whether the scope after a task is one that a step may make of the scope before it. -/
def Keeps (s : Scope) (r : Option Json × Scope) : Prop := R.Like s r.2

section

variable (hc : R.Contexts c c')
include hc

/-! ## Listeners -/

section

variable {s : Scope} (hs : R.Scopes s)
include hs

theorem related_register (q : Query) :
    R.Related Any (Listening.register c s q) (Listening.register c' s q) := by
  have hrest (v : Json) : R.Related Any
      (do
        Running.tell (.query q.id v)
        Running.ask (.respond q.id v)
        Running.record c (.queryRegistered q.id))
      (do
        Running.tell (.query q.id v)
        Running.ask (.respond q.id v)
        Running.record c' (.queryRegistered q.id)) :=
    R.bind (R.tell _ rfl nofun) fun _ _ => R.bind (R.respond q.id v) fun _ _ =>
      R.record c c' _ hc rfl rfl
  unfold Listening.register
  cases q.response with
  | none => exact hrest _
  | some v => exact R.bind (R.traverse v s [] hs) fun v _ => hrest v

theorem related_registerAll (qs : List Query) :
    R.Related Any (Listening.registerAll c s qs) (Listening.registerAll c' s qs) := by
  induction qs with
  | nil => exact R.ofValue trivial
  | cons q qs ih => exact R.bind (R.related_register hc hs q) fun _ _ => ih

theorem related_listen (mode : ListenMode) (waits : List String) (queries : List Query) :
    R.Related Any (Listening.run c mode waits queries s)
      (Listening.run c' mode waits queries s) := by
  refine R.bind (R.related_registerAll hc hs queries) fun _ _ => ?_
  cases waits with
  | nil => exact R.ofValue trivial
  | cons name waits => exact R.bind (R.listen c c' mode _ hc) fun _ _ => R.ofValue trivial

end

/-! ## Around a task -/

theorem related_publish (name : String) (base : TaskBase) {s : Scope} (hs : R.Scopes s) :
    R.Related Any (Sequence.publish c name base s) (Sequence.publish c' name base s) := by
  unfold Sequence.publish
  cases base.metadata.get? "searchAttributes" with
  | none => exact R.ofValue trivial
  | some v =>
    refine R.bind (R.traverse v s [] hs) fun v _ => ?_
    cases v with
    | obj m => exact R.bind (R.publish m) fun _ _ => R.record c c' _ hc rfl rfl
    | _ => exact R.ofFault (R.fault _ rfl rfl)

omit hc in
theorem related_export (name : String) (base : TaskBase) (value : Option Json) {s : Scope}
    (hs : R.Scopes s) :
    R.Related (R.Like s) (Sequence.export_ name base value s) (Sequence.export_ name base value s) := by
  unfold Sequence.export_
  cases base.exported with
  | none => exact R.ofValue (R.like (.refl s))
  | some v => exact R.bind (R.traverse _ _ _ hs) fun _ _ => R.ofValue (R.like ⟨rfl, rfl, rfl⟩)

omit hc in
theorem own_checkInput (options : ProgramOptions) (name : String) (base : TaskBase) (s : Scope) :
    Fault.Own (Sequence.checkInput options name base s) := by
  unfold Sequence.checkInput
  split
  · split
    · exact Schema.own_validate name _ _
    · exact Fault.own_ok _
  · exact Fault.own_ok _

/-- What a list makes of the outcome of a child keeps the scope, if the child did. -/
theorem related_absorb (s : Scope) {x : Except Fault (Option Json × Scope)}
    (h : Result R.Faults (R.Keeps s) x) :
    R.Related (fun r => ∀ y, r = some y → R.Keeps s y) (Sequence.absorb c s x)
      (Sequence.absorb c' s x) := by
  cases x with
  | ok r =>
    refine R.ofValue fun y hy => ?_
    cases hy
    exact h
  | error f =>
    cases hf : f.isCancelled with
    | false =>
      simp only [Sequence.absorb, hf]
      exact R.ofFault h
    | true =>
      -- the fault of a cancelled child is dropped; the list ends only if it is cancelled itself
      simp only [Sequence.absorb, hf]
      refine R.bind (R.cancelled c c' hc) fun cancelled _ => ?_
      cases cancelled with
      | true =>
        refine R.ofValue fun y hy => ?_
        cases hy
      | false =>
        refine R.ofValue fun y hy => ?_
        cases hy
        exact R.like (.refl s)

/-- Whether a turn leads on in a scope that a step may make of another one, and to a target, if it
leads on. -/
def KeepsTurn (s : Scope) (target : Option String) : Sequence.Turn → Prop
  | .stop s' => R.Like s s'
  | .next pending s' => pending = target ∧ R.Like s s'

theorem related_rerun {s : Scope} {body body' : Sequence.Doing}
    (h : R.Related (R.Keeps s) (body s) (body' s)) :
    R.Related (R.KeepsTurn s none) (Sequence.rerun c body s) (Sequence.rerun c' body' s) := by
  refine R.bind (R.outcome h) fun x hx => R.bind (R.related_absorb hc s hx) fun y hy => ?_
  cases y with
  | none => exact R.ofValue (R.like (.refl s))
  | some y => exact R.ofValue ⟨rfl, hy y rfl⟩

theorem related_enact (name : String) (base : TaskBase) {s : Scope} (hs : R.Scopes s)
    {body body' : Sequence.Doing} (h : R.Related (R.Keeps s) (body s) (body' s)) :
    R.Related (R.KeepsTurn s (Sequence.pendingTarget base.next))
      (Sequence.enact e c name base body s) (Sequence.enact e c' name base body' s) := by
  refine R.bind (R.related_own (own_checkInput _ name base s)) fun _ _ =>
    R.bind (R.related_publish hc name base hs) fun _ _ =>
    R.bind (R.outcome h) fun x hx => R.bind (R.related_absorb hc s hx) fun y hy => ?_
  cases y with
  | none => exact R.ofValue (R.like (.refl s))
  | some y =>
    obtain ⟨value, s'⟩ := y
    have hkeeps : R.Like s s' := hy _ rfl
    have hrecorded := R.like_trans hkeeps (R.like (.recorded name value s'))
    refine R.bind (R.related_export name base value (R.keeps hs hrecorded))
      fun s'' hs'' => R.ofValue ?_
    have hexported := R.like_trans hrecorded hs''
    unfold Sequence.Turn.after
    split
    · exact hexported
    · exact ⟨rfl, hexported⟩

/-- Whether a turn leads on in a scope that a step may make of another one, and to no other target than
that of a flow directive. -/
def Turns (s : Scope) (next : Option Flow) : Sequence.Turn → Prop
  | .stop s' => R.Like s s'
  | .next pending s' =>
    (pending = none ∨ pending = Sequence.pendingTarget next) ∧ R.Like s s'

theorem related_turn (r : Resumption) (id name : String) (base : TaskBase) (replayed : Bool)
    {s : Scope} (hs : R.Scopes s) {body body' : Sequence.Doing}
    (hbody : R.Related (R.Keeps s) (body s) (body' s)) :
    R.Related (R.Turns s base.next) (Sequence.turn e c r ⟨id, name, base, replayed, body⟩ s)
      (Sequence.turn e c' r ⟨id, name, base, replayed, body'⟩ s) := by
  refine R.bind (R.check _ _ _ hs) fun holds _ => ?_
  cases holds with
  | false => exact R.ofValue ⟨.inl rfl, R.like (.refl s)⟩
  | true =>
    show R.Related _ (if r = .replay then _ else _) (if r = .replay then _ else _)
    -- a replayed child follows no flow directive
    split
    · refine R.mono (R.related_rerun hc hbody) fun t ht => ?_
      cases t with
      | stop s' => exact ht
      | next pending s' => exact ⟨.inl ht.1, ht.2⟩
    · refine R.mono (R.related_enact hc name base hs hbody) fun t ht => ?_
      cases t with
      | stop s' => exact ht
      | next pending s' => exact ⟨.inr ht.1, ht.2⟩

/-- A visited child and the rest of its list. -/
theorem related_visit {Q : Scope → Prop} (r : Resumption) (id name : String) (base : TaskBase)
    (replayed : Bool) {s : Scope} (hs : R.Scopes s) {body body' : Sequence.Doing}
    {go go' : Option String → Scope → Running Scope}
    (hbody : R.Related (R.Keeps s) (body s) (body' s))
    (hstop : ∀ s', R.Like s s' → Q s')
    (hgo : ∀ pending s', R.Like s s' → R.Related Q (go pending s') (go' pending s')) :
    R.Related Q (Sequence.visit e c r ⟨id, name, base, replayed, body⟩ s go)
      (Sequence.visit e c' r ⟨id, name, base, replayed, body'⟩ s go') := by
  rw [Sequence.visit_eq_turn, Sequence.visit_eq_turn]
  refine R.bind (R.related_turn hc r id name base replayed hs hbody) fun t ht => ?_
  cases t with
  | stop s' => exact R.ofValue (hstop s' ht)
  | next pending s' => exact hgo pending s' ht.2

/-! ## Steps -/

theorem related_sleep (d : Duration) :
    R.Related Any (Sequence.sleep c d) (Sequence.sleep c' d) := by
  refine R.bind (R.tell _ rfl nofun) fun _ _ => R.bind (R.record c c' _ hc rfl rfl) fun _ _ =>
    R.bind (R.pause c c' d hc) fun waited _ => ?_
  cases waited with
  | true => exact R.record c c' _ hc rfl rfl
  | false => exact R.ofFault (R.fault _ rfl rfl)

theorem related_process (task : String) (base : TaskBase) (input : Json) {s : Scope}
    (hs : R.Scopes s) (run : ProcessRun) (timeout : Option Duration)
    (h : ∀ process, run.process = .workflow process →
      R.Runs process ∧ (run.awaits = false → R.Forks)) :
    R.Related Any (Sequence.process e c task base input s run timeout)
      (Sequence.process e c' task base input s run timeout) := by
  unfold Sequence.process
  cases hprocess : run.process with
  | workflow process =>
    exact R.related_graphProcess hc hs task input process _ (h process hprocess).1
      (h process hprocess).2
  | _ =>
    exact R.bind (R.related_invoke hc task base timeout (R.related_arguments hs ..))
      fun _ _ => R.ofValue trivial

end

/-- Whether all that a step may start, by itself or in its nested lists, is under the relation. -/
structure Permits (step : Step) : Prop where
  names : ∀ inner : Step, inner.Inside step → ∀ name, inner.Names name → R.Starts name
  runs : ∀ inner : Step, inner.Inside step → ∀ process, inner.Runs process → R.Runs process
  forks : ∀ inner : Step, inner.Inside step → inner.Spawns → R.Forks

variable {R}

theorem Permits.child {children : Children} (h : R.Permits (.block children)) {child : Child Step}
    (hchild : child ∈ children) : R.Permits child.action where
  names inner hinner := h.names inner (.block hchild hinner)
  runs inner hinner := h.runs inner (.block hchild hinner)
  forks inner hinner := h.forks inner (.block hchild hinner)

variable (R) {J : Scope → Prop}

/-- Whether a list that is the whole of a graph may be left for a new run, in the scopes that it comes
to. -/
structure Leaves (J : Scope → Prop) (c c' : Context) (name : String) (input : Json) : Prop where
  due : ∀ limit, R.Related Any (Running.ask (.due c limit)) (Running.ask (.due c' limit))
  suspend : ∀ id s, J s →
    R.Related J (Restart.suspend c name id input s) (Restart.suspend c' name id input s)
  resumed : ∀ s : Scope, J s → J { s with marker := none }

section

variable {entry : Option String} {input : Json}
  (hleaves : ∀ name, entry = some name → R.Leaves J c c' name input)
include hleaves

/-- Only a list that is the whole of a graph is left. -/
theorem related_leaves (first : Bool) (s : Scope) :
    R.Related (fun leaves => leaves = true → ∃ name, entry = some name)
      (Sequence.leaves e c entry first s) (Sequence.leaves e c' entry first s) := by
  cases entry with
  | none => exact R.ofValue nofun
  | some name =>
    unfold Sequence.leaves
    split
    · exact R.mono ((hleaves name rfl).due _) fun _ _ _ => ⟨name, rfl⟩
    · exact R.ofValue nofun

theorem resumed_of_leaves (id : String) (replayed : Bool) {s : Scope} (hs : J s) :
    J (Restart.resumption id replayed entry.isSome s).2 := by
  cases entry with
  | none =>
    -- a marker stays until its own list comes to it
    obtain ⟨r, hr⟩ := Sequence.resumption_nested id replayed s
    rw [Option.isSome_none, hr]
    exact hs
  | some name =>
    unfold Restart.resumption
    split
    · exact hs
    · split
      · exact (hleaves name rfl).resumed s hs
      · exact hs

end

variable (hc : R.Contexts c c')
include hc

mutual

/-- A list runs alike in two contexts and comes to no other scopes than steps lead to. -/
theorem related_list {input : Json} (hinput : R.Inputs input) {J : Scope → Prop}
    (hscopes : ∀ s, J s → R.Scopes s) (hlike : ∀ s s', J s → R.Like s s' → J s')
    (entry : Option String) (hleaves : ∀ name, entry = some name → R.Leaves J c c' name input)
    (first : Bool) (pending : Option String) :
    (children : Children) → (∀ child ∈ children, R.Permits child.action) → (s : Scope) → J s →
      R.Related J (Sequence.run e c entry input first pending children s)
        (Sequence.run e c' entry input first pending children s)
  | [], _, s, hs => by
    rw [Sequence.run_nil, Sequence.run_nil]
    cases pending with
    | none => exact R.ofValue hs
    | some target => exact R.ofFault (R.fault _ rfl rfl)
  | ⟨id, name, base, replayed, action⟩ :: rest, h, s, hs => by
    -- along the list: what is left of it runs alike from every scope that `J` allows
    have hrest (pending : Option String) (s' : Scope) (hs' : J s') :=
      related_list hinput hscopes hlike entry hleaves false pending rest
        (fun child hchild => h child (List.mem_cons_of_mem _ hchild)) s' hs'
    rw [Sequence.run_cons, Sequence.run_cons e c']
    refine R.bind (R.related_leaves hleaves first s) fun leaves hentry => ?_
    cases leaves with
    | true =>
      obtain ⟨graph, rfl⟩ := hentry rfl
      exact (hleaves graph rfl).suspend id s hs
    | false =>
      simp only [Bool.false_eq_true, if_false]
      -- what the marker makes of the scope is a scope that `J` allows, so the rest is reached
      -- either way
      have hresumed := R.resumed_of_leaves hleaves id replayed hs
      revert hresumed
      rcases Restart.resumption id replayed entry.isSome s with ⟨r, s'⟩
      intro hs'
      dsimp only
      split
      · exact hrest pending s' hs'
      · exact R.related_visit hc r id name base replayed (hscopes s' hs')
          (related_step name base hinput action (h _ (List.mem_cons_self ..)) s' (hscopes s' hs'))
          (hlike s' · hs') fun pending s'' hs'' => hrest pending s'' (hlike s' s'' hs' hs'')

/-- A step runs alike in two contexts and makes of its scope what it may. -/
theorem related_step (name : String) (base : TaskBase) {input : Json} (hinput : R.Inputs input) :
    (step : Step) → R.Permits step → (s : Scope) → R.Scopes s →
      R.Related (R.Keeps s) (Sequence.step e c name base input step s)
        (Sequence.step e c' name base input step s)
  | .block children, h, s, hs => by
    rw [Sequence.step.eq_def, Sequence.step.eq_def e c']
    exact R.bind (related_list hinput (fun _ hs' => R.keeps hs hs') (fun _ _ => R.like_trans)
      none nofun true none children (fun _ => h.child) s (R.like (.refl s)))
      fun s' hs' => R.ofValue hs'
  | .loop spec condition body, h, s, hs => by
    rw [Sequence.step.eq_def, Sequence.step.eq_def e c']
    exact R.bind (R.related_loop hc hs _ _ (h.names _ (.self _) _ rfl))
      fun _ _ => R.ofValue (R.like (.refl s))
  | .fork compete branches, h, s, hs => by
    rw [Sequence.step.eq_def, Sequence.step.eq_def e c']
    exact R.mono (R.fork (h.forks _ (.self _) trivial) c c' name compete branches input s hc
      (fun branch hbranch => h.names _ (.self _) _ ⟨branch, hbranch, rfl⟩) hinput hs)
      fun _ hr => R.like hr
  | .switch cases, h, s, hs => by
    rw [Sequence.step.eq_def, Sequence.step.eq_def e c']
    exact R.bind (R.related_switch hc hs hinput cases fun case hcase graph hgraph =>
      h.names _ (.self _) _ ⟨case, hcase, hgraph⟩) fun _ _ => R.ofValue (R.like (.refl s))
  | .attempt body handler binding, h, s, hs => by
    rw [Sequence.step.eq_def, Sequence.step.eq_def e c']
    exact R.bind (R.related_attemptTask hc hs hinput body handler binding
      (fun _ hbody => h.names _ (.self _) _ (.inl hbody))
      (fun _ hhandler => h.names _ (.self _) _ (.inr hhandler)))
      fun _ _ => R.ofValue (R.like (.refl s))
  | .call call timeout, _, s, hs => by
    rw [Sequence.step.eq_def, Sequence.step.eq_def e c']
    exact R.bind (R.related_invoke hc name base timeout (R.related_callInvocation hs name call))
      fun _ _ => R.ofValue (R.like (.refl s))
  | .run run timeout, h, s, hs => by
    rw [Sequence.step.eq_def, Sequence.step.eq_def e c']
    exact R.bind (R.related_process hc name base input hs run timeout fun process hprocess =>
      ⟨h.runs _ (.self _) process hprocess,
        fun hawaits => h.forks _ (.self _) ⟨hawaits, process, hprocess⟩⟩)
      fun _ _ => R.ofValue (R.like (.refl s))
  | .wait d, _, s, _ => by
    rw [Sequence.step.eq_def, Sequence.step.eq_def e c']
    exact R.bind (R.related_sleep hc d) fun _ _ => R.ofValue (R.like (.refl s))
  | .raise error, _, s, hs => by
    rw [Sequence.step.eq_def, Sequence.step.eq_def e c']
    exact R.bind (R.related_interpolate hs ..) fun _ _ => R.ofFault (R.fault _ rfl rfl)
  | .listen mode waits queries, _, s, hs => by
    rw [Sequence.step.eq_def, Sequence.step.eq_def e c']
    exact R.bind (R.related_listen hc hs mode waits queries) fun _ _ => R.ofValue (R.like (.refl s))
  | .assign value, _, s, hs => by
    rw [Sequence.step.eq_def, Sequence.step.eq_def e c']
    exact R.bind (R.traverse value s [] hs) fun v _ => R.ofValue (R.like (.mergeData s v))
  | .custom body, _, s, hs => by
    rw [Sequence.step.eq_def, Sequence.step.eq_def e c']
    -- a task of the host's own tells of its input, so this has to be an input that the relation
    -- allows
    have htold (v : Json) (task : String) (input' body' : Json)
        (heq : Notice.custom name input v = .custom task input' body') : R.Inputs input' := by
      cases heq
      exact hinput
    exact R.bind (R.bind (R.traverse body s [] hs) fun v _ => R.bind (R.tell _ rfl (htold v))
      fun _ _ => R.ofValue (P := Any) trivial) fun _ _ => R.ofValue (R.like (.refl s))

end

end Accord

end TaskGraph
