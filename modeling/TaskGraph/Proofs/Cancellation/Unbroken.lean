import TaskGraph.Host.Conduct
import TaskGraph.Proofs.Congruence
import TaskGraph.Proofs.Fork.Deciding
import TaskGraph.Proofs.World

/-!
# Who can be cancelled

A cancellation shows as a fault of the task that was waiting, and a list drops that fault. So no
list ends in it (`Cancellation.unbroken_run`), no graph does, and hence no task that waits for lists
to run: a nested list, a loop, a fork, a switch, an attempt, a graph that is waited for
(`Cancellation.unbroken_step`). Only tasks that wait for something else can end cancelled.

The promise is that of a host which runs the graphs and branches it is asked to run: none of these
ends in a cancellation, and no evaluation does.
-/

set_option autoImplicit false

namespace TaskGraph

open Running (Any Result)

/-- The promise that no evaluation, no graph and no branch ends in a cancellation. -/
def Request.Unbroken : Dialogue.Promise
  | .evaluate .., x | .traverse .., x => Result (fun f => f.isCancelled = false) Any x
  | .check .., x => Result (fun f => f.isCancelled = false) Any x
  | .enter .., x => Result (fun f => f.isCancelled = false) Any x
  | .reply, x => Result (fun f => f.isCancelled = false) Any x.2
  | _, _ => True

/-- Whether a computation does not end in a cancellation, if nothing that it waits for does. -/
abbrev Running.Unbroken {α : Type} (r : Running α) : Prop :=
  r.Upholds Request.Unbroken (fun f => f.isCancelled = false) Any

/-- Whether a step waits for lists to run. -/
def Step.Encloses : Step → Prop
  | .block _ | .loop .. | .switch _ | .attempt .. => True
  | .fork _ branches => branches ≠ []
  | .run r _ => r.awaits = true ∧ ∃ process, r.process = .workflow process
  | _ => False

namespace Cancellation

variable {α β : Type}

/-! ## What computations are made of -/

theorem unbroken_plain {x : Except Fault α} (h : Fault.Plain x) :
    (Running.ofExcept x).Unbroken := by
  cases x with
  | ok a => exact .pure trivial
  | error f => exact .throw (h f rfl).2

theorem unbroken_ask {q : Request} : (Running.ask q).Unbroken := .ask fun _ _ => trivial

theorem unbroken_bind {r : Running α} {k : α → Running β} (h : r.Unbroken)
    (hk : ∀ a, (k a).Unbroken) : (r >>= k).Unbroken :=
  .bind h fun a _ => hk a

/-- What is gone on with from an outcome may do as it likes with it. -/
theorem unbroken_outcome (r : Running α) : r.outcome.Unbroken :=
  .mono (.outcome (Running.upholds_any r)) fun _ _ => trivial

theorem unbroken_evaluate (text : String) (s : Scope) (locals : Locals) :
    (Running.evaluate text s locals).Unbroken :=
  fun _ hx => hx

theorem unbroken_traverse (v : Json) (s : Scope) (locals : Locals) :
    (Running.traverse v s locals).Unbroken :=
  fun _ hx => hx

theorem unbroken_check (guard : Option String) (s : Scope) (locals : Locals) :
    (Running.check guard s locals).Unbroken :=
  fun _ hx => hx

theorem unbroken_interpolate (task : String) (decode : Decoder α) (payload : Json) (s : Scope) :
    (Calling.interpolate task decode payload s).Unbroken := by
  refine unbroken_bind (unbroken_traverse payload s []) fun v => ?_
  cases decode v with
  | ok a => exact .pure trivial
  | error e => exact .throw rfl

/-! ## Lists -/

section Lists

variable (e : Setting) (c : Context)

/-- A list does not pass the cancellation of a child on. -/
theorem unbroken_absorb (s : Scope) (x : Except Fault (Option Json × Scope)) :
    (Sequence.absorb c s x).Unbroken := by
  cases x with
  | ok r => exact .pure trivial
  | error f =>
    cases hf : f.isCancelled with
    | false =>
      simp only [Sequence.absorb, hf]
      exact .throw hf
    | true =>
      simp only [Sequence.absorb, hf]
      refine unbroken_bind unbroken_ask fun cancelled => ?_
      cases cancelled with
      | true => exact .pure trivial
      | false => exact .pure trivial

theorem unbroken_publish (name : String) (base : TaskBase) (s : Scope) :
    (Sequence.publish c name base s).Unbroken := by
  unfold Sequence.publish
  split
  · exact .pure trivial
  · refine unbroken_bind (unbroken_traverse _ s []) fun v => ?_
    cases v with
    | obj m => exact unbroken_bind unbroken_ask fun _ => unbroken_ask
    | _ => exact .throw rfl

theorem unbroken_conclude (name : String) (base : TaskBase) (value : Option Json) (s : Scope) :
    (Sequence.conclude name base value s).Unbroken := by
  refine unbroken_bind ?_ fun s => .pure trivial
  unfold Sequence.export_
  cases base.exported with
  | none => exact .pure trivial
  | some v =>
    exact unbroken_bind (unbroken_traverse v _ _) fun _ => .pure trivial

theorem unbroken_turn (r : Resumption) (child : Child Sequence.Doing) (s : Scope) :
    (Sequence.turn e c r child s).Unbroken := by
  refine unbroken_bind (unbroken_check _ _ _) fun holds => ?_
  cases holds with
  | false => exact .pure trivial
  | true =>
    show (if r = .replay then _ else _ : Running _).Unbroken
    -- whatever the child ends in is absorbed
    split
    · refine unbroken_bind (unbroken_outcome _) fun x =>
        unbroken_bind (unbroken_absorb c s x) fun y => ?_
      cases y <;> exact .pure trivial
    · refine unbroken_bind (unbroken_plain (Accord.own_checkInput _ _ _ s).plain) fun _ =>
        unbroken_bind (unbroken_publish c _ _ _) fun _ =>
        unbroken_bind (unbroken_outcome _) fun x =>
        unbroken_bind (unbroken_absorb c s x) fun y => ?_
      cases y with
      | none => exact .pure trivial
      | some y => exact unbroken_conclude _ _ _ _

theorem unbroken_suspend (entry id : String) (input : Json) (s : Scope) :
    (Restart.suspend c entry id input s : Running α).Unbroken := by
  refine unbroken_bind (unbroken_outcome _) fun x => ?_
  cases x with
  | ok _ => exact .throw rfl
  | error f => exact .throw rfl

/-- A list does not end in a cancellation, whatever its children end in. -/
theorem unbroken_run (entry : Option String) (input : Json) (first : Bool) (pending : Option String)
    (children : Children) (s : Scope) :
    (Sequence.run e c entry input first pending children s).Unbroken := by
  -- every part of a list is unbroken by itself, its bodies by way of `absorb`, so only the parts
  -- are put together
  induction children generalizing first pending s with
  | nil =>
    rw [Sequence.run_nil]
    cases pending with
    | none => exact .pure trivial
    | some target => exact .throw rfl
  | cons child rest ih =>
    rw [Sequence.run_cons]
    refine unbroken_bind ?_ fun leaves => ?_
    · unfold Sequence.leaves
      split
      · exact unbroken_ask
      · exact .pure trivial
    · cases leaves with
      | true => exact unbroken_suspend c _ _ input s
      | false =>
        simp only [Bool.false_eq_true, if_false]
        split
        · exact ih _ _ _
        · rw [Sequence.visit_eq_turn]
          refine unbroken_bind (unbroken_turn e c _ _ _) fun t => ?_
          cases t with
          | stop s => exact .pure trivial
          | next pending s => exact ih false pending s

end Lists

/-! ## Graphs -/

section Graphs

variable (p : Program) (c : Context)

theorem unbroken_loop (name : String) (left : Nat) (g : Graph) (input : Json) (s : Scope) :
    (Restart.loop p c name left g input s).Unbroken := by
  have henter (inner : Context) (g : Graph) (input : Json) (s : Scope) :
      (Running.enter inner g input s).outcome.Upholds Request.Unbroken
        (fun f => f.isCancelled = false) (Result (fun f => f.isCancelled = false) Any) :=
    Running.Upholds.outcome (r := Running.enter inner g input s) fun _ hx => hx
  -- a request for a restart is taken up or given up, and any other fault is that of the last run
  induction left using Nat.strongRecOn generalizing g input s with | ind left ih =>
  rw [Restart.loop.eq_def]
  refine unbroken_bind unbroken_ask fun inner => .bind (henter inner g input s) fun x hx => ?_
  split
  · exact .pure trivial
  · cases left with
    | zero => exact .throw rfl
    | succ left =>
      exact unbroken_bind (unbroken_plain (Congruence.plain_graph p _)) fun g =>
        ih left left.lt_succ_self g _ _
  · exact .throw hx

/-- A graph that is run to its output does not end in a cancellation. -/
theorem unbroken_runGraph (name : String) (input : Json) (s : Scope) :
    (Restart.runGraph p c name input s).Unbroken := by
  have houtput : (Restart.graphOutput p c name input s).Unbroken :=
    unbroken_bind (unbroken_plain (Congruence.plain_graph p name)) fun g =>
      unbroken_bind unbroken_ask fun _ =>
        unbroken_bind (unbroken_loop p c name _ g input s) fun _ =>
          unbroken_bind unbroken_ask fun _ => .pure trivial
  exact unbroken_bind unbroken_ask fun _ => .bind (.outcome houtput) fun x hx =>
    unbroken_bind unbroken_ask fun _ => .ofExcept hx

end Graphs

/-! ## Forks -/

section Forks

/-- Whether no failure that a join has noted is a cancellation. -/
def Sound (j : Join) : Prop := ∀ f, j.failure = some f → f.isCancelled = false

/-- Whether a competition has noted a value or a failure. -/
def Answered (j : Join) : Prop := j.compete = true → j.winner.isSome ∨ j.failure.isSome

/-- A reply that is no cancellation is noted, or the join has settled. -/
theorem noted_reply {j : Join} (hsound : Sound j) (h : j.settled = false ∨ Answered j) (i : Nat)
    {x : Except Fault Json} (hx : Result (fun f => f.isCancelled = false) Any x) :
    Sound (j.reply i x).1 ∧ Answered (j.reply i x).1 := by
  have hnoted : Sound ((j.replying i).outcome i x) ∧ Answered ((j.replying i).outcome i x) := by
    cases x with
    | ok v =>
      -- a value counts only while the join is open; a join that has settled was answered before
      cases hsettled : j.settled with
      | true =>
        rw [Join.outcome_ok_settled (j := j.replying i) hsettled]
        exact ⟨hsound, h.resolve_left (by simp [hsettled])⟩
      | false =>
        rw [Join.outcome_ok (j := j.replying i) hsettled]
        exact ⟨hsound, fun hcompete => .inl (by simp_all)⟩
    | error f =>
      have hcancelled : ¬f.isCancelled = true := Bool.not_eq_true _ ▸ hx
      rw [Join.outcome_error, Fault.failure?, if_neg hcancelled]
      refine ⟨fun g hg => ?_, fun _ => .inr (by cases hf : j.failure <;> simp [Join.replying, hf])⟩
      rcases Option.or_eq_some_iff.1 hg with hg | ⟨_, hg⟩
      · exact hsound g hg
      · cases hg
        exact hx
  rw [Join.reply_eq]
  split
  · exact hnoted
  · exact hnoted

theorem noted_collect (left : Nat) {j : Join} (hsound : Sound j)
    (h : j.settled = false ∧ 0 < left ∨ Answered j) :
    (Forking.collect left j).Upholds Request.Unbroken (fun f => f.isCancelled = false)
      fun j => Sound j ∧ Answered j := by
  induction left generalizing j with
  | zero => exact .pure ⟨hsound, h.resolve_left fun h => absurd h.2 (Nat.lt_irrefl 0)⟩
  | succ left ih =>
    refine .bind (.ask (q := .reply) (R := fun x => Result (fun f => f.isCancelled = false) Any x.2)
      fun x hx => hx) fun ⟨branch, outcome⟩ houtcome => ?_
    obtain ⟨hsound', hanswered⟩ := noted_reply hsound (h.imp And.left id) branch houtcome
    show Running.Upholds _ _ _ (if (j.reply branch outcome).2.isEmpty then _ else _)
    split
    · exact ih hsound' (.inr hanswered)
    · exact .bind (.ask (R := Any) fun _ _ => trivial) fun _ _ => ih hsound' (.inr hanswered)

theorem unbroken_conclusion (c : Context) (task : String) (branches : List Branch) (s : Scope)
    {j : Join} (hsound : Sound j) (hanswered : Answered j) :
    (Forking.conclude c task branches s j.verdict).Unbroken := by
  unfold Join.verdict
  split
  · exact .pure trivial
  · next f hfailure _ => exact .throw (hsound f hfailure)
  · next hcompete hwinner hfailure => simpa [hwinner, hfailure] using hanswered hcompete
  · exact .pure trivial

/-- A fork with branches does not end in a cancellation: it has a value or a failure of theirs. -/
theorem unbroken_fork (c : Context) (task : String) (compete : Bool) {branches : List Branch}
    (hbranches : branches ≠ []) (input : Json) (s : Scope) :
    (Forking.run c task compete branches input s).Unbroken :=
  unbroken_bind unbroken_ask fun _ =>
    .bind (noted_collect branches.length (j := Join.start compete branches.length) nofun
      (.inl ⟨rfl, List.length_pos_iff.2 hbranches⟩)) fun _ hj =>
      unbroken_conclusion c task branches s hj.1 hj.2

end Forks

/-! ## Loops -/

/-- Whether a value has an element for each one that is gone over. -/
def Covers : Elements → Json → Prop
  | .members m, v => ∃ vs, v = .obj vs ∧ vs.map Prod.fst = m.map Prod.fst
  | .items xs, v => ∃ vs, v = .arr vs ∧ vs.length = xs.length

section Loops

variable {p : Program} {c : Context} {b : LoopBody} {s : Scope} {promise : Dialogue.Promise}
  {E : Fault → Prop} {P : Option Json → Prop}

theorem upholds_items
    (h : ∀ key item, (Iteration.element p c b s key item).Upholds promise E P) (index : Nat)
    (xs : List Json) : (Iteration.items p c b s index xs).Upholds promise E
      fun vs => (∀ v, P v → v.isSome) → vs.length = xs.length := by
  induction xs generalizing index with
  | nil => exact .pure fun _ => rfl
  | cons x xs ih =>
    refine .bind (h _ x) fun v hv => ?_
    cases v with
    | none => exact .pure fun hsome => absurd (hsome none hv) Bool.false_ne_true
    | some v =>
      refine .bind (ih (index + 1)) fun vs hvs => .pure fun hsome => ?_
      rw [List.length_cons, List.length_cons, hvs hsome]

theorem upholds_entries
    (h : ∀ key item, (Iteration.element p c b s key item).Upholds promise E P)
    (m : List (String × Json)) : (Iteration.entries p c b s m).Upholds promise E
      fun vs => (∀ v, P v → v.isSome) → vs.map Prod.fst = m.map Prod.fst := by
  induction m with
  | nil => exact .pure fun _ => rfl
  | cons entry m ih =>
    refine .bind (h _ entry.2) fun v hv => ?_
    cases v with
    | none => exact .pure fun hsome => absurd (hsome none hv) Bool.false_ne_true
    | some v =>
      refine .bind ih fun vs hvs => .pure fun hsome => ?_
      rw [List.map_cons, List.map_cons, hvs hsome]

/-- A loop ends in no other faults than its elements do, and it covers all of them if each runs. -/
theorem upholds_elements
    (h : ∀ key item, (Iteration.element p c b s key item).Upholds promise E P) (es : Elements) :
    (Iteration.overElements p c b s es).Upholds promise E
      fun v => (∀ v, P v → v.isSome) → Covers es v := by
  cases es with
  | members m =>
    exact .bind (upholds_entries h m) fun vs hvs => .pure fun hsome => ⟨vs, rfl, hvs hsome⟩
  | items xs =>
    exact .bind (upholds_items h 0 xs) fun vs hvs => .pure fun hsome => ⟨vs, rfl, hvs hsome⟩

variable (p c b s)

theorem unbroken_element (key item : Json) : (Iteration.element p c b s key item).Unbroken := by
  refine unbroken_bind ?_ fun goesOn => ?_
  · unfold Iteration.goesOn
    split
    · exact .pure trivial
    · exact unbroken_bind (unbroken_evaluate _ _ []) fun _ => .pure trivial
  · cases goesOn with
    | true => exact unbroken_bind (unbroken_runGraph p c _ _ _) fun _ => .pure trivial
    | false => exact .pure trivial

end Loops

/-! ## Steps -/

section Steps

variable (e : Setting) (c : Context)

theorem unbroken_switch (input : Json) (s : Scope) (cases : List SwitchCase) :
    (Sequence.switch e c input s cases).Unbroken := by
  induction cases with
  | nil => exact .pure trivial
  | cons case rest ih =>
    refine unbroken_bind (unbroken_check case.condition s []) fun holds => ?_
    cases holds with
    | false => exact ih
    | true =>
      simp only [if_true]
      split
      · exact unbroken_bind (unbroken_runGraph e.program c _ input _) fun _ => .pure trivial
      · exact .pure trivial

theorem unbroken_attempt (input : Json) (s : Scope) (body handler : Option String)
    (binding : String) : (Sequence.attempt e c input s body handler binding).Unbroken := by
  cases body with
  | none => exact .pure trivial
  | some body =>
    refine .bind (.outcome (unbroken_runGraph e.program c body input s.child)) fun x hx => ?_
    cases x with
    | ok v => exact .pure trivial
    | error f =>
      show (if f.isCancelled = true then _ else _ : Running _).Unbroken
      split
      · exact .pure trivial
      · split
        · exact .throw hx
        · cases handler with
          | none => exact .pure trivial
          | some handler =>
            exact unbroken_bind (unbroken_runGraph e.program c handler input _) fun _ =>
              .pure trivial

theorem unbroken_iteration (b : LoopBody) (source : Json) (s : Scope) :
    (Iteration.run e.program c b source s).Unbroken := by
  refine unbroken_bind (unbroken_traverse source s []) fun v =>
    unbroken_bind (unbroken_plain (Accord.own_elements b.task v).plain) fun es => ?_
  exact (upholds_elements (unbroken_element e.program c b s) es).mono fun _ _ => trivial

theorem unbroken_graphProcess (task : String) (input : Json) (s : Scope)
    (process : WorkflowProcess) :
    (Sequence.graphProcess e c task input s process true).Unbroken :=
  unbroken_bind (unbroken_interpolate task WorkflowProcess.decode process.toJson s) fun p =>
    unbroken_bind (unbroken_runGraph e.program c p.name _ _) fun _ => .pure trivial

/-- A step that waits for lists to run does not end in a cancellation. -/
theorem unbroken_step (name : String) (base : TaskBase) (input : Json) {step : Step}
    (h : step.Encloses) (s : Scope) : (Sequence.step e c name base input step s).Unbroken := by
  rw [Sequence.step.eq_def]
  cases step with
  | block children =>
    exact unbroken_bind (unbroken_run e c none input true none children s) fun _ => .pure trivial
  | loop spec condition body =>
    exact unbroken_bind (unbroken_iteration e c _ spec.source s) fun _ => .pure trivial
  | fork compete branches => exact unbroken_fork c name compete h input s
  | switch cases => exact unbroken_bind (unbroken_switch e c input s cases) fun _ => .pure trivial
  | attempt body handler binding =>
    exact unbroken_bind (unbroken_attempt e c input s body handler binding) fun _ => .pure trivial
  | run r timeout =>
    obtain ⟨hawaits, process, hprocess⟩ := h
    refine unbroken_bind ?_ fun _ => .pure trivial
    unfold Sequence.process
    rw [hprocess, hawaits]
    exact unbroken_graphProcess e c name input s process
  | call | wait | raise | listen | assign | custom => exact h.elim

end Steps

/-! ## Hosts -/

section Hosts

variable (h : Host α) (st : Strand α)

theorem evaluated_unbroken (evaluating : Evaluating β) (hordinary : Evaluation.Ordinary evaluating)
    (next : Except Fault β → Dialogue (Ending α)) :
    ∃ h' x, h.evaluated st evaluating next = Host.goOn h' st (next x) ∧
      Result (fun f => f.isCancelled = false) Any x := by
  have hx := hordinary h.evaluator
  unfold Host.evaluated
  rcases hrun : h.evaluator.run evaluating with ⟨x, e⟩
  rw [hrun] at hx
  refine ⟨{ h with evaluator := e }, x, rfl, ?_⟩
  cases x with
  | ok b => trivial
  | error f => exact (hx f rfl).2

/-- A host answers evaluations as promised. -/
theorem perform_unbroken {q : Request}
    (hq : match q with | .evaluate .. | .traverse .. | .check .. => True | _ => False)
    (next : q.Answer → Dialogue (Ending α)) :
    ∃ h' x, h.perform st q next = Host.goOn h' st (next x) ∧ Request.Unbroken q x := by
  cases q with
  | evaluate text s locals =>
    exact evaluated_unbroken h st _ (Evaluation.ordinary_evaluateIn _ text) next
  | traverse v s locals =>
    exact evaluated_unbroken h st _ (Evaluation.ordinary_traverse v s locals) next
  | check guard s locals =>
    exact evaluated_unbroken h st _ (Evaluation.ordinary_check guard s locals) next
  | _ => exact hq.elim

end Hosts

end Cancellation

end TaskGraph
