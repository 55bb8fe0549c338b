import TaskGraph.Host.Run
import TaskGraph.Proofs.Accord
import TaskGraph.Proofs.Calls.Blocks

/-!
# Calls in order

A strand performs its calls one after the other, each in a run that it has opened itself and has not
ended yet: between the requests of a call it makes no other ones, and it makes them nowhere else
(`Dialogue.Orderly`). All that a program runs is orderly: a graph that is entered in such a run
(`Calling.orderly_graph`), graphs that are run by name (`Calling.orderly_runGraph`), and the runs of the
program from its root on (`Calling.orderly_programRun`).
-/

set_option autoImplicit false

namespace TaskGraph

open Running (Any Result)

variable {α β : Type} {e : Setting} {own : List Nat}

/-- Whether an event says that a run has ended. -/
def HistoryEvent.endsRun : HistoryEvent → Bool
  | runCompleted .. | runFailed .. | continuedAsNew .. => true
  | _ => false

theorem HistoryEvent.endsRun_of_not_isRunEvent {ev : HistoryEvent} (h : ev.isRunEvent = false) :
    ev.endsRun = false := by
  cases ev with
  | runStarted | runCompleted | runFailed | continuedAsNew => cases h
  | _ => rfl

/-- Whether an event is neither one of a call nor the end of a run. -/
def HistoryEvent.Quiet (ev : HistoryEvent) : Prop := ev.call? = none ∧ ev.endsRun = false

namespace Request

/-- Whether a strand that has opened some runs may make a request outside of its calls. -/
def Aside (own : List Nat) : Request → Prop
  | .record c ev => ev.call? = none ∧ (ev.endsRun = true → c.run ∈ own)
  | .enter c .. => c.run ∈ own
  | .dispatch .. | .offer _ => False
  | _ => True

/-- The runs that a strand has opened, and not ended, after an answer. -/
def opened (own : List Nat) : (q : Request) → q.Answer → List Nat
  | .fresh _, inner => inner.run :: own
  | .record c ev, _ => if ev.endsRun then own.filter (· != c.run) else own
  | _, _ => own

theorem Aside.mono {own' : List Nat} (hown : own ⊆ own') {q : Request} (h : q.Aside own) :
    q.Aside own' := by
  cases q with
  | record c ev => exact ⟨h.1, fun hends => hown (h.2 hends)⟩
  | enter c g input s => exact hown h
  | _ => exact h

/-- The end of a run takes it away, and no other event does. -/
theorem mem_opened_record {c : Context} {ev : HistoryEvent} {x : Unit} {run : Nat} :
    run ∈ opened own (.record c ev) x ↔ run ∈ own ∧ (ev.endsRun = true → run ≠ c.run) := by
  show run ∈ (if ev.endsRun then own.filter (· != c.run) else own) ↔ _
  split
  · next hends => simp [hends]
  · next hends => simp [hends]

theorem opened_of_ne {q : Request} (hrecord : ∀ c ev, q ≠ .record c ev) (hfresh : ∀ c, q ≠ .fresh c)
    (x : q.Answer) : q.opened own x = own := by
  cases q with
  | record c ev => exact absurd rfl (hrecord c ev)
  | fresh c => exact absurd rfl (hfresh c)
  | _ => rfl

theorem opened_mono {own' : List Nat} (hown : own ⊆ own') (q : Request) (x : q.Answer) :
    q.opened own x ⊆ q.opened own' x := by
  cases q with
  | fresh c => exact List.cons_subset_cons _ hown
  | record c ev => exact fun _ hrun => mem_opened_record.2 ((mem_opened_record.1 hrun).imp_left fun h => hown h)
  | _ => exact hown

/-- Whether a request may be made outside of calls and ends no run. -/
def Quiet (own : List Nat) : Request → Prop
  | .record _ ev => ev.Quiet
  | q => q.Aside own

theorem Quiet.aside {q : Request} (h : q.Quiet own) : q.Aside own := by
  cases q with
  | record c ev => exact ⟨h.1, fun hends => nomatch h.2.symm.trans hends⟩
  | _ => exact h

/-- Only the end of a run takes it away. -/
theorem Quiet.subset_opened {q : Request} (h : q.Quiet own) (x : q.Answer) : own ⊆ q.opened own x := by
  cases q with
  | fresh c => exact List.subset_cons_self ..
  | record c ev => exact fun _ hrun => mem_opened_record.2 ⟨hrun, fun hends => nomatch h.2.symm.trans hends⟩
  | _ => exact List.Subset.refl _

end Request

/-! ## Dialogues -/

/-- Whether a dialogue performs its calls in order, each in a run that is open, and comes to a value that
is right for the runs that are open then. -/
inductive Dialogue.Orderly (e : Setting) (P : List Nat → α → Prop) : List Nat → Dialogue α → Prop where
  | done {own : List Nat} {a : α} (h : P own a) : Orderly e P own (.done a)
  | ask {own : List Nat} {q : Request} {k : q.Answer → Dialogue α} (hq : q.Aside own)
      (hk : ∀ x, Orderly e P (q.opened own x) (k x)) : Orderly e P own (.ask q k)
  | call {own : List Nat} {r : CallRequest} {next : Option (Except Fault Json) → Dialogue α}
      (c : Context) (k : Except Fault Json → Dialogue α) (hc : c.run ∈ own)
      (hnone : next none = (Calling.perform e c r).run.bind k)
      (hsome : ∀ x, Orderly e P own (next (some x))) (hk : ∀ x, Orderly e P own (k x)) :
      Orderly e P own (.ask (.offer r) next)

namespace Dialogue.Orderly

variable {P P' : List Nat → α → Prop} {Q : List Nat → β → Prop} {d : Dialogue α} {f : α → Dialogue β}

theorem mono (h : d.Orderly e P own) (imp : ∀ own a, P own a → P' own a) : d.Orderly e P' own := by
  induction h with
  | done h => exact .done (imp _ _ h)
  | ask hq _ ih => exact .ask hq ih
  | call c k hc hnone _ _ ihsome ihk => exact .call c k hc hnone ihsome ihk

theorem bind (h : d.Orderly e P own) (hf : ∀ own a, P own a → (f a).Orderly e Q own) :
    (d.bind f).Orderly e Q own := by
  induction h with
  | done h => exact hf _ _ h
  | ask hq _ ih => exact .ask hq ih
  | call c k hc hnone _ _ ihsome ihk =>
    refine .call c (fun x => (k x).bind f) hc ?_ ihsome ihk
    show Dialogue.bind _ f = _
    rw [hnone, bind_assoc]

/-- More runs may be open. -/
theorem weaken (h : d.Orderly e P own) (hP : ∀ own own' a, own ⊆ own' → P own a → P own' a)
    {own' : List Nat} (hown : own ⊆ own') : d.Orderly e P own' := by
  induction h generalizing own' with
  | done h => exact .done (hP _ _ _ hown h)
  | ask hq _ ih => exact .ask (hq.mono hown) fun x => ih x (Request.opened_mono hown _ x)
  | call c k hc hnone _ _ ihsome ihk =>
    exact .call c k (hown hc) hnone (fun x => ihsome x hown) fun x => ihk x hown

end Dialogue.Orderly

/-! ## Computations -/

/-- Whether a computation performs its calls in order, ends no run that is open, and comes to a value with
a property or to a fault. -/
def Running.Orderly (e : Setting) (own : List Nat) (r : Running α) (P : α → Prop) : Prop :=
  r.run.Orderly e (fun own' x => own ⊆ own' ∧ Result Any P x) own

namespace Running.Orderly

variable {P P' : α → Prop} {Q : β → Prop} {r : Running α} {k : α → Running β}

theorem pure {a : α} (h : P a) : Orderly e own (pure a) P := .done ⟨List.Subset.refl _, h⟩

theorem throw (f : Fault) : Orderly e own (throw f) P := .done ⟨List.Subset.refl _, trivial⟩

theorem ofExcept {x : Except Fault α} (h : Result Any P x) : Orderly e own (ofExcept x) P :=
  .done ⟨List.Subset.refl _, h⟩

theorem mono (h : Orderly e own r P) (imp : ∀ a, P a → P' a) : Orderly e own r P' := by
  refine Dialogue.Orderly.mono h fun own' x hx => ⟨hx.1, ?_⟩
  cases x with
  | ok a => exact imp a hx.2
  | error f => trivial

theorem bind (h : Orderly e own r P) (hk : ∀ own' a, own ⊆ own' → P a → Orderly e own' (k a) Q) :
    Orderly e own (r >>= k) Q := by
  unfold Orderly
  rw [run_bind]
  refine Dialogue.Orderly.bind h fun own' x ⟨hown, hx⟩ => ?_
  cases x with
  | ok a =>
    exact Dialogue.Orderly.mono (hk own' a hown hx) fun _ _ hy => ⟨fun _ h => hy.1 (hown h), hy.2⟩
  | error f => exact .done ⟨hown, trivial⟩

theorem outcome (h : Orderly e own r P) : Orderly e own r.outcome (Result Any P) :=
  Dialogue.Orderly.bind h fun _ _ hx => .done hx

/-- A request whose answer is a value. -/
theorem ask {q : Request} {R : q.Answer → Prop} (hq : q.Quiet own) (h : ∀ x, R x) :
    Orderly e own (Running.ask q) R :=
  Dialogue.Orderly.ask hq.aside fun x => .done ⟨hq.subset_opened x, h x⟩

/-- A request that is answered with a value or a fault. -/
theorem answered {q : Request} {R : q.Answer → Prop} (hq : q.Quiet own) (h : ∀ x, R x) :
    (Dialogue.request q).Orderly e (fun own' x => own ⊆ own' ∧ R x) own :=
  Dialogue.Orderly.ask hq.aside fun x => .done ⟨hq.subset_opened x, h x⟩

/-- What comes next starts with the runs that are open after the answer. -/
theorem bind_ask {q : Request} {k : q.Answer → Running β} (hq : q.Quiet own)
    (hk : ∀ x, Orderly e (q.opened own x) (k x) Q) : Orderly e own (Running.ask q >>= k) Q :=
  Dialogue.Orderly.ask hq.aside fun x => Dialogue.Orderly.mono (hk x) fun _ _ hy =>
    ⟨fun _ h => hy.1 (hq.subset_opened x h), hy.2⟩

end Running.Orderly

namespace Calling

variable {c : Context}

/-! ## Graphs by name -/

theorem orderly_enter (hc : c.run ∈ own) {g : Graph} {input : Json} {s : Scope} :
    (Running.enter c g input s).Orderly e own Any :=
  Running.Orderly.answered (q := .enter c g input s) hc Running.result_any

section

variable {p : Program} (name : String) (input : Json) (s : Scope)

/-- The runs of a graph, one after the other. -/
theorem orderly_loop (left : Nat) (g : Graph) :
    (Restart.loop p c name left g input s).Orderly e own Any := by
  induction left using Nat.strongRecOn generalizing own g input s with | ind left ih =>
  rw [Restart.loop.eq_def]
  refine .bind_ask trivial fun inner => ?_
  refine .bind (.outcome (orderly_enter (List.mem_cons_self ..))) fun own' x _ _ => ?_
  split
  · exact .pure trivial
  · cases left with
    | zero => exact .throw _
    | succ left =>
      exact .bind (.ofExcept (Running.result_any _)) fun _ g' _ _ => ih left left.lt_succ_self _ _ g'
  · exact .throw _

theorem orderly_graphOutput :
    (Restart.graphOutput p c name input s).Orderly e own Any :=
  .bind (.ofExcept (Running.result_any _)) fun _ g _ _ =>
    .bind_ask ⟨rfl, rfl⟩ fun _ =>
      .bind (orderly_loop name input s _ g) fun _ _ _ _ =>
        .bind_ask ⟨rfl, rfl⟩ fun _ => .pure trivial

/-- A graph that is run by name. -/
theorem orderly_runGraph : (Restart.runGraph p c name input s).Orderly e own Any :=
  .bind_ask trivial fun _ =>
    .bind (.outcome (orderly_graphOutput name input s)) fun _ _ _ hx =>
      .bind_ask trivial fun _ => .ofExcept hx

/-- A graph that is started by name and not waited for. -/
theorem orderly_startGraph : (Restart.startGraph p c name input s).Orderly e own Any :=
  .bind_ask trivial fun _ => .bind (.ofExcept (Running.result_any _)) fun _ _ _ _ =>
    .bind_ask ⟨rfl, rfl⟩ fun _ => .ask trivial fun _ => trivial

end

/-! ## Graphs -/

/-- A call in a run that is open. -/
theorem orderly_request (hc : c.run ∈ own) (r : CallRequest) :
    (request e c r).Orderly e own Any := by
  refine .bind_ask trivial fun _ => ?_
  refine .call c .done hc (Dialogue.bind_done _).symm (fun x => ?_) fun x => ?_
  · exact .done ⟨List.Subset.refl _, Running.result_any x⟩
  · exact .done ⟨List.Subset.refl _, Running.result_any x⟩

/-- What is in order in a graph that is entered in an open run. -/
def orderRules (e : Setting) (own : List Nat) : Accord.Rules where
  Related P r _ := ∀ own', own ⊆ own' → r.Orderly e own' P
  Faults := Any
  Contexts c c' := c' = c ∧ c.run ∈ own
  fault _ _ _ := trivial
  ofValue h _ _ := .pure h
  ofFault _ _ _ := .throw _
  bind h hk own' hown := .bind (h own' hown) fun own'' a hown' ha => hk a ha own'' fun _ h => hown' (hown h)
  mono h imp own' hown := (h own' hown).mono imp
  outcome h own' hown := .outcome (h own' hown)

/-- What runs in a graph that is entered in an open run is in order. -/
def order (e : Setting) (own : List Nat) : Accord e where
  toRules := orderRules e own
  Reads _ _ := True
  Starts _ := True
  Runs _ := True
  Forks := True
  Inputs _ := True
  Scopes _ := True
  Like _ _ := True
  Enters _ _ := True
  evaluate _ _ _ _ _ _ := Running.Orderly.answered (q := .evaluate ..) trivial Running.result_any
  traverse _ _ _ _ _ _ := Running.Orderly.answered (q := .traverse ..) trivial Running.result_any
  check _ _ _ _ _ _ := Running.Orderly.answered (q := .check ..) trivial Running.result_any
  cancelled _ _ _ _ _ := .ask trivial fun _ => trivial
  record _ _ _ _ hrun hcall _ _ :=
    .ask ⟨hcall, HistoryEvent.endsRun_of_not_isRunEvent hrun⟩ fun _ => trivial
  tell _ _ _ _ _ := .ask trivial fun _ => trivial
  publish _ _ _ := .ask trivial fun _ => trivial
  respond _ _ _ _ := .ask trivial fun _ => trivial
  request c c' r hc own' hown := by
    obtain ⟨rfl, hrun⟩ := hc
    exact orderly_request (hown hrun) r
  beat _ _ _ _ _ _ := .ask trivial fun _ => trivial
  still _ _ _ := .ask trivial fun _ => trivial
  pause _ _ _ _ _ _ := .ask trivial fun _ => trivial
  listen _ _ _ _ _ _ _ := Running.Orderly.answered (q := .listen ..) trivial Running.result_any
  named _ _ _ _ _ _ := trivial
  like _ := trivial
  like_trans _ _ := trivial
  keeps _ _ := trivial
  told _ _ _ := trivial
  enters _ _ _ := trivial
  graph _ _ name input s _ _ _ _ _ _ := orderly_runGraph name input s
  detach _ _ _ name input s _ _ _ _ _ _ := orderly_startGraph name input s
  fork _ _ _ task compete _ _ _ _ _ _ _ := (orderRules e own).related_fork
    (fun _ _ => .ask trivial fun x => Running.result_any x.2) (fun _ _ _ => .ask trivial fun _ => trivial)
    (fun _ _ => .ask trivial fun _ => trivial) task compete fun _ _ => .ask trivial fun _ => trivial

/-- A graph that is entered in an open run. -/
theorem orderly_graph (hc : c.run ∈ own) (g : Graph) (input : Json) (s : Scope) :
    (Sequence.runGraph e c g input s).Orderly e own Any := by
  have hcontexts : (order e own).Contexts c c := ⟨rfl, hc⟩
  refine (order e own).related_list hcontexts trivial (J := Any) (fun _ _ => trivial)
    (fun _ _ _ _ => trivial) (some g.name) ?_ true none g.children
    (fun _ _ => ⟨fun _ _ _ _ => trivial, fun _ _ _ _ => trivial, fun _ _ _ => trivial⟩) s trivial own
    (List.Subset.refl _)
  rintro name ⟨rfl⟩
  refine ⟨fun _ _ _ => .ask trivial fun _ => trivial, fun id s _ own' _ => ?_, fun _ _ => trivial⟩
  have hsettle : (Running.settle c).Orderly e own' Any :=
    Running.Orderly.answered (q := .settle c) trivial Running.result_any
  refine .bind (.outcome hsettle) fun _ x _ _ => ?_
  cases x with
  | ok _ => exact .throw _
  | error f => exact .throw _

/-! ## Programs -/

/-- The runs of a program, one after the other: each is opened, and ended after its graph. -/
theorem orderly_rootLoop {p : Program} (left : Nat) (g : Graph) (input : Json) (s : Scope) :
    (Restart.rootLoop p c left g input s).run.Orderly e (fun _ _ => True) own := by
  have hended {own : List Nat} {inner : Context} {ev : HistoryEvent} (hev : ev.call? = none) :
      (Request.record inner ev).Aside (inner.run :: own) :=
    ⟨hev, fun _ => List.mem_cons_self ..⟩
  induction left using Nat.strongRecOn generalizing own g input s with | ind left ih =>
  rw [Restart.rootLoop.eq_def]
  refine .ask trivial fun inner => .ask ⟨rfl, nofun⟩ fun _ => ?_
  refine .ask (q := .enter inner g input s) (List.mem_cons_self ..) fun x => ?_
  rcases x with f | s
  · cases f with
    | continueAsNew entry input s =>
      cases left with
      | zero => exact .ask (hended rfl) fun _ => .done trivial
      | succ left =>
        refine .ask (hended rfl) fun _ => ?_
        show Dialogue.Orderly e _ _ (Running.ofExcept (p.graph entry) >>= _).run
        rw [Running.run_bind, Running.run_ofExcept, Dialogue.bind_done_left]
        cases p.graph entry with
        | ok g' => exact ih left left.lt_succ_self _ _ _
        | error f => exact .done trivial
    | _ => exact .ask (hended rfl) fun _ => .done trivial
  · exact .ask (hended rfl) fun _ => .done trivial

theorem orderly_programRun (p : Program) (input : Json) (env : Members) :
    (Host.programRun p input env).run.Orderly e (fun _ _ => True) own := by
  unfold Host.programRun
  rw [Running.run_bind, Running.run_ofExcept, Dialogue.bind_done_left]
  cases p.graph p.root with
  | error f => exact .done trivial
  | ok g =>
    rw [Running.onward_ok, Running.run_bind, Running.run_ofExcept, Dialogue.bind_done_left]
    cases g.initialScope p.options input env with
    | error f => exact .done trivial
    | ok s => exact orderly_rootLoop _ _ _ _

end Calling

end TaskGraph
