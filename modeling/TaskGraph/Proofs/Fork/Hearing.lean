import TaskGraph.Host.Run
import TaskGraph.Proofs.Accord

/-!
# Branches are heard before anything else is done

A strand that has forked asks for nothing until all branches have replied but to have branches stopped, and
it takes as many replies as there are branches (`Dialogue.hearing`). So at any moment it is known how many
branches are left to be heard, and none are when a computation of a program begins or ends
(`Running.Hears`).
-/

set_option autoImplicit false

namespace TaskGraph

open Running (Any Result)

/-! ## The law -/

/-- Whether a request has nothing to do with the branches of a fork. -/
def Request.lone : Request → Bool
  | .fork .. | .reply | .stop _ => false
  | _ => true

namespace Dialogue

/-- The law of forks, which remembers the number of branches that are left to be heard. -/
def hearing : Law Nat where
  allows left
    | .reply => 0 < left
    | .stop _ => True
    | _ => left = 0
  next left
    | .fork _ graphs _ _, _ => graphs.length
    | .reply, _ => left - 1
    | _, _ => left

/-- Whether a dialogue hears the branches of its forks, as many of which are left as said, and ends in a
value with a property when there are none left. -/
def Hears {α : Type} (P : α → Prop) (left : Nat) (d : Dialogue α) : Prop :=
  d.Abides hearing (fun _ _ => True) (fun left a => left = 0 ∧ P a) left

variable {α β : Type} {P : α → Prop} {Q : β → Prop} {left : Nat}

theorem Hears.bind {d : Dialogue α} {f : α → Dialogue β} (h : d.Hears P left)
    (hf : ∀ a, P a → (f a).Hears Q 0) : (d.bind f).Hears Q left :=
  Abides.bind h fun _ a ⟨hleft, ha⟩ => hleft.symm ▸ hf a ha

/-- A request that has nothing to do with branches. -/
theorem Hears.ask {q : Request} (hq : q.lone = true) {k : q.Answer → Dialogue α} (hk : ∀ x, (k x).Hears P 0) :
    (Dialogue.ask q k).Hears P 0 := by
  cases q with
  | fork | reply | stop => cases hq
  | _ => exact ⟨rfl, fun x _ => hk x⟩

end Dialogue

/-! ## Computations -/

namespace Running

variable {α β : Type} {P P' : α → Prop} {Q : β → Prop} {left : Nat}

/-- Whether a computation hears the branches of its forks, as many of which are left as said, and comes to
a value with a property or to a fault when there are none left. -/
def Hears (left : Nat) (P : α → Prop) (r : Running α) : Prop := r.run.Hears (Result Any P) left

theorem Hears.pure {a : α} (h : P a) : (pure a : Running α).Hears 0 P := ⟨rfl, h⟩

theorem Hears.throw (f : Fault) : (throw f : Running α).Hears 0 P := ⟨rfl, trivial⟩

theorem Hears.ofExcept {x : Except Fault α} (h : Result Any P x) : (ofExcept x).Hears 0 P := ⟨rfl, h⟩

theorem Hears.bind {r : Running α} {k : α → Running β} (h : r.Hears left P)
    (hk : ∀ a, P a → (k a).Hears 0 Q) : (r >>= k).Hears left Q := by
  unfold Hears
  rw [run_bind]
  refine Dialogue.Hears.bind h fun x hx => ?_
  cases x with
  | ok a => exact hk a hx
  | error f => exact ⟨rfl, trivial⟩

theorem Hears.mono {r : Running α} (h : r.Hears left P) (imp : ∀ a, P a → P' a) : r.Hears left P' := by
  refine Dialogue.Abides.mono h fun _ x hx => hx.imp_right fun hx => ?_
  cases x with
  | ok a => exact imp a hx
  | error f => trivial

theorem Hears.outcome {r : Running α} (h : r.Hears left P) : r.outcome.Hears left (Result Any P) :=
  Dialogue.Hears.bind h fun _ hx => ⟨rfl, hx⟩

theorem Hears.ask {q : Request} (hq : q.lone = true) {R : q.Answer → Prop} (h : ∀ x, R x) :
    (Running.ask q).Hears 0 R :=
  Dialogue.Hears.ask hq fun x => ⟨rfl, h x⟩

/-- What comes next starts with as many branches left as there are after the request. -/
theorem Hears.bind_ask {q : Request} {k : q.Answer → Running β} (hq : Dialogue.hearing.allows left q)
    (hk : ∀ x, (k x).Hears (Dialogue.hearing.next left q x) Q) : (Running.ask q >>= k).Hears left Q :=
  ⟨hq, fun x _ => hk x⟩

/-- A request that is answered with a value or a fault. -/
theorem Hears.request {q : Request} (hq : q.lone = true) {r : Running α} {k : q.Answer → Except Fault α}
    (hr : r.run = .ask q fun x => .done (k x)) : r.Hears 0 Any := by
  unfold Hears
  rw [hr]
  exact Dialogue.Hears.ask hq fun x => ⟨rfl, result_any (k x)⟩

/-- What a computation comes to is the end of a strand. -/
theorem Hears.map {r : Running α} {S : β → Prop} (h : r.Hears left P) (f : Except Fault α → β)
    (hf : ∀ x, S (f x)) : (r.run.map f).Hears S left :=
  Dialogue.Hears.bind h fun x _ => ⟨rfl, hf x⟩

end Running

/-! ## Graphs by name -/

namespace Restart

variable {p : Program} {c : Context}

theorem hears_enter (c : Context) (g : Graph) (input : Json) (s : Scope) :
    (Running.enter c g input s).Hears 0 Any :=
  .request (q := .enter c g input s) (k := id) rfl rfl

/-- The runs of a graph, one after the other. -/
theorem hears_loop (name : String) (left : Nat) (g : Graph) (input : Json) (s : Scope) :
    (loop p c name left g input s).Hears 0 Any := by
  induction left using Nat.strongRecOn generalizing g input s with | ind left ih =>
  rw [loop.eq_def]
  refine .bind (P := Any) (.ask rfl fun _ => trivial) fun inner _ =>
    .bind (.outcome (hears_enter inner g input s)) fun x _ => ?_
  split
  · exact .pure trivial
  · cases left with
    | zero => exact .throw _
    | succ left =>
      exact .bind (.ofExcept (Running.result_any _)) fun g _ => ih left left.lt_succ_self g _ _
  · exact .throw _

theorem hears_graphOutput (name : String) (input : Json) (s : Scope) :
    (graphOutput p c name input s).Hears 0 Any :=
  .bind (.ofExcept (Running.result_any _)) fun g _ =>
    .bind (P := Any) (.ask rfl fun _ => trivial) fun _ _ =>
      .bind (hears_loop name _ g input s) fun _ _ =>
        .bind (P := Any) (.ask rfl fun _ => trivial) fun _ _ => .pure trivial

/-- A graph that is run by name. -/
theorem hears_runGraph (name : String) (input : Json) (s : Scope) :
    (runGraph p c name input s).Hears 0 Any :=
  .bind (P := Any) (.ask rfl fun _ => trivial) fun _ _ =>
    .bind (.outcome (hears_graphOutput name input s)) fun _ _ =>
      .bind (P := Any) (.ask rfl fun _ => trivial) fun _ _ => .ofExcept (Running.result_any _)

/-- A graph that is started by name and not waited for. -/
theorem hears_startGraph (name : String) (input : Json) (s : Scope) :
    (startGraph p c name input s).Hears 0 Any :=
  .bind (P := Any) (.ask rfl fun _ => trivial) fun _ _ =>
    .bind (.ofExcept (Running.result_any _)) fun _ _ =>
      .bind (P := Any) (.ask rfl fun _ => trivial) fun _ _ => .ask rfl fun _ => trivial

/-- The runs of a program, one after the other. -/
theorem hears_rootLoop (left : Nat) (g : Graph) (input : Json) (s : Scope) :
    (rootLoop p c left g input s).Hears 0 Any := by
  have hrecord (inner : Context) (ev : HistoryEvent) : (Running.record inner ev).Hears 0 Any :=
    .ask rfl fun _ => trivial
  induction left using Nat.strongRecOn generalizing g input s with | ind left ih =>
  rw [rootLoop.eq_def]
  refine .bind (P := Any) (.ask rfl fun _ => trivial) fun inner _ =>
    .bind (hrecord inner _) fun _ _ => .bind (.outcome (hears_enter inner g input s)) fun x _ => ?_
  split
  · exact .bind (hrecord inner _) fun _ _ => .pure trivial
  · cases left with
    | zero => exact .bind (hrecord inner _) fun _ _ => .throw _
    | succ left =>
      exact .bind (hrecord inner _) fun _ _ =>
        .bind (.ofExcept (Running.result_any _)) fun g _ => ih left left.lt_succ_self g _ _
  · exact .bind (hrecord inner _) fun _ _ => .throw _

end Restart

theorem Host.hears_programRun (p : Program) (input : Json) (env : Members) :
    (Host.programRun p input env).Hears 0 Any :=
  .bind (.ofExcept (Running.result_any _)) fun g _ =>
    .bind (.ofExcept (Running.result_any _)) fun s _ => Restart.hears_rootLoop _ g input s

/-! ## Tasks -/

namespace Forking

/-- What hears its branches. -/
def hearingRules : Accord.Rules where
  Related P r _ := r.Hears 0 P
  Faults := Any
  Contexts _ _ := True
  fault _ _ _ := trivial
  ofValue := .pure
  ofFault _ := .throw _
  bind := .bind
  mono := .mono
  outcome := .outcome

theorem hears_cancelled (c : Context) : (Running.cancelled c).Hears 0 Any :=
  .ask rfl fun _ => trivial

/-- One reply after the other is taken, until as many have come as are left. -/
theorem hears_collect (left : Nat) (j : Join) : (collect left j).Hears left Any := by
  induction left generalizing j with
  | zero => exact .pure trivial
  | succ left ih =>
    refine .bind_ask (Nat.succ_pos left) fun x => ?_
    -- branches may be stopped before the next reply, which leaves as many to be heard
    show (if (j.reply x.1 x.2).2.isEmpty then collect left (j.reply x.1 x.2).1
      else Running.ask (.stop (j.reply x.1 x.2).2) >>= fun _ => collect left (j.reply x.1 x.2).1
        : Running Join).Hears left Any
    split
    · exact ih _
    · exact .bind_ask trivial fun _ => ih _

/-- A fork hears all branches. -/
theorem hears_run (c : Context) (task : String) (compete : Bool) (branches : List Branch) (input : Json)
    (s : Scope) : (run c task compete branches input s).Hears 0 fun r => s.Alike r.2 := by
  have hcancelled : hearingRules.Related Any (Running.cancelled c) (Running.cancelled c) := hears_cancelled c
  have hconclude (j : Join) : (conclude c task branches s j.verdict).Hears 0 fun r => s.Alike r.2 :=
    hearingRules.related_conclude hcancelled task branches s fun _ _ => trivial
  have hcollect : (collect branches.length (Join.start compete branches.length)).Hears
      (branches.map Branch.graph).length Any := by
    rw [List.length_map]
    exact hears_collect _ _
  exact .bind_ask rfl fun _ => .bind hcollect fun j _ => hconclude j

/-- Every task hears the branches of its forks. -/
def hearer (e : Setting) : Accord e where
  toRules := hearingRules
  Reads _ _ := True
  Starts _ := True
  Runs _ := True
  Forks := True
  Inputs _ := True
  Scopes _ := True
  Like _ _ := True
  Enters _ _ := True
  evaluate text s locals _ := .request (q := .evaluate text s locals) (k := id) rfl rfl
  traverse v s locals _ :=
    (Running.Hears.request (q := .traverse v s locals) (k := id) rfl rfl).mono fun _ _ => trivial
  check guard s locals _ := .request (q := .check guard s locals) (k := id) rfl rfl
  cancelled c _ _ := hears_cancelled c
  record _ _ _ _ _ _ := .ask rfl fun _ => trivial
  tell _ _ _ := .ask rfl fun _ => trivial
  publish _ := .ask rfl fun _ => trivial
  respond _ _ := .ask rfl fun _ => trivial
  request c _ r _ := hearingRules.related_request (fun _ => .ask rfl fun _ => trivial)
    (fun _ _ => .ask rfl fun _ => trivial)
    (fun r timeout => .request (q := .dispatch c r timeout) (k := id) rfl rfl)
    (fun _ => .ask rfl fun _ => trivial)
    (fun _ => .ask rfl fun _ _ _ => Running.result_any _) r
  beat _ _ _ _ := .ask rfl fun _ => trivial
  still _ := .ask rfl fun _ => trivial
  pause _ _ _ _ := .ask rfl fun _ => trivial
  listen c _ mode signals _ := .request (q := .listen c mode signals) (k := id) rfl rfl
  named _ _ _ _ _ _ := trivial
  like _ := trivial
  like_trans _ _ := trivial
  keeps _ _ := trivial
  told _ _ _ := trivial
  enters _ _ _ := trivial
  graph _ _ name input s _ _ _ _ := Restart.hears_runGraph name input s
  detach _ _ _ name input s _ _ _ _ := Restart.hears_startGraph name input s
  fork _ c _ task compete branches input s _ _ _ _ := hears_run c task compete branches input s

/-- A run of a graph hears the branches of all its forks. -/
theorem hears_runGraph (e : Setting) (c : Context) (g : Graph) (input : Json) (s : Scope) :
    (Sequence.runGraph e c g input s).Hears 0 Any := by
  have hcontexts : (hearer e).Contexts c c := trivial
  refine (hearer e).related_list hcontexts trivial (J := Any) (fun _ _ => trivial) (fun _ _ _ _ => trivial)
    (some g.name) ?_ true none g.children
    (fun _ _ => ⟨fun _ _ _ _ => trivial, fun _ _ _ _ => trivial, fun _ _ _ => trivial⟩) s trivial
  rintro name ⟨⟩
  refine ⟨fun _ => .ask rfl fun _ => trivial, fun id s _ => ?_, fun _ _ => trivial⟩
  have hsettle : (Running.settle c).Hears 0 Any := .request (q := .settle c) (k := fun x => x) rfl rfl
  refine .bind (.outcome hsettle) fun x _ => ?_
  cases x with
  | ok _ => exact .throw _
  | error f => exact .throw _

end Forking

end TaskGraph
