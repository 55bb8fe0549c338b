import TaskGraph.Host.Run
import TaskGraph.Proofs.Accord
import TaskGraph.Proofs.Graphs.Tries
import TaskGraph.Proofs.World

/-!
# Faults that nothing handles

A run that cannot be left for a new one ends in a fault that no task handles. Whatever is around the run,
nested lists, loops, switches, tries and other graphs that are waited for, ends in the same fault and does
nothing but say so (`Surfaces`). The proof is on the lengths of executions: a graph that is entered makes
fewer exchanges than what enters it, and everything else is put together along `bind`, where only the
places that look at an outcome need to be looked at.
-/

set_option autoImplicit false

namespace TaskGraph

open Running (Result Any)

/-! ## What is handed on -/

/-- Whether a request is for detached graphs to be finished. -/
def Request.settles : Request → Bool
  | .settle _ => true
  | _ => false

/-- Whether an exchange does nothing but hand on a fault: a graph, or a whole program, has ended in it. -/
inductive Exchange.HandsOn (f : Fault) : Exchange → Prop where
  | enter (c : Context) (g : Graph) (input : Json) (s : Scope) :
      HandsOn f ⟨.enter c g input s, .error f⟩
  | leave (name : String) : HandsOn f ⟨.tell (.leave name (.error f)), ()⟩
  | record (c : Context) : HandsOn f ⟨.record c (.runFailed f.message), ()⟩

/-- Whether an execution ends in the fault of a run that could not be left, as soon as there is one, and
does nothing but hand it on from there. -/
def Surfaces {α : Type} (log : List Exchange) (x : Except Fault α) : Prop :=
  ∀ before c why after, log = before ++ ⟨.settle c, .error why⟩ :: after →
    ∃ entry marker, x = .error (.handlersNotFinished entry marker why.message) ∧
      ∀ y ∈ after, y.HandsOn (.handlersNotFinished entry marker why.message)

/-- A dialogue that makes only requests of a kind makes none but these when it is executed. -/
theorem Dialogue.Heeds.executed {α : Type} {e : Setting} {allowed : Request → Prop} {P : α → Prop}
    {d : Dialogue α} {log : List Exchange} {a : α} (h : d.Heeds allowed (fun _ _ => True) P)
    (hallowed : ∀ q, allowed q → q.enters = false) (hd : d.Executes e log a) :
    ∀ y ∈ log, allowed y.request := by
  induction hd with
  | done a => exact fun _ hy => (List.not_mem_nil hy).elim
  | answer other _ ih =>
    intro y hy
    rcases List.mem_cons.1 hy with rfl | hy
    · exact h.1
    · exact ih (h.2 _ trivial) y hy
  | enter =>
    have henters := hallowed _ h.1
    cases henters

namespace Running

variable {α β : Type} {e : Setting} {n : Nat}

/-- Whether all executions of a computation that are no longer than this surface what could not be left. -/
def Surfaces (e : Setting) (n : Nat) (r : Running α) : Prop :=
  ∀ log x, log.length ≤ n → r.Executes e log x → TaskGraph.Surfaces log x

/-- Whether a computation does nothing but hand a fault on. -/
def HandsOn (e : Setting) (f : Fault) (r : Running α) : Prop :=
  ∀ log x, r.Executes e log x → x = .error f ∧ ∀ y ∈ log, y.HandsOn f

theorem handsOn_throw (f : Fault) : HandsOn e f (throw f : Running α) := by
  intro log x hx
  obtain ⟨rfl, rfl⟩ := executes_throw_iff.1 hx
  exact ⟨rfl, fun _ hy => (List.not_mem_nil hy).elim⟩

/-- What a computation that looks at an outcome does before and after. -/
theorem Surfaces.outcome {r : Running α} {k : Except Fault α → Running β} (h : r.Surfaces e n)
    (hk : ∀ x, (k x).Surfaces e n)
    (hf : ∀ f, f.abandons = true → HandsOn e f (k (.error f))) :
    (r.outcome >>= k).Surfaces e n := by
  intro log y hlength hy before c why after hsplit
  obtain ⟨log₁, log₂, x, rfl, hr, hnext⟩ := executes_outcome_bind_iff.1 hy
  rw [List.length_append] at hlength
  rcases List.append_eq_append_iff.1 hsplit with ⟨mid, rfl, hafter⟩ | ⟨mid, rfl, hmid⟩
  · -- the run could not be left in what goes on from the outcome
    exact hk x log₂ y (by omega) hnext mid c why after hafter
  · cases mid with
    | nil => exact hk x log₂ y (by omega) hnext [] c why after hmid.symm
    | cons z mid =>
      -- it could not be left before, so the outcome is its fault
      obtain ⟨rfl, rfl⟩ := List.cons.inj hmid
      obtain ⟨entry, marker, rfl, hmid⟩ := h _ x (by omega) hr before c why mid rfl
      obtain ⟨rfl, hlog⟩ := hf _ rfl log₂ y hnext
      refine ⟨entry, marker, rfl, fun y hy => ?_⟩
      rcases List.mem_append.1 hy with hy | hy
      · exact hmid y hy
      · exact hlog y hy

theorem run_bind_eq_outcome (r : Running α) (k : α → Running β) :
    (r >>= k).run = (r.outcome >>= fun x => match x with
      | .ok a => k a
      | .error f => throw f).run := by
  rw [run_bind, run_outcome_bind]
  exact congrArg _ (funext fun x => by cases x <;> rfl)

theorem Surfaces.throw (f : Fault) : (throw f : Running α).Surfaces e n := by
  intro log x _ hx before c why after hsplit
  obtain ⟨rfl, -⟩ := executes_throw_iff.1 hx
  simp at hsplit

theorem Surfaces.bind {r : Running α} {k : α → Running β} (h : r.Surfaces e n)
    (hk : ∀ a, (k a).Surfaces e n) : (r >>= k).Surfaces e n := by
  intro log y hlength hy
  unfold Executes at hy
  rw [run_bind_eq_outcome] at hy
  refine Surfaces.outcome (k := fun x => _) h (fun x => ?_) (fun f _ => ?_) log y hlength hy
  · cases x with
    | ok a => exact hk a
    | error f => exact .throw f
  · exact handsOn_throw f

/-- Whether a request neither enters a graph nor waits for detached ones. -/
abbrev Plain (q : Request) : Prop := q.enters = false ∧ q.settles = false

/-- A computation that makes only plain requests. -/
theorem Surfaces.of_plain {r : Running α} {E : Fault → Prop} {P : α → Prop}
    (h : r.Heeds Plain (fun _ _ => True) E P) : r.Surfaces e n := by
  rintro log x - hx before c why after rfl
  have hplain := Dialogue.Heeds.executed h (fun _ hq => hq.1) hx ⟨.settle c, .error why⟩ (by simp)
  cases hplain.2

theorem Surfaces.pure (a : α) : (pure a : Running α).Surfaces e n :=
  .of_plain (E := Any) (P := Any) (.pure trivial)

theorem Surfaces.ofExcept (x : Except Fault α) : (ofExcept x).Surfaces e n :=
  .of_plain (E := Any) (P := Any) (.ofExcept (result_any x))

/-- A request whose answer is a value. -/
theorem Surfaces.ask {q : Request} (hq : Plain q) : (ask q).Surfaces e n :=
  .of_plain (E := Any) (P := Any) (.ask hq fun _ _ => trivial)

end Running

/-! ### What makes only plain requests -/

/-- What a task does by itself, graphs apart, is in plain requests. -/
def plainRules : Accord.Rules where
  Related P r _ := r.Heeds Running.Plain (fun _ _ => True) Any P
  Faults := Any
  Contexts _ _ := True
  fault _ _ _ := trivial
  ofValue := .pure
  ofFault := .throw
  bind := .bind
  mono := .mono
  outcome := .outcome

/-- A request that is answered with a value or with a fault. -/
theorem heeds_plain {α : Type} {q : Request} (hq : Running.Plain q) {r : Running α}
    (k : q.Answer → Except Fault α) (hr : r.run = .ask q fun x => .done (k x)) :
    r.Heeds Running.Plain (fun _ _ => True) Any Any := by
  unfold Running.Heeds
  rw [hr]
  exact ⟨hq, fun x _ => Running.result_any (k x)⟩

theorem plain_ask {q : Request} (hq : Running.Plain q) {R : q.Answer → Prop} (h : ∀ x, R x) :
    (Running.ask q).Heeds Running.Plain (fun _ _ => True) Any R :=
  .ask hq fun x _ => h x

/-- The steps that run no graphs. -/
def plainly (e : Setting) : Accord e where
  toRules := plainRules
  Reads _ _ := True
  Starts _ := False
  Runs _ := False
  Forks := False
  Inputs _ := True
  Scopes _ := True
  Like _ _ := True
  Enters _ _ := True
  evaluate text s locals _ := heeds_plain (q := .evaluate text s locals) ⟨rfl, rfl⟩ id rfl
  traverse v s locals _ := heeds_plain (q := .traverse v s locals) ⟨rfl, rfl⟩ id rfl
  check guard s locals _ := heeds_plain (q := .check guard s locals) ⟨rfl, rfl⟩ id rfl
  cancelled c _ _ := plain_ask (q := .cancelled c) ⟨rfl, rfl⟩ fun _ => trivial
  record c _ ev _ _ _ := plain_ask (q := .record c ev) ⟨rfl, rfl⟩ fun _ => trivial
  tell n _ _ := plain_ask (q := .tell n) ⟨rfl, rfl⟩ fun _ => trivial
  publish m := plain_ask (q := .publish m) ⟨rfl, rfl⟩ fun _ => trivial
  respond id v := plain_ask (q := .respond id v) ⟨rfl, rfl⟩ fun _ => trivial
  request c _ r _ := plainRules.related_request
    (fun d => plain_ask (q := .pause c d) ⟨rfl, rfl⟩ fun _ => trivial)
    (fun ev _ => plain_ask (q := .record c ev) ⟨rfl, rfl⟩ fun _ => trivial)
    (fun r timeout => heeds_plain (q := .dispatch c r timeout) ⟨rfl, rfl⟩ id rfl)
    (fun r => plain_ask (q := .tell (.call r)) ⟨rfl, rfl⟩ fun _ => trivial)
    (fun r => plain_ask (q := .offer r) ⟨rfl, rfl⟩ fun _ v _ => Running.result_any v) r
  beat c _ d _ := plain_ask (q := .beat c d) ⟨rfl, rfl⟩ fun _ => trivial
  still n := plain_ask (q := .still n) ⟨rfl, rfl⟩ fun _ => trivial
  pause c _ d _ := plain_ask (q := .pause c d) ⟨rfl, rfl⟩ fun _ => trivial
  listen c _ mode signals _ := heeds_plain (q := .listen c mode signals) ⟨rfl, rfl⟩ id rfl
  named _ _ _ h := h.elim
  like _ := trivial
  like_trans _ _ := trivial
  keeps _ _ := trivial
  told _ _ _ := trivial
  enters _ _ _ := trivial
  graph _ _ _ _ _ _ h := h.elim
  detach h := h.elim
  fork h := h.elim

/-! ### Graphs -/

/-- Whether all executions of graphs that are shorter than this surface what could not be left. -/
def Shorter (e : Setting) (n : Nat) : Prop :=
  ∀ c g input s log x, log.length < n → (Sequence.runGraph e c g input s).Executes e log x →
    Surfaces log x

namespace Restart

variable {e : Setting} {n : Nat} (hn : Shorter e n)
include hn

/-- A graph that is entered makes fewer exchanges than what enters it. -/
theorem surfaces_enter (c : Context) (g : Graph) (input : Json) (s : Scope) :
    (Running.enter c g input s).Surfaces e n := by
  intro log x hlength hx before c' why after hsplit
  obtain ⟨inside, y, rest, rfl, hgraph, hrest⟩ := Dialogue.executes_enter_iff.1 hx
  obtain ⟨rfl, rfl⟩ := Dialogue.executes_done_iff.1 hrest
  have hlt : inside.length < n := by
    rw [List.length_append] at hlength
    exact hlength
  rcases List.append_eq_append_iff.1 hsplit with ⟨mid, rfl, hafter⟩ | ⟨mid, rfl, hmid⟩
  · -- the exchange that enters the graph is no wait
    cases mid <;> simp at hafter
  · cases mid with
    | nil => simp at hmid
    | cons z mid =>
      obtain ⟨rfl, rfl⟩ := List.cons.inj hmid
      obtain ⟨entry, marker, rfl, honward⟩ := hn c g input s _ _ hlt hgraph before c' why mid rfl
      refine ⟨entry, marker, rfl, fun z hz => ?_⟩
      rcases List.mem_append.1 hz with hz | hz
      · exact honward z hz
      · rw [List.mem_singleton.1 hz]
        exact .enter c g input s

theorem surfaces_loop (c : Context) (name : String) (left : Nat) (g : Graph) (input : Json)
    (s : Scope) : (loop e.program c name left g input s).Surfaces e n := by
  induction left using Nat.strongRecOn generalizing g input s with | ind left ih =>
  rw [loop.eq_def]
  refine .bind (.ask ⟨rfl, rfl⟩) fun inner => .outcome (surfaces_enter hn inner g input s)
    (fun x => ?_) fun f hf => ?_
  · split
    · exact .pure _
    · cases left with
      | zero => exact .throw _
      | succ left => exact .bind (.ofExcept _) fun g' => ih left left.lt_succ_self g' _ _
    · exact .throw _
  · cases f with
    | handlersNotFinished => exact Running.handsOn_throw _
    | _ => cases hf

theorem surfaces_graphOutput (c : Context) (name : String) (input : Json) (s : Scope) :
    (graphOutput e.program c name input s).Surfaces e n :=
  .bind (.ofExcept _) fun g => .bind (.ask ⟨rfl, rfl⟩) fun _ =>
    .bind (surfaces_loop hn c name limit g input s) fun _ => .bind (.ask ⟨rfl, rfl⟩) fun _ => .pure _

omit hn in
/-- What is told of the end of a graph is its outcome, and that is handed on. -/
theorem handsOn_leave (name : String) (f : Fault) :
    Running.HandsOn e f (do
      Running.tell (.leave name (.error f))
      Running.ofExcept (.error f : Except Fault Json)) := by
  intro log x hx
  obtain ⟨y, rest, rfl, hrest⟩ := (Dialogue.executes_ask_iff rfl).1 hx
  obtain ⟨rfl, rfl⟩ := Dialogue.executes_done_iff.1 hrest
  refine ⟨rfl, fun z hz => ?_⟩
  rw [List.mem_singleton.1 hz]
  exact .leave name

theorem surfaces_runGraph (c : Context) (name : String) (input : Json) (s : Scope) :
    (runGraph e.program c name input s).Surfaces e n :=
  .bind (.ask ⟨rfl, rfl⟩) fun _ => .outcome (surfaces_graphOutput hn c name input s)
    (fun x => .bind (.ask ⟨rfl, rfl⟩) fun _ => .ofExcept x) fun f _ => handsOn_leave name f

omit hn in
/-- Between a run that cannot be left and its end there is nothing. -/
theorem surfaces_suspend {α : Type} (c : Context) (entry id : String) (input : Json) (s : Scope) :
    (suspend c entry id input s : Running α).Surfaces e n := by
  intro log x _ hx before c' why after hsplit
  obtain ⟨log₁, log₂, y, rfl, hsettle, hnext⟩ := Running.executes_outcome_bind_iff.1 hx
  obtain rfl := (Dialogue.executes_request_iff rfl).1 hsettle
  cases y with
  | ok _ =>
    obtain ⟨rfl, rfl⟩ := Running.executes_throw_iff.1 hnext
    cases before <;> simp at hsplit
  | error f =>
    obtain ⟨rfl, rfl⟩ := Running.executes_throw_iff.1 hnext
    cases before with
    | nil =>
      obtain ⟨hhead, rfl⟩ := List.cons.inj hsplit
      cases hhead
      exact ⟨entry, id, rfl, fun _ hy => (List.not_mem_nil hy).elim⟩
    | cons z before => simp at hsplit

end Restart

/-! ### Steps -/

namespace Sequence

variable {e : Setting} {n : Nat}

theorem surfaces_check (guard : Option String) (s : Scope) (locals : Locals) :
    (Running.check guard s locals).Surfaces e n :=
  .of_plain (heeds_plain (q := .check guard s locals) ⟨rfl, rfl⟩ id rfl)

theorem surfaces_traverse (v : Json) (s : Scope) (locals : Locals) :
    (Running.traverse v s locals).Surfaces e n :=
  .of_plain (heeds_plain (q := .traverse v s locals) ⟨rfl, rfl⟩ id rfl)

section

variable (hn : Shorter e n)
include hn

theorem surfaces_switch (c : Context) (input : Json) (s : Scope) (cases : List SwitchCase) :
    (switch e c input s cases).Surfaces e n := by
  induction cases with
  | nil => exact .pure _
  | cons case cases ih =>
    refine .bind (surfaces_check _ _ _) fun holds => ?_
    cases holds with
    | false => exact ih
    | true =>
      simp only [if_true]
      split
      · exact .bind (Restart.surfaces_runGraph hn _ _ _ _) fun _ => .pure _
      · exact .pure _

theorem surfaces_element (c : Context) (b : LoopBody) (s : Scope) (key item : Json) :
    (Iteration.element e.program c b s key item).Surfaces e n := by
  have hgoesOn : (Iteration.goesOn b (Iteration.elementScope b s key item)).Surfaces e n := by
    unfold Iteration.goesOn
    split
    · exact .pure _
    · exact .bind (.of_plain (heeds_plain (q := .evaluate ..) ⟨rfl, rfl⟩ id rfl)) fun _ => .pure _
  refine .bind hgoesOn fun holds => ?_
  cases holds with
  | true => exact .bind (Restart.surfaces_runGraph hn _ _ _ _) fun _ => .pure _
  | false => exact .pure _

theorem surfaces_items (c : Context) (b : LoopBody) (s : Scope) (index : Nat) (xs : List Json) :
    (Iteration.items e.program c b s index xs).Surfaces e n := by
  induction xs generalizing index with
  | nil => exact .pure _
  | cons x xs ih =>
    refine .bind (surfaces_element hn c b s _ x) fun v => ?_
    cases v with
    | none => exact .pure _
    | some v => exact .bind (ih (index + 1)) fun _ => .pure _

theorem surfaces_entries (c : Context) (b : LoopBody) (s : Scope) (m : List (String × Json)) :
    (Iteration.entries e.program c b s m).Surfaces e n := by
  induction m with
  | nil => exact .pure _
  | cons entry m ih =>
    refine .bind (surfaces_element hn c b s _ entry.2) fun v => ?_
    cases v with
    | none => exact .pure _
    | some v => exact .bind ih fun _ => .pure _

theorem surfaces_iteration (c : Context) (b : LoopBody) (source : Json) (s : Scope) :
    (Iteration.run e.program c b source s).Surfaces e n := by
  refine .bind (surfaces_traverse _ _ _) fun v => .bind (.ofExcept _) fun es => ?_
  cases es with
  | members m => exact .bind (surfaces_entries hn c b s m) fun _ => .pure _
  | items xs => exact .bind (surfaces_items hn c b s 0 xs) fun _ => .pure _

/-- No task catches the fault of a run that could not be left. -/
theorem surfaces_attempt (c : Context) (input : Json) (s : Scope) (body handler : Option String)
    (binding : String) : (attempt e c input s body handler binding).Surfaces e n := by
  cases body with
  | none => exact .pure _
  | some body =>
    rw [attempt_eq]
    refine .outcome (Restart.surfaces_runGraph hn c body input s.child) (fun x => ?_) fun f hf => ?_
    · cases x with
      | ok v => exact .pure _
      | error f =>
        unfold handle
        dsimp only
        split
        · exact .pure _
        · split
          · exact .throw _
          · cases handler with
            | none => exact .pure _
            | some handler => exact .bind (Restart.surfaces_runGraph hn _ _ _ _) fun _ => .pure _
    -- the fault of a run that could not be left is handed on as a request for a restart is, and no
    -- handler is asked
    · cases f with
      | handlersNotFinished => exact Running.handsOn_throw _
      | _ => cases hf

theorem surfaces_graphProcess (c : Context) (task : String) (input : Json) (s : Scope)
    (process : WorkflowProcess) (awaits : Bool) :
    (graphProcess e c task input s process awaits).Surfaces e n := by
  have hread : (Calling.interpolate task WorkflowProcess.decode process.toJson s).Surfaces e n :=
    .of_plain ((plainly e).related_interpolate trivial task WorkflowProcess.decode process.toJson)
  refine .bind hread fun p => ?_
  cases awaits with
  | true => exact .bind (Restart.surfaces_runGraph hn _ _ _ _) fun _ => .pure _
  | false =>
    -- a graph that is not waited for runs elsewhere
    refine .bind (.bind (.ask ⟨rfl, rfl⟩) fun _ => .bind (.ofExcept _) fun _ =>
      .bind (.ask ⟨rfl, rfl⟩) fun _ => .ask ⟨rfl, rfl⟩) fun _ => .pure _

end

/-- Whether a step has no list and runs no graph. -/
def Solitary : Step → Prop
  | .call .. | .wait _ | .raise _ | .listen .. | .assign _ | .custom _ => True
  | _ => False

/-- A step that runs no graph makes only plain requests. -/
theorem surfaces_solitary (c : Context) (name : String) (base : TaskBase) (input : Json) (step : Step)
    (h : Solitary step) (s : Scope) : (Sequence.step e c name base input step s).Surfaces e n := by
  -- without a list, the step is the only one inside it
  have hself : ∀ inner : Step, inner.Inside step → inner = step := by
    intro inner hinner
    cases hinner with
    | self => rfl
    | block => exact h.elim
  have hc : (plainly e).Contexts c c := trivial
  refine .of_plain ((plainly e).related_step hc name base trivial step ⟨?_, ?_, ?_⟩ s trivial)
  all_goals
    intro inner hinner
    obtain rfl := hself inner hinner
  · intro name hname
    cases inner with
    | call | wait | raise | listen | assign | custom => exact hname
    | _ => exact h
  · intro process hprocess
    cases inner with
    | call | wait | raise | listen | assign | custom => exact hprocess
    | _ => exact h
  · intro hspawns
    cases inner with
    | call | wait | raise | listen | assign | custom => exact hspawns
    | _ => exact h

/-- What a list makes of the outcome of a child. -/
theorem surfaces_absorb (c : Context) (s : Scope) (x : Except Fault (Option Json × Scope)) :
    (absorb c s x).Surfaces e n := by
  cases x with
  | ok r => exact .pure _
  | error f =>
    unfold absorb
    dsimp only
    split
    · refine .bind (.ask ⟨rfl, rfl⟩) fun cancelled => ?_
      cases cancelled with
      | true => exact .pure _
      | false => exact .pure _
    · exact .throw f

theorem handsOn_absorb {α : Type} (c : Context) (s : Scope) {f : Fault} (hf : f.abandons = true)
    (k : Option (Option Json × Scope) → Running α) :
    Running.HandsOn e f (absorb c s (.error f) >>= k) := by
  cases f with
  | handlersNotFinished => exact Running.handsOn_throw _
  | _ => cases hf

theorem surfaces_rerun (c : Context) {body : Doing} {s : Scope} (h : (body s).Surfaces e n) :
    (rerun c body s).Surfaces e n := by
  refine .outcome h (fun x => .bind (surfaces_absorb c s x) fun y => ?_) fun f hf =>
    handsOn_absorb c s hf _
  cases y <;> exact .pure _

theorem surfaces_enact (c : Context) (name : String) (base : TaskBase) {body : Doing} {s : Scope}
    (h : (body s).Surfaces e n) : (enact e c name base body s).Surfaces e n := by
  have hc : (plainly e).Contexts c c := trivial
  have hpublish : (publish c name base s).Surfaces e n :=
    .of_plain ((plainly e).related_publish hc name base trivial)
  refine .bind (.ofExcept _) fun _ => .bind hpublish fun _ => .outcome h (fun x => ?_)
    fun f hf => handsOn_absorb c s hf _
  refine .bind (surfaces_absorb c s x) fun y => ?_
  cases y with
  | none => exact .pure _
  | some y =>
    exact .bind (.of_plain ((plainly e).related_export name base y.1 trivial)) fun _ => .pure _

mutual

theorem surfaces_list (hn : Shorter e n) (c : Context) (entry : Option String) (input : Json) (first : Bool)
    (pending : Option String) : (children : Children) → (s : Scope) →
      (run e c entry input first pending children s).Surfaces e n
  | [], s => by
    rw [run_nil]
    cases pending with
    | none => exact .pure s
    | some target => exact .throw _
  | ⟨id, name, base, replayed, action⟩ :: rest, s => by
    have hleaves : (leaves e c entry first s).Surfaces e n := by
      unfold leaves
      split
      · exact .ask ⟨rfl, rfl⟩
      · exact .pure _
    rw [run_cons]
    refine .bind hleaves fun left => ?_
    cases left with
    | true => exact Restart.surfaces_suspend c _ id input s
    | false =>
      simp only [Bool.false_eq_true, if_false]
      rcases Restart.resumption id replayed entry.isSome s with ⟨r, s'⟩
      dsimp only
      have hrest (pending : Option String) (s : Scope) :=
        surfaces_list hn c entry input false pending rest s
      split
      · exact hrest pending s'
      -- the body of the child comes first, and with it what its nested lists surface
      · have hstep := surfaces_step hn c name base input action s'
        rw [visit_eq_turn]
        refine .bind (.bind (surfaces_check _ _ _) fun holds => ?_) fun t => ?_
        · cases holds with
          | false => exact .pure _
          | true =>
            simp only [if_true]
            split
            · exact surfaces_rerun c hstep
            · exact surfaces_enact c name base hstep
        · cases t with
          | stop s => exact .pure s
          | next pending s => exact hrest pending s

theorem surfaces_step (hn : Shorter e n) (c : Context) (name : String) (base : TaskBase) (input : Json) :
    (step : Step) → (s : Scope) → (Sequence.step e c name base input step s).Surfaces e n
  | .block children, s => by
    rw [Sequence.step.eq_def]
    exact .bind (surfaces_list hn c none input true none children s) fun _ => .pure _
  | .loop spec condition body, s => by
    rw [Sequence.step.eq_def]
    exact .bind (surfaces_iteration hn c _ _ s) fun _ => .pure _
  | .switch cases, s => by
    rw [Sequence.step.eq_def]
    exact .bind (surfaces_switch hn c input s cases) fun _ => .pure _
  | .attempt body handler binding, s => by
    rw [Sequence.step.eq_def]
    exact .bind (surfaces_attempt hn c input s body handler binding) fun _ => .pure _
  | .run r timeout, s => by
    rw [Sequence.step.eq_def]
    refine .bind ?_ fun _ => .pure _
    have hc : (plainly e).Contexts c c := trivial
    unfold process
    split
    · exact surfaces_graphProcess hn c name input s _ _
    all_goals
      exact .bind (.of_plain ((plainly e).related_invoke hc name base timeout
        ((plainly e).related_arguments trivial ..))) fun _ => .pure _
  | .fork compete branches, s => by
    rw [Sequence.step.eq_def]
    -- the branches run on strands of their own, so a fork makes plain requests only
    have hcancelled : plainRules.Related Any (Running.cancelled c) (Running.cancelled c) :=
      plain_ask (q := .cancelled c) ⟨rfl, rfl⟩ fun _ => trivial
    have hfork : (Forking.run c name compete branches input s).Heeds Running.Plain (fun _ _ => True)
        Any fun r => s.Alike r.2 := plainRules.related_fork
      (plain_ask (q := .reply) ⟨rfl, rfl⟩ fun x => Running.result_any x.2)
      (fun branches => plain_ask (q := .stop branches) ⟨rfl, rfl⟩ fun _ => trivial)
      hcancelled name compete
      (plain_ask (q := .fork c (branches.map Branch.graph) input s.child) ⟨rfl, rfl⟩ fun _ => trivial)
    exact .of_plain hfork
  | .call call timeout, s => surfaces_solitary c name base input (.call call timeout) trivial s
  | .wait d, s => surfaces_solitary c name base input (.wait d) trivial s
  | .raise error, s => surfaces_solitary c name base input (.raise error) trivial s
  | .listen mode waits queries, s =>
    surfaces_solitary c name base input (.listen mode waits queries) trivial s
  | .assign value, s => surfaces_solitary c name base input (.assign value) trivial s
  | .custom body, s => surfaces_solitary c name base input (.custom body) trivial s

end

/-- Graphs surface what could not be left, however long their executions are. -/
theorem surfaces_runGraph (c : Context) (g : Graph) (input : Json) (s : Scope) :
    (runGraph e c g input s).Surfaces e n := by
  have hn : Shorter e n := by
    induction n with
    | zero => exact fun _ _ _ _ _ _ h => absurd h (Nat.not_lt_zero _)
    | succ n ih =>
      intro c g input s log x hlength hx
      exact surfaces_list ih c _ input true none g.children s log x (Nat.le_of_lt_succ hlength) hx
  exact surfaces_list hn c _ input true none g.children s

end Sequence

/-! ### Programs -/

namespace Restart

variable {e : Setting} {n : Nat}

end Restart

end TaskGraph
