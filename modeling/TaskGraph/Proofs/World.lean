import TaskGraph.Program.Compiling
import TaskGraph.Proofs.Dialogue
import TaskGraph.Proofs.Program.Steps
import TaskGraph.Execution.Sequence

/-!
# Worlds

A `World` is what is around a run when handlers and signals answer by what was asked of them so far
and nothing is cancelled: a value for every expression, and answers to calls, attempts and waits for
signals as functions of the calls, sleeps and waits before them. A `Machine` is a world with a
schedule of restarts, which says at each check whether one is due.

`Dialogue.play` conducts a dialogue with given replies; `Machine.within` are the replies of a
machine to dialogues that enter graphs inside each other up to a depth. A dialogue that goes deeper
ends there, without a value. Forks and detached graphs have no place on a machine.
-/

set_option autoImplicit false

namespace TaskGraph

/-! ## What is asked of a world -/

/-- Something that a run asks of the world. -/
inductive Effect where
  /-- A call is made, with all its attempts. -/
  | call (request : CallRequest)
  /-- A task sleeps. -/
  | sleep (duration : Duration)
  /-- Signals are waited for. -/
  | await (mode : ListenMode) (signals : List String)
  /-- An attempt at a call. -/
  | attempt (request : CallRequest) (timeout : Duration)
  /-- A wait, of a task that sleeps or between attempts. -/
  | wait (duration : Duration)

/-- What is around a run; the effects are those so far, latest first. -/
structure World where
  engine : String → Members → Except String Json
  offer : List Effect → CallRequest → Option (Except Fault Json)
  dispatch : List Effect → CallRequest → Duration → Except Fault Json
  listen : List Effect → ListenMode → List String → Except Fault (List (String × Json))

/-- A world, and whether a restart is due at each check for one. -/
structure Machine where
  world : World
  due : Nat → Bool

/-- Where a machine is. -/
structure Moment where
  /-- The effects so far, latest first. -/
  log : List Effect
  /-- The number of runs opened. -/
  opened : Nat
  /-- The number of checks for a restart. -/
  asked : Nat
  /-- Whether an evaluation has failed in a scope on its way to a marker. -/
  stumbled : Bool

namespace Moment

/-- Before anything is asked. -/
def first : Moment := ⟨[], 0, 0, false⟩

/-- Notes an effect. -/
def note (mo : Moment) (e : Effect) : Moment := { mo with log := e :: mo.log }

/-- Notes the outcome of an evaluation in a scope. -/
def judge {α : Type} (mo : Moment) (s : Scope) : Except Fault α → Moment
  | .ok _ => mo
  | .error _ => { mo with stumbled := mo.stumbled || s.isResuming }

@[simp] theorem log_judge {α : Type} (mo : Moment) (s : Scope) (x : Except Fault α) :
    (mo.judge s x).log = mo.log := by
  cases x <;> rfl

end Moment

/-! ## Playing dialogues -/

/-- The replies to requests; without one, a dialogue ends. -/
abbrev Replies := (q : Request) → Moment → Option q.Answer × Moment

namespace Dialogue

variable {α β : Type}

/-- Conducts a dialogue to its value, if it comes to one, and to the moment of its end. -/
def play (replies : Replies) : Dialogue α → Moment → Option α × Moment
  | done a, mo => (some a, mo)
  | ask q k, mo => match replies q mo with
    | (some x, mo) => (k x).play replies mo
    | (none, mo) => (none, mo)

variable {replies : Replies}

@[simp] theorem play_done (a : α) (mo : Moment) : (done a).play replies mo = (some a, mo) := rfl

theorem play_bind (d : Dialogue α) (f : α → Dialogue β) (mo : Moment) :
    (d.bind f).play replies mo =
      match d.play replies mo with
      | (some a, mo) => (f a).play replies mo
      | (none, mo) => (none, mo) := by
  induction d generalizing mo with
  | done a => rfl
  | ask q k ih =>
    simp only [bind, play]
    rcases replies q mo with ⟨_ | x, mo'⟩
    · rfl
    · exact ih x mo'

/-- What a dialogue ensures holds of the value that it is conducted to. -/
theorem Ensures.play {promise : Promise} {P : α → Prop} {d : Dialogue α} (h : d.Ensures promise P)
    (hreplies : ∀ q mo x mo', replies q mo = (some x, mo') → promise q x) {mo mo' : Moment} {a : α}
    (ha : d.play replies mo = (some a, mo')) : P a := by
  induction d generalizing mo with
  | done b =>
    cases ha
    exact h
  | ask q k ih =>
    unfold Dialogue.play at ha
    rcases hq : replies q mo with ⟨_ | x, mo''⟩
    · rw [hq] at ha
      cases ha
    · rw [hq] at ha
      exact ih x (h x (hreplies q mo x mo'' hq)) ha

end Dialogue

/-! ## Evaluations -/

namespace Evaluation

variable {α β : Type}

/-- Whether an evaluation ends in an ordinary outcome, whatever evaluates it. -/
def Ordinary (evaluating : Evaluating α) : Prop :=
  ∀ ev : Evaluator, Fault.Ordinary (ev.run evaluating).1

theorem ordinary_pure (a : α) : Ordinary (pure a : Evaluating α) := fun _ => Fault.ordinary_ok a

theorem ordinary_lift {x : Except Fault α} (h : Fault.Ordinary x) : Ordinary (liftM x : Evaluating α) :=
  fun _ => h

theorem run_bind (evaluating : Evaluating α) (k : α → Evaluating β) (ev : Evaluator) :
    ev.run (evaluating >>= k) =
      match ev.run evaluating with
      | (.ok a, ev) => ev.run (k a)
      | (.error f, ev) => (.error f, ev) := by
  show (match evaluating ev with | (x, ev) => ExceptT.bindCont k x ev) = _
  unfold Evaluator.run
  rcases evaluating ev with ⟨_ | a, ev'⟩ <;> rfl

theorem ordinary_bind {evaluating : Evaluating α} {k : α → Evaluating β} (h : Ordinary evaluating)
    (hk : ∀ a, Ordinary (k a)) : Ordinary (evaluating >>= k) := by
  intro ev
  have hev := h ev
  rw [run_bind]
  rcases hx : ev.run evaluating with ⟨f | a, ev'⟩
  · rw [hx] at hev
    exact Fault.ordinary_error (hev f rfl)
  · exact hk a ev'

theorem ordinary_evaluateIn (document : Members) (raw : String) :
    Ordinary (evaluateIn document raw) := by
  unfold evaluateIn
  split
  · exact ordinary_pure _
  · next text _ =>
    intro ev
    have hengine : Fault.Ordinary (runEngine ev.engine ev.count raw text document) := by
      unfold runEngine
      split
      · exact Fault.ordinary_ok _
      · exact Fault.ordinary_error ⟨rfl, rfl⟩
    show Fault.Ordinary (evaluateBody raw text document ev).1
    unfold evaluateBody
    split
    · exact Fault.ordinary_error ⟨rfl, rfl⟩
    · unfold Wrapper.wrap
      cases ev.wrapper with
      | passThrough => exact hengine
      -- what was recorded is a value, and only what the engine answers can be a fault
      | recording r =>
        dsimp only [Recording.wrap]
        split
        · exact Fault.ordinary_ok _
        · split
          · exact Fault.ordinary_ok _
          · next f hf => exact Fault.ordinary_error (hengine f hf)

mutual

theorem ordinary_traverseIn (document : Members) : ∀ v : Json, Ordinary (traverseIn document v)
  | .str s => by
    rw [traverseIn]
    exact ordinary_evaluateIn document s
  | .arr xs => by
    rw [traverseIn]
    exact ordinary_bind (ordinary_traverseItems document xs) fun _ => ordinary_pure _
  | .obj m => by
    rw [traverseIn]
    exact ordinary_bind (ordinary_traverseMembers document m) fun _ => ordinary_pure _
  | .null | .bool _ | .num _ => by simpa only [traverseIn] using ordinary_pure _

theorem ordinary_traverseItems (document : Members) :
    ∀ xs : List Json, Ordinary (traverseItems document xs)
  | [] => ordinary_pure _
  | x :: xs => by
    rw [traverseItems]
    exact ordinary_bind (ordinary_traverseIn document x) fun _ =>
      ordinary_bind (ordinary_traverseItems document xs) fun _ => ordinary_pure _

theorem ordinary_traverseMembers (document : Members) :
    ∀ m : List (String × Json), Ordinary (traverseMembers document m)
  | [] => ordinary_pure _
  | (k, x) :: m => by
    rw [traverseMembers]
    exact ordinary_bind (ordinary_traverseIn document x) fun _ =>
      ordinary_bind (ordinary_traverseMembers document m) fun _ => ordinary_pure _

end

theorem ordinary_traverse (v : Json) (s : Scope) (locals : Locals) :
    Ordinary (traverse v s locals) := by
  unfold traverse
  split
  · exact ordinary_traverseIn _ v
  · exact ordinary_pure v

theorem ordinary_check (guard : Option String) (s : Scope) (locals : Locals) :
    Ordinary (check guard s locals) := by
  cases guard with
  | none => exact ordinary_pure true
  | some guard =>
    refine ordinary_bind (ordinary_evaluateIn _ guard) fun v => ordinary_lift ?_
    unfold guardValue
    split
    · exact Fault.ordinary_ok _
    · exact Fault.ordinary_ok _
    · exact Fault.ordinary_error ⟨rfl, rfl⟩

/-! ### Names that are read -/

/-- Whether a structure may evaluate to a value. -/
def Reads (v v' : Json) : Prop :=
  ∃ (ev : Evaluator) (s : Scope) (locals : Locals), (ev.run (traverse v s locals)).1 = .ok v'

/-- A text that is no expression stands for itself. -/
theorem evaluateIn_literal (document : Members) {raw : String} (h : isExpression raw = false) :
    evaluateIn document raw = pure (.str raw) := by
  unfold evaluateIn
  have hbody : body? raw = none := by simpa [isExpression] using h
  rw [hbody]

theorem run_traverse_name (document : Members) {name : String} (h : isExpression name = false)
    (ev : Evaluator) :
    ev.run (traverseMembers document [("name", .str name)]) = (.ok [("name", .str name)], ev) := by
  simp only [traverseMembers, traverseIn, evaluateIn_literal document h]
  rfl

/-- A process whose name is no expression is read with that name. -/
theorem read_process {p : WorkflowProcess} (h : isExpression p.name = false) {s : Scope}
    {locals : Locals} {ev : Evaluator} {v : Json}
    (hv : (ev.run (traverse p.toJson s locals)).1 = .ok v) :
    ∃ input, v = (WorkflowProcess.mk p.name input).toJson := by
  obtain ⟨name, input⟩ := p
  unfold traverse at hv
  split at hv
  · cases input with
    | none =>
      have hrun : ev.run (traverseIn (s.document locals) (WorkflowProcess.mk name none).toJson) =
          (.ok (WorkflowProcess.mk name none).toJson, ev) := by
        show ev.run (traverseIn _ (.obj [("name", .str name)])) = _
        rw [traverseIn, run_bind, run_traverse_name _ h]
        rfl
      -- a process that is only a name is left as it is
      rw [hrun] at hv
      cases hv
      exact ⟨none, rfl⟩
    | some w =>
      change
        (ev.run (traverseIn (s.document locals) (.obj [("input", w), ("name", .str name)]))).1 =
        .ok v at hv
      rw [traverseIn, traverseMembers, run_bind, run_bind] at hv
      rcases hw : ev.run (traverseIn (s.document locals) w) with ⟨f | w', ev'⟩
      · rw [hw] at hv
        cases hv
      · rw [hw] at hv
        dsimp only at hv
        rw [run_bind, run_traverse_name _ h] at hv
        cases hv
        exact ⟨some w', rfl⟩
  · cases hv
    exact ⟨input, rfl⟩

theorem name_of_decode {p q : WorkflowProcess} (h : WorkflowProcess.decode p.toJson = .ok q) :
    q.name = p.name := by
  obtain ⟨name, input⟩ := p
  cases input with
  | none =>
    cases h
    rfl
  | some w =>
    cases w <;> cases h <;> rfl

/-- A literal name is read as it is; one that is an expression may be read as any. -/
theorem mayRun_of_reads {p q : WorkflowProcess} {v : Json} (hv : Reads p.toJson v)
    (hq : WorkflowProcess.decode v = .ok q) : p.MayRun q.name := by
  obtain ⟨ev, s, locals, hv⟩ := hv
  cases hname : isExpression p.name with
  | true => exact .inr hname
  | false =>
    obtain ⟨input, rfl⟩ := read_process hname hv
    exact .inl (name_of_decode hq).symm

end Evaluation

/-! ## Machines -/

namespace World

/-- The value of an evaluation; every evaluation runs. -/
def value {α : Type} (w : World) (evaluating : Evaluating α) : Except Fault α :=
  (Evaluator.run ⟨fun _ => w.engine, .passThrough, 0⟩ evaluating).1

/-- Whether nothing in a world answers with a request for a restart. -/
structure Honest (w : World) : Prop where
  offer : ∀ log r x, w.offer log r = some x → Fault.Leaves x
  dispatch : ∀ log r timeout, Fault.Leaves (w.dispatch log r timeout)
  listen : ∀ log mode signals, Fault.Leaves (w.listen log mode signals)

end World

namespace Machine

/-- The replies of a machine, given how graphs are entered. -/
def replies (m : Machine)
    (enter : Context → Graph → Json → Scope → Moment → Option (Except Fault Scope) × Moment) :
    Replies
  | .evaluate text s locals, mo =>
    let x := m.world.value (Evaluation.evaluate text s locals)
    (some x, mo.judge s x)
  | .traverse v s locals, mo =>
    let x := m.world.value (Evaluation.traverse v s locals)
    (some x, mo.judge s x)
  | .check guard s locals, mo =>
    let x := m.world.value (Evaluation.check guard s locals)
    (some x, mo.judge s x)
  | .cancelled _, mo => (some false, mo)
  | .due _ _, mo => (some (m.due mo.asked), { mo with asked := mo.asked + 1 })
  | .settle _, mo => (some (.ok ()), mo)
  | .tell (.call r), mo => (some (), mo.note (.call r))
  | .tell (.sleep d), mo => (some (), mo.note (.sleep d))
  | .tell _, mo => (some (), mo)
  | .record .., mo => (some (), mo)
  | .publish _, mo => (some (), mo)
  | .respond .., mo => (some (), mo)
  | .fresh c, mo => (some ⟨mo.opened + 1, c.scopes⟩, { mo with opened := mo.opened + 1 })
  | .enter c g input s, mo => enter c g input s mo
  | .offer r, mo => (some (m.world.offer mo.log r), mo)
  | .dispatch _ r timeout, mo =>
    (some (m.world.dispatch mo.log r timeout), mo.note (.attempt r timeout))
  | .beat .., mo => (some mo.log.length, mo)
  | .still _, mo => (some (), mo)
  | .pause _ d, mo => (some true, mo.note (.wait d))
  | .listen _ mode signals, mo =>
    (some (m.world.listen mo.log mode signals), mo.note (.await mode signals))
  | .detach .., mo => (none, mo)
  | .fork .., mo => (none, mo)
  | .reply, mo => (none, mo)
  | .stop _, mo => (none, mo)

/-- How a machine enters graphs inside each other up to a depth. -/
def entering (m : Machine) (e : Setting) :
    Nat → Context → Graph → Json → Scope → Moment → Option (Except Fault Scope) × Moment
  | 0, _, _, _, _, mo => (none, mo)
  | depth + 1, c, g, input, s, mo =>
    (Sequence.runGraph e c g input s).run.play (m.replies (entering m e depth)) mo

/-- The replies of a machine to dialogues that enter graphs inside each other up to a depth. -/
def within (m : Machine) (e : Setting) (depth : Nat) : Replies := m.replies (m.entering e depth)

theorem result_of_leaves {α : Type} {x : Except Fault α} (h : Fault.Leaves x) :
    Running.Result (fun f => f.asksRestart = false) Running.Any x := by
  cases x with
  | ok a => trivial
  | error f => exact h f rfl

/-- A machine in an honest world keeps the promise that nothing but the runs asks for restarts. -/
theorem honest_replies {m : Machine} (h : m.world.Honest)
    {enter : Context → Graph → Json → Scope → Moment → Option (Except Fault Scope) × Moment}
    {q : Request} {mo mo' : Moment} {x : q.Answer} (hx : m.replies enter q mo = (some x, mo')) :
    Request.Honest q x := by
  -- graphs that are entered are under no promise, and branches do not reply
  cases q with
  | evaluate text s locals =>
    cases hx
    exact result_of_leaves (Evaluation.ordinary_evaluateIn _ text _).leaves
  | traverse v s locals =>
    cases hx
    exact result_of_leaves (Evaluation.ordinary_traverse v s locals _).leaves
  | check guard s locals =>
    cases hx
    exact result_of_leaves (Evaluation.ordinary_check guard s locals _).leaves
  | dispatch c r timeout =>
    cases hx
    exact result_of_leaves (h.dispatch _ _ _)
  | listen c mode signals =>
    cases hx
    exact result_of_leaves (h.listen _ _ _)
  | offer r =>
    cases hx
    exact fun v hv => result_of_leaves (h.offer _ _ v hv)
  | reply => cases hx
  | _ => trivial

/-- The same world, in which no restart is ever due. -/
def steady (m : Machine) : Machine := ⟨m.world, fun _ => false⟩

end Machine

/-! ## Two calls

The smallest program that a restart can fall into. -/

namespace World

/-- A world in which every call succeeds and no signal comes. -/
def calm : World where
  engine _ _ := .error "no engine"
  offer _ _ := none
  dispatch _ _ _ := .ok .null
  listen _ _ _ := .ok []

theorem honest_calm : calm.Honest where
  offer _ _ _ h := nomatch h
  dispatch _ _ _ := Fault.leaves_ok _
  listen _ _ _ := Fault.leaves_ok _

/-- A world in which the answer to the first attempt at a call of a name is a request for a restart.
-/
def forging (activity entry : String) (s : Scope) : World :=
  { calm with
    dispatch := fun log r _ =>
      let attempts := log.filter fun
        | .attempt r _ => r.invocation.identifier = activity
        | _ => false
      if r.invocation.identifier = activity ∧ attempts = [] then
        .error (.continueAsNew entry .null s)
      else .ok .null }

end World

namespace Pair

/-- A task with nothing but a name, a flow directive and an action. -/
def task (name : String) (next : Option Flow) (action : Action) : Task :=
  ⟨name, ⟨none, next, none, none, none, []⟩, action⟩

/-- A document with two calls. -/
def workflow : Workflow :=
  ⟨⟨"root", none, none, none⟩, none, none,
    [task "a" none (.call (.activity ⟨"x", []⟩)), task "b" none (.call (.activity ⟨"y", []⟩))]⟩

/-- What it is compiled to. -/
def graph : Graph where
  name := "root"
  children :=
    [⟨"a-0", "a", ⟨none, none, none, none, none, []⟩, false, .call (.activity ⟨"x", []⟩) none⟩,
      ⟨"b-1", "b", ⟨none, none, none, none, none, []⟩, false, .call (.activity ⟨"y", []⟩) none⟩]
  schema := none

/-- The program, on standard terms. -/
def setting : Setting :=
  ⟨⟨"root", [graph], .standard⟩, .ofSettings .standard, CallSettings.standard.timeout⟩

theorem compiled : Program.compile Kinds.standard .standard workflow = .ok setting.program := rfl

theorem found : setting.program.graph "root" = .ok graph := rfl

end Pair

end TaskGraph
