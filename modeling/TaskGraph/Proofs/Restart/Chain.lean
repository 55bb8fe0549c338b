import TaskGraph.Proofs.Restart.Path

/-!
# Chains of runs

A graph is run to its end in a chain of runs, each of which goes on where the one before it was
left. The chain of a program and the chain of a graph that a task runs differ only in what they
write around the runs, which is a `Frame`; `Restart.drive` is what they share.

A chain enters its graphs by request. `Dialogue.inline` puts the runs in the place of those
requests, as a host does, and `Restart.trail` does the same and tells of every run its marks and its
outcome. `Restart.ensures_chain` says what trails there are.
-/

set_option autoImplicit false

namespace TaskGraph

open Running (Any)

/-! ## Entering graphs -/

namespace Dialogue

variable {α β : Type} (e : Setting)

/-- A dialogue in which graphs are run where it enters them. -/
def inline : Dialogue α → Dialogue α
  | done a => done a
  | ask (.enter c g input s) k => (Sequence.runGraph e c g input s).run.bind fun x => (k x).inline
  | ask q k => ask q fun x => (k x).inline

@[simp] theorem inline_done (a : α) : (done a).inline e = done a := rfl

theorem inline_bind (d : Dialogue α) (f : α → Dialogue β) :
    (d.bind f).inline e = (d.inline e).bind fun a => (f a).inline e := by
  induction d with
  | done a => rfl
  | ask q k ih =>
    cases q with
    | enter => simp only [bind, inline, bind_assoc, ih]
    | _ => simp only [bind, inline, ih]

end Dialogue

namespace Restart

/-! ## What the chains share -/

/-- What a chain does around its runs. -/
structure Frame (β : Type) where
  /-- Before a run. -/
  opens : Context → Graph → Scope → Running Unit
  /-- After a run that has finished, given the number of restarts that are left. -/
  ends : Context → Nat → Scope → Running β
  /-- Between two runs. -/
  restarts : Context → String → Scope → Running Unit
  /-- After a run that has failed. -/
  fails : Context → Fault → Running β
  /-- After the last run that may be made. -/
  givesUp : Context → Running β

variable {β : Type}

/-- Runs a graph in fresh runs until one ends without asking for another, or the restarts are used
up. -/
def drive (frame : Frame β) (p : Program) (c : Context) : Nat → Graph → Json → Scope → Running β
  | left, g, input, s => do
    let inner ← Running.ask (.fresh c)
    frame.opens inner g s
    match ← (Running.enter inner g input s).outcome with
    | .ok s => frame.ends inner left s
    | .error (.continueAsNew entry input s) => match left with
      | 0 => frame.givesUp inner
      | left + 1 => do
        frame.restarts inner entry s
        let g ← Running.ofExcept (p.graph entry)
        drive frame p c left g input s
    | .error f => frame.fails inner f

/-- The fault of a graph that asks for more restarts than it has. -/
def graphGivesUp (name : String) : Fault :=
  .continuationFailed ("sub-graph '" ++ name ++ "' restarted " ++ Decimal.natText limit ++ " times")

/-- The fault of a program that asks for more restarts than it has. -/
def rootGivesUp : Fault :=
  .continuationFailed ("gave up after " ++ Decimal.natText limit ++ " restarts")

/-- A graph that a task runs. -/
def graphFrame (name : String) : Frame Json where
  opens _ _ _ := pure ()
  ends _ _ s := pure (s.output.getD .null)
  restarts _ _ _ := pure ()
  fails _ f := throw f
  givesUp _ := throw (graphGivesUp name)

/-- A program. -/
def rootFrame : Frame Outcome where
  opens inner g s := Running.record inner (.runStarted g.name (Decimal.natText inner.run) s.marker)
  ends inner left s := do
    Running.record inner (.runCompleted (s.output.getD .null) 0)
    pure ⟨s.output.getD .null, s, limit - left, inner.run⟩
  restarts inner entry s := Running.record inner (.continuedAsNew entry s.marker)
  fails inner f := do
    Running.record inner (.runFailed f.message)
    throw f
  givesUp inner := do
    Running.record inner (.runFailed rootGivesUp.message)
    throw rootGivesUp

theorem loop_eq_drive (p : Program) (c : Context) (name : String) (left : Nat) (g : Graph)
    (input : Json) (s : Scope) :
    loop p c name left g input s = drive (graphFrame name) p c left g input s := by
  induction left generalizing g input s with
  | zero => rw [loop.eq_def, drive.eq_def]; rfl
  | succ left ih =>
    rw [loop.eq_def, drive.eq_def]
    simp only [ih]
    rfl

theorem rootLoop_eq_drive (p : Program) (c : Context) (left : Nat) (g : Graph) (input : Json)
    (s : Scope) : rootLoop p c left g input s = drive rootFrame p c left g input s := by
  induction left generalizing g input s with
  | zero => rw [rootLoop.eq_def, drive.eq_def]; rfl
  | succ left ih =>
    rw [rootLoop.eq_def, drive.eq_def]
    simp only [ih]
    rfl

/-! ## Trails -/

/-- One run of a chain. -/
structure Leg where
  marks : List Mark
  outcome : Except Fault Scope

/-- Tells of a run and goes on from its outcome. -/
def told (run : Tracing Mark Scope) (t : Except Fault Scope → Tracing Leg β) : Tracing Leg β :=
  run.bind fun x => Tracing.mark ⟨x.1, x.2⟩ (t x.2)

/-- A run of a graph with its marks. -/
def legOf (e : Setting) (inner : Context) (g : Graph) (input : Json) (s : Scope) :
    Tracing Mark Scope :=
  Sequence.walk e inner (some g.name) input true none 0
    (g.children.map (Sequence.embody e inner input)) s

/-- A chain with its runs where it enters graphs, and what is told of each run. -/
def trail (frame : Frame β) (e : Setting) (c : Context) : Nat → Graph → Json → Scope → Tracing Leg β
  | left, g, input, s =>
    .after (Running.ask (.fresh c)) fun inner => .after (frame.opens inner g s) fun _ =>
      told (legOf e inner g input s) fun
        | .ok s => .of (frame.ends inner left s)
        | .error (.continueAsNew entry input s) => match left with
          | 0 => .of (frame.givesUp inner)
          | left + 1 => .after (frame.restarts inner entry s) fun _ =>
              .after (Running.ofExcept (e.program.graph entry)) fun g =>
                trail frame e c left g input s
        | .error f => .of (frame.fails inner f)

/-- Whether a chain enters no graphs but for its runs. -/
structure Frame.Plain (frame : Frame β) (e : Setting) : Prop where
  opens : ∀ c g s, (frame.opens c g s).run.inline e = (frame.opens c g s).run
  ends : ∀ c left s, (frame.ends c left s).run.inline e = (frame.ends c left s).run
  restarts : ∀ c entry s, (frame.restarts c entry s).run.inline e = (frame.restarts c entry s).run
  fails : ∀ c f, (frame.fails c f).run.inline e = (frame.fails c f).run
  givesUp : ∀ c, (frame.givesUp c).run.inline e = (frame.givesUp c).run

theorem plain_graphFrame (name : String) (e : Setting) : (graphFrame name).Plain e :=
  ⟨fun _ _ _ => rfl, fun _ _ _ => rfl, fun _ _ _ => rfl, fun _ _ => rfl, fun _ => rfl⟩

theorem plain_rootFrame (e : Setting) : rootFrame.Plain e :=
  ⟨fun _ _ _ => rfl, fun _ _ _ => rfl, fun _ _ _ => rfl, fun _ _ => rfl, fun _ => rfl⟩

variable {e : Setting} {c : Context}

theorem inline_after {α : Type} {r : Running α} (h : r.run.inline e = r.run) {t : α → Tracing Leg β}
    {k : α → Running β} (hk : ∀ a, (t a).forget.run = (k a).run.inline e) :
    (Tracing.after r t).forget.run = (r >>= k).run.inline e := by
  rw [Tracing.forget_after, Running.run_bind, Running.run_bind, Dialogue.inline_bind, h]
  congr 1
  funext x
  cases x with
  | ok a => exact hk a
  | error f => rfl

/-- A run that is told of is the run that a chain enters. -/
theorem inline_leg (inner : Context) (g : Graph) (input : Json) (s : Scope)
    {t : Except Fault Scope → Tracing Leg β} {k : Except Fault Scope → Running β}
    (hk : ∀ x, (t x).forget.run = (k x).run.inline e) :
    (told (legOf e inner g input s) t).forget.run =
      ((Running.enter inner g input s).outcome >>= k).run.inline e := by
  have hwalk := Sequence.forget_walk e inner (some g.name) input true none 0 g.children s
  have hrhs : ((Running.enter inner g input s).outcome >>= k).run.inline e =
      (Sequence.runGraph e inner g input s).run.bind fun x => (k x).run.inline e := by
    rw [Running.run_outcome_bind]
    rfl
  -- both are the walk of the run, told with its marks or without them
  rw [hrhs, Sequence.runGraph, ← hwalk, Tracing.run_forget, Tracing.run_forget, told,
    Dialogue.map_bind, Dialogue.bind_map, legOf]
  congr 1
  funext x
  rw [← hk x.2, ← Tracing.forget_mark (⟨x.1, x.2⟩ : Leg) (t x.2)]
  rfl

/-- A trail without what is told of its runs is the chain, with its runs where it enters graphs. -/
theorem forget_trail {frame : Frame β} (h : frame.Plain e) (left : Nat) (g : Graph) (input : Json)
    (s : Scope) :
    (trail frame e c left g input s).forget.run =
      (drive frame e.program c left g input s).run.inline e := by
  induction left using Nat.strongRecOn generalizing g input s with | ind left ih =>
  rw [trail.eq_def, drive.eq_def]
  refine inline_after rfl fun inner => inline_after (h.opens inner g s) fun _ =>
    inline_leg inner g input s fun x => ?_
  -- the trail goes on with a restart exactly where the chain does
  split
  · rw [Tracing.forget_of, h.ends]
  · cases left with
    | zero => rw [Tracing.forget_of, h.givesUp]
    | succ left =>
      exact inline_after (h.restarts inner _ _) fun _ =>
        inline_after rfl fun g => ih left left.lt_succ_self g _ _
  · rw [Tracing.forget_of, h.fails]

/-! ## What trails there are -/

/-- Whether what a chain does around its runs ends as it is meant to. -/
structure Frame.Faithful (frame : Frame β) : Prop where
  opens : ∀ c g s, (frame.opens c g s).Upholds Request.Honest (fun _ => False) Any
  ends : ∀ c left s, (frame.ends c left s).Upholds Request.Honest (fun _ => False) Any
  restarts : ∀ c entry s, (frame.restarts c entry s).Upholds Request.Honest (fun _ => False) Any
  fails : ∀ c f, (frame.fails c f).Upholds Request.Honest (· = f) fun _ => False
  givesUp : ∀ c, (frame.givesUp c).Upholds Request.Honest
    (fun f => ∃ reason, f = .continuationFailed reason) fun _ => False

theorem faithful_graphFrame (name : String) : (graphFrame name).Faithful where
  opens _ _ _ := .pure trivial
  ends _ _ _ := .pure trivial
  restarts _ _ _ := .pure trivial
  fails _ _ := .throw rfl
  givesUp _ := .throw ⟨_, rfl⟩

theorem faithful_rootFrame : rootFrame.Faithful where
  opens _ _ _ := .ask fun _ _ => trivial
  ends _ _ _ := .bind (.ask (R := Any) fun _ _ => trivial) fun _ _ => .pure trivial
  restarts _ _ _ := .ask fun _ _ => trivial
  fails _ _ := .bind (.ask (R := Any) fun _ _ => trivial) fun _ _ => .throw rfl
  givesUp _ := .bind (.ask (R := Any) fun _ _ => trivial) fun _ _ => .throw ⟨_, rfl⟩

/-- The trails of the chains of a graph, given the number of restarts that are left and where the
first run starts, with the results of the chains. -/
inductive Chain (g : Graph) : Nat → Stage → List Leg → Except Fault β → Prop where
  | ends {left : Nat} {stage : Stage} {marks : List Mark} {s : Scope} {v : β}
      (path : Path g.name stage 0 g.children marks (.ok s)) :
      Chain g left stage [⟨marks, .ok s⟩] (.ok v)
  | fails {left : Nat} {stage : Stage} {marks : List Mark} {f : Fault}
      (path : Path g.name stage 0 g.children marks (.error f)) (leaves : f.asksRestart = false) :
      Chain g left stage [⟨marks, .error f⟩] (.error f)
  | givesUp {stage : Stage} {marks : List Mark} {input : Json} {s : Scope} {reason : String}
      (path : Path g.name stage 0 g.children marks (.error (.continueAsNew g.name input s))) :
      Chain g 0 stage [⟨marks, .error (.continueAsNew g.name input s)⟩]
        (.error (.continuationFailed reason))
  | restarts {left : Nat} {stage : Stage} {marks : List Mark} {input : Json} {s : Scope}
      {legs : List Leg} {x : Except Fault β}
      (path : Path g.name stage 0 g.children marks (.error (.continueAsNew g.name input s)))
      (next : Chain g left (.start s) legs x) :
      Chain g (left + 1) stage (⟨marks, .error (.continueAsNew g.name input s)⟩ :: legs) x

/-- The first run of a chain leaves a path, and what follows it is told after it. -/
theorem ensures_first {frame : Frame β} (h : frame.Faithful) {left : Nat} (g : Graph) (input : Json)
    (s : Scope) {t : Context → Except Fault Scope → Tracing Leg β}
    (ht : ∀ inner marks x, Path g.name (.start s) 0 g.children marks x →
      (t inner x).Ensures Request.Honest
        fun y => Chain g left (.start s) (⟨marks, x⟩ :: y.1) y.2) :
    Dialogue.Ensures Request.Honest (fun y => Chain g left (.start s) y.1 y.2)
      (Tracing.after (Running.ask (.fresh c)) fun inner =>
        Tracing.after (frame.opens inner g s) fun _ =>
        told (legOf e inner g input s) (t inner)) := by
  refine Tracing.ensures_after (E := fun _ => False) (P := Any) (.ask fun _ _ => trivial)
    (fun inner _ => ?_) fun _ hf => hf.elim
  refine Tracing.ensures_after (h.opens inner g s) (fun _ _ => ?_) fun _ hf => hf.elim
  refine Dialogue.Ensures.bind (Sequence.ensures_path g.children s) fun (marks, x) path => ?_
  exact Tracing.ensures_mark (ht inner marks x path)

/-- A run that ends well ends its chain. -/
theorem ensures_ends {frame : Frame β} (h : frame.Faithful) {g : Graph} (inner : Context)
    {left : Nat} {stage : Stage} {marks : List Mark} {s : Scope}
    (path : Path g.name stage 0 g.children marks (.ok s)) :
    (Tracing.of (frame.ends inner left s)).Ensures Request.Honest
      fun x => Chain g left stage (⟨marks, .ok s⟩ :: x.1) x.2 :=
  Tracing.ensures_of (h.ends inner left s) (fun _ _ => .ends path) fun _ hf => hf.elim

/-- A run that fails and asks for no other ends its chain with its fault. -/
theorem ensures_fails {frame : Frame β} (h : frame.Faithful) {g : Graph} (inner : Context)
    {left : Nat} {stage : Stage} {marks : List Mark} {f : Fault}
    (hf : ∀ entry input s, f ≠ .continueAsNew entry input s)
    (path : Path g.name stage 0 g.children marks (.error f)) :
    (Tracing.of (frame.fails inner f)).Ensures Request.Honest
      fun x => Chain g left stage (⟨marks, .error f⟩ :: x.1) x.2 := by
  have leaves := Fault.asksRestart_eq_false hf
  refine Tracing.ensures_of (h.fails inner f) (fun _ hb => hb.elim) fun f' hf => ?_
  cases hf
  exact .fails path leaves

/-- Every trail of a graph that is found under its name is one of its chains. -/
theorem ensures_chain {frame : Frame β} (h : frame.Faithful) {g : Graph}
    (hg : e.program.graph g.name = .ok g) (left : Nat) (input : Json) (s : Scope) :
    (trail frame e c left g input s).Ensures Request.Honest
      fun x => Chain g left (.start s) x.1 x.2 := by
  induction left using Nat.strongRecOn generalizing input s with | ind left ih =>
  rw [trail.eq_def]
  refine ensures_first h g input s fun inner marks x path => ?_
  split
  · exact ensures_ends h inner path
  · -- the run asks for another one of the same graph
    obtain rfl := path.entry_eq
    cases left with
    | zero =>
      exact Tracing.ensures_of (h.givesUp inner) (fun _ hb => hb.elim)
        fun f ⟨_, hf⟩ => hf ▸ .givesUp path
    | succ left =>
      -- the next run goes on from the scope that this one has ended in
      refine Tracing.ensures_after (h.restarts inner _ _) (fun _ _ => ?_) fun _ hf => hf.elim
      rw [hg]
      exact (ih left left.lt_succ_self _ _).mono fun x hx => .restarts path hx
  · next hf => exact ensures_fails h inner hf path

end Restart

end TaskGraph
