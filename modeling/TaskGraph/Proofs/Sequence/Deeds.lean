import TaskGraph.Proofs.Sequence.Walk

/-!
# What a list does in its scope

A nested list shares the scope of its parent, so what becomes of a scope is decided by a list together
with the lists nested in it. `Sequence.trace` runs a list and notes the deeds of all of them, in order:
the children whose bodies run, the values that assignments come to, and the values that forks merge.
Without the notes it is a run (`Sequence.forget_trace`).
-/

set_option autoImplicit false

namespace TaskGraph

open Running (Any)

/-! ## Deeds -/

/-- The values of branches that a fork merges into the data of its scope. -/
def Join.Verdict.merged : Join.Verdict → List Json
  | .won v => [v]
  | .joined values => values.map fun v => v.getD .null
  | .failed _ | .stopped => []

/-- Whether a step works on the scope that it is given, and not only on one entered from it. -/
def Step.Shares : Step → Bool
  | block _ | fork .. | assign _ => true
  | _ => false

namespace Sequence

/-- What a list does, by itself or in the lists nested in it. -/
inductive Deed where
  /-- The body of a child starts with an input, in a scope. -/
  | starts (r : Resumption) (child : Child Step) (input : Json) (s : Scope)
  /-- The structure of an assignment came to a value. -/
  | assigns (value : Json)
  /-- A fork merges the values of its branches. -/
  | merges (values : List Json)

variable (e : Setting) (c : Context)

/-- A step with what it does, and the deeds of it. -/
abbrev Traced := Step × (Scope → Tracing Deed (Option Json × Scope))

/-- The observer of the children whose bodies start. -/
def deeds (input : Json) : Observer Traced Deed where
  starts r child s := [.starts r (child.doing child.action.1) input s]

/-- Runs a list over steps that tell their deeds, and notes the deeds of the list. -/
def tell (entry : Option String) (input : Json) (first : Bool) (pending : Option String) (i : Nat)
    (children : List (Child Traced)) (s : Scope) : Tracing Deed Scope :=
  narrate e c entry input (deeds input) (fun a => telling a.2) first pending i children s

mutual

/-- The children of a list with what their steps do, and the deeds of it. -/
def traced (input : Json) : List (Child Step) → List (Child Traced)
  | [] => []
  | ⟨id, name, base, replayed, action⟩ :: rest =>
    ⟨id, name, base, replayed, action, traceStep name base input action⟩ :: traced input rest

/-- Runs what a child does and notes the deeds of a nested list. -/
def traceStep (name : String) (base : TaskBase) (input : Json) :
    Step → Scope → Tracing Deed (Option Json × Scope)
  | .block children, s =>
    (tell e c none input true none 0 (traced input children) s).andThen fun s =>
      .of (pure (s.output, s))
  | .fork compete branches, s =>
    .after (do
      Running.ask (.fork c (branches.map Branch.graph) input s.child)
      Forking.collect branches.length (Join.start compete branches.length)) fun j =>
        .mark (.merges j.verdict.merged) (.of (Forking.conclude c name branches s j.verdict))
  | .assign value, s =>
    .after (Running.traverse value s []) fun v =>
      .mark (.assigns v) (.of (pure (some v, s.mergeData v)))
  | action, s => .of (step e c name base input action s)

end

/-- Runs a list and notes its deeds. -/
def trace (entry : Option String) (input : Json) (first : Bool) (pending : Option String)
    (children : Children) (s : Scope) : Tracing Deed Scope :=
  tell e c entry input first pending 0 (traced e c input children) s

theorem traced_eq_map (input : Json) (children : Children) :
    traced e c input children = children.map fun child =>
      child.doing (child.action, traceStep e c child.name child.base input child.action) := by
  induction children with
  | nil => rw [traced.eq_def, List.map_nil]
  | cons child rest ih =>
    rw [traced.eq_def, List.map_cons, ← ih]
    rfl

/-- Without its deeds, a list is a run, if its children do what the steps of a program do. -/
theorem forget_tell (entry : Option String) (input : Json) {children : Children}
    (h : ∀ child ∈ children, ∀ s, (traceStep e c child.name child.base input child.action s).forget =
      step e c child.name child.base input child.action s)
    (first : Bool) (pending : Option String) (i : Nat) (s : Scope) :
    (tell e c entry input first pending i (traced e c input children) s).forget =
      run e c entry input first pending children s := by
  rw [traced_eq_map]
  exact forget_narrate_telling e c entry input (deeds input) Prod.snd
    (g := fun child => (child.action, traceStep e c child.name child.base input child.action))
    h first pending i s

mutual

theorem forget_traced (input : Json) : (children : Children) → ∀ child ∈ children, ∀ s,
    (traceStep e c child.name child.base input child.action s).forget =
      step e c child.name child.base input child.action s
  | [], _, h, _ => nomatch h
  | ⟨id, name, base, replayed, action⟩ :: rest, child, h, s => by
    rcases List.mem_cons.1 h with rfl | h
    · exact forget_traceStep name base input action s
    · exact forget_traced input rest child h s

theorem forget_traceStep (name : String) (base : TaskBase) (input : Json) :
    (action : Step) → (s : Scope) →
      (traceStep e c name base input action s).forget = step e c name base input action s
  | .block children, s => by
    rw [traceStep.eq_def, step.eq_def]
    simp only [Tracing.forget_andThen, Tracing.forget_of,
      forget_tell e c none input (forget_traced input children) true none 0 s]
  | .fork compete branches, s => by
    rw [traceStep.eq_def, step.eq_def]
    simp only [Tracing.forget_after, Tracing.forget_mark, Tracing.forget_of, bind_assoc,
      Forking.run]
  | .assign value, s => by
    rw [traceStep.eq_def, step.eq_def]
    simp only [Tracing.forget_after, Tracing.forget_mark, Tracing.forget_of, assign]
  | .loop .., s | .switch _, s | .attempt .., s | .call .., s | .run .., s | .wait _, s
  | .raise _, s | .listen .., s | .custom _, s => Tracing.forget_of _

end

/-- Without its deeds, a traced list is a run. -/
theorem forget_trace (entry : Option String) (input : Json) (first : Bool)
    (pending : Option String) (children : Children) (s : Scope) :
    (trace e c entry input first pending children s).forget =
      run e c entry input first pending children s :=
  forget_tell e c entry input (forget_traced e c input children) first pending 0 s

end Sequence

end TaskGraph
