import TaskGraph.Proofs.Host.Bound

/-!
# What graphs are entered with

Every run of a graph is entered with an input that its scope holds as well, in the environment of the
program, and it comes from somewhere (`Scope.Entered`): the graph is the entry point of the program,
with the input of the program, which was checked if the run starts afresh; or observers were told of
the start of this graph by name with this input. Restarts keep to this. `Pact.entry` says so of all that
a program runs, as long as no handler asks for a restart by itself.
-/

set_option autoImplicit false

namespace TaskGraph

open Running (Any Result)

/-! ## Checks -/

/-- Whether a value satisfies a schema. -/
def Schema.Satisfies (schema v : Json) : Prop := Schema.violations schema v = .ok []

instance (schema v : Json) : Decidable (Schema.Satisfies schema v) :=
  match h : Schema.violations schema v with
  | .ok [] => .isTrue h
  | .ok (_ :: _) | .error _ => .isFalse fun hs => nomatch h.symm.trans hs

/-- Whether a fault refuses the input of a subject: it lists what is wrong with the input, or it says
that something is wrong with the schema. -/
def Fault.Refuses (subject : String) (f : Fault) : Prop :=
  (∃ vs, vs ≠ [] ∧ f = .inputValidation subject vs) ∨ ∃ reason, f = .invalidSchema reason

/-- A value passes the check of a schema if it satisfies it, and is refused otherwise. -/
theorem Schema.validate_cases (subject : String) (schema v : Json) :
    (Schema.Satisfies schema v ∧ Schema.validate subject schema v = .ok ()) ∨
      (¬ Schema.Satisfies schema v ∧
        ∃ f : Fault, f.Refuses subject ∧ Schema.validate subject schema v = .error f) := by
  unfold Schema.Satisfies Schema.validate
  cases hvs : Schema.violations schema v with
  | error f =>
    refine .inr ⟨nofun, f, .inr ?_, rfl⟩
    unfold Schema.violations at hvs
    split at hvs
    · cases hvs
    · cases hvs
      exact ⟨_, rfl⟩
  | ok vs =>
    cases vs with
    | nil => exact .inl ⟨rfl, rfl⟩
    | cons v vs => exact .inr ⟨nofun, _, .inl ⟨v :: vs, nofun, rfl⟩, rfl⟩

namespace ProgramOptions

/-- Whether an input satisfies a schema, if one is declared and inputs are checked. -/
def Admits (options : ProgramOptions) (schema? : Option Json) (input : Json) : Prop :=
  ∀ schema, schema? = some schema → options.validateInput = true → Schema.Satisfies schema input

/-- Checks an input against a schema, if one is declared and inputs are checked. -/
def check (options : ProgramOptions) (subject : String) (schema? : Option Json) (input : Json) :
    Except Fault Unit :=
  match schema? with
  | some schema => if options.validateInput then Schema.validate subject schema input else .ok ()
  | none => .ok ()

theorem check_cases (options : ProgramOptions) (subject : String) (schema? : Option Json)
    (input : Json) :
    (options.Admits schema? input ∧ options.check subject schema? input = .ok ()) ∨
      (¬ options.Admits schema? input ∧
        ∃ f : Fault, f.Refuses subject ∧ options.check subject schema? input = .error f) := by
  unfold Admits check
  cases schema? with
  | none => exact .inl ⟨nofun, rfl⟩
  | some schema =>
    cases hchecks : options.validateInput with
    | false => exact .inl ⟨fun _ _ => nofun, rfl⟩
    | true =>
      refine (Schema.validate_cases subject schema input).imp ?_ ?_
      · rintro ⟨hsatisfies, hvalid⟩
        exact ⟨fun _ heq _ => Option.some.inj heq ▸ hsatisfies, hvalid⟩
      · rintro ⟨hviolates, hrefused⟩
        exact ⟨fun h => hviolates (h schema rfl rfl), hrefused⟩

theorem admits_of_check {options : ProgramOptions} {subject : String} {schema? : Option Json}
    {input : Json} (h : options.check subject schema? input = .ok ()) :
    options.Admits schema? input := by
  rcases check_cases options subject schema? input with ⟨hadmits, -⟩ | ⟨-, f, -, hrefused⟩
  · exact hadmits
  · rw [h] at hrefused
    cases hrefused

theorem refuses_of_not_admits {options : ProgramOptions} {schema? : Option Json} {input : Json}
    (h : ¬ options.Admits schema? input) (subject : String) :
    ∃ f : Fault, f.Refuses subject ∧ options.check subject schema? input = .error f := by
  rcases check_cases options subject schema? input with ⟨hadmits, -⟩ | ⟨-, hrefused⟩
  · exact absurd hadmits h
  · exact hrefused

end ProgramOptions

/-- A run that starts with a scope of its own has its input checked. -/
theorem Graph.initialScope_eq_check (options : ProgramOptions) (g : Graph) (input : Json)
    (env : Members) :
    g.initialScope options input env =
      (options.check g.name g.schema input).map fun _ => .start input env := by
  unfold Graph.initialScope ProgramOptions.check
  cases g.schema with
  | none => rfl
  | some schema => cases options.validateInput <;> rfl

theorem Graph.admits_of_initialScope {options : ProgramOptions} {g : Graph} {input : Json}
    {env : Members} {s : Scope} (h : g.initialScope options input env = .ok s) :
    options.Admits g.schema input ∧ s = .start input env := by
  rw [Graph.initialScope_eq_check] at h
  cases hcheck : options.check g.name g.schema input with
  | error f =>
    rw [hcheck] at h
    cases h
  | ok _ =>
    rw [hcheck] at h
    cases h
    exact ⟨ProgramOptions.admits_of_check hcheck, rfl⟩

/-! ## Entering -/

/-- Whether a graph may be entered with an input in a scope, given what observers were told, in a run of
a program with an input and an environment. -/
structure Scope.Entered (p : Program) (input₀ : Json) (env : Members) (told : List Notice) (g : Graph)
    (input : Json) (s : Scope) : Prop where
  held : s.input = input
  env : s.env = env
  origin : (g.name = p.root ∧ input = input₀ ∧ (s.marker = none → p.options.Admits g.schema input)) ∨
    ∃ s₀ : Scope, s₀.input = input ∧
      (.enter g.name input s₀ ∈ told ∨ .detach g.name input s₀ ∈ told)

/-- Whether a graph may be entered as the entry point of a program. -/
structure Scope.Rooted (p : Program) (input₀ : Json) (env : Members) (g : Graph) (input : Json)
    (s : Scope) : Prop where
  name : g.name = p.root
  given : input = input₀
  held : s.input = input
  env : s.env = env
  admitted : s.marker = none → p.options.Admits g.schema input

section

variable {p : Program} {input₀ : Json} {env : Members} {told told' : List Notice} {g g' : Graph}
  {input : Json} {s s' : Scope}

namespace Scope.Entered

/-- Who knows more knows still where the graph comes from. -/
theorem mono (h : Entered p input₀ env told g input s) (htold : told ⊆ told') :
    Entered p input₀ env told' g input s := by
  refine ⟨h.held, h.env, h.origin.imp_right fun ⟨s₀, hinput, hnotice⟩ => ⟨s₀, hinput, ?_⟩⟩
  exact hnotice.imp (fun hn => htold hn) fun hn => htold hn

/-- A graph that is started by its name. -/
theorem of_notice {name : String} (hinput : s.input = input) (henv : s.env = env)
    (hg : p.graph name = .ok g)
    (htold : .enter name input s ∈ told ∨ .detach name input s ∈ told) :
    Entered p input₀ env told g input s := by
  obtain rfl := (Program.mem_of_graph hg).2
  exact ⟨hinput, henv, .inr ⟨s, hinput, htold⟩⟩

/-- A graph that is gone on with is no fresh one. -/
theorem resumed (h : Entered p input₀ env told g input s) (hg : p.graph g.name = .ok g')
    (hs : s.Remains s') (hmarker : s'.marker.isSome = true) :
    Entered p input₀ env told g' input s' := by
  have hname := (Program.mem_of_graph hg).2
  refine ⟨hs.input.trans h.held, hs.env.trans h.env, ?_⟩
  rw [hname]
  refine h.origin.imp_left fun ⟨hroot, hinput, _⟩ => ⟨hroot, hinput, fun hnone => ?_⟩
  rw [hnone] at hmarker
  cases hmarker

end Scope.Entered

namespace Scope.Rooted

theorem entered (h : Rooted p input₀ env g input s) : Entered p input₀ env told g input s :=
  ⟨h.held, h.env, .inl ⟨h.name, h.given, h.admitted⟩⟩

theorem resumed (h : Rooted p input₀ env g input s) (hg : p.graph g.name = .ok g')
    (hs : s.Remains s') (hmarker : s'.marker.isSome = true) : Rooted p input₀ env g' input s' := by
  refine ⟨(Program.mem_of_graph hg).2.trans h.name, h.given, hs.input.trans h.held,
    hs.env.trans h.env, fun hnone => ?_⟩
  rw [hnone] at hmarker
  cases hmarker

end Scope.Rooted

/-- The input of a scope that is entered from that of a graph. -/
theorem Scope.input_of_enters {input' : Json} (hs : s.input = input)
    (h : s'.input = input' ∨ input' = input ∧ s'.input = s.input) : s'.input = input' := by
  rcases h with h | ⟨rfl, h⟩
  · exact h
  · exact h.trans hs

end

namespace Pact

/-- All that a program runs is entered in this way, as long as no handler asks for a restart by
itself. -/
def entry (p : Program) (input₀ : Json) (env : Members) : Pact p where
  faults f := f.asksRestart = false
  scopes s := s.env = env
  starts input s := s.input = input ∧ s.env = env
  enters := Scope.Entered p input₀ env
  roots := Scope.Rooted p input₀ env
  results := Result (fun f => f.asksRestart = false) fun o => o.scope.input = input₀ ∧ o.scope.env = env
  leaves _ hf := hf
  enters_mono htold h := h.mono htold
  within h hs := hs.env.trans h.env
  calls h henv hinput := ⟨Scope.input_of_enters h.held hinput, henv.trans h.env⟩
  started h hg htold := .of_notice h.1 h.2 hg htold
  resumed h := h.resumed
  forged hf := (Bool.false_ne_true hf.symm).elim
  roots_enters h := h.entered
  roots_resumed h := h.resumed
  roots_forged hf := (Bool.false_ne_true hf.symm).elim
  value _ h hs := ⟨hs.input.trans (h.held.trans h.given), hs.env.trans h.env⟩
  failure hf := hf

end Pact

/-! ## Hosts -/

/-- On every host that a run of a program comes to, all graphs are entered in this way. -/
theorem Host.bound_entry {e : Setting} {around : Surroundings}
    (hwithin : around.Within fun f => f.asksRestart = false) {input : Json} {env : Members}
    {h : Host Host.RunResult} (hh : Host.Reaches e around input env h) :
    ∃ k, Host.Bound (Pact.entry e.program input env) k h := by
  refine Host.bound_of_reaches (Pact.entry e.program input env) hwithin (fun g s hg hs => ?_) hh
  obtain ⟨hadmits, rfl⟩ := Graph.admits_of_initialScope hs
  exact ⟨(Program.mem_of_graph hg).2, rfl, rfl, rfl, fun _ => hadmits⟩

/-- What a host that is bound so enters is the entry point, or observers were told of its start. -/
theorem Host.Bound.origin {e : Setting} {input : Json} {env : Members} {k : Kinship}
    {h : Host Host.RunResult} (hb : Host.Bound (Pact.entry e.program input env) k h) {c : Context}
    {g : Graph} {input' : Json} {s : Scope} (hq : h.Asks (.enter c g input' s)) :
    s.input = input' ∧ ((g.name = e.program.root ∧ input' = input ∧
        (s.marker = none → e.program.options.Admits g.schema input')) ∨
      ∃ t s₀, s₀.input = input' ∧
        ((t, .enter g.name input' s₀) ∈ h.journal ∨ (t, .detach g.name input' s₀) ∈ h.journal)) := by
  obtain ⟨l, _, hl, -, hentered⟩ := hb.allows hq
  refine ⟨hentered.held, hentered.origin.imp_right fun ⟨s₀, hinput, hnotice⟩ => ?_⟩
  -- what a strand knows is in the journal of its host
  rcases hnotice with hnotice | hnotice
  · obtain ⟨t, ht⟩ := hl.told _ hnotice
    exact ⟨t, s₀, hinput, .inl ht⟩
  · obtain ⟨t, ht⟩ := hl.told _ hnotice
    exact ⟨t, s₀, hinput, .inr ht⟩

end TaskGraph
