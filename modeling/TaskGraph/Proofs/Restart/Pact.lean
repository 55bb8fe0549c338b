import TaskGraph.Host.Run
import TaskGraph.Proofs.Congruence

/-!
# What strands agree on

The strands of a program know of one another only what observers were told; of the runs, each knows those
that it has opened itself (`Lore`). A `Pact` says, in these terms, in which scopes something is evaluated, with what input and in
which scope a graph is started by name, and with what a graph is entered; and that what runs inside of a
graph that is entered so keeps to the same. So all that a program runs keeps to the pact: graphs that
are run by name, awaited or not (`Pact.binds_runGraph`, `Pact.binds_startGraph`), each run of a graph
(`Pact.binds_graph`), and the runs of the program from its root on (`Pact.binds_programRun`).

A strand enters graphs, detaches others and waits for those only in runs that it has opened, and a graph
is started by its name only after observers were told of it.
-/

set_option autoImplicit false

namespace TaskGraph

open Running (Any Result)

/-! ## Lore -/

/-- What a strand knows: some of what observers were told, and runs that it has opened. -/
structure Lore where
  told : List Notice
  own : List Nat

namespace Lore

/-- Whether what is known is known still. -/
structure Le (l l' : Lore) : Prop where
  told : l.told ⊆ l'.told
  own : l.own ⊆ l'.own

theorem Le.refl (l : Lore) : l.Le l := ⟨fun _ => id, fun _ => id⟩

theorem Le.trans {l l' l'' : Lore} (h : l.Le l') (h' : l'.Le l'') : l.Le l'' :=
  ⟨fun _ hn => h'.told (h.told hn), fun _ hr => h'.own (h.own hr)⟩

/-- What is known after an answer. -/
def after (l : Lore) : (q : Request) → q.Answer → Lore
  | .tell n, _ => ⟨n :: l.told, l.own⟩
  | .fresh _, inner => ⟨l.told, inner.run :: l.own⟩
  | _, _ => l

theorem le_after (l : Lore) (q : Request) (x : q.Answer) : l.Le (l.after q x) := by
  cases q with
  | tell n => exact ⟨List.subset_cons_self .., fun _ => id⟩
  | fresh c => exact ⟨fun _ => id, List.subset_cons_self ..⟩
  | _ => exact .refl l

theorem Le.after {l l' : Lore} (h : l.Le l') (q : Request) (x : q.Answer) :
    (l.after q x).Le (l'.after q x) := by
  cases q with
  | tell n => exact ⟨List.cons_subset_cons n h.told, h.own⟩
  | fresh c => exact ⟨h.told, List.cons_subset_cons x.run h.own⟩
  | _ => exact h

end Lore

/-! ## What a run leaves alone -/

/-- Whether a scope has the input and the environment of another one. -/
structure Scope.Remains (s s' : Scope) : Prop where
  input : s'.input = s.input
  env : s'.env = s.env

namespace Scope.Remains

variable {s s' s'' : Scope}

theorem refl (s : Scope) : s.Remains s := ⟨rfl, rfl⟩

theorem trans (h : s.Remains s') (h' : s'.Remains s'') : s.Remains s'' :=
  ⟨h'.input.trans h.input, h'.env.trans h.env⟩

end Scope.Remains

/-- Whether a fault asks for a restart of a graph with an input, in a scope with the input and the
environment of another one. -/
def Fault.Resumes (name : String) (input : Json) (s : Scope) : Fault → Prop
  | .continueAsNew entry input' s' =>
    entry = name ∧ input' = input ∧ s.Remains s' ∧ s'.marker.isSome = true
  | _ => False

/-! ## Pacts -/

/-- What the strands of a program agree on. -/
structure Pact (p : Program) where
  /-- The faults that handlers, signals and graphs may end in. -/
  faults : Fault → Prop
  /-- The scopes that something is evaluated in. -/
  scopes : Scope → Prop
  /-- With what graphs are started by name. -/
  starts : Json → Scope → Prop
  /-- With what a graph is entered, given what was told. -/
  enters : List Notice → Graph → Json → Scope → Prop
  /-- With what a graph is entered as the entry point of the program. -/
  roots : Graph → Json → Scope → Prop
  /-- What the program comes to. -/
  results : Host.RunResult → Prop
  leaves : ∀ f, f.asksRestart = false → faults f
  enters_mono : ∀ {told told' : List Notice} {g : Graph} {input : Json} {s : Scope},
    told ⊆ told' → enters told g input s → enters told' g input s
  within : ∀ {told : List Notice} {g : Graph} {input : Json} {s s' : Scope},
    enters told g input s → s.Remains s' → scopes s'
  /-- What runs in a graph starts other ones with the input of a scope entered from its own. -/
  calls : ∀ {told : List Notice} {g : Graph} {input input' : Json} {s s' : Scope},
    enters told g input s → s'.env = s.env →
      s'.input = input' ∨ input' = input ∧ s'.input = s.input → starts input' s'
  started : ∀ {told : List Notice} {name : String} {g : Graph} {input : Json} {s : Scope},
    starts input s → p.graph name = .ok g →
      .enter name input s ∈ told ∨ .detach name input s ∈ told → enters told g input s
  resumed : ∀ {told : List Notice} {g g' : Graph} {input : Json} {s s' : Scope},
    enters told g input s → p.graph g.name = .ok g' → s.Remains s' → s'.marker.isSome = true →
      enters told g' input s'
  forged : ∀ {told : List Notice} {entry : String} {g : Graph} {input : Json} {s : Scope},
    faults (.continueAsNew entry input s) → p.graph entry = .ok g → enters told g input s
  roots_enters : ∀ {told : List Notice} {g : Graph} {input : Json} {s : Scope},
    roots g input s → enters told g input s
  roots_resumed : ∀ {g g' : Graph} {input : Json} {s s' : Scope},
    roots g input s → p.graph g.name = .ok g' → s.Remains s' → s'.marker.isSome = true →
      roots g' input s'
  roots_forged : ∀ {entry : String} {g : Graph} {input : Json} {s : Scope},
    faults (.continueAsNew entry input s) → p.graph entry = .ok g → roots g input s
  value : ∀ {g : Graph} {input : Json} {s : Scope} (o : Restart.Outcome),
    roots g input s → s.Remains o.scope → results (.ok o)
  failure : ∀ {f : Fault}, faults f → results (.error f)

namespace Pact

variable {p : Program} (A : Pact p)

/-- What observers may be told. -/
def Tells : Notice → Prop
  | .enter _ input s | .detach _ input s => A.starts input s
  | _ => True

/-- What may be asked. -/
def Allows (l : Lore) : Request → Prop
  | .evaluate _ s _ | .traverse _ s _ | .check _ s _ => A.scopes s
  | .settle c => c.run ∈ l.own
  | .enter c g input s => c.run ∈ l.own ∧ A.enters l.told g input s
  | .detach c name input s => c.run ∈ l.own ∧ A.starts input s ∧ .detach name input s ∈ l.told
  | .fork _ _ input s => A.starts input s
  | .tell n => A.Tells n
  | _ => True

/-- The law of a pact. -/
def law : Dialogue.Law Lore := ⟨A.Allows, Lore.after⟩

/-- How a run of a graph may end. -/
def Returns (name : String) (input : Json) (s : Scope) : Except Fault Scope → Prop :=
  Result (fun f => A.faults f ∨ f.Resumes name input s) s.Remains

/-- What is promised of answers. -/
def Promises : Dialogue.Promise
  | .enter _ g input s, x => A.Returns g.name input s x
  | q, x => q.Within A.faults x

theorem allows_mono {l l' : Lore} (hl : l.Le l') {q : Request} (h : A.Allows l q) :
    A.Allows l' q := by
  cases q with
  | settle => exact hl.own h
  | enter => exact ⟨hl.own h.1, A.enters_mono hl.told h.2⟩
  | detach => exact ⟨hl.own h.1, h.2.1, hl.told h.2.2⟩
  | _ => exact h

/-- Who knows more may go on as before. -/
theorem abides_mono {α : Type} {P : α → Prop} {d : Dialogue α} {l l' : Lore} (hl : l.Le l')
    (h : d.Abides A.law A.Promises (fun _ a => P a) l) :
    d.Abides A.law A.Promises (fun _ a => P a) l' := by
  induction d generalizing l l' with
  | done a => exact h
  | ask q k ih => exact ⟨A.allows_mono hl h.1, fun x hx => ih x (hl.after q x) (h.2 x hx)⟩

/-- What comes next starts with no less known. -/
theorem abides_bind {α β : Type} {R : α → Prop} {S : Lore → β → Prop} {d : Dialogue α}
    {f : α → Dialogue β} {l : Lore} (h : d.Abides A.law A.Promises (fun _ a => R a) l)
    (hf : ∀ l' a, l.Le l' → R a → (f a).Abides A.law A.Promises S l') :
    (d.bind f).Abides A.law A.Promises S l := by
  induction d generalizing l with
  | done a => exact hf l a (.refl l) h
  | ask q k ih =>
    exact ⟨h.1, fun x hx => ih x (h.2 x hx) fun l' a hl => hf l' a ((l.le_after q x).trans hl)⟩

end Pact

/-! ## Computations that keep to a pact -/

/-- Whether a computation keeps to a pact, given what is known, and ends in a value with a property or in
a fault as described. -/
def Running.Bound {α : Type} {p : Program} (A : Pact p) (E : Fault → Prop) (P : α → Prop) (l : Lore)
    (r : Running α) : Prop :=
  r.run.Abides A.law A.Promises (fun _ x => Result E P x) l

namespace Running.Bound

variable {p : Program} {A : Pact p} {E E' : Fault → Prop} {l l' : Lore} {α β : Type}
  {P P' : α → Prop} {Q : β → Prop} {r : Running α} {k : α → Running β}

theorem pure {a : α} (h : P a) : Bound A E P l (pure a) := h

theorem throw {f : Fault} (h : E f) : Bound A E P l (throw f) := h

theorem ofExcept {x : Except Fault α} (h : Result E P x) : Bound A E P l (ofExcept x) := h

theorem mono (h : Bound A E P l r) (imp : ∀ a, P a → P' a) : Bound A E P' l r := by
  refine Dialogue.Abides.mono h fun _ x hx => ?_
  cases x with
  | ok a => exact imp a hx
  | error f => exact hx

theorem mono_fault (h : Bound A E P l r) (imp : ∀ f, E f → E' f) : Bound A E' P l r :=
  Dialogue.Abides.mono h fun _ _ hx => hx.mono_fault imp

theorem bind (h : Bound A E P l r) (hk : ∀ l' a, l.Le l' → P a → Bound A E Q l' (k a)) :
    Bound A E Q l (r >>= k) := by
  unfold Bound
  rw [run_bind]
  refine A.abides_bind h fun l' x hl hx => ?_
  cases x with
  | ok a => exact hk l' a hl hx
  | error f => exact hx

/-- The faults of a computation are no faults of its outcome. -/
theorem outcome (h : Bound A E P l r) : Bound A E' (Result E P) l r.outcome :=
  Dialogue.Abides.bind h fun _ _ hx => hx

/-- A request whose answer is a value. -/
theorem ask {q : Request} {R : q.Answer → Prop} (hq : A.Allows l q)
    (h : ∀ x, A.Promises q x → R x) : Bound A E R l (ask q) :=
  ⟨hq, h⟩

/-- What comes next starts with what is known from the answer. -/
theorem bind_ask {q : Request} {k : q.Answer → Running β} (hq : A.Allows l q)
    (hk : ∀ x, A.Promises q x → Bound A E Q (l.after q x) (k x)) :
    Bound A E Q l (Running.ask q >>= k) :=
  ⟨hq, hk⟩

end Running.Bound

namespace Pact

variable {p : Program} (A : Pact p) {c : Context} {l : Lore}

/-! ## Graphs by name -/

theorem faults_of_graph {name : String} {f : Fault} (h : p.graph name = .error f) : A.faults f :=
  A.leaves f (Congruence.plain_graph p name f h).1

theorem bound_graph_of_name (name : String) :
    (Running.ofExcept (p.graph name)).Bound A A.faults (fun g => p.graph name = .ok g) l := by
  cases h : p.graph name with
  | ok g => exact .pure rfl
  | error f => exact .throw (A.faults_of_graph h)

/-- A graph that is entered, before its run is known to keep to the pact. -/
theorem bound_enter {g : Graph} {input : Json} {s : Scope} (hrun : c.run ∈ l.own)
    (h : A.enters l.told g input s) :
    (Running.enter c g input s).Bound A (fun f => A.faults f ∨ f.Resumes g.name input s)
      s.Remains l :=
  ⟨⟨hrun, h⟩, fun _ hx => hx⟩

/-- A fault of a graph that asks for no restart is one that graphs may end in. -/
theorem faults_of_other {name : String} {input : Json} {s : Scope} {f : Fault}
    (h : A.faults f ∨ f.Resumes name input s)
    (hf : ∀ entry input s, f ≠ .continueAsNew entry input s) : A.faults f := by
  refine h.resolve_right fun hresumes => ?_
  cases f with
  | continueAsNew entry input s => exact hf _ _ _ rfl
  | _ => exact hresumes

/-- A graph that a fault asks for is entered as before, or as a fault may ask for. -/
theorem enters_of_restart {g g' : Graph} {input input' : Json} {s s' : Scope} {entry : String}
    {told : List Notice} (henters : A.enters told g input s)
    (h : A.faults (.continueAsNew entry input' s') ∨
      (Fault.continueAsNew entry input' s').Resumes g.name input s)
    (hg : p.graph entry = .ok g') : A.enters told g' input' s' := by
  rcases h with hfault | ⟨rfl, rfl, hs, hmarker⟩
  · exact A.forged hfault hg
  · exact A.resumed henters hg hs hmarker

/-- The runs of a graph, one after the other. -/
theorem bound_loop (name : String) (left : Nat) {g : Graph} {input : Json} {s : Scope}
    (h : A.enters l.told g input s) :
    (Restart.loop p c name left g input s).Bound A A.faults Any l := by
  induction left using Nat.strongRecOn generalizing g input s l with | ind left ih =>
  rw [Restart.loop.eq_def]
  refine .bind_ask trivial fun inner _ => ?_
  refine .bind (.outcome (A.bound_enter (List.mem_cons_self ..) h)) fun l' x hl hx => ?_
  split
  · exact .pure trivial
  · cases left with
    | zero => exact .throw (A.leaves _ rfl)
    | succ left =>
      refine .bind (A.bound_graph_of_name _) fun l'' g' hl' hg => ih left left.lt_succ_self ?_
      exact A.enters_mono hl'.told (A.enters_mono hl.told (A.enters_of_restart h hx hg))
  · next f hf => exact .throw (A.faults_of_other hx fun _ _ _ heq => hf _ _ _ (by rw [heq]))

theorem bound_graphOutput {name : String} {input : Json} {s : Scope} (h : A.starts input s)
    (htold : .enter name input s ∈ l.told ∨ .detach name input s ∈ l.told) :
    (Restart.graphOutput p c name input s).Bound A A.faults Any l := by
  refine .bind (A.bound_graph_of_name name) fun l' g hl hg => ?_
  refine .bind_ask trivial fun _ _ => ?_
  refine .bind (A.bound_loop name _ (A.started h hg ?_)) fun _ _ _ _ => ?_
  · exact htold.imp (fun h => hl.told h) fun h => hl.told h
  · exact .bind_ask trivial fun _ _ => .pure trivial

/-- A graph that is run by name. -/
theorem bound_runGraph (name : String) {input : Json} {s : Scope} (h : A.starts input s) :
    (Restart.runGraph p c name input s).Bound A A.faults Any l := by
  refine .bind_ask h fun _ _ => ?_
  refine .bind (.outcome (A.bound_graphOutput h (.inl (List.mem_cons_self ..)))) fun _ x _ hx => ?_
  exact .bind_ask trivial fun _ _ => .ofExcept hx

/-- A graph that is started by name and not waited for. -/
theorem bound_startGraph (name : String) {input : Json} {s : Scope} (hrun : c.run ∈ l.own)
    (h : A.starts input s) :
    (Restart.startGraph p c name input s).Bound A A.faults Any l := by
  refine .bind_ask h fun _ _ => ?_
  refine .bind (A.bound_graph_of_name name) fun l' _ hl _ => ?_
  exact .bind_ask trivial fun _ _ =>
    .ask ⟨hl.own hrun, h, hl.told (List.mem_cons_self ..)⟩ fun _ _ => trivial

/-! ## Graphs -/

/-- What keeps to the pact in a run of a graph that is entered. -/
def rules (l : Lore) (g : Graph) (input : Json) (s : Scope) : Accord.Rules where
  Related P r _ := ∀ l', l.Le l' → r.Bound A (fun f => A.faults f ∨ f.Resumes g.name input s) P l'
  Faults f := A.faults f ∨ f.Resumes g.name input s
  Contexts c c' := c' = c ∧ c.run ∈ l.own
  fault f hf _ := .inl (A.leaves f (Fault.asksRestart_of_ordinary hf))
  ofValue h _ _ := .pure h
  ofFault h _ _ := .throw h
  bind h hk l' hl := .bind (h l' hl) fun l'' a hl' ha => hk a ha l'' (hl.trans hl')
  mono h imp l' hl := (h l' hl).mono imp
  outcome h l' hl := .outcome (h l' hl)

end Pact

namespace Pact

variable {e : Setting} (A : Pact e.program) {c : Context} {l : Lore}

/-- What runs in a graph that is entered starts other ones from scopes that remain those of its run. -/
theorem starts_within {g : Graph} {input : Json} {s : Scope} (h : A.enters l.told g input s)
    {input' : Json} {s' s'' : Scope} (hs : s.Remains s') (henv : s''.env = s'.env)
    (hinput : s''.input = input' ∨ input' = input ∧ s''.input = s'.input) : A.starts input' s'' :=
  A.calls h (henv.trans hs.env) (hinput.imp_right fun ⟨heq, hinput⟩ => ⟨heq, hinput.trans hs.input⟩)

/-- What runs in a graph that is entered keeps to the pact. -/
def accord {g : Graph} {input : Json} {s : Scope} (h : A.enters l.told g input s) : Accord e where
  toRules := A.rules l g input s
  Reads _ _ := True
  Starts _ := True
  Runs _ := True
  Forks := True
  Inputs input' := input' = input
  Scopes s' := s.Remains s'
  Like s s' := s.Remains s'
  Enters := A.starts
  evaluate _ _ _ hs _ _ := ⟨A.within h hs, fun _ hx => hx.mono_fault fun _ => .inl⟩
  traverse _ _ _ hs _ _ := ⟨A.within h hs, fun _ hx => hx.mono_fault fun _ => .inl⟩
  check _ _ _ hs _ _ := ⟨A.within h hs, fun _ hx => hx.mono_fault fun _ => .inl⟩
  cancelled _ _ _ _ _ := .ask trivial fun _ _ => trivial
  record _ _ _ _ _ _ _ _ := .ask trivial fun _ _ => trivial
  tell n hn _ _ _ := by
    refine .ask ?_ fun _ _ => trivial
    cases n with
    | enter | leave | detach => cases hn
    | _ => trivial
  publish _ _ _ := .ask trivial fun _ _ => trivial
  respond _ _ _ _ := .ask trivial fun _ _ => trivial
  request _ _ r hc := (A.rules l g input s).related_request (fun _ _ _ => .ask trivial fun _ _ => trivial)
    (fun _ _ _ _ => .ask trivial fun _ _ => trivial)
    (fun _ _ _ _ => ⟨trivial, fun _ hx => hx.mono_fault fun _ => .inl⟩)
    (fun _ _ _ => .ask trivial fun _ _ => trivial)
    (fun _ _ _ => .ask trivial fun _ hx v hv => (hx v hv).mono_fault fun _ => .inl) r
  beat _ _ _ _ _ _ := .ask trivial fun _ _ => trivial
  still _ _ _ := .ask trivial fun _ _ => trivial
  pause _ _ _ _ _ _ := .ask trivial fun _ _ => trivial
  listen _ _ _ _ _ _ _ := ⟨trivial, fun _ hx => hx.mono_fault fun _ => .inl⟩
  named _ _ _ _ _ _ := trivial
  like h := ⟨h.input, h.env⟩
  like_trans h h' := h.trans h'
  keeps hs hs' := hs.trans hs'
  told hs hinput henv := hs.trans ⟨hinput, henv⟩
  enters := A.starts_within h
  graph _ _ name _ _ _ _ hstarts _ _ _ := (A.bound_runGraph name hstarts).mono_fault fun _ => .inl
  detach _ _ _ name _ _ hc _ hstarts _ _ hl :=
    (A.bound_startGraph name (hl.own hc.2) hstarts).mono_fault fun _ => .inl
  fork _ _ _ task compete _ _ _ _ _ hinput hs := (A.rules l g input s).related_fork
    (fun _ _ => .ask trivial fun _ hx => hx.mono_fault fun _ => .inl)
    (fun _ _ _ => .ask trivial fun _ _ => trivial) (fun _ _ => .ask trivial fun _ _ => trivial) task compete
    fun _ _ => .ask (A.starts_within h hs rfl (.inr ⟨hinput, rfl⟩)) fun _ _ => trivial

/-- A run that is left asks for a restart in a scope with the input and the environment of its own. -/
theorem leaves_accord {g : Graph} {input : Json} {s : Scope} (h : A.enters l.told g input s)
    (hrun : c.run ∈ l.own) :
    (A.accord h).Leaves s.Remains c c g.name input where
  due _ _ _ := .ask trivial fun _ _ => trivial
  suspend id s' hs l' hl := by
    refine ⟨hl.own hrun, fun x _ => ?_⟩
    cases x with
    | ok _ => exact .inr ⟨rfl, rfl, ⟨hs.input, hs.env⟩, rfl⟩
    | error f => exact .inl (A.leaves _ rfl)
  resumed s' hs := ⟨hs.input, hs.env⟩

/-- A run of a graph that is entered ends as it may. -/
theorem bound_graph {g : Graph} {input : Json} {s : Scope} (h : A.enters l.told g input s)
    (hrun : c.run ∈ l.own) :
    (Sequence.runGraph e c g input s).Bound A (fun f => A.faults f ∨ f.Resumes g.name input s)
      s.Remains l := by
  have hcontexts : (A.accord h).Contexts c c := ⟨rfl, hrun⟩
  refine (A.accord h).related_list hcontexts rfl (fun _ hs => hs)
    (fun _ _ hs hs' => hs.trans hs') (some g.name) ?_ true none g.children
    (fun _ _ => ⟨fun _ _ _ _ => trivial, fun _ _ _ _ => trivial, fun _ _ _ => trivial⟩) s (.refl s)
    l (.refl l)
  rintro name ⟨rfl⟩
  exact A.leaves_accord h hrun

end Pact

/-! ## Programs -/

namespace Pact

variable {p : Program} (A : Pact p) {c : Context} {l : Lore}

/-- A graph that a fault asks for is the entry point as before, or as a fault may ask for. -/
theorem roots_of_restart {g g' : Graph} {input input' : Json} {s s' : Scope} {entry : String}
    (hroots : A.roots g input s) (h : A.faults (.continueAsNew entry input' s') ∨
      (Fault.continueAsNew entry input' s').Resumes g.name input s)
    (hg : p.graph entry = .ok g') : A.roots g' input' s' := by
  rcases h with hfault | ⟨rfl, rfl, hs, hmarker⟩
  · exact A.roots_forged hfault hg
  · exact A.roots_resumed hroots hg hs hmarker

/-- The runs of a program, one after the other. -/
theorem bound_rootLoop (left : Nat) {g : Graph} {input : Json} {s : Scope} (h : A.roots g input s) :
    (Restart.rootLoop p c left g input s).Bound A A.faults (fun o => A.results (.ok o)) l := by
  have hrecord (c : Context) (ev : HistoryEvent) (l : Lore) :
      (Running.record c ev).Bound A A.faults Any l := .ask trivial fun _ _ => trivial
  induction left using Nat.strongRecOn generalizing g input s l with | ind left ih =>
  rw [Restart.rootLoop.eq_def]
  refine .bind_ask trivial fun inner _ => .bind_ask trivial fun _ _ => ?_
  refine .bind (.outcome (A.bound_enter (List.mem_cons_self ..) (A.roots_enters h)))
    fun l' x _ hx => ?_
  split
  · exact .bind (hrecord ..) fun _ _ _ _ => .pure (A.value _ h hx)
  · cases left with
    | zero => exact .bind (hrecord ..) fun _ _ _ _ => .throw (A.leaves _ rfl)
    | succ left =>
      refine .bind (hrecord ..) fun _ _ _ _ => .bind (A.bound_graph_of_name _) fun _ g' _ hg => ?_
      exact ih left left.lt_succ_self (A.roots_of_restart h hx hg)
  · next f hf =>
    exact .bind (hrecord ..) fun _ _ _ _ =>
      .throw (A.faults_of_other hx fun _ _ _ heq => hf _ _ _ (by rw [heq]))

/-- A program whose root is entered as it may. -/
theorem bound_programRun {input : Json} {env : Members}
    (hroots : ∀ g s, p.graph p.root = .ok g → g.initialScope p.options input env = .ok s →
      A.roots g input s) :
    (Host.programRun p input env).run.Abides A.law A.Promises (fun _ x => A.results x) l := by
  have hrun : (Host.programRun p input env).Bound A A.faults (fun o => A.results (.ok o)) l := by
    refine .bind (A.bound_graph_of_name _) fun _ g _ hg => ?_
    refine .bind (.ofExcept (P := fun s => g.initialScope p.options input env = .ok s) ?_)
      fun _ s _ hs => A.bound_rootLoop _ (hroots g s hg hs)
    have hresult := Graph.result_initialScope (E := A.faults)
      (fun f hf => A.leaves f (Fault.asksRestart_of_ordinary hf)) p.options g input env
    cases hs : g.initialScope p.options input env with
    | ok s => rfl
    | error f => exact (hs ▸ hresult : Result A.faults _ (.error f))
  refine Dialogue.Abides.mono hrun fun _ x hx => ?_
  cases x with
  | ok o => exact hx
  | error f => exact A.failure hx

end Pact

end TaskGraph
