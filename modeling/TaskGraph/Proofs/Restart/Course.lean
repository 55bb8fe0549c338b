import TaskGraph.Proofs.Congruence
import TaskGraph.Proofs.Restart.Replay

/-!
# On course

A run of a graph that is on its course starts without a marker, or with one that names a child of the
graph, and asks for no restart but of its own graph at a later child. `Terms` collects what this rests
on: how the graphs of a program were compiled, in what faults handlers and signals may end, and which
graphs may be started. `Request.Fair` is what a run asks for on such terms, and `Request.Kept` what
it is answered with.

A graph is given by name, and a task is answered by what another graph comes to. So the two sides
carry each other: as long as answers are kept, tasks, chains of runs and graphs are fair
(`Terms.fair_turn`, `Terms.fair_runGraph`, `Terms.fair_graph`), and what a fair run comes to is an
answer that is kept.
-/

set_option autoImplicit false

namespace TaskGraph

open Running (Any Result)

/-! ## Markers -/

/-- Whether a marker names exactly one child of a graph, and not the first one. -/
def Graph.Marks (g : Graph) (marker : Option String) : Prop :=
  ∃ before child rest, g.children = before ++ child :: rest ∧ before ≠ [] ∧
    marker = some child.id ∧ ∀ other ∈ before ++ rest, other.id ≠ child.id

/-- Whether a run of a graph may start in a scope. -/
def Scope.OnCourse (g : Graph) (s : Scope) : Prop := s.marker = none ∨ g.Marks s.marker

/-- Whether a fault asks for a restart of a graph at one of its children. -/
def Fault.LeavesAt (g : Graph) : Fault → Prop
  | .continueAsNew entry _ s => entry = g.name ∧ g.Marks s.marker
  | _ => False

/-- With distinct identifiers, that of a child behind the first one marks the graph. -/
theorem Graph.marks_of_split {g : Graph} (nodup : (g.children.map Child.id).Nodup)
    {before rest : Children} {child : Child Step} (hsplit : g.children = before ++ child :: rest)
    (hbefore : before ≠ []) : g.Marks (some child.id) :=
  ⟨before, child, rest, hsplit, hbefore, rfl, Children.apart_of_split nodup hsplit⟩

/-! ## Terms -/

/-- What is known of a graph: its children have distinct identifiers, only quiet steps are replayed,
and all that it starts may be started. -/
structure Graph.Orderly (starts : String → Prop) (runs : WorkflowProcess → Prop) (g : Graph) :
    Prop where
  nodup : (g.children.map Child.id).Nodup
  replayable : g.children.Replayable
  lists : ∀ child ∈ g.children, child.action.Lists Children.Replayable
  names : ∀ child ∈ g.children, ∀ inner : Step, inner.Inside child.action →
    ∀ name, inner.Names name → starts name
  processes : ∀ child ∈ g.children, ∀ inner : Step, inner.Inside child.action →
    ∀ process, inner.Runs process → runs process

/-- The terms on which a program is run. -/
structure Terms (p : Program) where
  /-- The faults that handlers, signals and graphs may end in. -/
  faults : Fault → Prop
  /-- The names of the graphs that may be started. -/
  starts : String → Prop
  /-- The processes that may run. -/
  runs : WorkflowProcess → Prop
  ordinary : ∀ f, f.ordinary = true → faults f
  leaves : ∀ f, faults f → f.asksRestart = false
  found : ∀ name, starts name → (∃ g, p.graph name = .ok g) ∨ faults (.graphNotFound name)
  named : ∀ (process q : WorkflowProcess) v, runs process →
    Evaluation.Reads process.toJson v → WorkflowProcess.decode v = .ok q → starts q.name
  graphs : ∀ g, p.graph g.name = .ok g → g.Orderly starts runs

/-! ## Requests -/

section

variable {p : Program} (T : Terms p)

/-- Whether what observers are told is as it should be. -/
def Notice.Fair : Notice → Prop
  | .enter name _ s | .detach name _ s => T.starts name ∧ s.marker = none
  | .leave _ x => Result T.faults Any x
  | _ => True

/-- Whether a request is one of a run that is on its course. -/
def Request.Fair : Request → Prop
  | .enter _ g _ s => p.graph g.name = .ok g ∧ s.OnCourse g
  | .fork _ graphs _ s => (∀ name ∈ graphs, T.starts name) ∧ s.marker = none
  | .detach _ name _ s => T.starts name ∧ s.marker = none
  | .record _ event => event.isRunEvent = false
  | .tell notice => notice.Fair T
  | _ => True

/-- Whether an answer is as a run may expect. -/
def Request.Kept : (q : Request) → q.Answer → Prop
  | .evaluate .., x => Fault.Ordinary x
  | .traverse v s locals, x =>
    ∃ ev : Evaluator, x = (ev.run (Evaluation.traverse v s locals)).1
  | .check .., x => Fault.Ordinary x
  | .enter _ g _ _, x =>
    Result (fun f => T.faults f ∨ f.LeavesAt g) (fun s : Scope => s.marker = none) x
  | .dispatch .., x => Result T.faults Any x
  | .listen .., x => Result T.faults Any x
  | .offer _, x => ∀ v, x = some v → Result T.faults Any v
  | .reply, x => Result T.faults Any x.2
  | _, _ => True

/-- Whether a computation makes only requests of a run that is on its course, and ends in a value
with a property or in a fault as described. -/
abbrev Running.Fair {α : Type} (E : Fault → Prop) (P : α → Prop) (r : Running α) : Prop :=
  r.Heeds (Request.Fair T) (Request.Kept T) E P

end

namespace Terms

variable {p : Program} (T : Terms p) {c : Context} {α : Type}

theorem result_of_ordinary {x : Except Fault α} (h : Fault.Ordinary x) : Result T.faults Any x := by
  cases x with
  | ok a => trivial
  | error f => exact T.ordinary f (h f rfl).1

theorem reads_of_kept {v : Json} {s : Scope} {locals : Locals} {x : Except Fault Json}
    (h : Request.Kept T (.traverse v s locals) x) : Result T.faults (Evaluation.Reads v) x := by
  obtain ⟨ev, rfl⟩ := h
  have hordinary := Evaluation.ordinary_traverse v s locals ev
  cases hx : (ev.run (Evaluation.traverse v s locals)).1 with
  | ok v' => exact ⟨ev, s, locals, hx⟩
  | error f => exact T.ordinary f (hordinary f hx).1

/-! ## Graphs by name -/

theorem fair_graph_of_name {name : String} (h : T.starts name) :
    (Running.ofExcept (p.graph name)).Fair T T.faults fun g => p.graph name = .ok g := by
  cases hg : p.graph name with
  | ok g => exact .pure rfl
  | error f =>
    refine .throw ?_
    rcases T.found name h with ⟨g, hfound⟩ | hmissing
    · rw [hfound] at hg
      cases hg
    · unfold Program.graph at hg
      split at hg <;> cases hg
      exact hmissing

/-- The runs of a graph, one after the other. Each restart is one of the same graph, which is on its
course again. -/
theorem fair_loop (name : String) (left : Nat) {g : Graph} (hg : p.graph g.name = .ok g)
    (input : Json) {s : Scope} (hs : s.OnCourse g) :
    (Restart.loop p c name left g input s).Fair T T.faults Any := by
  induction left using Nat.strongRecOn generalizing input s with | ind left ih =>
  rw [Restart.loop.eq_def]
  refine .bind (.ask (R := Any) trivial fun _ _ => trivial) fun inner _ => ?_
  have henter : (Running.enter inner g input s).Fair T (fun f => T.faults f ∨ f.LeavesAt g)
      fun s : Scope => s.marker = none := ⟨⟨hg, hs⟩, fun _ hx => hx⟩
  refine .bind (.outcome henter) fun x hx => ?_
  split
  · exact .pure trivial
  · next entry input' s' =>
    cases left with
    | zero => exact .throw (T.ordinary _ rfl)
    | succ left =>
      rcases hx with hfault | ⟨rfl, hmarks⟩
      · exact absurd (T.leaves _ hfault) (by simp [Fault.asksRestart])
      · have hsame : (Running.ofExcept (p.graph g.name)).Fair T T.faults (· = g) :=
          .ofExcept (by rw [hg]; rfl)
        exact .bind hsame fun g' hg' => hg' ▸ ih left left.lt_succ_self input' (.inr hmarks)
  · next f hf =>
    refine .throw (hx.resolve_right fun hleaves => ?_)
    cases f with
    | continueAsNew => exact hf _ _ _ rfl
    | _ => exact hleaves

theorem fair_graphOutput {name : String} (h : T.starts name) (input : Json) {s : Scope}
    (hs : s.marker = none) :
    (Restart.graphOutput p c name input s).Fair T T.faults Any := by
  refine .bind (T.fair_graph_of_name h) fun g hg => ?_
  refine .bind (.ask (R := Any) rfl fun _ _ => trivial) fun _ _ => ?_
  refine .bind (T.fair_loop name _ (Program.graph_of_graph hg) input (.inl hs)) fun _ _ => ?_
  exact .bind (.ask (R := Any) rfl fun _ _ => trivial) fun _ _ => .pure trivial

theorem fair_runGraph {name : String} (h : T.starts name) (input : Json) {s : Scope}
    (hs : s.marker = none) : (Restart.runGraph p c name input s).Fair T T.faults Any := by
  refine .bind (.ask (R := Any) ⟨h, hs⟩ fun _ _ => trivial) fun _ _ => ?_
  refine .bind (.outcome (T.fair_graphOutput h input hs)) fun x hx => ?_
  exact .bind (.ask (R := Any) hx fun _ _ => trivial) fun _ _ => .ofExcept hx

theorem fair_startGraph {name : String} (h : T.starts name) (input : Json) {s : Scope}
    (hs : s.marker = none) : (Restart.startGraph p c name input s).Fair T T.faults Any := by
  refine .bind (.ask (R := Any) ⟨h, hs⟩ fun _ _ => trivial) fun _ _ => ?_
  refine .bind (T.fair_graph_of_name h) fun _ _ => ?_
  refine .bind (.ask (R := Any) rfl fun _ _ => trivial) fun _ _ => ?_
  exact .ask ⟨h, hs⟩ fun _ _ => trivial

/-! ## Tasks -/

/-- What a task is made of is fair. -/
def congruence : Congruence p where
  Related P r _ := r.Fair T T.faults P
  Faults := T.faults
  Reads := Evaluation.Reads
  Starts := T.starts
  Runs := T.runs
  Forks := True
  fault f hf _ := T.ordinary f hf
  ofValue h := .pure h
  ofFault h := .throw h
  bind h hk := .bind h hk
  mono h imp := .mono h imp
  outcome h := .outcome h
  evaluate _ _ _ := ⟨trivial, fun _ hx => T.result_of_ordinary hx⟩
  traverse _ _ _ := ⟨trivial, fun _ hx => T.reads_of_kept hx⟩
  check _ _ _ := ⟨trivial, fun _ hx => T.result_of_ordinary hx⟩
  cancelled _ _ := .ask trivial fun _ _ => trivial
  record _ _ _ h := .ask h fun _ _ => trivial
  tell notice h := by
    refine .ask ?_ fun _ _ => trivial
    cases notice with
    | enter | leave | detach => cases h
    | _ => trivial
  publish _ := .ask trivial fun _ _ => trivial
  respond _ _ := .ask trivial fun _ _ => trivial
  offer _ := .ask trivial fun _ hx => hx
  dispatch _ _ _ _ := ⟨trivial, fun _ hx => hx⟩
  beat _ _ _ := .ask trivial fun _ _ => trivial
  still _ := .ask trivial fun _ _ => trivial
  pause _ _ _ := .ask trivial fun _ _ => trivial
  listen _ _ _ _ := ⟨trivial, fun _ hx => hx⟩
  named process q v hruns hv hq := T.named process q v hruns hv hq
  graph _ _ _ input _ h hs := T.fair_runGraph h input hs
  detach _ _ _ _ input _ h hs := T.fair_startGraph h input hs
  fork _ _ _ _ _ _ hgraphs hs := .ask ⟨hgraphs, hs⟩ fun _ _ => trivial
  reply _ := .ask trivial fun _ hx => hx
  stop _ _ := .ask trivial fun _ _ => trivial

end Terms

/-! ## Graphs -/

namespace Terms

variable {e : Setting} (T : Terms e.program) {c : Context} {g : Graph}

theorem permits (hg : e.program.graph g.name = .ok g) {child : Child Step}
    (hchild : child ∈ g.children) : T.congruence.Permits child.action where
  names := (T.graphs g hg).names child hchild
  runs := (T.graphs g hg).processes child hchild
  forks _ _ _ := trivial

/-- What a list does with a child that it goes through. -/
theorem fair_turn (hg : e.program.graph g.name = .ok g) {child : Child Step}
    (hchild : child ∈ g.children) (input : Json) (s : Scope) :
    (Sequence.turn e c .run (Sequence.embody e c input child) s).Fair T T.faults
      (Congruence.Turns s child.base.next) :=
  have h : T.congruence.Related (Congruence.Turns s child.base.next)
      (Sequence.turn e c .run (Sequence.embody e c input child) s)
      (Sequence.turn e c .run (Sequence.embody e c input child) s) :=
    T.congruence.related_turn .run child.id child.name child.base child.replayed
      (T.congruence.related_step child.name child.base input child.action (T.permits hg hchild) s)
  h

/-- A run without a marker, from a child on. -/
theorem fair_going (hg : e.program.graph g.name = .ok g) (input : Json) (rest before : Children)
    (hsplit : g.children = before ++ rest) (first : Bool) (hfirst : first = false → before ≠ [])
    (pending : Option String) {s : Scope} (hs : s.marker = none) :
    (Sequence.run e c (some g.name) input first pending rest s).Fair T
      (fun f => T.faults f ∨ f.LeavesAt g) fun s' : Scope => s'.marker = none := by
  induction rest generalizing before first pending s with
  | nil =>
    rw [Sequence.run_nil]
    cases pending with
    | none => exact .pure hs
    | some target => exact .throw (.inl (T.ordinary _ rfl))
  | cons child rest ih =>
    have hchild : child ∈ g.children := by simp [hsplit]
    have hrest (pending : Option String) (s' : Scope) (hs' : s'.marker = none) :=
      ih (before ++ [child]) (by simp [hsplit]) false (fun _ => by simp) pending hs'
    -- once the run is not left before the child, the child is passed over or gone through
    have hgoing : (if Sequence.Passes .run pending child.name then
          Sequence.run e c (some g.name) input false pending rest s
        else Sequence.visit e c .run (Sequence.embody e c input child) s fun pending s =>
          Sequence.run e c (some g.name) input false pending rest s).Fair T
        (fun f => T.faults f ∨ f.LeavesAt g) fun s' : Scope => s'.marker = none := by
      split
      · exact hrest pending s hs
      · rw [Sequence.visit_eq_turn]
        refine .bind ((T.fair_turn hg hchild input s).mono_fault fun _ hf => .inl hf) fun t ht => ?_
        cases t with
        | stop s' => exact .pure (ht.trans hs)
        | next pending' s' => exact hrest pending' s' (ht.2.trans hs)
    rw [Sequence.run_cons]
    simp only [Sequence.resumption_going _ _ _ hs, Option.isSome_some]
    cases first with
    | true =>
      rw [Sequence.leaves_first]
      simpa only [pure_bind, Bool.false_eq_true, if_false] using hgoing
    | false =>
      rw [Sequence.leaves_going _ _ _ hs]
      refine .bind (.ask (R := Any) trivial fun _ _ => trivial) fun due _ => ?_
      cases due with
      | false => exact hgoing
      | true =>
        have hmarks : g.Marks (some child.id) :=
          Graph.marks_of_split (T.graphs g hg).nodup hsplit (hfirst rfl)
        refine ⟨trivial, fun x _ => ?_⟩
        cases x with
        | ok _ => exact .inr ⟨rfl, hmarks⟩
        | error f => exact .inl (T.ordinary _ rfl)

/-- What a replay asks for is fair. -/
theorem fair_of_traceless {queries : Query → Prop} {s : Scope} {q : Request}
    (h : q.Traceless queries c s) : q.Fair T := by
  cases q with
  | record c' event =>
    cases event with
    | queryRegistered => rfl
    | _ => exact h.elim
  | tell notice =>
    cases notice with
    | query => trivial
    | _ => exact h.elim
  | check | traverse | cancelled | respond => trivial
  | _ => exact h.elim

/-- No evaluation in a replay fails but in an ordinary way. -/
theorem within_of_kept {queries : Query → Prop} {s : Scope} {q : Request}
    (h : q.Traceless queries c s) {x : q.Answer} (hx : q.Kept T x) :
    q.Within (fun f => f.ordinary = true ∧ f.isCancelled = false) x := by
  have hresult {β : Type} {x : Except Fault β} (hx : Fault.Ordinary x) :
      Result (fun f => f.ordinary = true ∧ f.isCancelled = false) Any x := by
    cases x with
    | ok b => trivial
    | error f => exact hx f rfl
  cases q with
  | check => exact hresult hx
  | traverse v s' locals =>
    obtain ⟨ev, rfl⟩ := hx
    exact hresult (Evaluation.ordinary_traverse v s' locals ev)
  | tell | record | cancelled | respond => trivial
  | _ => exact h.elim

/-- A graph that is entered on its course is fair, and its run ends without a marker, or in a request
for a restart at one of its children. -/
theorem fair_graph (hg : e.program.graph g.name = .ok g) (input : Json) {s : Scope}
    (hs : s.OnCourse g) :
    (Sequence.runGraph e c g input s).Fair T (fun f => T.faults f ∨ f.LeavesAt g)
      fun s' : Scope => s'.marker = none := by
  have horderly := T.graphs g hg
  rcases hs with hs | ⟨before, child, rest, hsplit, hbefore, hmarker, hother⟩
  · exact T.fair_going hg input g.children [] rfl true nofun none hs
  · have hmem : ∀ k ∈ before, k ∈ g.children := fun k hk => by simp [hsplit, hk]
    -- the children before the marker's are gone through without a trace
    have huntil := Sequence.until_rest e c
      (fun f => f.ordinary = true ∧ f.isCancelled = false) hmarker g.name input true before
      (child :: rest) (fun k hk => hother k (List.mem_append_left _ hk))
      (fun k hk => horderly.replayable k (hmem k hk))
      (fun k hk => horderly.lists k (hmem k hk)) fun _ _ _ _ => trivial
    have hrest := T.fair_going (c := c) hg input (child :: rest) before hsplit true nofun none
      (s := { s with marker := none }) rfl
    rw [← Sequence.run_at_marker g.name input true child rest hmarker] at hrest
    unfold Sequence.runGraph
    rw [hsplit]
    refine huntil.heeds hrest (fun _ hq => T.fair_of_traceless hq)
      (fun _ _ hq hx => T.within_of_kept hq hx) fun x hx => ?_
    cases x with
    | error f => exact .inl (T.ordinary f hx.1)
    | ok s' =>
      -- only a cancelled evaluation could end the run here
      obtain ⟨-, f, ⟨-, hf⟩, hcancelled⟩ := hx
      exact absurd hcancelled (by simp [hf])

end Terms

end TaskGraph
