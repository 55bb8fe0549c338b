import TaskGraph.Proofs.Program.Compiled
import TaskGraph.Proofs.Sequence.Walk
import TaskGraph.Proofs.World

/-!
# Replays leave no trace

A run that is on its way to a marker replays some of the children before it: nested lists, for the
listeners to queries that stand in them. While the marker is set, a nested list passes over all of
its children but these, at every depth. So it evaluates guards and sets the responses to queries, in
the scope that it was given, and does nothing else; and it leaves that scope as it was
(`Sequence.traceless_nested`). A list that owns the marker does the same with the children before
the one that the marker names (`Sequence.until_rest`).

Whatever evaluations fail with, a replay fails only with it. With the evaluations the only part that
can fail, this says as well that a replay in which none fails comes to its end.
-/

set_option autoImplicit false

namespace TaskGraph

open Running (Any Result)

/-- Whether a request, made in a context and in a scope, is one of a replay: the evaluation of a
guard in that scope, the response to one of the given queries with its entry in the history, or a
look at whether the context is cancelled. -/
def Request.Traceless (queries : Query → Prop) (c : Context) (s : Scope) : Request → Prop
  | .check _ s' _ => s' = s
  | .cancelled c' => c' = c
  | .traverse response s' _ => s' = s ∧ ∃ q, queries q ∧ q.response = some response
  | .tell (.query id _) | .respond id _ => ∃ q, queries q ∧ q.id = id
  | .record c' (.queryRegistered id) => c' = c ∧ ∃ q, queries q ∧ q.id = id
  | _ => False

/-- Whether a computation makes only requests of a replay, and fails only as evaluations may. -/
abbrev Running.Traceless {α : Type} (queries : Query → Prop) (c : Context) (s : Scope)
    (E : Fault → Prop) (P : α → Prop) (r : Running α) : Prop :=
  r.Heeds (Request.Traceless queries c s) (Request.Within E) E P

/-- Whether only quiet steps are replayed in a list. -/
def Children.Replayable (children : Children) : Prop :=
  ∀ child ∈ children, child.replayed = true → child.action.Quiet

/-! ## Queries -/

namespace Listening

variable {queries : Query → Prop} (c : Context) (s : Scope) (E : Fault → Prop)

theorem traceless_register {q : Query} (hq : queries q) :
    (register c s q).Traceless queries c s E Any := by
  have hid : ∃ q', queries q' ∧ q'.id = q.id := ⟨q, hq, rfl⟩
  have hanswered (v : Json) : Running.Traceless queries c s E Any (do
      Running.tell (.query q.id v)
      Running.ask (.respond q.id v)
      Running.record c (.queryRegistered q.id)) := by
    refine .bind (.ask (R := Any) hid fun _ _ => trivial) fun _ _ => ?_
    refine .bind (.ask (R := Any) hid fun _ _ => trivial) fun _ _ => ?_
    exact .ask ⟨rfl, hid⟩ fun _ _ => trivial
  unfold register
  cases hresponse : q.response with
  | none => exact hanswered _
  | some v => exact .bind (P := Any) ⟨⟨rfl, q, hq, hresponse⟩, fun _ hx => hx⟩ fun v _ => hanswered v

theorem traceless_registerAll (qs : List Query) (hqs : ∀ q ∈ qs, queries q) :
    (registerAll c s qs).Traceless queries c s E Any := by
  induction qs with
  | nil => exact .pure trivial
  | cons q qs ih =>
    refine .bind (traceless_register c s E (hqs q (List.mem_cons_self ..))) fun _ _ => ?_
    exact ih fun q' hq' => hqs q' (List.mem_cons_of_mem _ hq')

end Listening

/-! ## Replayed children -/

namespace Sequence

variable {queries : Query → Prop} (e : Setting) (c : Context) {s : Scope} (E : Fault → Prop)

/-- Whether a replayed child leaves its scope as it was, and the list goes on to the next child or,
if an evaluation was answered with a cancellation, stops. -/
def Stays (E : Fault → Prop) (s : Scope) : Turn → Prop
  | .next pending s' => pending = none ∧ s' = s
  | .stop s' => s' = s ∧ ∃ f, E f ∧ f.isCancelled = true

theorem traceless_absorb {x : Except Fault (Option Json × Scope)}
    (h : Result E (fun y => y.2 = s) x) :
    (absorb c s x).Traceless queries c s E fun
      | some y => y.2 = s
      | none => ∃ f, E f ∧ f.isCancelled = true := by
  cases x with
  | ok y => exact .pure h
  | error f =>
    cases hf : f.isCancelled with
    | false =>
      simp only [absorb, hf]
      exact .throw h
    | true =>
      simp only [absorb, hf]
      refine .bind (P := Any) (.ask rfl fun _ _ => trivial) fun cancelled _ => ?_
      cases cancelled with
      | true => exact .pure ⟨f, h, hf⟩
      | false => exact .pure rfl

theorem traceless_rerun {body : Doing} (h : (body s).Traceless queries c s E fun y => y.2 = s) :
    (rerun c body s).Traceless queries c s E (Stays E s) := by
  refine .bind (.outcome h) fun x hx => .bind (traceless_absorb c E hx) fun y hy => ?_
  cases y with
  | none => exact .pure ⟨rfl, hy⟩
  | some y => exact .pure ⟨rfl, hy⟩

theorem traceless_turn (child : Child Doing)
    (h : (child.action s).Traceless queries c s E fun y => y.2 = s) :
    (turn e c .replay child s).Traceless queries c s E (Stays E s) := by
  refine .bind (P := Any) ⟨rfl, fun _ hx => hx⟩ fun holds _ => ?_
  cases holds with
  | false => exact .pure ⟨rfl, rfl⟩
  | true => exact traceless_rerun c E h

/-! ## Nested lists -/

/-- A judgement about computations under which the replays in a scope can be followed: it passes from
values and steps to what is composed of them, it holds of the registration of the given queries, and a
replayed child whose body keeps the scope comes to a turn that keeps it. -/
structure Replays (queries : Query → Prop) (e : Setting) (c : Context) (s : Scope)
    (keeps : Turn → Prop) (judges : {α : Type} → (α → Prop) → Running α → Prop) : Prop where
  value : ∀ {α : Type} {P : α → Prop} {a : α}, P a → judges P (pure a)
  andThen : ∀ {α β : Type} {P : α → Prop} {Q : β → Prop} {r : Running α} {k : α → Running β},
    judges P r → (∀ a, P a → judges Q (k a)) → judges Q (r >>= k)
  register : ∀ qs : List Query, (∀ q ∈ qs, queries q) →
    judges (fun _ => True) (Listening.registerAll c s qs)
  turn : ∀ child : Child Doing, judges (fun y => y.2 = s) (child.action s) →
    judges keeps (turn e c .replay child s)
  next : ∀ {pending : Option String} {s' : Scope}, keeps (.next pending s') → pending = none ∧ s' = s
  stop : ∀ {s' : Scope}, keeps (.stop s') → s' = s

namespace Replays

variable {e c} {keeps : Turn → Prop} {judges : {α : Type} → (α → Prop) → Running α → Prop}
  {marker : String}

mutual

/-- A nested list on the way to a marker. -/
theorem nested (h : Replays queries e c s keeps judges) (hs : s.marker = some marker) (input : Json)
    (first : Bool) :
    (children : Children) → children.Replayable →
      (∀ child ∈ children, child.action.Lists Children.Replayable) →
      (∀ child ∈ children, ∀ q, child.action.Queries q → queries q) →
      judges (· = s) (run e c none input first none children s)
  | [], _, _, _ => by
    rw [run_nil]
    exact h.value rfl
  | ⟨id, name, base, replayed, action⟩ :: rest, hreplayable, hlists, hqueries => by
    have hrest := h.nested hs input false rest
      (fun child hchild => hreplayable child (List.mem_cons_of_mem _ hchild))
      (fun child hchild => hlists child (List.mem_cons_of_mem _ hchild))
      (fun child hchild => hqueries child (List.mem_cons_of_mem _ hchild))
    rw [run_cons]
    simp only [leaves_nested, pure_bind, Bool.false_eq_true, if_false, Option.isSome_none,
      resumption_other replayed hs (.inl rfl)]
    -- with a marker set, a child is passed over or replayed, and never executed
    cases hreplayed : replayed with
    | false =>
      rw [if_pos (by simp [Passes])]
      exact hrest
    | true =>
      rw [if_neg (by simp [Passes]), if_pos rfl, visit_eq_turn]
      have hquiet := hreplayable _ (List.mem_cons_self ..) hreplayed
      have hturn := h.turn (embody e c input ⟨id, name, base, true, action⟩) (h.step hs name base input
        action hquiet (hlists _ (List.mem_cons_self ..)) (hqueries _ (List.mem_cons_self ..)))
      refine h.andThen hturn fun t ht => ?_
      cases t with
      | stop s' => exact h.value (h.stop ht)
      | next pending s' =>
        obtain ⟨rfl, rfl⟩ := h.next ht
        exact hrest

/-- A quiet step on the way to a marker. -/
theorem step (h : Replays queries e c s keeps judges) (hs : s.marker = some marker) (name : String)
    (base : TaskBase) (input : Json) :
    (step : Step) → step.Quiet → step.Lists Children.Replayable →
      (∀ q, step.Queries q → queries q) →
      judges (fun y => y.2 = s) (Sequence.step e c name base input step s)
  | .block children, _, hlists, hqueries => by
    rw [Sequence.step.eq_def]
    refine h.andThen (h.nested hs input true children (hlists children (.self _))
      (fun _ hchild => hlists.child hchild) fun child hchild q hq => hqueries q ?_)
      fun _ hs' => h.value hs'
    exact hq.block hchild
  | .listen mode waits qs, hquiet, _, hqueries => by
    -- only a listener that waits for nothing is replayed: it registers its queries again
    obtain rfl : waits = [] := hquiet
    rw [Sequence.step.eq_def]
    have hregister := h.register qs fun q hq => hqueries q ⟨mode, qs, .self _, hq⟩
    exact h.andThen (P := Any) (h.andThen hregister fun _ _ => h.value trivial) fun _ _ => h.value rfl
  | .loop .., hquiet, _, _ | .fork .., hquiet, _, _ | .switch _, hquiet, _, _
  | .attempt .., hquiet, _, _ | .call .., hquiet, _, _ | .run .., hquiet, _, _
  | .wait _, hquiet, _, _ | .raise _, hquiet, _, _ | .assign _, hquiet, _, _
  | .custom _, hquiet, _, _ => hquiet.elim

end

end Replays

theorem replays_traceless : Replays queries e c s (Stays E s) (Running.Traceless queries c s E) where
  value h := .pure h
  andThen h hk := .bind h hk
  register qs hqs := Listening.traceless_registerAll c s E qs hqs
  turn child h := traceless_turn e c E child h
  next h := h
  stop h := h.1

variable {marker : String}

/-- A nested list on the way to a marker leaves no trace. -/
theorem traceless_nested (hs : s.marker = some marker) (input : Json) (first : Bool)
    (children : Children) (hreplayable : children.Replayable)
    (hlists : ∀ child ∈ children, child.action.Lists Children.Replayable)
    (hqueries : ∀ child ∈ children, ∀ q, child.action.Queries q → queries q) :
    (run e c none input first none children s).Traceless queries c s E (· = s) :=
  (replays_traceless e c E).nested hs input first children hreplayable hlists hqueries

/-! ## Before the child of the marker -/

variable (hs : s.marker = some marker)
include hs

/-- On the way to a marker, a run may start from any child as from the first. -/
theorem run_resuming_first (entry : Option String) (input : Json) (first first' : Bool)
    (children : Children) :
    run e c entry input first none children s = run e c entry input first' none children s := by
  cases children with
  | nil => rw [run_nil, run_nil]
  | cons child rest => rw [run_cons, run_cons, leaves_resuming e c _ _ hs, leaves_resuming e c _ _ hs]

/-- How a run may end on its way to a marker: as evaluations may fail, or, if they may be answered
with a cancellation, in the scope that it started with. -/
def Strays (E : Fault → Prop) (s : Scope) : Except Fault Scope → Prop :=
  Result E fun s' => s' = s ∧ ∃ f, E f ∧ f.isCancelled = true

/-- A run on its way to a marker goes through the children before it without a trace. -/
theorem until_rest (entry : String) (input : Json) (first : Bool) (before rest : Children)
    (hids : ∀ child ∈ before, child.id ≠ marker) (hreplayable : before.Replayable)
    (hlists : ∀ child ∈ before, child.action.Lists Children.Replayable)
    (hqueries : ∀ child ∈ before, ∀ q, child.action.Queries q → queries q) :
    (run e c (some entry) input first none (before ++ rest) s).run.Until
      (Request.Traceless queries c s) (Request.Within E) (Strays E s)
      (run e c (some entry) input true none rest s).run := by
  -- on the children before the marker's, each of which leaves the scope as it is
  induction before generalizing first with
  | nil =>
    rw [List.nil_append, run_resuming_first e c hs (some entry) input first true]
    exact Dialogue.until_self _
  | cons child before ih =>
    have hrest := ih false (fun k hk => hids k (List.mem_cons_of_mem _ hk))
      (fun k hk => hreplayable k (List.mem_cons_of_mem _ hk))
      (fun k hk => hlists k (List.mem_cons_of_mem _ hk))
      (fun k hk => hqueries k (List.mem_cons_of_mem _ hk))
    rw [List.cons_append, run_cons, leaves_resuming e c _ _ hs]
    simp only [pure_bind, Bool.false_eq_true, if_false, Option.isSome_some,
      resumption_other child.replayed hs (.inr (hids child (List.mem_cons_self ..)))]
    cases hreplayed : child.replayed with
    | false =>
      rw [if_pos (by simp [Passes])]
      exact hrest
    | true =>
      rw [if_neg (by simp [Passes]), if_pos rfl, visit_eq_turn, Running.run_bind]
      have hturn := traceless_turn e c E (embody e c input child) ((replays_traceless e c E).step hs
        child.name child.base input child.action (hreplayable child (List.mem_cons_self ..) hreplayed)
        (hlists child (List.mem_cons_self ..)) (hqueries child (List.mem_cons_self ..)))
      refine Dialogue.Heeds.until hturn fun t ht => ?_
      cases t with
      | error f => exact Or.inr ht
      | ok t =>
        cases t with
        | stop s' => exact Or.inr ht
        | next pending s' =>
          obtain ⟨rfl, rfl⟩ := ht
          exact hrest

end Sequence

namespace Restart

/-! ## Compiled programs -/

/-- While a marker is set, a nested list of a compiled program evaluates guards, registers its
queries and does nothing else, and it leaves the scope as it was, whatever the evaluations are
answered with. A graph does the same with its children before the one that the marker names. -/
theorem replay_leaves_no_trace {kinds : Kinds} (hkinds : kinds.BuiltIn) {options : ProgramOptions}
    {w : Workflow} {e : Setting} (h : Program.compile kinds options w = .ok e.program) {g : Graph}
    (hg : g ∈ e.program.graphs) (c : Context) (input : Json) {s : Scope} {marker : String}
    (hs : s.marker = some marker) (E : Fault → Prop) :
    (∀ child ∈ g.children, ∀ list, (Step.block list).Inside child.action →
      (Sequence.run e c none input true none list s).Traceless (Step.block list).Queries c s E
        (· = s)) ∧
    ∀ before rest, g.children = before ++ rest → (∀ child ∈ before, child.id ≠ marker) →
      (Sequence.run e c (some g.name) input true none g.children s).run.Until
        (Request.Traceless (Step.block before).Queries c s) (Request.Within E)
        (Sequence.Strays E s) (Sequence.run e c (some g.name) input true none rest s).run := by
  obtain ⟨hlist, hnested⟩ := Program.compiled_of_compile h g hg
  have hreplayable {list : Children} (h : list.Compiled kinds) : list.Replayable := h.quiet hkinds
  have hlists (child : Child Step) (hchild : child ∈ g.children) :
      child.action.Lists Children.Replayable :=
    fun inner hinner => hreplayable (hnested child hchild inner hinner)
  refine ⟨fun child hchild list hinside => ?_, fun before rest hsplit hids => ?_⟩
  · -- the lists inside a nested list are lists inside the child that it stands in
    have hinner : (Step.block list).Lists Children.Replayable :=
      fun inner hinner => hlists child hchild inner (hinner.trans hinside)
    exact Sequence.traceless_nested e c E hs input true list (hinner list (.self _))
      (fun _ hk => hinner.child hk) fun _ hk _ hq => hq.block hk
  · have hmem : ∀ child ∈ before, child ∈ g.children := by
      intro child hchild
      rw [hsplit]
      exact List.mem_append_left _ hchild
    rw [hsplit]
    exact Sequence.until_rest e c E hs g.name input true before rest hids
      (fun child hchild => hreplayable hlist child (hmem child hchild))
      (fun child hchild => hlists child (hmem child hchild)) fun _ hk _ hq => hq.block hk

/-- A document with a query and a call in a nested list, and a call after it. -/
def askedWorkflow : Workflow :=
  ⟨⟨"root", none, none, none⟩, none, none,
    [Pair.task "ask" none (.block
        [Pair.task "status" none (.listen ⟨some ⟨"status", .query, none⟩, [], []⟩),
          Pair.task "first" none (.call (.activity ⟨"x", []⟩))]),
      Pair.task "second" none (.call (.activity ⟨"y", []⟩))]⟩

/-- What its nested list is compiled to. -/
def askedList : Children :=
  [⟨"status-0", "status", ⟨none, none, none, none, none, []⟩, true,
      .listen .one [] [⟨"status", none⟩]⟩,
    ⟨"first-1", "first", ⟨none, none, none, none, none, []⟩, false,
      .call (.activity ⟨"x", []⟩) none⟩]

/-- The child that holds the nested list. -/
def askedChild : Child Step :=
  ⟨"ask-0", "ask", ⟨none, none, none, none, none, []⟩, true, .block askedList⟩

/-- The call after it. -/
def lastChild : Child Step :=
  ⟨"second-1", "second", ⟨none, none, none, none, none, []⟩, false,
    .call (.activity ⟨"y", []⟩) none⟩

/-- The program of the document, on standard terms. -/
def askedSetting : Setting :=
  ⟨⟨"root", [⟨"ask", askedList, none⟩, ⟨"root", [askedChild, lastChild], none⟩], .standard⟩,
    .ofSettings .standard, CallSettings.standard.timeout⟩

/-- The scope of a run that is restarted at the call after the nested list. -/
def askedScope : Scope := { Scope.start .null [] with marker := some lastChild.id }

/-- On the way to the call after a nested list, the list is gone through without a trace. -/
theorem asked_list_leaves_no_trace :
    Program.compile Kinds.standard .standard askedWorkflow = .ok askedSetting.program ∧
      (Sequence.run askedSetting ⟨0, []⟩ none .null true none askedList askedScope).Traceless
        (Step.block askedList).Queries ⟨0, []⟩ askedScope (fun _ => False) (· = askedScope) ∧
      (Sequence.run askedSetting ⟨0, []⟩ (some "root") .null true none [askedChild, lastChild]
        askedScope).run.Until
          (Request.Traceless (Step.block [askedChild]).Queries ⟨0, []⟩ askedScope)
          (Request.Within fun _ => False) (Sequence.Strays (fun _ => False) askedScope)
          (Sequence.run askedSetting ⟨0, []⟩ (some "root") .null true none [lastChild]
            askedScope).run := by
  have hcompiled : Program.compile Kinds.standard .standard askedWorkflow =
      .ok askedSetting.program := rfl
  obtain ⟨hnested, hbefore⟩ := replay_leaves_no_trace Kinds.builtIn_standard hcompiled
    (g := ⟨"root", [askedChild, lastChild], none⟩) (by simp [askedSetting]) ⟨0, []⟩ .null
    (s := askedScope) rfl fun _ => False
  refine ⟨hcompiled, hnested askedChild (by simp) askedList (.self _), ?_⟩
  refine hbefore [askedChild] [lastChild] rfl fun child hchild => ?_
  obtain rfl := List.mem_singleton.1 hchild
  decide

end Restart

end TaskGraph
