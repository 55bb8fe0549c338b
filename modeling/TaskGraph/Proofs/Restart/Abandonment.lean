import TaskGraph.Proofs.Restart.Quiescence

/-!
# Restarts that are abandoned

A run that is to be left for a new one waits for what it has detached. If this wait is cut short, the
run ends in a fault that says at which child it was to go on and why it could not. Nothing else ends in
such a fault, unless it is answered with one: `Sequence.abandons_runGraph`.

The wait is cut short exactly in a context that is cancelled: at once if that is so when the run begins
to wait, and else with the cancellation. What is in flight does not count (`Host.Forthright`). So a run
that is cancelled fails in this way even if all that it has detached has finished, or if it has detached
nothing at all: `Restart.fails_at_rest`.
-/

set_option autoImplicit false

namespace TaskGraph

open Running (Any Result)

variable {α : Type}

/-! ## How the fault comes about -/

/-- The promise that nothing is answered with another fault than these, not even the entering of a
graph. -/
def Request.Confined (E : Fault → Prop) : Dialogue.Promise
  | .enter .., x => Result E Any x
  | q, x => q.Within E x

/-- Whether an answer refuses that the run of a context comes to rest, with a fault. -/
def Request.Refuses (c : Context) (f : Fault) : (q : Request) → q.Answer → Prop
  | .settle c', .error g => c' = c ∧ g = f
  | _, _ => False

/-- What is remembered of the requests before is the fault with which the last one was refused so. -/
def Restart.refusal (c : Context) : Dialogue.Law (Fault → Prop) :=
  ⟨fun _ _ => True, fun _ q x f => q.Refuses c f x⟩

namespace Running

/-- The promise that nothing is answered with a fault that says that a run could not be left. -/
abbrev Fresh : Dialogue.Promise := Request.Confined fun f => f.abandons = false

/-- Whether a computation of a list that is answered with no fault of a run that could not be left ends
in such a fault only right after the wait for rest of its context was refused, and then names the graph
that it is the whole of, one of its children, and why. -/
def Abandons (c : Context) (entry : String) (children : Children) (r : Running α) : Prop :=
  ∀ refused, r.run.Abides (Restart.refusal c) Fresh
    (fun refused x => ∀ f, x = .error f → f.abandons = true →
      ∃ child ∈ children, ∃ why, refused why ∧ f = .handlersNotFinished entry child.id why.message)
    refused

namespace Abandons

variable {c : Context} {entry : String} {children children' : Children} {β : Type} {P : α → Prop}
  {r : Running α} {k : α → Running β}

/-- What comes behind a computation that does not end in such a fault. -/
theorem bind (h : r.Upholds Fresh (fun f => f.abandons = false) P)
    (hk : ∀ a, P a → Abandons c entry children (k a)) : Abandons c entry children (r >>= k) := by
  intro refused
  rw [run_bind]
  unfold Upholds at h
  -- along the answers, what was remembered before the last request does not matter
  generalize r.run = d at h
  induction d generalizing refused with
  | done x =>
    cases x with
    | ok a => exact hk a h refused
    | error g =>
      rintro f ⟨⟩ hf
      exact Bool.noConfusion (hf.symm.trans h)
  | ask q next ih => exact ⟨trivial, fun x hx => ih x _ (h x hx)⟩

theorem of_upholds (h : r.Upholds Fresh (fun f => f.abandons = false) P) :
    Abandons c entry children r := by
  have hbound : Abandons c entry children (r >>= fun a => pure a) := .bind h fun _ _ _ f hf => nomatch hf
  rwa [bind_pure] at hbound

theorem mono (h : Abandons c entry children r) (imp : ∀ child ∈ children, child ∈ children') :
    Abandons c entry children' r := fun refused =>
  (h refused).mono fun _ _ hx f heq hf => by
    obtain ⟨child, hchild, why⟩ := hx f heq hf
    exact ⟨child, imp child hchild, why⟩

end Abandons

end Running

/-- What holds of a computation by itself, if nothing is answered with the fault of a run that could not
be left: it ends in no such fault. -/
def Congruence.fresh (p : Program) : Congruence p where
  Related P r _ := Running.Upholds Running.Fresh (fun f => f.abandons = false) P r
  Faults f := f.abandons = false
  Reads _ _ := True
  Starts _ := True
  Runs _ := True
  Forks := True
  fault _ _ hf := hf
  ofValue h := .pure h
  ofFault h := .throw h
  bind h hk := .bind h hk
  mono h imp := .mono h imp
  outcome h := .outcome h
  evaluate _ _ _ := fun _ hx => hx
  traverse _ _ _ := fun _ hx => hx
  check _ _ _ := fun _ hx => hx
  cancelled _ _ := .ask fun _ _ => trivial
  record _ _ _ _ := .ask fun _ _ => trivial
  tell _ _ := .ask fun _ _ => trivial
  publish _ := .ask fun _ _ => trivial
  respond _ _ := .ask fun _ _ => trivial
  offer _ := .ask fun _ hx => hx
  dispatch _ _ _ _ := fun _ hx => hx
  beat _ _ _ := .ask fun _ _ => trivial
  still _ := .ask fun _ _ => trivial
  pause _ _ _ := .ask fun _ _ => trivial
  listen _ _ _ _ := fun _ hx => hx
  named _ _ _ _ _ _ := trivial
  graph _ _ name input s _ _ :=
    have heeds : Running.Heeds Any Running.Fresh (fun f => f.abandons = false) Any
        (Restart.runGraph p _ name input s) :=
      Congruence.heeds_graph (fun _ _ hf => hf) (F := fun f => f.abandons = false) (fun _ hf _ => hf)
        (fun _ _ _ _ _ hx => hx) (fun _ _ => trivial) trivial fun _ => trivial
    heeds.ensures
  detach _ _ _ name input s _ _ := Congruence.upholds_startGraph (fun _ _ hf => hf) name input s
  fork _ _ _ _ _ _ _ _ := .ask fun _ _ => trivial
  reply _ := .ask fun _ hx => hx
  stop _ _ := .ask fun _ _ => trivial

namespace Sequence

variable {e : Setting} {c : Context}

theorem abandons_suspend {entry : String} {child : Child Step} {children : Children}
    (hchild : child ∈ children) (input : Json) (s : Scope) :
    (Restart.suspend c entry child.id input s : Running Scope).Abandons c entry children := by
  refine fun refused => ⟨trivial, fun x _ => ?_⟩
  cases x with
  | ok u =>
    rintro f ⟨⟩ hf
    cases hf
  | error why =>
    rintro f ⟨⟩ -
    exact ⟨child, hchild, why, ⟨rfl, rfl⟩, rfl⟩

/-- The rest of a list is left in vain only if its wait for rest was refused. -/
theorem abandons_run (entry : String) (input : Json) (children : Children) (first : Bool)
    (pending : Option String) (s : Scope) :
    (run e c (some entry) input first pending children s).Abandons c entry children := by
  induction children generalizing first pending s with
  | nil =>
    rw [run_nil]
    cases pending with
    | none => exact .of_upholds (P := Any) (.pure trivial)
    | some target => exact .of_upholds (P := Any) (.throw rfl)
  | cons child rest ih =>
    -- what is left in vain behind this child is left in vain in the whole list
    have ih (first : Bool) (pending : Option String) (s : Scope) :=
      (ih first pending s).mono fun child' => List.mem_cons_of_mem child
    rw [run_cons]
    refine .bind (P := Any) ?_ fun leaves _ => ?_
    · unfold Sequence.leaves
      split
      · exact .ask fun _ _ => trivial
      · exact .pure trivial
    · cases leaves with
      | true => exact abandons_suspend (List.mem_cons_self ..) input s
      | false =>
        simp only [Bool.false_eq_true, if_false]
        rcases Restart.resumption child.id child.replayed (some entry).isSome s with ⟨r, s⟩
        dsimp only
        split
        · exact ih false pending s
        · have hstep : (Congruence.fresh e.program).Related (Congruence.Keeps s)
              (step e c child.name child.base input child.action s)
              (step e c child.name child.base input child.action s) :=
            Congruence.related_step _ child.name child.base input child.action
              ⟨fun _ _ _ _ => trivial, fun _ _ _ _ => trivial, fun _ _ _ => trivial⟩ s
          have hturn : (Congruence.fresh e.program).Related (Congruence.Turns s child.base.next)
              (turn e c r (embody e c input child) s) (turn e c r (embody e c input child) s) :=
            Congruence.related_turn _ r child.id child.name child.base child.replayed hstep
          rw [visit_eq_turn]
          refine .bind hturn fun t _ => ?_
          cases t with
          | stop s' => exact .of_upholds (P := Any) (.pure trivial)
          | next pending s' => exact ih false pending s'

/-- A run of a graph ends in the fault of a run that could not be left only right after its wait for
rest was refused, unless it is answered with such a fault. -/
theorem abandons_runGraph (g : Graph) (input : Json) (s : Scope) :
    (runGraph e c g input s).Abandons c g.name g.children :=
  abandons_run g.name input g.children true none s

end Sequence

/-! ## When the wait is cut short -/

namespace Host

/-- What holds of a host that a run of a program may come to, with its tally: what is in flight in a run
is what the run has detached and what has not finished. A strand whose context is cancelled when it
begins to wait for a run to come to rest is refused this at once. One that waits goes on because its
context is cancelled, or because nothing of the run is in flight; and its context is not cancelled as
long as it waits. -/
structure Forthright (t : Tally) (h : Host RunResult) : Prop where
  balanced : ∀ run, h.inFlight run + t.finished run = t.started run
  refused : ∀ s ∈ h.strands, ∀ c next, s.phase = .ready (.ask (.settle c) next) →
    h.isCancelled c = true → ∃ s' ∈ (h.stepStrand s).strands, s'.id = s.id ∧
      s'.phase = .ready (next (.error (.cancelled "condition")))
  settled : ∀ s ∈ h.strands, ∀ c next, s.phase = .ready (.ask (.settle c) next) →
    ∀ h', Awaits s.id (h.stepStrand s) h' → ∀ s' ∈ h'.strands, s'.id = s.id →
      (∀ code, s'.phase = .ready code →
        code = next (.error (.cancelled "condition")) ∧ h'.isCancelled c = true ∨
          code = next (.ok ()) ∧ h'.inFlight c.run = 0) ∧
      ((∀ code, s'.phase ≠ .ready code) → h'.isCancelled c = false)

theorem Tallied.forthright {e : Setting} {around : Surroundings} {input : Json} {env : Members}
    {t : Tally} {h : Host RunResult} (ht : Tallied e around input env t h) : h.Forthright t where
  balanced := ht.balanced
  refused s hs c next hphase hcancelled := by
    have hstep : h.stepStrand s = (h.turned s).goOn s (next (.error (.cancelled "condition"))) := by
      unfold stepStrand
      rw [hphase]
      exact if_pos hcancelled
    rw [hstep]
    refine ⟨_, List.mem_map.2 ⟨s, hs, if_pos rfl⟩, rfl, rfl⟩
  settled s hs c next hphase h' ha s' hs' hid := by
    have hwaits := waits_settle ht hs hphase ha hs' hid
    refine ⟨fun code hready => ?_, fun hwaiting => ?_⟩
    · rw [hready] at hwaits
      exact hwaits
    · exact Bool.eq_false_iff.2 (hwaits.not_cancelled hwaiting)

end Host

/-! ## A run that has detached nothing -/

namespace Idle

/-- An assignment that sets a search attribute. -/
def first : TaskBase :=
  ⟨none, none, none, none, none, [("searchAttributes", .obj [("k", .int 1)])]⟩

/-- A document with two assignments. -/
def workflow : Workflow :=
  ⟨⟨"root", none, none, none⟩, none, none,
    [⟨"a", first, .assign (.obj [("x", .int 1)])⟩,
      Pair.task "b" none (.assign (.obj [("y", .int 2)]))]⟩

/-- What the document is compiled to. -/
def root : Graph :=
  ⟨"root", [⟨"a-0", "a", first, false, .assign (.obj [("x", .int 1)])⟩,
    ⟨"b-1", "b", ⟨none, none, none, none, none, []⟩, false, .assign (.obj [("y", .int 2)])⟩], none⟩

/-- A run is left for a new one once its history has more than one event. -/
def setting : Setting :=
  ⟨⟨"root", [root], ⟨1, true⟩⟩, .ofSettings .standard, CallSettings.standard.timeout⟩

theorem compiled : Program.compile Kinds.standard ⟨1, true⟩ workflow = .ok setting.program := rfl

/-- The host of a run that is cancelled at a time, after some steps. -/
def host (at? : Option Nat) (steps : Nat) : Host Host.RunResult :=
  ((Host.start setting (.bare 0) .passThrough
    (Host.programRun setting.program .null []).run).withCancellation at?).run steps

theorem reaches_host (at? : Option Nat) (steps : Nat) :
    Host.Reaches setting (.bare 0) .null [] (host at? steps) :=
  (Host.Reaches.start .passThrough [] at? "root" none).run steps

/-- The result of a host: the text of the fault, or the restarts and the data. -/
def result (h : Host Host.RunResult) : Option (String ⊕ Nat × Members) :=
  h.result.map fun
    | .error f => .inl f.message
    | .ok o => .inr (o.restarts, o.scope.data)

/-- Whether the strand whose turn it is wants a run to come to rest in a cancelled context. -/
def wantsRest (h : Host Host.RunResult) : Bool :=
  h.next?.any fun s => match s.phase with
    | .ready (.ask (.settle c) _) => h.isCancelled c
    | _ => false

/-- If the run is cancelled from the start, it wants to come to rest before its second child. -/
theorem wantsRest_host : wantsRest (host (some 0) 9) = true := by decide +kernel

theorem asks_of_wantsRest {h : Host Host.RunResult} (hwants : wantsRest h = true) :
    ∃ s ∈ h.strands, ∃ c next, s.phase = .ready (.ask (.settle c) next) ∧ h.isCancelled c = true := by
  obtain ⟨s, hs, hasks⟩ := (Option.any_eq_true _ _).1 hwants
  split at hasks
  next c next hphase => exact ⟨s, Host.mem_of_next? hs, c, next, hphase, hasks⟩
  next => cases hasks

end Idle

namespace Restart

/-- A restart is abandoned only by a cancellation. In whatever order the strands of a run of a program
take turns, time passes, and signals and cancellations come, a strand that waits for a run to come to
rest is refused this exactly if its context is cancelled before it goes on, whatever is in flight then.
A run of a graph ends in the fault that says so only right after it was refused, unless something has
answered it with such a fault. -/
theorem abandoned_when_cancelled (e : Setting) :
    (∀ (around : Surroundings) (input : Json) (env : Members) (h : Host Host.RunResult),
      (Host.Reaches e around input env h → ∃ t, Host.Tallied e around input env t h) ∧
        ∀ t, Host.Tallied e around input env t h → h.Forthright t) ∧
      ∀ (c : Context) (g : Graph) (input : Json) (s : Scope),
        (Sequence.runGraph e c g input s).Abandons c g.name g.children :=
  ⟨fun _ _ _ _ => ⟨fun hh => hh.tallied, fun _ ht => ht.forthright⟩,
    fun _ g input s => Sequence.abandons_runGraph g input s⟩

/-- A run that is cancelled from the start is refused to come to rest before its second child. -/
theorem abandoned_when_cancelled_of_idle :
    Program.compile Kinds.standard ⟨1, true⟩ Idle.workflow = .ok Idle.setting.program ∧
      ∃ t, Host.Tallied Idle.setting (.bare 0) .null [] t (Idle.host (some 0) 9) ∧
        ∃ s ∈ (Idle.host (some 0) 9).strands, ∃ c next, s.phase = .ready (.ask (.settle c) next) ∧
          (∃ s' ∈ ((Idle.host (some 0) 9).stepStrand s).strands, s'.id = s.id ∧
            s'.phase = .ready (next (.error (.cancelled "condition")))) ∧
          (Sequence.runGraph Idle.setting c Idle.root .null (.start .null [])).Abandons c "root"
            Idle.root.children := by
  obtain ⟨hhosts, hruns⟩ := abandoned_when_cancelled Idle.setting
  obtain ⟨hreaches, hforthright⟩ := hhosts (.bare 0) .null [] (Idle.host (some 0) 9)
  obtain ⟨t, ht⟩ := hreaches (Idle.reaches_host (some 0) 9)
  obtain ⟨s, hs, c, next, hphase, hcancelled⟩ := Idle.asks_of_wantsRest Idle.wantsRest_host
  exact ⟨Idle.compiled, t, ht, s, hs, c, next, hphase,
    (hforthright t ht).refused s hs c next hphase hcancelled,
    hruns c Idle.root .null (.start .null [])⟩

/-- A run that has detached nothing is restarted once if it is not cancelled. If it is cancelled from the
start, its wait for rest is refused although nothing is in flight, and it fails. -/
theorem fails_at_rest :
    Idle.result (Idle.host none 100) =
        some (.inr (1, [("a", .obj [("x", .int 1)]), ("b", .obj [("y", .int 2)]), ("x", .int 1),
          ("y", .int 2)])) ∧
      (Idle.host (some 0) 9).settling? = some (0, 1) ∧
      Idle.wantsRest (Idle.host (some 0) 9) = true ∧ (Idle.host (some 0) 9).inFlight 1 = 0 ∧
      Idle.result (Idle.host (some 0) 100) = some (.inl
        (Fault.handlersNotFinished "root" "b-1" (Fault.cancelled "condition").message).message) := by
  decide +kernel

end Restart

end TaskGraph
