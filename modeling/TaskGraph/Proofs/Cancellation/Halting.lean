import TaskGraph.Host.Run
import TaskGraph.Proofs.Cancellation.Unbroken

/-!
# How far a cancellation stops

`Cancellation.watch` runs a list and notes what becomes of each of its children: whether its guard
is evaluated, whether it is started, and whether the list halts at it, because the child was
cancelled and so is the scope around it, or turns from it to where its flow directive leads. Without
the notes it is a run (`Cancellation.forget_watch`).

The list whose child was cancelled does nothing more. What encloses that list does not notice: the
child of an outer list in which it halted has ended like any other, and the outer list goes on where
that child leads; and a loop goes on to its next element. `Cancellation.cancellation_halts_one_list`
says so, and `Cancellation.enclosing_lists_go_on` shows it on a host.
-/

set_option autoImplicit false

namespace TaskGraph

open Running (Any Result)

open Sequence (Doing Observer Turn Passes)

namespace Cancellation

/-! ## Watching a list -/

/-- What becomes of a child of a list, by its ordinal. -/
inductive Notch where
  /-- Its guard is evaluated. -/
  | visits (ordinal : Nat)
  /-- It is started in a scope. -/
  | starts (ordinal : Nat) (s : Scope)
  /-- It was cancelled, and so is the scope around the list. -/
  | halts (ordinal : Nat)
  /-- It has ended, and this is where the list goes on. -/
  | turns (ordinal : Nat) (turn : Turn)

/-- The observer of what becomes of children. -/
def notches {A : Type} : Observer A Notch where
  visits _ i := [.visits i]
  enters _ i s := [.starts i s]
  halts i := [.halts i]
  turns i t := [.turns i t]

section

variable (e : Setting) (c : Context) (entry : Option String) (input : Json)

/-- Runs a list over the steps of a program, the first of which has the given ordinal, and notes what
becomes of them. -/
def watch (first : Bool) (pending : Option String) (i : Nat) (children : List (Child Doing))
    (s : Scope) : Tracing Notch Scope :=
  Sequence.narrate e c entry input notches Sequence.quietly first pending i children s

/-- Without the notes, to watch a list is to run it. -/
theorem forget_watch (first : Bool) (pending : Option String) (i : Nat) (children : Children)
    (s : Scope) :
    (watch e c entry input first pending i (children.map (Sequence.embody e c input)) s).forget =
      Sequence.run e c entry input first pending children s :=
  Sequence.forget_narrate_quietly e c entry input notches first pending i children s

/-- What is noted of a child whose guard is to be evaluated. -/
theorem meet_notches (r : Resumption) (i : Nat) (child : Child Doing) (s : Scope)
    (go : Option String → Scope → Tracing Notch Scope) :
    Sequence.meet e c notches Sequence.quietly r i child s go =
      .mark (.visits i)
        (.after (Running.check child.base.guard s [Sequence.taskBinding child.name]) fun
          | false => go none s
          | true => .mark (.starts i s)
            (.after (Sequence.prepare e c r child s) fun _ =>
              .after (child.action s).outcome fun x =>
                .after (Sequence.absorb c s x) fun
                  | none => .mark (.halts i) (.of (pure s))
                  | some (value, s) => .after (Sequence.depart r child value s) fun t =>
                    .mark (.turns i t) (t.follow (fun s => .of (pure s)) go))) := by
  refine congrArg _ (congrArg _ (funext fun holds => ?_))
  cases holds with
  | false => rfl
  | true =>
    simp only [Sequence.undergo_quietly, notches, Tracing.marks_nil, Tracing.marks_singleton,
      Tracing.andThen_mark, Tracing.andThen_after]
    refine congrArg _ (congrArg _ (funext fun _ => congrArg _ (funext fun x => congrArg _
      (funext fun y => ?_))))
    cases y with
    | none => rfl
    | some y =>
      simp only [Tracing.andThen_after, Tracing.andThen_mark, Tracing.andThen_of, Tracing.after_pure]

end

/-! ## Where a list goes on -/

/-- The next child that a list does not pass over, from the one of an ordinal on: the child that a
flow directive is on its way to, and, in a run on its way to a marker, one that is replayed or
resumed at. -/
def upcoming (owns : Bool) : Option String → Scope → Nat → Children → Option Nat
  | _, _, _, [] => none
  | pending, s, i, child :: rest =>
    match Restart.resumption child.id child.replayed owns s with
    | (r, s) =>
      if Passes r pending child.name then upcoming owns pending s (i + 1) rest else some i

/-- The child that a turn leads to, if it leads to one, given the ordinal of the child that it is
taken after. -/
def leadsTo (owns : Bool) (children : Children) (i : Nat) : Turn → Option Nat
  | .stop _ => none
  | .next pending s => upcoming owns pending s (i + 1) (children.drop (i + 1))

/-- Where a list turns after a child that was started in one scope and ended in another: a child
that was replayed leads to the next one, and any other one to where its flow directive says. -/
def turning (base : TaskBase) (s s' : Scope) : Turn :=
  if s.isResuming then .next none s' else .after base s'

/-- Whether the notes of a list begin at the child that it visits next, if there is one. A run that
may be left for a new one may be left instead. -/
def Heads (owns : Bool) (next : Option Nat) (notes : List Notch) (x : Except Fault Scope) : Prop :=
  notes.head? = next.map .visits ∨ owns = true ∧ notes = [] ∧ ∃ f, x = .error f

/-- What can be noted of a list that ends in a scope or in a fault. -/
structure Account (owns : Bool) (children : Children) (notes : List Notch)
    (x : Except Fault Scope) : Prop where
  /-- A list that halts does nothing more. -/
  halts : ∀ i after, .halts i :: after <:+ notes → after = []
  /-- A child that is started fails, and the list with it; or it was cancelled, and the list ends in
  the scope in which the child was started; or the list turns from it, and goes on where that leads.
  A child that waits for lists to run was not cancelled. -/
  starts : ∀ i s child after, children[i]? = some child → .starts i s :: after <:+ notes →
    (after = [] ∧ ∃ f, x = .error f) ∨
    (after = [.halts i] ∧ x = .ok s ∧ ¬child.action.Encloses) ∨
    ∃ s' after', after = .turns i (turning child.base s s') :: after' ∧
      Heads owns (leadsTo owns children i (turning child.base s s')) after' x

namespace Account

variable {owns : Bool} {children : Children} {notes : List Notch} {x : Except Fault Scope}
  {i : Nat} {child : Child Step}

theorem nil (x : Except Fault Scope) : Account owns children [] x where
  halts i after h := by simp at h
  starts i s child after _ h := by simp at h

/-- Nothing is said of a note but of a start and a halt. -/
theorem cons {note : Notch} (h : Account owns children notes x) (hhalts : ∀ i, note ≠ .halts i)
    (hstarts : ∀ i s, note ≠ .starts i s) : Account owns children (note :: notes) x where
  halts i after hsuffix := by
    rcases List.suffix_cons_iff.1 hsuffix with heq | hsuffix
    · cases heq
      exact absurd rfl (hhalts i)
    · exact h.halts i after hsuffix
  starts i s child after hchild hsuffix := by
    rcases List.suffix_cons_iff.1 hsuffix with heq | hsuffix
    · cases heq
      exact absurd rfl (hstarts i s)
    · exact h.starts i s child after hchild hsuffix

theorem visits (h : Account owns children notes x) (i : Nat) :
    Account owns children (.visits i :: notes) x :=
  h.cons nofun nofun

/-- The start of a child, given what follows it. -/
theorem started (h : Account owns children notes x) (hchild : children[i]? = some child) {s : Scope}
    (hstarted : (notes = [] ∧ ∃ f, x = .error f) ∨
      (notes = [.halts i] ∧ x = .ok s ∧ ¬child.action.Encloses) ∨
      ∃ s' notes', notes = .turns i (turning child.base s s') :: notes' ∧
        Heads owns (leadsTo owns children i (turning child.base s s')) notes' x) :
    Account owns children (.starts i s :: notes) x where
  halts j after hsuffix := by
    rcases List.suffix_cons_iff.1 hsuffix with heq | hsuffix
    · cases heq
    · exact h.halts j after hsuffix
  starts j s' child' after hchild' hsuffix := by
    rcases List.suffix_cons_iff.1 hsuffix with heq | hsuffix
    · cases heq
      obtain rfl : child' = child := Option.some.inj (hchild'.symm.trans hchild)
      exact hstarted
    · exact h.starts j s' child' after hchild' hsuffix

theorem fails (hchild : children[i]? = some child) (s : Scope) (f : Fault) :
    Account owns children [.starts i s] (.error f) :=
  (nil _).started hchild (.inl ⟨rfl, f, rfl⟩)

theorem halted (hchild : children[i]? = some child) (s : Scope) (hleaf : ¬child.action.Encloses) :
    Account owns children [.starts i s, .halts i] (.ok s) := by
  refine started ⟨?_, ?_⟩ hchild (.inr (.inl ⟨rfl, rfl, hleaf⟩))
  · intro j after hsuffix
    rcases List.suffix_cons_iff.1 hsuffix with heq | hsuffix
    · cases heq
      rfl
    · simp at hsuffix
  · intro j s child after _ hsuffix
    rcases List.suffix_cons_iff.1 hsuffix with heq | hsuffix
    · cases heq
    · simp at hsuffix

theorem turned (h : Account owns children notes x) (hchild : children[i]? = some child)
    (s s' : Scope)
    (hheads : Heads owns (leadsTo owns children i (turning child.base s s')) notes x) :
    Account owns children (.starts i s :: .turns i (turning child.base s s') :: notes) x :=
  have hturns : Account owns children (.turns i (turning child.base s s') :: notes) x :=
    h.cons nofun nofun
  hturns.started hchild (.inr (.inr ⟨s', notes, rfl, hheads⟩))

end Account

/-! ## What is noted -/

variable {e : Setting} {c : Context} {entry : Option String} {input : Json} {children : Children}

/-- A child is replayed in a run on its way to a marker, and only there. -/
theorem replay_iff {id : String} {replayed owns : Bool} {s s' : Scope} {r : Resumption}
    (h : Restart.resumption id replayed owns s = (r, s')) (hskip : r ≠ .skip) :
    r = .replay ↔ s'.isResuming = true := by
  unfold Restart.resumption at h
  cases hs : s.marker with
  | none =>
    rw [hs] at h
    cases h
    simp [Scope.isResuming, hs]
  | some m =>
    rw [hs] at h
    dsimp only at h
    split at h
    · cases h
      simp [Scope.isResuming]
    · cases h
      cases replayed with
      | true => simp [Scope.isResuming, hs]
      | false => exact absurd rfl hskip

/-- A list halts at a child only if that was cancelled. -/
theorem upholds_absorb {promise : Dialogue.Promise} (s : Scope)
    (x : Except Fault (Option Json × Scope)) :
    (Sequence.absorb c s x).Upholds promise Any
      fun y => y = none → ∃ f, x = .error f ∧ f.isCancelled = true := by
  cases x with
  | ok r => exact .pure fun h => absurd h (Option.some_ne_none r)
  | error f =>
    cases hf : f.isCancelled with
    | false =>
      simp only [Sequence.absorb, hf]
      exact .throw trivial
    | true =>
      simp only [Sequence.absorb, hf]
      refine .bind (P := Any) (.ask fun _ _ => trivial) fun _ _ => ?_
      split
      · exact .pure fun _ => ⟨f, rfl, hf⟩
      · exact .pure fun h => absurd h (Option.some_ne_none _)

/-- A list turns from a child to where its flow directive says, unless the child is replayed. -/
theorem upholds_depart {promise : Dialogue.Promise} {r : Resumption} {s : Scope}
    (hr : r = .replay ↔ s.isResuming = true) (child : Child Doing) (value : Option Json)
    (s' : Scope) : (Sequence.depart r child value s').Upholds promise Any
      fun t => ∃ s'', t = turning child.base s s'' := by
  unfold Sequence.depart
  by_cases hreplay : r = .replay
  · rw [if_pos hreplay]
    exact .pure ⟨s', by rw [turning, if_pos (hr.1 hreplay)]⟩
  · rw [if_neg hreplay]
    refine .bind (P := Any) (Running.upholds_any _) fun s'' _ => .pure ⟨s'', ?_⟩
    rw [turning, if_neg (mt hr.2 hreplay)]

/-- Only a run of a graph is left for a new one. -/
theorem upholds_leaves {promise : Dialogue.Promise} (entry : Option String) (first : Bool)
    (s : Scope) :
    (Sequence.leaves e c entry first s).Upholds promise (fun _ => False)
      fun leaves => leaves = true → entry.isSome = true := by
  unfold Sequence.leaves
  split
  · next h => exact .ask fun _ _ _ => by simp_all
  · exact .pure nofun

/-- A run that is left ends in no scope. -/
theorem upholds_suspend {promise : Dialogue.Promise} (entry id : String) (input : Json)
    (s : Scope) :
    (Restart.suspend c entry id input s : Running Scope).Upholds promise Any fun _ => False := by
  refine .bind (P := Any) ((Running.upholds_any (Running.settle c)).outcome.mono fun _ _ => trivial)
    fun x _ => ?_
  cases x with
  | ok _ => exact .throw trivial
  | error f => exact .throw trivial

/-- What is noted after a turn. -/
theorem ensures_follow {i : Nat} {go : Option String → Scope → Tracing Notch Scope}
    (hgo : ∀ pending s, (go pending s).Ensures Request.Unbroken fun x =>
      Account entry.isSome children x.1 x.2 ∧
        Heads entry.isSome (upcoming entry.isSome pending s (i + 1) (children.drop (i + 1)))
          x.1 x.2)
    (t : Turn) :
    (t.follow (fun s => .of (pure s)) go : Tracing Notch Scope).Ensures Request.Unbroken fun x =>
      Account entry.isSome children x.1 x.2 ∧
        Heads entry.isSome (leadsTo entry.isSome children i t) x.1 x.2 := by
  cases t with
  | stop s => exact ⟨.nil _, .inl rfl⟩
  | next pending s => exact hgo pending s

/-- What is noted of a child that is visited, given what is noted after it. -/
theorem ensures_meet {r : Resumption} {i : Nat} {child : Child Step} {s : Scope}
    (hchild : children[i]? = some child) (hr : r = .replay ↔ s.isResuming = true)
    {go : Option String → Scope → Tracing Notch Scope}
    (hgo : ∀ pending s', (go pending s').Ensures Request.Unbroken fun x =>
      Account entry.isSome children x.1 x.2 ∧
        Heads entry.isSome (upcoming entry.isSome pending s' (i + 1) (children.drop (i + 1)))
          x.1 x.2) :
    (Sequence.meet e c notches Sequence.quietly r i (Sequence.embody e c input child) s go).Ensures
      Request.Unbroken fun x =>
        Account entry.isSome children x.1 x.2 ∧ x.1.head? = some (.visits i) := by
  have houtcome : ((Sequence.embody e c input child).action s).outcome.Upholds Request.Unbroken Any
      fun y => child.action.Encloses → Result (fun f => f.isCancelled = false) Any y := by
    by_cases hencloses : child.action.Encloses
    · exact .mono (.outcome (unbroken_step e c child.name child.base input hencloses s))
        fun _ hy _ => hy
    · exact .mono (.outcome (Running.upholds_any _)) fun _ _ h => absurd h hencloses
  -- the guard, what is done before the child runs, the child, and where the list turns: a fault of
  -- any of them ends the list there
  rw [meet_notches]
  refine Tracing.ensures_mark (Tracing.ensures_after (Running.upholds_any _) (fun holds _ => ?_)
    fun f _ => ⟨(Account.nil _).visits i, rfl⟩)
  cases holds with
  | false => exact (hgo none s).mono fun x hx => ⟨hx.1.visits i, rfl⟩
  | true =>
    refine Tracing.ensures_mark (Tracing.ensures_after (Running.upholds_any _) (fun _ _ => ?_)
      fun f _ => ⟨(Account.fails hchild s f).visits i, rfl⟩)
    refine Tracing.ensures_after houtcome (fun y hy => ?_)
      fun f _ => ⟨(Account.fails hchild s f).visits i, rfl⟩
    refine Tracing.ensures_after (upholds_absorb s y) (fun z hz => ?_)
      fun f _ => ⟨(Account.fails hchild s f).visits i, rfl⟩
    cases z with
    | none =>
      -- only a child that does not wait for lists to run is cancelled
      obtain ⟨f, rfl, hf⟩ := hz rfl
      have hleaf : ¬child.action.Encloses := fun hencloses => by
        have hnot : f.isCancelled = false := hy hencloses
        rw [hf] at hnot
        cases hnot
      exact ⟨(Account.halted hchild s hleaf).visits i, rfl⟩
    | some z =>
      obtain ⟨value, s'⟩ := z
      refine Tracing.ensures_after (upholds_depart hr (Sequence.embody e c input child) value s')
        (fun t ht => ?_) fun f _ => ⟨(Account.fails hchild s f).visits i, rfl⟩
      obtain ⟨s'', rfl⟩ := ht
      exact Tracing.ensures_mark ((ensures_follow hgo _).mono fun x hx =>
        ⟨(hx.1.turned hchild s s'' hx.2).visits i, rfl⟩)

/-- What is noted of a list from a child on. -/
theorem ensures_watch (rest : Children) (first : Bool) (pending : Option String) (i : Nat)
    (s : Scope) (hrest : children.drop i = rest) :
    (watch e c entry input first pending i (rest.map (Sequence.embody e c input)) s).Ensures
      Request.Unbroken fun x => Account entry.isSome children x.1 x.2 ∧
        Heads entry.isSome (upcoming entry.isSome pending s i rest) x.1 x.2 := by
  -- over the children that are left, of which the first one has the ordinal `i`
  induction rest generalizing first pending i s with
  | nil =>
    cases pending with
    | none => exact ⟨.nil _, .inl rfl⟩
    | some target => exact ⟨.nil _, .inl rfl⟩
  | cons child rest ih =>
    have hchild : children[i]? = some child := by
      rw [← Nat.add_zero i, ← List.getElem?_drop, hrest]
      rfl
    have hdrop : children.drop (i + 1) = rest := by
      rw [← List.drop_drop, hrest]
      rfl
    rcases hs : Restart.resumption child.id child.replayed entry.isSome s with ⟨r, s'⟩
    rw [List.map_cons, watch,
      Sequence.narrate_cons e c entry input notches _ (Sequence.embody e c input child) hs]
    refine Tracing.ensures_after (upholds_leaves entry first s) (fun leaves hleaves => ?_)
      fun f hf => hf.elim
    · cases leaves with
      | true =>
        exact Tracing.ensures_of (upholds_suspend _ child.id input s) (fun _ h => h.elim)
          fun f _ => ⟨.nil _, .inr ⟨hleaves rfl, rfl, f, rfl⟩⟩
      | false =>
        simp only [hs, upcoming]
        by_cases hpasses : Passes r pending (Sequence.embody e c input child).name
        · rw [if_pos hpasses, if_pos (show Passes r pending child.name from hpasses)]
          exact ih false pending (i + 1) s' hdrop
        · rw [if_neg hpasses, if_neg (show ¬Passes r pending child.name from hpasses)]
          have hskip : r ≠ .skip := fun h => hpasses (.inl h)
          have hgo (pending : Option String) (s : Scope) :
              (watch e c entry input false pending (i + 1) (rest.map (Sequence.embody e c input))
                s).Ensures Request.Unbroken fun x => Account entry.isSome children x.1 x.2 ∧
                  Heads entry.isSome (upcoming entry.isSome pending s (i + 1)
                    (children.drop (i + 1))) x.1 x.2 := by
            rw [hdrop]
            exact ih false pending (i + 1) s hdrop
          refine Dialogue.Ensures.mono (P := fun x => Account entry.isSome children x.1 x.2 ∧
            x.1.head? = some (.visits i)) ?_ fun x hx => ⟨hx.1, .inl hx.2⟩
          exact ensures_meet hchild (replay_iff hs hskip) hgo

/-! ## How far a cancellation stops -/

/-- The promise that every condition of a loop holds. -/
def affirming : Dialogue.Promise
  | .evaluate .., x => x = .ok (.bool true)
  | _, _ => True

section Loops

variable (p : Program) (c : Context) (b : LoopBody) (s : Scope)

theorem element_runs (key item : Json) :
    (Iteration.element p c b s key item).Upholds affirming Any fun v => v.isSome = true := by
  refine .bind (P := fun goesOn => goesOn = true) ?_ fun goesOn hgoesOn => ?_
  · unfold Iteration.goesOn
    split
    · exact .pure rfl
    · refine .bind (P := fun v => v = .bool true) (r := Running.evaluate _ _ []) ?_ fun v hv => ?_
      · rintro x rfl
        rfl
      · exact .pure (by rw [hv]; rfl)
  · rw [hgoesOn]
    exact .bind (P := Any) (Running.upholds_any _) fun v _ => .pure rfl

/-- A loop whose condition holds runs all of its elements. -/
theorem elements_run (es : Elements) :
    (Iteration.overElements p c b s es).Upholds affirming Any (Covers es) :=
  (upholds_elements (element_runs p c b s) es).mono fun _ hcovers => hcovers fun _ hsome => hsome

end Loops

/-- Whenever scopes are cancelled, what becomes of the children of a list is accounted for. A list
whose child was cancelled together with the scope around it does nothing more, and ends in the scope
in which that child was started. The cancellation ends there: no list fails with one, and a child
that waits for lists to run ends like any other, so the list around it visits the child that it
leads to, if it leads to one. Of a nested list it sees the scope alone, and not whether that list
has halted. A loop whose condition holds runs all of its elements, unless one of them fails. -/
theorem cancellation_halts_one_list (e : Setting) (c : Context) :
    (∀ (entry : Option String) (input : Json) (children : Children) (s : Scope),
      (watch e c entry input true none 0 (children.map (Sequence.embody e c input)) s).forget =
          Sequence.run e c entry input true none children s ∧
        (watch e c entry input true none 0 (children.map (Sequence.embody e c input)) s).Ensures
          Request.Unbroken (fun x => Account entry.isSome children x.1 x.2) ∧
        (Sequence.run e c entry input true none children s).Unbroken) ∧
    (∀ (name : String) (base : TaskBase) (input : Json) (children : Children) (s : Scope),
      Sequence.step e c name base input (.block children) s =
        (watch e c none input true none 0 (children.map (Sequence.embody e c input)) s).forget >>=
          fun s => pure (s.output, s)) ∧
    ∀ (b : LoopBody) (s : Scope) (es : Elements),
      (Iteration.overElements e.program c b s es).Upholds affirming Any (Covers es) := by
  refine ⟨fun entry input children s => ?lists, fun name base input children s => ?nested,
    elements_run e.program c⟩
  case lists =>
    refine ⟨forget_watch .., ?_, unbroken_run e c entry input true none children s⟩
    exact (ensures_watch children true none 0 s rfl).mono fun _ hx => hx.1
  case nested => rw [forget_watch, Sequence.step.eq_def]

/-- A task that sleeps for ten seconds. -/
def nap : Task := Pair.task "nap" none (.wait (.inline ⟨0, 0, 0, 10, 0⟩))

/-- A task that writes. -/
def write : Task := Pair.task "after" none (.assign (.obj [("x", .int 1)]))

/-- Compiles a document with some tasks and runs it on a host that is cancelled after one second:
the time at which it ends, and its data. -/
def cancelledRun (tasks : TaskList) : Option (Nat × Option Members) :=
  (Program.compile Kinds.standard .standard
      ⟨⟨"root", none, none, none⟩, none, none, tasks⟩).toOption.map
    fun p =>
      let code := (Host.programRun p .null []).run
      let setting : Setting := ⟨p, .ofSettings .standard, CallSettings.standard.timeout⟩
      let h := Host.run 100
        ((Host.start setting (.bare 0) .passThrough code).withCancellation (some 1000))
      (h.finished, h.result.bind fun x => x.toOption.map fun o => o.scope.data)

/-- A list that is cancelled after a second, while its first child sleeps, goes on to no other
child. A list around it does, and writes, and a loop around it goes on to two more elements. -/
theorem enclosing_lists_go_on :
    cancelledRun [nap, write] = some (1000, some []) ∧
      cancelledRun [Pair.task "outer" none (.block [nap]), write] =
        some (1000, some [("after", .obj [("x", .int 1)]), ("x", .int 1)]) ∧
      cancelledRun [Pair.task "outer" none (.loop ⟨none, .int 3, none⟩ none [nap, write])] =
        some (1000, some [("outer", .arr [.null, .null, .null])]) :=
  ⟨by decide +kernel, by decide +kernel, by decide +kernel⟩

end Cancellation

end TaskGraph
