import TaskGraph.Execution.Sequence
import TaskGraph.Proofs.Tracing

/-!
# Lists child by child

The work of a list on one child has two parts: what is decided before the guard, and what is done
with a child whose guard holds. `Sequence.rerun` and `Sequence.enact` are the second part, without
and with traces in the scope, and `Sequence.run_cons` puts them into the equation of a list.

`Sequence.observed` runs a list over children that do anything, and an observer notes on the way what
becomes of each. It ends in a scope whatever its outcome is; `Sequence.narrate` keeps the scope of a
value alone, as a run does, and without the notes it is a run if the children do what the steps of a
program do (`Sequence.forget_narrate`). Everything that is told of lists is told by an observer:
`Sequence.walk` marks what a list does with its children.
-/

set_option autoImplicit false

namespace TaskGraph

/-! ## Marks -/

/-- What is done with a child of a list, by its ordinal. -/
inductive Mark where
  /-- Its guard is evaluated, and the child is not replayed. -/
  | visited (ordinal : Nat)
  /-- It is executed: its input is checked, its attributes are published, its body runs, its value
  and its export are recorded and its flow directive is followed, as far as no fault comes in
  between. -/
  | executed (ordinal : Nat)
  /-- Its guard is evaluated on the way to the marker of a restarted run. -/
  | replayed (ordinal : Nat)
  /-- The run is left before it for a new one. -/
  | left (ordinal : Nat)
  deriving Repr, DecidableEq

/-- A child with something else to do. -/
def Child.doing {α β : Type} (child : Child α) (action : β) : Child β :=
  ⟨child.id, child.name, child.base, child.replayed, action⟩

namespace Sequence

/-! ## One child -/

/-- What a step of a program does in a scope: the answer is its value, if it has one, and the scope after
it. -/
abbrev Doing := Scope → Running (Option Json × Scope)

/-- Where a list goes on after a child. -/
inductive Turn where
  /-- Nowhere: the list is finished in this scope. -/
  | stop (s : Scope)
  /-- At the next child, or at the one that a flow directive is on its way to. -/
  | next (pending : Option String) (s : Scope)

/-- Where a list goes on after a child that was executed. -/
def Turn.after (base : TaskBase) (s : Scope) : Turn :=
  if base.next = some .stop then .stop s else .next (pendingTarget base.next) s

/-- The scope in which a list goes on after a child. -/
def Turn.scope : Turn → Scope
  | .stop s | .next _ s => s

theorem Turn.scope_after (base : TaskBase) (s : Scope) : (Turn.after base s).scope = s := by
  unfold Turn.after
  split <;> rfl

/-- Follows a turn: to the end of the list, or on with it. -/
def Turn.follow {β : Type} (finish : Scope → β) (go : Option String → Scope → β) : Turn → β
  | .stop s => finish s
  | .next pending s => go pending s

/-- Runs a child for its effects on the host alone. -/
def rerun (c : Context) (action : Doing) (s : Scope) : Running Turn := do
  match ← absorb c s (← (action s).outcome) with
  | none => pure (.stop s)
  | some (_, s) => pure (.next none s)

/-- Records what a child leaves, its value and its export. -/
def conclude (name : String) (base : TaskBase) (value : Option Json) (s : Scope) :
    Running Turn := do
  let s ← export_ name base value (recorded name value s)
  pure (.after base s)

/-- Runs a child and records what it leaves. -/
def enact (e : Setting) (c : Context) (name : String) (base : TaskBase) (action : Doing)
    (s : Scope) : Running Turn := do
  Running.ofExcept (checkInput e.program.options name base s)
  publish c name base s
  match ← absorb c s (← (action s).outcome) with
  | none => pure (.stop s)
  | some (value, s) => conclude name base value s

variable (e : Setting) (c : Context) (entry : Option String) (input : Json)

/-- A child of a program with what its step does. -/
def embody (child : Child Step) : Child Doing :=
  child.doing (step e c child.name child.base input child.action)

/-- Whether a list passes over a child of a name: on the way to a marker, or on the way to the
target of a flow directive. -/
def Passes (r : Resumption) (pending : Option String) (name : String) : Prop :=
  r = .skip ∨ pending.any (· ≠ name)

instance (r : Resumption) (pending : Option String) (name : String) :
    Decidable (Passes r pending name) :=
  inferInstanceAs (Decidable (_ ∨ _))

/-! ## Before a child -/

/-- A nested list is not left for a new run. -/
theorem leaves_nested (first : Bool) (s : Scope) : leaves e c none first s = pure false := rfl

/-- A list is not left before its first child. -/
theorem leaves_first (s : Scope) : leaves e c entry true s = pure false := by
  cases entry <;> rfl

/-- A list is not left on the way to a marker. -/
theorem leaves_resuming (first : Bool) {s : Scope} {m : String} (hs : s.marker = some m) :
    leaves e c entry first s = pure false := by
  simp [leaves, Scope.isResuming, hs]

theorem leaves_going (name : String) {s : Scope} (hs : s.marker = none) :
    leaves e c (some name) false s = Running.ask (.due c e.program.options.maxHistory) := by
  simp [leaves, Scope.isResuming, hs]

theorem resumption_going (id : String) (replayed owns : Bool) {s : Scope} (hs : s.marker = none) :
    Restart.resumption id replayed owns s = (.run, s) := by
  simp [Restart.resumption, hs]

/-- A list that owns the marker takes it away at its child. -/
theorem resumption_own (id : String) (replayed : Bool) {s : Scope} (hs : s.marker = some id) :
    Restart.resumption id replayed true s = (.run, { s with marker := none }) := by
  simp [Restart.resumption, hs]

/-- On the way to a marker a child is replayed or skipped. -/
theorem resumption_other {id m : String} (replayed : Bool) {owns : Bool} {s : Scope}
    (hs : s.marker = some m) (h : owns = false ∨ id ≠ m) :
    Restart.resumption id replayed owns s = (if replayed then .replay else .skip, s) := by
  rcases h with rfl | h
  · simp [Restart.resumption, hs]
  · simp [Restart.resumption, hs, h.symm]

/-- A nested list takes no marker away. -/
theorem resumption_nested (id : String) (replayed : Bool) (s : Scope) :
    ∃ r, Restart.resumption id replayed false s = (r, s) := by
  -- a nested child may have the identifier of the marker, but the marker is never meant for it
  cases hs : s.marker with
  | none => exact ⟨_, resumption_going id replayed false hs⟩
  | some m => exact ⟨_, resumption_other replayed hs (.inl rfl)⟩

/-! ## Runs and walks -/

theorem run_nil (first : Bool) (pending : Option String) (s : Scope) :
    run e c entry input first pending [] s =
      match pending with
      | some target => throw (.flowTargetNotFound target)
      | none => pure s := by
  cases pending <;> rw [run.eq_def]

/-- What a list does with a child whose guard is to be evaluated, and after it. -/
def visit (r : Resumption) (child : Child Doing) (s : Scope)
    (go : Option String → Scope → Running Scope) : Running Scope := do
  if ← Running.check child.base.guard s [taskBinding child.name] then
    if r = .replay then rerun c child.action s >>= Turn.follow pure go
    else enact e c child.name child.base child.action s >>= Turn.follow pure go
  else go none s

/-- Where a list goes on after a child whose guard is to be evaluated. -/
def turn (r : Resumption) (child : Child Doing) (s : Scope) : Running Turn := do
  if ← Running.check child.base.guard s [taskBinding child.name] then
    if r = .replay then rerun c child.action s
    else enact e c child.name child.base child.action s
  else pure (.next none s)

/-- A list goes on from the turn of a child. -/
theorem visit_eq_turn (r : Resumption) (child : Child Doing) (s : Scope)
    (go : Option String → Scope → Running Scope) :
    visit e c r child s go = turn e c r child s >>= Turn.follow pure go := by
  unfold visit turn
  rw [bind_assoc]
  refine bind_congr fun holds => ?_
  cases holds with
  | false => rfl
  | true =>
    simp only [if_true]
    split <;> rfl

/-- A list with a child: the child is left, passed over, or visited, and the list goes on after it.
-/
theorem run_cons (first : Bool) (pending : Option String) (child : Child Step) (rest : Children)
    (s : Scope) :
    run e c entry input first pending (child :: rest) s = (do
      if ← leaves e c entry first s then
        Restart.suspend c (entry.getD "") child.id input s
      else
        let (r, s) := Restart.resumption child.id child.replayed entry.isSome s
        if Passes r pending child.name then run e c entry input false pending rest s
        else
          visit e c r (embody e c input child) s fun pending s =>
            run e c entry input false pending rest s) := by
  rw [run.eq_def]
  refine bind_congr fun leaves => ?_
  cases leaves with
  | true => rfl
  | false =>
    simp only [Bool.false_eq_true, if_false]
    generalize Restart.resumption child.id child.replayed entry.isSome s = x
    obtain ⟨r, s⟩ := x
    by_cases hpasses : Passes r pending child.name
    · exact (if_pos hpasses).trans (if_pos hpasses).symm
    · refine (if_neg hpasses).trans (Eq.trans ?_ (if_neg hpasses).symm)
      refine bind_congr fun holds => ?_
      cases holds with
      | false => rfl
      | true =>
        -- a replayed child is run for its effects alone, any other one is enacted
        by_cases hreplay : r = .replay
        · simp only [if_pos hreplay, if_true, rerun, bind_assoc]
          refine bind_congr fun outcome => bind_congr fun x => ?_
          cases x <;> rfl
        · simp only [if_neg hreplay, if_true, enact, conclude, bind_assoc]
          refine bind_congr fun _ => bind_congr fun _ => bind_congr fun outcome =>
            bind_congr fun x => ?_
          cases x with
          | none => rfl
          | some r =>
            simp only [bind_assoc]
            refine bind_congr fun s => ?_
            show _ = Turn.follow _ _ (Turn.after child.base s)
            unfold Turn.after
            split <;> rfl

/-! ## Children that do anything -/

/-- What a child does in a scope: how it ends, and the scope at its end whatever its outcome is. -/
abbrev Body := Scope → Dialogue (Except Fault (Option Json) × Scope)

/-- How a step ends in a scope. A step that fails leaves its scope as it was. -/
def placed (s : Scope) : Except Fault (Option Json × Scope) → Except Fault (Option Json) × Scope
  | .ok (value, s') => (.ok value, s')
  | .error f => (.error f, s)

/-- The step of a program as a body. -/
def Doing.body (action : Doing) : Body := fun s => (action s).run.map (placed s)

section

variable {μ : Type}

/-- A body that leaves no notes. -/
def quiet (body : Body) (s : Scope) : Scoped μ (Option Json) := (body s).map fun x => ([], x)

/-- The body of a step that leaves notes. -/
def telling (t : Scope → Tracing μ (Option Json × Scope)) (s : Scope) : Scoped μ (Option Json) :=
  (t s).map fun x => (x.1, placed s x.2)

/-- A step that leaves no notes. -/
def quietly (action : Doing) : Scope → Scoped μ (Option Json) := telling fun s => .of (action s)

theorem forget_quiet (body : Body) (s : Scope) :
    Dialogue.map Prod.snd (quiet body s : Scoped μ (Option Json)) = body s := by
  rw [quiet, Dialogue.map_eq_bind, Dialogue.bind_map]
  exact Dialogue.bind_done _

theorem forget_telling (t : Scope → Tracing μ (Option Json × Scope)) (s : Scope) :
    Dialogue.map Prod.snd (telling t s) = Doing.body (fun s => (t s).forget) s := by
  rw [telling, Doing.body, Tracing.run_forget, Dialogue.map_eq_bind, Dialogue.bind_map,
    Dialogue.map_eq_bind, Dialogue.bind_map]

end

/-! ## Observers -/

/-- What an observer notes of the children of a list, by their ordinals; `A` is what children do. -/
structure Observer (A μ : Type) where
  /-- The run is left before a child for a new one. -/
  leaves : Nat → List μ := fun _ => []
  /-- The guard of a child is evaluated. -/
  visits : Resumption → Nat → List μ := fun _ _ => []
  /-- It holds, in a scope. -/
  enters : Resumption → Nat → Scope → List μ := fun _ _ _ => []
  /-- The child starts in a scope: nothing has kept it from that. -/
  starts : Resumption → Child A → Scope → List μ := fun _ _ _ => []
  /-- The child was cancelled, and so is the scope around the list. -/
  halts : Nat → List μ := fun _ => []
  /-- The child has ended, and this is where the list goes on. -/
  turns : Nat → Turn → List μ := fun _ _ => []

section

variable {A μ : Type}

/-- What is done before a child starts, unless it is replayed. -/
def prepare (r : Resumption) (child : Child A) (s : Scope) : Running Unit :=
  if r = .replay then pure ()
  else do
    Running.ofExcept (checkInput e.program.options child.name child.base s)
    publish c child.name child.base s

/-- Where a list goes on after a child that has ended with a value in a scope. -/
def depart (r : Resumption) (child : Child A) (value : Option Json) (s : Scope) : Running Turn :=
  if r = .replay then pure (.next none s) else conclude child.name child.base value s

/-- The scope that the export of a child is evaluated in, and left in if it fails. -/
def departing (r : Resumption) (child : Child A) (value : Option Json) (s : Scope) : Scope :=
  if r = .replay then s else recorded child.name value s

/-- The end of a run that is left at a child. The scope has the marker by then, if a new run is asked
for. -/
def leave (id : String) (s : Scope) : Scoped μ Unit :=
  (Restart.suspend c (entry.getD "") id input s : Running Scope).run.map fun
    | .ok s => ([], .ok (), s)
    | .error (.continueAsNew entry input s) => ([], .error (.continueAsNew entry input s), s)
    | .error f => ([], .error f, s)

variable (o : Observer A μ) (act : A → Scope → Scoped μ (Option Json))

/-- What a list does with a child whose guard holds, up to where it goes on after it. -/
def attend (r : Resumption) (i : Nat) (child : Child A) (s : Scope) : Scoped μ Turn :=
  .marks (o.enters r i s) <| .after s (prepare e c r child s) fun _ =>
    .marks (o.starts r child s) <| (act child.action s).anyway fun x s =>
      .after s (absorb c s (x.map fun value => (value, s))) fun
        | none => .marks (o.halts i) (.ends s (.stop s))
        | some (value, s) => .after (departing r child value s) (depart r child value s) fun t =>
            .marks (o.turns i t) (.ends t.scope t)

/-- Runs a list over children that do anything, the first of which has the given ordinal, and notes what
becomes of them. -/
def observed : Bool → Option String → Nat → List (Child A) → Scope → Scoped μ Unit
  | _, some target, _, [], s => .fails s (.flowTargetNotFound target)
  | _, none, _, [], s => .ends s ()
  | first, pending, i, child :: rest, s =>
    .after s (leaves e c entry first s) fun
      | true => .marks (o.leaves i) (leave c entry input child.id s)
      | false => match Restart.resumption child.id child.replayed entry.isSome s with
        | (r, s) =>
          if Passes r pending child.name then observed false pending (i + 1) rest s
          else .marks (o.visits r i) <|
            .after s (Running.check child.base.guard s [taskBinding child.name]) fun
              | false => observed false none (i + 1) rest s
              | true => (attend e c o act r i child s).andThen fun t _ =>
                  t.follow (fun s => .ends s ()) fun pending s =>
                    observed false pending (i + 1) rest s

/-! ### Without the scope of a fault -/

/-- `attend`, where a fault leaves no scope. -/
def undergo (r : Resumption) (i : Nat) (child : Child A) (s : Scope) : Tracing μ Turn :=
  (attend e c o act r i child s).valued fun t _ => t

/-- `visit`, with notes. -/
def meet (r : Resumption) (i : Nat) (child : Child A) (s : Scope)
    (go : Option String → Scope → Tracing μ Scope) : Tracing μ Scope :=
  .marks (o.visits r i) <|
    .after (Running.check child.base.guard s [taskBinding child.name]) fun
      | false => go none s
      | true => (undergo e c o act r i child s).andThen (Turn.follow (fun s => .of (pure s)) go)

/-- `observed`, where a fault leaves no scope. -/
def narrate (first : Bool) (pending : Option String) (i : Nat) (children : List (Child A))
    (s : Scope) : Tracing μ Scope :=
  (observed e c entry input o act first pending i children s).valued fun _ s => s

theorem undergo_eq (r : Resumption) (i : Nat) (child : Child A) (s : Scope) :
    undergo e c o act r i child s =
      .marks (o.enters r i s) (.after (prepare e c r child s) fun _ =>
        .marks (o.starts r child s) (Dialogue.bind (act child.action s) fun x =>
          Tracing.marks x.1 (.after (absorb c x.2.2 (x.2.1.map fun value => (value, x.2.2))) fun
            | none => .marks (o.halts i) (.of (pure (.stop x.2.2)))
            | some (value, s) => .after (depart r child value s) fun t =>
                .marks (o.turns i t) (.of (pure t))))) := by
  simp only [undergo, attend, Scoped.valued_marks, Scoped.valued_after, Scoped.valued_anyway]
  congr 1
  refine congrArg _ (funext fun _ => congrArg _ (congrArg _ (funext fun x => congrArg _ ?_)))
  refine congrArg _ (funext fun y => ?_)
  cases y with
  | none => simp only [Scoped.valued_marks, Scoped.valued_ends]
  | some y => simp only [Scoped.valued_after, Scoped.valued_marks, Scoped.valued_ends]

/-- A step goes on from its outcome in the scope that it started in. -/
theorem undergo_telling (t : A → Scope → Tracing μ (Option Json × Scope)) (r : Resumption) (i : Nat)
    (child : Child A) (s : Scope) :
    undergo e c o (fun a => telling (t a)) r i child s =
      .marks (o.enters r i s) (.after (prepare e c r child s) fun _ =>
        .marks (o.starts r child s) ((t child.action s).anyway fun x =>
          .after (absorb c s x) fun
            | none => .marks (o.halts i) (.of (pure (.stop s)))
            | some (value, s) => .after (depart r child value s) fun t =>
                .marks (o.turns i t) (.of (pure t)))) := by
  rw [undergo_eq]
  refine congrArg _ (congrArg _ (funext fun _ => congrArg _ ?_))
  rw [telling, Dialogue.bind_map, Tracing.anyway]
  congr 1
  funext x
  rcases x with ⟨ms, f | r⟩ <;> rfl

/-- Without notes of its own, a step goes on from its outcome. -/
theorem undergo_quietly (o : Observer Doing μ) (r : Resumption) (i : Nat) (child : Child Doing)
    (s : Scope) :
    undergo e c o quietly r i child s =
      .marks (o.enters r i s) (.after (prepare e c r child s) fun _ =>
        .marks (o.starts r child s) (.after (child.action s).outcome fun x =>
          .after (absorb c s x) fun
            | none => .marks (o.halts i) (.of (pure (.stop s)))
            | some (value, s) => .after (depart r child value s) fun t =>
                .marks (o.turns i t) (.of (pure t)))) :=
  (undergo_telling e c o (fun action s => .of (action s)) r i child s).trans <| by
    simp only [Tracing.anyway_of]

theorem narrate_nil (first : Bool) (pending : Option String) (i : Nat) (s : Scope) :
    narrate e c entry input o act first pending i [] s =
      match pending with
      | some target => .of (throw (.flowTargetNotFound target))
      | none => .of (pure s) := by
  cases pending <;> rfl

theorem valued_leave (id : String) (s : Scope) :
    (leave c entry input id s : Scoped μ Unit).valued (fun _ s => s) =
      .of (Restart.suspend c (entry.getD "") id input s) := by
  rw [leave, Scoped.valued, Tracing.of, Dialogue.map_eq_bind, Dialogue.bind_map]
  congr 1
  funext x
  rcases x with f | s
  · cases f <;> rfl
  · rfl

/-- What is told of a list with a child, given what is done with the child. -/
theorem narrate_cons (child : Child A) {s s' : Scope} {r : Resumption}
    (h : Restart.resumption child.id child.replayed entry.isSome s = (r, s')) (first : Bool)
    (pending : Option String) (i : Nat) (rest : List (Child A)) :
    narrate e c entry input o act first pending i (child :: rest) s =
      .after (leaves e c entry first s) fun
        | true => .marks (o.leaves i) (.of (Restart.suspend c (entry.getD "") child.id input s))
        | false =>
          if Passes r pending child.name then
            narrate e c entry input o act false pending (i + 1) rest s'
          else meet e c o act r i child s' fun pending s =>
            narrate e c entry input o act false pending (i + 1) rest s := by
  rw [narrate, observed, Scoped.valued_after]
  refine congrArg _ (funext fun leaves => ?_)
  cases leaves with
  | true => rw [Scoped.valued_marks, valued_leave]
  | false =>
    simp only [h]
    split
    · rfl
    · rw [Scoped.valued_marks, Scoped.valued_after, meet]
      refine congrArg _ (congrArg _ (funext fun holds => ?_))
      cases holds with
      | false => rfl
      | true =>
        rw [Scoped.valued_andThen]
        refine congrArg _ (funext fun t => ?_)
        cases t <;> rfl

/-! ### Without notes -/

/-- A child that does what an action does goes on as the action from its outcome. -/
theorem forget_outcome {body : Scoped μ (Option Json)} {action : Doing} {s : Scope}
    (h : Dialogue.map Prod.snd body = action.body s)
    {k : Except Fault (Option Json) → Scope → Tracing μ Turn}
    {k' : Except Fault (Option Json × Scope) → Running Turn}
    (hok : ∀ value s', (k (.ok value) s').forget = k' (.ok (value, s')))
    (herror : ∀ f, (k (.error f) s).forget = k' (.error f)) :
    Tracing.forget (Dialogue.bind body fun x => Tracing.marks x.1 (k x.2.1 x.2.2)) =
      (action s).outcome >>= k' := by
  show Dialogue.map Prod.snd (Dialogue.bind _ _) = ((action s).outcome >>= k').run
  calc Dialogue.map Prod.snd (Dialogue.bind body fun x => Tracing.marks x.1 (k x.2.1 x.2.2))
      = Dialogue.bind body fun x => (k x.2.1 x.2.2).forget.run := by
        rw [Dialogue.map_bind]
        congr 1
        funext x
        exact Tracing.forget_marks x.1 (k x.2.1 x.2.2)
    _ = Dialogue.bind (action.body s) fun y => (k y.1 y.2).forget.run := by
        rw [← h, Dialogue.bind_map]
    _ = ((action s).outcome >>= k').run := by
        rw [Doing.body, Dialogue.bind_map, Running.run_outcome_bind]
        congr 1
        funext x
        rcases x with f | ⟨value, s'⟩
        · exact congrArg _ (herror f)
        · exact congrArg _ (hok value s')

/-- A child that does what an action does leaves a list where the action would. -/
theorem forget_undergo (child : Child A) {action : Doing}
    (h : ∀ s, Dialogue.map Prod.snd (act child.action s) = action.body s) (r : Resumption) (i : Nat)
    (s : Scope) :
    (undergo e c o act r i child s).forget =
      if r = .replay then rerun c action s else enact e c child.name child.base action s := by
  have hundergo : (undergo e c o act r i child s).forget =
      prepare e c r child s >>= fun _ => (action s).outcome >>= fun x => absorb c s x >>= fun
        | none => pure (.stop s)
        | some (value, s) => depart r child value s := by
    rw [undergo_eq, Tracing.forget_marks, Tracing.forget_after]
    refine bind_congr fun _ => ?_
    rw [Tracing.forget_marks]
    have hturn (y : Option (Option Json × Scope)) (s : Scope) :
        (match y with
          | none => .marks (o.halts i) (.of (pure (.stop s)))
          | some (value, s) => .after (depart r child value s) fun t =>
              .marks (o.turns i t) (.of (pure t)) : Tracing μ Turn).forget =
          match y with
          | none => pure (.stop s)
          | some (value, s) => depart r child value s := by
      cases y <;> simp
    refine forget_outcome (h s) (k := fun x s => .after (absorb c s (x.map fun value => (value, s)))
      fun
        | none => .marks (o.halts i) (.of (pure (.stop s)))
        | some (value, s) => .after (depart r child value s) fun t =>
            .marks (o.turns i t) (.of (pure t))) (fun value s' => ?_) fun f => ?_
    · simp [absorb, Except.map]
    · rw [Tracing.forget_after]
      exact bind_congr fun y => hturn y s
  rw [hundergo]
  unfold prepare depart
  by_cases hreplay : r = .replay
  · simp only [if_pos hreplay, rerun, pure_bind]
  · simp only [if_neg hreplay, enact, bind_assoc]

/-- Without its notes, what is told of a list is a run, if the children do what the steps of a program
do. -/
theorem forget_narrate {g : Child Step → A} {children : Children}
    (h : ∀ child ∈ children, ∀ s, Dialogue.map Prod.snd (act (g child) s) =
      Doing.body (step e c child.name child.base input child.action) s)
    (first : Bool) (pending : Option String) (i : Nat) (s : Scope) :
    (narrate e c entry input o act first pending i (children.map fun child => child.doing (g child))
      s).forget = run e c entry input first pending children s := by
  induction children generalizing first pending i s with
  | nil =>
    rw [List.map_nil, narrate_nil, run_nil]
    cases pending <;> simp
  | cons child rest ih =>
    have hrest := ih fun child hchild => h child (List.mem_cons_of_mem _ hchild)
    rcases hx : Restart.resumption child.id child.replayed entry.isSome s with ⟨r, s'⟩
    rw [run_cons, List.map_cons, narrate_cons e c entry input o act (child.doing (g child)) hx,
      Tracing.forget_after]
    refine bind_congr fun leaves => ?_
    cases leaves with
    | true => simp [Child.doing]
    | false =>
      simp only [Bool.false_eq_true, if_false, hx]
      by_cases hpasses : Passes r pending child.name
      · rw [if_pos hpasses, if_pos (show Passes r pending (child.doing (g child)).name from hpasses)]
        exact hrest ..
      · rw [if_neg hpasses, if_neg (show ¬Passes r pending (child.doing (g child)).name from hpasses),
          meet, Tracing.forget_marks, Tracing.forget_after, visit]
        refine bind_congr fun holds => ?_
        cases holds with
        | false => exact hrest ..
        | true =>
          have hundergo := forget_undergo e c o act (child.doing (g child))
            (h child (List.mem_cons_self ..)) r i s'
          have hfollow (t : Turn) : (t.follow (fun s => (Tracing.of (pure s) : Tracing μ Scope))
              fun pending s => narrate e c entry input o act false pending (i + 1)
                (rest.map fun child => child.doing (g child)) s).forget =
              t.follow pure fun pending s => run e c entry input false pending rest s := by
            cases t with
            | stop s => exact Tracing.forget_of _
            | next pending s => exact hrest ..
          rw [Tracing.forget_andThen, hundergo]
          simp only [hfollow, if_true]
          split <;> rfl

/-- `forget_narrate` for steps that leave notes. -/
theorem forget_narrate_telling (t : A → Scope → Tracing μ (Option Json × Scope))
    {g : Child Step → A} {children : Children}
    (h : ∀ child ∈ children, ∀ s, (t (g child) s).forget =
      step e c child.name child.base input child.action s)
    (first : Bool) (pending : Option String) (i : Nat) (s : Scope) :
    (narrate e c entry input o (fun a => telling (t a)) first pending i
      (children.map fun child => child.doing (g child)) s).forget =
        run e c entry input first pending children s := by
  refine forget_narrate e c entry input o _ (fun child hchild s => ?_) first pending i s
  rw [forget_telling]
  exact congrArg (Dialogue.map (placed s)) (h child hchild s)

/-- `forget_narrate` for the steps of a program without notes of their own. -/
theorem forget_narrate_quietly (o : Observer Doing μ) (first : Bool) (pending : Option String)
    (i : Nat) (children : Children) (s : Scope) :
    (narrate e c entry input o quietly first pending i (children.map (embody e c input)) s).forget =
      run e c entry input first pending children s :=
  forget_narrate_telling e c entry input o (fun (action : Doing) s => .of (action s))
    (g := fun child => step e c child.name child.base input child.action)
    (fun _ _ _ => Tracing.forget_of _) first pending i s

end

/-! ## Marks -/

/-- The observer of what is done with children. -/
def marker {A : Type} : Observer A Mark where
  leaves i := [.left i]
  visits r i := [if r = .replay then .replayed i else .visited i]
  enters r i _ := if r = .replay then [] else [.executed i]

/-- Runs a list over the steps of a program and marks what is done. -/
def walk (first : Bool) (pending : Option String) (i : Nat) (children : List (Child Doing))
    (s : Scope) : Tracing Mark Scope :=
  narrate e c entry input marker quietly first pending i children s

/-- A walk without its marks is a run. -/
theorem forget_walk (first : Bool) (pending : Option String) (i : Nat) (children : Children)
    (s : Scope) :
    (walk e c entry input first pending i (children.map (embody e c input)) s).forget =
      run e c entry input first pending children s :=
  forget_narrate_quietly e c entry input marker first pending i children s

/-- The marks of a child that is gone through. -/
theorem undergo_marker (r : Resumption) (i : Nat) (child : Child Doing) (s : Scope) :
    undergo e c marker quietly r i child s =
      if r = .replay then .of (rerun c child.action s)
      else .mark (.executed i) (.of (enact e c child.name child.base child.action s)) := by
  rw [undergo_quietly]
  by_cases hreplay : r = .replay
  · simp only [marker, prepare, depart, rerun, hreplay, if_true, Tracing.marks_nil, Tracing.of_bind,
      Tracing.after_pure]
    refine congrArg _ (funext fun x => congrArg _ (funext fun y => ?_))
    cases y <;> rfl
  · simp only [marker, prepare, depart, enact, hreplay, if_false, Tracing.marks_nil,
      Tracing.marks_singleton, Tracing.of_bind, Tracing.after_bind, Tracing.after_of_pure]
    refine congrArg _ (congrArg _ (funext fun _ => congrArg _ (funext fun _ => congrArg _
      (funext fun x => congrArg _ (funext fun y => ?_)))))
    cases y <;> rfl

/-- What a walk does with a child whose guard is to be evaluated. -/
theorem meet_marker (r : Resumption) (i : Nat) (child : Child Doing) (s : Scope)
    (go : Option String → Scope → Tracing Mark Scope) :
    meet e c marker quietly r i child s go =
      .mark (if r = .replay then .replayed i else .visited i)
        (.after (Running.check child.base.guard s [taskBinding child.name]) fun
          | false => go none s
          | true =>
            if r = .replay then
              .after (rerun c child.action s) (Turn.follow (fun s => .of (pure s)) go)
            else
              .mark (.executed i)
                (.after (enact e c child.name child.base child.action s)
                  (Turn.follow (fun s => .of (pure s)) go))) := by
  refine congrArg _ (congrArg _ (funext fun holds => ?_))
  cases holds with
  | false => rfl
  | true =>
    simp only [undergo_marker]
    split <;> simp

/-- A walk over a child, given what is done with the child. -/
theorem walk_cons {child : Child Doing} {s s' : Scope} {r : Resumption}
    (h : Restart.resumption child.id child.replayed entry.isSome s = (r, s')) (first : Bool)
    (pending : Option String) (i : Nat) (rest : List (Child Doing)) :
    walk e c entry input first pending i (child :: rest) s =
      .after (leaves e c entry first s) fun
        | true => .mark (.left i) (.of (Restart.suspend c (entry.getD "") child.id input s))
        | false =>
          if Passes r pending child.name then walk e c entry input false pending (i + 1) rest s'
          else meet e c marker quietly r i child s' fun pending s =>
            walk e c entry input false pending (i + 1) rest s :=
  narrate_cons e c entry input marker quietly child h first pending i rest

end Sequence

end TaskGraph
