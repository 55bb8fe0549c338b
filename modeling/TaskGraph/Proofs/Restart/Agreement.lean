import TaskGraph.Proofs.Congruence
import TaskGraph.Proofs.Restart.Replay

/-!
# Agreement with a machine without restarts

Two plays agree if they end alike with the same effects; what a play that has stumbled does is not
compared (`Agree`). A computation meets another one if its plays on a machine agree with those of
the other one in the same world without restarts (`Meets`). This relation respects all that tasks
are made of (`Meets.congruence`), so a task meets itself as soon as the graphs that it runs do.
-/

set_option autoImplicit false

namespace TaskGraph

/-! ## Plays that agree -/

/-- Whether two plays end alike: both without an outcome, in values that are related, or in the same
fault, which asks for no restart. -/
inductive Alike {α : Type} (V : α → α → Prop) :
    Option (Except Fault α) → Option (Except Fault α) → Prop where
  | unended : Alike V none none
  | value {a a' : α} (related : V a a') : Alike V (some (.ok a)) (some (.ok a'))
  | fault {f : Fault} (leaves : f.asksRestart = false) :
      Alike V (some (.error f)) (some (.error f))

theorem Alike.mono {α : Type} {V W : α → α → Prop} {x x' : Option (Except Fault α)}
    (h : Alike V x x') (imp : ∀ a a', V a a' → W a a') : Alike W x x' := by
  cases h with
  | unended => exact .unended
  | value related => exact .value (imp _ _ related)
  | fault leaves => exact .fault leaves

/-- Whether a play that has not stumbled ends like another one, with the same effects. -/
def Agree {α : Type} (V : α → α → Prop) (x x' : Played α) : Prop :=
  x.2.stumbled = false → Alike V x.1 x'.1 ∧ x.2.log = x'.2.log

namespace Agree

variable {α β : Type} {V : α → α → Prop} {W : β → β → Prop}

theorem of_stumbled {x x' : Played α} (h : x.2.stumbled = true) : Agree V x x' := by
  intro hx
  rw [h] at hx
  cases hx

/-- Plays that agree go on in agreement, if they do from every outcome. -/
theorem andThen {x x' : Played α} (h : Agree V x x') {k k' : Except Fault α → Moment → Played β}
    (hk : ∀ y mo, mo.stumbled = true → (k y mo).2.stumbled = true)
    (hok : ∀ a a' mo mo', V a a' → mo.log = mo'.log → Agree W (k (.ok a) mo) (k' (.ok a') mo'))
    (herror : ∀ f mo mo', f.asksRestart = false → mo.log = mo'.log →
      Agree W (k (.error f) mo) (k' (.error f) mo')) :
    Agree W (x.andThen k) (x'.andThen k') := by
  rcases hx : x.2.stumbled with _ | _
  -- the plays are alike so far, and go on from the same outcome
  · obtain ⟨halike, hlog⟩ := h hx
    obtain ⟨y, mo⟩ := x
    obtain ⟨y', mo'⟩ := x'
    cases halike with
    | unended => exact fun _ => ⟨.unended, hlog⟩
    | value related => exact hok _ _ mo mo' related hlog
    | fault leaves => exact herror _ mo mo' leaves hlog
  · exact of_stumbled (Played.stumbled_andThen hx hk)

end Agree

/-! ## Computations that meet -/

/-- Whether the plays of a computation on a machine agree with those of another one in the same
world without restarts. -/
def Meets (m : Machine)
    (enter enter' : Context → Graph → Json → Scope → Moment → Option (Except Fault Scope) × Moment)
    {α : Type} (V : α → α → Prop) (r r' : Running α) : Prop :=
  ∀ mo mo' : Moment, mo.log = mo'.log →
    Agree V (r.run.play (m.replies enter) mo) (r'.run.play (m.steady.replies enter') mo')

/-- Whether two values are the same, with a property. -/
def Both {α : Type} (P : α → Prop) (a a' : α) : Prop := a = a' ∧ P a

namespace Meets

variable {m : Machine}
  {enter enter' : Context → Graph → Json → Scope → Moment → Option (Except Fault Scope) × Moment}
  {α β : Type} {V : α → α → Prop} {W : β → β → Prop} {P : α → Prop}

theorem ofValue {a a' : α} (h : V a a') : Meets m enter enter' V (pure a) (pure a') :=
  fun _ _ hlog _ => ⟨.value h, hlog⟩

theorem ofFault {f : Fault} (h : f.asksRestart = false) :
    Meets m enter enter' V (throw f) (throw f) :=
  fun _ _ hlog _ => ⟨.fault h, hlog⟩

theorem ofExcept {x : Except Fault α} (h : Running.Result (fun f => f.asksRestart = false) P x) :
    Meets m enter enter' (Both P) (Running.ofExcept x) (Running.ofExcept x) := by
  cases x with
  | ok a => exact ofValue ⟨rfl, h⟩
  | error f => exact ofFault h

theorem bind (hreplies : (m.replies enter).Steadfast) {r r' : Running α} {k k' : α → Running β}
    (h : Meets m enter enter' V r r') (hk : ∀ a a', V a a' → Meets m enter enter' W (k a) (k' a')) :
    Meets m enter enter' W (r >>= k) (r' >>= k') := by
  intro mo mo' hlog
  rw [Running.play_bind, Running.play_bind]
  refine (h mo mo' hlog).andThen (fun _ _ => Dialogue.stumbled_play hreplies _)
    (fun a a' mo mo' ha hlog => hk a a' ha mo mo' hlog) fun f mo mo' hf hlog _ => ?_
  exact ⟨.fault hf, hlog⟩

theorem outcome {r r' : Running α} (h : Meets m enter enter' (Both P) r r') :
    Meets m enter enter' (Both (Running.Result (fun f => f.asksRestart = false) P)) r.outcome
      r'.outcome := by
  intro mo mo' hlog
  rw [Running.play_outcome, Running.play_outcome]
  refine (h mo mo' hlog).andThen (fun _ _ h => h) (fun a a' mo mo' ha hlog _ => ?_)
    fun f mo mo' hf hlog _ => ⟨.value ⟨rfl, hf⟩, hlog⟩
  obtain ⟨rfl, ha⟩ := ha
  exact ⟨.value ⟨rfl, ha⟩, hlog⟩

theorem mono {V' : α → α → Prop} {r r' : Running α} (h : Meets m enter enter' V r r')
    (imp : ∀ a a', V a a' → V' a a') : Meets m enter enter' V' r r' := by
  intro mo mo' hlog hstumbled
  obtain ⟨halike, hlog⟩ := h mo mo' hlog hstumbled
  exact ⟨halike.mono imp, hlog⟩

/-! ### Requests -/

/-- A request whose answer and whose effects follow from the effects before it. -/
theorem answered {r r' : Running α} (answer : List Effect → Except Fault α)
    (effects : List Effect → List Effect)
    (h : ∀ mo, ∃ mo₁, r.run.play (m.replies enter) mo = (some (answer mo.log), mo₁) ∧
      mo₁.log = effects mo.log)
    (h' : ∀ mo, ∃ mo₁, r'.run.play (m.steady.replies enter') mo = (some (answer mo.log), mo₁) ∧
      mo₁.log = effects mo.log)
    (hanswer : ∀ log, Running.Result (fun f => f.asksRestart = false) P (answer log)) :
    Meets m enter enter' (Both P) r r' := by
  intro mo mo' hlog _
  obtain ⟨mo₁, hr, hlog₁⟩ := h mo
  obtain ⟨mo₁', hr', hlog₁'⟩ := h' mo'
  rw [hr, hr']
  refine ⟨?_, by rw [hlog₁, hlog₁', hlog]⟩
  -- both worlds have seen the same effects, so they give the same answer
  rw [← hlog]
  have hx := hanswer mo.log
  cases hx' : answer mo.log with
  | ok a =>
    rw [hx'] at hx
    exact .value ⟨rfl, hx⟩
  | error f =>
    rw [hx'] at hx
    exact .fault hx

theorem tell (notice : Notice) :
    Meets m enter enter' (Both fun _ => True) (Running.tell notice) (Running.tell notice) := by
  cases notice with
  | call r =>
    exact answered (fun _ => .ok ()) (.call r :: ·) (fun _ => ⟨_, rfl, rfl⟩)
      (fun _ => ⟨_, rfl, rfl⟩)
      fun _ => trivial
  | sleep d =>
    exact answered (fun _ => .ok ()) (.sleep d :: ·) (fun _ => ⟨_, rfl, rfl⟩)
      (fun _ => ⟨_, rfl, rfl⟩)
      fun _ => trivial
  | _ =>
    exact answered (fun _ => .ok ()) id (fun _ => ⟨_, rfl, rfl⟩) (fun _ => ⟨_, rfl, rfl⟩)
      fun _ => trivial

theorem record (c c' : Context) (event : HistoryEvent) :
    Meets m enter enter' (Both fun _ => True) (Running.record c event) (Running.record c' event) :=
  answered (fun _ => .ok ()) id (fun _ => ⟨_, rfl, rfl⟩) (fun _ => ⟨_, rfl, rfl⟩) fun _ => trivial

end Meets

/-! ## Tasks -/

namespace Meets

variable {m : Machine}
  {enter enter' : Context → Graph → Json → Scope → Moment → Option (Except Fault Scope) × Moment}

/-- What a task is made of meets itself, if the graphs do that it may run; graphs that run side by
side or are not waited for have no place here. -/
def congruence (p : Program) (hw : m.world.Honest) (hreplies : (m.replies enter).Steadfast)
    (Starts : String → Prop)
    (hgraph : ∀ c c' name input (s : Scope), Starts name → s.marker = none →
      Meets m enter enter' (Both Running.Any) (Restart.runGraph p c name input s)
        (Restart.runGraph p c' name input s)) : Congruence p where
  Related P r r' := Meets m enter enter' (Both P) r r'
  Faults f := f.asksRestart = false
  Reads := Evaluation.Reads
  Starts := Starts
  Runs process := ∀ name, process.MayRun name → Starts name
  Forks := False
  fault _ h _ := Fault.asksRestart_of_ordinary h
  ofValue h := ofValue ⟨rfl, h⟩
  ofFault h := ofFault h
  bind h hk := h.bind hreplies fun a _ ⟨ha, hP⟩ => ha ▸ hk a hP
  mono h imp := h.mono fun a _ ⟨ha, hP⟩ => ⟨ha, imp a hP⟩
  outcome h := h.outcome
  evaluate text s locals := answered (fun _ => m.world.value (Evaluation.evaluate text s locals)) id
    (fun mo => ⟨_, rfl, mo.log_judge s _⟩) (fun mo => ⟨_, rfl, mo.log_judge s _⟩)
    fun _ => Machine.result_of_leaves (Evaluation.ordinary_evaluateIn _ text _).leaves
  traverse v s locals := answered (fun _ => m.world.value (Evaluation.traverse v s locals)) id
    (fun mo => ⟨_, rfl, mo.log_judge s _⟩) (fun mo => ⟨_, rfl, mo.log_judge s _⟩) fun _ => by
      have hplain := Evaluation.ordinary_traverse v s locals
        ⟨fun _ => m.world.engine, .passThrough, 0⟩
      cases hv : m.world.value (Evaluation.traverse v s locals) with
      | ok v' => exact ⟨_, s, locals, hv⟩
      | error f => exact hplain.leaves f hv
  check guard s locals := answered (fun _ => m.world.value (Evaluation.check guard s locals)) id
    (fun mo => ⟨_, rfl, mo.log_judge s _⟩) (fun mo => ⟨_, rfl, mo.log_judge s _⟩)
    fun _ => Machine.result_of_leaves (Evaluation.ordinary_check guard s locals _).leaves
  cancelled _ _ := answered (fun _ => .ok false) id (fun _ => ⟨_, rfl, rfl⟩)
    (fun _ => ⟨_, rfl, rfl⟩)
    fun _ => trivial
  record c c' event _ := record c c' event
  tell notice _ := tell notice
  publish _ := answered (fun _ => .ok ()) id (fun _ => ⟨_, rfl, rfl⟩) (fun _ => ⟨_, rfl, rfl⟩)
    fun _ => trivial
  respond _ _ := answered (fun _ => .ok ()) id (fun _ => ⟨_, rfl, rfl⟩) (fun _ => ⟨_, rfl, rfl⟩)
    fun _ => trivial
  offer r := answered (fun log => .ok (m.world.offer log r)) id (fun _ => ⟨_, rfl, rfl⟩)
    (fun _ => ⟨_, rfl, rfl⟩) fun log v hv => Machine.result_of_leaves (hw.offer log r v hv)
  dispatch _ _ r timeout := answered (fun log => m.world.dispatch log r timeout)
    (.attempt r timeout :: ·) (fun _ => ⟨_, rfl, rfl⟩) (fun _ => ⟨_, rfl, rfl⟩)
    fun log => Machine.result_of_leaves (hw.dispatch log r timeout)
  beat _ _ _ := answered (fun log => .ok log.length) id (fun _ => ⟨_, rfl, rfl⟩)
    (fun _ => ⟨_, rfl, rfl⟩) fun _ => trivial
  still _ := answered (fun _ => .ok ()) id (fun _ => ⟨_, rfl, rfl⟩) (fun _ => ⟨_, rfl, rfl⟩)
    fun _ => trivial
  pause _ _ d := answered (fun _ => .ok true) (.wait d :: ·) (fun _ => ⟨_, rfl, rfl⟩)
    (fun _ => ⟨_, rfl, rfl⟩) fun _ => trivial
  listen _ _ mode signals := answered (fun log => m.world.listen log mode signals)
    (.await mode signals :: ·) (fun _ => ⟨_, rfl, rfl⟩) (fun _ => ⟨_, rfl, rfl⟩)
    fun log => Machine.result_of_leaves (hw.listen log mode signals)
  named _ q _ h hv hq := h q.name (Evaluation.mayRun_of_reads hv hq)
  graph := hgraph
  detach h := h.elim
  fork h := h.elim
  reply h := h.elim
  stop h := h.elim

end Meets

end TaskGraph
