import TaskGraph.Execution.Dialogue

/-!
# What holds of every outcome of a dialogue

A property of the results of a dialogue holds on every host if it holds however the requests are
answered, within what the host promises about its answers. `Dialogue.Ensures` says so on the tree of
requests, and `Running.Upholds` for computations that may fail, with one property for faults and one
for values. `Heeds` says in addition that only requests of a kind are made. All of them compose along
`bind`, so a computation is followed step by step.

The promise that matters for restarts is `Request.Honest`: no evaluation, no call, no signal and no
branch is answered with a fault that asks for a restart. Only the list that a run started from asks
for one.
-/

set_option autoImplicit false

namespace TaskGraph

/-! ## Dialogues -/

namespace Dialogue

variable {α β : Type}

/-- What a host promises about its answers. -/
abbrev Promise := (q : Request) → q.Answer → Prop

/-- Whether every value that a dialogue ends with has a property, if the answers are as promised. -/
def Ensures (promise : Promise) (P : α → Prop) : Dialogue α → Prop
  | done a => P a
  | ask q k => ∀ x, promise q x → Ensures promise P (k x)

variable {promise : Promise} {P P' : α → Prop} {Q : β → Prop}

theorem Ensures.mono {d : Dialogue α} (h : d.Ensures promise P) (imp : ∀ a, P a → P' a) :
    d.Ensures promise P' := by
  induction d with
  | done a => exact imp a h
  | ask q k ih => exact fun x hx => ih x (h x hx)

/-- A host that promises more is no worse. -/
theorem Ensures.weaken {promise' : Promise} {d : Dialogue α} (h : d.Ensures promise P)
    (imp : ∀ q x, promise' q x → promise q x) : d.Ensures promise' P := by
  induction d with
  | done a => exact h
  | ask q k ih => exact fun x hx => ih x (h x (imp q x hx))

theorem Ensures.bind {d : Dialogue α} {f : α → Dialogue β} (h : d.Ensures promise P)
    (hf : ∀ a, P a → (f a).Ensures promise Q) : (d.bind f).Ensures promise Q := by
  induction d with
  | done a => exact hf a h
  | ask q k ih => exact fun x hx => ih x (h x hx)

theorem Ensures.map {d : Dialogue α} {f : α → β} (h : d.Ensures promise fun a => Q (f a)) :
    (d.map f).Ensures promise Q :=
  h.bind fun _ ha => ha

/-- What holds of every value holds of the values of every dialogue. -/
theorem ensures_of_forall (d : Dialogue α) (h : ∀ a, P a) : d.Ensures promise P := by
  induction d with
  | done a => exact h a
  | ask q k ih => exact fun x _ => ih x

/-! ### What is asked -/

/-- Whether a dialogue makes only requests of a kind and ends only in values with a property, if the
answers are as promised. -/
def Heeds (allowed : Request → Prop) (promise : Promise) (P : α → Prop) : Dialogue α → Prop
  | done a => P a
  | ask q k => allowed q ∧ ∀ x, promise q x → Heeds allowed promise P (k x)

variable {allowed : Request → Prop}

theorem Heeds.ensures {d : Dialogue α} (h : d.Heeds allowed promise P) : d.Ensures promise P := by
  induction d with
  | done a => exact h
  | ask q k ih => exact fun x hx => ih x (h.2 x hx)

theorem Heeds.mono {d : Dialogue α} (h : d.Heeds allowed promise P) (imp : ∀ a, P a → P' a) :
    d.Heeds allowed promise P' := by
  induction d with
  | done a => exact imp a h
  | ask q k ih => exact ⟨h.1, fun x hx => ih x (h.2 x hx)⟩

theorem Heeds.bind {d : Dialogue α} {f : α → Dialogue β} (h : d.Heeds allowed promise P)
    (hf : ∀ a, P a → (f a).Heeds allowed promise Q) : (d.bind f).Heeds allowed promise Q := by
  induction d with
  | done a => exact hf a h
  | ask q k ih => exact ⟨h.1, fun x hx => ih x (h.2 x hx)⟩

theorem Heeds.map {d : Dialogue α} {f : α → β} (h : d.Heeds allowed promise fun a => Q (f a)) :
    (d.map f).Heeds allowed promise Q :=
  h.bind fun _ ha => ha

/-- Whether a dialogue makes only requests of a kind until it goes on as another one, or ends before
that in a value with a property, if the answers are as promised. -/
def Until (allowed : Request → Prop) (promise : Promise) (P : α → Prop) :
    Dialogue α → Dialogue α → Prop
  | done a, target => done a = target ∨ P a
  | ask q k, target =>
    ask q k = target ∨ allowed q ∧ ∀ x, promise q x → (k x).Until allowed promise P target

theorem until_self (d : Dialogue α) : d.Until allowed promise P d := by
  cases d <;> exact Or.inl rfl

theorem Heeds.until {d : Dialogue β} {f : β → Dialogue α} {target : Dialogue α}
    (h : d.Heeds allowed promise Q) (hf : ∀ b, Q b → (f b).Until allowed promise P target) :
    (d.bind f).Until allowed promise P target := by
  induction d with
  | done b => exact hf b h
  | ask q k ih => exact Or.inr ⟨h.1, fun x hx => ih x (h.2 x hx)⟩

theorem Until.mono {P' : α → Prop} {d target : Dialogue α} (h : d.Until allowed promise P target)
    (imp : ∀ a, P a → P' a) : d.Until allowed promise P' target := by
  induction d with
  | done a => exact h.imp_right (imp a)
  | ask q k ih => exact h.imp_right fun hk => ⟨hk.1, fun x hx => ih x (hk.2 x hx)⟩

/-- A dialogue that goes on as one that makes only requests of a kind, and makes only such requests
before that. -/
theorem Until.heeds {allowed' : Request → Prop} {promise' : Promise} {P' : α → Prop}
    {d target : Dialogue α} (h : d.Until allowed promise P target)
    (htarget : target.Heeds allowed' promise' P') (hallowed : ∀ q, allowed q → allowed' q)
    (hpromise : ∀ q x, allowed q → promise' q x → promise q x) (hP : ∀ a, P a → P' a) :
    d.Heeds allowed' promise' P' := by
  induction d with
  | done a =>
    rcases h with rfl | ha
    · exact htarget
    · exact hP a ha
  | ask q k ih =>
    rcases h with rfl | ⟨hq, hk⟩
    · exact htarget
    · exact ⟨hallowed q hq, fun x hx => ih x (hk x (hpromise q x hq hx))⟩

/-! ### What is asked, given what was asked before -/

/-- A law on requests that remembers those before: what may be asked, and what is remembered of a
request and its answer. -/
structure Law (σ : Type) where
  allows : σ → Request → Prop
  next : σ → (q : Request) → q.Answer → σ

/-- Whether a dialogue keeps to a law and ends only in values that are right by then, if the answers
are as promised. -/
def Abides {σ : Type} (law : Law σ) (promise : Promise) (P : σ → α → Prop) :
    σ → Dialogue α → Prop
  | l, done a => P l a
  | l, ask q k => law.allows l q ∧ ∀ x, promise q x → (k x).Abides law promise P (law.next l q x)

theorem Abides.bind {σ : Type} {law : Law σ} {R : σ → α → Prop} {S : σ → β → Prop} {l : σ}
    {d : Dialogue α} {f : α → Dialogue β} (h : d.Abides law promise R l)
    (hf : ∀ l a, R l a → (f a).Abides law promise S l) : (d.bind f).Abides law promise S l := by
  induction d generalizing l with
  | done a => exact hf l a h
  | ask q k ih => exact ⟨h.1, fun x hx => ih x (h.2 x hx)⟩

theorem Abides.mono {σ : Type} {law : Law σ} {R R' : σ → α → Prop} {l : σ} {d : Dialogue α}
    (h : d.Abides law promise R l) (imp : ∀ l a, R l a → R' l a) :
    d.Abides law promise R' l := by
  induction d generalizing l with
  | done a => exact imp l a h
  | ask q k ih => exact ⟨h.1, fun x hx => ih x (h.2 x hx)⟩

/-- A dialogue that makes only requests of a kind keeps to a law that allows them and that an
invariant survives. -/
theorem Heeds.abides {σ : Type} {law : Law σ} {I : σ → Prop} {l : σ} {d : Dialogue α}
    (h : d.Heeds allowed promise P) (hl : I l)
    (hallows : ∀ l q, I l → allowed q → law.allows l q)
    (hnext : ∀ l q x, I l → allowed q → I (law.next l q x)) :
    d.Abides law promise (fun l a => I l ∧ P a) l := by
  induction d generalizing l with
  | done a => exact ⟨hl, h⟩
  | ask q k ih => exact ⟨hallows l q hl h.1, fun x hx => ih x (h.2 x hx) (hnext l q x hl h.1)⟩

theorem map_eq_bind (f : α → β) (d : Dialogue α) : d.map f = d.bind fun a => done (f a) := rfl

@[simp] theorem map_done (f : α → β) (a : α) : (done a).map f = done (f a) := rfl

@[simp] theorem bind_done_left (a : α) (f : α → Dialogue β) : (done a).bind f = f a := rfl

theorem map_bind {γ : Type} (d : Dialogue α) (f : α → Dialogue β) (g : β → γ) :
    (d.bind f).map g = d.bind fun a => (f a).map g :=
  bind_assoc d f _

theorem bind_map {γ : Type} (d : Dialogue α) (f : α → β) (g : β → Dialogue γ) :
    (d.map f).bind g = d.bind fun a => g (f a) :=
  bind_assoc d _ g

end Dialogue

/-! ## Computations that may fail -/

namespace Running

variable {α β : Type}

/-- How a computation goes on from an outcome. -/
def onward (k : α → Running β) : Except Fault α → Dialogue (Except Fault β)
  | .ok a => (k a).run
  | .error f => .done (.error f)

@[simp] theorem onward_ok (k : α → Running β) (a : α) : onward k (.ok a) = (k a).run := rfl

@[simp] theorem onward_error (k : α → Running β) (f : Fault) :
    onward k (.error f) = .done (.error f) := rfl

theorem run_bind (r : Running α) (k : α → Running β) : (r >>= k).run = r.run.bind (onward k) := by
  show r.run.bind (ExceptT.bindCont k) = _
  congr 1
  funext x
  cases x <;> rfl

@[simp] theorem run_pure (a : α) : (pure a : Running α).run = .done (.ok a) := rfl

@[simp] theorem run_throw (f : Fault) : (throw f : Running α).run = .done (.error f) := rfl

@[simp] theorem run_ofExcept (x : Except Fault α) : (ofExcept x).run = .done x := rfl

theorem run_outcome (r : Running α) : r.outcome.run = r.run.map .ok := rfl

/-- To go on from the outcome of a computation is to go on from how it ends. -/
theorem run_outcome_bind (r : Running α) (k : Except Fault α → Running β) :
    (r.outcome >>= k).run = r.run.bind fun x => (k x).run := by
  rw [run_bind, run_outcome, Dialogue.bind_map]
  rfl

/-- Whether an outcome is a value or a fault as described. -/
def Result (E : Fault → Prop) (P : α → Prop) : Except Fault α → Prop
  | .ok a => P a
  | .error f => E f

/-- No condition. -/
abbrev Any {γ : Type} (_ : γ) : Prop := True

theorem result_any (x : Except Fault α) : Result Any Any x := by
  cases x <;> trivial

theorem Result.mono_fault {E E' : Fault → Prop} {P : α → Prop} {x : Except Fault α}
    (h : Result E P x) (imp : ∀ f, E f → E' f) : Result E' P x := by
  cases x with
  | ok a => exact h
  | error f => exact imp f h

/-- Whether a computation ends in a value or in a fault as described, if the answers are as
promised. -/
def Upholds (promise : Dialogue.Promise) (E : Fault → Prop) (P : α → Prop) (r : Running α) : Prop :=
  r.run.Ensures promise (Result E P)

variable {promise : Dialogue.Promise} {E : Fault → Prop} {P P' : α → Prop} {Q : β → Prop}

theorem Upholds.pure {a : α} (h : P a) : Upholds promise E P (pure a) := h

theorem Upholds.throw {f : Fault} (h : E f) : Upholds promise E P (throw f) := h

theorem Upholds.ofExcept {x : Except Fault α} (h : Result E P x) :
    Upholds promise E P (ofExcept x) := h

theorem Upholds.bind {r : Running α} {k : α → Running β} (h : Upholds promise E P r)
    (hk : ∀ a, P a → Upholds promise E Q (k a)) : Upholds promise E Q (r >>= k) := by
  unfold Upholds
  rw [run_bind]
  refine Dialogue.Ensures.bind h fun x hx => ?_
  -- a fault of the first computation is the fault of both
  cases x with
  | ok a => exact hk a hx
  | error f => exact hx

theorem Upholds.mono {r : Running α} (h : Upholds promise E P r) (imp : ∀ a, P a → P' a) :
    Upholds promise E P' r := by
  refine Dialogue.Ensures.mono h fun x hx => ?_
  cases x with
  | ok a => exact imp a hx
  | error f => exact hx

/-- The faults of a computation are no faults of its outcome. -/
theorem Upholds.outcome {E' : Fault → Prop} {r : Running α} (h : Upholds promise E P r) :
    Upholds promise E' (Result E P) r.outcome :=
  Dialogue.Ensures.map h

theorem upholds_any (r : Running α) : Upholds promise Any Any r :=
  Dialogue.ensures_of_forall _ result_any

/-- A request whose answer is a value. -/
theorem Upholds.ask {q : Request} {R : q.Answer → Prop} (h : ∀ x, promise q x → R x) :
    Upholds promise E R (ask q) :=
  h

/-! ### What is asked -/

variable {allowed : Request → Prop}

/-- Whether a computation makes only requests of a kind, and ends in a value with a property or in a
fault as described, if the answers are as promised. -/
def Heeds (allowed : Request → Prop) (promise : Dialogue.Promise) (E : Fault → Prop)
    (P : α → Prop) (r : Running α) : Prop :=
  r.run.Heeds allowed promise (Result E P)

theorem Heeds.pure {a : α} (h : P a) : Heeds allowed promise E P (pure a) := h

theorem Heeds.throw {f : Fault} (h : E f) : Heeds allowed promise E P (throw f) := h

theorem Heeds.ofExcept {x : Except Fault α} (h : Result E P x) :
    Heeds allowed promise E P (ofExcept x) := h

theorem Heeds.bind {r : Running α} {k : α → Running β} (h : Heeds allowed promise E P r)
    (hk : ∀ a, P a → Heeds allowed promise E Q (k a)) : Heeds allowed promise E Q (r >>= k) := by
  unfold Heeds
  rw [run_bind]
  refine Dialogue.Heeds.bind h fun x hx => ?_
  cases x with
  | ok a => exact hk a hx
  | error f => exact hx

theorem Heeds.mono {r : Running α} (h : Heeds allowed promise E P r) (imp : ∀ a, P a → P' a) :
    Heeds allowed promise E P' r := by
  refine Dialogue.Heeds.mono h fun x hx => ?_
  cases x with
  | ok a => exact imp a hx
  | error f => exact hx

theorem Heeds.mono_fault {E' : Fault → Prop} {r : Running α} (h : Heeds allowed promise E P r)
    (imp : ∀ f, E f → E' f) : Heeds allowed promise E' P r :=
  Dialogue.Heeds.mono h fun _ hx => hx.mono_fault imp

theorem Heeds.outcome {E' : Fault → Prop} {r : Running α} (h : Heeds allowed promise E P r) :
    Heeds allowed promise E' (Result E P) r.outcome :=
  Dialogue.Heeds.map h

/-- A request whose answer is a value. -/
theorem Heeds.ask {q : Request} {R : q.Answer → Prop} (hq : allowed q)
    (h : ∀ x, promise q x → R x) : Heeds allowed promise E R (ask q) :=
  ⟨hq, h⟩

end Running

/-! ## Hosts that ask for no restart -/

/-- Whether a notice tells of the beginning or the end of a graph. -/
def Notice.ofGraph : Notice → Bool
  | .enter .. | .leave .. | .detach .. => true
  | _ => false

/-- Whether a fault asks for a restart. -/
def Fault.asksRestart : Fault → Bool
  | .continueAsNew .. => true
  | _ => false

theorem Fault.asksRestart_eq_false {f : Fault}
    (h : ∀ entry input s, f ≠ .continueAsNew entry input s) :
    f.asksRestart = false := by
  cases f with
  | continueAsNew entry input s => exact absurd rfl (h entry input s)
  | _ => rfl

/-- Whether an outcome is one of a host that leaves restarts to the runs. -/
def Fault.Leaves {α : Type} (x : Except Fault α) : Prop := ∀ f, x = .error f → f.asksRestart = false

theorem Fault.leaves_ok {α : Type} (a : α) : Fault.Leaves (.ok a) := nofun

theorem Fault.leaves_error {α : Type} {f : Fault} (h : f.asksRestart = false) :
    Fault.Leaves (.error f : Except Fault α) := by
  rintro g hg
  cases hg
  exact h

/-- Whether an outcome is neither a request for a restart nor a cancellation. -/
def Fault.Plain {α : Type} (x : Except Fault α) : Prop :=
  ∀ f, x = .error f → f.asksRestart = false ∧ f.isCancelled = false

theorem Fault.plain_ok {α : Type} (a : α) : Fault.Plain (.ok a) := nofun

theorem Fault.plain_error {α : Type} {f : Fault}
    (h : f.asksRestart = false ∧ f.isCancelled = false) :
    Fault.Plain (.error f : Except Fault α) := by
  rintro g hg
  cases hg
  exact h

theorem Fault.Plain.leaves {α : Type} {x : Except Fault α} (h : Fault.Plain x) : Fault.Leaves x :=
  fun f hf => (h f hf).1

/-- Whether a fault is one that a task may end in by itself: neither a request for a restart nor the
lack of a graph. -/
def Fault.ordinary : Fault → Bool
  | .continueAsNew .. | .graphNotFound _ => false
  | _ => true

theorem Fault.asksRestart_of_ordinary {f : Fault} (h : f.ordinary = true) :
    f.asksRestart = false := by
  cases f with
  | continueAsNew => cases h
  | _ => rfl

/-- Whether an outcome is an ordinary one, and no cancellation. -/
def Fault.Ordinary {α : Type} (x : Except Fault α) : Prop :=
  ∀ f, x = .error f → f.ordinary = true ∧ f.isCancelled = false

theorem Fault.ordinary_ok {α : Type} (a : α) : Fault.Ordinary (.ok a) := nofun

theorem Fault.ordinary_error {α : Type} {f : Fault}
    (h : f.ordinary = true ∧ f.isCancelled = false) :
    Fault.Ordinary (.error f : Except Fault α) := by
  rintro g hg
  cases hg
  exact h

theorem Fault.Ordinary.plain {α : Type} {x : Except Fault α} (h : Fault.Ordinary x) :
    Fault.Plain x :=
  fun f hf => ⟨Fault.asksRestart_of_ordinary (h f hf).1, (h f hf).2⟩

theorem Fault.Ordinary.leaves {α : Type} {x : Except Fault α} (h : Fault.Ordinary x) :
    Fault.Leaves x :=
  h.plain.leaves

/-- Whether a fault says that a run could not be left for a new one. -/
def Fault.abandons : Fault → Bool
  | .handlersNotFinished .. => true
  | _ => false

/-- Whether an outcome is an ordinary one, no cancellation, and not that of a run that could not be
left. -/
def Fault.Own {α : Type} (x : Except Fault α) : Prop :=
  ∀ f, x = .error f → f.ordinary = true ∧ f.isCancelled = false ∧ f.abandons = false

theorem Fault.own_ok {α : Type} (a : α) : Fault.Own (.ok a) := nofun

theorem Fault.own_error {α : Type} {f : Fault}
    (h : f.ordinary = true ∧ f.isCancelled = false ∧ f.abandons = false) :
    Fault.Own (.error f : Except Fault α) := by
  rintro g hg
  cases hg
  exact h

theorem Fault.Own.plain {α : Type} {x : Except Fault α} (h : Fault.Own x) : Fault.Plain x :=
  fun f hf => ⟨Fault.asksRestart_of_ordinary (h f hf).1, (h f hf).2.1⟩

/-- The promise that evaluations, calls, signals and branches end in no other faults than these. A
graph that is entered may end in any. -/
def Request.Within (E : Fault → Prop) : (q : Request) → q.Answer → Prop
  | .evaluate .., x | .traverse .., x | .dispatch .., x => Running.Result E Running.Any x
  | .check .., x => Running.Result E Running.Any x
  | .listen .., x => Running.Result E Running.Any x
  | .offer _, x => ∀ v, x = some v → Running.Result E Running.Any v
  | .reply, x => Running.Result E Running.Any x.2
  | _, _ => True

theorem Request.within_any (q : Request) (x : q.Answer) : Request.Within Running.Any q x := by
  cases q with
  | offer r => exact fun v _ => Running.result_any v
  | evaluate | traverse | dispatch | check | listen | reply => exact Running.result_any _
  | _ => trivial

theorem Request.Within.mono {E E' : Fault → Prop} (imp : ∀ f, E f → E' f) {q : Request} {x : q.Answer}
    (h : q.Within E x) : q.Within E' x := by
  cases q with
  | offer r => exact fun v hv => (h v hv).mono_fault imp
  | evaluate | traverse | dispatch | check | listen | reply => exact Running.Result.mono_fault h imp
  | _ => trivial

/-- The promise that nothing outside of the runs asks for a restart. -/
abbrev Request.Honest : Dialogue.Promise := Request.Within fun f => f.asksRestart = false

end TaskGraph
