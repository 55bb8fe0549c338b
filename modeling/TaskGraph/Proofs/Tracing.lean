import TaskGraph.Proofs.Dialogue

/-!
# Computations that leave notes

A `Tracing` is a dialogue that leaves notes on its way to a value or a fault; without them it is a
computation that may fail (`Tracing.forget`). What holds of notes and outcome is followed along the
computation by `Tracing.ensures_after`, `Tracing.ensures_andThen` and `Tracing.ensures_anyway`.

A `Scoped` is a computation on a scope that leaves notes. It has a scope at its end whatever its outcome
is, so a computation that goes on after a fault goes on in the scope that the fault has left.
-/

set_option autoImplicit false

namespace TaskGraph

/-- A dialogue that leaves notes and may end in a fault. -/
abbrev Tracing (μ α : Type) := Dialogue (List μ × Except Fault α)

namespace Tracing

variable {μ α β γ : Type}

/-- A computation that leaves no notes. -/
def of (r : Running α) : Tracing μ α := r.run.map fun x => ([], x)

/-- Leaves a note in front of those of a dialogue. -/
def mark (m : μ) (t : Tracing μ α) : Tracing μ α := t.map fun x => (m :: x.1, x.2)

/-- Leaves notes in front of those of a dialogue. -/
def marks : List μ → Tracing μ α → Tracing μ α
  | [], t => t
  | m :: ms, t => mark m (marks ms t)

/-- Goes on with the value of a computation that leaves no notes. -/
def after (r : Running α) (k : α → Tracing μ β) : Tracing μ β :=
  r.run.bind fun
    | .ok a => k a
    | .error f => .done ([], .error f)

/-- Goes on with the value of a dialogue, whose notes come first. -/
def andThen (t : Tracing μ α) (k : α → Tracing μ β) : Tracing μ β :=
  Dialogue.bind t fun
    | (ms, .ok a) => marks ms (k a)
    | (ms, .error f) => .done (ms, .error f)

/-- Goes on from the outcome of a dialogue, whose notes come first. -/
def anyway (t : Tracing μ α) (k : Except Fault α → Tracing μ β) : Tracing μ β :=
  Dialogue.bind t fun x => marks x.1 (k x.2)

theorem marks_eq_map (ms : List μ) (t : Tracing μ α) :
    marks ms t = Dialogue.map (fun x => (ms ++ x.1, x.2)) t := by
  induction ms with
  | nil => exact (Dialogue.bind_done t).symm
  | cons m ms ih =>
    show Dialogue.map _ (marks ms t) = _
    rw [ih, Dialogue.map_eq_bind, Dialogue.bind_map]
    rfl

@[simp] theorem marks_nil (t : Tracing μ α) : marks [] t = t := rfl

@[simp] theorem marks_singleton (m : μ) (t : Tracing μ α) : marks [m] t = mark m t := rfl

theorem after_bind (r : Running α) (k : α → Running β) (f : β → Tracing μ γ) :
    after (r >>= k) f = after r fun a => after (k a) f := by
  unfold after
  rw [Running.run_bind, Dialogue.bind_assoc]
  congr 1
  funext x
  cases x <;> rfl

@[simp] theorem after_of_pure (r : Running α) :
    after r (fun a => (of (pure a) : Tracing μ α)) = of r := by
  show Dialogue.bind _ _ = Dialogue.map _ _
  rw [Dialogue.map_eq_bind]
  congr 1
  funext x
  cases x <;> rfl

theorem of_bind (r : Running α) (k : α → Running β) :
    (of (r >>= k) : Tracing μ β) = after r fun a => of (k a) := by
  rw [← after_of_pure, after_bind]
  exact congrArg _ (funext fun a => after_of_pure (k a))

@[simp] theorem after_pure (a : α) (f : α → Tracing μ β) : after (pure a) f = f a := rfl

@[simp] theorem andThen_of (r : Running α) (k : α → Tracing μ β) : (of r).andThen k = after r k := by
  show Dialogue.bind (Dialogue.map _ _) _ = Dialogue.bind _ _
  rw [Dialogue.bind_map]
  congr 1
  funext x
  cases x <;> rfl

@[simp] theorem andThen_mark (m : μ) (t : Tracing μ α) (k : α → Tracing μ β) :
    (mark m t).andThen k = mark m (t.andThen k) := by
  show Dialogue.bind (Dialogue.map _ _) _ = Dialogue.map _ (Dialogue.bind _ _)
  rw [Dialogue.bind_map, Dialogue.map_bind]
  congr 1
  funext x
  obtain ⟨ms, a | f⟩ := x <;> rfl

@[simp] theorem anyway_of (r : Running α) (k : Except Fault α → Tracing μ β) :
    (of r).anyway k = after r.outcome k := by
  show Dialogue.bind (Dialogue.map _ _) _ = Dialogue.bind (Dialogue.map _ _) _
  rw [Dialogue.bind_map, Dialogue.bind_map]
  rfl

theorem andThen_after (r : Running α) (k : α → Tracing μ β) (f : β → Tracing μ γ) :
    (after r k).andThen f = after r fun a => (k a).andThen f := by
  unfold andThen after
  rw [Dialogue.bind_assoc]
  congr 1
  funext x
  cases x <;> rfl

/-! ### Without the notes -/

/-- The computation without its notes. -/
def forget (t : Tracing μ α) : Running α := ExceptT.mk (t.map Prod.snd)

theorem run_forget (t : Tracing μ α) : t.forget.run = t.map Prod.snd := rfl

@[simp] theorem forget_of (r : Running α) : (of r : Tracing μ α).forget = r := by
  show Dialogue.map _ (Dialogue.map _ _) = _
  rw [Dialogue.map_eq_bind, Dialogue.bind_map]
  exact Dialogue.bind_done _

@[simp] theorem forget_mark (m : μ) (t : Tracing μ α) : (mark m t).forget = t.forget := by
  show Dialogue.map _ (Dialogue.map _ _) = _
  rw [Dialogue.map_eq_bind, Dialogue.bind_map]
  rfl

@[simp] theorem forget_marks (ms : List μ) (t : Tracing μ α) : (marks ms t).forget = t.forget := by
  induction ms with
  | nil => rfl
  | cons m ms ih => exact (forget_mark m _).trans ih

@[simp] theorem forget_after (r : Running α) (k : α → Tracing μ β) :
    (after r k).forget = r >>= fun a => (k a).forget := by
  show Dialogue.map _ (Dialogue.bind _ _) = (r >>= fun a => (k a).forget).run
  rw [Dialogue.map_bind, Running.run_bind]
  congr 1
  funext x
  cases x <;> rfl

@[simp] theorem forget_andThen (t : Tracing μ α) (k : α → Tracing μ β) :
    (t.andThen k).forget = t.forget >>= fun a => (k a).forget := by
  show Dialogue.map _ (Dialogue.bind _ _) = (t.forget >>= fun a => (k a).forget).run
  rw [Dialogue.map_bind, Running.run_bind, run_forget, Dialogue.bind_map]
  congr 1
  funext x
  obtain ⟨ms, a | f⟩ := x
  · rfl
  · exact forget_marks ms (k f)

/-! ### What notes and outcome are -/

variable {promise : Dialogue.Promise} {E : Fault → Prop} {P : α → Prop}
  {Q : List μ × Except Fault β → Prop}

theorem ensures_mark {m : μ} {t : Tracing μ β}
    (h : t.Ensures promise fun x => Q (m :: x.1, x.2)) : (mark m t).Ensures promise Q :=
  h.map

theorem ensures_marks {ms : List μ} {t : Tracing μ β}
    (h : t.Ensures promise fun x => Q (ms ++ x.1, x.2)) : (marks ms t).Ensures promise Q := by
  rw [marks_eq_map]
  exact h.map

theorem ensures_of {r : Running β} {R : β → Prop} (h : r.Upholds promise E R)
    (hok : ∀ b, R b → Q ([], .ok b)) (herror : ∀ f, E f → Q ([], .error f)) :
    (of r).Ensures promise Q :=
  Dialogue.Ensures.map <| Dialogue.Ensures.mono h fun x hx =>
    match x, hx with
    | .ok b, hx => hok b hx
    | .error f, hx => herror f hx

theorem ensures_after {r : Running α} {k : α → Tracing μ β} (h : r.Upholds promise E P)
    (hok : ∀ a, P a → (k a).Ensures promise Q) (herror : ∀ f, E f → Q ([], .error f)) :
    (after r k).Ensures promise Q := by
  refine Dialogue.Ensures.bind h fun x hx => ?_
  cases x with
  | ok a => exact hok a hx
  | error f => exact herror f hx

theorem ensures_andThen {P : List μ × Except Fault α → Prop} {t : Tracing μ α} {k : α → Tracing μ β}
    (h : t.Ensures promise P)
    (hok : ∀ ms a, P (ms, .ok a) → (k a).Ensures promise fun x => Q (ms ++ x.1, x.2))
    (herror : ∀ ms f, P (ms, .error f) → Q (ms, .error f)) : (t.andThen k).Ensures promise Q := by
  refine Dialogue.Ensures.bind h fun x hx => ?_
  obtain ⟨ms, f | a⟩ := x
  · exact herror ms f hx
  · exact ensures_marks (hok ms a hx)

theorem ensures_anyway {P : List μ × Except Fault α → Prop} {t : Tracing μ α}
    {k : Except Fault α → Tracing μ β} (h : t.Ensures promise P)
    (hk : ∀ ms x, P (ms, x) → (k x).Ensures promise fun y => Q (ms ++ y.1, y.2)) :
    (t.anyway k).Ensures promise Q :=
  Dialogue.Ensures.bind h fun x hx => ensures_marks (hk x.1 x.2 hx)

end Tracing

/-! ## Computations on a scope -/

/-- A dialogue that leaves notes and ends in an outcome and a scope. -/
abbrev Scoped (μ α : Type) := Dialogue (List μ × Except Fault α × Scope)

namespace Scoped

variable {μ α β : Type}

/-- Ends with a value in a scope. -/
def ends (s : Scope) (a : α) : Scoped μ α := .done ([], .ok a, s)

/-- Ends with a fault in a scope. -/
def fails (s : Scope) (f : Fault) : Scoped μ α := .done ([], .error f, s)

/-- Leaves notes in front of those of a computation. -/
def marks (ms : List μ) (t : Scoped μ α) : Scoped μ α := t.map fun x => (ms ++ x.1, x.2)

/-- Goes on with the value of a computation that does not touch the scope. -/
def after (s : Scope) (r : Running α) (k : α → Scoped μ β) : Scoped μ β :=
  r.run.bind fun
    | .ok a => k a
    | .error f => fails s f

/-- Goes on from the outcome of a computation, in the scope that it has left. -/
def anyway (t : Scoped μ α) (k : Except Fault α → Scope → Scoped μ β) : Scoped μ β :=
  Dialogue.bind t fun x => marks x.1 (k x.2.1 x.2.2)

/-- Goes on with the value of a computation, in the scope that it has left. -/
def andThen (t : Scoped μ α) (k : α → Scope → Scoped μ β) : Scoped μ β :=
  t.anyway fun x s => match x with
    | .ok a => k a s
    | .error f => fails s f

/-- The computation with a value made of its own and of the scope that it ends in; that of a fault is
dropped. -/
def valued (f : α → Scope → β) (t : Scoped μ α) : Tracing μ β :=
  t.map fun x => (x.1, x.2.1.map fun a => f a x.2.2)

variable (f : α → Scope → β)

@[simp] theorem valued_ends (s : Scope) (a : α) :
    (ends s a : Scoped μ α).valued f = .of (pure (f a s)) := rfl

@[simp] theorem valued_marks (ms : List μ) (t : Scoped μ α) :
    (t.marks ms).valued f = .marks ms (t.valued f) := by
  rw [Tracing.marks_eq_map]
  show Dialogue.map _ (Dialogue.map _ _) = Dialogue.map _ (Dialogue.map _ _)
  rw [Dialogue.map_eq_bind, Dialogue.bind_map, Dialogue.map_eq_bind, Dialogue.bind_map]

@[simp] theorem valued_after {γ : Type} (s : Scope) (r : Running γ) (k : γ → Scoped μ α) :
    (after s r k).valued f = .after r fun c => (k c).valued f := by
  show Dialogue.map _ (Dialogue.bind _ _) = Dialogue.bind _ _
  rw [Dialogue.map_bind]
  congr 1
  funext x
  cases x <;> rfl

theorem valued_anyway {γ : Type} (t : Scoped μ γ) (k : Except Fault γ → Scope → Scoped μ α) :
    (t.anyway k).valued f =
      Dialogue.bind t fun x => Tracing.marks x.1 ((k x.2.1 x.2.2).valued f) := by
  show Dialogue.map _ (Dialogue.bind _ _) = _
  rw [Dialogue.map_bind]
  congr 1
  funext x
  exact valued_marks f x.1 _

theorem valued_andThen {γ : Type} (t : Scoped μ γ) (k : γ → Scoped μ α) :
    (t.andThen fun c _ => k c).valued f =
      (t.valued fun c _ => c).andThen fun c => (k c).valued f := by
  rw [andThen, valued_anyway]
  show _ = Dialogue.bind (Dialogue.map _ _) _
  rw [Dialogue.bind_map]
  congr 1
  funext x
  obtain ⟨ms, fault | c, s⟩ := x
  · show Tracing.marks ms (.of (throw fault)) = .done (ms, .error fault)
    rw [Tracing.marks_eq_map]
    show Dialogue.done (ms ++ [], _) = _
    rw [List.append_nil]
  · rfl

/-! ### Laws -/

variable {γ : Type}

@[simp] theorem marks_nil (t : Scoped μ α) : marks [] t = t := Dialogue.bind_done t

theorem marks_marks (ms ms' : List μ) (t : Scoped μ α) :
    marks ms (marks ms' t) = marks (ms ++ ms') t := by
  unfold marks
  rw [Dialogue.map_eq_bind, Dialogue.bind_map, Dialogue.map_eq_bind]
  simp only [List.append_assoc]

@[simp] theorem andThen_ends (s : Scope) (a : α) (k : α → Scope → Scoped μ β) :
    (ends s a).andThen k = k a s := marks_nil _

@[simp] theorem andThen_fails (s : Scope) (fault : Fault) (k : α → Scope → Scoped μ β) :
    (fails s fault).andThen k = fails s fault := rfl

theorem anyway_marks (ms : List μ) (t : Scoped μ α) (k : Except Fault α → Scope → Scoped μ β) :
    (marks ms t).anyway k = marks ms (t.anyway k) := by
  show Dialogue.bind (Dialogue.map _ _) _ = Dialogue.map _ (Dialogue.bind _ _)
  rw [Dialogue.bind_map, Dialogue.map_bind]
  congr 1
  funext x
  exact (marks_marks ms x.1 _).symm

theorem andThen_marks (ms : List μ) (t : Scoped μ α) (k : α → Scope → Scoped μ β) :
    (marks ms t).andThen k = marks ms (t.andThen k) :=
  anyway_marks ms t _

theorem andThen_anyway (t : Scoped μ α) (k : Except Fault α → Scope → Scoped μ β)
    (l : β → Scope → Scoped μ γ) :
    (t.anyway k).andThen l = t.anyway fun x s => (k x s).andThen l := by
  show Dialogue.bind (Dialogue.bind _ _) _ = Dialogue.bind _ _
  rw [Dialogue.bind_assoc]
  congr 1
  funext x
  exact andThen_marks x.1 (k x.2.1 x.2.2) l

theorem andThen_andThen (t : Scoped μ α) (k : α → Scope → Scoped μ β) (l : β → Scope → Scoped μ γ) :
    (t.andThen k).andThen l = t.andThen fun a s => (k a s).andThen l := by
  refine (andThen_anyway t _ l).trans (congrArg _ (funext fun x => funext fun s => ?_))
  cases x <;> rfl

theorem after_bind {δ : Type} (s : Scope) (r : Running γ) (k : γ → Running δ) (l : δ → Scoped μ α) :
    after s (r >>= k) l = after s r fun c => after s (k c) l := by
  unfold after
  rw [Running.run_bind, Dialogue.bind_assoc]
  congr 1
  funext x
  cases x <;> rfl

@[simp] theorem after_pure (s : Scope) (c : γ) (k : γ → Scoped μ α) : after s (pure c) k = k c := rfl

theorem andThen_after (s : Scope) (r : Running α) (k : α → Scoped μ β)
    (l : β → Scope → Scoped μ γ) :
    (after s r k).andThen l = after s r fun a => (k a).andThen l := by
  show Dialogue.bind (Dialogue.bind _ _) _ = Dialogue.bind _ _
  rw [Dialogue.bind_assoc]
  congr 1
  funext x
  cases x <;> rfl

/-! ### What notes, outcome and scope are -/

variable {promise : Dialogue.Promise} {E : Fault → Prop} {P : γ → Prop}
  {Q : List μ × Except Fault α × Scope → Prop}

theorem ensures_after {s : Scope} {r : Running γ} {k : γ → Scoped μ α} (h : r.Upholds promise E P)
    (hok : ∀ c, P c → (k c).Ensures promise Q) (herror : ∀ f, E f → Q ([], .error f, s)) :
    (after s r k).Ensures promise Q := by
  refine Dialogue.Ensures.bind h fun x hx => ?_
  cases x with
  | ok c => exact hok c hx
  | error f => exact herror f hx

theorem ensures_anyway {P : List μ × Except Fault β × Scope → Prop} {t : Scoped μ β}
    {k : Except Fault β → Scope → Scoped μ α} (h : t.Ensures promise P)
    (hk : ∀ ms x s, P (ms, x, s) → (k x s).Ensures promise fun y => Q (ms ++ y.1, y.2)) :
    (t.anyway k).Ensures promise Q :=
  Dialogue.Ensures.bind h fun x hx => Dialogue.Ensures.map (hk x.1 x.2.1 x.2.2 hx)

end Scoped

end TaskGraph
