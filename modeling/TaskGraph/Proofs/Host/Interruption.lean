import TaskGraph.Proofs.Host.Tally

/-!
# Waits that are cut short

A strand that pauses, or that waits for what its run has detached, goes on in one of two ways: as one
that has found what it waited for, or as one that is cancelled. It does the latter only if its context
is cancelled, and once that is, it waits no more (`Host.Waiting.moves`). What other strands do in the
meantime, and when signals and cancellations come, makes no difference: these are the hosts that a host
may come to without a turn of the strand (`Host.Awaits`).
-/

set_option autoImplicit false

namespace TaskGraph

variable {α : Type}

/-- A wait of a strand: the context that it is in, how the strand goes on if that is cancelled, and how
it goes on else. -/
structure Wait (α : Type) where
  context : Context
  cut : Dialogue (Ending α)
  go : Dialogue (Ending α)

/-- Whether a strand is in a wait, with a context that is not cancelled, or goes on from it: because its
context is cancelled, or because it has found what it waited for. -/
def Phase.Waits (w : Wait α) (cancelled found : Prop) : Phase α → Prop
  | .ready code => code = w.cut ∧ cancelled ∨ code = w.go ∧ found
  | .pausing c _ next =>
    c = w.context ∧ next false = w.cut ∧ (next true = w.go ∧ found) ∧ ¬cancelled
  | .settling c _ next =>
    c = w.context ∧ next (.error (.cancelled "condition")) = w.cut ∧ next (.ok ()) = w.go ∧ ¬cancelled
  | _ => False

namespace Phase.Waits

variable {w : Wait α} {cancelled cancelled' found found' : Prop} {p : Phase α}

theorem mono (h : p.Waits w cancelled found) (imp : found → found') : p.Waits w cancelled found' := by
  cases p with
  | ready => exact h.imp_right fun h => ⟨h.1, imp h.2⟩
  | pausing => exact ⟨h.1, h.2.1, ⟨h.2.2.1.1, imp h.2.2.1.2⟩, h.2.2.2⟩
  | _ => exact h

/-- A strand that is woken because its context is cancelled. -/
theorem of_interrupted (h : p.Waits w cancelled found) {c : Context} {code : Dialogue (Ending α)}
    (hp : Host.interrupted p = some (c, code)) : c = w.context ∧ code = w.cut := by
  cases p with
  | pausing =>
    cases hp
    exact ⟨h.1, h.2.1⟩
  | settling =>
    cases hp
    exact ⟨h.1, h.2.1⟩
  | ready | delayed | joining => cases hp
  | calling | listening => exact h.elim

/-- More scopes are cancelled, but not that of a strand which waits still. -/
theorem of_kept (h : p.Waits w cancelled found) (imp : cancelled → cancelled')
    (hkept : ∀ c code, Host.interrupted p = some (c, code) → c = w.context → ¬cancelled') :
    p.Waits w cancelled' found := by
  cases p with
  | ready => exact h.imp_left fun h => ⟨h.1, imp h.2⟩
  | pausing => exact ⟨h.1, h.2.1, h.2.2.1, hkept _ _ rfl h.1⟩
  | settling => exact ⟨h.1, h.2.1, h.2.2.1, hkept _ _ rfl h.1⟩
  | delayed | calling | listening | joining => exact h.elim

/-- A strand that waits still is in a context that is not cancelled. -/
theorem not_cancelled (h : p.Waits w cancelled found) (hp : ∀ code, p ≠ .ready code) : ¬cancelled := by
  cases p with
  | ready code => exact absurd rfl (hp code)
  | pausing => exact h.2.2.2
  | settling => exact h.2.2.2
  | delayed | calling | listening | joining => exact h.elim

end Phase.Waits

namespace Host

variable {h h' : Host RunResult} {s : Strand RunResult}

/-! ## What may happen meanwhile -/

/-- The hosts that a host may come to without a turn of the strand of a number. -/
inductive Awaits (id : Nat) (h : Host RunResult) : Host RunResult → Prop where
  | refl : Awaits id h h
  | move {h' h'' : Host RunResult} {who : Option (Strand RunResult)} (awaits : Awaits id h h')
      (moves : h'.Moves who h'') (others : ∀ s, who = some s → s.id ≠ id) : Awaits id h h''

theorem Awaits.trans {id : Nat} {h'' : Host RunResult} (ha : Awaits id h h') (ha' : Awaits id h' h'') :
    Awaits id h h'' := by
  induction ha' with
  | refl => exact ha
  | move _ hmoves hothers ih => exact ih.move hmoves hothers

/-- A host that goes on by itself without a turn of a strand. -/
theorem awaits_run {id n : Nat}
    (hothers : ∀ i < n, ∀ s, (h.run i).next? = some s → s.id ≠ id) : Awaits id h (h.run n) := by
  induction n generalizing h with
  | zero => exact .refl
  | succ n ih =>
    have hfirst := hothers 0 (Nat.succ_pos n)
    have hlater (i : Nat) (hi : i < n) := hothers (i + 1) (Nat.succ_lt_succ hi)
    unfold Host.run at hlater ⊢
    split
    · exact .refl
    · next hover =>
      split
      · next h' hstep =>
        simp only [if_neg hover, hstep] at hlater
        exact (Awaits.refl.move (moves_of_advance hstep) hfirst).trans (ih hlater)
      · exact .refl

theorem later_moves {who : Option (Strand RunResult)} (hmoves : h.Moves who h') : h.Later h' := by
  cases hmoves with
  | turn => exact later_stepStrand ..
  | @keep time a =>
    have hstruck := later_of_core (core_strike { h with now := max h.now time } time a)
    have hkept := later_keep ({ h with now := max h.now time }.strike time a) a
    exact ⟨Nat.le_trans hstruck.fresh hkept.fresh, Nat.le_trans hstruck.runs hkept.runs⟩
  | occur => exact later_keep ..
  | suggest | unlimited => exact ⟨Nat.le_refl _, Nat.le_refl _⟩

/-! ## Strands that wait -/

/-- Whether the strand of a number, if it is there, is in a wait or goes on from it. -/
def Waiting (id : Nat) (w : Wait RunResult) (found : Prop) (h : Host RunResult) : Prop :=
  h.Every fun i _ p => i = id → p.Waits w (h.isCancelled w.context = true) found

section

variable {id : Nat} {w : Wait RunResult} {found found' : Prop}

theorem isCancelled_of_cancelled (heq : h'.cancelled = h.cancelled) (c : Context) :
    h'.isCancelled c = h.isCancelled c := by
  unfold isCancelled
  rw [heq]

theorem Waiting.mono (hw : h.Waiting id w found) (imp : found → found') : h.Waiting id w found' :=
  Every.mono hw fun _ _ _ hp hi => (hp hi).mono imp

/-- A change that cancels no scope. -/
theorem Waiting.of_every (heq : h'.cancelled = h.cancelled)
    (hw : h'.Every fun i _ p => i = id → p.Waits w (h.isCancelled w.context = true) found) :
    h'.Waiting id w found := by
  unfold Waiting
  rwa [isCancelled_of_cancelled heq]

theorem Waiting.of_strands (hw : h.Waiting id w found) (hstrands : h'.strands = h.strands)
    (heq : h'.cancelled = h.cancelled) : h'.Waiting id w found :=
  .of_every heq (Every.of_strands hw hstrands)

/-- A cancellation wakes the strand if its context is cancelled then. -/
theorem Waiting.cancel (hw : h.Waiting id w found) (scope : Nat) :
    (h.cancel scope).Waiting id w found := by
  refine Every.cancels hw scope (fun i j p c code hp hint hcancelled hi => ?_)
    fun i j p hp hkept hi => ?_
  · obtain ⟨rfl, rfl⟩ := (hp hi).of_interrupted hint
    exact .inl ⟨rfl, hcancelled⟩
  · refine (hp hi).of_kept (isCancelled_cancel_of scope) fun c code hint hcontext => ?_
    rw [← hcontext]
    exact Bool.eq_false_iff.1 (hkept c code hint)

theorem waits_look (hlook : h.inFlight w.context.run = 0 → found) {i : Nat} (c : Context) (due : Nat)
    (next : Except Fault Unit → Dialogue (Ending RunResult)) {cancelled : Prop}
    (hp : i = id → (Phase.settling c due next).Waits w cancelled found) :
    (h.inFlight c.run = 0 → i = id → (Phase.ready (next (.ok ()))).Waits w cancelled found) ∧
      ∀ due', i = id → (Phase.settling c due' next).Waits w cancelled found := by
  refine ⟨fun hrest hi => ?_, fun _ => hp⟩
  obtain ⟨rfl, -, hgo, -⟩ := hp hi
  exact .inr ⟨hgo, hlook hrest⟩

theorem Waiting.stopBranches (hw : h.Waiting id w found) (branches : List Nat) :
    (h.stopBranches s branches).Waiting id w found := by
  unfold Host.stopBranches
  generalize (branches.filterMap fun i => s.branches[i]?) = scopes
  induction scopes generalizing h with
  | nil => exact hw
  | cons scope scopes ih => exact ih (hw.cancel scope)

theorem Waiting.stepStrand (hw : h.Waiting id w found) (hborn : id < h.fresh)
    (hlook : h.inFlight w.context.run = 0 → found) (hother : s.id ≠ id) :
    (h.stepStrand s).Waiting id w found := by
  have hturned : (h.turned s).Waiting id w found := hw.of_strands rfl rfl
  unfold Host.stepStrand
  split
  · next ending _ =>
    refine .of_every (cancelled_conclude (h.turned s) s ending) ?_
    exact every_conclude (fun _ _ _ _ _ _ hp hi => (hp hi).elim)
      (Every.mono hturned fun _ _ _ hp _ => hp)
  · next q next _ =>
    by_cases hstops : ∃ branches, q = .stop branches
    · obtain ⟨branches, rfl⟩ := hstops
      have hstopped := hturned.stopBranches (s := s) branches
      exact Every.goOn (Every.mono hstopped fun _ _ _ hp _ => hp) fun hi => absurd hi hother
    · have hstop (branches : List Nat) : q ≠ .stop branches := fun heq => hstops ⟨branches, heq⟩
      refine .of_every (cancelled_perform (h.turned s) s q hstop next) ?_
      -- a strand that is added has another number
      exact Every.perform (h := h.turned s) (fun _ _ c due next' => waits_look hlook c due next')
        (fun i _ _ hle (hi : i = id) => absurd hborn (Nat.not_lt.2 (hi ▸ hle))) hturned
        (fun _ hi => absurd hi hother) q hstop next
  · exact .of_every rfl (Every.remove (Every.mono hturned fun _ _ _ hp _ => hp))

theorem Waiting.keep (hw : h.Waiting id w found) (hlook : h.inFlight w.context.run = 0 → found)
    {n : Nat} {a : Appointment RunResult} (ha : h.Keeps n a) : (h.keep a).Waiting id w found := by
  have hturn : ({ h with turn := none } : Host RunResult).Waiting id w found := hw.of_strands rfl rfl
  cases a with
  | strand s =>
    refine .of_every (cancelled_arrive h s) ?_
    refine Every.arrive (fun _ _ _ _ hp hi => (hp hi).elim) (fun _ _ _ _ _ hp hi => ?_)
      (fun _ _ _ _ _ _ _ hp hi => (hp hi).elim) (fun _ _ c due next => waits_look hlook c due next)
      hw (hw s ha)
    exact .inr (hp hi).2.2.1
  | beat b => exact hw.of_strands rfl rfl
  | occurrence o =>
    cases o with
    | signal name payload =>
      refine .of_every (cancelled_deliver { h with turn := none } name payload) ?_
      refine Every.deliver (fun i j b p c' taken b' p' hp hreceive hi => ?_)
        (fun _ _ c due next => waits_look hlook c due next) hturn name payload
      -- a strand in such a wait takes no signals
      cases p with
      | settling | pausing | ready => cases hreceive
      | delayed | calling | listening | joining => exact (hp hi).elim
    | cancel => exact hturn.cancel rootScope
  | deadline v =>
    have hleft : (((h.strands.filter (·.job == mainJob)).map Strand.id).foldl remove h).Waiting id w
        found := by
      generalize (h.strands.filter (·.job == mainJob)).map Strand.id = ids
      clear hturn ha hlook
      induction ids generalizing h with
      | nil => exact hw
      | cons i ids ih =>
        exact ih (.of_every rfl (Every.remove (Every.mono hw fun _ _ _ hp _ => hp)))
    exact hleft.cancel rootScope

/-- A strand waits as long as it has not found what it waits for and is not cancelled. -/
theorem Waiting.moves (hw : h.Waiting id w found) (hborn : id < h.fresh)
    (hlook : h.inFlight w.context.run = 0 → found) {who : Option (Strand RunResult)}
    (hmoves : h.Moves who h') (hothers : ∀ s, who = some s → s.id ≠ id) :
    h'.Waiting id w found := by
  cases hmoves with
  | @turn s => exact hw.stepStrand hborn hlook (hothers s rfl)
  | @keep time a ha =>
    have hcore : ({ h with now := max h.now time }.strike time a).core = h.core := core_strike _ _ a
    have hstruck : ({ h with now := max h.now time }.strike time a).Waiting id w found :=
      hw.of_strands (strands_strike _ _ a) (by cases a <;> rfl)
    refine hstruck.keep (fun hrest => hlook ?_) (keeps_strike ha)
    rwa [inFlight_of_core hcore] at hrest
  | occur o => exact hw.keep (n := 0) hlook trivial
  | suggest | unlimited => exact hw.of_strands rfl rfl

end

end Host

end TaskGraph
