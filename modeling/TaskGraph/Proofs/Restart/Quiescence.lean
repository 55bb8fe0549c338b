import TaskGraph.Proofs.Host.Interruption
import TaskGraph.Proofs.World

/-!
# Runs are restarted at rest

Before a run asks for a restart, it waits until nothing that it has detached is in flight. A strand that
waits for this may be told at different times: at once, when it looks again, when a signal is delivered
or a query is answered, or when it is cancelled. Only the strand that has opened a run detaches graphs in
it, so what is in flight only becomes less in the meantime (`Host.Watched.moves`), and it is nothing
still when the strand goes on (`Host.settled_at_rest`).

No matter what a run is answered, if it ends in a request for a restart that it was not answered with,
this is right after it was told to be at rest (`Sequence.rests_runGraph`).
-/

set_option autoImplicit false

namespace TaskGraph

open Running (Any Result)

variable {α : Type}

/-! ## Waiting for rest -/

namespace Host

variable {e : Setting} {around : Surroundings} {input : Json} {env : Members}
  {h h' : Host RunResult} {s : Strand RunResult} {t : Tally}

/-- What holds of a host while the strand of a number waits for a run that it has opened to come to
rest. -/
structure Watched (e : Setting) (id : Nat) (w : Wait RunResult) (h : Host RunResult) : Prop where
  own : ∃ k, Bound (Pact.free e.program) k h ∧ w.context.run < h.runs.size ∧
    k.opener w.context.run = id
  born : id < h.fresh
  waiting : h.Waiting id w (h.inFlight w.context.run = 0)

/-- The wait of a strand for the run of a context to come to rest. -/
def restWait (c : Context) (next : Except Fault Unit → Dialogue (Ending RunResult)) : Wait RunResult :=
  ⟨c, next (.error (.cancelled "condition")), next (.ok ())⟩

section

variable {id : Nat} {w : Wait RunResult}

/-- A strand detaches graphs in no run that another one has opened. -/
theorem Bound.detaches_eq_zero {A : Pact e.program} {k : Kinship} (hb : Bound A k h)
    (hs : s ∈ h.strands) {run : Nat} (hother : k.opener run ≠ s.id) : s.phase.detaches run = 0 := by
  cases hphase : s.phase with
  | ready code =>
    cases code with
    | ask q next =>
      obtain ⟨l, hl, hq, -⟩ := hb.binds hs hphase
      cases q with
      | detach c name input scope =>
        refine if_neg ?_
        rintro rfl
        exact hother (hl.own c.run hq.1).2
      | _ => rfl
    | done ending => rfl
  | _ => rfl

/-- While other strands take turns and time passes, what is in flight of the run only becomes less. -/
theorem Watched.moves (hw : Watched e id w h) {who : Option (Strand RunResult)}
    (hmoves : h.Moves who h') (hothers : ∀ s, who = some s → s.id ≠ id) : Watched e id w h' := by
  obtain ⟨k, hb, hrun, hopener⟩ := hw.own
  obtain ⟨k', hk, hb'⟩ := hb.moves hmoves
  have hlater := later_moves hmoves
  have hrest (hrest : h.inFlight w.context.run = 0) : h'.inFlight w.context.run = 0 := by
    cases hmoves with
    | @turn s hs =>
      -- another strand detaches nothing in the run, so the number does not grow
      have hcount := hb.inFlight_stepStrand hs w.context.run
      rw [hb.detaches_eq_zero hs (hopener ▸ (hothers s rfl).symm)] at hcount
      omega
    | keep => rwa [inFlight_keep, inFlight_of_core (core_strike ..)]
    | occur => rwa [inFlight_keep]
    | suggest | unlimited => exact hrest
  exact ⟨⟨k', hb', Nat.lt_of_lt_of_le hrun hlater.runs, (hk.opener _ hrun).trans hopener⟩,
    Nat.lt_of_lt_of_le hw.born hlater.fresh, (hw.waiting.mono hrest).moves hw.born hrest hmoves hothers⟩

theorem Awaits.watched (ha : Awaits id h h') (hw : Watched e id w h) : Watched e id w h' := by
  induction ha with
  | refl => exact hw
  | move _ hmoves hothers ih => exact ih.moves hmoves hothers

variable {c : Context} {next : Except Fault Unit → Dialogue (Ending RunResult)}

/-- A strand that asks for a run to come to rest is told so at once, or waits. -/
theorem watched_settle (ht : Tallied e around input env t h) (hs : s ∈ h.strands)
    (hphase : s.phase = .ready (.ask (.settle c) next)) :
    Watched e s.id (restWait c next) (h.stepStrand s) := by
  obtain ⟨k, hb⟩ := ht.bound
  obtain ⟨l, hl, hown, -⟩ := hb.binds hs hphase
  obtain ⟨hrun, hopener⟩ := hl.own c.run hown
  have hlater := later_stepStrand h s
  obtain ⟨k', hk, hb'⟩ := hb.stepStrand hs
  refine ⟨⟨k', hb', Nat.lt_of_lt_of_le hrun hlater.runs, (hk.opener c.run hrun).trans hopener⟩,
    Nat.lt_of_lt_of_le (hb.lt_fresh hs) hlater.fresh, ?_⟩
  have hcount := hb.inFlight_stepStrand hs c.run
  rw [hphase] at hcount
  have hcount : (h.stepStrand s).inFlight c.run = h.inFlight c.run := hcount
  have hstep : h.stepStrand s = (h.turned s).settle s c next := by
    unfold Host.stepStrand
    rw [hphase]
    rfl
  refine .of_every (h := h) ?_ ?_
  · rw [hstep]
    exact cancelled_perform (h.turned s) s (.settle c) nofun next
  · show (h.stepStrand s).Every fun i _ p => i = s.id → p.Waits (restWait c next) _
      ((h.stepStrand s).inFlight c.run = 0)
    rw [hcount, hstep]
    have hothers : (h.turned s).Every fun i _ p => i ≠ s.id → i = s.id →
        p.Waits (restWait c next) (h.isCancelled c = true) (h.inFlight c.run = 0) :=
      fun _ _ hne heq => absurd heq hne
    -- the host answers a scope that is cancelled and a run at rest at once, and lets all else wait
    unfold settle
    split
    · next hcancelled => exact hothers.goOn fun _ => .inl ⟨rfl, hcancelled⟩
    · next hcancelled =>
      split
      · next hrest => exact hothers.goOn fun _ => .inr ⟨rfl, hrest⟩
      · exact hothers.wait fun _ => ⟨rfl, rfl, rfl, hcancelled⟩

/-- A strand that waits for a run to come to rest goes on if its context is cancelled, or if nothing
that the run has detached is in flight. -/
theorem waits_settle (ht : Tallied e around input env t h) (hs : s ∈ h.strands)
    (hphase : s.phase = .ready (.ask (.settle c) next)) (ha : Awaits s.id (h.stepStrand s) h')
    {s' : Strand RunResult} (hs' : s' ∈ h'.strands) (hid : s'.id = s.id) :
    s'.phase.Waits (restWait c next) (h'.isCancelled c = true) (h'.inFlight c.run = 0) :=
  (ha.watched (watched_settle ht hs hphase)).waiting s' hs' hid

theorem settled_at_rest (ht : Tallied e around input env t h) (hs : s ∈ h.strands)
    (hphase : s.phase = .ready (.ask (.settle c) next)) (ha : Awaits s.id (h.stepStrand s) h')
    {s' : Strand RunResult} (hs' : s' ∈ h'.strands) (hid : s'.id = s.id)
    {code : Dialogue (Ending RunResult)} (hready : s'.phase = .ready code) :
    code = next (.error (.cancelled "condition")) ∨ code = next (.ok ()) ∧ h'.inFlight c.run = 0 := by
  have hwaits := waits_settle ht hs hphase ha hs' hid
  rw [hready] at hwaits
  exact hwaits.imp_left And.left

end

end Host

/-! ## Asking for a restart -/

/-- Whether an answer says that the run of a context has come to rest. -/
def Request.TellsRest (c : Context) : (q : Request) → q.Answer → Prop
  | .settle c', .ok () => c' = c
  | _, _ => False

/-- What is remembered of the requests before is whether the last one was answered so. -/
def Restart.resting (c : Context) : Dialogue.Law Prop :=
  ⟨fun _ _ => True, fun _ q x => q.TellsRest c x⟩

/-- Whether a computation that is not answered with a fault ends in it only right after it was told that
the run of a context has come to rest. -/
def Running.Rests (c : Context) (f : Fault) (r : Running α) : Prop :=
  ∀ rested, r.run.Abides (Restart.resting c) (Request.Within (· ≠ f))
    (fun rested x => x = .error f → rested) rested

namespace Running.Rests

variable {c : Context} {f : Fault} {β : Type} {P : α → Prop} {r : Running α} {k : α → Running β}

/-- What comes behind a computation that does not end in the fault. -/
theorem bind (h : r.Upholds (Request.Within (· ≠ f)) (· ≠ f) P) (hk : ∀ a, P a → Rests c f (k a)) :
    Rests c f (r >>= k) := by
  intro rested
  rw [run_bind]
  unfold Upholds at h
  -- along the answers, what was remembered before the last request does not matter
  generalize r.run = d at h
  induction d generalizing rested with
  | done x =>
    cases x with
    | ok a => exact hk a h rested
    | error g => exact fun heq => absurd (Except.error.inj heq) h
  | ask q next ih => exact ⟨trivial, fun x hx => ih x _ (h x hx)⟩

theorem of_upholds (h : r.Upholds (Request.Within (· ≠ f)) (· ≠ f) P) : Rests c f r := by
  have hbound : Rests c f (r >>= fun a => pure a) := .bind h fun _ _ _ heq => nomatch heq
  rwa [bind_pure] at hbound

end Running.Rests

namespace Sequence

variable {e : Setting} {c : Context} {f : Fault}

/-- A run that is left asks for a restart once it was told to be at rest. -/
theorem rests_suspend (hf : f.asksRestart = true) (entry id : String) (input : Json) (s : Scope) :
    (Restart.suspend c entry id input s : Running Scope).Rests c f := by
  refine fun rested => ⟨trivial, fun x _ => ?_⟩
  cases x with
  | ok u => exact fun _ => rfl
  | error g =>
    intro heq
    cases heq
    cases hf

/-- The rest of a list asks for a restart once the run was told to be at rest. -/
theorem rests_run (hf : f.asksRestart = true) (entry : Option String) (input : Json)
    (children : Children) (first : Bool) (pending : Option String) (s : Scope) :
    (run e c entry input first pending children s).Rests c f := by
  -- none of the faults of the list itself is the request for a restart
  have hE (g : Fault) (hg : g.asksRestart = false) : g ≠ f := by
    rintro rfl
    rw [hf] at hg
    cases hg
  induction children generalizing first pending s with
  | nil =>
    rw [run_nil]
    cases pending with
    | none => exact .of_upholds (P := Any) (.pure trivial)
    | some target => exact .of_upholds (P := Any) (.throw (hE _ rfl))
  | cons child rest ih =>
    rw [run_cons]
    refine .bind (P := Any) ?_ fun leaves _ => ?_
    · unfold Sequence.leaves
      split
      · exact .ask fun _ _ => trivial
      · exact .pure trivial
    · cases leaves with
      | true => exact rests_suspend hf (entry.getD "") child.id input s
      | false =>
        simp only [Bool.false_eq_true, if_false]
        rcases Restart.resumption child.id child.replayed entry.isSome s with ⟨r, s⟩
        dsimp only
        split
        · exact ih false pending s
        · have hturn : (Congruence.upholding (p := e.program) hE).Related (Congruence.Turns s child.base.next)
              (turn e c r (embody e c input child) s) (turn e c r (embody e c input child) s) :=
            Congruence.related_turn _ r child.id child.name child.base child.replayed
              (Congruence.upholds_step hE e c child.name child.base input child.action s)
          rw [visit_eq_turn]
          refine .bind hturn fun t _ => ?_
          cases t with
          | stop s' => exact .of_upholds (P := Any) (.pure trivial)
          | next pending s' => exact ih false pending s'

/-- A run of a graph that is not answered with a request for a restart ends in this request only right
after it was told to be at rest. -/
theorem rests_runGraph (hf : f.asksRestart = true) (g : Graph) (input : Json) (s : Scope) :
    (runGraph e c g input s).Rests c f :=
  rests_run hf (some g.name) input g.children true none s

end Sequence

/-! ## Hosts -/

/-- What holds of a host that a run of a program may come to, with its tally: what is in flight in a run
is what the run has detached and what has not finished, and once a strand goes on that has waited for a
run to come to rest and was not cancelled, all that the run has detached has finished. -/
structure Host.Restful (e : Setting) (around : Surroundings) (input : Json) (env : Members) (t : Tally)
    (h : Host Host.RunResult) : Prop where
  balanced : ∀ run, h.inFlight run + t.finished run = t.started run
  settled : ∀ s ∈ h.strands, ∀ c next, s.phase = .ready (.ask (.settle c) next) →
    ∀ h', Host.Awaits s.id (h.stepStrand s) h' → ∀ s' ∈ h'.strands, s'.id = s.id →
      ∀ code, s'.phase = .ready code → code = next (.error (.cancelled "condition")) ∨
        code = next (.ok ()) ∧ h'.inFlight c.run = 0 ∧
          ∃ t', Host.Tallied e around input env t' h' ∧ t'.started c.run = t'.finished c.run

theorem Host.Tallied.awaits {e : Setting} {around : Surroundings} {input : Json} {env : Members}
    {t : Tally} {id : Nat} {h h' : Host Host.RunResult} (ht : Tallied e around input env t h)
    (ha : h.Awaits id h') : ∃ t', Tallied e around input env t' h' := by
  induction ha with
  | refl => exact ⟨t, ht⟩
  | move _ hmoves _ ih =>
    obtain ⟨t', ht'⟩ := ih
    exact ⟨_, ht'.move hmoves⟩

theorem Host.Tallied.restful {e : Setting} {around : Surroundings} {input : Json} {env : Members}
    {t : Tally} {h : Host Host.RunResult} (ht : Tallied e around input env t h) :
    h.Restful e around input env t where
  balanced := ht.balanced
  settled s hs c next hphase h' ha s' hs' hid code hready := by
    refine (settled_at_rest ht hs hphase ha hs' hid hready).imp_right fun ⟨hcode, hrest⟩ => ?_
    obtain ⟨t', ht'⟩ := (ht.move (.turn hs (.inr ⟨_, hphase⟩))).awaits ha
    have hbalanced := ht'.balanced c.run
    exact ⟨hcode, hrest, t', ht', by omega⟩

/-! ## Views of a host -/

namespace Host

variable {h : Host RunResult} {id run : Nat}

/-- The strand whose turn it is and the run that it wants to come to rest, if it does. -/
def settling? (h : Host RunResult) : Option (Nat × Nat) :=
  h.next?.bind fun s => match s.phase with
    | .ready (.ask (.settle c) _) => some (s.id, c.run)
    | _ => none

theorem asks_of_settling? (hsettling : h.settling? = some (id, run)) :
    ∃ s, h.next? = some s ∧ s.id = id ∧
      ∃ c next, s.phase = .ready (.ask (.settle c) next) ∧ c.run = run := by
  obtain ⟨s, hs, hasks⟩ := Option.bind_eq_some_iff.1 hsettling
  split at hasks
  next c next hphase =>
    cases hasks
    exact ⟨s, hs, rfl, c, next, hphase, rfl⟩
  next => cases hasks

/-- Whether the strand of a number can go on. -/
def isReady (h : Host RunResult) (id : Nat) : Bool :=
  h.strands.any fun s => s.id == id && match s.phase with
    | .ready _ => true
    | _ => false

theorem ready_of_isReady (hready : h.isReady id = true) :
    ∃ s ∈ h.strands, s.id = id ∧ ∃ code, s.phase = .ready code := by
  obtain ⟨s, hs, hcan⟩ := List.any_eq_true.1 hready
  obtain ⟨hid, hphase⟩ := (Bool.and_eq_true ..).mp hcan
  split at hphase
  next code hready => exact ⟨s, hs, beq_iff_eq.1 hid, code, hready⟩
  next => cases hphase

/-- A host without a result goes on with the turn of the next strand. -/
theorem run_of_next? {s : Strand RunResult} (hs : h.next? = some s) (hover : h.result.isSome = false)
    (n : Nat) : h.run (n + 1) = (h.stepStrand s).run n := by
  rw [Host.run, hover, Host.advance, hs]
  rfl

end Host

/-! ## A graph in the background -/

namespace Errand

/-- Starts a graph and does not wait for it. -/
def process : ProcessRun := ⟨.workflow ⟨"later", none⟩, false⟩

/-- A document that starts a list of its own in the background, and then runs it. -/
def workflow : Workflow :=
  ⟨⟨"root", none, none, none⟩, none, none,
    [Pair.task "start" none (.run process),
      Pair.task "later" none (.block [Pair.task "x" none (.call (.activity ⟨"x", []⟩))])]⟩

/-- The list. -/
def later : Children :=
  [⟨"x-0", "x", ⟨none, none, none, none, none, []⟩, false, .call (.activity ⟨"x", []⟩) none⟩]

/-- What the document is compiled to. -/
def root : Children :=
  [⟨"start-0", "start", ⟨none, none, none, none, none, []⟩, false, .run process none⟩,
    ⟨"later-1", "later", ⟨none, none, none, none, none, []⟩, true, .block later⟩]

def setting : Setting :=
  ⟨⟨"root", [⟨"later", later, none⟩, ⟨"root", root, none⟩], .standard⟩, .ofSettings .standard,
    CallSettings.standard.timeout⟩

theorem compiled : Program.compile Kinds.standard .standard workflow = .ok setting.program := rfl

/-- The host of a run, after some steps. -/
def host (steps : Nat) : Host Host.RunResult :=
  (Host.start setting .ready .passThrough (Host.programRun setting.program .null []).run).run steps

theorem reaches_host (steps : Nat) : Host.Reaches setting .ready .null [] (host steps) :=
  (Host.Reaches.start .passThrough [] none "root" none).run steps

/-- The first run waits for the list, and goes on when the list has finished. -/
theorem observed :
    (host 9).settling? = some (0, 1) ∧ (host 9).inFlight 1 = 1 ∧ (host 9).result.isSome = false ∧
      (∀ i < 13, ∀ id ∈ ((host 9).run (i + 1)).next?.map Strand.id, id ≠ 0) ∧
      ((host 9).run 14).isReady 0 = true ∧ ((host 9).run 14).inFlight 1 = 0 := by
  decide +kernel

end Errand

namespace Restart

/-- Restarts are requested at rest. In whatever order the strands of a run of a program take turns, time
passes, and signals and cancellations come, what is in flight in a run is what the run has detached and
what has not finished, and a strand that has waited for a run to come to rest goes on without being
cancelled only if all that the run has detached has finished. A run of a graph ends in a request for a
restart only right after its wait for rest, at which it was not cancelled, unless something has answered
it with this very request. -/
theorem requested_at_rest (e : Setting) :
    (∀ (around : Surroundings) (input : Json) (env : Members) (h : Host Host.RunResult),
      (Host.Reaches e around input env h → ∃ t, Host.Tallied e around input env t h) ∧
        ∀ t, Host.Tallied e around input env t h → h.Restful e around input env t) ∧
      ∀ (c : Context) (g : Graph) (input : Json) (s : Scope) (f : Fault), f.asksRestart = true →
        (Sequence.runGraph e c g input s).Rests c f :=
  ⟨fun _ _ _ _ => ⟨fun hh => hh.tallied, fun _ ht => ht.restful⟩,
    fun _ g input s _ hf => Sequence.rests_runGraph hf g input s⟩

/-- A document that starts a list in the background: its run waits while the list is in flight, and goes
on when it has finished. -/
theorem requested_at_rest_of_errand :
    Program.compile Kinds.standard .standard Errand.workflow = .ok Errand.setting.program ∧
      ∃ t, Host.Tallied Errand.setting .ready .null [] t (Errand.host 9) ∧
        1 + t.finished 1 = t.started 1 ∧
        ∃ s ∈ (Errand.host 9).strands, ∃ c next, s.phase = .ready (.ask (.settle c) next) ∧
          ∃ h', ((Errand.host 9).stepStrand s).Awaits s.id h' ∧ h'.inFlight 1 = 0 ∧
            ∃ code, (code = next (.error (.cancelled "condition")) ∨ code = next (.ok ()) ∧
              h'.inFlight c.run = 0 ∧ ∃ t', Host.Tallied Errand.setting .ready .null [] t' h' ∧
                t'.started c.run = t'.finished c.run) ∧
              (Sequence.runGraph Errand.setting c ⟨"root", Errand.root, none⟩ .null
                (.start .null [])).Rests c (.continueAsNew "root" .null (.start .null [])) := by
  obtain ⟨hsettling, hflight, hover, hothers, hready, hrest⟩ := Errand.observed
  obtain ⟨hhosts, hruns⟩ := requested_at_rest Errand.setting
  obtain ⟨hreaches, htallied⟩ := hhosts .ready .null [] (Errand.host 9)
  obtain ⟨t, ht⟩ := hreaches (Errand.reaches_host 9)
  have hrestful := htallied t ht
  have hbalanced := hrestful.balanced 1
  rw [hflight] at hbalanced
  obtain ⟨s, hs, hid, c, next, hphase, -⟩ := Host.asks_of_settling? hsettling
  have hmem := Host.mem_of_next? hs
  have hrun (n : Nat) : (Errand.host 9).run (n + 1) = ((Errand.host 9).stepStrand s).run n :=
    Host.run_of_next? hs hover n
  have hawaits : ((Errand.host 9).stepStrand s).Awaits s.id (((Errand.host 9).stepStrand s).run 13) :=
    Host.awaits_run fun i hi s' hs' => by
      rw [← hrun] at hs'
      exact hid ▸ hothers i hi s'.id (by rw [hs']; rfl)
  rw [hrun 13] at hready hrest
  obtain ⟨s', hs', hid', code, hcode⟩ := Host.ready_of_isReady hready
  exact ⟨Errand.compiled, t, ht, hbalanced, s, hmem, c, next, hphase, _, hawaits,
    hrest, code, hrestful.settled s hmem c next hphase _ hawaits s' hs' (hid'.trans hid.symm) code hcode,
    hruns c ⟨"root", Errand.root, none⟩ .null (.start .null []) _ rfl⟩

end Restart

end TaskGraph
