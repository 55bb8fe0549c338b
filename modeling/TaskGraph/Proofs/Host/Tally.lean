import TaskGraph.Proofs.Host.Bound

/-!
# How many graphs are in flight

A tally beside a host counts, for each run, the graphs that it has detached and those of them that have
finished (`Host.Tallied`); it changes with the turns in which a strand detaches a graph and in which the
strand of such a graph ends, in whatever way the graph has come to its end. The number that the host
keeps for a run is the difference of the two, in whatever order strands take turns and time passes
(`Host.Tallied.balanced`): a graph is detached only in a run that there is, and ends once.
-/

set_option autoImplicit false

namespace TaskGraph

open Running (Any)

variable {α : Type}

/-! ## Tallies -/

/-- The number of graphs that a strand detaches in a run with its turn. -/
def Phase.detaches (run : Nat) : Phase α → Nat
  | .ready (.ask q _) => q.detaches run
  | _ => 0

/-- The number of graphs that a run has detached and that end with the turn of a strand. -/
def Phase.finishes (run : Nat) : Phase α → Nat
  | .ready (.done ending) => ending.finishes run
  | _ => 0

/-- How many graphs each run has detached, and how many of those have finished. -/
structure Tally where
  started : Nat → Nat
  finished : Nat → Nat

namespace Tally

/-- The tally at the start. -/
def blank : Tally := ⟨fun _ => 0, fun _ => 0⟩

/-- The tally after a move of a host, in which a strand may take a turn. -/
def after (t : Tally) : Option (Strand α) → Tally
  | some s => ⟨fun run => t.started run + s.phase.detaches run,
      fun run => t.finished run + s.phase.finishes run⟩
  | none => t

end Tally

/-- A pact that is kept by all programs, whatever their handlers do. -/
def Pact.free (p : Program) : Pact p where
  faults := Any
  scopes := Any
  starts _ _ := True
  enters _ _ _ _ := True
  roots _ _ _ := True
  results := Any
  leaves _ _ := trivial
  enters_mono _ _ := trivial
  within _ _ := trivial
  calls _ _ _ := trivial
  started _ _ _ := trivial
  resumed _ _ _ _ := trivial
  forged _ _ := trivial
  roots_enters _ := trivial
  roots_resumed _ _ _ _ := trivial
  roots_forged _ _ := trivial
  value _ _ _ := trivial
  failure _ := trivial

namespace Host

/-! ## Moves -/

theorem inFlight_keep (h : Host α) (a : Appointment α) (run : Nat) :
    (h.keep a).inFlight run = h.inFlight run := by
  cases a with
  | strand s => exact inFlight_of_core (core_arrive h s) run
  | beat b => exact inFlight_record ..
  | occurrence o =>
    cases o with
    | signal name payload => exact inFlight_deliver { h with turn := none } name payload run
    | cancel => exact inFlight_of_core (core_cancel { h with turn := none } rootScope) run
  | deadline v =>
    exact inFlight_of_core ((core_cancel ..).trans (core_foldl core_remove ..)) run

variable {e : Setting} {around : Surroundings} {input : Json} {env : Members}
  {A : Pact e.program} {k : Kinship} {h h' : Host RunResult} {s : Strand RunResult} {t : Tally}

/-- With the turn of a strand, what is in flight changes by what the strand detaches and by what has
finished. -/
theorem Bound.inFlight_stepStrand (hb : Bound A k h) (hs : s ∈ h.strands) (run : Nat) :
    (h.stepStrand s).inFlight run + s.phase.finishes run = h.inFlight run + s.phase.detaches run := by
  have hturned : Bound A k (h.turned s) := hb.of_core rfl hb.strands (.refl _)
  unfold Host.stepStrand
  cases hphase : s.phase with
  | ready code =>
    cases code with
    | ask q next => exact inFlight_perform (h.turned s) s q next (hturned.lt_size hs hphase)
    | done ending =>
      have hle : ending.finishes run ≤ h.inFlight run := by
        refine Nat.le_trans ?_ (hb.counted run)
        obtain ⟨l, -, hends⟩ := hb.binds hs hphase
        cases ending with
        | detached r =>
          rw [Ending.finishes_detached]
          split
          · next heq =>
            -- the strand itself is one of those that are counted
            refine List.countP_pos_iff.2 ⟨s.id, mem_ids.2 ⟨s, hs, rfl⟩, ?_⟩
            have horigin : k.origin s.id = some r := hends
            simp [horigin, heq]
          · exact Nat.zero_le _
        | result | branch => exact Nat.zero_le _
      have hconclude := inFlight_conclude (h.turned s) s ending run
      have hsame : (h.turned s).inFlight run = h.inFlight run := rfl
      show ((h.turned s).conclude s ending).inFlight run + ending.finishes run = h.inFlight run
      omega
  | _ => rfl

/-- With any move, what is in flight changes as the tally does. -/
theorem Bound.balanced_moves (hb : Bound A k h) {who : Option (Strand RunResult)}
    (hmoves : h.Moves who h') {run : Nat} (ht : h.inFlight run + t.finished run = t.started run) :
    h'.inFlight run + (t.after who).finished run = (t.after who).started run := by
  cases hmoves with
  | @turn s hs =>
    have hturn := hb.inFlight_stepStrand hs run
    show _ + (t.finished run + s.phase.finishes run) = t.started run + s.phase.detaches run
    omega
  | @keep time a =>
    rw [inFlight_keep, inFlight_of_core (core_strike _ time a)]
    exact ht
  | occur o =>
    rw [inFlight_keep]
    exact ht
  | suggest | unlimited => exact ht

/-! ## Runs -/

/-- The hosts that a run of a program may come to, whichever of the strands that can go on takes a turn
and whenever something happens, each with the tally that it has come to by then. -/
inductive Tallied (e : Setting) (around : Surroundings) (input : Json) (env : Members) :
    Tally → Host RunResult → Prop where
  | start (wrapper : Wrapper) (signals : List (Option Nat × String × Json)) (at? : Option Nat)
      (workflow : String) (limit : Option Duration) :
      Tallied e around input env .blank ((((start e around wrapper
        (programRun e.program input env).run).withSignals signals).withCancellation at?).withLimit
          workflow limit)
  | move {t : Tally} {h h' : Host RunResult} {who : Option (Strand RunResult)}
      (tallied : Tallied e around input env t h) (moves : h.Moves who h') :
      Tallied e around input env (t.after who) h'

/-- Every host that a run of a program comes to, with its turns and its clock in order, has a tally. -/
theorem Reaches.tallied (hh : Reaches e around input env h) :
    ∃ t, Tallied e around input env t h := by
  induction hh with
  | start wrapper signals at? workflow limit =>
    exact ⟨.blank, .start wrapper signals at? workflow limit⟩
  | advance _ horizon hstep ih =>
    obtain ⟨t, ht⟩ := ih
    exact ⟨_, ht.move (moves_of_advance hstep)⟩
  | suggest _ suggests suggestAfter ih =>
    obtain ⟨t, ht⟩ := ih
    exact ⟨_, ht.move (.suggest suggests suggestAfter)⟩
  | unlimited _ ih =>
    obtain ⟨t, ht⟩ := ih
    exact ⟨_, ht.move .unlimited⟩

/-- Every host with a tally is bound by the pact that all programs keep. -/
theorem Tallied.bound (ht : Tallied e around input env t h) :
    ∃ k, Bound (Pact.free e.program) k h := by
  induction ht with
  | start wrapper signals at? workflow limit =>
    exact ⟨.blank, bound_begun (Pact.free e.program)
      ⟨fun _ _ _ _ => Running.result_any _, fun _ _ _ _ => Running.result_any _⟩
      (fun _ _ _ _ => trivial) wrapper signals at? workflow limit⟩
  | move _ hmoves ih =>
    obtain ⟨k, hb⟩ := ih
    exact (hb.moves hmoves).imp fun _ => And.right

/-- At the start, nothing is in flight. -/
theorem inFlight_begun (wrapper : Wrapper) (signals : List (Option Nat × String × Json))
    (at? : Option Nat) (workflow : String) (limit : Option Duration) (run : Nat) :
    ((((Host.start e around wrapper (programRun e.program input env).run).withSignals
      signals).withCancellation at?).withLimit workflow limit).inFlight run = 0 := by
  have hstart : (Host.start e around wrapper (programRun e.program input env).run).inFlight run
      = 0 := by
    rw [inFlight_eq]
    cases run <;> rfl
  have hlimited (h : Host RunResult) : (h.withLimit workflow limit).inFlight run = h.inFlight run := by
    cases limit <;> rfl
  rw [hlimited]
  refine withCancellation_of (P := fun h => h.inFlight run = 0) ?_ (fun _ => id) ?_ at?
  · exact (inFlight_of_core (core_cancel ..) run).trans
  · exact withSignals_of (fun h name payload => (inFlight_deliver h name payload run).trans)
      (fun _ _ => id) hstart signals

/-- In whatever order its strands take turns, a run has as many graphs in flight as it has detached and as
have not finished. -/
theorem Tallied.balanced (ht : Tallied e around input env t h) (run : Nat) :
    h.inFlight run + t.finished run = t.started run := by
  induction ht with
  | start wrapper signals at? workflow limit => exact inFlight_begun ..
  | move hbefore hmoves ih =>
    obtain ⟨k, hb⟩ := hbefore.bound
    exact hb.balanced_moves hmoves ih

end Host

end TaskGraph
