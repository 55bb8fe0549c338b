import TaskGraph.Proofs.Termination.Budget
import TaskGraph.Proofs.Termination.Rest

/-!
# Programs that finish

A program whose graphs do not lead back to themselves finishes. Two facts carry this, and neither depends
on the order in which strands take turns, on the time, or on when a restart is suggested.

* A run takes finitely many turns (`Host.finite_turns_of_reaches`). Every turn uses up some of the budget
  of the strands, and the budget of a graph is bounded as graphs lead on to lower ones only.
* When no strand can go on, one of them waits for something from outside (`Host.Concerted.outside`). So a
  run whose handlers, timers and signals come at some time (`Host.Attended`) is not stuck before it has its
  result.

Only the sequences may ask for restarts. A request for a restart that comes from a handler is followed from
within the graph that made the call, so a try whose body makes one call runs its own graph inside itself,
over and over (`Program.forged_restart_never_ends`).
-/

set_option autoImplicit false

namespace TaskGraph

namespace Host

variable {e : Setting} {around : Surroundings} {input : Json} {env : Members}
  {hosts : ℕ → Host RunResult} {who : ℕ → Option (Strand RunResult)}

/-! ## Runs that are attended -/

/-- Whether in a sequence of hosts, as long as the result is not there, a strand goes on at some time if
one can, and what strands wait for from outside comes at some time: a strand that waits for a handler, for
its time or for signals can go on later. -/
structure Attended (hosts : ℕ → Host RunResult) (who : ℕ → Option (Strand RunResult)) : Prop where
  turns : ∀ n, (hosts n).result = none → (hosts n).next?.isSome → ∃ m ≥ n, (who m).isSome
  answers : ∀ n, (hosts n).result = none → ∀ s ∈ (hosts n).strands, (hosts n).Outside s.phase →
    ∃ m ≥ n, (hosts m).result.isSome ∨ ∃ t ∈ (hosts m).strands, t.id = s.id ∧ t.phase.waits = false

/-- A run in which only finitely many turns are taken comes to its result, if it is attended. -/
theorem Attended.result (ha : Attended hosts who) (hh : Reaches e around input env (hosts 0))
    (hsteps : ∀ n, (hosts n).Steps (who n) (hosts (n + 1))) (hfinite : {n | (who n).isSome}.Finite) :
    ∃ n, (hosts n).result.isSome := by
  refine Classical.byContradiction fun hnever => ?_
  have hnone (n : ℕ) : (hosts n).result = none := Option.not_isSome_iff_eq_none.1 (not_exists.1 hnever n)
  have hconcerted (n : ℕ) : ∃ f k, Concerted e f k (hosts n).Foremost (hosts n) := by
    induction n with
    | zero => exact (concerted_of_reaches hh).resolve_left (not_exists.1 hnever 0)
    | succ n ih =>
      obtain ⟨f, k, hc⟩ := ih
      exact (hc.steps (hsteps n)).resolve_left (not_exists.1 hnever (n + 1))
  obtain ⟨last, hlast⟩ := hfinite.bddAbove
  -- after the last turn no strand can go on, so one of them waits for something from outside
  have hidle (n : ℕ) (hn : last < n) : (hosts n).next? = none := by
    refine Option.not_isSome_iff_eq_none.1 fun hsome => ?_
    obtain ⟨m, hm, hturn⟩ := ha.turns n (hnone n) hsome
    have hle := hlast hturn
    omega
  obtain ⟨f, k, hc⟩ := hconcerted (last + 1)
  obtain ⟨s, hs, houtside⟩ := hc.outside (hidle _ (Nat.lt_succ_self _))
  obtain ⟨m, hm, hcomes⟩ := ha.answers _ (hnone _) s hs houtside
  obtain ⟨t, ht, -, hready⟩ := hcomes.resolve_left (not_exists.1 hnever m)
  obtain ⟨f', k', hc'⟩ := hconcerted m
  have hwaits := hc'.enlisted.waits (hidle m (by omega)) ht
  cases hready.symm.trans hwaits

end Host

/-! ## A call that is tried -/

namespace Venture

/-- A document that tries one call. -/
def workflow : Workflow :=
  ⟨⟨"root", none, none, none⟩, none, none,
    [Pair.task "t" none (.attempt [Pair.task "a" none (.call (.activity ⟨"x", []⟩))] none [])]⟩

/-- What the body of the try is compiled to. -/
def body : Graph :=
  ⟨"try_root_t", [⟨"a-0", "a", ⟨none, none, none, none, none, []⟩, false,
    .call (.activity ⟨"x", []⟩) none⟩], none⟩

/-- What the document is compiled to. -/
def root : Graph :=
  ⟨"root", [⟨"t-0", "t", ⟨none, none, none, none, none, []⟩, false,
    .attempt (some "try_root_t") none "error"⟩], none⟩

def setting : Setting :=
  ⟨⟨"root", [body, root], .standard⟩, .ofSettings .standard, CallSettings.standard.timeout⟩

theorem compiled : Program.compile Kinds.standard .standard workflow = .ok setting.program := rfl

theorem untargeted : setting.program.Untargeted := by
  intro g hg child hchild inner hinner
  simp only [setting, List.mem_cons, List.not_mem_nil, or_false] at hg
  rcases hg with rfl | rfl <;>
  · obtain rfl := List.mem_singleton.1 hchild
    cases hinner
    exact ⟨id, fun _ => id⟩

theorem acyclic : setting.program.Acyclic := Program.acyclic_of_compile compiled untargeted

/-- A handler that gives the same answer to every call, some milliseconds later. -/
def around (delay : Nat) (answer : Except Fault Json) : Surroundings :=
  ⟨fun _ _ => some ⟨some delay, answer⟩, fun _ _ => none, some false, 0⟩

/-- The host of a run of the document, after some steps. -/
def host (delay : Nat) (answer : Except Fault Json) (steps : Nat) : Host Host.RunResult :=
  (Host.start setting (around delay answer) .passThrough
    (Host.programRun setting.program .null []).run).run steps

theorem reaches_host (delay : Nat) (answer : Except Fault Json) (steps : Nat) :
    Host.Reaches setting (around delay answer) .null [] (host delay answer steps) :=
  (Host.Reaches.start .passThrough [] none "root" none).run steps

theorem within_around (delay : Nat) (v : Json) (E : Fault → Prop) : (around delay (.ok v)).Within E where
  handler _ _ reply hreply := by
    cases hreply
    trivial
  gateway _ _ _ hreply := nomatch hreply

end Venture

namespace Program

/-- Acyclic programs finish. A compiled program without targets of switches and without processes that run
graphs is acyclic. If a compiled program is acyclic, and its processes name the graphs that they run, then in
every run of it, with any input and environment, and with handlers that do not ask for restarts themselves,
strands take finitely many turns, in whatever order they take them, whatever time passes, whatever signals
and cancellations come and whenever restarts are suggested. And the run comes to its result if every strand
that can go on does so at some time, and if what strands wait for from outside comes at some time. -/
theorem acyclic_programs_finish {kinds : Kinds} {options : ProgramOptions} {w : Workflow} {p : Program}
    (hp : Program.compile kinds options w = .ok p) :
    (p.Untargeted → p.Acyclic) ∧
      (p.Literal → p.Acyclic → ∀ (e : Setting), e.program = p → ∀ (around : Surroundings),
        (around.Within fun f => f.asksRestart = false) → ∀ (input : Json) (env : Members)
          (hosts : ℕ → Host Host.RunResult) (who : ℕ → Option (Strand Host.RunResult)),
          Host.Reaches e around input env (hosts 0) →
            ((∀ n, (hosts n).Moves (who n) (hosts (n + 1))) → {n | (who n).isSome}.Finite) ∧
            ((∀ n, (hosts n).Steps (who n) (hosts (n + 1))) → Host.Attended hosts who →
              ∃ n, (hosts n).result.isSome)) := by
  refine ⟨acyclic_of_compile hp, ?_⟩
  rintro hliteral hacyclic e rfl around hwithin input env hosts who hh
  have hfinite (hmoves : ∀ n, (hosts n).Moves (who n) (hosts (n + 1))) : {n | (who n).isSome}.Finite :=
    Host.finite_turns_of_reaches (hacyclic.ceases_programRun hliteral input env) hwithin hh hmoves
  exact ⟨hfinite, fun hsteps ha => ha.result hh hsteps (hfinite fun n => (hsteps n).moves)⟩

/-- The call is answered after five milliseconds. -/
theorem acyclic_programs_finish_of_venture :
    Program.compile Kinds.standard .standard Venture.workflow = .ok Venture.setting.program ∧
      Venture.setting.program.Acyclic ∧ ∃ who,
        (∀ n, (Venture.host 5 (.ok .null) n).Steps (who n) (Venture.host 5 (.ok .null) (n + 1))) ∧
        Host.Attended (Venture.host 5 (.ok .null)) who ∧ {n | (who n).isSome}.Finite ∧
        ∃ n, (Venture.host 5 (.ok .null) n).result.isSome := by
  obtain ⟨huntargeted, hfinishes⟩ := acyclic_programs_finish Venture.compiled
  have hacyclic := huntargeted Venture.untargeted
  choose who hturn hsteps using Host.exists_steps_run (Venture.host 5 (.ok .null) 0)
  have hover : (Venture.host 5 (.ok .null) 40).result.isSome = true := by decide +kernel
  have hattended : Host.Attended (Venture.host 5 (.ok .null)) who := by
    refine ⟨fun n hnone hcan => ⟨n, Nat.le_refl n, hturn n hnone hcan⟩, fun n _ s _ _ => ?_⟩
    exact ⟨max n 40, Nat.le_max_left .., .inl (Host.result_run_of_le (Nat.le_max_right n 40) hover)⟩
  obtain ⟨hfinite, hresult⟩ := hfinishes Venture.untargeted.literal hacyclic Venture.setting rfl
    (Venture.around 5 (.ok .null)) (Venture.within_around ..) .null [] (Venture.host 5 (.ok .null)) who
    (Venture.reaches_host ..)
  exact ⟨Venture.compiled, hacyclic, who, hsteps, hattended, hfinite fun n => (hsteps n).moves,
    hresult hsteps hattended⟩

end Program

/-! ## A handler that asks for restarts -/

namespace Venture

/-- A request to start the document anew. -/
def forged : Fault := .continueAsNew "root" .null (.start .null [])

/-- A host that runs one strand, and whose handler answers every call with the request. -/
def solo (code : Code) (runs : Array RunLog) (journal : List (Nat × Notice)) (past : List Invocation) :
    Host Host.RunResult :=
  { host 0 (.error forged) 0 with
    strands := [⟨Host.mainStrand, Host.mainJob, [], none, [], .ready code⟩]
    runs := runs
    journal := journal
    past := past }

/-- The context of a run that is cancelled only with everything. -/
def context (run : Nat) : Context := ⟨run, [Host.rootScope]⟩

/-- Code that such a host brings back to a run of the document. -/
inductive Returns : Code → Prop where
  | root (run : Nat) (next : Except Fault Scope → Code) :
      Returns ((Sequence.runGraph setting (context run) root .null (.start .null [])).run.bind next)
  | check {s : Scope} {locals : Locals} {next : Except Fault Bool → Code}
      (h : Returns (next (.ok true))) : Returns (.ask (.check none s locals) next)
  | traverse {s : Scope} {next : Except Fault Json → Code}
      (h : Returns (next (.ok (ActivityCall.toJson ⟨"x", []⟩)))) :
      Returns (.ask (.traverse (ActivityCall.toJson ⟨"x", []⟩) s []) next)
  | tell {n : Notice} {next : Unit → Code} (h : Returns (next ())) : Returns (.ask (.tell n) next)
  | record {c : Context} {event : HistoryEvent} {next : Unit → Code} (h : Returns (next ())) :
      Returns (.ask (.record c event) next)
  | fresh {c : Context} {next : Context → Code} (h : ∀ run, Returns (next ⟨run, c.scopes⟩)) :
      Returns (.ask (.fresh c) next)
  | enter {c : Context} {g : Graph} {input : Json} {s : Scope} {next : Except Fault Scope → Code}
      (h : Returns ((Sequence.runGraph setting c g input s).run.bind next)) :
      Returns (.ask (.enter c g input s) next)
  | offer {r : CallRequest} {next : Option (Except Fault Json) → Code} (h : Returns (next none)) :
      Returns (.ask (.offer r) next)
  | dispatch {run : Nat} {r : CallRequest} {timeout : Duration} {next : Except Fault Json → Code}
      (h : Returns (next (.error forged))) : Returns (.ask (.dispatch (context run) r timeout) next)

/-- Whether such a host brings a computation to an outcome, or back to a run of the document if none is
given, whatever comes after. -/
def Brings {α : Type} (r : Running α) (x : Option (Except Fault α)) : Prop :=
  ∀ next : Except Fault α → Code, (∀ y, x = some y → Returns (next y)) → Returns (r.run.bind next)

section

variable {α β : Type} {r : Running α} {k : α → Running β}

theorem Brings.ok_bind {a : α} {x : Option (Except Fault β)} (h : Brings r (some (.ok a)))
    (hk : Brings (k a) x) : Brings (r >>= k) x := by
  intro next hnext
  rw [Running.run_bind, Dialogue.bind_assoc]
  refine h _ ?_
  rintro _ ⟨⟩
  exact hk next hnext

theorem Brings.error_bind {f : Fault} (h : Brings r (some (.error f))) :
    Brings (r >>= k) (some (.error f)) := by
  intro next hnext
  rw [Running.run_bind, Dialogue.bind_assoc]
  refine h _ ?_
  rintro _ ⟨⟩
  exact hnext _ rfl

theorem Brings.none_bind (h : Brings r none) : Brings (r >>= k) none := by
  intro next _
  rw [Running.run_bind, Dialogue.bind_assoc]
  refine h _ ?_
  rintro _ ⟨⟩

theorem Brings.outcome {x : Except Fault α} (h : Brings r (some x)) : Brings r.outcome (some (.ok x)) := by
  intro next hnext
  rw [Running.run_outcome, Dialogue.bind_map]
  refine h _ ?_
  rintro _ ⟨⟩
  exact hnext _ rfl

theorem Brings.none_outcome (h : Brings r none) : Brings r.outcome none := by
  intro next _
  rw [Running.run_outcome, Dialogue.bind_map]
  refine h _ ?_
  rintro _ ⟨⟩

theorem brings_done (x : Except Fault α) : Brings (ExceptT.mk (.done x)) (some x) :=
  fun _ hnext => hnext x rfl

theorem brings_fresh {c : Context} {k : Context → Running α} {x : Option (Except Fault α)}
    (h : ∀ run, Brings (k ⟨run, c.scopes⟩) x) : Brings (Running.ask (.fresh c) >>= k) x :=
  fun next hnext => .fresh fun run => h run next hnext

end

theorem Brings.enter {c : Context} {g : Graph} {input : Json} {s : Scope} {x : Option (Except Fault Scope)}
    (h : Brings (Sequence.runGraph setting c g input s) x) : Brings (Running.enter c g input s) x :=
  fun next hnext => .enter (h next hnext)

theorem brings_record (c : Context) (event : HistoryEvent) :
    Brings (Running.record c event) (some (.ok ())) :=
  fun _ hnext => .record (hnext _ rfl)

theorem brings_tell (n : Notice) : Brings (Running.tell n) (some (.ok ())) :=
  fun _ hnext => .tell (hnext _ rfl)

theorem brings_root (run : Nat) :
    Brings (Sequence.runGraph setting (context run) root .null (.start .null [])) none :=
  fun next _ => .root run next

/-- A call fails with the request, without another attempt. -/
theorem brings_request (run : Nat) (r : CallRequest) :
    Brings (Calling.request setting (context run) r) (some (.error forged)) := by
  have hattempt : Brings (Calling.attempt (context run) r (r.timeout.getD setting.timeout) 1)
      (some (.error forged)) := by
    have hdispatch : Brings (Running.dispatch (context run) r (r.timeout.getD setting.timeout))
        (some (.error forged)) := fun _ hnext => .dispatch (hnext _ rfl)
    exact (brings_record _ _).ok_bind (hdispatch.outcome.ok_bind ((brings_record _ _).ok_bind (brings_done _)))
  have hperform : Brings (Calling.perform setting (context run) r) (some (.error forged)) := by
    refine Brings.error_bind ?_
    rw [Calling.attempts, Calling.retrying.eq_def]
    exact hattempt.outcome.ok_bind (brings_done _)
  exact (brings_tell _).ok_bind fun next hnext => .offer (hperform next hnext)

/-- So does the body of the try. -/
theorem brings_body (run : Nat) :
    Brings (Sequence.runGraph setting (context run) body .null (Scope.start .null []).child)
      (some (.error forged)) := by
  have hstep : Brings (Sequence.step setting (context run) "a" ⟨none, none, none, none, none, []⟩ .null
      (.call (.activity ⟨"x", []⟩) none) (Scope.start .null []).child) (some (.error forged)) := by
    refine Brings.error_bind fun next hnext => .traverse ?_
    exact brings_request run _ next hnext
  intro next hnext
  refine .check (hstep.outcome.ok_bind ?_ next hnext)
  exact Brings.error_bind (brings_done _)

/-- The request is followed where the body was run, so the try does not come to an end. -/
theorem brings_try (run : Nat) :
    Brings (Restart.runGraph setting.program (context run) "try_root_t" .null (Scope.start .null []).child)
      none := by
  have hloop (left : Nat) : Brings (Restart.loop setting.program (context run) "try_root_t" (left + 1)
      body .null (Scope.start .null []).child) none := by
    rw [Restart.loop.eq_def]
    refine brings_fresh fun inner => (brings_body inner).enter.outcome.ok_bind ?_
    refine (brings_done _).ok_bind ?_
    rw [Restart.loop.eq_def]
    exact brings_fresh fun inner => (brings_root inner).enter.none_outcome.none_bind
  refine (brings_tell _).ok_bind (Brings.none_bind (Brings.none_outcome ?_))
  exact (brings_done _).ok_bind ((brings_record _ _).ok_bind (hloop 999).none_bind)

/-- A run of the document is brought back to a run of the document, by at least one step. -/
theorem runGraph_root (run : Nat) (next : Except Fault Scope → Code) : ∃ next',
    (Sequence.runGraph setting (context run) root .null (.start .null [])).run.bind next =
      .ask (.check none (.start .null []) [Sequence.taskBinding "t"]) next' ∧ Returns (next' (.ok true)) := by
  have hstep : Brings (Sequence.step setting (context run) "t" ⟨none, none, none, none, none, []⟩ .null
      (.attempt (some "try_root_t") none "error") (.start .null [])) none :=
    (brings_try run).none_outcome.none_bind.none_bind
  refine ⟨_, rfl, hstep.none_outcome.none_bind next ?_⟩
  rintro _ ⟨⟩

theorem returns_programRun : Returns ((Host.programRun setting.program .null []).run.map .result) := by
  have hprogram : Brings (Host.programRun setting.program .null []) none := by
    refine (brings_done _).ok_bind ((brings_done _).ok_bind ?_)
    rw [Restart.rootLoop.eq_def]
    refine brings_fresh fun run => (brings_record _ _).ok_bind ?_
    exact (brings_root run).enter.none_outcome.none_bind
  refine hprogram _ ?_
  rintro _ ⟨⟩

variable {code : Code} {runs : Array RunLog} {journal : List (Nat × Notice)} {past : List Invocation}

theorem advance_of_returns (h : Returns code) :
    ∃ code' runs' journal' past', (solo code runs journal past).advance none =
      some (solo code' runs' journal' past') ∧ Returns code' := by
  cases h with
  | root run next =>
    obtain ⟨next', heq, hnext⟩ := runGraph_root run next
    rw [heq]
    exact ⟨_, _, _, _, rfl, hnext⟩
  | fresh h => exact ⟨_, _, _, _, rfl, h _⟩
  | @dispatch run r timeout next h =>
    have hstep : (solo (.ask (.dispatch (context run) r timeout) next) runs journal past).advance none =
        some ((solo (.ask (.dispatch (context run) r timeout) next) runs journal past).attempt
          ⟨Host.mainStrand, Host.mainJob, [], none, [], .ready (.ask (.dispatch (context run) r timeout) next)⟩
          (context run) r timeout next) := rfl
    have hreply : (around 0 (.error forged)).handler past.reverse r.invocation =
        some ⟨some 0, .error forged⟩ := rfl
    rw [hstep, Host.attempt_of_prompt rfl hreply]
    exact ⟨_, _, _, _, rfl, h⟩
  | check h | traverse h | tell h | record h | enter h | offer h => exact ⟨_, _, _, _, rfl, h⟩

theorem run_of_returns (h : Returns code) (n : ℕ) :
    ∃ code' runs' journal' past', (solo code runs journal past).run n = solo code' runs' journal' past' := by
  induction n generalizing code runs journal past with
  | zero => exact ⟨code, runs, journal, past, rfl⟩
  | succ n ih =>
    obtain ⟨code', runs', journal', past', hstep, h'⟩ := advance_of_returns h
    rw [Host.run, hstep]
    exact ih h'

end Venture

namespace Program

/-- With a handler that answers with a request for a restart, every step is a turn, and the result never
comes. -/
theorem forged_restart_never_ends :
    Program.compile Kinds.standard .standard Venture.workflow = .ok Venture.setting.program ∧
      Venture.setting.program.Untargeted ∧ Venture.setting.program.Literal ∧
      Venture.setting.program.Acyclic ∧ ∃ hosts who,
        Host.Reaches Venture.setting (Venture.around 0 (.error Venture.forged)) .null [] (hosts 0) ∧
        (∀ n, (hosts n).Steps (who n) (hosts (n + 1))) ∧ Host.Attended hosts who ∧
        ∀ n, (who n).isSome ∧ (hosts n).result = none := by
  have hhost (n : ℕ) : ∃ code runs journal past,
      Venture.host 0 (.error Venture.forged) n = Venture.solo code runs journal past := by
    exact Venture.run_of_returns Venture.returns_programRun n
  choose who hturn hsteps using Host.exists_steps_run (Venture.host 0 (.error Venture.forged) 0)
  have hnone (n : ℕ) : (Venture.host 0 (.error Venture.forged) n).result = none := by
    obtain ⟨code, runs, journal, past, heq⟩ := hhost n
    rw [heq]
    rfl
  have hcan (n : ℕ) : (Venture.host 0 (.error Venture.forged) n).next?.isSome := by
    obtain ⟨code, runs, journal, past, heq⟩ := hhost n
    rw [heq]
    rfl
  refine ⟨Venture.compiled, Venture.untargeted, Venture.untargeted.literal, Venture.acyclic,
    Venture.host 0 (.error Venture.forged), who, Venture.reaches_host .., hsteps,
    ⟨fun n hnone hcan => ⟨n, Nat.le_refl n, hturn n hnone hcan⟩, fun n _ s hs houtside => ?_⟩,
    fun n => ⟨hturn n (hnone n) (hcan n), hnone n⟩⟩
  -- no strand waits
  obtain ⟨code, runs, journal, past, heq⟩ := hhost n
  rw [heq] at hs houtside
  obtain rfl := List.mem_singleton.1 hs
  exact houtside.elim

end Program

end TaskGraph
