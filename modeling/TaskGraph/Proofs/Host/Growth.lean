import TaskGraph.Host.Run
import TaskGraph.Proofs.Dialogue

/-!
# What a host has to show

Apart from its strands, its clock and its board, a host has histories of its runs, a journal of what
observers were told, and a result. Most of what a host does leaves these alone (`Host.core`); the rest
only adds to them (`Host.Grows`): notices to the journal, and events to the histories.
-/

set_option autoImplicit false

namespace TaskGraph

namespace Host

variable {α : Type}

/-! ## What most changes leave alone -/

/-- A host without its strands, its clock and its board. -/
def core (h : Host α) :
    Setting × Surroundings × Option α × Option (Nat × α) × Nat × Array RunLog ×
      List (Nat × Notice) :=
  (h.setting, h.surroundings, h.result, h.deadline, h.fresh, h.runs, h.journal)

@[simp] theorem core_put (h : Host α) (s : Strand α) : (h.put s).core = h.core := rfl

@[simp] theorem core_remove (h : Host α) (id : Nat) : (h.remove id).core = h.core := rfl

@[simp] theorem core_goOn (h : Host α) (s : Strand α) (code : Dialogue (Ending α)) :
    (h.goOn s code).core = h.core := rfl

@[simp] theorem core_wait (h : Host α) (s : Strand α) (p : Phase α) :
    (h.wait s p).core = h.core := rfl

@[simp] theorem core_wake (h : Host α) (s : Strand α) (code : Dialogue (Ending α)) :
    (h.wake s code).core = h.core := rfl

@[simp] theorem core_spawn (h : Host α) (s : Strand α) : (h.spawn s).core = h.core := rfl

theorem core_foldl {β : Type} {f : Host α → β → Host α} (hf : ∀ h x, (f h x).core = h.core)
    (h : Host α) (xs : List β) : (xs.foldl f h).core = h.core := by
  induction xs generalizing h with
  | nil => rfl
  | cons x xs ih => exact (ih (f h x)).trans (hf h x)

@[simp] theorem core_interrupt (h : Host α) (s : Strand α) : (h.interrupt s).core = h.core := by
  unfold interrupt
  split
  · split <;> rfl
  · rfl

@[simp] theorem core_cancel (h : Host α) (scope : Nat) : (h.cancel scope).core = h.core :=
  core_foldl core_interrupt _ _

@[simp] theorem core_stopBranches (h : Host α) (s : Strand α) (branches : List Nat) :
    (h.stopBranches s branches).core = h.core :=
  core_foldl core_cancel _ _

@[simp] theorem core_look (h : Host α) (s : Strand α) : (h.look s).core = h.core := by
  unfold look
  split
  · split <;> rfl
  · rfl

@[simp] theorem core_lookAll (h : Host α) : h.lookAll.core = h.core := core_foldl core_look _ _

@[simp] theorem core_replyTo (h : Host α) (parent branch : Nat) (reply : Except Fault Json) :
    (h.replyTo parent branch reply).core = h.core := by
  unfold replyTo
  split
  · rfl
  · split <;> rfl

@[simp] theorem core_arrive (h : Host α) (s : Strand α) : (h.arrive s).core = h.core := by
  unfold arrive
  split
  · rfl
  · rfl
  · rfl
  · exact core_look _ s
  · rfl

@[simp] theorem core_strike (h : Host α) (t : Nat) (a : Appointment α) :
    (h.strike t a).core = h.core := by
  cases a <;> rfl

/-! ## What is only added to -/

/-- Whether a host is what another one has come to by adding notices of a kind to the journal and
events of a kind to the histories. -/
structure Grows (N : Notice → Prop) (V : HistoryEvent → Prop) (h h' : Host α) : Prop where
  setting : h'.setting = h.setting
  surroundings : h'.surroundings = h.surroundings
  result : h'.result = h.result
  deadline : h'.deadline = h.deadline
  fresh : h.fresh ≤ h'.fresh
  runs : h.runs.size ≤ h'.runs.size
  journal : ∃ new, h'.journal = new ++ h.journal ∧ ∀ x ∈ new, N x.2
  histories : ∀ run, ∃ new, (h'.history run).events.toList = (h.history run).events.toList ++ new ∧
    ∀ ev ∈ new, V ev

variable {N : Notice → Prop} {V : HistoryEvent → Prop} {h h' h'' : Host α}

theorem Grows.of_core (heq : h'.core = h.core) : Grows N V h h' := by
  simp only [core, Prod.mk.injEq] at heq
  obtain ⟨hsetting, hsurroundings, hresult, hdeadline, hfresh, hruns, hjournal⟩ := heq
  refine ⟨hsetting, hsurroundings, hresult, hdeadline, Nat.le_of_eq hfresh.symm,
    Nat.le_of_eq (by rw [hruns]), ⟨[], hjournal, nofun⟩, fun run => ⟨[], ?_, nofun⟩⟩
  rw [List.append_nil, history, history, hruns]

theorem Grows.refl (h : Host α) : Grows N V h h := .of_core rfl

theorem Grows.trans (hg : Grows N V h h') (hg' : Grows N V h' h'') : Grows N V h h'' where
  setting := hg'.setting.trans hg.setting
  surroundings := hg'.surroundings.trans hg.surroundings
  result := hg'.result.trans hg.result
  deadline := hg'.deadline.trans hg.deadline
  fresh := Nat.le_trans hg.fresh hg'.fresh
  runs := Nat.le_trans hg.runs hg'.runs
  journal := by
    obtain ⟨new, hnew, hN⟩ := hg.journal
    obtain ⟨new', hnew', hN'⟩ := hg'.journal
    refine ⟨new' ++ new, by rw [hnew', hnew, List.append_assoc], fun x hx => ?_⟩
    rcases List.mem_append.1 hx with hx | hx
    · exact hN' x hx
    · exact hN x hx
  histories run := by
    obtain ⟨new, hnew, hV⟩ := hg.histories run
    obtain ⟨new', hnew', hV'⟩ := hg'.histories run
    refine ⟨new ++ new', by rw [hnew', hnew, List.append_assoc], fun ev hev => ?_⟩
    rcases List.mem_append.1 hev with hev | hev
    · exact hV ev hev
    · exact hV' ev hev

/-- A change behind which nothing more is added. -/
theorem Grows.then_core (hg : Grows N V h h') (heq : h''.core = h'.core) : Grows N V h h'' :=
  hg.trans (.of_core heq)

theorem grows_foldl {β : Type} {f : Host α → β → Host α} (xs : List β)
    (hf : ∀ h, ∀ x ∈ xs, Grows N V h (f h x)) (h : Host α) : Grows N V h (xs.foldl f h) := by
  induction xs generalizing h with
  | nil => exact .refl h
  | cons x xs ih =>
    exact (hf h x (List.mem_cons_self ..)).trans
      (ih (fun h y hy => hf h y (List.mem_cons_of_mem _ hy)) (f h x))

/-! ### Histories -/

theorem history_eq (h : Host α) (run : Nat) :
    h.history run = (h.runs[run]?.map RunLog.history).getD .empty := by
  unfold history
  cases h.runs[run]? <;> rfl

theorem history_modifyRun (h : Host α) (run : Nat) (f : RunLog → RunLog) (other : Nat) :
    (h.modifyRun run f).history other =
      if run = other then ((h.runs[other]?.map f).map RunLog.history).getD .empty
      else h.history other := by
  rw [history_eq, history_eq, modifyRun, Array.getElem?_modify]
  split <;> rfl

/-- The history of a run after an event was written. -/
theorem history_record (h : Host α) (c : Context) (ev : HistoryEvent) (run : Nat) :
    (h.record c ev).history run =
      if c.run = run ∧ run < h.runs.size then (h.history run).record ev else h.history run := by
  unfold record
  rw [history_modifyRun]
  by_cases hrun : c.run = run
  · subst hrun
    rw [history_eq]
    by_cases hsize : c.run < h.runs.size
    · simp [hsize]
    · simp [hsize]
  · simp [hrun]

theorem grows_record (h : Host α) (c : Context) {ev : HistoryEvent} (hev : V ev) :
    Grows N V h (h.record c ev) := by
  refine ⟨rfl, rfl, rfl, rfl, Nat.le_refl _, ?_, ⟨[], rfl, nofun⟩, fun run => ?_⟩
  · simp [record, modifyRun]
  · rw [history_record]
    split
    · exact ⟨[ev], by simp [History.record], by simpa using hev⟩
    · exact ⟨[], (List.append_nil _).symm, nofun⟩

theorem grows_recordAll (h : Host α) (c : Context) (evs : List HistoryEvent)
    (hevs : ∀ ev ∈ evs, V ev) : Grows N V h (h.recordAll c evs) :=
  grows_foldl evs (fun h ev hev => grows_record h c (hevs ev hev)) h

/-! ### Numbers of detached graphs -/

theorem inFlight_eq (h : Host α) (run : Nat) :
    h.inFlight run = (h.runs[run]?.map RunLog.inFlight).getD 0 := by
  unfold inFlight
  cases h.runs[run]? <;> rfl

theorem inFlight_of_runs (heq : h'.runs = h.runs) (run : Nat) : h'.inFlight run = h.inFlight run := by
  unfold inFlight
  rw [heq]

theorem inFlight_of_core (heq : h'.core = h.core) (run : Nat) : h'.inFlight run = h.inFlight run := by
  simp only [core, Prod.mk.injEq] at heq
  exact inFlight_of_runs heq.2.2.2.2.2.1 run

theorem inFlight_modifyRun (h : Host α) (run : Nat) (f : RunLog → RunLog) (other : Nat) :
    (h.modifyRun run f).inFlight other =
      if run = other then ((h.runs[other]?.map f).map RunLog.inFlight).getD 0
      else h.inFlight other := by
  rw [inFlight_eq, inFlight_eq, modifyRun, Array.getElem?_modify]
  split <;> rfl

@[simp] theorem inFlight_record (h : Host α) (c : Context) (ev : HistoryEvent) (run : Nat) :
    (h.record c ev).inFlight run = h.inFlight run := by
  unfold record
  rw [inFlight_modifyRun, inFlight_eq]
  split
  · cases h.runs[run]? <;> rfl
  · rfl

@[simp] theorem inFlight_recordAll (h : Host α) (c : Context) (evs : List HistoryEvent) (run : Nat) :
    (h.recordAll c evs).inFlight run = h.inFlight run := by
  unfold recordAll
  induction evs generalizing h with
  | nil => rfl
  | cons ev evs ih => exact (ih _).trans (inFlight_record h c ev run)

/-- A run that was just opened has detached nothing. -/
@[simp] theorem inFlight_open (h : Host α) (c : Context) (run : Nat) :
    (h.open_ c).2.inFlight run = h.inFlight run := by
  rw [inFlight_eq, inFlight_eq, open_, Array.getElem?_push]
  split
  · next hrun => simp [hrun]
  · rfl

/-- What is counted of a run leaves its history alone. -/
theorem grows_modifyRun (h : Host α) (run : Nat) {f : RunLog → RunLog}
    (hf : ∀ r, (f r).history = r.history) : Grows N V h (h.modifyRun run f) := by
  refine ⟨rfl, rfl, rfl, rfl, Nat.le_refl _, ?_, ⟨[], rfl, nofun⟩, fun other => ⟨[], ?_, nofun⟩⟩
  · simp [modifyRun]
  · rw [List.append_nil, history_modifyRun]
    split
    · rw [history_eq]
      cases h.runs[other]? <;> simp [hf]
    · rfl

theorem grows_open (h : Host α) (c : Context) : Grows N V h (h.open_ c).2 := by
  refine ⟨rfl, rfl, rfl, rfl, Nat.le_refl _, ?_, ⟨[], rfl, nofun⟩, fun run => ⟨[], ?_, nofun⟩⟩
  · simp [open_]
  · -- a run that there is not yet has an empty history as well
    rw [List.append_nil, history_eq, history_eq, open_, Array.getElem?_push]
    split
    · next hrun => simp [hrun]
    · rfl

/-- A strand that ends without the result of the whole is gone, and told of to whom it concerns. -/
theorem grows_conclude (h : Host α) (s : Strand α) {ending : Ending α}
    (hending : ∀ v, ending ≠ .result v) : Grows N V h (h.conclude s ending) := by
  cases ending with
  | result v => exact absurd rfl (hending v)
  | branch reply =>
    refine .of_core ?_
    unfold conclude
    cases s.parent <;> simp
  | detached run => exact (Grows.of_core (core_remove ..)).trans (grows_modifyRun _ _ fun _ => rfl)

theorem grows_tell (h : Host α) {n : Notice} (hn : N n) : Grows N V h (h.tell n) := by
  refine ⟨rfl, rfl, rfl, rfl, Nat.le_refl _, Nat.le_refl _, ⟨[(h.now, n)], rfl, ?_⟩,
    fun run => ⟨[], (List.append_nil _).symm, nofun⟩⟩
  simpa using hn

/-- A change of the next number alone. -/
theorem Grows.of_fresh {fresh : Nat} (hle : h.fresh ≤ fresh) :
    Grows N V h { h with fresh := fresh } :=
  ⟨rfl, rfl, rfl, rfl, hle, Nat.le_refl _, ⟨[], rfl, nofun⟩,
    fun _ => ⟨[], (List.append_nil _).symm, nofun⟩⟩

/-! ### Signals -/

theorem grows_feed (hV : ∀ name, V (.signalReceived name)) (h : Host α) (s : Strand α) :
    Grows N V h (h.feed s) := by
  unfold feed
  split
  · exact .refl h
  · next c taken b p _ =>
    have hrecorded : Grows N V h ({ h with board := b }.recordAll c (taken.map .signalReceived)) := by
      refine Grows.trans (.of_core ?_) (grows_recordAll _ c _ fun ev hev => ?_)
      · rfl
      · obtain ⟨name, -, rfl⟩ := List.mem_map.1 hev
        exact hV name
    split
    · exact hrecorded.then_core rfl
    · exact hrecorded.then_core rfl

@[simp] theorem inFlight_feed (h : Host α) (s : Strand α) (run : Nat) :
    (h.feed s).inFlight run = h.inFlight run := by
  unfold feed
  split
  · rfl
  · next c taken b p _ =>
    have hrecorded : ({ h with board := b }.recordAll c (taken.map .signalReceived)).inFlight run =
        h.inFlight run := inFlight_recordAll ..
    split <;> exact hrecorded

theorem grows_deliver (hV : ∀ name, V (.signalReceived name)) (h : Host α) (name : String)
    (payload : Json) : Grows N V h (h.deliver name payload) := by
  have hfed (h : Host α) (ss : List (Strand α)) : Grows N V h (ss.foldl feed h) :=
    grows_foldl ss (fun h s _ => grows_feed hV h s) h
  refine Grows.then_core (Grows.trans (.of_core ?_) (hfed _ _)) (core_lookAll _)
  rfl

@[simp] theorem inFlight_deliver (h : Host α) (name : String) (payload : Json) (run : Nat) :
    (h.deliver name payload).inFlight run = h.inFlight run := by
  have hfed (ss : List (Strand α)) (h : Host α) :
      (ss.foldl feed h).inFlight run = h.inFlight run := by
    induction ss generalizing h with
    | nil => rfl
    | cons s ss ih => exact (ih _).trans (inFlight_feed h s run)
  exact (inFlight_of_core (core_lookAll _) run).trans (hfed _ _)

/-! ### Requests -/

/-- A host on which a handler has been asked. -/
def asking (h : Host α) (i : Invocation) : Host α :=
  { h.tell (.handle i) with past := i :: h.past }

/-- An attempt at a call is answered outright, or by a handler or the end of its time, and then the
answer is there or waited for. -/
theorem attempt_cases (h : Host α) (s : Strand α) (c : Context) (r : CallRequest)
    (timeout : Duration) (next : Except Fault Json → Dialogue (Ending α)) :
    (∃ f : Fault, (f = .cancelled r.task ∨ f = .handlerNotFound r.invocation.identifier) ∧
      h.attempt s c r timeout next = h.goOn s (next (.error f))) ∨
    ∃ reply x, h.surroundings.handler h.past.reverse r.invocation = some reply ∧
      (x = reply.result ∨ ∃ ms, x = .error (.callTimeout r.invocation.identifier ms)) ∧
      (h.attempt s c r timeout next = (h.asking r.invocation).goOn s (next x) ∨
        ∃ due, h.attempt s c r timeout next =
          (h.asking r.invocation).wait s (.calling c (some due) r.task x next)) := by
  unfold attempt
  dsimp only
  by_cases hcancelled : h.isCancelled c = true
  · rw [if_pos hcancelled]
    exact .inl ⟨_, .inl rfl, rfl⟩
  · rw [if_neg hcancelled]
    cases hhandler : h.surroundings.handler h.past.reverse r.invocation with
    | none => exact .inl ⟨_, .inr rfl, rfl⟩
    | some reply =>
      obtain ⟨delay, result⟩ := reply
      -- whatever the answer is, it is there at once or waited for
      have hanswer (after : Nat) (x : Except Fault Json) :
          (if after = 0 then (h.asking r.invocation).goOn s (next x)
            else (h.asking r.invocation).wait s
              (.calling c (some (h.now + after)) r.task x next)) =
              (h.asking r.invocation).goOn s (next x) ∨
            ∃ due, (if after = 0 then (h.asking r.invocation).goOn s (next x)
              else (h.asking r.invocation).wait s
                (.calling c (some (h.now + after)) r.task x next)) =
              (h.asking r.invocation).wait s (.calling c (some due) r.task x next) := by
        by_cases hafter : after = 0
        · exact .inl (if_pos hafter)
        · exact .inr ⟨_, if_neg hafter⟩
      refine .inr ?_
      cases delay with
      | none => exact ⟨_, _, rfl, .inr ⟨_, rfl⟩, hanswer _ _⟩
      | some d =>
        dsimp only
        by_cases hd : d ≤ timeout.ceilMillis
        · simp only [if_pos hd]
          exact ⟨_, _, rfl, .inl rfl, hanswer _ _⟩
        · simp only [if_neg hd]
          exact ⟨_, _, rfl, .inr ⟨_, rfl⟩, hanswer _ _⟩

/-- A handler that answers at once is heard at once. -/
theorem attempt_of_prompt {h : Host α} {s : Strand α} {c : Context} {r : CallRequest} {timeout : Duration}
    {next : Except Fault Json → Dialogue (Ending α)} {result : Except Fault Json}
    (hlive : h.isCancelled c = false)
    (hreply : h.surroundings.handler h.past.reverse r.invocation = some ⟨some 0, result⟩) :
    h.attempt s c r timeout next = (h.asking r.invocation).goOn s (next result) := by
  unfold attempt
  dsimp only
  rw [if_neg (Bool.eq_false_iff.1 hlive), hreply]
  simp only [Nat.zero_le, if_true]
  rfl

section

variable (hN : ∀ n, n.ofGraph = false → N n)
include hN

theorem grows_attempt (h : Host α) (s : Strand α) (c : Context) (r : CallRequest)
    (timeout : Duration) (next : Except Fault Json → Dialogue (Ending α)) :
    Grows N V h (h.attempt s c r timeout next) := by
  have hasked : Grows N V h (h.asking r.invocation) := (grows_tell h (hN _ rfl)).then_core rfl
  rcases h.attempt_cases s c r timeout next with
    ⟨f, -, heq⟩ | ⟨reply, x, -, -, heq | ⟨due, heq⟩⟩
  · exact .of_core (by rw [heq, core_goOn])
  · exact hasked.then_core (by rw [heq, core_goOn])
  · exact hasked.then_core (by rw [heq, core_wait])

section

variable (hV : ∀ name, V (.signalReceived name))
include hV

theorem grows_listenAny (h : Host α) (s : Strand α) (c : Context) (mode : ListenMode)
    (next : Except Fault (List (String × Json)) → Dialogue (Ending α)) (all names : List String) :
    Grows N V h (h.listenAny s c mode next all names) := by
  induction names generalizing h with
  | nil => exact .of_core rfl
  | cons name names ih =>
    have htold : Grows N V h (h.tell (.await name)) := grows_tell h (hN _ rfl)
    unfold listenAny
    dsimp only
    split
    · next p b _ =>
      have hrecorded :
          Grows N V h ({ h.tell (.await name) with board := b }.record c (.signalReceived name)) := by
        refine Grows.trans ?_ (grows_record _ c (hV name))
        exact htold.then_core rfl
      exact hrecorded.then_core rfl
    · split
      · exact htold.then_core rfl
      · exact htold.trans (ih _)

theorem grows_listenAll (h : Host α) (s : Strand α) (c : Context)
    (next : Except Fault (List (String × Json)) → Dialogue (Ending α)) (names : List String) :
    Grows N V h (h.listenAll s c next names) := by
  have htold : Grows N V h (names.foldl (fun (h : Host α) n => h.tell (.await n)) h) :=
    grows_foldl names (fun h _ _ => grows_tell h (hN _ rfl)) h
  unfold listenAll
  revert htold
  generalize names.foldl (fun (h : Host α) n => h.tell (.await n)) h = told
  intro htold
  dsimp only
  rcases told.board.fill (names.map fun n => (n, none)) with ⟨slots, taken, b⟩
  have hrecorded :
      Grows N V h ({ told with board := b }.recordAll c (taken.map .signalReceived)) := by
    refine Grows.trans ?_ (grows_recordAll _ c _ fun ev hev => ?_)
    · exact htold.then_core rfl
    · obtain ⟨name, -, rfl⟩ := List.mem_map.1 hev
      exact hV name
  dsimp only
  split
  · exact hrecorded.then_core rfl
  · split
    · exact hrecorded.then_core rfl
    · exact hrecorded.then_core rfl

end

omit hN in
theorem grows_forkBranches (h : Host α) (s : Strand α) (c : Context) (input : Json)
    (scope : Scope) (i : Nat) (graphs : List String) :
    Grows N V h (h.forkBranches s c input scope i graphs).1 := by
  induction graphs generalizing h i with
  | nil => exact .refl h
  | cons graph graphs ih =>
    unfold forkBranches
    dsimp only
    refine Grows.trans ?_ (ih _ _)
    exact (Grows.of_fresh (Nat.le_add_right h.fresh 2)).then_core rfl

omit hN in
theorem grows_detachGraph (h : Host α) (c : Context) (graph : String) (input : Json)
    (scope : Scope) : Grows N V h (h.detachGraph c graph input scope) := by
  have hcounted : Grows N V h (h.modifyRun c.run fun r => { r with inFlight := r.inFlight + 1 }) :=
    grows_modifyRun h c.run fun _ => rfl
  exact hcounted.trans ((Grows.of_fresh (Nat.le_add_right _ 1)).then_core rfl)

omit hN in
theorem grows_startHeartbeat (h : Host α) (c : Context) (interval : Duration) :
    Grows N V h (h.startHeartbeat c interval).2 := by
  unfold startHeartbeat
  dsimp only
  split
  · exact .of_fresh (Nat.le_add_right _ 1)
  · exact (Grows.of_fresh (Nat.le_add_right _ 1)).then_core rfl

/-- What a strand asks for adds what it tells and what it records, and otherwise only what the host
has to tell and to record by itself. -/
theorem grows_perform (hV : ∀ name, V (.signalReceived name)) (h : Host α) (s : Strand α) (q : Request)
    (next : q.Answer → Dialogue (Ending α)) (htell : ∀ n, q = .tell n → N n)
    (hrecord : ∀ c ev, q = .record c ev → V ev) :
    Grows N V h (h.perform s q next) := by
  cases q with
  | evaluate | traverse | check => exact .of_core rfl
  | cancelled | due | publish | still => exact .of_core rfl
  | settle c =>
    show Grows N V h (h.settle s c next)
    unfold settle
    split
    · exact .of_core rfl
    · split <;> exact .of_core rfl
  | record c ev => exact (grows_record h c (hrecord c ev rfl)).then_core rfl
  | tell n => exact (grows_tell h (htell n rfl)).then_core rfl
  | respond id response =>
    exact .of_core (core_lookAll { h with board := h.board.respond id response })
  | fresh c => exact (grows_open h c).then_core rfl
  | enter => exact .of_core rfl
  | detach c graph input scope => exact (grows_detachGraph h c graph input scope).then_core rfl
  | fork c graphs input scope =>
    exact (grows_forkBranches h s c input scope 0 graphs).then_core rfl
  | reply => exact .of_core rfl
  | stop branches => exact (Grows.of_core (core_stopBranches h s branches)).then_core rfl
  | offer r =>
    show Grows N V h (h.offered s r next)
    unfold offered
    dsimp only
    split
    · exact .of_core rfl
    · split <;> exact .of_core rfl
  | dispatch c r timeout => exact grows_attempt hN h s c r timeout next
  | beat c interval => exact (grows_startHeartbeat h c interval).then_core rfl
  | pause c d =>
    show Grows N V h (h.sleep s c d next)
    unfold sleep
    split
    · exact .of_core rfl
    · split <;> exact .of_core rfl
  | listen c mode names =>
    cases mode with
    | all => exact grows_listenAll hN hV h s c next names
    | one => exact grows_listenAny hN hV h s c .one next names names
    | any => exact grows_listenAny hN hV h s c .any next names names

end

end Host

end TaskGraph
