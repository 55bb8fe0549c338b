import TaskGraph.Proofs.Host.Strands

/-!
# What a host answers

Whatever a strand asks for, the host lets it go on from an answer as in `Request.Served`, at once or
after a wait, and adds strands for the graphs that are forked or detached (`Host.every_serve`). Some
answers are known better: a fresh run has the next number, a graph that is entered is run in place, and a
pause is cut short only in a context that is cancelled.

For strands that are on their course, the answers are those of `Request.Kept`, and the strands that are
added run graphs which may be started (`Host.tended_perform`).
-/

set_option autoImplicit false

namespace TaskGraph

open Running (Any Result)

variable {α : Type} {e : Setting}

/-- Whether handlers and gateways end in no other faults than these. -/
structure Surroundings.Within (E : Fault → Prop) (around : Surroundings) : Prop where
  handler : ∀ past i reply, around.handler past i = some reply → Result E Any reply.result
  gateway : ∀ past i reply, around.gateway past i = some reply → Result E Any reply.result

theorem Surroundings.Within.mono {E E' : Fault → Prop} {around : Surroundings}
    (h : around.Within E) (imp : ∀ f, E f → E' f) : around.Within E' where
  handler past i reply hreply := (h.handler past i reply hreply).mono_fault imp
  gateway past i reply hreply := (h.gateway past i reply hreply).mono_fault imp

/-- Whether an answer is one of a host on which handlers, signals and branches end in no other faults than
these. -/
def Request.Served (E : Fault → Prop) : (q : Request) → q.Answer → Prop
  | .evaluate .., x => Fault.Ordinary x
  | .traverse v s locals, x => ∃ ev : Evaluator, x = (ev.run (Evaluation.traverse v s locals)).1
  | .check .., x => Fault.Ordinary x
  | .dispatch .., x => Result E Any x
  | .listen .., x => Result E Any x
  | .offer _, x => ∀ v, x = some v → Result E Any v
  | .reply, x => Result E Any x.2
  | _, _ => True

section

variable (T : Terms e.program)

/-- Whether a strand that was added ends as a branch or a detached graph may. -/
def Ending.Fair : Ending α → Prop
  | .result _ => False
  | .branch reply => Result T.faults Any reply
  | .detached _ => True

/-- Whether a strand that was added is on its course. -/
abbrev Dialogue.Fair (code : Dialogue (Ending α)) : Prop :=
  code.Heeds (Request.Fair T) (Request.Kept T) (Ending.Fair T)

/-- Whether a strand goes on as described from what the host answers a request with. -/
def Host.Follows (h : Host α) (G : Dialogue (Ending α) → Prop) :
    (q : Request) → (q.Answer → Dialogue (Ending α)) → Prop
  | .fresh c, next => G (next ⟨h.runs.size, c.scopes⟩)
  | .enter c g input scope, next => G ((Sequence.runGraph e c g input scope).run.bind next)
  | q, next => ∀ x, q.Kept T x → G (next x)

end

namespace Host

variable {h : Host α} {s : Strand α}

/-- Whether a strand may be in all phases that a host leads it to when it makes a request: in one from
which it goes on with an answer, or, before that, in one in which it waits for the answer. -/
def Leads (e : Setting) (E : Fault → Prop) (h : Host α) (P : Phase α → Prop) :
    (q : Request) → (q.Answer → Dialogue (Ending α)) → Prop
  | .fresh c, next => P (.ready (next ⟨h.runs.size, c.scopes⟩))
  | .enter c g input scope, next => P (.ready ((Sequence.runGraph e c g input scope).run.bind next))
  | .settle c, next => (∀ x, P (.ready (next x))) ∧ ∀ due, P (.settling c due next)
  | .pause c _, next => (h.isCancelled c = true → P (.ready (next false))) ∧ P (.ready (next true)) ∧
      ∀ due, P (.pausing c due next)
  | .dispatch c r _, next => ∀ x, Result E Any x →
      P (.ready (next x)) ∧ ∀ due, P (.calling c due r.task x next)
  | .offer r, next => P (.ready (next none)) ∧ ∀ x, Result E Any x → P (.ready (next (some x))) ∧
      (∀ due, P (.delayed due (next (some x)))) ∧
        P (.calling ⟨0, []⟩ none r.task x fun v => next (some v))
  | .listen c mode _, next => (∀ x, Result E Any x → P (.ready (next x))) ∧
      ∀ slots, P (.listening c mode slots next)
  | .reply, next => P (.joining next)
  | q, next => ∀ x, q.Served E x → P (.ready (next x))

theorem Leads.mono {E : Fault → Prop} {P P' : Phase α → Prop} {q : Request}
    {next : q.Answer → Dialogue (Ending α)} (hnext : h.Leads e E P q next) (imp : ∀ p, P p → P' p) :
    h.Leads e E P' q next := by
  cases q with
  | settle => exact ⟨fun x => imp _ (hnext.1 x), fun due => imp _ (hnext.2 due)⟩
  | pause => exact ⟨fun hc => imp _ (hnext.1 hc), imp _ hnext.2.1, fun due => imp _ (hnext.2.2 due)⟩
  | dispatch => exact fun x hx => ⟨imp _ (hnext x hx).1, fun due => imp _ ((hnext x hx).2 due)⟩
  | offer =>
    refine ⟨imp _ hnext.1, fun x hx => ?_⟩
    obtain ⟨hanswer, hdelayed, hnever⟩ := hnext.2 x hx
    exact ⟨imp _ hanswer, fun due => imp _ (hdelayed due), imp _ hnever⟩
  | listen => exact ⟨fun x hx => imp _ (hnext.1 x hx), fun slots => imp _ (hnext.2 slots)⟩
  | fresh | enter | reply => exact imp _ hnext
  | _ => exact fun x hx => imp _ (hnext x hx)

section

variable {E : Fault → Prop} (hE : ∀ f, f.ordinary = true → E f) {P : Nat → Nat → Phase α → Prop}
  (ht : h.Every fun i j p => i ≠ s.id → P i j p)
include ht

theorem every_settle {c : Context} {next : Except Fault Unit → Dialogue (Ending α)}
    (hnext : h.Leads e E (P s.id s.job) (.settle c) next) : (h.settle s c next).Every P := by
  unfold settle
  split
  · exact ht.goOn (hnext.1 _)
  · split
    · exact ht.goOn (hnext.1 _)
    · exact ht.wait (hnext.2 _)

theorem every_sleep {c : Context} {d : Duration} {next : Bool → Dialogue (Ending α)}
    (hnext : h.Leads e E (P s.id s.job) (.pause c d) next) : (h.sleep s c d next).Every P := by
  unfold sleep
  split
  · next hcancelled => exact ht.goOn (hnext.1 hcancelled)
  · split
    · exact ht.goOn hnext.2.1
    · exact ht.wait (hnext.2.2 _)

include hE in
theorem every_attempt (hwithin : h.surroundings.Within E) {c : Context} {r : CallRequest}
    {timeout : Duration} {next : Except Fault Json → Dialogue (Ending α)}
    (hnext : h.Leads e E (P s.id s.job) (.dispatch c r timeout) next) :
    (h.attempt s c r timeout next).Every P := by
  have hasked : (h.asking r.invocation).Every fun i j p => i ≠ s.id → P i j p := ht
  rcases h.attempt_cases s c r timeout next with
    ⟨f, hf, heq⟩ | ⟨reply, x, hreply, hx, heq⟩
  · rw [heq]
    refine ht.goOn (hnext (.error f) (hE f ?_)).1
    rcases hf with rfl | rfl <;> rfl
  · -- the answer is that of the handler, or says that its time is up
    have hresult : Result E Any x := by
      rcases hx with rfl | ⟨ms, rfl⟩
      · exact hwithin.handler _ _ _ hreply
      · exact hE _ rfl
    rcases heq with heq | ⟨due, heq⟩ <;> rw [heq]
    · exact hasked.goOn (hnext x hresult).1
    · exact hasked.wait ((hnext x hresult).2 _)

theorem every_offered (hwithin : h.surroundings.Within E) {r : CallRequest}
    {next : Option (Except Fault Json) → Dialogue (Ending α)}
    (hnext : h.Leads e E (P s.id s.job) (.offer r) next) : (h.offered s r next).Every P := by
  have hasked (past : List Invocation) :
      ({ h with past := past } : Host α).Every fun i j p => i ≠ s.id → P i j p := ht
  unfold offered
  dsimp only
  split
  · exact ht.goOn hnext.1
  · next reply hreply =>
    obtain ⟨hanswer, hdelayed, hnever⟩ := hnext.2 _ (hwithin.gateway _ _ _ hreply)
    split
    · exact (hasked _).goOn hanswer
    · exact (hasked _).wait (hdelayed _)
    · exact (hasked _).wait hnever

include hE in
theorem every_listenAny {c : Context} {mode : ListenMode}
    {next : Except Fault (List (String × Json)) → Dialogue (Ending α)} {names : List String}
    (hnext : h.Leads e E (P s.id s.job) (.listen c mode names) next) (all names : List String) :
    (h.listenAny s c mode next all names).Every P := by
  induction names generalizing h with
  | nil => exact ht.wait (hnext.2 _)
  | cons name names ih =>
    have htold : (h.tell (.await name)).Every fun i j p => i ≠ s.id → P i j p := ht
    unfold listenAny
    dsimp only
    split
    · next p b _ =>
      have hrecorded : ({ h.tell (.await name) with board := b }.record c
          (.signalReceived name)).Every fun i j p => i ≠ s.id → P i j p := ht
      exact hrecorded.goOn (hnext.1 _ trivial)
    · split
      · exact htold.goOn (hnext.1 (.error _) (hE _ rfl))
      · exact ih htold hnext

include hE in
theorem every_listenAll {c : Context}
    {next : Except Fault (List (String × Json)) → Dialogue (Ending α)} {names : List String}
    (hnext : h.Leads e E (P s.id s.job) (.listen c .all names) next) :
    (h.listenAll s c next names).Every P := by
  have htold : (names.foldl (fun h n => h.tell (.await n)) h).Every
      fun i j p => i ≠ s.id → P i j p :=
    Every.foldl ht names fun _ ht' _ _ => ht'
  unfold listenAll
  revert htold
  generalize names.foldl (fun (h : Host α) n => h.tell (.await n)) h = told
  intro htold
  dsimp only
  rcases told.board.fill (names.map fun n => (n, none)) with ⟨slots, taken, b⟩
  have hrecorded : ({ told with board := b }.recordAll c
      (taken.map .signalReceived)).Every fun i j p => i ≠ s.id → P i j p :=
    Every.of_strands htold (strands_recordAll { told with board := b } c _)
  dsimp only
  split
  · exact hrecorded.goOn (hnext.1 _ trivial)
  · split
    · exact hrecorded.goOn (hnext.1 (.error _) (hE _ rfl))
    · exact hrecorded.wait (hnext.2 _)

/-! ## Strands that are added -/

theorem every_forkBranches (hset : h.setting = e) (c : Context) (input : Json) (scope : Scope)
    {n : Nat} (hle : n ≤ h.fresh) (i : Nat) {graphs : List String}
    (hnew : ∀ name ∈ graphs, ∀ scopes id, n ≤ id → P id s.job
      (.ready ((Restart.runGraph e.program ⟨c.run, scopes⟩ name input scope).run.map .branch))) :
    (h.forkBranches s c input scope i graphs).1.Every fun i j p => i ≠ s.id → P i j p := by
  induction graphs generalizing h i with
  | nil => exact ht
  | cons graph graphs ih =>
    unfold forkBranches
    dsimp only
    have hcounted : ({ h with fresh := h.fresh + 2 } : Host α).Every
        fun i j p => i ≠ s.id → P i j p := ht
    refine ih ?_ ?_ ?_ _ fun name hname => hnew name (List.mem_cons_of_mem _ hname)
    · refine Every.spawn hcounted fun _ => ?_
      rw [hset]
      exact hnew graph (List.mem_cons_self ..) _ _ hle
    · exact hset
    · exact Nat.le_trans hle (Nat.le_add_right _ 2)

theorem every_detachGraph (hset : h.setting = e) (c : Context) (graph : String) (input : Json)
    (scope : Scope) (hnew : P h.fresh h.fresh
      (.ready ((Restart.graphOutput e.program c graph input scope).run.map fun _ => .detached c.run))) :
    (h.detachGraph c graph input scope).Every fun i j p => i ≠ s.id → P i j p := by
  have hcounted (runs : Array RunLog) (fresh : Nat) :
      ({ h with runs := runs, fresh := fresh } : Host α).Every fun i j p => i ≠ s.id → P i j p := ht
  refine Every.spawn (hcounted _ _) fun _ => ?_
  rw [hset]
  exact hnew

/-! ## Requests -/

include hE in
/-- With a turn, the strand whose turn it is comes to a phase in which it waits for an answer to what it
asks for or goes on from one, and strands are added for the graphs that it forks or detaches. Other
strands look whether what they wait for is finished, or are cut short where their contexts are cancelled
then. -/
theorem every_serve (hset : h.setting = e) (hwithin : h.surroundings.Within E) {q : Request}
    {next : q.Answer → Dialogue (Ending α)}
    (hlook : ∀ i j c due next, i ≠ s.id → P i j (.settling c due next) →
      (h.inFlight c.run = 0 → P i j (.ready (next (.ok ())))) ∧ ∀ due', P i j (.settling c due' next))
    (hcut : ∀ i j p c code, i ≠ s.id → P i j p → interrupted p = some (c, code) →
      (h.perform s q next).isCancelled c = true → P i j (.ready code))
    (hforked : ∀ c graphs input scope, q = .fork c graphs input scope → ∀ name ∈ graphs,
      ∀ scopes id, h.fresh ≤ id → P id s.job
        (.ready ((Restart.runGraph e.program ⟨c.run, scopes⟩ name input scope).run.map .branch)))
    (hdetached : ∀ c name input scope, q = .detach c name input scope → P h.fresh h.fresh
      (.ready ((Restart.graphOutput e.program c name input scope).run.map fun _ => .detached c.run)))
    (hnext : h.Leads e E (P s.id s.job) q next) : (h.perform s q next).Every P := by
  cases q with
  | evaluate text scope locals =>
    have hevaluated (ev : Evaluator) :
        ({ h with evaluator := ev } : Host α).Every fun i j p => i ≠ s.id → P i j p := ht
    exact (hevaluated _).goOn (hnext _ (Evaluation.ordinary_evaluateIn _ text _))
  | traverse value scope locals =>
    have hevaluated (ev : Evaluator) :
        ({ h with evaluator := ev } : Host α).Every fun i j p => i ≠ s.id → P i j p := ht
    exact (hevaluated _).goOn (hnext _ ⟨_, rfl⟩)
  | check guard scope locals =>
    have hevaluated (ev : Evaluator) :
        ({ h with evaluator := ev } : Host α).Every fun i j p => i ≠ s.id → P i j p := ht
    exact (hevaluated _).goOn (hnext _ (Evaluation.ordinary_check guard scope locals _))
  | cancelled | due => exact ht.goOn (hnext _ trivial)
  | settle c => exact every_settle ht hnext
  | record c ev =>
    have hrecorded : (h.record c ev).Every fun i j p => i ≠ s.id → P i j p := ht
    exact hrecorded.goOn (hnext _ trivial)
  | tell notice =>
    have htold : (h.tell notice).Every fun i j p => i ≠ s.id → P i j p := ht
    exact htold.goOn (hnext _ trivial)
  | publish attributes =>
    have hpublished (ms : Members) :
        ({ h with attributes := ms } : Host α).Every fun i j p => i ≠ s.id → P i j p := ht
    exact (hpublished _).goOn (hnext _ trivial)
  | respond id response =>
    have hresponded (b : Board) :
        ({ h with board := b } : Host α).Every fun i j p => i ≠ s.id → P i j p := ht
    refine Every.goOn (Every.lookAll (fun i j c due next hp => ?_) (hresponded _)) (hnext _ trivial)
    exact ⟨fun hrest hne => (hlook i j c due next hne (hp hne)).1 hrest,
      fun due' hne => (hlook i j c due next hne (hp hne)).2 due'⟩
  | fresh c =>
    have hopened : (h.open_ c).2.Every fun i j p => i ≠ s.id → P i j p := ht
    exact hopened.goOn hnext
  | enter c g input scope =>
    refine ht.goOn ?_
    rw [hset]
    exact hnext
  | detach c graph input scope =>
    exact Every.goOn (every_detachGraph ht hset c graph input scope (hdetached _ _ _ _ rfl))
      (hnext _ trivial)
  | fork c graphs input scope =>
    exact Every.goOn (s := { s with branches := (h.forkBranches s c input scope 0 graphs).2 })
      (every_forkBranches ht hset c input scope (Nat.le_refl _) 0 (hforked _ _ _ _ rfl))
      (hnext _ trivial)
  | reply => exact ht.wait hnext
  | stop branches =>
    refine Every.goOn (Every.stopBranches ht branches fun i j p c code hp hint hc hne => ?_)
      (hnext _ trivial)
    exact hcut i j p c code hne (hp hne) hint hc
  | offer r => exact every_offered ht hwithin hnext
  | dispatch c r timeout => exact every_attempt hE ht hwithin hnext
  | beat c interval =>
    have hbeating : (h.startHeartbeat c interval).2.Every fun i j p => i ≠ s.id → P i j p := by
      unfold startHeartbeat
      dsimp only
      split <;> exact ht
    exact hbeating.goOn (hnext _ trivial)
  | still id =>
    have hstill (hs : List Heartbeat) :
        ({ h with heartbeats := hs } : Host α).Every fun i j p => i ≠ s.id → P i j p := ht
    exact (hstill _).goOn (hnext _ trivial)
  | pause c d => exact every_sleep ht hnext
  | listen c mode names =>
    cases mode with
    | all => exact every_listenAll hE ht hnext
    | one | any => exact every_listenAny hE ht hnext names names

end

/-! ## Code that is right -/

/-- Whether a strand goes on as described from an answer that the host gives. -/
def Serves (e : Setting) (E : Fault → Prop) (h : Host α) (G : Dialogue (Ending α) → Prop) :
    (q : Request) → (q.Answer → Dialogue (Ending α)) → Prop
  | .fresh c, next => G (next ⟨h.runs.size, c.scopes⟩)
  | .enter c g input scope, next => G ((Sequence.runGraph e c g input scope).run.bind next)
  | q, next => ∀ x, q.Served E x → G (next x)

theorem leads_of_serves {E : Fault → Prop} {G : Dialogue (Ending α) → Prop} {q : Request}
    {next : q.Answer → Dialogue (Ending α)} (hnext : h.Serves e E G q next) :
    h.Leads e E (Phase.Leads E G) q next := by
  cases q with
  | settle c => exact ⟨fun x => hnext x trivial, fun _ x => hnext x trivial⟩
  | pause c d => exact ⟨fun _ => hnext _ trivial, hnext _ trivial, fun _ up => hnext up trivial⟩
  | dispatch c r timeout => exact fun x hx => ⟨hnext x hx, fun _ => ⟨hx, hnext⟩⟩
  | offer r =>
    have hanswer (x : Except Fault Json) (hx : Result E Any x) : G (next (some x)) := by
      refine hnext _ fun v hv => ?_
      cases hv
      exact hx
    exact ⟨hnext _ nofun, fun x hx => ⟨hanswer x hx, fun _ => hanswer x hx, hx, hanswer⟩⟩
  | listen c mode names => exact ⟨hnext, fun _ => hnext⟩
  | _ => exact hnext

section

variable {E : Fault → Prop} (hE : ∀ f, f.ordinary = true → E f)
  {G : Nat → Nat → Dialogue (Ending α) → Prop} (ht : h.TendedBut E G s.id)
include hE ht

/-- The host lets the strand whose turn it is go on from an answer to what it asks for, and adds strands
for the graphs that it forks or detaches. -/
theorem tended_serve (hset : h.setting = e) (hwithin : h.surroundings.Within E) {q : Request}
    {next : q.Answer → Dialogue (Ending α)}
    (hforked : ∀ c graphs input scope, q = .fork c graphs input scope → ∀ name ∈ graphs,
      ∀ scopes id, h.fresh ≤ id → G id s.job
        ((Restart.runGraph e.program ⟨c.run, scopes⟩ name input scope).run.map .branch))
    (hdetached : ∀ c name input scope, q = .detach c name input scope → G h.fresh h.fresh
      ((Restart.graphOutput e.program c name input scope).run.map fun _ => .detached c.run))
    (hnext : h.Serves e E (G s.id s.job) q next) : (h.perform s q next).Tended E G :=
  every_serve hE ht.every hset hwithin (fun i j c due next _ => leads_looked h i j c due next)
    (fun _ _ _ _ _ _ hp hint _ => hp.of_interrupted (fun _ => hE _ rfl) hint) hforked hdetached
    (leads_of_serves hnext)

end

/-! ## Strands that are on their course -/

section

variable (T : Terms e.program) {G : Nat → Nat → Dialogue (Ending α) → Prop}
  (ht : h.TendedBut T.faults G s.id) {n : Nat}
  (hnew : ∀ id job code, n ≤ id → Dialogue.Fair T code → G id job code)

theorem serves_of_follows {G : Dialogue (Ending α) → Prop} {q : Request}
    {next : q.Answer → Dialogue (Ending α)} (hnext : h.Follows T G q next) :
    h.Serves e T.faults G q next := by
  cases q with
  | fresh | enter => exact hnext
  | _ => exact fun x hx => hnext x hx

include ht hnew

/-- The host lets the strand whose turn it is go on from an answer to what it asks for, and adds only
strands that are on their course. -/
theorem tended_perform (hset : h.setting = e) (hle : n ≤ h.fresh)
    (hwithin : h.surroundings.Within T.faults) {q : Request} {next : q.Answer → Dialogue (Ending α)}
    (hfair : (∀ c ev, q ≠ .record c ev) → q.Fair T)
    (hnext : h.Follows T (G s.id s.job) q next) : (h.perform s q next).Tended T.faults G := by
  refine tended_serve T.ordinary ht hset hwithin ?_ ?_ (serves_of_follows T hnext)
  · rintro c graphs input scope rfl name hname scopes id hid
    obtain ⟨hstarts, hscope⟩ := hfair nofun
    exact hnew _ _ _ (Nat.le_trans hle hid) (.map (T.fair_runGraph (hstarts name hname) input hscope))
  · rintro c name input scope rfl
    obtain ⟨hstarts, hscope⟩ := hfair nofun
    exact hnew _ _ _ hle
      (.map (Dialogue.Heeds.mono (T.fair_graphOutput hstarts input hscope) fun _ _ => trivial))

end

end Host

end TaskGraph
