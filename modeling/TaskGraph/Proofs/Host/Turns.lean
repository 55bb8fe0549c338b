import TaskGraph.Proofs.Host.Strands

/-!
# What a turn does to a host

Before the strand whose turn it is goes on or waits, the host does what it asks for: it adds strands for
the graphs that are forked or detached, it cancels branches, or it lets the strands that wait for
detached graphs look (`Host.perform_cases`). So a turn adds strands with new numbers at most
(`Host.adds_perform`), and the numbers of detached graphs change by those that a strand starts and by
those that end (`Host.inFlight_perform`, `Host.inFlight_conclude`).
-/

set_option autoImplicit false

namespace TaskGraph

open Running (Any)

variable {α : Type}

/-- The number of graphs that a request detaches in a run. -/
def Request.detaches (run : Nat) : Request → Nat
  | .detach c .. => if c.run = run then 1 else 0
  | _ => 0

/-- The number of graphs that a run has detached and that an ending ends. -/
def Ending.finishes (run : Nat) : Ending α → Nat
  | .detached r => if r = run then 1 else 0
  | _ => 0

/-- Whether a strand that is in a phase has to be woken before it goes on. -/
def Phase.waits : Phase α → Bool
  | .ready _ => false
  | _ => true

theorem Request.detaches_detach (run : Nat) (c : Context) (name : String) (input : Json)
    (scope : Scope) : (detach c name input scope).detaches run = if c.run = run then 1 else 0 :=
  rfl

theorem Ending.finishes_detached (run r : Nat) :
    (detached r : Ending α).finishes run = if r = run then 1 else 0 :=
  rfl

namespace Host

variable {h h' : Host α} {s : Strand α}

/-! ## Requests -/

theorem cancelled_recordAll (h : Host α) (c : Context) (evs : List HistoryEvent) :
    (h.recordAll c evs).cancelled = h.cancelled := by
  rw [recordAll_eq]

theorem queue_recordAll (h : Host α) (c : Context) (evs : List HistoryEvent) :
    (h.recordAll c evs).queue = h.queue := by
  rw [recordAll_eq]

theorem turn_recordAll (h : Host α) (c : Context) (evs : List HistoryEvent) :
    (h.recordAll c evs).turn = h.turn := by
  rw [recordAll_eq]

/-- Whether a host has the strands and the queue of another one, counts the same of its runs, has cancelled
the same scopes and is at the turn of the same job. -/
structure Matches (h h' : Host α) : Prop where
  strands : h'.strands = h.strands
  inFlight : ∀ run, h'.inFlight run = h.inFlight run
  cancelled : h'.cancelled = h.cancelled
  queue : h'.queue = h.queue
  turn : h'.turn = h.turn

/-- Observers may be told besides. -/
theorem Matches.of_tell {n : Notice} (hm : (h.tell n).Matches h') : h.Matches h' :=
  ⟨hm.strands, hm.inFlight, hm.cancelled, hm.queue, hm.turn⟩

/-- Whether a host is one that has done what a strand asks for, and only has to let it go on. -/
def Prepares (h : Host α) (s : Strand α) : Request → Host α → Prop
  | .detach c name input scope, h' => h' = h.detachGraph c name input scope
  | .fork c graphs input scope, h' => h' = (h.forkBranches s c input scope 0 graphs).1
  | .respond id response, h' => h' = { h with board := h.board.respond id response }.lookAll
  | .stop branches, h' => h' = h.stopBranches s branches
  | _, h' => h.Matches h'

/-- Whether a host is one on which a strand goes on or waits, and all else is as on another one. -/
def Resumes (s : Strand α) (h h' : Host α) : Prop :=
  (∃ branches code, h' = h.goOn { s with branches := branches } code) ∨
    ∃ p, Phase.waits p = true ∧ h' = h.wait s p

theorem resumes_goOn (h : Host α) (s : Strand α) (code : Dialogue (Ending α)) :
    h.Resumes s (h.goOn s code) :=
  .inl ⟨s.branches, code, rfl⟩

theorem resumes_wait (h : Host α) (s : Strand α) {p : Phase α} (hp : p.waits = true) :
    h.Resumes s (h.wait s p) :=
  .inr ⟨p, hp, rfl⟩

theorem resumes_evaluated {β : Type} (h : Host α) (s : Strand α) (evaluating : Evaluating β)
    (next : Except Fault β → Dialogue (Ending α)) :
    ∃ h', h.Matches h' ∧ h'.Resumes s (h.evaluated s evaluating next) :=
  ⟨{ h with evaluator := (h.evaluator.run evaluating).2 }, ⟨rfl, fun _ => rfl, rfl, rfl, rfl⟩, resumes_goOn _ s _⟩

theorem resumes_settle (h : Host α) (s : Strand α) (c : Context)
    (next : Except Fault Unit → Dialogue (Ending α)) : h.Resumes s (h.settle s c next) := by
  unfold settle
  split
  · exact resumes_goOn h s _
  · split
    · exact resumes_goOn h s _
    · exact resumes_wait _ s rfl

theorem resumes_sleep (h : Host α) (s : Strand α) (c : Context) (d : Duration)
    (next : Bool → Dialogue (Ending α)) : h.Resumes s (h.sleep s c d next) := by
  unfold sleep
  split
  · exact resumes_goOn h s _
  · split
    · exact resumes_goOn h s _
    · exact resumes_wait _ s rfl

theorem resumes_attempt (h : Host α) (s : Strand α) (c : Context) (r : CallRequest)
    (timeout : Duration) (next : Except Fault Json → Dialogue (Ending α)) :
    ∃ h', h.Matches h' ∧ h'.Resumes s (h.attempt s c r timeout next) := by
  rcases h.attempt_cases s c r timeout next with
    ⟨f, -, heq⟩ | ⟨reply, x, -, -, heq | ⟨due, heq⟩⟩ <;> rw [heq]
  · exact ⟨h, ⟨rfl, fun _ => rfl, rfl, rfl, rfl⟩, resumes_goOn h s _⟩
  · exact ⟨h.asking r.invocation, ⟨rfl, fun _ => rfl, rfl, rfl, rfl⟩, resumes_goOn _ s _⟩
  · exact ⟨h.asking r.invocation, ⟨rfl, fun _ => rfl, rfl, rfl, rfl⟩, resumes_wait _ s rfl⟩

theorem resumes_offered (h : Host α) (s : Strand α) (r : CallRequest)
    (next : Option (Except Fault Json) → Dialogue (Ending α)) :
    ∃ h', h.Matches h' ∧ h'.Resumes s (h.offered s r next) := by
  unfold offered
  dsimp only
  split
  · exact ⟨h, ⟨rfl, fun _ => rfl, rfl, rfl, rfl⟩, resumes_goOn h s _⟩
  · refine ⟨{ h with past := r.invocation :: h.past }, ⟨rfl, fun _ => rfl, rfl, rfl, rfl⟩, ?_⟩
    split
    · exact resumes_goOn _ s _
    · exact resumes_wait _ s rfl
    · exact resumes_wait _ s rfl

theorem resumes_listenAny (h : Host α) (s : Strand α) (c : Context) (mode : ListenMode)
    (next : Except Fault (List (String × Json)) → Dialogue (Ending α)) (all names : List String) :
    ∃ h', h.Matches h' ∧ h'.Resumes s (h.listenAny s c mode next all names) := by
  induction names generalizing h with
  | nil => exact ⟨h, ⟨rfl, fun _ => rfl, rfl, rfl, rfl⟩, resumes_wait _ s rfl⟩
  | cons name names ih =>
    unfold listenAny
    dsimp only
    split
    · next p b _ =>
      exact ⟨{ h.tell (.await name) with board := b }.record c (.signalReceived name),
        ⟨rfl, fun run => inFlight_record .., rfl, rfl, rfl⟩, resumes_goOn _ s _⟩
    · split
      · exact ⟨h.tell (.await name), ⟨rfl, fun _ => rfl, rfl, rfl, rfl⟩, resumes_goOn _ s _⟩
      · obtain ⟨h', hmatches, hresumes⟩ := ih (h.tell (.await name))
        exact ⟨h', hmatches.of_tell, hresumes⟩

theorem resumes_listenAll (h : Host α) (s : Strand α) (c : Context)
    (next : Except Fault (List (String × Json)) → Dialogue (Ending α)) (names : List String) :
    ∃ h', h.Matches h' ∧ h'.Resumes s (h.listenAll s c next names) := by
  -- to announce what is awaited changes nothing that has to match
  have htold (h : Host α) :
      h.Matches (names.foldl (fun (h : Host α) n => h.tell (.await n)) h) := by
    induction names generalizing h with
    | nil => exact ⟨rfl, fun _ => rfl, rfl, rfl, rfl⟩
    | cons name names ih => exact (ih (h.tell (.await name))).of_tell
  unfold listenAll
  obtain ⟨hstrands, hcount, hcancelled, hqueue, hturn⟩ := htold h
  revert hstrands hcount hcancelled hqueue hturn
  generalize names.foldl (fun (h : Host α) n => h.tell (.await n)) h = told
  intro hstrands hcount hcancelled hqueue hturn
  dsimp only
  rcases told.board.fill (names.map fun n => (n, none)) with ⟨slots, taken, b⟩
  refine ⟨{ told with board := b }.recordAll c (taken.map .signalReceived),
    ⟨?_, fun run => ?_, ?_, ?_, ?_⟩, ?_⟩
  · exact (strands_recordAll ..).trans hstrands
  · exact (inFlight_recordAll ..).trans (hcount run)
  · exact (cancelled_recordAll ..).trans hcancelled
  · exact (queue_recordAll ..).trans hqueue
  · exact (turn_recordAll ..).trans hturn
  · dsimp only
    split
    · exact resumes_goOn _ s _
    · split
      · exact resumes_goOn _ s _
      · exact resumes_wait _ s rfl

/-- The host does what a strand asks for, and then the strand goes on or waits. -/
theorem perform_cases (h : Host α) (s : Strand α) (q : Request)
    (next : q.Answer → Dialogue (Ending α)) :
    ∃ h', h.Prepares s q h' ∧ h'.Resumes s (h.perform s q next) := by
  cases q with
  | evaluate | traverse | check => exact resumes_evaluated h s _ next
  | cancelled | due | enter => exact ⟨h, ⟨rfl, fun _ => rfl, rfl, rfl, rfl⟩, resumes_goOn h s _⟩
  | settle c => exact ⟨h, ⟨rfl, fun _ => rfl, rfl, rfl, rfl⟩, resumes_settle h s c next⟩
  | record c ev => exact ⟨h.record c ev, ⟨rfl, fun run => inFlight_record .., rfl, rfl, rfl⟩, resumes_goOn _ s _⟩
  | tell n => exact ⟨h.tell n, ⟨rfl, fun _ => rfl, rfl, rfl, rfl⟩, resumes_goOn _ s _⟩
  | publish m =>
    exact ⟨{ h with attributes := h.attributes.insertAll m }, ⟨rfl, fun _ => rfl, rfl, rfl, rfl⟩, resumes_goOn _ s _⟩
  | respond id response => exact ⟨_, rfl, resumes_goOn _ s _⟩
  | fresh c => exact ⟨(h.open_ c).2, ⟨rfl, fun run => inFlight_open .., rfl, rfl, rfl⟩, resumes_goOn _ s _⟩
  | detach c name input scope => exact ⟨_, rfl, resumes_goOn _ s _⟩
  | fork c graphs input scope => exact ⟨_, rfl, .inl ⟨_, _, rfl⟩⟩
  | reply => exact ⟨h, ⟨rfl, fun _ => rfl, rfl, rfl, rfl⟩, resumes_wait _ s rfl⟩
  | stop branches => exact ⟨_, rfl, resumes_goOn _ s _⟩
  | offer r => exact resumes_offered h s r next
  | dispatch c r timeout => exact resumes_attempt h s c r timeout next
  | beat c interval =>
    refine ⟨(h.startHeartbeat c interval).2, ?_, resumes_goOn _ s _⟩
    show h.Matches (h.startHeartbeat c interval).2
    unfold startHeartbeat
    dsimp only
    split <;> exact ⟨rfl, fun _ => rfl, rfl, rfl, rfl⟩
  | still id =>
    exact ⟨{ h with heartbeats := h.heartbeats.filter (·.id != id) }, ⟨rfl, fun _ => rfl, rfl, rfl, rfl⟩,
      resumes_goOn _ s _⟩
  | pause c d => exact ⟨h, ⟨rfl, fun _ => rfl, rfl, rfl, rfl⟩, resumes_sleep h s c d next⟩
  | listen c mode names =>
    cases mode with
    | all => exact resumes_listenAll h s c next names
    | one => exact resumes_listenAny h s c .one next names names
    | any => exact resumes_listenAny h s c .any next names names

/-! ## Phases of the other strands -/

section

variable {P : Nat → Nat → Phase α → Prop}
  (hlook : ∀ i j c due next, P i j (.settling c due next) →
    (h.inFlight c.run = 0 → P i j (.ready (next (.ok ())))) ∧ ∀ due', P i j (.settling c due' next))
  (hnew : ∀ i j code, h.fresh ≤ i → P i j (.ready code))

include hnew in
theorem Every.forkBranches (ht : h.Every P) (c : Context) (input : Json) (scope : Scope) (i : Nat)
    (graphs : List String) : (h.forkBranches s c input scope i graphs).1.Every P := by
  induction graphs generalizing h i with
  | nil => exact ht
  | cons graph graphs ih =>
    unfold Host.forkBranches
    dsimp only
    have hcounted : ({ h with fresh := h.fresh + 2 } : Host α).Every P := ht
    refine ih (fun i j code hle => hnew i j code ?_) (hcounted.spawn (hnew _ _ _ (Nat.le_refl _))) _
    exact Nat.le_trans (Nat.le_add_right _ 2) hle

include hlook hnew

/-- What a host does for a strand, unless it stops branches, is right for the phases of all, if strands
that are added may be in any phase. -/
theorem Every.prepares (ht : h.Every P) {q : Request} (hstop : ∀ branches, q ≠ .stop branches)
    (hprepares : h.Prepares s q h') : h'.Every P := by
  cases q with
  | detach c name input scope =>
    obtain rfl := hprepares
    have hcounted (runs : Array RunLog) (fresh : Nat) :
        ({ h with runs := runs, fresh := fresh } : Host α).Every P := ht
    exact (hcounted _ _).spawn (hnew _ _ _ (Nat.le_refl _))
  | fork c graphs input scope =>
    obtain rfl := hprepares
    exact ht.forkBranches hnew c input scope 0 graphs
  | respond id response =>
    obtain rfl := hprepares
    have hresponded : ({ h with board := h.board.respond id response } : Host α).Every P := ht
    exact hresponded.lookAll hlook
  | stop branches => exact absurd rfl (hstop branches)
  | _ => exact ht.of_strands hprepares.strands

/-- A turn in which no branches are stopped is right for the phases of all, if the strand whose turn it
is may be in any phase. -/
theorem Every.perform (ht : h.Every P) (hself : ∀ p, P s.id s.job p) (q : Request)
    (hstop : ∀ branches, q ≠ .stop branches) (next : q.Answer → Dialogue (Ending α)) :
    (h.perform s q next).Every P := by
  obtain ⟨h', hprepares, hresumes⟩ := h.perform_cases s q next
  have ht' : h'.Every fun i j p => i ≠ s.id → P i j p :=
    Every.mono (ht.prepares hlook hnew hstop hprepares) fun _ _ _ hp _ => hp
  rcases hresumes with ⟨branches, code, heq⟩ | ⟨p, -, heq⟩ <;> rw [heq]
  · exact Every.goOn (s := { s with branches := branches }) ht' (hself _)
  · exact ht'.wait (hself _)

end

/-! ## Cancelled scopes -/

theorem cancelled_foldl {β : Type} {f : Host α → β → Host α}
    (hf : ∀ h x, (f h x).cancelled = h.cancelled) (h : Host α) (xs : List β) :
    (xs.foldl f h).cancelled = h.cancelled := by
  induction xs generalizing h with
  | nil => rfl
  | cons x xs ih => exact (ih (f h x)).trans (hf h x)

theorem cancelled_look (h : Host α) (s : Strand α) : (h.look s).cancelled = h.cancelled := by
  unfold look
  split
  · split <;> rfl
  · rfl

theorem cancelled_lookAll (h : Host α) : h.lookAll.cancelled = h.cancelled :=
  cancelled_foldl cancelled_look ..

theorem cancelled_feed (h : Host α) (s : Strand α) : (h.feed s).cancelled = h.cancelled := by
  unfold feed
  split
  · rfl
  · next c taken b p _ =>
    have hrecorded := cancelled_recordAll { h with board := b } c (taken.map .signalReceived)
    split <;> exact hrecorded

theorem cancelled_deliver (h : Host α) (name : String) (payload : Json) :
    (h.deliver name payload).cancelled = h.cancelled :=
  (cancelled_lookAll _).trans (cancelled_foldl cancelled_feed ..)

theorem cancelled_arrive (h : Host α) (s : Strand α) : (h.arrive s).cancelled = h.cancelled := by
  unfold arrive
  split
  · rfl
  · rfl
  · rfl
  · exact cancelled_look _ s
  · rfl

theorem cancelled_conclude (h : Host α) (s : Strand α) (ending : Ending α) :
    (h.conclude s ending).cancelled = h.cancelled := by
  unfold conclude
  cases ending with
  | result v => rfl
  | detached run => rfl
  | branch reply =>
    cases s.parent with
    | none => rfl
    | some parent =>
      show ((h.remove s.id).replyTo ..).cancelled = _
      unfold replyTo
      split
      · rfl
      · split <;> rfl

theorem cancelled_forkBranches (h : Host α) (s : Strand α) (c : Context) (input : Json)
    (scope : Scope) (i : Nat) (graphs : List String) :
    (h.forkBranches s c input scope i graphs).1.cancelled = h.cancelled := by
  induction graphs generalizing h i with
  | nil => rfl
  | cons graph graphs ih => exact ih _ _

/-- In a turn in which no branches are stopped, no scope is cancelled. -/
theorem cancelled_perform (h : Host α) (s : Strand α) (q : Request)
    (hstop : ∀ branches, q ≠ .stop branches) (next : q.Answer → Dialogue (Ending α)) :
    (h.perform s q next).cancelled = h.cancelled := by
  obtain ⟨h', hprepares, hresumes⟩ := h.perform_cases s q next
  have hresumed : (h.perform s q next).cancelled = h'.cancelled := by
    rcases hresumes with ⟨_, _, heq⟩ | ⟨_, -, heq⟩ <;> rw [heq] <;> rfl
  rw [hresumed]
  cases q with
  | detach c name input scope => exact hprepares ▸ rfl
  | fork c graphs input scope => exact hprepares ▸ cancelled_forkBranches ..
  | respond id response => exact hprepares ▸ cancelled_lookAll _
  | stop branches => exact absurd rfl (hstop branches)
  | _ => exact hprepares.cancelled

/-! ## Numbers of strands -/

/-- The numbers of the strands. -/
def ids (h : Host α) : List Nat := h.strands.map Strand.id

theorem mem_ids {id : Nat} : id ∈ h.ids ↔ ∃ s ∈ h.strands, s.id = id := List.mem_map

@[simp] theorem ids_put (h : Host α) (s : Strand α) : (h.put s).ids = h.ids := by
  unfold ids put
  rw [List.map_map]
  refine List.map_congr_left fun t _ => ?_
  by_cases hid : t.id = s.id <;> simp [hid]

@[simp] theorem ids_wake (h : Host α) (s : Strand α) (code : Dialogue (Ending α)) :
    (h.wake s code).ids = h.ids :=
  ids_put h { s with phase := .ready code }

@[simp] theorem ids_remove (h : Host α) (id : Nat) : (h.remove id).ids = h.ids.filter (· != id) := by
  unfold ids remove
  rw [List.filter_map]
  rfl

@[simp] theorem ids_spawn (h : Host α) (s : Strand α) : (h.spawn s).ids = h.ids ++ [s.id] :=
  List.map_append

theorem ids_foldl {β : Type} {f : Host α → β → Host α} (hf : ∀ h x, (f h x).ids = h.ids)
    (h : Host α) (xs : List β) : (xs.foldl f h).ids = h.ids := by
  induction xs generalizing h with
  | nil => rfl
  | cons x xs ih => exact (ih (f h x)).trans (hf h x)

@[simp] theorem ids_cancel (h : Host α) (scope : Nat) : (h.cancel scope).ids = h.ids := by
  refine ids_foldl (fun h s => ?_) _ _
  unfold interrupt
  split
  · split
    · exact ids_wake ..
    · rfl
  · rfl

@[simp] theorem ids_stopBranches (h : Host α) (s : Strand α) (branches : List Nat) :
    (h.stopBranches s branches).ids = h.ids :=
  ids_foldl ids_cancel _ _

@[simp] theorem ids_look (h : Host α) (s : Strand α) : (h.look s).ids = h.ids := by
  unfold look
  split
  · split
    · exact ids_wake ..
    · exact ids_put ..
  · rfl

@[simp] theorem ids_lookAll (h : Host α) : h.lookAll.ids = h.ids := ids_foldl ids_look _ _

@[simp] theorem ids_feed (h : Host α) (s : Strand α) : (h.feed s).ids = h.ids := by
  unfold feed
  split
  · rfl
  · next c taken b p _ =>
    have hrecorded : ({ h with board := b }.recordAll c (taken.map .signalReceived)).ids = h.ids :=
      congrArg (List.map Strand.id) (strands_recordAll ..)
    split
    · exact (ids_wake ..).trans hrecorded
    · exact (ids_put ..).trans hrecorded

@[simp] theorem ids_deliver (h : Host α) (name : String) (payload : Json) :
    (h.deliver name payload).ids = h.ids :=
  (ids_lookAll _).trans (ids_foldl ids_feed _ _)

@[simp] theorem ids_replyTo (h : Host α) (parent branch : Nat) (reply : Except Fault Json) :
    (h.replyTo parent branch reply).ids = h.ids := by
  unfold replyTo
  split
  · rfl
  · split
    · exact ids_put ..
    · rfl

@[simp] theorem ids_arrive (h : Host α) (s : Strand α) : (h.arrive s).ids = h.ids := by
  unfold arrive
  split
  · exact ids_wake ..
  · exact ids_wake ..
  · exact ids_wake ..
  · exact ids_look ..
  · rfl

@[simp] theorem ids_strike (h : Host α) (t : Nat) (a : Appointment α) : (h.strike t a).ids = h.ids := by
  cases a <;> rfl

/-- A strand that has ended is gone, and no other one is. -/
@[simp] theorem ids_conclude (h : Host α) (s : Strand α) (ending : Ending α) :
    (h.conclude s ending).ids = h.ids.filter (· != s.id) := by
  unfold conclude
  cases ending with
  | result v => exact ids_remove ..
  | branch reply =>
    cases s.parent with
    | none => exact ids_remove ..
    | some parent => exact (ids_replyTo ..).trans (ids_remove ..)
  | detached run => exact ids_remove ..

/-- A strand that has ended is counted no more. -/
theorem countP_ids_conclude (hn : h.ids.Nodup) (hs : s ∈ h.strands) (ending : Ending α) (p : Nat → Bool) :
    h.ids.countP p = (h.conclude s ending).ids.countP p + if p s.id then 1 else 0 := by
  have hperm := List.perm_cons_erase (mem_ids.2 ⟨s, hs, rfl⟩)
  rw [hn.erase_eq_filter, ← ids_conclude h s ending] at hperm
  rw [hperm.countP_eq, List.countP_cons]

/-- Whether strands have different numbers, and the next number is not among them. -/
structure Numbered (h : Host α) : Prop where
  nodup : h.ids.Nodup
  below : ∀ id ∈ h.ids, id < h.fresh

/-- Whether a host has the strands of another one, and besides some with new numbers. -/
structure Adds (h h' : Host α) (new : List Nat) : Prop where
  ids : h'.ids.Perm (h.ids ++ new)
  nodup : new.Nodup
  fresh : ∀ id ∈ new, h.fresh ≤ id ∧ id < h'.fresh

/-- Strands that are left have different numbers still. -/
theorem Numbered.sublist (hn : h.Numbered) (hids : h'.ids.Sublist h.ids) (hfresh : h.fresh ≤ h'.fresh) :
    h'.Numbered :=
  ⟨hids.nodup hn.nodup, fun id hid => Nat.lt_of_lt_of_le (hn.below id (hids.subset hid)) hfresh⟩

theorem Numbered.adds (hn : h.Numbered) {new : List Nat} (ha : h.Adds h' new)
    (hfresh : h.fresh ≤ h'.fresh) : h'.Numbered where
  nodup := by
    refine ha.ids.nodup_iff.2 (List.nodup_append.2 ⟨hn.nodup, ha.nodup, fun a hold b hnew heq => ?_⟩)
    have hlt := hn.below a hold
    have hle := (ha.fresh b hnew).1
    omega
  below id hid := by
    rcases List.mem_append.1 (ha.ids.mem_iff.1 hid) with hold | hnew
    · exact Nat.lt_of_lt_of_le (hn.below id hold) hfresh
    · exact (ha.fresh id hnew).2

/-- The first branch of a fork takes the next number, and the others come after it. -/
theorem forkBranches_cons (h : Host α) (s : Strand α) (c : Context) (input : Json) (scope : Scope)
    (i : Nat) (graph : String) (graphs : List String) :
    ∃ branch : Strand α, branch.id = h.fresh ∧
      (h.forkBranches s c input scope i (graph :: graphs)).1 =
        (({ h with fresh := h.fresh + 2 }.spawn branch).forkBranches s c input scope (i + 1)
          graphs).1 :=
  ⟨_, rfl, rfl⟩

theorem adds_forkBranches (h : Host α) (s : Strand α) (c : Context) (input : Json) (scope : Scope)
    (i : Nat) (graphs : List String) :
    ∃ new, h.Adds (h.forkBranches s c input scope i graphs).1 new ∧ new.length = graphs.length := by
  induction graphs generalizing h i with
  | nil => exact ⟨[], ⟨.of_eq (List.append_nil _).symm, .nil, nofun⟩, rfl⟩
  | cons graph graphs ih =>
    obtain ⟨branch, hid, hcons⟩ := h.forkBranches_cons s c input scope i graph graphs
    rw [hcons]
    -- the first branch takes the next number, and those of the others are larger
    have hspawned : ({ h with fresh := h.fresh + 2 }.spawn branch).ids = h.ids ++ [h.fresh] := by
      rw [ids_spawn, hid]
      rfl
    revert hspawned
    generalize hfirst : { h with fresh := h.fresh + 2 }.spawn branch = first
    intro hspawned
    have hnext : first.fresh = h.fresh + 2 := by rw [← hfirst]; rfl
    have hgrown := (grows_forkBranches (N := Any) (V := Any) first s c input scope (i + 1) graphs).fresh
    obtain ⟨new, ⟨hids, hnodup, hfresh⟩, hlength⟩ := ih first (i + 1)
    refine ⟨h.fresh :: new, ⟨?_, List.nodup_cons.2 ⟨fun hmem => ?_, hnodup⟩, fun id hmem => ?_⟩,
      congrArg (· + 1) hlength⟩
    · rw [hspawned, List.append_assoc] at hids
      exact hids
    · have hle := (hfresh _ hmem).1
      omega
    · rcases List.mem_cons.1 hmem with rfl | hmem
      · omega
      · have hbounds := hfresh id hmem
        omega

/-- Strands that wait or go on have their numbers still. -/
theorem Resumes.ids (hresumes : h.Resumes s h') (hnodup : h.ids.Nodup) (hs : s.id ∈ h.ids) :
    h'.ids.Perm h.ids := by
  rcases hresumes with ⟨branches, code, rfl⟩ | ⟨p, -, rfl⟩
  · exact .of_eq (ids_put h { s with branches := branches, phase := .ready code })
  · have hids : (h.wait s p).ids = h.ids.filter (· != s.id) ++ [s.id] := by
      unfold Host.ids wait
      rw [List.map_append, List.filter_map]
      rfl
    rw [hids, ← hnodup.erase_eq_filter]
    exact (List.perm_append_singleton _ _).trans (List.perm_cons_erase hs).symm

theorem Resumes.fresh (hresumes : h.Resumes s h') : h'.fresh = h.fresh := by
  rcases hresumes with ⟨_, _, rfl⟩ | ⟨_, -, rfl⟩ <;> rfl

/-- Whether a turn may add strands of these numbers: one for each branch of a fork, and for a graph that is
detached the next one. -/
def Spawns (h : Host α) : Request → List Nat → Prop
  | .detach .., new => new = [h.fresh]
  | .fork _ graphs _ _, new => new.length = graphs.length
  | _, new => new = []

theorem adds_prepares {q : Request} (hprepares : h.Prepares s q h') :
    ∃ new, h.Adds h' new ∧ h.Spawns q new := by
  have hsame (hids : h'.ids = h.ids) : h.Adds h' [] :=
    ⟨.of_eq (hids.trans (List.append_nil _).symm), .nil, nofun⟩
  cases q with
  | detach c name input scope =>
    obtain rfl := hprepares
    refine ⟨[h.fresh], ⟨.of_eq ?_, List.pairwise_singleton _ _, fun id hid => ?_⟩, rfl⟩
    · exact ids_spawn ({ h.modifyRun c.run _ with fresh := h.fresh + 1 }) _
    · obtain rfl := List.mem_singleton.1 hid
      exact ⟨Nat.le_refl _, Nat.lt_succ_self _⟩
  | fork c graphs input scope =>
    obtain rfl := hprepares
    exact adds_forkBranches h s c input scope 0 graphs
  | respond id response =>
    obtain rfl := hprepares
    exact ⟨[], hsame (ids_lookAll _), rfl⟩
  | stop branches =>
    obtain rfl := hprepares
    exact ⟨[], hsame (ids_stopBranches ..), rfl⟩
  | _ => exact ⟨[], hsame (congrArg (List.map Strand.id) hprepares.strands), rfl⟩

/-- A turn adds strands with new numbers at most. -/
theorem adds_perform (hn : h.Numbered) (hs : s ∈ h.strands) (q : Request)
    (next : q.Answer → Dialogue (Ending α)) :
    ∃ new, h.Adds (h.perform s q next) new ∧ h.Spawns q new := by
  obtain ⟨h', hprepares, hresumes⟩ := h.perform_cases s q next
  obtain ⟨new, ha, hspawns⟩ := adds_prepares hprepares
  refine ⟨new, ⟨?_, ha.nodup, ?_⟩, hspawns⟩
  · refine (hresumes.ids (ha.ids.nodup_iff.2 ?_) (ha.ids.mem_iff.2 ?_)).trans ha.ids
    · refine List.nodup_append.2 ⟨hn.nodup, ha.nodup, fun a hold b hnew heq => ?_⟩
      have hlt := hn.below a hold
      have hle := (ha.fresh b hnew).1
      omega
    · exact List.mem_append_left _ (mem_ids.2 ⟨s, hs, rfl⟩)
  · rw [hresumes.fresh]
    exact ha.fresh

/-! ## Numbers of strands and of runs grow -/

/-- Whether a host has given out no fewer numbers and opened no fewer runs than another one. -/
structure Later (h h' : Host α) : Prop where
  fresh : h.fresh ≤ h'.fresh
  runs : h.runs.size ≤ h'.runs.size

theorem Grows.later {N : Notice → Prop} {V : HistoryEvent → Prop} (hg : Grows N V h h') :
    h.Later h' :=
  ⟨hg.fresh, hg.runs⟩

theorem later_of_core (heq : h'.core = h.core) : h.Later h' := (Grows.of_core (N := Any) (V := Any) heq).later

theorem later_perform (h : Host α) (s : Strand α) (q : Request)
    (next : q.Answer → Dialogue (Ending α)) : h.Later (h.perform s q next) :=
  (grows_perform (N := Any) (V := Any) (fun _ _ => trivial) (fun _ => trivial) h s q next
    (fun _ _ => trivial) fun _ _ _ => trivial).later

theorem later_conclude (h : Host α) (s : Strand α) (ending : Ending α) :
    h.Later (h.conclude s ending) := by
  by_cases hresult : ∃ v, ending = .result v
  · obtain ⟨v, rfl⟩ := hresult
    exact ⟨Nat.le_refl _, Nat.le_refl _⟩
  · exact (grows_conclude (N := Any) (V := Any) h s fun v heq => hresult ⟨v, heq⟩).later

theorem later_stepStrand (h : Host α) (s : Strand α) : h.Later (h.stepStrand s) := by
  unfold stepStrand
  split
  · next ending _ =>
    have hconcluded := later_conclude { h with
      turn := some s.job, queue := s.id :: h.queue.filter (· != s.id) } s ending
    exact ⟨hconcluded.fresh, hconcluded.runs⟩
  · next q next _ =>
    have hperformed := later_perform { h with
      turn := some s.job, queue := s.id :: h.queue.filter (· != s.id) } s q next
    exact ⟨hperformed.fresh, hperformed.runs⟩
  · exact ⟨Nat.le_refl _, Nat.le_refl _⟩

theorem later_keep (h : Host α) (a : Appointment α) : h.Later (h.keep a) := by
  cases a with
  | strand s => exact later_of_core (core_arrive h s)
  | beat b => exact ⟨Nat.le_refl _, Nat.le_of_eq (Array.size_modify ..).symm⟩
  | occurrence o =>
    cases o with
    | signal name payload =>
      have hdelivered := (grows_deliver (N := Any) (V := Any) (fun _ => trivial)
        { h with turn := none } name payload).later
      exact ⟨hdelivered.fresh, hdelivered.runs⟩
    | cancel => exact later_of_core (core_cancel { h with turn := none } rootScope)
  | deadline v =>
    have hstopped := later_of_core ((core_cancel (((h.strands.filter (·.job == mainJob)).map
      Strand.id).foldl remove h) rootScope).trans (core_foldl core_remove ..))
    exact ⟨hstopped.fresh, hstopped.runs⟩

/-! ## Numbers of detached graphs -/

theorem inFlight_forkBranches (h : Host α) (s : Strand α) (c : Context) (input : Json)
    (scope : Scope) (i : Nat) (graphs : List String) (run : Nat) :
    (h.forkBranches s c input scope i graphs).1.inFlight run = h.inFlight run := by
  induction graphs generalizing h i with
  | nil => rfl
  | cons graph graphs ih =>
    obtain ⟨branch, -, hcons⟩ := h.forkBranches_cons s c input scope i graph graphs
    rw [hcons]
    exact ih _ _

theorem inFlight_detachGraph (h : Host α) (c : Context) (name : String) (input : Json)
    (scope : Scope) {run : Nat} (hrun : c.run = run → run < h.runs.size) :
    (h.detachGraph c name input scope).inFlight run =
      h.inFlight run + (Request.detach c name input scope).detaches run := by
  show (h.modifyRun c.run fun r => { r with inFlight := r.inFlight + 1 }).inFlight run = _
  rw [inFlight_modifyRun, Request.detaches_detach]
  by_cases heq : c.run = run
  · rw [if_pos heq, if_pos heq, inFlight_eq, Array.getElem?_eq_getElem (hrun heq)]
    rfl
  · rw [if_neg heq, if_neg heq, Nat.add_zero]

/-- With a turn, the number of graphs that a run has detached grows by those that the strand detaches
in it. -/
theorem inFlight_perform (h : Host α) (s : Strand α) (q : Request)
    (next : q.Answer → Dialogue (Ending α)) {run : Nat}
    (hrun : q.detaches run ≠ 0 → run < h.runs.size) :
    (h.perform s q next).inFlight run = h.inFlight run + q.detaches run := by
  obtain ⟨h', hprepares, hresumes⟩ := h.perform_cases s q next
  -- to go on or to wait detaches nothing, so what counts is what the host did before
  have hresumed : (h.perform s q next).inFlight run = h'.inFlight run := by
    rcases hresumes with ⟨_, _, heq⟩ | ⟨_, -, heq⟩ <;> rw [heq] <;> rfl
  rw [hresumed]
  cases q with
  | detach c name input scope =>
    obtain rfl := hprepares
    refine inFlight_detachGraph h c name input scope fun heq => hrun ?_
    rw [Request.detaches_detach, if_pos heq]
    exact Nat.one_ne_zero
  | fork c graphs input scope =>
    obtain rfl := hprepares
    exact inFlight_forkBranches ..
  | respond id response =>
    obtain rfl := hprepares
    exact inFlight_of_core (core_lookAll { h with board := h.board.respond id response }) run
  | stop branches =>
    obtain rfl := hprepares
    exact inFlight_of_core (core_stopBranches ..) run
  | _ => exact hprepares.inFlight run

/-- With the end of a strand, the number of graphs that a run has detached shrinks if it was one. -/
theorem inFlight_conclude (h : Host α) (s : Strand α) (ending : Ending α) (run : Nat) :
    (h.conclude s ending).inFlight run = h.inFlight run - ending.finishes run := by
  unfold conclude
  cases ending with
  | result v => rfl
  | branch reply =>
    cases s.parent with
    | none => rfl
    | some parent => exact inFlight_of_core ((core_replyTo ..).trans (core_remove ..)) run
  | detached r =>
    show ((h.remove s.id).modifyRun r fun r => { r with inFlight := r.inFlight - 1 }).inFlight run = _
    rw [inFlight_modifyRun, Ending.finishes_detached]
    by_cases heq : r = run
    · rw [if_pos heq, if_pos heq, inFlight_eq]
      show _ = ((h.runs[run]?).map RunLog.inFlight).getD 0 - 1
      have hruns : (h.remove s.id).runs = h.runs := rfl
      rw [hruns]
      cases h.runs[run]? <;> rfl
    · rw [if_neg heq, if_neg heq]
      rfl

end Host

end TaskGraph
