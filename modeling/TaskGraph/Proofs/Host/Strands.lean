import TaskGraph.Proofs.Host.Growth
import TaskGraph.Proofs.Restart.Course

/-!
# What the strands of a host are at

A strand waits in a phase and goes on from it as the host wakes it: with an answer, with the end of its
time, or with a cancellation. `Phase.Leads` says that whatever it goes on as has a property, and
`Host.Tended` says so of all strands of a host. What a host does to a strand that is not its turn to run
keeps this up by itself; of the strand whose turn it is only the next piece of code has to be looked at
(`Host.tended_perform`, `Host.tended_conclude`).

The answers that the host gives are those of `Request.Kept`, as long as its handlers end in no other
faults than the terms allow.
-/

set_option autoImplicit false

namespace TaskGraph

open Running (Any Result)

variable {α : Type}

/-- The code of a strand of a host that runs a program. -/
abbrev Code := Dialogue (Ending Host.RunResult)

/-! ## Phases -/

namespace Phase

/-- Whether a strand goes on from a phase as code with a property, if handlers, signals and branches end
in no other faults than these. -/
def Leads (E : Fault → Prop) (G : Dialogue (Ending α) → Prop) : Phase α → Prop
  | ready code | delayed _ code => G code
  | calling _ _ _ result next => Result E Any result ∧ ∀ x, Result E Any x → G (next x)
  | pausing _ _ next => ∀ up, G (next up)
  | settling _ _ next => ∀ x, G (next x)
  | listening _ _ _ next => ∀ x, Result E Any x → G (next x)
  | joining next => ∀ x : Nat × Except Fault Json, Result E Any x.2 → G (next x)

variable {E : Fault → Prop} {G G' : Dialogue (Ending α) → Prop} {p : Phase α}

theorem Leads.mono (h : p.Leads E G) (imp : ∀ code, G code → G' code) : p.Leads E G' := by
  cases p with
  | ready | delayed => exact imp _ h
  | calling => exact ⟨h.1, fun x hx => imp _ (h.2 x hx)⟩
  | pausing | settling => exact fun x => imp _ (h x)
  | listening | joining => exact fun x hx => imp _ (h x hx)

/-- A strand that is woken because its context is cancelled. -/
theorem Leads.of_interrupted (hE : ∀ scope, E (.cancelled scope)) (h : p.Leads E G) {c : Context}
    {code : Dialogue (Ending α)} (hp : Host.interrupted p = some (c, code)) : G code := by
  cases p with
  | calling =>
    cases hp
    exact h.2 _ (hE _)
  | pausing =>
    cases hp
    exact h _
  | settling =>
    cases hp
    exact h _
  | listening =>
    cases hp
    exact h _ (hE _)
  | ready | delayed | joining => cases hp

/-- A strand that takes signals from the board. -/
theorem Leads.of_receive {b b' : Board} (h : p.Leads E G) {c : Context} {taken : List String}
    {p' : Phase α} (hp : Host.receive b p = some (c, taken, b', p')) : p'.Leads E G := by
  cases p with
  | listening c' mode slots next =>
    cases mode with
    | all =>
      simp only [Host.receive] at hp
      rcases b.fill slots with ⟨slots', taken', b''⟩
      split at hp <;> cases hp
      · exact h _ trivial
      · exact h
    | one | any =>
      simp only [Host.receive] at hp
      split at hp <;> cases hp
      · exact h _ trivial
      · exact h
  | _ => cases hp

end Phase

/-! ## Strands -/

namespace Host

/-- Whether a strand of a host is about to make a request. -/
def Asks (h : Host α) (q : Request) : Prop :=
  ∃ s ∈ h.strands, ∃ next, s.phase = .ready (.ask q next)

/-- Whether every strand of a host is in a phase that is right for its number and its job. -/
def Every (P : Nat → Nat → Phase α → Prop) (h : Host α) : Prop :=
  ∀ s ∈ h.strands, P s.id s.job s.phase

/-- Whether every strand of a host goes on as code that is right for its number and its job. -/
def Tended (E : Fault → Prop) (G : Nat → Nat → Dialogue (Ending α) → Prop) (h : Host α) : Prop :=
  h.Every fun i j p => p.Leads E (G i j)

/-- The same of every strand but those of one number. -/
abbrev TendedBut (E : Fault → Prop) (G : Nat → Nat → Dialogue (Ending α) → Prop) (id : Nat)
    (h : Host α) : Prop :=
  h.Tended E fun i j code => i ≠ id → G i j code

variable {h : Host α} {s : Strand α}

theorem mem_inOrder : s ∈ h.inOrder ↔ s ∈ h.strands := by
  unfold inOrder
  rw [List.partition_eq_filter_filter]
  by_cases hjob : s.job = mainJob <;> simp [hjob]

theorem mem_latestFirst : s ∈ h.latestFirst ↔ s ∈ h.strands := by
  unfold latestFirst
  rw [List.mem_mergeSort, mem_inOrder]

/-- Events are written to the histories and to nothing else. -/
theorem recordAll_eq (h : Host α) (c : Context) (evs : List HistoryEvent) :
    h.recordAll c evs = { h with runs := (h.recordAll c evs).runs } := by
  unfold recordAll
  induction evs generalizing h with
  | nil => rfl
  | cons ev evs ih => exact ih (h.record c ev)

theorem strands_recordAll (h : Host α) (c : Context) (evs : List HistoryEvent) :
    (h.recordAll c evs).strands = h.strands := by
  rw [recordAll_eq]

theorem strands_strike (h : Host α) (t : Nat) (a : Appointment α) :
    (h.strike t a).strands = h.strands := by
  cases a <;> rfl

/-! ### Phases that are right -/

section

variable {P P' : Nat → Nat → Phase α → Prop}

theorem Every.mono (ht : h.Every P) (imp : ∀ i j p, P i j p → P' i j p) : h.Every P' :=
  fun s hs => imp s.id s.job s.phase (ht s hs)

theorem Every.of_strands {h' : Host α} (ht : h.Every P) (heq : h'.strands = h.strands) :
    h'.Every P :=
  fun s hs => ht s (heq ▸ hs)

/-- A strand that is put in its place need not have been looked at. -/
theorem every_put (ht : h.Every fun i j p => i ≠ s.id → P i j p) (hs : P s.id s.job s.phase) :
    (h.put s).Every P := by
  intro t hmem
  obtain ⟨t', ht', rfl⟩ := List.mem_map.1 hmem
  split
  · exact hs
  · next hne => exact ht t' ht' hne

theorem Every.put (ht : h.Every P) (hs : P s.id s.job s.phase) : (h.put s).Every P :=
  every_put (ht.mono fun _ _ _ hp _ => hp) hs

theorem Every.wake (ht : h.Every P) {code : Dialogue (Ending α)}
    (hcode : P s.id s.job (.ready code)) : (h.wake s code).Every P :=
  Every.put (s := { s with phase := .ready code }) ht hcode

theorem Every.spawn (ht : h.Every P) (hs : P s.id s.job s.phase) : (h.spawn s).Every P := by
  intro t hmem
  rcases List.mem_append.1 hmem with hmem | hmem
  · exact ht t hmem
  · rw [List.mem_singleton.1 hmem]
    exact hs

/-- Strands that are gone need not be looked at. -/
theorem Every.remove {id : Nat} (ht : h.Every fun i j p => i ≠ id → P i j p) :
    (h.remove id).Every P := by
  intro t hmem
  obtain ⟨hmem, hid⟩ := List.mem_filter.1 hmem
  exact ht t hmem (by simpa using hid)

/-- The strand whose turn it is goes on, and the others are as they were. -/
theorem Every.goOn (ht : h.Every fun i j p => i ≠ s.id → P i j p) {code : Dialogue (Ending α)}
    (hcode : P s.id s.job (.ready code)) : (h.goOn s code).Every P :=
  every_put (s := { s with phase := .ready code }) ht hcode

theorem Every.wait (ht : h.Every fun i j p => i ≠ s.id → P i j p) {p : Phase α}
    (hp : P s.id s.job p) : (h.wait s p).Every P := by
  intro t hmem
  rcases List.mem_append.1 hmem with hmem | hmem
  · exact Every.remove ht t hmem
  · rw [List.mem_singleton.1 hmem]
    exact hp

theorem Every.foldl {β : Type} {f : Host α → β → Host α} (ht : h.Every P) (xs : List β)
    (hf : ∀ h : Host α, h.Every P → ∀ x ∈ xs, (f h x).Every P) : (xs.foldl f h).Every P := by
  induction xs generalizing h with
  | nil => exact ht
  | cons x xs ih =>
    exact ih (hf h ht x (List.mem_cons_self ..)) fun h ht y hy =>
      hf h ht y (List.mem_cons_of_mem _ hy)

/-! ### Cancelling -/

theorem isCancelled_interrupt (h : Host α) (s : Strand α) (c : Context) :
    (h.interrupt s).isCancelled c = h.isCancelled c := by
  unfold Host.interrupt
  split
  · split <;> rfl
  · rfl

theorem isCancelled_interrupts (h : Host α) (ss : List (Strand α)) (c : Context) :
    (ss.foldl Host.interrupt h).isCancelled c = h.isCancelled c := by
  induction ss generalizing h with
  | nil => rfl
  | cons s ss ih => exact (ih _).trans (isCancelled_interrupt h s c)

theorem isCancelled_cancel (h : Host α) (scope : Nat) (c : Context) :
    (h.cancel scope).isCancelled c = c.scopes.any (scope :: h.cancelled).contains :=
  isCancelled_interrupts ..

/-- A context that is cancelled stays so. -/
theorem isCancelled_cancel_of (scope : Nat) {c : Context} (hc : h.isCancelled c = true) :
    (h.cancel scope).isCancelled c = true := by
  obtain ⟨inner, hinner, hmem⟩ := List.any_eq_true.1 hc
  rw [isCancelled_cancel]
  refine List.any_eq_true.2 ⟨inner, hinner, List.contains_iff_mem.2 ?_⟩
  exact List.mem_cons_of_mem _ (List.contains_iff_mem.1 hmem)

theorem isCancelled_cancels_of (scopes : List Nat) {c : Context} (hc : h.isCancelled c = true) :
    (scopes.foldl Host.cancel h).isCancelled c = true := by
  induction scopes generalizing h with
  | nil => exact hc
  | cons scope scopes ih => exact ih (isCancelled_cancel_of scope hc)

/-- Strands are looked at one after the other: one whose context is cancelled is woken, and any other
one is left as it was. -/
theorem Every.interrupts (ss : List (Strand α)) (hss : ∀ s ∈ ss, P s.id s.job s.phase)
    (hcut : ∀ i j p c code, P i j p → interrupted p = some (c, code) → h.isCancelled c = true →
      P' i j (.ready code))
    (hkeep : ∀ i j p, P i j p → (∀ c code, interrupted p = some (c, code) →
      h.isCancelled c = false) → P' i j p)
    (hstrands : ∀ s ∈ h.strands, P' s.id s.job s.phase ∨ s ∈ ss) :
    (ss.foldl Host.interrupt h).Every P' := by
  induction ss generalizing h with
  | nil => exact fun s hs => (hstrands s hs).resolve_right List.not_mem_nil
  | cons s ss ih =>
    have hs := hss s (List.mem_cons_self ..)
    refine ih (h := h.interrupt s) (fun t ht => hss t (List.mem_cons_of_mem _ ht)) ?_ ?_
      fun t hmem => ?_
    · simpa only [isCancelled_interrupt] using hcut
    · simpa only [isCancelled_interrupt] using hkeep
    -- a strand of the same number as the one that is woken is replaced, all others are there still
    have hleft (hkept : ∀ c code, interrupted s.phase = some (c, code) → h.isCancelled c = false)
        (hmem : t ∈ h.strands) : P' t.id t.job t.phase ∨ t ∈ ss := by
      rcases hstrands t hmem with hright | hleft
      · exact .inl hright
      · rcases List.mem_cons.1 hleft with rfl | hleft
        · exact .inl (hkeep _ _ _ hs hkept)
        · exact .inr hleft
    unfold Host.interrupt at hmem
    split at hmem
    · next c code hint =>
      split at hmem
      · next hcancelled =>
        obtain ⟨t', ht', rfl⟩ := List.mem_map.1 hmem
        split
        · exact .inl (hcut _ _ _ _ _ hs hint hcancelled)
        · next hne =>
          refine (hstrands t' ht').imp_right fun hleft => ?_
          exact (List.mem_cons.1 hleft).resolve_left fun heq => hne (by rw [heq])
      · next hcancelled =>
        refine hleft (fun c' code' hint' => ?_) hmem
        cases hint.symm.trans hint'
        exact Bool.eq_false_iff.2 hcancelled
    · next hint => exact hleft (fun c code hint' => nomatch hint.symm.trans hint') hmem

/-- A host that cancels a scope wakes the strands whose contexts are cancelled then, and leaves the
others as they were. -/
theorem Every.cancels (ht : h.Every P) (scope : Nat)
    (hcut : ∀ i j p c code, P i j p → interrupted p = some (c, code) →
      (h.cancel scope).isCancelled c = true → P' i j (.ready code))
    (hkeep : ∀ i j p, P i j p → (∀ c code, interrupted p = some (c, code) →
      (h.cancel scope).isCancelled c = false) → P' i j p) : (h.cancel scope).Every P' := by
  simp only [isCancelled_cancel] at hcut hkeep
  exact Every.interrupts _ (fun s hs => ht s (mem_latestFirst.1 hs)) hcut hkeep
    fun s hs => .inr (mem_latestFirst.2 hs)

theorem Every.stopBranches (ht : h.Every P) (branches : List Nat)
    (hcut : ∀ i j p c code, P i j p → interrupted p = some (c, code) →
      (h.stopBranches s branches).isCancelled c = true → P i j (.ready code)) :
    (h.stopBranches s branches).Every P := by
  unfold Host.stopBranches at hcut ⊢
  revert hcut
  generalize (branches.filterMap fun i => s.branches[i]?) = scopes
  intro hcut
  induction scopes generalizing h with
  | nil => exact ht
  | cons scope scopes ih =>
    refine ih (ht.cancels scope (fun i j p c code hp hint hc => ?_) fun _ _ _ hp _ => hp) hcut
    exact hcut i j p c code hp hint (isCancelled_cancels_of scopes hc)

/-- A host that is given up has none of the strands of the main job any more, and cancels the others. -/
theorem Every.giveUp (value : α)
    (hcut : ∀ i j p c code, P i j p → interrupted p = some (c, code) →
      (h.giveUp value).isCancelled c = true → P i j (.ready code))
    (ht : ∀ s ∈ h.strands, s.job ≠ mainJob → P s.id s.job s.phase) : (h.giveUp value).Every P := by
  have hgone (ids : List Nat) (h' : Host α) :
      ∀ s ∈ (ids.foldl Host.remove h').strands, s ∈ h'.strands ∧ s.id ∉ ids := by
    induction ids generalizing h' with
    | nil => exact fun s hs => ⟨hs, List.not_mem_nil⟩
    | cons id ids ih =>
      intro s hs
      obtain ⟨hmem, hids⟩ := ih (h'.remove id) s hs
      obtain ⟨hmem, hid⟩ := List.mem_filter.1 hmem
      exact ⟨hmem, List.not_mem_cons_of_ne_of_not_mem (by simpa using hid) hids⟩
  have hleft : (((h.strands.filter (·.job == mainJob)).map Strand.id).foldl Host.remove h).Every
      P := by
    intro s hs
    obtain ⟨hmem, hid⟩ := hgone _ h s hs
    refine ht s hmem fun hjob => hid (List.mem_map_of_mem (List.mem_filter.2 ⟨hmem, ?_⟩))
    simp [hjob]
  exact hleft.cancels rootScope hcut fun _ _ _ hp _ => hp

/-! ### Signals and detached graphs -/

section

variable (hlook : ∀ i j c due next, P i j (.settling c due next) →
  (h.inFlight c.run = 0 → P i j (.ready (next (.ok ())))) ∧ ∀ due', P i j (.settling c due' next))
include hlook

theorem Every.look (ht : h.Every P) (hs : P s.id s.job s.phase) : (h.look s).Every P := by
  unfold Host.look
  split
  · next c due next hphase =>
    rw [hphase] at hs
    split
    · next hrest => exact ht.wake ((hlook _ _ _ _ _ hs).1 hrest)
    · exact ht.put (s := { s with phase := .settling c (h.now + lookAgain) next })
        ((hlook _ _ _ _ _ hs).2 _)
  · exact ht

theorem Every.lookAll (ht : h.Every P) : h.lookAll.Every P := by
  -- what is counted of a run does not change while the strands look
  have hall (ss : List (Strand α)) (hss : ∀ s ∈ ss, P s.id s.job s.phase) (h' : Host α)
      (hcore : h'.core = h.core) (ht' : h'.Every P) : (ss.foldl Host.look h').Every P := by
    induction ss generalizing h' with
    | nil => exact ht'
    | cons s ss ih =>
      refine ih (fun t ht => hss t (List.mem_cons_of_mem _ ht)) _ ((core_look h' s).trans hcore) ?_
      refine Every.look (fun i j c due next hp => ?_) ht' (hss s (List.mem_cons_self ..))
      rw [inFlight_of_core hcore]
      exact hlook i j c due next hp
  exact hall _ (fun s hs => ht s (mem_inOrder.1 hs)) h rfl ht

end

/-- A strand is fed, and the others are as they were. -/
theorem every_feed (ht : h.Every fun i j p => i ≠ s.id → P i j p)
    (hnone : receive h.board s.phase = none → h.Every P)
    (hsome : ∀ c taken b p, receive h.board s.phase = some (c, taken, b, p) → P s.id s.job p) :
    (h.feed s).Every P := by
  unfold Host.feed
  split
  · next hreceive => exact hnone hreceive
  · next c taken b p hreceive =>
    have hp := hsome c taken b p hreceive
    have hrecorded := ht.of_strands
      (strands_recordAll { h with board := b } c (taken.map .signalReceived))
    split
    · exact every_put (s := { s with phase := .ready _ }) hrecorded hp
    · exact every_put (s := { s with phase := p }) hrecorded hp

/-- What is known of the strand of a number stays so while another one is fed. -/
theorem Every.feed_other {id : Nat} {Q : Phase α → Prop} (ht : h.Every fun i _ p => i = id → Q p)
    (hs : s.id ≠ id) : (h.feed s).Every fun i _ p => i = id → Q p :=
  every_feed (ht.mono fun _ _ _ hp _ => hp) (fun _ => ht) fun _ _ _ _ _ hi => absurd hi hs

theorem Every.feed (hP : ∀ i j b p c taken b' p', P i j p → receive b p = some (c, taken, b', p') →
    P i j p') (ht : h.Every P) (hs : P s.id s.job s.phase) : (h.feed s).Every P :=
  every_feed (ht.mono fun _ _ _ hp _ => hp) (fun _ => ht) fun _ _ _ _ => hP _ _ _ _ _ _ _ _ hs

theorem Every.deliver (hP : ∀ i j b p c taken b' p', P i j p →
      receive b p = some (c, taken, b', p') → P i j p')
    (hlook : ∀ i j c due next, P i j (.settling c due next) →
      (h.inFlight c.run = 0 → P i j (.ready (next (.ok ())))) ∧
        ∀ due', P i j (.settling c due' next))
    (ht : h.Every P) (name : String) (payload : Json) : (h.deliver name payload).Every P := by
  have hfed (ss : List (Strand α)) (hss : ∀ s ∈ ss, P s.id s.job s.phase) (h' : Host α)
      (hcount : ∀ run, h'.inFlight run = h.inFlight run) (ht' : h'.Every P) :
      (ss.foldl Host.feed h').lookAll.Every P := by
    induction ss generalizing h' with
    | nil =>
      refine Every.lookAll (fun i j c due next hp => ?_) ht'
      rw [List.foldl_nil, hcount]
      exact hlook i j c due next hp
    | cons s ss ih =>
      exact ih (fun t ht => hss t (List.mem_cons_of_mem _ ht)) _
        (fun run => (inFlight_feed h' s run).trans (hcount run))
        (ht'.feed hP (hss s (List.mem_cons_self ..)))
  exact hfed _ (fun s hs => ht s (mem_inOrder.1 hs)) { h with board := h.board.deliver name payload }
    (fun _ => rfl) ht

/-! ### The ends of strands -/

theorem Every.replyTo {reply : Except Fault Json} {branch : Nat}
    (hP : ∀ i j next, P i j (.joining next) → P i j (.ready (next (branch, reply))))
    (ht : h.Every P) (parent : Nat) : (h.replyTo parent branch reply).Every P := by
  unfold Host.replyTo
  split
  · exact ht
  · next p hfound =>
    have hp := ht p (List.mem_of_find?_eq_some hfound)
    split
    · next next hphase =>
      rw [hphase] at hp
      exact ht.put (s := { p with phase := .ready (next (branch, reply)) }) (hP _ _ _ hp)
    · exact ht

/-- A strand has ended, and the others are as they were. -/
theorem every_conclude {ending : Ending α}
    (hP : ∀ reply branch, ending = .branch reply → ∀ i j next, P i j (.joining next) →
      P i j (.ready (next (branch, reply))))
    (ht : h.Every fun i j p => i ≠ s.id → P i j p) : (h.conclude s ending).Every P := by
  unfold conclude
  cases ending with
  | result v => exact ht.remove
  | branch reply =>
    cases s.parent with
    | none => exact ht.remove
    | some parent => exact Every.replyTo (hP reply _ rfl) ht.remove parent
  | detached run => exact ht.remove

/-! ### Appointments -/

/-- A strand whose time comes goes on, or looks whether what it waits for is finished. -/
theorem Every.arrive
    (hdelayed : ∀ i j due code, P i j (.delayed due code) → P i j (.ready code))
    (hpaused : ∀ i j c due next, P i j (.pausing c due next) → P i j (.ready (next true)))
    (hcalled : ∀ i j c due task result next, P i j (.calling c due task result next) →
      P i j (.ready (next result)))
    (hlook : ∀ i j c due next, P i j (.settling c due next) →
      (h.inFlight c.run = 0 → P i j (.ready (next (.ok ())))) ∧
        ∀ due', P i j (.settling c due' next))
    (ht : h.Every P) (hs : P s.id s.job s.phase) : (h.arrive s).Every P := by
  have hturn (turn : Option Nat) : ({ h with turn := turn } : Host α).Every P := ht
  unfold Host.arrive
  dsimp only
  have hphase := hs
  revert hphase
  cases s.phase with
  | delayed due code => exact fun hp => (hturn _).wake (hdelayed _ _ _ _ hp)
  | pausing c due next => exact fun hp => (hturn _).wake (hpaused _ _ _ _ _ hp)
  | calling c due task result next => exact fun hp => (hturn _).wake (hcalled _ _ _ _ _ _ _ hp)
  | settling c due next => exact fun _ => Every.look hlook (hturn _) hs
  | ready | listening | joining => exact fun _ => hturn _

end

/-! ### Code that is right -/

section

variable {E : Fault → Prop} {G G' : Nat → Nat → Dialogue (Ending α) → Prop}

theorem Tended.mono (ht : h.Tended E G) (imp : ∀ i j code, G i j code → G' i j code) :
    h.Tended E G' :=
  Every.mono ht fun i j _ hp => hp.mono (imp i j)

theorem Tended.but (ht : h.Tended E G) (id : Nat) : h.TendedBut E G id :=
  ht.mono fun _ _ _ hcode _ => hcode

theorem TendedBut.every {id : Nat} (ht : h.TendedBut E G id) :
    h.Every fun i j p => i ≠ id → p.Leads E (G i j) :=
  Every.mono ht fun _ _ _ hp hne => hp.mono fun _ hcode => hcode hne

theorem TendedBut.remove {id : Nat} (ht : h.TendedBut E G id) : (h.remove id).Tended E G :=
  Every.remove ht.every

theorem leads_looked (h : Host α) (i j : Nat) (c : Context) (due : Nat)
    (next : Except Fault Unit → Dialogue (Ending α))
    (hp : (Phase.settling c due next).Leads E (G i j)) :
    (h.inFlight c.run = 0 → (Phase.ready (next (.ok ()))).Leads E (G i j)) ∧
      ∀ due', (Phase.settling c due' next).Leads E (G i j) :=
  ⟨fun _ => hp _, fun _ => hp⟩

theorem Tended.deliver (ht : h.Tended E G) (name : String) (payload : Json) :
    (h.deliver name payload).Tended E G :=
  Every.deliver (fun _ _ _ _ _ _ _ _ hp => hp.of_receive) (leads_looked h) ht name payload

theorem Tended.arrive (ht : h.Tended E G) (hs : s.phase.Leads E (G s.id s.job)) :
    (h.arrive s).Tended E G :=
  Every.arrive (fun _ _ _ _ hcode => hcode) (fun _ _ _ _ _ hnext => hnext true)
    (fun _ _ _ _ _ _ _ hnext => hnext.2 _ hnext.1) (leads_looked h) ht hs

/-- A strand has ended, and the others are as they were. -/
theorem tended_conclude (ht : h.TendedBut E G s.id) {ending : Ending α}
    (hending : ∀ reply, ending = .branch reply → Result E Any reply) :
    (h.conclude s ending).Tended E G :=
  every_conclude (fun reply _ heq _ _ _ hnext => hnext _ (hending reply heq)) ht.every

theorem Tended.strike (ht : h.Tended E G) (t : Nat) (a : Appointment α) :
    (h.strike t a).Tended E G :=
  Every.of_strands ht (strands_strike h t a)

variable (hE : ∀ scope, E (.cancelled scope))
include hE

theorem Tended.cancel (ht : h.Tended E G) (scope : Nat) : (h.cancel scope).Tended E G :=
  Every.cancels ht scope (fun _ _ _ _ _ hp hint _ => hp.of_interrupted hE hint) fun _ _ _ hp _ => hp

theorem Tended.giveUp (value : α)
    (ht : ∀ s ∈ h.strands, s.job ≠ mainJob → s.phase.Leads E (G s.id s.job)) :
    (h.giveUp value).Tended E G :=
  Every.giveUp value (fun _ _ _ _ _ hp hint _ => hp.of_interrupted hE hint) ht

end

end Host

end TaskGraph
