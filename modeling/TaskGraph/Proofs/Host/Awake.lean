import TaskGraph.Proofs.Host.Bound

/-!
# Strands that are awake

Only strands that can go on are in the queue of a host, so no strand that waits is given a turn
(`Host.Awake.ready_of_next?`). What is looked at one after the other is a list of strands as they were
before; it has each strand once, and a look wakes no other one (`Host.Awake.foldl`).
-/

set_option autoImplicit false

namespace TaskGraph

variable {α : Type}

namespace Host

/-- Whether only strands that can go on are in the queue. -/
def Awake (h : Host α) : Prop := h.Every fun i _ p => i ∈ h.queue → ∃ code, p = .ready code

variable {h h' : Host α} {s : Strand α}

namespace Awake

theorem of_strands (ha : h.Awake) (hstrands : h'.strands = h.strands) (hqueue : h'.queue ⊆ h.queue) :
    h'.Awake :=
  Every.of_strands (Every.mono ha fun _ _ _ hp hi => hp (hqueue hi)) hstrands

/-- A strand that can go on may be put in the queue. -/
theorem ready (ha : h.Awake) (s : Strand α) (code : Dialogue (Ending α)) {queue : List Nat}
    (hqueue : ∀ i ∈ queue, i = s.id ∨ i ∈ h.queue) :
    ({ h.put { s with phase := .ready code } with queue := queue } : Host α).Awake := by
  intro t ht
  obtain ⟨t', ht', rfl⟩ := List.mem_map.1 ht
  split
  · exact fun _ => ⟨code, rfl⟩
  · next hne => exact fun hi => ha t' ht' ((hqueue _ hi).resolve_left hne)

theorem goOn (ha : h.Awake) (s : Strand α) (code : Dialogue (Ending α)) : (h.goOn s code).Awake :=
  ha.ready s code fun _ => .inr

theorem wake (ha : h.Awake) (s : Strand α) (code : Dialogue (Ending α)) : (h.wake s code).Awake :=
  ha.ready s code fun _ hi => (List.mem_append.1 hi).symm.imp_left List.mem_singleton.1

/-- A strand that waits may wait for something else. -/
theorem put (ha : h.Awake) (hs : s.id ∉ h.queue) : (h.put s).Awake :=
  Every.put ha fun hi => absurd hi hs

theorem remove (ha : h.Awake) (id : Nat) : (h.remove id).Awake := by
  intro t ht hi
  exact ha t (List.mem_filter.1 ht).1 (List.mem_filter.1 hi).1

theorem wait (ha : h.Awake) (s : Strand α) (p : Phase α) : (h.wait s p).Awake := by
  intro t ht hi
  rcases List.mem_append.1 ht with ht | ht
  · exact ha.remove s.id t ht hi
  · obtain rfl := List.mem_singleton.1 ht
    have hne := (List.mem_filter.1 hi).2
    simp at hne

theorem spawn (ha : h.Awake) (hs : s.id ∉ h.ids) {code : Dialogue (Ending α)}
    (hphase : s.phase = .ready code) : (h.spawn s).Awake := by
  intro t ht hi
  rcases List.mem_append.1 ht with ht | ht
  · refine ha t ht ((List.mem_append.1 hi).resolve_right fun hi => hs ?_)
    rw [← List.mem_singleton.1 hi]
    exact mem_ids.2 ⟨t, ht, rfl⟩
  · obtain rfl := List.mem_singleton.1 ht
    exact ⟨code, hphase⟩

/-! ### Looking at strands -/

/-- What is done to strands one after the other may put them in the queue, and looks at each of them as it
was, if it does nothing to the others. -/
theorem foldl {f : Host α → Strand α → Host α}
    (hf : ∀ h s, h.Awake → (s.id ∈ h.queue → ∃ code, s.phase = .ready code) →
      (f h s).Awake ∧ ∀ i ∈ (f h s).queue, i = s.id ∨ i ∈ h.queue)
    {ss : List (Strand α)} (hnodup : (ss.map Strand.id).Nodup) (ha : h.Awake)
    (hss : ∀ s ∈ ss, s.id ∈ h.queue → ∃ code, s.phase = .ready code) : (ss.foldl f h).Awake := by
  induction ss generalizing h with
  | nil => exact ha
  | cons s ss ih =>
    obtain ⟨hfresh, hnodup⟩ := List.nodup_cons.1 hnodup
    obtain ⟨ha', hqueue⟩ := hf h s ha (hss s (List.mem_cons_self ..))
    refine ih hnodup ha' fun t ht hi => hss t (List.mem_cons_of_mem _ ht) ?_
    refine (hqueue _ hi).resolve_left fun heq => hfresh ?_
    rw [← heq]
    exact List.mem_map_of_mem ht

theorem nodup_inOrder (hn : h.ids.Nodup) : (h.inOrder.map Strand.id).Nodup := by
  unfold inOrder
  rw [List.partition_eq_filter_filter]
  have hperm := List.filter_append_perm (fun s : Strand α => s.job == mainJob) h.strands
  exact ((List.perm_append_comm.trans hperm).map Strand.id).nodup_iff.2 hn

theorem interrupt (ha : h.Awake) (s : Strand α) : (h.interrupt s).Awake := by
  unfold Host.interrupt
  split
  · split
    · exact ha.wake s _
    · exact ha
  · exact ha

theorem cancel (ha : h.Awake) (scope : Nat) : (h.cancel scope).Awake := by
  have hall (ss : List (Strand α)) (h' : Host α) (ha : h'.Awake) : (ss.foldl Host.interrupt h').Awake := by
    induction ss generalizing h' with
    | nil => exact ha
    | cons s ss ih => exact ih _ (ha.interrupt s)
  exact hall _ _ ha

theorem stopBranches (ha : h.Awake) (branches : List Nat) : (h.stopBranches s branches).Awake := by
  unfold Host.stopBranches
  generalize (branches.filterMap fun i => s.branches[i]?) = scopes
  induction scopes generalizing h with
  | nil => exact ha
  | cons scope scopes ih => exact ih (ha.cancel scope)

theorem look (ha : h.Awake) (hs : s.id ∈ h.queue → ∃ code, s.phase = .ready code) :
    (h.look s).Awake ∧ ∀ i ∈ (h.look s).queue, i = s.id ∨ i ∈ h.queue := by
  unfold Host.look
  split
  · next c due next hphase =>
    split
    · exact ⟨ha.wake s _, fun _ hi => (List.mem_append.1 hi).symm.imp_left List.mem_singleton.1⟩
    · refine ⟨ha.put fun hi => ?_, fun _ => .inr⟩
      obtain ⟨code, hready⟩ := hs hi
      cases hphase.symm.trans hready
  · exact ⟨ha, fun _ => .inr⟩

theorem lookAll (ha : h.Awake) (hn : h.ids.Nodup) : h.lookAll.Awake :=
  ha.foldl (fun _ _ => look) (nodup_inOrder hn) fun s hs => ha s (mem_inOrder.1 hs)

theorem feed (ha : h.Awake) (hs : s.id ∈ h.queue → ∃ code, s.phase = .ready code) :
    (h.feed s).Awake ∧ ∀ i ∈ (h.feed s).queue, i = s.id ∨ i ∈ h.queue := by
  unfold Host.feed
  split
  · exact ⟨ha, fun _ => .inr⟩
  · next c taken b p hreceive =>
    have hqueue := queue_recordAll { h with board := b } c (taken.map .signalReceived)
    have hrecorded : ({ h with board := b }.recordAll c (taken.map .signalReceived)).Awake :=
      ha.of_strands (strands_recordAll ..) (by rw [hqueue]; exact List.Subset.refl _)
    split
    · refine ⟨hrecorded.wake s _, fun i hi => ?_⟩
      rcases List.mem_append.1 hi with hi | hi
      · exact .inr (hqueue ▸ hi)
      · exact .inl (List.mem_singleton.1 hi)
    · refine ⟨hrecorded.put fun hi => ?_, fun i hi => .inr (hqueue ▸ hi)⟩
      -- a strand that can go on takes nothing from the board
      obtain ⟨code, hready⟩ := hs (hqueue ▸ hi)
      rw [hready] at hreceive
      cases hreceive

theorem deliver (ha : h.Awake) (hn : h.ids.Nodup) (name : String) (payload : Json) :
    (h.deliver name payload).Awake := by
  have hdelivered : ({ h with board := h.board.deliver name payload } : Host α).Awake := ha
  refine lookAll (hdelivered.foldl (fun _ _ => feed) (nodup_inOrder hn) fun s hs =>
    ha s (mem_inOrder.1 hs)) ?_
  rw [ids_foldl ids_feed]
  exact hn

/-! ### Turns -/

theorem replyTo (ha : h.Awake) (parent branch : Nat) (reply : Except Fault Json) :
    (h.replyTo parent branch reply).Awake := by
  unfold Host.replyTo
  split
  · exact ha
  · split
    · exact ha.ready _ _ fun _ hi => List.mem_cons.1 hi
    · exact ha

theorem conclude (ha : h.Awake) (ending : Ending α) : (h.conclude s ending).Awake := by
  have hgone := ha.remove s.id
  unfold Host.conclude
  cases ending with
  | result v => exact hgone
  | branch reply =>
    cases s.parent with
    | none => exact hgone
    | some parent => exact hgone.replyTo parent _ reply
  | detached run => exact hgone

theorem forkBranches (ha : h.Awake) (hn : h.Numbered) (c : Context) (input : Json) (scope : Scope)
    (i : Nat) (graphs : List String) : (h.forkBranches s c input scope i graphs).1.Awake := by
  induction graphs generalizing h i with
  | nil => exact ha
  | cons graph graphs ih =>
    unfold Host.forkBranches
    dsimp only
    have hborn : h.fresh ∉ h.ids := fun hmem => Nat.lt_irrefl _ (hn.below _ hmem)
    refine ih ?_ ⟨?_, fun id hid => ?_⟩ _
    · have hcounted : ({ h with fresh := h.fresh + 2 } : Host α).Awake := ha
      exact hcounted.spawn hborn rfl
    · rw [ids_spawn]
      exact List.nodup_append.2 ⟨hn.nodup, by simp, fun a ha b hb heq => hborn (by simp_all [ids])⟩
    · rw [ids_spawn] at hid
      show id < h.fresh + 2
      rcases List.mem_append.1 hid with hid | hid
      · exact Nat.lt_of_lt_of_le (hn.below id hid) (Nat.le_add_right ..)
      · rw [List.mem_singleton.1 hid]
        exact Nat.lt_add_of_pos_right (by decide)

theorem prepares (ha : h.Awake) (hn : h.Numbered) {q : Request} (hprepares : h.Prepares s q h') :
    h'.Awake := by
  cases q with
  | detach c name input scope =>
    obtain rfl := hprepares
    have hcounted (runs : Array RunLog) : ({ h with runs := runs, fresh := h.fresh + 1 } : Host α).Awake :=
      ha
    exact (hcounted _).spawn (fun hmem => Nat.lt_irrefl _ (hn.below _ hmem)) rfl
  | fork c graphs input scope =>
    obtain rfl := hprepares
    exact ha.forkBranches hn c input scope 0 graphs
  | respond id response =>
    obtain rfl := hprepares
    exact lookAll (h := { h with board := h.board.respond id response }) ha hn.nodup
  | stop branches =>
    obtain rfl := hprepares
    exact ha.stopBranches branches
  | _ => exact ha.of_strands hprepares.strands (by rw [hprepares.queue]; exact List.Subset.refl _)

theorem perform (ha : h.Awake) (hn : h.Numbered) (s : Strand α) (q : Request)
    (next : q.Answer → Dialogue (Ending α)) : (h.perform s q next).Awake := by
  obtain ⟨h', hprepares, hresumes⟩ := h.perform_cases s q next
  have ha' := ha.prepares hn hprepares
  rcases hresumes with ⟨branches, code, heq⟩ | ⟨p, -, heq⟩ <;> rw [heq]
  · exact ha'.goOn { s with branches := branches } code
  · exact ha'.wait s p

/-- Strands of one number are the same. -/
theorem eq_of_id (hn : h.ids.Nodup) {s t : Strand α} (hs : s ∈ h.strands) (ht : t ∈ h.strands)
    (hid : s.id = t.id) : s = t := by
  have hdistinct : h.strands.Pairwise fun s t => s.id ≠ t.id := List.pairwise_map.1 hn
  exact List.Pairwise.forall_of_forall_of_flip (R := fun s t : Strand α => s.id = t.id → s = t)
    (fun _ _ _ => rfl) (hdistinct.imp fun hne heq => absurd heq hne)
    (hdistinct.imp fun hne heq => absurd heq.symm hne) hs ht hid

/-- A strand that is given a turn stays in the queue, and only it comes to be there. -/
theorem turned (ha : h.Awake) {code : Dialogue (Ending α)} (hs : s ∈ h.strands) (hn : h.ids.Nodup)
    (hphase : s.phase = .ready code) :
    ({ h with turn := some s.job, queue := s.id :: h.queue.filter (· != s.id) } : Host α).Awake := by
  intro t ht hi
  rcases List.mem_cons.1 hi with hi | hi
  · rw [eq_of_id hn ht hs hi]
    exact ⟨code, hphase⟩
  · exact ha t ht (List.mem_filter.1 hi).1

/-! ### Appointments -/

theorem arrive (ha : h.Awake) (hs : s ∈ h.strands) : (h.arrive s).Awake := by
  have hturn : ({ h with turn := some mainJob } : Host α).Awake := ha
  unfold Host.arrive
  split
  · exact hturn.wake s _
  · exact hturn.wake s _
  · exact hturn.wake s _
  · exact (hturn.look (ha s hs)).1
  · exact hturn

theorem giveUp (ha : h.Awake) (value : α) : (h.giveUp value).Awake := by
  have hall (ids : List Nat) (h' : Host α) (ha : h'.Awake) : (ids.foldl Host.remove h').Awake := by
    induction ids generalizing h' with
    | nil => exact ha
    | cons id ids ih => exact ih _ (ha.remove id)
  exact (hall _ h ha).cancel rootScope

theorem keep {h : Host RunResult} (ha : h.Awake) (hn : h.ids.Nodup) {t : Nat}
    {a : Appointment RunResult} (hkeeps : h.Keeps t a) : (h.keep a).Awake := by
  have hturn : ({ h with turn := none } : Host RunResult).Awake := ha
  cases a with
  | strand s => exact ha.arrive hkeeps
  | beat b => exact ha.of_strands rfl (List.Subset.refl _)
  | occurrence o =>
    cases o with
    | signal name payload => exact hturn.deliver hn name payload
    | cancel => exact hturn.cancel rootScope
  | deadline v => exact ha.giveUp v

/-- Only a strand that can go on takes a turn. -/
theorem ready_of_next? {h : Host RunResult} {s : Strand RunResult} (ha : h.Awake)
    (hs : h.next? = some s) : ∃ code, s.phase = .ready code :=
  ha s (mem_of_next? hs) (queued_of_next? hs)

theorem strike (ha : h.Awake) (t : Nat) (a : Appointment α) :
    ({ h with now := max h.now t }.strike t a).Awake :=
  ha.of_strands (strands_strike { h with now := max h.now t } t a) (by cases a <;> exact List.Subset.refl _)

end Awake

end Host

end TaskGraph
