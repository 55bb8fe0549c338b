import TaskGraph.Proofs.Host.Awake

/-!
# Strands that can go on are in the queue

Whatever a host does, it keeps all strands that can go on in its queue, and leaves every strand with the
parent that it was started with (`Host.Enlisted`). So when it is the turn of no strand, all of them wait
(`Host.Enlisted.waits`): no strand that can go on is passed over for ever.

With a turn, strands come into the queue behind those that are there (`Host.Lengthens`). So the strand whose
turn it is goes on until it waits (`Host.next?_perform`).
-/

set_option autoImplicit false

namespace TaskGraph

variable {α : Type}

namespace Host

variable {h h' : Host α} {s : Strand α}

/-! ## Queues that grow -/

/-- Whether a host is at the turn of the same job as another one, and has put strands in the queue at
most, behind those that are there. -/
structure Lengthens (h h' : Host α) : Prop where
  turn : h'.turn = h.turn
  queue : h.queue <+: h'.queue

theorem Lengthens.refl (h : Host α) : h.Lengthens h := ⟨rfl, List.prefix_refl _⟩

theorem Lengthens.trans {h'' : Host α} (hl : h.Lengthens h') (hl' : h'.Lengthens h'') : h.Lengthens h'' :=
  ⟨hl'.turn.trans hl.turn, hl.queue.trans hl'.queue⟩

/-- The same behind a change that leaves the queue and the turn alone. -/
theorem Lengthens.behind {h'' : Host α} (hl : h'.Lengthens h'') (hturn : h'.turn = h.turn)
    (hqueue : h'.queue = h.queue) : h.Lengthens h'' :=
  ⟨hl.turn.trans hturn, hqueue ▸ hl.queue⟩

theorem lengthens_foldl {β : Type} {f : Host α → β → Host α}
    (hf : ∀ (h : Host α) x, h.Lengthens (f h x)) (h : Host α) (xs : List β) : h.Lengthens (xs.foldl f h) := by
  induction xs generalizing h with
  | nil => exact .refl h
  | cons x xs ih => exact (hf h x).trans (ih (f h x))

theorem lengthens_wake (h : Host α) (s : Strand α) (code : Dialogue (Ending α)) :
    h.Lengthens (h.wake s code) :=
  ⟨rfl, List.prefix_append ..⟩

theorem lengthens_spawn (h : Host α) (s : Strand α) : h.Lengthens (h.spawn s) :=
  ⟨rfl, List.prefix_append ..⟩

theorem lengthens_interrupt (h : Host α) (s : Strand α) : h.Lengthens (h.interrupt s) := by
  unfold interrupt
  split
  · split
    · exact lengthens_wake ..
    · exact .refl h
  · exact .refl h

theorem lengthens_cancel (h : Host α) (scope : Nat) : h.Lengthens (h.cancel scope) :=
  (lengthens_foldl lengthens_interrupt _ _).behind rfl rfl

theorem lengthens_look (h : Host α) (s : Strand α) : h.Lengthens (h.look s) := by
  unfold look
  split
  · split
    · exact lengthens_wake ..
    · exact ⟨rfl, List.prefix_refl _⟩
  · exact .refl h

theorem lengthens_forkBranches (h : Host α) (s : Strand α) (c : Context) (input : Json) (scope : Scope)
    (i : Nat) (graphs : List String) : h.Lengthens (h.forkBranches s c input scope i graphs).1 := by
  induction graphs generalizing h i with
  | nil => exact .refl h
  | cons graph graphs ih =>
    obtain ⟨branch, -, hcons⟩ := h.forkBranches_cons s c input scope i graph graphs
    rw [hcons]
    have hspawned := lengthens_spawn { h with fresh := h.fresh + 2 } branch
    exact (hspawned.trans (ih _ (i + 1))).behind rfl rfl

/-- What a host does for a strand takes no strand out of the queue. -/
theorem Prepares.lengthens {q : Request} (hprepares : h.Prepares s q h') : h.Lengthens h' := by
  cases q with
  | detach c name input scope =>
    obtain rfl := hprepares
    exact ⟨rfl, List.prefix_append ..⟩
  | fork c graphs input scope =>
    obtain rfl := hprepares
    exact lengthens_forkBranches h s c input scope 0 graphs
  | respond id response =>
    obtain rfl := hprepares
    exact (lengthens_foldl lengthens_look _ _).behind rfl rfl
  | stop branches =>
    obtain rfl := hprepares
    exact lengthens_foldl lengthens_cancel h _
  | _ => exact ⟨hprepares.turn, hprepares.queue ▸ List.prefix_refl _⟩

/-- The strand whose turn it is, is the next one to go on, unless it has come to wait. -/
theorem next?_perform (hs : s ∈ h.strands) (hturn : h.turn = some s.job) {later : List Nat}
    (hqueue : h.queue = s.id :: later) (q : Request) (next : q.Answer → Dialogue (Ending α)) {t : Strand α}
    (ht : t ∈ (h.perform s q next).strands) (hid : t.id = s.id) (hready : t.phase.waits = false) :
    (h.perform s q next).next? = some t := by
  obtain ⟨h', hprepares, hresumes⟩ := h.perform_cases s q next
  obtain ⟨hturn', behind, hqueue'⟩ := hprepares.lengthens
  obtain ⟨new, hadds, -⟩ := adds_prepares hprepares
  rcases hresumes with ⟨branches, code, heq⟩ | ⟨p, hp, heq⟩ <;> rw [heq] at ht ⊢
  · obtain ⟨t', -, rfl⟩ := List.mem_map.1 ht
    split at hid
    · next hown =>
      have hmem : s.id ∈ h'.ids := hadds.ids.mem_iff.2 (List.mem_append_left _ (mem_ids.2 ⟨s, hs, rfl⟩))
      obtain ⟨own, hmine, howner⟩ := mem_ids.1 hmem
      rw [if_pos hown]
      -- what the host did in the turn only added to the queue behind the strand
      have hfirst : h'.queue = s.id :: (later ++ behind) := by
        rw [← hqueue', hqueue, List.cons_append]
      exact next?_of_first (hturn'.trans hturn) hfirst (strand?_put hmine howner)
    · next hother => exact absurd hid hother
  · rcases List.mem_append.1 ht with ht | ht
    · exact absurd hid (by simpa using (List.mem_filter.1 ht).2)
    · obtain rfl := List.mem_singleton.1 ht
      exact Bool.noConfusion (hp.symm.trans hready)

/-! ## Strands that are enlisted -/

/-- Whether every strand of a host has the parent that is written down for its number, and is in the queue
if it can go on. -/
def Enlisted (parent : Nat → Option Nat) (h : Host α) : Prop :=
  ∀ s ∈ h.strands, s.parent = parent s.id ∧ (s.phase.waits = false → s.id ∈ h.queue)

variable {parent : Nat → Option Nat}

namespace Enlisted

theorem of_strands (he : h.Enlisted parent) (hstrands : h'.strands = h.strands)
    (hqueue : h.queue ⊆ h'.queue) : h'.Enlisted parent := by
  intro t ht
  obtain ⟨hparent, hready⟩ := he t (hstrands ▸ ht)
  exact ⟨hparent, fun hwaits => hqueue (hready hwaits)⟩

/-- A strand may wait for something else. -/
theorem put (he : h.Enlisted parent) (hparent : s.parent = parent s.id) (hs : s.phase.waits = true) :
    (h.put s).Enlisted parent := by
  intro t ht
  obtain ⟨t', ht', rfl⟩ := List.mem_map.1 ht
  split
  · exact ⟨hparent, fun hready => Bool.noConfusion (hs.symm.trans hready)⟩
  · exact he t' ht'

/-- A strand that is in the queue may go on. -/
theorem ready (he : h.Enlisted parent) (hparent : s.parent = parent s.id) (code : Dialogue (Ending α))
    {queue : List Nat} (hs : s.id ∈ queue) (hqueue : h.queue ⊆ queue) :
    ({ h.put { s with phase := .ready code } with queue := queue } : Host α).Enlisted parent := by
  intro t ht
  obtain ⟨t', ht', rfl⟩ := List.mem_map.1 ht
  split
  · exact ⟨hparent, fun _ => hs⟩
  · exact (he t' ht').imp_right fun hready hwaits => hqueue (hready hwaits)

theorem goOn (he : h.Enlisted parent) (hparent : s.parent = parent s.id) (hs : s.id ∈ h.queue)
    (code : Dialogue (Ending α)) : (h.goOn s code).Enlisted parent :=
  he.ready hparent code hs fun _ hi => hi

theorem wake (he : h.Enlisted parent) (hparent : s.parent = parent s.id) (code : Dialogue (Ending α)) :
    (h.wake s code).Enlisted parent :=
  he.ready hparent code (List.mem_append_right _ (List.mem_singleton.2 rfl)) (List.subset_append_left ..)

theorem remove (he : h.Enlisted parent) (id : Nat) : (h.remove id).Enlisted parent := by
  intro t ht
  obtain ⟨ht, hne⟩ := List.mem_filter.1 ht
  exact (he t ht).imp_right fun hready hwaits => List.mem_filter.2 ⟨hready hwaits, hne⟩

theorem wait (he : h.Enlisted parent) (hparent : s.parent = parent s.id) {p : Phase α}
    (hp : p.waits = true) : (h.wait s p).Enlisted parent := by
  intro t ht
  rcases List.mem_append.1 ht with ht | ht
  · exact he.remove s.id t ht
  · obtain rfl := List.mem_singleton.1 ht
    exact ⟨hparent, fun hready => Bool.noConfusion (hp.symm.trans hready)⟩

theorem spawn (he : h.Enlisted parent) (hparent : s.parent = parent s.id) : (h.spawn s).Enlisted parent := by
  intro t ht
  rcases List.mem_append.1 ht with ht | ht
  · exact (he t ht).imp_right fun hready hwaits => List.mem_append_left _ (hready hwaits)
  · obtain rfl := List.mem_singleton.1 ht
    exact ⟨hparent, fun _ => List.mem_append_right _ (List.mem_singleton.2 rfl)⟩

/-- What is done to strands one after the other, each as it was before. -/
theorem foldl {f : Host α → Strand α → Host α}
    (hf : ∀ h s, Enlisted parent h → s.parent = parent s.id → (f h s).Enlisted parent)
    {ss : List (Strand α)} (hss : ∀ s ∈ ss, s.parent = parent s.id) (he : h.Enlisted parent) :
    (ss.foldl f h).Enlisted parent := by
  induction ss generalizing h with
  | nil => exact he
  | cons s ss ih =>
    exact ih (fun t ht => hss t (List.mem_cons_of_mem _ ht)) (hf h s he (hss s (List.mem_cons_self ..)))

theorem inOrder (he : h.Enlisted parent) : ∀ s ∈ h.inOrder, s.parent = parent s.id :=
  fun s hs => (he s (mem_inOrder.1 hs)).1

theorem interrupt (he : h.Enlisted parent) (hparent : s.parent = parent s.id) :
    (h.interrupt s).Enlisted parent := by
  unfold Host.interrupt
  split
  · split
    · exact he.wake hparent _
    · exact he
  · exact he

theorem cancel (he : h.Enlisted parent) (scope : Nat) : (h.cancel scope).Enlisted parent :=
  foldl (fun _ _ => interrupt) (fun s hs => (he s (mem_latestFirst.1 hs)).1)
    (he.of_strands rfl fun _ hi => hi)

theorem stopBranches (he : h.Enlisted parent) (branches : List Nat) :
    (h.stopBranches s branches).Enlisted parent := by
  unfold Host.stopBranches
  generalize (branches.filterMap fun i => s.branches[i]?) = scopes
  induction scopes generalizing h with
  | nil => exact he
  | cons scope scopes ih => exact ih (he.cancel scope)

theorem look (he : h.Enlisted parent) (hparent : s.parent = parent s.id) : (h.look s).Enlisted parent := by
  unfold Host.look
  split
  · split
    · exact he.wake hparent _
    · exact he.put hparent rfl
  · exact he

theorem lookAll (he : h.Enlisted parent) : h.lookAll.Enlisted parent :=
  foldl (fun _ _ => look) he.inOrder he

theorem feed (he : h.Enlisted parent) (hparent : s.parent = parent s.id) : (h.feed s).Enlisted parent := by
  unfold Host.feed
  split
  · exact he
  · next c taken b p _ =>
    have hrecorded : ({ h with board := b }.recordAll c (taken.map .signalReceived)).Enlisted parent := by
      refine he.of_strands (strands_recordAll ..) ?_
      rw [queue_recordAll]
      exact fun _ hi => hi
    cases p with
    | ready code => exact hrecorded.wake hparent code
    | _ => exact hrecorded.put hparent rfl

theorem deliver (he : h.Enlisted parent) (name : String) (payload : Json) :
    (h.deliver name payload).Enlisted parent := by
  have hdelivered : Enlisted parent { h with board := h.board.deliver name payload } := he
  exact lookAll (foldl (fun _ _ => feed) he.inOrder hdelivered)

/-! ### Turns -/

theorem replyTo (he : h.Enlisted parent) (id branch : Nat) (reply : Except Fault Json) :
    (h.replyTo id branch reply).Enlisted parent := by
  unfold Host.replyTo
  split
  · exact he
  · next p hfound =>
    split
    · exact he.ready (he p (List.mem_of_find?_eq_some hfound)).1 _ (List.mem_cons_self ..)
        (List.subset_cons_self ..)
    · exact he

theorem conclude (he : h.Enlisted parent) (ending : Ending α) : (h.conclude s ending).Enlisted parent := by
  have hgone := he.remove s.id
  unfold Host.conclude
  cases ending with
  | result v => exact hgone
  | branch reply =>
    cases s.parent with
    | none => exact hgone
    | some p => exact hgone.replyTo p _ reply
  | detached run => exact hgone

theorem forkBranches (he : h.Enlisted parent) (c : Context) (input : Json) (scope : Scope) (i : Nat)
    (graphs : List String) (hnew : ∀ id, h.fresh ≤ id → parent id = some s.id) :
    (h.forkBranches s c input scope i graphs).1.Enlisted parent := by
  induction graphs generalizing h i with
  | nil => exact he
  | cons graph graphs ih =>
    unfold Host.forkBranches
    dsimp only
    have hcounted : ({ h with fresh := h.fresh + 2 } : Host α).Enlisted parent := he
    refine ih (hcounted.spawn ?_) _ fun id hid => hnew id ?_
    · exact (hnew _ (Nat.le_refl _)).symm
    · exact Nat.le_trans (Nat.le_add_right _ 2) hid

variable {q : Request}
  (hforked : ∀ c graphs input scope, q = .fork c graphs input scope →
    ∀ id, h.fresh ≤ id → parent id = some s.id)
  (hdetached : ∀ c name input scope, q = .detach c name input scope → parent h.fresh = none)
include hforked hdetached

theorem prepares (he : h.Enlisted parent) (hprepares : h.Prepares s q h') : h'.Enlisted parent := by
  cases q with
  | detach c name input scope =>
    obtain rfl := hprepares
    have hcounted (runs : Array RunLog) :
        ({ h with runs := runs, fresh := h.fresh + 1 } : Host α).Enlisted parent := he
    exact (hcounted _).spawn (hdetached c name input scope rfl).symm
  | fork c graphs input scope =>
    obtain rfl := hprepares
    exact he.forkBranches c input scope 0 graphs (hforked c graphs input scope rfl)
  | respond id response =>
    obtain rfl := hprepares
    exact lookAll (h := { h with board := h.board.respond id response }) he
  | stop branches =>
    obtain rfl := hprepares
    exact he.stopBranches branches
  | _ => exact he.of_strands hprepares.strands (by rw [hprepares.queue]; exact List.Subset.refl _)

/-- With a turn, the strand whose turn it is stays in the queue or waits. -/
theorem perform (he : h.Enlisted parent) (hparent : s.parent = parent s.id) (hs : s.id ∈ h.queue)
    (next : q.Answer → Dialogue (Ending α)) : (h.perform s q next).Enlisted parent := by
  obtain ⟨h', hprepares, hresumes⟩ := h.perform_cases s q next
  have he' := he.prepares hforked hdetached hprepares
  rcases hresumes with ⟨branches, code, heq⟩ | ⟨p, hp, heq⟩ <;> rw [heq]
  · exact he'.goOn (s := { s with branches := branches }) hparent (hprepares.lengthens.queue.subset hs) code
  · exact he'.wait hparent hp

end Enlisted

/-! ### Appointments -/

namespace Enlisted

theorem turned {h : Host RunResult} {s : Strand RunResult} (he : h.Enlisted parent) :
    (h.turned s).Enlisted parent := by
  refine he.of_strands rfl fun i hi => ?_
  by_cases hid : i = s.id
  · exact hid ▸ List.mem_cons_self ..
  · exact List.mem_cons_of_mem _ (List.mem_filter.2 ⟨hi, by simpa using hid⟩)

theorem arrive (he : h.Enlisted parent) (hparent : s.parent = parent s.id) :
    (h.arrive s).Enlisted parent := by
  have hturn : Enlisted parent { h with turn := some mainJob } := he
  unfold Host.arrive
  split
  · exact hturn.wake hparent _
  · exact hturn.wake hparent _
  · exact hturn.wake hparent _
  · exact hturn.look hparent
  · exact hturn

theorem giveUp (he : h.Enlisted parent) (value : α) : (h.giveUp value).Enlisted parent := by
  have hall (ids : List Nat) (h' : Host α) (he : h'.Enlisted parent) :
      (ids.foldl Host.remove h').Enlisted parent := by
    induction ids generalizing h' with
    | nil => exact he
    | cons id ids ih => exact ih _ (he.remove id)
  exact ((hall _ h he).cancel rootScope).of_strands rfl fun _ hi => hi

theorem keep {h : Host RunResult} (he : h.Enlisted parent) {t : Nat} {a : Appointment RunResult}
    (hkeeps : h.Keeps t a) : (h.keep a).Enlisted parent := by
  have hturn : Enlisted parent { h with turn := none } := he
  cases a with
  | strand s => exact he.arrive (he s hkeeps).1
  | beat b => exact he.of_strands rfl fun _ hi => hi
  | occurrence o =>
    cases o with
    | signal name payload => exact hturn.deliver name payload
    | cancel => exact hturn.cancel rootScope
  | deadline v => exact he.giveUp v

/-- When it is the turn of no strand, all of them wait. -/
theorem waits {h : Host RunResult} {s : Strand RunResult} (he : h.Enlisted parent) (hidle : h.next? = none)
    (hs : s ∈ h.strands) : s.phase.waits = true := by
  refine Bool.of_not_eq_false fun hready => ?_
  have hqueue := (he s hs).2 hready
  unfold next? at hidle
  simp only [Option.or_eq_none_iff, List.head?_eq_none_iff] at hidle
  obtain ⟨-, -, hnone⟩ := hidle
  -- a strand that is in the queue is one that can run
  have hfound := List.filterMap_eq_nil_iff.1 hnone s.id hqueue
  exact List.find?_eq_none.1 hfound s hs (by simp)

end Enlisted

end Host

end TaskGraph
