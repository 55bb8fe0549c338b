import Mathlib.Data.List.Forall2
import TaskGraph.Proofs.Signals.Expecting
import TaskGraph.Proofs.Signals.Timeline

/-!
# Listeners that are fed

A strand that listens stands for a wait for each of its names (`Phase.waiters`). When a signal comes, a
host feeds the strands that listen, one after the other. `Host.deliver_steps` says that this is one of the
orders of the steps of a delivery and of all these waits: the delivery is announced and wakes them, each
looks at the board and takes what is there or parks again, and the waits of a strand that goes on with a
single payload are dropped. A strand that begins to listen goes through steps of its waits as well
(`Host.listen_steps`). So no strand is left in front of a payload that it waits for, on any host that a
run of a program comes to (`Host.attentive_of_reaches`).
-/

set_option autoImplicit false

namespace TaskGraph

namespace Waiting

/-! ## The waits of one strand -/

/-- An event in which those who take are called otherwise. -/
def Event.relabel (f : Nat → Nat) : Event → Event
  | .delivered name payload => .delivered name payload
  | .taken i name payload => .taken (f i) name payload

/-- Waits for names. -/
def nameWaits (scope : Nat) (stage : Stage) (names : List String) : List Waiter :=
  names.map fun n => ⟨n, scope, stage⟩

/-- A wait for each name. That for a name with a payload has returned with it. -/
def slotWaits (scope : Nat) (stage : Stage) (slots : List (String × Option Json)) : List Waiter :=
  slots.map fun e => ⟨e.1, scope, e.2.elim stage .returned⟩

/-- A wait that is dropped. -/
def Waiter.drop (w : Waiter) : Waiter := { w with stage := .dropped }

/-- Where a wait is at its beginning, or when it was woken and begins anew. -/
inductive Stage.Begins : Stage → Prop where
  | first : Begins .starting
  | anew : Begins (.parked true)

variable {b b' : Board} {cancelled : List Nat} {scope : Nat} {stage : Stage} {before after : List Waiter}
  {names : List String}

theorem Stage.Begins.live (h : stage.Begins) : stage.live = true := by
  cases h <;> rfl

theorem wake_nameWaits (scope : Nat) (names : List String) :
    (nameWaits scope (.parked false) names).map Waiter.wake = nameWaits scope (.parked true) names := by
  unfold nameWaits
  rw [List.map_map]
  rfl

theorem wake_slotWaits (scope : Nat) (slots : List (String × Option Json)) :
    (slotWaits scope (.parked false) slots).map Waiter.wake = slotWaits scope (.parked true) slots := by
  unfold slotWaits
  rw [List.map_map]
  refine List.map_congr_left fun e _ => ?_
  obtain ⟨n, _ | p⟩ := e <;> rfl

theorem slotWaits_blank (scope : Nat) (stage : Stage) (names : List String) :
    slotWaits scope stage (names.map fun n => (n, none)) = nameWaits scope stage names := by
  unfold slotWaits nameWaits
  rw [List.map_map]
  rfl

theorem receipts_slotWaits (scope : Nat) (slots : List (String × Option Json)) :
    (slotWaits scope (.parked false) slots).filterMap Waiter.receipt? = Board.received slots := by
  unfold slotWaits Board.received
  rw [List.filterMap_map]
  refine congrArg (List.filterMap · slots) (funext fun e => ?_)
  obtain ⟨n, _ | p⟩ := e <;> rfl

/-- Once every name has a payload, none of their waits waits any more. -/
theorem live_slotWaits (scope : Nat) (stage : Stage) {slots : List (String × Option Json)}
    {xs : List (String × Json)} (h : Board.filled? slots = some xs) :
    ∀ w ∈ slotWaits scope stage slots, w.stage.live = false := by
  induction slots generalizing xs with
  | nil => exact fun _ hw => (List.not_mem_nil hw).elim
  | cons e slots ih =>
    match e with
    | (n, none) => cases h
    | (n, some p) =>
      obtain ⟨ys, hys, -⟩ := Option.map_eq_some_iff.1 h
      exact List.forall_mem_cons.2 ⟨rfl, ih hys⟩

/-- A wait that was dropped has returned with nothing. -/
theorem receipts_dropped (ws : List Waiter) :
    (ws.map Waiter.drop).filterMap Waiter.receipt? = [] := by
  rw [List.filterMap_map]
  exact List.filterMap_eq_nil_iff.2 fun _ _ => rfl

/-! ### Steps -/

theorem steps_begin {name : String} (h : stage.Begins) :
    Steps (among b cancelled before ⟨name, scope, stage⟩ after) []
      (among b cancelled before ⟨name, scope, .starting⟩ after) := by
  cases h with
  | first => exact .refl
  | anew => exact steps_resume

/-- Waits that may each be moved on without touching the board may all be. -/
theorem steps_each (b : Board) (cancelled : List Nat) (before ws after : List Waiter)
    {g : Waiter → Waiter} (hg : ∀ w ∈ ws, ∀ before after,
      Steps (among b cancelled before w after) [] (among b cancelled before (g w) after)) :
    Steps ⟨b, 0, cancelled, before ++ (ws ++ after)⟩ []
      ⟨b, 0, cancelled, before ++ (ws.map g ++ after)⟩ := by
  induction ws generalizing before with
  | nil => exact .refl
  | cons w ws ih =>
    -- the other waits come behind the first one
    have hrest := ih (before ++ [g w]) fun v hv => hg v (List.mem_cons_of_mem _ hv)
    simp only [List.append_assoc, List.singleton_append] at hrest
    exact (hg w (List.mem_cons_self ..) before (ws ++ after)).trans hrest

/-- Waits begin behind those that are there. -/
theorem steps_arrive (ws : List Waiter) :
    Steps ⟨b, 0, cancelled, ws⟩ [] ⟨b, 0, cancelled, ws ++ nameWaits scope .starting names⟩ := by
  induction names generalizing ws with
  | nil => simpa [nameWaits] using .refl
  | cons n names ih =>
    have hrest := ih (ws ++ [⟨n, scope, .starting⟩])
    rw [List.append_assoc, List.singleton_append] at hrest
    exact (Step.arrive n scope).steps.trans hrest

/-- Waits that begin look at the board one after the other, and take what there is. -/
theorem steps_fill (hstage : stage.Begins) (b : Board) (cancelled : List Nat) (scope : Nat)
    (before after : List Waiter) (slots : List (String × Option Json)) {f : Nat → Nat} {id : Nat}
    (howner : ∀ j < slots.length, f (before.length + j) = id) :
    ∃ es, Steps ⟨b, 0, cancelled, before ++ (slotWaits scope stage slots ++ after)⟩ es
        ⟨(b.fill slots).2.2, 0, cancelled,
          before ++ (slotWaits scope (.parked false) (b.fill slots).1 ++ after)⟩ ∧
      es.map (Event.relabel f) = takings id (b.fillings slots) := by
  induction slots generalizing b before with
  | nil => exact ⟨[], .refl, rfl⟩
  | cons e slots ih =>
    have hrest (b : Board) (w : Waiter) := ih b (before ++ [w]) fun j hj => by
      have h := howner (j + 1) (by simpa using hj)
      rwa [List.length_append, List.length_singleton, Nat.add_right_comm, Nat.add_assoc]
    simp only [List.append_assoc, List.singleton_append] at hrest
    match e with
    | (n, some p) => exact hrest b ⟨n, scope, .returned p⟩
    | (n, none) =>
      rw [Board.fill, Board.fillings]
      cases htake : b.take? n with
      | none =>
        obtain ⟨es, hsteps, hes⟩ := hrest b ⟨n, scope, .parked false⟩
        exact ⟨es, ((steps_begin hstage).trans (steps_park htake)).trans hsteps, hes⟩
      | some taken =>
        obtain ⟨p, b'⟩ := taken
        obtain ⟨es, hsteps, hes⟩ := hrest b' ⟨n, scope, .returned p⟩
        refine ⟨_, ((steps_begin hstage).trans (steps_take htake)).trans hsteps, ?_⟩
        have hfirst : f before.length = id := howner 0 (by simp)
        simp only [List.nil_append, List.singleton_append, List.map_cons, Event.relabel, hes, hfirst]
        rfl

/-- Waits that find nothing park. -/
theorem steps_parks (hstage : stage.Begins) (before after : List Waiter)
    (empty : b.takeFirst? names = none) :
    Steps ⟨b, 0, cancelled, before ++ (nameWaits scope stage names ++ after)⟩ []
      ⟨b, 0, cancelled, before ++ (nameWaits scope (.parked false) names ++ after)⟩ := by
  have hempty := Board.find?_first b names
  rw [empty] at hempty
  have hparks := steps_each b cancelled before (nameWaits scope stage names) after
    (g := fun w => { w with stage := .parked false }) fun w hw before after => by
      obtain ⟨n, hn, rfl⟩ := List.mem_map.1 hw
      have hqueue : b.queue n = [] := by simpa using List.find?_eq_none.1 hempty n hn
      exact (steps_begin hstage).trans (steps_park (Board.take?_eq_none.2 hqueue))
  rwa [nameWaits, List.map_map] at hparks

/-- The first of some waits that finds a payload takes it, and the others are dropped. -/
theorem steps_first (cancelled : List Nat) (scope : Nat) (hstage : stage.Begins)
    (before after : List Waiter) {n : String} {p : Json} (found : b.takeFirst? names = some ((n, p), b')) :
    ∃ k ws, Steps ⟨b, 0, cancelled, before ++ (nameWaits scope stage names ++ after)⟩
        [.taken (before.length + k) n p] ⟨b', 0, cancelled, before ++ (ws ++ after)⟩ ∧
      k < names.length ∧ ws.length = names.length ∧ ws.filterMap Waiter.receipt? = [(n, p)] ∧
      ∀ w ∈ ws, w.stage.live = false := by
  induction names generalizing before with
  | nil => cases found
  | cons m names ih =>
    rw [Board.takeFirst?] at found
    cases htake : b.take? m with
    | some taken =>
      simp only [htake, Option.some.injEq, Prod.mk.injEq] at found
      obtain ⟨⟨rfl, rfl⟩, rfl⟩ := found
      -- the waits behind it are dropped where they are
      have hdropped := steps_each taken.2 cancelled (before ++ [⟨m, scope, .returned taken.1⟩])
        (nameWaits scope stage names) after (g := Waiter.drop) fun w hw _ _ => steps_drop <| by
          obtain ⟨n, -, rfl⟩ := List.mem_map.1 hw
          exact hstage.live
      simp only [List.append_assoc, List.singleton_append] at hdropped
      refine ⟨0, ⟨m, scope, .returned taken.1⟩ :: (nameWaits scope stage names).map Waiter.drop,
        ((steps_begin hstage).trans (steps_take htake)).trans hdropped, Nat.succ_pos _,
        by simp [nameWaits], ?_, ?_⟩
      · exact congrArg ((m, taken.1) :: ·) (receipts_dropped _)
      · simp [nameWaits, Waiter.drop, Stage.live]
    | none =>
      obtain ⟨k, ws, hsteps, hk, hlength, hreceipts, hended⟩ :=
        ih (before ++ [⟨m, scope, .parked false⟩]) (by simpa [htake] using found)
      simp only [List.append_assoc, List.singleton_append, List.length_append,
        List.length_singleton] at hsteps
      -- the wait in front of it is parked by then, and is dropped there
      have hdropped : Steps ⟨b', 0, cancelled, before ++ (⟨m, scope, .parked false⟩ :: (ws ++ after))⟩ []
          ⟨b', 0, cancelled, before ++ (⟨m, scope, .dropped⟩ :: (ws ++ after))⟩ := steps_drop rfl
      have hall := (((steps_begin hstage).trans (steps_park htake)).trans hsteps).trans hdropped
      rw [List.append_nil, List.nil_append, List.nil_append, Nat.add_assoc, Nat.add_comm 1 k] at hall
      refine ⟨k + 1, ⟨m, scope, .dropped⟩ :: ws, hall, Nat.succ_lt_succ hk, congrArg Nat.succ hlength,
        hreceipts, ?_⟩
      exact List.forall_mem_cons.2 ⟨rfl, hended⟩

end Waiting

open Waiting

variable {α : Type}

/-! ## Strands that listen -/

/-- The waits of a strand that listens, one for each of its names. While it listens for all of them, those
that it has received have returned. -/
def Phase.waiters : Phase α → List Waiter
  | .listening c .all slots _ => slotWaits (c.scopes.headD Host.rootScope) (.parked false) slots
  | .listening c _ slots _ =>
    nameWaits (c.scopes.headD Host.rootScope) (.parked false) (slots.map Prod.fst)
  | _ => []

/-- What becomes of a strand that is fed, and of its waits. -/
inductive Phase.Fed : Phase α → Phase α → List Waiter → Prop where
  /-- It listens on, and they are its waits. -/
  | listens {c : Context} {mode : ListenMode} {slots slots' : List (String × Option Json)}
      {next : Except Fault (List (String × Json)) → Dialogue (Ending α)} :
      Fed (.listening c mode slots next) (.listening c mode slots' next)
        (Phase.listening c mode slots' next).waiters
  /-- It goes on with what they have returned with, and none of them waits any more. -/
  | answered {c : Context} {mode : ListenMode} {slots : List (String × Option Json)}
      {next : Except Fault (List (String × Json)) → Dialogue (Ending α)} {ws : List Waiter}
      (ended : ∀ w ∈ ws, w.stage.live = false) :
      Fed (.listening c mode slots next) (.ready (next (.ok (ws.filterMap Waiter.receipt?)))) ws
  /-- It did not listen, and does not begin to. -/
  | apart {p p' : Phase α} (before : p.waiters = []) (after : p'.waiters = []) : Fed p p' []

/-- A strand that looks after detached graphs has no waits, and may go on as one that has none. -/
theorem Phase.Fed.of_settling {p p' : Phase α} {c : Context} {due : Nat}
    {next : Except Fault Unit → Dialogue (Ending α)} {ws : List Waiter}
    (hfed : p.Fed (.settling c due next) ws) (hp' : p'.waiters = []) : p.Fed p' ws := by
  cases hfed with
  | apart before => exact .apart before hp'

/-- A strand that has waits after it was fed has those that its waits have come to. -/
theorem Phase.Fed.mem_of_waiters {p p' : Phase α} {ws : List Waiter} (hfed : p.Fed p' ws) {w : Waiter}
    (hw : w ∈ p'.waiters) : w ∈ ws := by
  cases hfed with
  | listens => exact hw
  | answered => exact (List.not_mem_nil hw).elim
  | apart _ after => exact (List.not_mem_nil (after ▸ hw)).elim

/-- A strand that is fed goes through steps of its waits, once the delivery has woken them. -/
theorem Phase.steps_receive {b b' : Board} {p p' : Phase α} {c : Context} {taken : List String}
    (hreceive : Host.receive b p = some (c, taken, b', p')) (cancelled : List Nat)
    (before after : List Waiter) {f : Nat → Nat} {id : Nat}
    (howner : ∀ j < p.waiters.length, f (before.length + j) = id) :
    ∃ es ws, Steps ⟨b, 0, cancelled, before ++ (p.waiters.map Waiter.wake ++ after)⟩ es
        ⟨b', 0, cancelled, before ++ (ws ++ after)⟩ ∧
      es.map (Event.relabel f) = takings id (p.takes b) ∧ ws.length = p.waiters.length ∧
      p.Fed p' ws := by
  cases p with
  | listening context mode slots next =>
    cases mode with
    | all =>
      simp only [waiters] at howner ⊢
      rw [wake_slotWaits]
      obtain ⟨es, hsteps, hes⟩ := steps_fill .anew b cancelled (context.scopes.headD Host.rootScope)
        before after slots (by simpa [slotWaits] using howner)
      have hlength (scope : Nat) : (slotWaits scope (.parked false) (b.fill slots).1).length =
          (slotWaits (context.scopes.headD Host.rootScope) (.parked false) slots).length := by
        simpa [slotWaits] using congrArg List.length (Board.fill_names b slots)
      simp only [Host.receive] at hreceive
      split at hreceive <;> cases hreceive
      · next xs hxs =>
        refine ⟨es, _, hsteps, hes, hlength _, ?_⟩
        rw [(Board.eq_received_of_filled? hxs).1,
          ← receipts_slotWaits (c.scopes.headD Host.rootScope)]
        exact .answered (live_slotWaits _ _ hxs)
      · exact ⟨es, _, hsteps, hes, hlength _, .listens⟩
    | one | any =>
      simp only [waiters] at howner ⊢
      rw [wake_nameWaits]
      cases hfirst : b.takeFirst? (slots.map Prod.fst) with
      | none =>
        simp only [Host.receive, hfirst] at hreceive
        cases hreceive
        refine ⟨[], _, steps_parks .anew before after hfirst, ?_, rfl, .listens⟩
        simp [takes, Board.gather, Board.first, hfirst, takings]
      | some found =>
        obtain ⟨⟨n, x⟩, b₁⟩ := found
        simp only [Host.receive, hfirst] at hreceive
        cases hreceive
        obtain ⟨k, ws, hsteps, hk, hlength, hreceipts, hended⟩ := steps_first _ _ .anew before after hfirst
        refine ⟨_, ws, hsteps, ?_, by simpa [nameWaits] using hlength, ?_⟩
        · simp [takes, Board.gather, Board.first, hfirst, takings, Event.relabel,
            howner k (by simpa [nameWaits] using hk)]
        · rw [← hreceipts]
          exact .answered hended
  | _ => cases hreceive

/-- A strand that is not fed has no waits. -/
theorem Phase.idle_of_receive {b : Board} {p : Phase α} (hreceive : Host.receive b p = none) :
    p.waiters = [] ∧ p.takes b = [] := by
  cases p with
  | listening c mode slots next =>
    exfalso
    cases mode <;> simp only [Host.receive] at hreceive <;> split at hreceive <;> cases hreceive
  | _ => exact ⟨rfl, rfl⟩

/-! ## Hosts that are given signals -/

namespace Host

/-- The board of a host and the waits of its strands, in the order in which they are fed. -/
def waiting (h : Host α) : Waiting.State :=
  ⟨h.board, 0, h.cancelled, h.inOrder.flatMap fun s => s.phase.waiters⟩

/-- The strands that waits belong to. -/
def owners (ss : List (Strand α)) : List Nat := ss.flatMap fun s => s.phase.waiters.map fun _ => s.id

/-- The strand that each of the waits belongs to. -/
def owner (h : Host α) (i : Nat) : Nat := ((owners h.inOrder)[i]?).getD 0

section

variable {h : Host α} {f : Nat → Nat}

/-- A strand that is fed goes through steps of its waits, and the other waits stay as they are. -/
theorem steps_feed {s : Strand α} (hs : h.Every fun i _ p => i = s.id → p = s.phase)
    (before after : List Waiter) (howner : ∀ j < s.phase.waiters.length, f (before.length + j) = s.id) :
    ∃ es ws, Steps ⟨h.board, 0, h.cancelled, before ++ (s.phase.waiters.map Waiter.wake ++ after)⟩ es
        ⟨(h.feed s).board, 0, h.cancelled, before ++ (ws ++ after)⟩ ∧
      es.map (Event.relabel f) = takings s.id (s.phase.takes h.board) ∧
      ws.length = s.phase.waiters.length ∧
      (h.feed s).Every fun i _ p => i = s.id → s.phase.Fed p ws := by
  rw [board_feed]
  cases hreceive : receive h.board s.phase with
  | none =>
    obtain ⟨hwaiters, htakes⟩ := Phase.idle_of_receive hreceive
    rw [hwaiters, htakes]
    refine ⟨[], [], .refl, rfl, rfl, every_feed (fun _ _ hne heq => absurd heq hne) (fun _ => ?_) ?_⟩
    · exact hs.mono fun _ _ p hp hi => .apart hwaiters ((hp hi).symm ▸ hwaiters)
    · exact fun _ _ _ _ hsome => nomatch hreceive.symm.trans hsome
  | some r =>
    obtain ⟨c, taken, b, p⟩ := r
    obtain ⟨es, ws, hsteps, hes, hlength, hfed⟩ :=
      Phase.steps_receive hreceive h.cancelled before after howner
    refine ⟨es, ws, hsteps, hes, hlength, every_feed (fun _ _ hne heq => absurd heq hne) ?_ ?_⟩
    · exact fun hnone => nomatch hreceive.symm.trans hnone
    · intro _ _ _ _ hsome _
      cases hreceive.symm.trans hsome
      exact hfed

/-- Strands that are fed one after the other go through steps of all their waits. -/
theorem steps_feedAll {ss : List (Strand α)} (hnodup : (ss.map Strand.id).Nodup)
    (hss : ∀ s ∈ ss, h.Every fun i _ p => i = s.id → p = s.phase) (before : List Waiter)
    (howner : ∀ j id, (owners ss)[j]? = some id → f (before.length + j) = id) :
    ∃ es wss, Steps
        ⟨h.board, 0, h.cancelled, before ++ (ss.flatMap fun s => s.phase.waiters).map Waiter.wake⟩ es
        ⟨(ss.foldl feed h).board, 0, h.cancelled, before ++ wss.flatten⟩ ∧
      es.map (Event.relabel f) = h.feedEvents ss ∧
      List.Forall₂ (fun s ws => (ss.foldl feed h).Every fun i _ p => i = s.id → s.phase.Fed p ws)
        ss wss := by
  induction ss generalizing h before with
  | nil => exact ⟨[], [], .refl, rfl, .nil⟩
  | cons s ss ih =>
    obtain ⟨hfresh, hnodup⟩ := List.nodup_cons.1 hnodup
    have hother {t : Strand α} (ht : t ∈ ss) : s.id ≠ t.id := fun heq => hfresh <| by
      rw [heq]
      exact List.mem_map_of_mem ht
    -- the waits of the first strand come first, and the others follow them
    have howners : owners (s :: ss) = s.phase.waiters.map (fun _ => s.id) ++ owners ss := rfl
    obtain ⟨es, ws, hsteps, hes, hlength, hfed⟩ := steps_feed (hss s (List.mem_cons_self ..)) before
      ((ss.flatMap fun s => s.phase.waiters).map Waiter.wake) (f := f) fun j hj => howner j s.id <| by
        rw [howners, List.getElem?_append_left (by simpa using hj)]
        simp [hj]
    obtain ⟨es', wss, hsteps', hes', hfed'⟩ := ih (h := h.feed s) hnodup
      (fun t ht => Every.feed_other (hss t (List.mem_cons_of_mem _ ht)) (hother ht)) (before ++ ws)
      fun j id hj => by
        rw [List.length_append, Nat.add_assoc]
        refine howner _ id ?_
        rw [howners, List.getElem?_append_right (by simp [hlength])]
        simpa [hlength] using hj
    rw [List.foldl_cons, List.flatMap_cons, List.map_append]
    refine ⟨es ++ es', ws :: wss, hsteps.trans ?_, ?_, .cons ?_ hfed'⟩
    · rw [cancelled_feed, List.append_assoc, List.append_assoc] at hsteps'
      exact hsteps'
    · rw [List.map_append, hes, hes', feedEvents]
    · exact Every.foldl hfed ss fun _ ht t hmem => Every.feed_other ht (hother hmem).symm

end

/-- A host that delivers a signal goes through steps of the delivery and of the waits of its strands, one
after the other, in which the strands take what they are said to take. Each strand listens on or goes on
as its waits come to. -/
theorem deliver_steps (h : Host α) (hn : h.ids.Nodup) (name : String) (payload : Json) :
    ∃ es wss, Steps h.waiting es
        { h.waiting with board := (h.deliver name payload).board, waiters := wss.flatten } ∧
      es.map (Event.relabel h.owner) = .delivered name payload ::
        ({ h with board := h.board.deliver name payload } : Host α).feedEvents h.inOrder ∧
      List.Forall₂ (fun s ws => (h.deliver name payload).Every fun i _ p =>
        i = s.id → s.phase.Fed p ws) h.inOrder wss := by
  let delivered : Host α := { h with board := h.board.deliver name payload }
  obtain ⟨es, wss, hsteps, hes, hfed⟩ := steps_feedAll (h := delivered) (Awake.nodup_inOrder hn)
    (fun s hs t ht hid => congrArg Strand.phase (Awake.eq_of_id hn ht (mem_inOrder.1 hs) hid)) []
    (f := h.owner) fun j id hj => by
      unfold owner
      rw [List.length_nil, Nat.zero_add, hj]
      rfl
  refine ⟨.delivered name payload :: es, wss, (steps_deliver _ name payload).trans ?_, ?_, ?_⟩
  · show Steps _ es ⟨(h.inOrder.foldl feed delivered).lookAll.board, 0, _, _⟩
    rw [board_lookAll]
    exact hsteps
  · exact congrArg (Waiting.Event.delivered name payload :: ·) hes
  · refine hfed.imp fun s ws hs => Every.lookAll (fun i _ c due next hp => ?_) hs
    exact ⟨fun _ hi => (hp hi).of_settling rfl, fun _ hi => (hp hi).of_settling rfl⟩

/-! ## Strands that begin to listen -/

theorem length_polled_le (h : Host α) (c : Context) (names : List String) :
    (h.polled c names).length ≤ names.length := by
  unfold polled
  split
  · exact List.length_take_le' ..
  · exact Nat.le_refl _

/-- A strand that begins to listen goes through steps of its waits, behind any that are there. It takes
what it is said to take, and then these are its waits, or it has none. -/
theorem listen_steps (h : Host α) (s : Strand α) (c : Context) (mode : ListenMode) (names : List String)
    (next : Except Fault (List (String × Json)) → Dialogue (Ending α)) (before : List Waiter)
    {f : Nat → Nat} (howner : ∀ j < names.length, f (before.length + j) = s.id) :
    ∃ es ws, Steps ⟨h.board, 0, h.cancelled, before⟩ es
        ⟨(h.perform s (.listen c mode names) next).board, 0, h.cancelled, before ++ ws⟩ ∧
      es.map (Event.relabel f) = takings s.id (h.requestTakes (.listen c mode names)) ∧
      (h.perform s (.listen c mode names) next).Every fun i _ p =>
        i = s.id → p.waiters = [] ∨ p.waiters = ws := by
  have hvoid (h' : Host α) (P : Phase α → Prop) : h'.Every fun i _ p => i ≠ s.id → i = s.id → P p :=
    fun _ _ hne heq => absurd heq hne
  have harrive (names : List String) : Steps ⟨h.board, 0, h.cancelled, before⟩ []
      ⟨h.board, 0, h.cancelled, before ++ (nameWaits (c.scopes.headD rootScope) .starting names ++ [])⟩ := by
    rw [List.append_nil]
    exact steps_arrive before
  have hany (hwaiters : (Phase.listening c mode (names.map fun n => (n, none)) next).waiters =
      nameWaits (c.scopes.headD rootScope) (.parked false) names) : ∃ es ws,
      Steps ⟨h.board, 0, h.cancelled, before⟩ es
        ⟨(h.listenAny s c mode next names names).board, 0, h.cancelled, before ++ ws⟩ ∧
      es.map (Event.relabel f) = takings s.id (h.board.first (h.polled c names)) ∧
      (h.listenAny s c mode next names names).Every fun i _ p =>
        i = s.id → p.waiters = [] ∨ p.waiters = ws := by
    obtain ⟨h', -, -, hcases⟩ := h.listenAny_cases s c mode next names names
    rw [board_listenAny]
    unfold Board.first
    rcases hcases with ⟨x, b, hfound, heq⟩ | ⟨hnone, ⟨n, -, heq⟩ | ⟨hempty, heq⟩⟩ <;> rw [heq]
    · rw [hfound]
      obtain ⟨k, ws, hsteps, hk, -⟩ := steps_first h.cancelled (c.scopes.headD rootScope) .first
        before [] hfound
      have hall := (harrive _).trans hsteps
      have hfirst := howner k (Nat.lt_of_lt_of_le hk (h.length_polled_le c names))
      rw [List.append_nil] at hall
      refine ⟨_, ws, hall, ?_, Every.goOn (hvoid h' _) fun _ => .inl rfl⟩
      simp [Event.relabel, hfirst, takings]
    · rw [hnone]
      refine ⟨[], [], ?_, rfl, Every.goOn (hvoid h' _) fun _ => .inl rfl⟩
      rw [List.append_nil]
      exact .refl
    · rw [hnone]
      have hall := (harrive names).trans (steps_parks .first before [] hempty)
      simp only [List.append_nil] at hall
      exact ⟨_, _, hall, rfl, Every.wait (hvoid h' _) fun _ => .inr hwaiters⟩
  have hblank : (names.map fun n => (n, (none : Option Json))).map Prod.fst = names := by
    rw [List.map_map]
    exact List.map_id names
  cases mode with
  | one => exact hany (congrArg _ hblank)
  | any => exact hany (congrArg _ hblank)
  | all =>
    obtain ⟨h', slots, -, -, rfl, hcases⟩ := h.listenAll_cases s c next names
    have howners : ∀ j < (names.map fun n => (n, (none : Option Json))).length,
        f (before.length + j) = s.id := by
      simpa using howner
    obtain ⟨es, hsteps, hes⟩ := steps_fill .first h.board h.cancelled (c.scopes.headD rootScope) before []
      _ howners
    rw [slotWaits_blank] at hsteps
    have hall := (harrive names).trans hsteps
    rw [List.append_nil, ← board_listenAll h s c next names] at hall
    refine ⟨_, _, hall, hes, ?_⟩
    show (h.listenAll s c next names).Every _
    rcases hcases with ⟨_, -, heq⟩ | ⟨-, heq | heq⟩ <;> rw [heq]
    · exact Every.goOn (hvoid h' _) fun _ => .inl rfl
    · exact Every.goOn (hvoid h' _) fun _ => .inl rfl
    · exact Every.wait (hvoid h' _) fun _ => .inr rfl

end Host

/-! ## Attentive strands -/

/-- Whether no wait of a strand is parked, with nothing to wake it, in front of a payload. -/
def Phase.Rests (b : Board) (p : Phase α) : Prop :=
  ∀ w ∈ p.waiters, w.stage = .parked false → b.queue w.name = []

theorem Phase.Rests.of_idle {b : Board} {p : Phase α} (hp : p.waiters = []) : p.Rests b :=
  fun _ hw => (List.not_mem_nil (hp ▸ hw)).elim

namespace Host

/-- Whether no strand is left in front of a payload that it waits for. -/
def Attentive (h : Host α) : Prop := h.Every fun _ _ p => p.Rests h.board

theorem attentive_iff_alert {h : Host α} : h.Attentive ↔ h.waiting.Alert := by
  constructor
  · intro ha w hw hparked _
    obtain ⟨s, hs, hws⟩ := List.mem_flatMap.1 hw
    exact ha s (mem_inOrder.1 hs) w hws hparked
  · intro ha s hs w hw hparked
    exact ha w (List.mem_flatMap.2 ⟨s, mem_inOrder.2 hs, hw⟩) hparked rfl

section

variable {h : Host α} {s : Strand α} {P : Nat → Nat → Phase α → Prop}

/-- A turn is right for the phases of all if phases without waits are, and the strand whose turn it is may
be in any phase or does not begin to listen. -/
theorem every_turn (hidle : ∀ i j p, p.waiters = [] → P i j p) (ht : h.Every fun i j p => i ≠ s.id → P i j p)
    (q : Request) (hself : (∀ p, P s.id s.job p) ∨ ∀ c mode names, q ≠ .listen c mode names)
    (next : q.Answer → Dialogue (Ending α)) : (h.perform s q next).Every P := by
  refine every_serve (e := h.setting) (E := Running.Any) (fun _ _ => trivial) ht rfl
    ⟨fun _ _ _ _ => Running.result_any _, fun _ _ _ _ => Running.result_any _⟩
    (fun _ _ _ _ _ _ _ => ⟨fun _ => hidle _ _ _ rfl, fun _ => hidle _ _ _ rfl⟩)
    (fun _ _ _ _ _ _ _ _ _ => hidle _ _ _ rfl) (fun _ _ _ _ _ _ _ _ _ _ => hidle _ _ _ rfl)
    (fun _ _ _ _ _ => hidle _ _ _ rfl) ?_
  cases q with
  | listen c mode names =>
    rcases hself with hself | hq
    · exact ⟨fun _ _ => hself _, fun _ => hself _⟩
    · exact absurd rfl (hq c mode names)
  | settle => exact ⟨fun _ => hidle _ _ _ rfl, fun _ => hidle _ _ _ rfl⟩
  | pause => exact ⟨fun _ => hidle _ _ _ rfl, hidle _ _ _ rfl, fun _ => hidle _ _ _ rfl⟩
  | dispatch => exact fun _ _ => ⟨hidle _ _ _ rfl, fun _ => hidle _ _ _ rfl⟩
  | offer =>
    exact ⟨hidle _ _ _ rfl, fun _ _ => ⟨hidle _ _ _ rfl, fun _ => hidle _ _ _ rfl, hidle _ _ _ rfl⟩⟩
  | fresh | enter | reply => exact hidle _ _ _ rfl
  | _ => exact fun _ _ => hidle _ _ _ rfl

end

namespace Attentive

section

variable {h h' : Host α} {s : Strand α}

/-- What matters is which queues are empty. -/
theorem of_every (he : h'.Every fun _ _ p => p.Rests h.board) (heq : h'.board.queues = h.board.queues) :
    h'.Attentive := by
  intro t ht w hw hparked
  unfold Board.queue
  rw [heq]
  exact he t ht w hw hparked

theorem looked (b : Board) (c : Context) (next : Except Fault Unit → Dialogue (Ending α)) :
    (h.inFlight c.run = 0 → (Phase.ready (next (.ok ()))).Rests b) ∧
      ∀ due, (Phase.settling c due next).Rests b :=
  ⟨fun _ => .of_idle rfl, fun _ => .of_idle rfl⟩

/-- A signal wakes the strands that wait for it, and none of them parks again beside a payload. -/
theorem deliver (ha : h.Attentive) (hn : h.ids.Nodup) (name : String) (payload : Json) :
    (h.deliver name payload).Attentive := by
  obtain ⟨es, wss, hsteps, -, hfed⟩ := h.deliver_steps hn name payload
  have halert := hsteps.alert (attentive_iff_alert.1 ha)
  intro t ht w hw hparked
  refine halert w ?_ hparked rfl
  obtain ⟨s, hs, hid⟩ := mem_ids.1 (ids_deliver h name payload ▸ mem_ids.2 ⟨t, ht, rfl⟩)
  obtain ⟨i, hi, rfl⟩ := List.getElem_of_mem (mem_inOrder.2 hs)
  obtain ⟨hlength, hget⟩ := List.forall₂_iff_get.1 hfed
  exact List.mem_flatten.2 ⟨_, List.get_mem .., (hget i hi (hlength ▸ hi) t ht hid.symm).mem_of_waiters hw⟩

theorem cancel (ha : h.Attentive) (scope : Nat) : (h.cancel scope).Attentive := by
  refine of_every (h := h) ?_ (congrArg _ (board_cancel h scope))
  exact Every.cancels ha scope (fun _ _ _ _ _ _ _ _ => .of_idle rfl) fun _ _ _ hp _ => hp

/-- A strand that begins to listen takes what there is before it waits. -/
theorem listen (ha : h.Attentive) (s : Strand α) (c : Context) (mode : ListenMode) (names : List String)
    (next : Except Fault (List (String × Json)) → Dialogue (Ending α)) :
    (h.perform s (.listen c mode names) next).Attentive := by
  obtain ⟨es, ws, hsteps, -, hself⟩ := h.listen_steps s c mode names next h.waiting.waiters
    (f := fun _ => s.id) fun _ _ => rfl
  have halert := hsteps.alert (attentive_iff_alert.1 ha)
  -- the waits of the other strands are those that were there
  have hothers : (h.perform s (.listen c mode names) next).Every fun i _ p =>
      i ≠ s.id → ∀ w ∈ p.waiters, w ∈ h.waiting.waiters := by
    have hthere : h.Every fun i _ p => i ≠ s.id → i ≠ s.id → ∀ w ∈ p.waiters, w ∈ h.waiting.waiters :=
      fun t ht _ _ w hw => List.mem_flatMap.2 ⟨t, mem_inOrder.2 ht, hw⟩
    exact every_turn (fun _ _ p hp _ w hw => (List.not_mem_nil (hp ▸ hw)).elim) hthere
      (.listen c mode names) (.inl fun _ hne => absurd rfl hne) next
  intro t ht w hw hparked
  refine halert w ?_ hparked rfl
  by_cases hid : t.id = s.id
  · rcases hself t ht hid with hidle | hwaits
    · exact (List.not_mem_nil (hidle ▸ hw)).elim
    · exact List.mem_append_right _ (hwaits ▸ hw)
  · exact List.mem_append_left _ (hothers t ht hid w hw)

theorem perform (ha : h.Attentive) (s : Strand α) (q : Request) (next : q.Answer → Dialogue (Ending α)) :
    (h.perform s q next).Attentive := by
  by_cases hlisten : ∃ c mode names, q = .listen c mode names
  · obtain ⟨c, mode, names, rfl⟩ := hlisten
    exact ha.listen s c mode names next
  · have hq (c : Context) (mode : ListenMode) (names : List String) : q ≠ .listen c mode names :=
      fun heq => hlisten ⟨c, mode, names, heq⟩
    refine of_every ?_ (queues_perform h s q hq next)
    exact every_turn (fun _ _ _ => .of_idle) (ha.mono fun _ _ _ hp _ => hp) q (.inr hq) next

end

section

variable {h h' : Host RunResult} {s : Strand RunResult}

theorem stepStrand (ha : h.Attentive) (s : Strand RunResult) : (h.stepStrand s).Attentive := by
  have hturned : (h.turned s).Attentive := ha
  unfold Host.stepStrand
  split
  · next ending _ =>
    refine of_every (h := h.turned s) ?_ (congrArg _ (board_conclude ..))
    exact every_conclude (fun _ _ _ _ _ _ _ => .of_idle rfl) (hturned.mono fun _ _ _ hp _ => hp)
  · next q next _ => exact hturned.perform s q next
  · exact Every.remove (hturned.mono fun _ _ _ hp _ => hp)

theorem keep (ha : h.Attentive) (hn : h.ids.Nodup) {n : Nat} {a : Appointment RunResult}
    (hkeeps : h.Keeps n a) : (h.keep a).Attentive := by
  have hturn : ({ h with turn := none } : Host RunResult).Attentive := ha
  cases a with
  | strand s =>
    refine of_every (h := h) ?_ (congrArg _ (board_arrive h s))
    exact Every.arrive (fun _ _ _ _ _ => .of_idle rfl) (fun _ _ _ _ _ _ => .of_idle rfl)
      (fun _ _ _ _ _ _ _ _ => .of_idle rfl) (fun _ _ c _ next _ => looked h.board c next) ha (ha s hkeeps)
  | beat b => exact ha
  | occurrence o =>
    cases o with
    | signal name payload => exact hturn.deliver hn name payload
    | cancel => exact hturn.cancel rootScope
  | deadline v =>
    refine of_every (h := h) ?_ (congrArg _ (board_giveUp h v))
    exact Every.giveUp v (fun _ _ _ _ _ _ _ _ => .of_idle rfl) fun s hs _ => ha s hs

theorem moves (ha : h.Attentive) (hn : h.ids.Nodup) {who : Option (Strand RunResult)}
    (hmoves : h.Moves who h') : h'.Attentive := by
  cases hmoves with
  | turn => exact ha.stepStrand _
  | @keep t a hmem =>
    have hstruck : ({ h with now := max h.now t }.strike t a).Attentive :=
      of_every (h := h) (Every.of_strands ha (strands_strike { h with now := max h.now t } t a))
        (congrArg _ (board_strike { h with now := max h.now t } t a))
    exact hstruck.keep (ids_strike { h with now := max h.now t } t a ▸ hn) (keeps_strike hmem)
  | occur o => exact ha.keep (n := 0) hn trivial
  | suggest | unlimited => exact ha

end

end Attentive

/-- On no host that a run of a program comes to is a strand left in front of a payload that it waits for,
whenever signals come. -/
theorem attentive_of_reaches {setting : Setting} {around : Surroundings} {input : Json} {env : Members}
    {h : Host RunResult} (hh : Reaches setting around input env h) : h.Attentive := by
  induction hh with
  | start wrapper signals at? workflow limit =>
    have hstart : (start setting around wrapper (programRun setting.program input env).run).Attentive := by
      intro s hs
      rw [List.mem_singleton.1 hs]
      exact .of_idle rfl
    have hids : (start setting around wrapper (programRun setting.program input env).run).ids.Nodup :=
      List.pairwise_singleton ..
    have hsignals := withSignals_of (P := fun h : Host RunResult => h.ids.Nodup ∧ h.Attentive)
      (fun h name payload hh => ⟨ids_deliver h name payload ▸ hh.1, hh.2.deliver hh.1 name payload⟩)
      (fun _ _ hh => hh) ⟨hids, hstart⟩ signals
    have hcancelled := withCancellation_of (fun hh => Attentive.cancel hh rootScope) (fun _ hh => hh)
      hsignals.2 at?
    cases limit with
    | none => exact hcancelled
    | some d => exact hcancelled
  | advance hh horizon hstep ih => exact ih.moves hh.numbered.nodup (moves_of_advance hstep)
  | suggest | unlimited => assumption

end Host

end TaskGraph
